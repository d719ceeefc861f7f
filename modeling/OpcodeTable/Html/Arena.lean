import OpcodeTable.Html.Document

/-!
# Html/Arena — a page while it is being built

Building a page moves nodes about, so the nodes are numbered, and linked to their neighbours by their
numbers, until the page is complete.  Siblings form a chain, of which the parent knows the two ends.
Only at the end the arena becomes a document: walks along the links find what each element holds,
and the numbers, which tell in what order the elements were opened, put them in their order.
-/

namespace OpcodeTable.Html

/-- What a node is. -/
inductive Content where
  | document
  | text (content : String)
  | comment (content : String)
  | element (element : Element)
  | fragment
  deriving Repr

/-- The elements around what a node holds, given those around the node.  What a fragment holds
stands below nothing. -/
def Content.within (around : List Element) : Content → List Element
  | .element e => e :: around
  | .document | .text _ | .comment _ | .fragment => []

/-- A node with what it holds, and then its later siblings. -/
def Content.forest (content next : Forest) : Content → Forest
  | .document => content
  | .text t => .text t next
  | .comment t => .comment t next
  | .element e => .element e content next
  | .fragment => .fragment content next

/-- **A node** of a growing page: what it is, the nodes next to it, and the two ends of the chain of
its children. -/
structure Node where
  content : Content
  parent : Option Nat := none
  previous : Option Nat := none
  next : Option Nat := none
  ends : Option (Nat × Nat) := none
  deriving Repr

/-- **The nodes of a growing page**, numbered as they are made; the document itself has number
zero. -/
structure Arena where
  nodes : Array Node
  deriving Repr

namespace Arena

/-- The page with nothing in it. -/
def empty : Arena := ⟨#[{ content := .document }]⟩

/-- The number of the document. -/
def document : Nat := 0

/-- The parent of a node. -/
def parent? (arena : Arena) (id : Nat) : Option Nat := (arena.nodes[id]?).bind (·.parent)

/-- The sibling right before a node. -/
def previous? (arena : Arena) (id : Nat) : Option Nat := (arena.nodes[id]?).bind (·.previous)

/-- The two ends of the chain of a node's children. -/
def ends? (arena : Arena) (id : Nat) : Option (Nat × Nat) := (arena.nodes[id]?).bind (·.ends)

/-- Change a node. -/
def modify (arena : Arena) (id : Nat) (change : Node → Node) : Arena :=
  ⟨arena.nodes.modify id change⟩

/-- Change a node, if there is one. -/
def modifyAny (arena : Arena) (id : Option Nat) (change : Node → Node) : Arena :=
  match id with
  | some id => arena.modify id change
  | none => arena

/-- Make a node that stands nowhere yet; its number is the count of nodes made before. -/
def make (arena : Arena) (content : Content) : Arena × Nat :=
  let id := arena.nodes.size
  (⟨arena.nodes.push { content }⟩, id)

/-! ## Chains of siblings -/

/-- The ends of a chain without one of its nodes, which has the given neighbours.  A chain whose ends
are one is used up. -/
def shorten (id : Nat) (previous next : Option Nat) : Nat × Nat → Option (Nat × Nat)
  | (first, last) =>
    if first = last then none
    else if first = id then next.map (·, last)
    else if last = id then previous.map (first, ·)
    else some (first, last)

/-- Take a node, with everything below it, out of its chain and from the parent it knows. -/
def detach (arena : Arena) (id : Nat) : Arena :=
  match arena.nodes[id]? with
  | some ⟨_, some parent, previous, next, _⟩ =>
    let arena := arena.modify id fun node =>
      { node with parent := none, previous := none, next := none }
    let arena := arena.modifyAny previous fun node => { node with next }
    let arena := arena.modifyAny next fun node => { node with previous }
    arena.modify parent fun node => { node with ends := node.ends.bind (shorten id previous next) }
  | _ => arena

/-- Make a node the last child of another. -/
def append (arena : Arena) (parent id : Nat) : Arena :=
  let arena := arena.detach id
  let ends := arena.ends? parent
  let previous := ends.map (·.2)
  let arena := arena.modify id fun node => { node with parent := some parent, previous }
  let arena := arena.modifyAny previous fun node => { node with next := some id }
  arena.modify parent fun node => { node with ends := some ((ends.map (·.1)).getD id, id) }

/-- Put a node right before a sibling that has a parent. -/
def insertBefore (arena : Arena) (sibling id : Nat) : Arena :=
  let arena := arena.detach id
  match arena.parent? sibling with
  | none => arena
  | some parent =>
    let previous := arena.previous? sibling
    let arena := arena.modify id fun node =>
      { node with parent := some parent, previous, next := some sibling }
    let arena := arena.modifyAny previous fun node => { node with next := some id }
    let arena := arena.modify sibling fun node => { node with previous := some id }
    arena.modify parent fun node =>
      { node with ends := node.ends.map fun (first, last) =>
          (if first = sibling then id else first, last) }

/-- **Hand the children of a node over to another**, behind those it has.  The chain goes over as a
whole: only its ends learn of the new parent, and those between them go on naming the old one. -/
def moveChildren (arena : Arena) (source target : Nat) : Arena :=
  match arena.ends? source with
  | none => arena
  | some (first, last) =>
    let previous := (arena.ends? target).map (·.2)
    let front := ((arena.ends? target).map (·.1)).getD first
    let arena := arena.modify source fun node => { node with ends := none }
    let arena := arena.modify first fun node => { node with parent := some target, previous }
    let arena := arena.modify last fun node => { node with parent := some target }
    let arena := arena.modifyAny previous fun node => { node with next := some first }
    arena.modify target fun node => { node with ends := some (front, last) }

/-! ## Text -/

/-- Whether a node is a text. -/
def isText (arena : Arena) (id : Nat) : Bool :=
  match arena.nodes[id]? with
  | some { content := .text _, .. } => true
  | _ => false

/-- A text node with one more character. -/
def Node.pushChar (node : Node) (c : Char) : Node :=
  match node.content with
  | .text content => { node with content := .text (content.push c) }
  | _ => node

/-- Put a character at the end of a node: it joins a text that stands there. -/
def appendChar (arena : Arena) (parent : Nat) (c : Char) : Arena :=
  match ((arena.ends? parent).map (·.2)).filter arena.isText with
  | some text => arena.modify text (Node.pushChar · c)
  | none => let (arena, id) := arena.make (.text c.toString); arena.append parent id

/-- Put a character right before a sibling: it joins a text that stands there. -/
def insertCharBefore (arena : Arena) (sibling : Nat) (c : Char) : Arena :=
  match (arena.previous? sibling).filter arena.isText with
  | some text => arena.modify text (Node.pushChar · c)
  | none => let (arena, id) := arena.make (.text c.toString); arena.insertBefore sibling id

/-! ## The finished page -/

/-- The elements found so far, each under its number. -/
abbrev Census := Array (Option Placed)

/-- **A walk** over a node, its later siblings and everything below them. -/
structure Walk where
  forest : Forest
  /-- the node at which the walk comes up again: the parent that the last sibling knows -/
  up : Option Nat
  census : Census

/-- **Walk on from a node**, in no more than so many steps down or along.  What stands beyond the
node at which a walk comes up is left out of the forest; but its elements are found. -/
def walk (arena : Arena) : Nat → List Element → Nat → Census → Walk
  | 0, _, _, census => ⟨.nil, none, census⟩
  | steps + 1, around, id, census =>
    match arena.nodes[id]? with
    | none => ⟨.nil, none, census⟩
    | some node =>
      let ⟨later, upLater, census⟩ : Walk := match node.next with
        | some next => arena.walk steps around next census
        | none => ⟨.nil, node.parent, census⟩
      let ⟨below, up, census⟩ : Walk := match node.ends with
        | some (first, _) => arena.walk steps (node.content.within around) first census
        | none => ⟨.nil, some id, census⟩
      let census := match node with
        | { content := .element e, parent := some _, .. } =>
          census.setIfInBounds id (some ⟨e, around, below⟩)
        | _ => census
      if up = some id then ⟨node.content.forest below later, upLater, census⟩
      else ⟨node.content.forest below .nil, up, census⟩

/-- The elements that a node knows around it, no more than so many. -/
def around (arena : Arena) : Nat → Nat → List Element
  | 0, _ => []
  | count + 1, id =>
    match arena.parent? id with
    | none => []
    | some parent =>
      match arena.nodes[parent]? with
      | some { content := .element e, .. } => e :: arena.around count parent
      | _ => []

/-- Whether a walk has to start from a node: from the document, and from an element that no walk has
found. -/
def isUnseen (arena : Arena) (census : Census) (id : Nat) : Bool :=
  match arena.nodes[id]? with
  | some { content := .document, .. } => true
  | some { content := .element _, .. } => (census[id]?.join).isNone
  | _ => false

/-- **The finished page.**  Every element that has a parent counts, also below a body that a set of
frames has replaced. -/
def page (arena : Arena) : Document :=
  let count := arena.nodes.size
  let census := (List.range count).foldl (fun census id =>
    if arena.isUnseen census id then (arena.walk count (arena.around count id) id census).census
    else census) (Array.replicate count none)
  ⟨census.toList.filterMap id⟩

end Arena

end OpcodeTable.Html
