import OpcodeTable.Html.Arena
import OpcodeTable.Html.Lexer
import OpcodeTable.Html.Names

/-!
# Html/Builder — what a page is made of so far, and how it grows

The builder keeps the open elements, innermost first, and the formatting that is in force.  The
rules that say which of these steps a token asks for are in `Html/Rules`.
-/

namespace OpcodeTable.Html

/-- **The rules in force**: which part of a page is being read. -/
inductive Mode where
  | initial
  | beforeHtml
  | beforeHead
  | inHead
  | afterHead
  | inBody
  | inText
  | inTable
  | inTableText
  | inCaption
  | inColumnGroup
  | inTableBody
  | inRow
  | inCell
  | inSelect
  | inSelectInTable
  | inTemplate
  | afterBody
  | inFrameset
  | afterFrameset
  | afterAfterBody
  | afterAfterFrameset
  deriving DecidableEq, Repr

/-- **Formatting in force**: an element with the tag that opened it, or a marker where the
formatting around a cell, a caption or the like is out of force. -/
inductive Formatting where
  | marker
  | element (opened : Open) (tag : Tag)
  deriving DecidableEq, Repr

/-- The formatting element, if it is one. -/
def Formatting.opened? : Formatting → Option Open
  | .marker => none
  | .element opened _ => some opened

/-- Whether formatting is the element with this number. -/
def Formatting.isNode (id : Nat) (formatting : Formatting) : Bool :=
  formatting.opened?.any (·.id == id)

/-- **A growing page.** -/
structure Builder where
  arena : Arena := .empty
  mode : Mode := .initial
  /-- the rules that were in force before text, or table text, began -/
  resume : Mode := .initial
  /-- the rules for the content of the open templates, innermost first -/
  templates : List Mode := []
  /-- the text of a table that has not found its place yet, reversed -/
  pending : List Char := []
  /-- the open elements, innermost first -/
  stack : List Open := []
  /-- the formatting in force, newest first -/
  formatting : List Formatting := []
  head : Option Open := none
  form : Option Nat := none
  /-- whether a set of frames may still take the place of the body -/
  framesetOk : Bool := true
  /-- whether a line feed that comes next is left out -/
  skipLineFeed : Bool := false
  /-- whether what does not belong in a table goes in front of it -/
  fostering : Bool := false
  /-- whether the document type asks for the oldest layout rules -/
  old : Bool := false
  /-- what the lexer is to read next, if not markup -/
  content : Option Lexer.Raw := none
  deriving Repr

namespace Builder

/-! ## Open elements -/

/-- The innermost open element. -/
def current (b : Builder) : Option Open := b.stack.head?

/-- Whether the innermost open element is HTML's of this name. -/
def at? (b : Builder) (name : String) : Bool := b.current.any (·.isNamed name)

/-- Whether the innermost open element is one of HTML's of these names. -/
def atOneOf (b : Builder) (names : List String) : Bool := b.current.any (·.isOneOf names)

/-- Close the innermost element. -/
def pop (b : Builder) : Builder := { b with stack := b.stack.tail }

/-- Close elements until one that fits has been closed. -/
def popThrough (b : Builder) (fits : Open → Bool) : Builder :=
  { b with stack := (b.stack.dropWhile (!fits ·)).tail }

/-- Close elements until one of this name has been closed. -/
def popNamed (b : Builder) (name : String) : Builder := b.popThrough (·.isNamed name)

/-- Close elements until one of these names is innermost. -/
def popTo (b : Builder) (names : List String) : Builder :=
  { b with stack := b.stack.dropWhile (!·.isOneOf names) }

/-- Close the elements at the top whose end may be left out, except those of one name. -/
def popImplied (b : Builder) (except : String := "") : Builder :=
  { b with stack := b.stack.dropWhile fun e => e.isOneOf impliedEndNames && !e.isNamed except }

/-- Close every element at the top whose end may be left out where a template ends. -/
def popThorough (b : Builder) : Builder :=
  { b with stack := b.stack.dropWhile (·.isOneOf thoroughEndNames) }

/-- Take an element off the open ones, wherever it stands. -/
def removeOpen (b : Builder) (id : Nat) : Builder :=
  { b with stack := b.stack.eraseP (·.id == id) }

/-- Whether an open element fits before one that ends the search. -/
def findInScope (fits ends : Open → Bool) : List Open → Bool
  | [] => false
  | e :: rest => fits e || (!ends e && findInScope fits ends rest)

/-- Whether an element that fits is in scope. -/
def inScope (b : Builder) (fits : Open → Bool) (ends : Open → Bool := Open.endsScope) : Bool :=
  findInScope fits ends b.stack

/-- Whether an element of this name is in scope. -/
def hasInScope (b : Builder) (name : String) (ends : Open → Bool := Open.endsScope) : Bool :=
  b.inScope (·.isNamed name) ends

/-- Whether an element of this name is open at all. -/
def hasOpen (b : Builder) (name : String) : Bool := b.stack.any (·.isNamed name)

/-- The body, which is open right inside the root. -/
def body? (b : Builder) : Option Open :=
  (b.stack.reverse[1]?).filter (·.isNamed "body")

/-! ## Places -/

/-- **A place for a node.** -/
inductive Place where
  /-- at the end of an element -/
  | inside (id : Nat)
  /-- in front of a table, or at the end of the element around it if the table stands nowhere -/
  | atTable (table around : Nat)

/-- The place at the end of an element: a template takes nodes into its fragment. -/
def insideOf (b : Builder) (e : Open) : Place :=
  if e.isNamed "template" then .inside (((b.arena.ends? e.id).map (·.1)).getD e.id)
  else .inside e.id

/-- Where a node goes that belongs in no table: before the innermost table or, if a template is
further in, into that. -/
def fosterPlace (b : Builder) : List Open → Place
  | [] => .inside Arena.document
  | [e] => .inside e.id
  | e :: around :: rest =>
    if e.isNamed "template" then b.insideOf e
    else if e.isNamed "table" then .atTable e.id around.id
    else b.fosterPlace (around :: rest)

/-- **The place for the next node** below `target`. -/
def placeIn (b : Builder) (target : Open) : Place :=
  if b.fostering && target.isOneOf tablePartNames then b.fosterPlace b.stack else b.insideOf target

/-- The place for the next node. -/
def place (b : Builder) : Place :=
  match b.current with
  | some e => b.placeIn e
  | none => .inside Arena.document

/-- Put a node in its place. -/
def putAt (b : Builder) (place : Place) (id : Nat) : Builder :=
  match place with
  | .inside parent => { b with arena := b.arena.append parent id }
  | .atTable table around =>
    if (b.arena.parent? table).isSome then { b with arena := b.arena.insertBefore table id }
    else { b with arena := b.arena.append around id }

/-- **One more character of text.** -/
def insertChar (b : Builder) (c : Char) : Builder :=
  match b.place with
  | .inside parent => { b with arena := b.arena.appendChar parent c }
  | .atTable table around =>
    if (b.arena.parent? table).isSome then { b with arena := b.arena.insertCharBefore table c }
    else { b with arena := b.arena.appendChar around c }

/-- Make a comment at the end of a node. -/
def commentIn (b : Builder) (parent : Nat) (text : String) : Builder :=
  let (arena, id) := b.arena.make (.comment text)
  { b with arena := arena.append parent id }

/-- Make a comment in the place for the next node. -/
def insertComment (b : Builder) (text : String) : Builder :=
  let place := b.place
  let (arena, id) := b.arena.make (.comment text)
  { b with arena := arena }.putAt place id

/-! ## New elements -/

/-- Make an element that stands nowhere yet; a template gets the fragment that holds its content. -/
def makeElement (b : Builder) (space : Space) (tag : Tag) : Builder × Open :=
  let (arena, id) := b.arena.make (.element ⟨space, tag.name, tag.attributes⟩)
  let opened : Open := { id, space, name := tag.name }
  if opened.isNamed "template" then
    let (arena, fragment) := arena.make .fragment
    ({ b with arena := arena.append id fragment }, opened)
  else ({ b with arena }, opened)

/-- Open an element that has been made. -/
def push (b : Builder) (e : Open) : Builder := { b with stack := e :: b.stack }

/-- **An element in the place for the next node**, open. -/
def insertIn (b : Builder) (space : Space) (tag : Tag) : Builder × Open :=
  let place := b.place
  let (b, e) := b.makeElement space tag
  ((b.putAt place e.id).push e, e)

/-- Open an element of HTML's own. -/
def insert (b : Builder) (tag : Tag) : Builder := (b.insertIn .html tag).1

/-- Open an element that no tag asked for. -/
def insertNamed (b : Builder) (name : String) : Builder := b.insert { name }

/-- Make an element and close it at once. -/
def insertVoid (b : Builder) (tag : Tag) : Builder := (b.insert tag).pop

/-- The root element, open in the document. -/
def insertRoot (b : Builder) (tag : Tag) : Builder :=
  let (b, e) := b.makeElement .html { tag with name := "html" }
  (b.putAt (.inside Arena.document) e.id).push e

/-- Add the attributes an element does not have yet. -/
def addAttributes (b : Builder) (id : Nat) (tag : Tag) : Builder :=
  { b with arena := b.arena.modify id fun node =>
    match node.content with
    | .element e =>
      let missing := tag.attributes.filter fun a => !e.attributes.any (·.name == a.name)
      { node with content := .element { e with attributes := e.attributes ++ missing } }
    | _ => node }

/-- Open an element whose content is text of the given kind. -/
def insertText (b : Builder) (tag : Tag) (kind : Lexer.Raw) : Builder :=
  { b.insert tag with resume := b.mode, mode := .inText, content := some kind }

/-! ## Paragraphs -/

/-- Close a paragraph and what it may end. -/
def closeParagraph (b : Builder) : Builder := (b.popImplied "p").popNamed "p"

/-- Close a paragraph if one is in scope. -/
def endParagraph (b : Builder) : Builder :=
  if b.hasInScope "p" Open.endsButtonScope then b.closeParagraph else b

/-! ## Formatting -/

/-- Put formatting out of force from here on. -/
def mark (b : Builder) : Builder := { b with formatting := .marker :: b.formatting }

/-- Forget the formatting since the last marker, and the marker. -/
def clearToMarker (b : Builder) : Builder :=
  { b with formatting := (b.formatting.dropWhile (· != .marker)).tail }

/-- The formatting since the last marker, newest first. -/
def sinceMarker (b : Builder) : List Formatting := b.formatting.takeWhile (· != .marker)

/-- The newest formatting element of this name since the last marker. -/
def findFormatting (b : Builder) (name : String) : Option (Open × Tag) :=
  b.sinceMarker.findSome? fun
    | .element e tag => if tag.name == name then some (e, tag) else none
    | .marker => none

/-- Forget one formatting element. -/
def removeFormatting (b : Builder) (id : Nat) : Builder :=
  { b with formatting := b.formatting.eraseP (·.isNode id) }

/-- Put formatting in the place of an element's. -/
def replaceFormatting (b : Builder) (id : Nat) (entry : Formatting) : Builder :=
  { b with formatting := b.formatting.map fun f => if f.isNode id then entry else f }

/-- The tag that opened an element in force as formatting. -/
def formattingTag? (b : Builder) (id : Nat) : Option Tag :=
  b.formatting.findSome? fun
    | .element opened tag => if opened.id == id then some tag else none
    | .marker => none

/-- Whether an element's formatting is in force. -/
def isFormatting (b : Builder) (id : Nat) : Bool := b.formatting.any (·.isNode id)

/-- Two tags that open the same formatting: one name, and the same attributes in any order. -/
def sameTag (a b : Tag) : Bool :=
  a.name == b.name && a.attributes.length == b.attributes.length
    && a.attributes.all b.attributes.contains

/-- **Formatting that stays in force** until its end tag.  Of more than three alike since the last
marker the oldest is forgotten. -/
def insertFormatting (b : Builder) (tag : Tag) : Builder :=
  let alike := b.sinceMarker.filterMap fun
    | .element e old => if sameTag old tag then some e.id else none
    | .marker => none
  let b := match alike with
    | _ :: _ :: third :: more => b.removeFormatting ((third :: more).getLast?.getD third)
    | _ => b
  let (b, e) := b.insertIn .html tag
  { b with formatting := .element e tag :: b.formatting }

/-- Whether formatting needs no new element: its element is open, or it is a marker. -/
def isStanding (b : Builder) : Formatting → Bool
  | .marker => true
  | .element e _ => b.stack.any (·.id == e.id)

/-- Open formatting elements again, oldest first, each in place of the one it continues. -/
def reopen (b : Builder) : List Formatting → Builder
  | [] => b
  | .marker :: rest => b.reopen rest
  | .element _ tag :: rest =>
    let (b, e) := b.insertIn .html tag
    { b with formatting := .element e tag :: b.formatting }.reopen rest

/-- **Open again the formatting that blocks have cut short**, back to the last that still stands. -/
def reconstruct (b : Builder) : Builder :=
  let cut := b.formatting.takeWhile (!b.isStanding ·)
  { b with formatting := b.formatting.drop cut.length }.reopen cut.reverse

/-! ## Misnested formatting -/

/-- An end tag that no other rule closes: everything up to its element is closed, unless an element
with rules of its own stands in the way. -/
def closeOther (b : Builder) (name : String) : Builder :=
  let closable := (b.stack.takeWhile fun e => !e.isNamed name && !e.isOneOf specialNames).length
  if (b.stack[closable]?).any (·.isNamed name) then
    let kept := b.stack.drop (closable + 1)
    { b with stack := kept }
  else b

/-- What happens between the formatting element and the furthest block inside it. -/
structure Chain where
  builder : Builder
  /-- the open elements from the furthest block outwards that have been gone through, innermost
  first -/
  kept : List Open
  /-- the node to be put below the next one -/
  last : Nat
  /-- the element after which the formatting element is to be listed -/
  bookmark : Option Nat

/-- Go outwards through the open elements between the furthest block and the formatting element.
Those not in force as formatting, and all beyond the third, are closed; each of the others is copied,
and the chain so far goes below the copy. -/
def Chain.climb (chain : Chain) (count : Nat) : List Open → Chain
  | [] => chain
  | e :: rest =>
    let b := chain.builder
    if 3 < count + 1 then
      { chain with builder := b.removeFormatting e.id }.climb (count + 1) rest
    else
      match b.formattingTag? e.id with
      | none => chain.climb (count + 1) rest
      | some tag =>
        let (b, copy) := b.makeElement .html tag
        let b := b.replaceFormatting e.id (.element copy tag)
        let b := { b with arena := b.arena.append copy.id chain.last }
        Chain.climb ⟨b, chain.kept ++ [copy], copy.id, chain.bookmark <|> some copy.id⟩
          (count + 1) rest

/-- Put an entry right before one in a list that has the newest first. -/
def listAfter (id : Nat) (entry : Formatting) : List Formatting → List Formatting
  | [] => []
  | f :: rest => if f.isNode id then entry :: f :: rest else f :: listAfter id entry rest

/-- One round of closing misnested formatting; the flag says that another round may follow. -/
def adoptOnce (b : Builder) (name : String) : Builder × Bool :=
  match b.findFormatting name with
  | none => (b.closeOther name, false)
  | some (element, tag) =>
    let above := b.stack.takeWhile (·.id != element.id)
    let below := b.stack.drop (above.length + 1)
    if !b.stack.any (·.id == element.id) then (b.removeFormatting element.id, false)
    else if !b.inScope (·.id == element.id) then (b, false)
    else
      -- the special element nearest to the formatting element
      match above.reverse.find? (·.isOneOf specialNames) with
      | none => ({ b with stack := below }.removeFormatting element.id, false)
      | some block =>
        let inner := above.takeWhile (·.id != block.id)
        let between := (above.drop (inner.length + 1))
        let chain := Chain.climb ⟨b, [], block.id, none⟩ 0 between
        let b := { chain.builder with arena := chain.builder.arena.detach chain.last }
        let b := match below.head? with
          | some ancestor => b.putAt (b.placeIn ancestor) chain.last
          | none => b
        let (b, copy) := b.makeElement .html tag
        let arena := (b.arena.moveChildren block.id copy.id).append block.id copy.id
        let entry := Formatting.element copy tag
        let formatting := match chain.bookmark with
          | none => (b.replaceFormatting element.id entry).formatting
          | some mark => (listAfter mark entry b.formatting).eraseP (·.isNode element.id)
        let stack := inner ++ copy :: block :: chain.kept ++ below
        ({ b with arena, formatting, stack }, true)

/-- Rounds of closing misnested formatting, at most so many. -/
def adoptRounds (name : String) : Nat → Builder → Builder
  | 0, b => b
  | rounds + 1, b =>
    match b.adoptOnce name with
    | (b, true) => adoptRounds name rounds b
    | (b, false) => b

/-- **The end of formatting**, which may stand across the ends of blocks: the blocks it cuts are
taken apart so that the elements nest. -/
def adopt (b : Builder) (name : String) : Builder :=
  if b.current.any fun e => e.isNamed name && !b.isFormatting e.id then b.pop
  else adoptRounds name 8 b

/-! ## The rules that go with the open elements -/

/-- The rules for the open elements from the innermost out. -/
def modeFor (b : Builder) : List Open → Mode
  | [] => .inBody
  | e :: rest =>
    let last := rest.isEmpty
    if e.space != .html then b.modeFor rest
    else if e.name = "select" then
      match rest.find? fun e => e.isNamed "template" || e.isNamed "table" with
      | some e => if e.isNamed "table" then .inSelectInTable else .inSelect
      | none => .inSelect
    else if cellNames.contains e.name && !last then .inCell
    else if e.name = "tr" then .inRow
    else if tableSectionNames.contains e.name then .inTableBody
    else if e.name = "caption" then .inCaption
    else if e.name = "colgroup" then .inColumnGroup
    else if e.name = "table" then .inTable
    else if e.name = "template" then b.templates.head?.getD .inBody
    else if e.name = "head" && !last then .inHead
    else if e.name = "body" then .inBody
    else if e.name = "frameset" then .inFrameset
    else if e.name = "html" then if b.head.isSome then .afterHead else .beforeHead
    else b.modeFor rest

/-- Take up the rules that go with the open elements. -/
def resetMode (b : Builder) : Builder := { b with mode := b.modeFor b.stack }

end Builder

end OpcodeTable.Html
