import OpcodeTable.Html.Rules.Table

/-!
# Html/Rules/Whole — the rules around the body, for templates and for foreign vocabularies

Here all rules come together: `accept` is what a page makes of any token.
-/

namespace OpcodeTable.Html.Builder

/-! ## Before the body -/

/-- **The rules for the start of a page.** -/
def initial (b : Builder) (token : Token) : Verdict :=
  match token with
  | .char c =>
    if isSpace c then .done b else .again { b with old := true, mode := .beforeHtml }
  | .comment text => .done (b.commentIn Arena.document text)
  | _ => .again { b with old := true, mode := .beforeHtml }

/-- The root opens without a tag. -/
def impliedRoot (b : Builder) : Verdict :=
  .again { b.insertRoot { name := "html" } with mode := .beforeHead }

/-- The end tags that open what they would end. -/
def openingEndNames : List String := ["head", "body", "html", "br"]

/-- **The rules before the root.** -/
def beforeHtml (b : Builder) (token : Token) : Verdict :=
  match token with
  | .char c => if isSpace c then .done b else b.impliedRoot
  | .comment text => .done (b.commentIn Arena.document text)
  | .startTag tag =>
    if tag.name = "html" then .done { b.insertRoot tag with mode := .beforeHead }
    else b.impliedRoot
  | .endTag tag => if openingEndNames.contains tag.name then b.impliedRoot else .done b
  | .doctype _ | .flaw => .done b
  | .endOfFile => b.impliedRoot

/-- The head opens. -/
def openHead (b : Builder) (tag : Tag) : Builder :=
  let (b, head) := b.insertIn .html tag
  { b with head := some head, mode := .inHead }

/-- The head opens without a tag. -/
def impliedHead (b : Builder) : Verdict := .again (b.openHead { name := "head" })

/-- **The rules before the head.** -/
def beforeHead (b : Builder) (token : Token) : Verdict :=
  match token with
  | .char c => if isSpace c then .done b else b.impliedHead
  | .comment text => .done (b.insertComment text)
  | .startTag tag =>
    if tag.name = "html" then .done (b.mergeRoot tag)
    else if tag.name = "head" then .done (b.openHead tag)
    else b.impliedHead
  | .endTag tag => if openingEndNames.contains tag.name then b.impliedHead else .done b
  | .doctype _ | .flaw => .done b
  | .endOfFile => b.impliedHead

/-- The body opens without a tag. -/
def impliedBody (b : Builder) : Verdict := .again { b.insertNamed "body" with mode := .inBody }

/-- What belongs in the head still goes there once the head has ended. -/
def lateMetadata (b : Builder) (tag : Tag) : Builder :=
  match b.head with
  | some head => ((b.push head).startMetadata tag).removeOpen head.id
  | none => b

/-- **The rules after the head.** -/
def afterHead (b : Builder) (token : Token) : Verdict :=
  match token with
  | .char c => if isSpace c then .done (b.insertChar c) else b.impliedBody
  | .comment text => .done (b.insertComment text)
  | .startTag tag =>
    if tag.name = "html" then .done (b.mergeRoot tag)
    else if tag.name = "body" then
      .done { b.insert tag with framesetOk := false, mode := .inBody }
    else if tag.name = "frameset" then .done { b.insert tag with mode := .inFrameset }
    else if metadataNames.contains tag.name then .done (b.lateMetadata tag)
    else if tag.name = "head" then .done b
    else b.impliedBody
  | .endTag tag =>
    if tag.name = "template" then .done b.endTemplate
    else if ["body", "html", "br"].contains tag.name then b.impliedBody
    else .done b
  | .doctype _ | .flaw => .done b
  | .endOfFile => b.impliedBody

/-! ## Text, templates, frames and the end -/

/-- **The rules for text that is not markup.** -/
def inText (b : Builder) (token : Token) : Verdict :=
  let closed := { b.pop with mode := b.resume }
  match token with
  | .char c => .done (b.insertChar c)
  | .endTag _ => .done closed
  | .endOfFile => .again closed
  | .startTag _ | .comment _ | .doctype _ | .flaw => .done b

/-- The content of the innermost template turns out to follow the given rules. -/
def settle (b : Builder) (mode : Mode) : Verdict :=
  .again { b with templates := mode :: b.templates.tail, mode }

/-- **The rules for the content of a template.** -/
def inTemplate (b : Builder) (token : Token) : Verdict :=
  match token with
  | .char _ | .comment _ => b.inBody token
  | .startTag tag =>
    if metadataNames.contains tag.name then .done (b.startMetadata tag)
    else if (["caption", "colgroup"] ++ tableSectionNames).contains tag.name then b.settle .inTable
    else if tag.name = "col" then b.settle .inColumnGroup
    else if tag.name = "tr" then b.settle .inTableBody
    else if cellNames.contains tag.name then b.settle .inRow
    else b.settle .inBody
  | .endTag tag => .done (if tag.name = "template" then b.endTemplate else b)
  | .doctype _ | .flaw => .done b
  | .endOfFile => b.endOfTemplates

/-- **The rules after the body.** -/
def afterBody (b : Builder) (token : Token) : Verdict :=
  let back := Verdict.again { b with mode := .inBody }
  match token with
  | .char c => if isSpace c then b.inBody token else back
  | .comment text =>
    .done <| match b.stack.getLast? with
      | some root => b.commentIn root.id text
      | none => b
  | .startTag tag => if tag.name = "html" then .done (b.mergeRoot tag) else back
  | .endTag tag => if tag.name = "html" then .done { b with mode := .afterAfterBody } else back
  | .doctype _ | .flaw | .endOfFile => .done b

/-- **The rules after the root.** -/
def afterAfterBody (b : Builder) (token : Token) : Verdict :=
  let back := Verdict.again { b with mode := .inBody }
  match token with
  | .char c => if isSpace c then b.inBody token else back
  | .comment text => .done (b.commentIn Arena.document text)
  | .startTag tag => if tag.name = "html" then .done (b.mergeRoot tag) else back
  | .endTag _ => back
  | .doctype _ | .flaw | .endOfFile => .done b

/-- **The rules for a set of frames.** -/
def inFrameset (b : Builder) (token : Token) : Verdict :=
  .done <| match token with
    | .char c => if isSpace c then b.insertChar c else b
    | .comment text => b.insertComment text
    | .startTag tag =>
      if tag.name = "html" then b.mergeRoot tag
      else if tag.name = "frameset" then b.insert tag
      else if tag.name = "frame" then b.insertVoid tag
      else if tag.name = "noframes" then b.startMetadata tag
      else b
    | .endTag tag =>
      if tag.name = "frameset" && b.stack.length != 1 then
        let b := b.pop
        if b.at? "frameset" then b else { b with mode := .afterFrameset }
      else b
    | .doctype _ | .flaw | .endOfFile => b

/-- **The rules after a set of frames.** -/
def afterFrameset (b : Builder) (token : Token) : Verdict :=
  .done <| match token with
    | .char c => if isSpace c then b.insertChar c else b
    | .comment text => b.insertComment text
    | .startTag tag =>
      if tag.name = "html" then b.mergeRoot tag
      else if tag.name = "noframes" then b.startMetadata tag
      else b
    | .endTag tag => if tag.name = "html" then { b with mode := .afterAfterFrameset } else b
    | .doctype _ | .flaw | .endOfFile => b

/-- **The rules after the root of a page of frames.** -/
def afterAfterFrameset (b : Builder) (token : Token) : Verdict :=
  match token with
  | .char c => if isSpace c then b.inBody token else .done b
  | .comment text => .done (b.commentIn Arena.document text)
  | .startTag tag =>
    .done <| if tag.name = "html" then b.mergeRoot tag
      else if tag.name = "noframes" then b.startMetadata tag
      else b
  | .endTag _ | .doctype _ | .flaw | .endOfFile => .done b

/-! ## All rules -/

/-- **The rules in force**, whichever they are. -/
def rules (b : Builder) (token : Token) : Verdict :=
  match b.mode with
  | .initial => b.initial token
  | .beforeHtml => b.beforeHtml token
  | .beforeHead => b.beforeHead token
  | .inHead => b.inHead token
  | .afterHead => b.afterHead token
  | .inBody => b.inBody token
  | .inText => b.inText token
  | .inTable => b.inTable token
  | .inTableText => b.inTableText token
  | .inCaption => b.inCaption token
  | .inColumnGroup => b.inColumnGroup token
  | .inTableBody => b.inTableBody token
  | .inRow => b.inRow token
  | .inCell => b.inCell token
  | .inSelect => b.inSelect token
  | .inSelectInTable => b.inSelectInTable token
  | .inTemplate => b.inTemplate token
  | .afterBody => b.afterBody token
  | .inFrameset => b.inFrameset token
  | .afterFrameset => b.afterFrameset token
  | .afterAfterBody => b.afterAfterBody token
  | .afterAfterFrameset => b.afterAfterFrameset token

/-! ## Foreign vocabularies -/

/-- Whether the innermost open element is of a foreign vocabulary. -/
def isForeign (b : Builder) : Bool := b.current.any (·.space != .html)

/-- Whether a token is read by the rules for foreign vocabularies. -/
def readsForeign (b : Builder) (token : Token) : Bool :=
  match b.current with
  | none => false
  | some e =>
    e.space != .html && match token with
      | .endOfFile => false
      | .char _ => !e.isTextPoint && !e.isHtmlPoint
      | .startTag tag =>
        !(e.isTextPoint && tag.name != "mglyph" && tag.name != "malignmark") && !e.isHtmlPoint
          && !(e.space == .mathML && e.name == "annotation-xml" && tag.name == "svg")
      | .endTag _ | .comment _ | .doctype _ | .flaw => true

/-- Whether a start tag ends a foreign vocabulary. -/
def breaksOut (tag : Tag) : Bool :=
  breakoutNames.contains tag.name
    || (tag.name == "font" && tag.attributes.any fun a => ["color", "face", "size"].contains a.name)

/-- The foreign vocabulary gives way to the rules in force, as far as it reaches. -/
def breakOut (b : Builder) (token : Token) : Verdict :=
  { b with stack := b.stack.dropWhile (!·.isBoundary) }.rules token

/-- The name an element has in its vocabulary: of those that matter here one has a capital. -/
def foreignName (space : Space) (name : String) : String :=
  if space = .svg ∧ name = "foreignobject" then "foreignObject" else name

/-- An end tag among foreign elements closes the nearest with its name, in any case; the rules in
force take over where HTML's own elements begin. -/
def endForeign (b : Builder) (tag : Tag) (inside : Bool) : List Open → Verdict
  | [] | [_] => .done b
  | e :: rest =>
    if inside && e.space == .html then b.rules (.endTag tag)
    else if e.name.toLower = tag.name then .done { b with stack := rest }
    else b.endForeign tag true rest

/-- **The rules for foreign vocabularies.** -/
def foreign (b : Builder) (token : Token) : Verdict :=
  match token with
  | .char c =>
    if c = '\x00' then .done (b.insertChar Reference.replacement)
    else .done ((if isSpace c then b else b.useBody).insertChar c)
  | .comment text => .done (b.insertComment text)
  | .startTag tag =>
    if breaksOut tag then b.breakOut token
    else
      let space := (b.current.map (·.space)).getD .html
      .done (b.enterForeign space { tag with name := foreignName space tag.name })
  | .endTag tag =>
    if tag.name = "br" || tag.name = "p" then b.breakOut token else b.endForeign tag false b.stack
  | .doctype _ | .flaw | .endOfFile => .done b

/-! ## Tokens -/

/-- What a page makes of a token, looked at no more than `rounds` times. -/
def settleToken : Nat → Builder → Token → Builder
  | 0, b, _ => b
  | rounds + 1, b, token =>
    match if b.readsForeign token then b.foreign token else b.rules token with
    | .done b => b
    | .again b => settleToken rounds b token

/-- How often a token can be looked at: a rule that asks for it again closes an open element or
moves on in the order of rules, which is a short one, and no more elements are open than have been
made. -/
def rounds (b : Builder) : Nat := 8 * b.arena.nodes.size + 32

/-- **What a page makes of a token.**  A document type counts at the very start only, and a line
feed is left out right after a tag that says so. -/
def accept (b : Builder) (token : Token) : Builder :=
  let fresh := { b with skipLineFeed := false }
  match token with
  | .flaw => fresh
  | .doctype doctype =>
    if b.mode = .initial then { fresh with old := doctype.isOld, mode := .beforeHtml } else fresh
  | _ =>
    if b.skipLineFeed && token == .char '\n' then fresh
    else settleToken b.rounds fresh token

end OpcodeTable.Html.Builder
