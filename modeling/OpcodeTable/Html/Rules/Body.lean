import OpcodeTable.Html.Builder

/-!
# Html/Rules/Body — the rules for the head and the body of a page

A rule takes a token and either is done with it or, having closed something or changed the rules in
force, asks for the token to be looked at again.
-/

namespace OpcodeTable.Html

/-- **What a rule makes of a token.** -/
inductive Verdict where
  /-- the token is dealt with -/
  | done (builder : Builder)
  /-- the token is to be looked at again -/
  | again (builder : Builder)

/-- The verdict with the page changed once more. -/
def Verdict.map (change : Builder → Builder) : Verdict → Verdict
  | done b => done (change b)
  | again b => again (change b)

namespace Builder

/-! ## The head -/

/-- A second root tag only adds attributes, and none at all inside a template. -/
def mergeRoot (b : Builder) (tag : Tag) : Builder :=
  if b.hasOpen "template" then b
  else match b.stack.getLast? with
    | some root => b.addAttributes root.id tag
    | none => b

/-- A template opens: formatting stops at it, and its content has rules of its own. -/
def openTemplate (b : Builder) (tag : Tag) : Builder :=
  { (b.insert tag).mark with
    framesetOk := false, mode := .inTemplate, templates := .inTemplate :: b.templates }

/-- A template ends, with whatever is open in it. -/
def closeTemplate (b : Builder) : Builder :=
  let b := b.clearToMarker
  { b with templates := b.templates.tail }.resetMode

/-- A tag that belongs in the head of a page. -/
def startMetadata (b : Builder) (tag : Tag) : Builder :=
  if tag.name = "title" then b.insertText tag .references
  else if ["noframes", "style", "noscript"].contains tag.name then b.insertText tag .plain
  else if tag.name = "script" then b.insertText tag .script
  else if tag.name = "template" then b.openTemplate tag
  else b.insertVoid tag

/-- The end tag of a template. -/
def endTemplate (b : Builder) : Builder :=
  if b.hasOpen "template" then (b.popThorough.popNamed "template").closeTemplate else b

/-- The head ends because something else starts. -/
def leaveHead (b : Builder) : Verdict := .again { b.pop with mode := .afterHead }

/-- **The rules for the head.** -/
def inHead (b : Builder) (token : Token) : Verdict :=
  match token with
  | .char c => if isSpace c then .done (b.insertChar c) else b.leaveHead
  | .comment text => .done (b.insertComment text)
  | .startTag tag =>
    if tag.name = "html" then .done (b.mergeRoot tag)
    else if metadataNames.contains tag.name || tag.name == "noscript" then
      .done (b.startMetadata tag)
    else if tag.name = "head" then .done b
    else b.leaveHead
  | .endTag tag =>
    if tag.name = "head" then .done { b.pop with mode := .afterHead }
    else if tag.name = "template" then .done b.endTemplate
    else if ["body", "html", "br"].contains tag.name then b.leaveHead
    else .done b
  | .doctype _ | .flaw => .done b
  | .endOfFile => b.leaveHead

/-! ## Start tags in the body -/

/-- No frames may replace the body any more. -/
def useBody (b : Builder) : Builder := { b with framesetOk := false }

/-- A list item ends the one before it, as far as no other element with rules stands between. -/
def endItem (b : Builder) (names : List String) : Builder :=
  let extra := specialNames.filter fun name => !(["address", "div", "p"].contains name)
  let found := b.stack.find? fun e => e.isOneOf names || e.isOneOf extra
  match found.filter (·.isOneOf names) with
  | some item => (b.popImplied item.name).popNamed item.name
  | none => b

/-- A link ends the one it stands in. -/
def endLink (b : Builder) : Builder :=
  match b.findFormatting "a" with
  | none => b
  | some (link, _) => ((b.adopt "a").removeFormatting link.id).removeOpen link.id

/-- An element of a foreign vocabulary opens. -/
def enterForeign (b : Builder) (space : Space) (tag : Tag) : Builder :=
  let opened := (b.insertIn space tag).1
  if tag.selfClosing then opened.pop else opened

/-- Whether an input is hidden. -/
def isHidden (tag : Tag) : Bool := (tag.attribute? "type").any (·.toLower == "hidden")

/-- A set of frames takes the place of the body. -/
def replaceBody (b : Builder) (tag : Tag) : Builder :=
  match b.framesetOk, b.body? with
  | true, some body =>
    let b := { b with arena := b.arena.detach body.id, stack := b.stack.getLast?.toList }
    { b.insert tag with mode := .inFrameset }
  | _, _ => b

/-- Attributes of a second body go to the first. -/
def mergeBody (b : Builder) (tag : Tag) : Builder :=
  match b.body? with
  | some body => if b.hasOpen "template" then b else (b.addAttributes body.id tag).useBody
  | none => b

/-- Elements without content around which formatting is opened again. -/
def emptyNames : List String := ["area", "br", "embed", "img", "keygen", "wbr", "input"]

/-- **A start tag in the body.** -/
def startInBody (b : Builder) (tag : Tag) : Builder :=
  let name := tag.name
  if name = "html" then b.mergeRoot tag
  else if metadataNames.contains name then b.startMetadata tag
  else if name = "body" then b.mergeBody tag
  else if name = "frameset" then b.replaceBody tag
  else if blockNames.contains name then b.endParagraph.insert tag
  else if headingNames.contains name then
    let b := b.endParagraph
    (if b.atOneOf headingNames then b.pop else b).insert tag
  else if name = "pre" || name = "listing" then
    { (b.endParagraph.insert tag).useBody with skipLineFeed := true }
  else if name = "form" then
    let nested := b.hasOpen "template"
    if b.form.isSome && !nested then b
    else
      let (b, form) := b.endParagraph.insertIn .html tag
      if nested then b else { b with form := some form.id }
  else if name = "li" then ((b.useBody.endItem ["li"]).endParagraph).insert tag
  else if name = "dd" || name = "dt" then ((b.useBody.endItem ["dd", "dt"]).endParagraph).insert tag
  else if name = "plaintext" then { b.endParagraph.insert tag with content := some .endless }
  else if name = "button" then
    let b := if b.hasInScope "button" then b.popImplied.popNamed "button" else b
    (b.reconstruct.insert tag).useBody
  else if name = "a" then b.endLink.reconstruct.insertFormatting tag
  else if formattingNames.contains name then b.reconstruct.insertFormatting tag
  else if name = "nobr" then
    let b := b.reconstruct
    (if b.hasInScope "nobr" then (b.adopt "nobr").reconstruct else b).insertFormatting tag
  else if ["applet", "marquee", "object"].contains name then
    ((b.reconstruct.insert tag).mark).useBody
  else if name = "table" then
    { ((if b.old then b else b.endParagraph).insert tag).useBody with mode := .inTable }
  else if emptyNames.contains name then
    let b := b.reconstruct.insertVoid tag
    if name = "input" && isHidden tag then b else b.useBody
  else if ["param", "source", "track"].contains name then b.insertVoid tag
  else if name = "hr" then (b.endParagraph.insertVoid tag).useBody
  else if name = "image" then (b.reconstruct.insertVoid { tag with name := "img" }).useBody
  else if name = "textarea" then
    { (b.useBody.insertText tag .references) with skipLineFeed := true }
  else if name = "xmp" then b.endParagraph.reconstruct.useBody.insertText tag .plain
  else if name = "iframe" then b.useBody.insertText tag .plain
  else if name = "noembed" || name = "noscript" then b.insertText tag .plain
  else if name = "select" then
    let inTable := [.inTable, .inCaption, .inTableBody, .inRow, .inCell].contains b.mode
    { (b.reconstruct.insert tag).useBody with
      mode := if inTable then .inSelectInTable else .inSelect }
  else if name = "optgroup" || name = "option" then
    (if b.at? "option" then b.pop else b).reconstruct.insert tag
  else if name = "rb" || name = "rtc" then
    (if b.hasInScope "ruby" then b.popImplied else b).insert tag
  else if name = "rp" || name = "rt" then
    (if b.hasInScope "ruby" then b.popImplied "rtc" else b).insert tag
  else if name = "math" then b.enterForeign .mathML tag
  else if name = "svg" then b.enterForeign .svg tag
  else if ["caption", "col", "colgroup", "frame", "head", "tbody", "td", "tfoot", "th", "thead",
      "tr"].contains name then b
  else b.reconstruct.insert tag

/-! ## End tags in the body -/

/-- The end tag of a form. -/
def endForm (b : Builder) : Builder :=
  if b.hasOpen "template" then
    if b.hasInScope "form" then b.popImplied.popNamed "form" else b
  else
    let without := { b with form := none }
    match b.form with
    | none => b
    | some form =>
      if b.inScope (·.id == form) then without.popImplied.removeOpen form else without

/-- An end tag closes its element and all inside, if it is in scope. -/
def endBlock (b : Builder) (name : String) : Builder :=
  if b.hasInScope name then b.popImplied.popNamed name else b

/-- **An end tag in the body.** -/
def endInBody (b : Builder) (tag : Tag) : Verdict :=
  let name := tag.name
  if name = "template" then .done b.endTemplate
  else if name = "body" then
    .done (if b.hasInScope "body" then { b with mode := .afterBody } else b)
  else if name = "html" then
    if b.hasInScope "body" then .again { b with mode := .afterBody } else .done b
  else if blockEndNames.contains name then .done (b.endBlock name)
  else if name = "form" then .done b.endForm
  else if name = "p" then
    let b := if b.hasInScope "p" Open.endsButtonScope then b else b.insertNamed "p"
    .done b.closeParagraph
  else if name = "li" then
    .done <| if b.hasInScope "li" Open.endsListScope then (b.popImplied "li").popNamed "li" else b
  else if name = "dd" || name = "dt" then
    .done (if b.hasInScope name then (b.popImplied name).popNamed name else b)
  else if headingNames.contains name then
    .done <| if b.inScope (·.isOneOf headingNames) then
      b.popImplied.popThrough (·.isOneOf headingNames) else b
  else if name = "a" || name = "nobr" || formattingNames.contains name then .done (b.adopt name)
  else if ["applet", "marquee", "object"].contains name then
    .done (if b.hasInScope name then (b.endBlock name).clearToMarker else b)
  else if name = "br" then .done (b.startInBody { tag with attributes := [] })
  else .done (b.closeOther name)

/-! ## The body -/

/-- The end of the page closes the open templates one by one. -/
def endOfTemplates (b : Builder) : Verdict :=
  if b.hasOpen "template" then .again (b.popNamed "template").closeTemplate else .done b

/-- **The rules for the body.** -/
def inBody (b : Builder) (token : Token) : Verdict :=
  match token with
  | .char c =>
    if c = '\x00' then .done b
    else
      let b := b.reconstruct
      .done ((if isSpace c then b else b.useBody).insertChar c)
  | .comment text => .done (b.insertComment text)
  | .startTag tag => .done (b.startInBody tag)
  | .endTag tag => b.endInBody tag
  | .doctype _ | .flaw => .done b
  | .endOfFile => if b.templates.isEmpty then .done b else b.endOfTemplates

/-- The rules for the body while what belongs in no table goes in front of the table. -/
def fostered (b : Builder) (token : Token) : Verdict :=
  ({ b with fostering := true }.inBody token).map fun b => { b with fostering := false }

end Builder

end OpcodeTable.Html
