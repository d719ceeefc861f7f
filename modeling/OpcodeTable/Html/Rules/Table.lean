import OpcodeTable.Html.Rules.Body

/-!
# Html/Rules/Table — the rules for tables and for menus of options
-/

namespace OpcodeTable.Html.Builder

/-! ## Tables -/

/-- Text in a table waits until it is known whether it is blank; elsewhere it goes in front. -/
def charInTable (b : Builder) (token : Token) : Verdict :=
  if b.atOneOf tablePartNames then
    .again { b with resume := b.mode, mode := .inTableText, pending := [] }
  else b.fostered token

/-- Close elements until a table, or what holds one, is innermost. -/
def clearToTable (b : Builder) : Builder := b.popTo ["table", "template", "html"]

/-- A start tag in a table. -/
def startInTable (b : Builder) (tag : Tag) : Verdict :=
  let name := tag.name
  if name = "caption" then .done { (b.clearToTable.mark).insert tag with mode := .inCaption }
  else if name = "colgroup" then .done { b.clearToTable.insert tag with mode := .inColumnGroup }
  else if name = "col" then .again { b.clearToTable.insertNamed "colgroup" with mode := .inColumnGroup }
  else if tableSectionNames.contains name then
    .done { b.clearToTable.insert tag with mode := .inTableBody }
  else if name = "tr" || cellNames.contains name then
    .again { b.clearToTable.insertNamed "tbody" with mode := .inTableBody }
  else if name = "table" then
    if b.hasInScope "table" Open.endsTableScope then .again (b.popNamed "table").resetMode
    else .done b
  else if ["style", "script", "template"].contains name then .done (b.startMetadata tag)
  else if name = "input" && isHidden tag then .done (b.insertVoid tag)
  else if name = "form" then
    if b.hasOpen "template" || b.form.isSome then .done b
    else
      let (b, form) := b.insertIn .html tag
      .done { b.pop with form := some form.id }
  else b.fostered (.startTag tag)

/-- An end tag in a table. -/
def endInTable (b : Builder) (tag : Tag) : Verdict :=
  if tag.name = "table" then
    .done <| if b.hasInScope "table" Open.endsTableScope then (b.popNamed "table").resetMode else b
  else if ["body", "caption", "col", "colgroup", "html", "tbody", "td", "tfoot", "th", "thead",
      "tr"].contains tag.name then .done b
  else if tag.name = "template" then .done b.endTemplate
  else b.fostered (.endTag tag)

/-- **The rules for a table.** -/
def inTable (b : Builder) (token : Token) : Verdict :=
  match token with
  | .char _ => b.charInTable token
  | .comment text => .done (b.insertComment text)
  | .startTag tag => b.startInTable tag
  | .endTag tag => b.endInTable tag
  | .doctype _ | .flaw => .done b
  | .endOfFile => b.inBody token

/-- The waiting text finds its place: blank text stays in the table, any other goes in front. -/
def placePending (b : Builder) : Builder :=
  let text := b.pending.reverse
  let b := { b with pending := [] }
  if text.all isSpace then text.foldl insertChar b
  else text.foldl (fun b c => match b.fostered (.char c) with | .done b | .again b => b) b

/-- **The rules for text in a table.** -/
def inTableText (b : Builder) (token : Token) : Verdict :=
  match token with
  | .char c => .done (if c = '\x00' then b else { b with pending := c :: b.pending })
  | _ => .again { b.placePending with mode := b.resume }

/-- The caption ends. -/
def closeCaption (b : Builder) : Builder :=
  { (b.popImplied.popNamed "caption").clearToMarker with mode := .inTable }

/-- **The rules for a caption.** -/
def inCaption (b : Builder) (token : Token) : Verdict :=
  let isOpen := b.hasInScope "caption" Open.endsTableScope
  match token with
  | .startTag tag =>
    if ["caption", "col", "colgroup", "tbody", "td", "tfoot", "th", "thead", "tr"].contains
        tag.name then
      if isOpen then .again b.closeCaption else .done b
    else b.inBody token
  | .endTag tag =>
    if tag.name = "caption" then .done (if isOpen then b.closeCaption else b)
    else if tag.name = "table" then if isOpen then .again b.closeCaption else .done b
    else if ["body", "col", "colgroup", "html", "tbody", "td", "tfoot", "th", "thead",
        "tr"].contains tag.name then .done b
    else b.inBody token
  | _ => b.inBody token

/-- The column group ends because something else starts. -/
def leaveColumnGroup (b : Builder) : Verdict :=
  if b.at? "colgroup" then .again { b.pop with mode := .inTable } else .done b

/-- **The rules for a column group.** -/
def inColumnGroup (b : Builder) (token : Token) : Verdict :=
  match token with
  | .char c => if isSpace c then .done (b.insertChar c) else b.leaveColumnGroup
  | .comment text => .done (b.insertComment text)
  | .startTag tag =>
    if tag.name = "html" then .done (b.mergeRoot tag)
    else if tag.name = "col" then .done (b.insertVoid tag)
    else if tag.name = "template" then .done (b.startMetadata tag)
    else b.leaveColumnGroup
  | .endTag tag =>
    if tag.name = "colgroup" then
      .done (if b.at? "colgroup" then { b.pop with mode := .inTable } else b)
    else if tag.name = "col" then .done b
    else if tag.name = "template" then .done b.endTemplate
    else b.leaveColumnGroup
  | .doctype _ | .flaw => .done b
  | .endOfFile => b.inBody token

/-- Close elements until a section of a table, or what holds one, is innermost. -/
def clearToSection (b : Builder) : Builder := b.popTo (tableSectionNames ++ ["template", "html"])

/-- The section of a table ends. -/
def closeSection (b : Builder) : Builder := { b.clearToSection.pop with mode := .inTable }

/-- The section of a table ends because something else starts. -/
def leaveSection (b : Builder) : Verdict :=
  if b.inScope (·.isOneOf ["table", "tbody", "tfoot"]) Open.endsTableScope then .again b.closeSection
  else .done b

/-- **The rules for a section of a table.** -/
def inTableBody (b : Builder) (token : Token) : Verdict :=
  match token with
  | .startTag tag =>
    if tag.name = "tr" then .done { b.clearToSection.insert tag with mode := .inRow }
    else if cellNames.contains tag.name then
      .again { b.clearToSection.insertNamed "tr" with mode := .inRow }
    else if (["caption", "col", "colgroup"] ++ tableSectionNames).contains tag.name then
      b.leaveSection
    else b.inTable token
  | .endTag tag =>
    if tableSectionNames.contains tag.name then
      .done (if b.hasInScope tag.name Open.endsTableScope then b.closeSection else b)
    else if tag.name = "table" then b.leaveSection
    else if ["body", "caption", "col", "colgroup", "html", "td", "th", "tr"].contains tag.name then
      .done b
    else b.inTable token
  | _ => b.inTable token

/-- The row of a table ends. -/
def closeRow (b : Builder) : Builder :=
  { (b.popTo ["tr", "template", "html"]).pop with mode := .inTableBody }

/-- The row of a table ends because something else starts or ends. -/
def leaveRow (b : Builder) : Verdict :=
  if b.hasInScope "tr" Open.endsTableScope then .again b.closeRow else .done b

/-- **The rules for a row of a table.** -/
def inRow (b : Builder) (token : Token) : Verdict :=
  match token with
  | .startTag tag =>
    if cellNames.contains tag.name then
      .done { ((b.popTo ["tr", "template", "html"]).insert tag).mark with mode := .inCell }
    else if (["caption", "col", "colgroup", "tr"] ++ tableSectionNames).contains tag.name then
      b.leaveRow
    else b.inTable token
  | .endTag tag =>
    if tag.name = "tr" then
      .done (if b.hasInScope "tr" Open.endsTableScope then b.closeRow else b)
    else if tag.name = "table" then b.leaveRow
    else if tableSectionNames.contains tag.name then
      if b.hasInScope tag.name Open.endsTableScope then b.leaveRow else .done b
    else if ["body", "caption", "col", "colgroup", "html", "td", "th"].contains tag.name then .done b
    else b.inTable token
  | _ => b.inTable token

/-- The open cell ends because something else starts or ends. -/
def leaveCell (b : Builder) : Verdict :=
  .again { (b.popImplied.popThrough (·.isOneOf cellNames)).clearToMarker with mode := .inRow }

/-- **The rules for a cell of a table.** -/
def inCell (b : Builder) (token : Token) : Verdict :=
  match token with
  | .startTag tag =>
    if (["caption", "col", "colgroup", "tr"] ++ cellNames ++ tableSectionNames).contains tag.name then
      if b.inScope (·.isOneOf cellNames) Open.endsTableScope then b.leaveCell else .done b
    else b.inBody token
  | .endTag tag =>
    if cellNames.contains tag.name then
      .done <| if b.hasInScope tag.name Open.endsTableScope then
        { (b.popImplied.popNamed tag.name).clearToMarker with mode := .inRow } else b
    else if ["body", "caption", "col", "colgroup", "html"].contains tag.name then .done b
    else if tablePartNames.contains tag.name then
      if b.hasInScope tag.name Open.endsTableScope then b.leaveCell else .done b
    else b.inBody token
  | _ => b.inBody token

/-! ## Menus of options -/

/-- The menu ends, and with it its rules. -/
def closeSelect (b : Builder) : Builder := (b.popNamed "select").resetMode

/-- A start tag in a menu of options. -/
def startInSelect (b : Builder) (tag : Tag) : Verdict :=
  let name := tag.name
  let isOpen := b.hasInScope "select" Open.endsSelectScope
  if name = "html" then .done (b.mergeRoot tag)
  else if name = "option" then .done ((if b.at? "option" then b.pop else b).insert tag)
  else if name = "optgroup" then
    let b := if b.at? "option" then b.pop else b
    .done ((if b.at? "optgroup" then b.pop else b).insert tag)
  else if name = "select" then .done (if isOpen then b.closeSelect else b)
  else if ["input", "keygen", "textarea"].contains name then
    if isOpen then .again b.closeSelect else .done b
  else if name = "script" || name = "template" then .done (b.startMetadata tag)
  else .done b

/-- An end tag in a menu of options. -/
def endInSelect (b : Builder) (tag : Tag) : Builder :=
  let name := tag.name
  if name = "optgroup" then
    let second := (b.stack[1]?).any (·.isNamed "optgroup")
    let b := if b.at? "option" && second then b.pop else b
    if b.at? "optgroup" then b.pop else b
  else if name = "option" then if b.at? "option" then b.pop else b
  else if name = "select" then
    if b.hasInScope "select" Open.endsSelectScope then b.closeSelect else b
  else if name = "template" then b.endTemplate
  else b

/-- **The rules for a menu of options.** -/
def inSelect (b : Builder) (token : Token) : Verdict :=
  match token with
  | .char c => .done (if c = '\x00' then b else b.insertChar c)
  | .comment text => .done (b.insertComment text)
  | .startTag tag => b.startInSelect tag
  | .endTag tag => .done (b.endInSelect tag)
  | .doctype _ | .flaw => .done b
  | .endOfFile => b.inBody token

/-- **The rules for a menu of options in a table**: the parts of the table end the menu. -/
def inSelectInTable (b : Builder) (token : Token) : Verdict :=
  let parts := "caption" :: cellNames ++ tablePartNames
  match token with
  | .startTag tag => if parts.contains tag.name then .again b.closeSelect else b.inSelect token
  | .endTag tag =>
    if parts.contains tag.name then
      if b.hasInScope tag.name Open.endsTableScope then .again b.closeSelect else .done b
    else b.inSelect token
  | _ => b.inSelect token

end OpcodeTable.Html.Builder
