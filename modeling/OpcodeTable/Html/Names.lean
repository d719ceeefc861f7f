import OpcodeTable.Html.Token

/-!
# Html/Names — the classes of element names that the rules for pages speak of
-/

namespace OpcodeTable.Html

/-- Elements of mathematics whose text is read by HTML's rules. -/
def textPointNames : List String := ["mi", "mo", "mn", "ms", "mtext"]

/-- Elements of a drawing whose content is read by HTML's rules. -/
def htmlPointNames : List String := ["foreignObject", "desc", "title"]

/-- HTML's elements that end every search for an open element. -/
def scopeNames : List String :=
  ["applet", "caption", "html", "table", "td", "th", "marquee", "object", "template"]

/-- **What an element fences off**: the searches for open elements that end at it. -/
inductive Fence where
  | nothing
  | paragraphs
  | items
  | all
  deriving DecidableEq, Repr

/-- The fence of an element. -/
def Fence.of (space : Space) (name : String) : Fence :=
  match space with
  | .html =>
    if scopeNames.contains name then .all
    else if name = "button" then .paragraphs
    else if name = "ol" ∨ name = "ul" then .items
    else .nothing
  | .svg => if htmlPointNames.contains name then .all else .nothing
  | .mathML => if textPointNames.contains name then .all else .nothing

/-- **An open element**: its number in the page, and its name. -/
structure Open where
  id : Nat
  space : Space
  name : String
  fence : Fence := Fence.of space name
  deriving DecidableEq, Repr

namespace Open

/-- One of HTML's own elements with one of the given names. -/
def isOneOf (names : List String) (element : Open) : Bool :=
  element.space == .html && names.contains element.name

/-- HTML's own element with the given name. -/
def isNamed (name : String) (element : Open) : Bool :=
  element.space == .html && element.name == name

/-- An element of mathematics whose text is read by HTML's rules. -/
def isTextPoint (element : Open) : Bool :=
  element.space == .mathML && textPointNames.contains element.name

/-- An element of a drawing whose content is read by HTML's rules. -/
def isHtmlPoint (element : Open) : Bool :=
  element.space == .svg && htmlPointNames.contains element.name

/-- An element at which a foreign vocabulary gives way to HTML's rules. -/
def isBoundary (element : Open) : Bool :=
  element.space == .html || element.isTextPoint || element.isHtmlPoint

/-! ## Scopes -/

/-- An element that ends every search for an open element, lists and buttons apart. -/
def endsScope (element : Open) : Bool := element.fence == .all

/-- An element that ends a search for a list item. -/
def endsListScope (element : Open) : Bool := element.fence == .all || element.fence == .items

/-- An element that ends a search for a paragraph. -/
def endsButtonScope (element : Open) : Bool := element.fence == .all || element.fence == .paragraphs

/-- An element that ends a search for a part of a table. -/
def endsTableScope (element : Open) : Bool := element.isOneOf ["html", "table", "template"]

/-- An element that ends a search for a menu of options: any but the options themselves. -/
def endsSelectScope (element : Open) : Bool := !element.isOneOf ["optgroup", "option"]

end Open

/-! ## Lists of names -/

/-- Elements with rules of their own. -/
def specialNames : List String :=
  ["address", "applet", "area", "article", "aside", "base", "basefont", "bgsound", "blockquote",
   "body", "br", "button", "caption", "center", "col", "colgroup", "dd", "details", "dir", "div",
   "dl", "dt", "embed", "fieldset", "figcaption", "figure", "footer", "form", "frame", "frameset",
   "h1", "h2", "h3", "h4", "h5", "h6", "head", "header", "hgroup", "hr", "html", "iframe", "img",
   "input", "isindex", "li", "link", "listing", "main", "marquee", "menu", "meta", "nav", "noembed",
   "noframes", "noscript", "object", "ol", "p", "param", "plaintext", "pre", "script", "section",
   "select", "source", "style", "summary", "table", "tbody", "td", "template", "textarea", "tfoot",
   "th", "thead", "title", "tr", "track", "ul", "wbr", "xmp"]

/-- Elements whose end may be left out where another ends or starts. -/
def impliedEndNames : List String :=
  ["dd", "dt", "li", "option", "optgroup", "p", "rb", "rp", "rt", "rtc"]

/-- The same, where the end of a template closes whatever is open. -/
def thoroughEndNames : List String :=
  impliedEndNames ++ ["caption", "colgroup", "tbody", "td", "tfoot", "th", "thead", "tr"]

/-- The headings of all ranks. -/
def headingNames : List String := ["h1", "h2", "h3", "h4", "h5", "h6"]

/-- Elements that take what belongs in no table out of a table. -/
def tablePartNames : List String := ["table", "tbody", "tfoot", "thead", "tr"]

/-- The sections of a table. -/
def tableSectionNames : List String := ["tbody", "tfoot", "thead"]

/-- The cells of a table. -/
def cellNames : List String := ["td", "th"]

/-- Elements of the head of a page. -/
def metadataNames : List String :=
  ["base", "basefont", "bgsound", "link", "meta", "noframes", "script", "style", "template", "title"]

/-- Elements that start a block and end a paragraph. -/
def blockNames : List String :=
  ["address", "article", "aside", "blockquote", "center", "details", "dialog", "dir", "div", "dl",
   "fieldset", "figcaption", "figure", "footer", "header", "hgroup", "main", "menu", "nav", "ol",
   "p", "search", "section", "summary", "ul"]

/-- Elements that an end tag of their own closes, with all that is open inside. -/
def blockEndNames : List String :=
  ["address", "article", "aside", "blockquote", "button", "center", "details", "dialog", "dir",
   "div", "dl", "fieldset", "figcaption", "figure", "footer", "header", "hgroup", "listing", "main",
   "menu", "nav", "ol", "pre", "search", "section", "summary", "ul"]

/-- Elements that only mark up text, and are opened again where a block cuts them short. -/
def formattingNames : List String :=
  ["b", "big", "code", "em", "font", "i", "s", "small", "strike", "strong", "tt", "u"]

/-- Tags that end a foreign vocabulary. -/
def breakoutNames : List String :=
  ["b", "big", "blockquote", "body", "br", "center", "code", "dd", "div", "dl", "dt", "em", "embed",
   "h1", "h2", "h3", "h4", "h5", "h6", "head", "hr", "i", "img", "li", "listing", "menu", "meta",
   "nobr", "ol", "p", "pre", "ruby", "s", "small", "span", "strong", "strike", "sub", "sup",
   "table", "tt", "u", "ul", "var"]

/-! ## Document types that ask for the oldest layout rules -/

/-- Public identifiers that ask for them, in lower case. -/
def oldPublicIds : List String :=
  ["-//w3o//dtd w3 html strict 3.0//en//", "-/w3c/dtd html 4.0 transitional/en", "html"]

/-- System identifiers that ask for them. -/
def oldSystemIds : List String := ["http://www.ibm.com/data/dtd/v11/ibmxhtml1-transitional.dtd"]

/-- Starts of public identifiers that ask for them. -/
def oldPublicStarts : List String :=
  ["-//as//dtd html 3.0 aswedit + extensions//",
   "-//advasoft ltd//dtd html 3.0 aswedit + extensions//", "-//ietf//dtd html 2.0 level 1//",
   "-//ietf//dtd html 2.0 level 2//", "-//ietf//dtd html 2.0 strict level 1//",
   "-//ietf//dtd html 2.0 strict level 2//", "-//ietf//dtd html 2.0 strict//",
   "-//ietf//dtd html 2.0//", "-//ietf//dtd html 2.1e//", "-//ietf//dtd html 3.0//",
   "-//ietf//dtd html 3.2 final//", "-//ietf//dtd html 3.2//", "-//ietf//dtd html 3//",
   "-//ietf//dtd html level 0//", "-//ietf//dtd html level 1//", "-//ietf//dtd html level 2//",
   "-//ietf//dtd html level 3//", "-//ietf//dtd html strict level 0//",
   "-//ietf//dtd html strict level 1//", "-//ietf//dtd html strict level 2//",
   "-//ietf//dtd html strict level 3//", "-//ietf//dtd html strict//", "-//ietf//dtd html//",
   "-//metrius//dtd metrius presentational//",
   "-//microsoft//dtd internet explorer 2.0 html strict//",
   "-//microsoft//dtd internet explorer 2.0 html//",
   "-//microsoft//dtd internet explorer 2.0 tables//",
   "-//microsoft//dtd internet explorer 3.0 html strict//",
   "-//microsoft//dtd internet explorer 3.0 html//",
   "-//microsoft//dtd internet explorer 3.0 tables//", "-//netscape comm. corp.//dtd html//",
   "-//netscape comm. corp.//dtd strict html//", "-//o'reilly and associates//dtd html 2.0//",
   "-//o'reilly and associates//dtd html extended 1.0//",
   "-//o'reilly and associates//dtd html extended relaxed 1.0//",
   "-//softquad software//dtd hotmetal pro 6.0::19990601::extensions to html 4.0//",
   "-//softquad//dtd hotmetal pro 4.0::19971010::extensions to html 4.0//",
   "-//spyglass//dtd html 2.0 extended//", "-//sq//dtd html 2.0 hotmetal + extensions//",
   "-//sun microsystems corp.//dtd hotjava html//",
   "-//sun microsystems corp.//dtd hotjava strict html//", "-//w3c//dtd html 3 1995-03-24//",
   "-//w3c//dtd html 3.2 draft//", "-//w3c//dtd html 3.2 final//", "-//w3c//dtd html 3.2//",
   "-//w3c//dtd html 3.2s draft//", "-//w3c//dtd html 4.0 frameset//",
   "-//w3c//dtd html 4.0 transitional//", "-//w3c//dtd html experimental 19960712//",
   "-//w3c//dtd html experimental 970421//", "-//w3c//dtd w3 html//", "-//w3o//dtd w3 html 3.0//",
   "-//webtechs//dtd mozilla html 2.0//", "-//webtechs//dtd mozilla html//"]

/-- Starts of public identifiers that ask for them where no system identifier is given. -/
def oldPublicStartsAlone : List String :=
  ["-//w3c//dtd html 4.01 frameset//", "-//w3c//dtd html 4.01 transitional//"]

/-- **Whether a document type asks for the oldest layout rules**, by which a table may stand in a
paragraph. -/
def Doctype.isOld (doctype : Doctype) : Bool :=
  let publicId := doctype.publicId.map String.toLower
  let systemId := doctype.systemId.map String.toLower
  let starts := fun (names : List String) => publicId.any fun id => names.any (·.toList.isPrefixOf id.toList)
  doctype.broken || doctype.name != some "html" || publicId.any oldPublicIds.contains
    || systemId.any oldSystemIds.contains || starts oldPublicStarts
    || (starts oldPublicStartsAlone && systemId.isNone)

end OpcodeTable.Html
