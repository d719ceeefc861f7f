import OpcodeTable.Html.Reference
import OpcodeTable.Html.Token

/-!
# Html/Lexer — from characters to tokens

The lexer takes one character at a time.  Each state has a function from the next character to the
following state and the tokens that are complete; a state that hands its character on to another
calls that state's function.
-/

namespace OpcodeTable.Html.Lexer

/-! ## States -/

/-- **Text that is not markup**: what an element holds whose content is read as plain characters. -/
inductive Raw where
  /-- character references are replaced -/
  | references
  | plain
  /-- nothing ends it -/
  | endless
  | script
  /-- a script inside a comment that has so many dashes right before this place, up to two -/
  | hidden (dashes : Nat)
  /-- a script inside a script inside a comment -/
  | nested (dashes : Nat)
  deriving DecidableEq, Repr

/-- **A tag being read**, its texts reversed. -/
structure TagDraft where
  closing : Bool
  name : List Char
  attributes : List Attribute := []
  selfClosing : Bool := false
  deriving DecidableEq, Repr

/-- **An attribute being read**, its texts reversed. -/
structure AttributeDraft where
  name : List Char
  value : List Char := []
  deriving DecidableEq, Repr

/-- What encloses an attribute's value: a quotation mark, or nothing. -/
abbrev Quote := Option Char

/-- **A document type being read**, its texts reversed. -/
structure DoctypeDraft where
  name : Option (List Char) := none
  publicId : Option (List Char) := none
  systemId : Option (List Char) := none
  broken : Bool := false
  deriving DecidableEq, Repr

/-- Which of the two identifiers of a document type is meant. -/
inductive Identifier where
  | publicId
  | systemId
  deriving DecidableEq, Repr

/-- Where a character reference stands. -/
inductive Site where
  | data
  | references
  | value (tag : TagDraft) (attr : AttributeDraft) (quote : Quote)
  deriving DecidableEq, Repr

/-- **The states of the lexer**, each named for what has just been read. -/
inductive State where
  | data
  | raw (kind : Raw)
  | reference (site : Site) (form : Reference.Form) (text : List Char)
  | tagOpen
  | endTagOpen
  | tagName (tag : TagDraft)
  | rawTagOpen (kind : Raw)
  | rawEndTagOpen (kind : Raw)
  | rawEndTagName (kind : Raw) (text : List Char)
  | scriptBang
  | scriptBangDash
  | hiddenTagName (text : List Char)
  | nestedTagOpen
  | nestedEndTagName (text : List Char)
  | beforeAttribute (tag : TagDraft)
  | attributeName (tag : TagDraft) (attr : AttributeDraft)
  | afterAttributeName (tag : TagDraft) (attr : AttributeDraft)
  | beforeValue (tag : TagDraft) (attr : AttributeDraft)
  | value (tag : TagDraft) (attr : AttributeDraft) (quote : Quote)
  | afterQuotedValue (tag : TagDraft)
  | selfClosing (tag : TagDraft)
  | declaration (text : List Char)
  | bogusComment (text : List Char)
  | commentStart
  | commentStartDash
  | comment (text : List Char)
  | commentDash (text : List Char)
  | commentEnd (text : List Char)
  | commentEndBang (text : List Char)
  | cdata
  | cdataBracket
  | cdataEnd
  | doctypeStart
  | doctypeName (doctype : DoctypeDraft)
  | afterDoctypeName (doctype : DoctypeDraft) (keyword : List Char)
  | afterKeyword (doctype : DoctypeDraft) (which : Identifier)
  | beforeIdentifier (doctype : DoctypeDraft) (which : Identifier)
  | identifier (doctype : DoctypeDraft) (which : Identifier) (quote : Char)
  | afterIdentifier (doctype : DoctypeDraft) (which : Identifier)
  | betweenIdentifiers (doctype : DoctypeDraft)
  | bogusDoctype (doctype : DoctypeDraft)
  deriving DecidableEq, Repr

/-- A state with the tokens completed on the way to it. -/
abbrev Step := State × List Token

/-! ## Characters -/

/-- A letter in lower case, and any other character as it is; only ASCII has case here. -/
def lower (c : Char) : Char := c.toLower

/-- A character of a name or a value, where NUL is replaced. -/
def visible (c : Char) : Char := if c = '\x00' then Reference.replacement else c

/-- The tokens of a text. -/
def chars (text : List Char) : List Token := text.map .char

/-- The text of reversed characters. -/
def text (reversed : List Char) : String := String.ofList reversed.reverse

/-! ## Finished tags and comments -/

/-- The tag with one more attribute, unless it has one of that name already. -/
def TagDraft.add (tag : TagDraft) (attr : AttributeDraft) : TagDraft :=
  let name := text attr.name
  if tag.attributes.any (·.name == name) then tag
  else { tag with attributes := ⟨name, text attr.value⟩ :: tag.attributes }

/-- The token of a finished tag. -/
def TagDraft.token (tag : TagDraft) : Token :=
  let done : Tag := ⟨text tag.name, tag.attributes.reverse, tag.selfClosing⟩
  if tag.closing then .endTag done else .startTag done

/-- A finished tag; text follows. -/
def finish (tag : TagDraft) : Step := (.data, [tag.token])

/-- A finished comment; text follows. -/
def finishComment (reversed : List Char) : Step := (.data, [.comment (text reversed)])

/-- The token of a finished document type. -/
def DoctypeDraft.token (doctype : DoctypeDraft) : Token :=
  .doctype ⟨doctype.name.map text, doctype.publicId.map text, doctype.systemId.map text,
    doctype.broken⟩

/-- A finished document type; text follows. -/
def finishDoctype (doctype : DoctypeDraft) : Step := (.data, [doctype.token])

/-! ## Text -/

/-- The next character of ordinary text. -/
def data (c : Char) : Step :=
  if c = '&' then (.reference .data .start [], [])
  else if c = '<' then (.tagOpen, [])
  else (.data, [.char c])

/-- The dashes before this place, after one more of them. -/
def oneMore (dashes : Nat) : Nat := min (dashes + 1) 2

/-- The next character of text that is not markup. -/
def raw (kind : Raw) (c : Char) : Step :=
  match kind with
  | .references =>
    if c = '&' then (.reference .references .start [], [])
    else if c = '<' then (.rawTagOpen kind, [])
    else (.raw kind, [.char (visible c)])
  | .plain | .script =>
    if c = '<' then (.rawTagOpen kind, []) else (.raw kind, [.char (visible c)])
  | .endless => (.raw kind, [.char (visible c)])
  | .hidden dashes =>
    if c = '<' then (.rawTagOpen (.hidden 0), [])
    else if c = '-' then (.raw (.hidden (oneMore dashes)), [.char c])
    else if c = '>' ∧ dashes = 2 then (.raw .script, [.char c])
    else (.raw (.hidden 0), [.char (visible c)])
  | .nested dashes =>
    if c = '<' then (.nestedTagOpen, [.char c])
    else if c = '-' then (.raw (.nested (oneMore dashes)), [.char c])
    else if c = '>' ∧ dashes = 2 then (.raw .script, [.char c])
    else (.raw (.nested 0), [.char (visible c)])

/-- Some text as it stands, and then the next character. -/
def emit (before : List Char) (step : Step) : Step := (step.1, chars before ++ step.2)

/-! ## Attributes -/

/-- The next character where an attribute may start. -/
def beforeAttribute (tag : TagDraft) (c : Char) : Step :=
  if isSpace c then (.beforeAttribute tag, [])
  else if c = '/' then (.selfClosing tag, [])
  else if c = '>' then finish tag
  else (.attributeName tag ⟨[lower (visible c)], []⟩, [])

/-- The next character of an attribute's name. -/
def attributeName (tag : TagDraft) (attr : AttributeDraft) (c : Char) : Step :=
  if isSpace c then (.afterAttributeName tag attr, [])
  else if c = '/' then (.selfClosing (tag.add attr), [])
  else if c = '=' then (.beforeValue tag attr, [])
  else if c = '>' then finish (tag.add attr)
  else (.attributeName tag { attr with name := lower (visible c) :: attr.name }, [])

/-- The next character after an attribute's name and blanks. -/
def afterAttributeName (tag : TagDraft) (attr : AttributeDraft) (c : Char) : Step :=
  if isSpace c then (.afterAttributeName tag attr, [])
  else if c = '=' then (.beforeValue tag attr, [])
  else beforeAttribute (tag.add attr) c

/-- The next character of a value. -/
def value (tag : TagDraft) (attr : AttributeDraft) (quote : Quote) (c : Char) : Step :=
  if c = '&' then (.reference (.value tag attr quote) .start [], [])
  else
    let longer := (.value tag { attr with value := visible c :: attr.value } quote, [])
    match quote with
    | some mark => if c = mark then (.afterQuotedValue (tag.add attr), []) else longer
    | none =>
      if isSpace c then (.beforeAttribute (tag.add attr), [])
      else if c = '>' then finish (tag.add attr)
      else longer

/-- The next character after an equals sign. -/
def beforeValue (tag : TagDraft) (attr : AttributeDraft) (c : Char) : Step :=
  if isSpace c then (.beforeValue tag attr, [])
  else if c = '"' ∨ c = '\'' then (.value tag attr (some c), [])
  else if c = '>' then finish (tag.add attr)
  else value tag attr none c

/-- The next character after a quoted value. -/
def afterQuotedValue (tag : TagDraft) (c : Char) : Step := beforeAttribute tag c

/-- The next character after a slash inside a tag. -/
def selfClosing (tag : TagDraft) (c : Char) : Step :=
  if c = '>' then finish { tag with selfClosing := true } else beforeAttribute tag c

/-! ## Tags -/

/-- The next character of a tag's name. -/
def tagName (tag : TagDraft) (c : Char) : Step :=
  if isSpace c then (.beforeAttribute tag, [])
  else if c = '/' then (.selfClosing tag, [])
  else if c = '>' then finish tag
  else (.tagName { tag with name := lower (visible c) :: tag.name }, [])

/-- The next character of a comment that does not look like one. -/
def bogusComment (reversed : List Char) (c : Char) : Step :=
  if c = '>' then finishComment reversed else (.bogusComment (visible c :: reversed), [])

/-- The next character after an opening angle bracket. -/
def tagOpen (c : Char) : Step :=
  if c = '!' then (.declaration [], [])
  else if c = '/' then (.endTagOpen, [])
  else if c = '?' then (.bogusComment ['?'], [])
  else if c.isAlpha then (.tagName { closing := false, name := [lower c] }, [])
  else emit ['<'] (data c)

/-- The next character after an opening angle bracket and a slash; an end tag needs a name. -/
def endTagOpen (c : Char) : Step :=
  if c = '>' then (.data, [.flaw])
  else if c.isAlpha then (.tagName { closing := true, name := [lower c] }, [])
  else bogusComment [] c

/-! ## Tags in text that is not markup -/

/-- The next character after an opening angle bracket in such text. -/
def rawTagOpen (kind : Raw) (c : Char) : Step :=
  if c = '/' then (.rawEndTagOpen kind, [])
  else if kind = .script ∧ c = '!' then (.scriptBang, chars ['<', '!'])
  else if kind = .hidden 0 ∧ c.isAlpha then (.hiddenTagName [lower c], chars ['<', c])
  else emit ['<'] (raw kind c)

/-- The next character after an opening angle bracket and a slash in such text. -/
def rawEndTagOpen (kind : Raw) (c : Char) : Step :=
  if c.isAlpha then (.rawEndTagName kind [c], []) else emit ['<', '/'] (raw kind c)

/-- The next character of a tag's name in such text: only the tag that ends the element counts. -/
def rawEndTagName (last : String) (kind : Raw) (reversed : List Char) (c : Char) : Step :=
  let tag : TagDraft := { closing := true, name := reversed.map lower }
  let ends := isSpace c || c == '/' || c == '>'
  if ends && text tag.name == last then tagName tag c
  else if c.isAlpha then (.rawEndTagName kind (c :: reversed), [])
  else emit ('<' :: '/' :: reversed.reverse) (raw kind c)

/-- The next character after the start of a comment in a script. -/
def scriptBang (c : Char) : Step :=
  if c = '-' then (.scriptBangDash, chars ['-']) else raw .script c

/-- The same after one dash. -/
def scriptBangDash (c : Char) : Step :=
  if c = '-' then (.raw (.hidden 2), chars ['-']) else raw .script c

/-- Whether a character ends a tag's name. -/
def endsName (c : Char) : Bool := isSpace c || c == '/' || c == '>'

/-- The next character of a tag's name in a hidden script: another script may start. -/
def hiddenTagName (reversed : List Char) (c : Char) : Step :=
  if endsName c then
    (.raw (if text reversed = "script" then .nested 0 else .hidden 0), chars [c])
  else if c.isAlpha then (.hiddenTagName (lower c :: reversed), chars [c])
  else raw (.hidden 0) c

/-- The next character after an opening angle bracket in a nested script. -/
def nestedTagOpen (c : Char) : Step :=
  if c = '/' then (.nestedEndTagName [], chars ['/']) else raw (.nested 0) c

/-- The next character of a tag's name in a nested script: the nested script may end. -/
def nestedEndTagName (reversed : List Char) (c : Char) : Step :=
  if endsName c then
    (.raw (if text reversed = "script" then .hidden 0 else .nested 0), chars [c])
  else if c.isAlpha then (.nestedEndTagName (lower c :: reversed), chars [c])
  else raw (.nested 0) c

/-! ## Character references -/

/-- The next character where a reference has been read in full. -/
def resume (site : Site) (characters : List Char) (c : Char) : Step :=
  match site with
  | .data => emit characters (data c)
  | .references => emit characters (raw .references c)
  | .value tag attr quote =>
    value tag { attr with value := characters.reverse ++ attr.value } quote c

/-- The state where a reference has been read in full, its semicolon included. -/
def close (site : Site) (characters : List Char) : Step :=
  match site with
  | .data => (.data, chars characters)
  | .references => (.raw .references, chars characters)
  | .value tag attr quote =>
    (.value tag { attr with value := characters.reverse ++ attr.value } quote, [])

/-- Whether a reference stands in an attribute. -/
def Site.inAttribute : Site → Bool
  | .value .. => true
  | .data | .references => false

/-- The flaw of a reference that no semicolon closes: a number needs one. -/
def flaws (form : Reference.Form) : List Token := if form.isNumber then [.flaw] else []

/-- The next character of a reference. -/
def reference (site : Site) (form : Reference.Form) (reversed : List Char) (c : Char) : Step :=
  match form.extend? c with
  | some longer => (.reference site longer (c :: reversed), [])
  | none =>
    if c = ';' ∧ form.closable then
      close site (Reference.resolve site.inAttribute form (c :: reversed).reverse none)
    else
      let step := resume site (Reference.resolve site.inAttribute form reversed.reverse (some c)) c
      (step.1, flaws form ++ step.2)

/-! ## Comments -/

/-- The next character of a comment. -/
def comment (reversed : List Char) (c : Char) : Step :=
  if c = '-' then (.commentDash reversed, []) else (.comment (visible c :: reversed), [])

/-- The next character at the start of a comment. -/
def commentStart (c : Char) : Step :=
  if c = '-' then (.commentStartDash, [])
  else if c = '>' then finishComment []
  else comment [] c

/-- The next character after one dash at the start of a comment. -/
def commentStartDash (c : Char) : Step :=
  if c = '-' then (.commentEnd [], [])
  else if c = '>' then finishComment []
  else comment ['-'] c

/-- The next character after one dash in a comment. -/
def commentDash (reversed : List Char) (c : Char) : Step :=
  if c = '-' then (.commentEnd reversed, []) else comment ('-' :: reversed) c

/-- The next character after two dashes in a comment. -/
def commentEnd (reversed : List Char) (c : Char) : Step :=
  if c = '>' then finishComment reversed
  else if c = '!' then (.commentEndBang reversed, [])
  else if c = '-' then (.commentEnd ('-' :: reversed), [])
  else comment ('-' :: '-' :: reversed) c

/-- The next character after two dashes and an exclamation mark in a comment. -/
def commentEndBang (reversed : List Char) (c : Char) : Step :=
  if c = '-' then (.commentDash ('!' :: '-' :: '-' :: reversed), [])
  else if c = '>' then finishComment reversed
  else comment ('!' :: '-' :: '-' :: reversed) c

/-! ## Document types -/

/-- Whether the letters, in any case, start the keyword. -/
def startsKeyword (keyword : String) (reversed : List Char) : Bool :=
  (reversed.map lower).reverse.isPrefixOf keyword.toList

/-- The document type with one more character of its name. -/
def DoctypeDraft.named (doctype : DoctypeDraft) (c : Char) : DoctypeDraft :=
  { doctype with name := some (lower (visible c) :: doctype.name.getD []) }

/-- The document type, marked as broken. -/
def DoctypeDraft.spoil (doctype : DoctypeDraft) : DoctypeDraft := { doctype with broken := true }

/-- The document type with an empty identifier. -/
def DoctypeDraft.clear (doctype : DoctypeDraft) : Identifier → DoctypeDraft
  | .publicId => { doctype with publicId := some [] }
  | .systemId => { doctype with systemId := some [] }

/-- The document type with one more character of an identifier. -/
def DoctypeDraft.push (doctype : DoctypeDraft) (c : Char) : Identifier → DoctypeDraft
  | .publicId => { doctype with publicId := some (visible c :: doctype.publicId.getD []) }
  | .systemId => { doctype with systemId := some (visible c :: doctype.systemId.getD []) }

/-- The next character before a document type's name. -/
def doctypeStart (c : Char) : Step :=
  if isSpace c then (.doctypeStart, [])
  else if c = '>' then finishDoctype { broken := true }
  else (.doctypeName (DoctypeDraft.named {} c), [])

/-- The next character of a document type's name. -/
def doctypeName (doctype : DoctypeDraft) (c : Char) : Step :=
  if isSpace c then (.afterDoctypeName doctype [], [])
  else if c = '>' then finishDoctype doctype
  else (.doctypeName (doctype.named c), [])

/-- The next character of a malformed document type. -/
def bogusDoctype (doctype : DoctypeDraft) (c : Char) : Step :=
  if c = '>' then finishDoctype doctype else (.bogusDoctype doctype, [])

/-- The next character after a document type's name: a keyword may follow. -/
def afterDoctypeName (doctype : DoctypeDraft) (keyword : List Char) (c : Char) : Step :=
  let longer := c :: keyword
  if text (longer.map lower) = "public" then (.afterKeyword doctype .publicId, [])
  else if text (longer.map lower) = "system" then (.afterKeyword doctype .systemId, [])
  else if startsKeyword "public" longer || startsKeyword "system" longer then
    (.afterDoctypeName doctype longer, [])
  else if keyword.isEmpty && isSpace c then (.afterDoctypeName doctype [], [])
  else if keyword.isEmpty && c == '>' then finishDoctype doctype
  else bogusDoctype doctype.spoil c

/-- The next character before an identifier. -/
def beforeIdentifier (doctype : DoctypeDraft) (which : Identifier) (c : Char) : Step :=
  if isSpace c then (.beforeIdentifier doctype which, [])
  else if c = '"' ∨ c = '\'' then (.identifier (doctype.clear which) which c, [])
  else bogusDoctype doctype.spoil c

/-- The next character of an identifier. -/
def identifier (doctype : DoctypeDraft) (which : Identifier) (quote : Char) (c : Char) : Step :=
  if c = quote then (.afterIdentifier doctype which, [])
  else if c = '>' then finishDoctype doctype.spoil
  else (.identifier (doctype.push c which) which quote, [])

/-- The next character where a system identifier may start. -/
def betweenIdentifiers (doctype : DoctypeDraft) (c : Char) : Step :=
  if isSpace c then (.betweenIdentifiers doctype, [])
  else if c = '>' then finishDoctype doctype
  else if c = '"' ∨ c = '\'' then (.identifier (doctype.clear .systemId) .systemId c, [])
  else (.bogusDoctype doctype.spoil, [])

/-- The next character after an identifier. -/
def afterIdentifier (doctype : DoctypeDraft) (which : Identifier) (c : Char) : Step :=
  match which with
  | .publicId => betweenIdentifiers doctype c
  | .systemId =>
    if isSpace c then (.afterIdentifier doctype .systemId, []) else bogusDoctype doctype c

/-! ## Declarations -/

/-- The next character after an opening angle bracket and an exclamation mark.  `foreign` says that
the innermost open element is none of HTML's own, so that marked sections are possible. -/
def declaration (foreign : Bool) (reversed : List Char) (c : Char) : Step :=
  let longer := c :: reversed
  if text longer = "--" then (.commentStart, [])
  else if text (longer.map lower) = "doctype" then (.doctypeStart, [])
  else if foreign && text longer = "[CDATA[" then (.cdata, [])
  else if startsKeyword "--" longer || startsKeyword "doctype" longer
      || (foreign && longer.reverse.isPrefixOf "[CDATA[".toList) then (.declaration longer, [])
  else bogusComment reversed c

/-- The next character of a marked section. -/
def cdata (c : Char) : Step := if c = ']' then (.cdataBracket, []) else (.cdata, [.char c])

/-- The same after one closing bracket. -/
def cdataBracket (c : Char) : Step :=
  if c = ']' then (.cdataEnd, []) else emit [']'] (cdata c)

/-- The same after two closing brackets. -/
def cdataEnd (c : Char) : Step :=
  if c = '>' then (.data, [])
  else if c = ']' then (.cdataEnd, [.char c])
  else emit [']', ']'] (cdata c)

/-! ## The lexer -/

end Lexer

/-- **A lexer**: its state, and the name of the last opening tag, which ends raw text. -/
structure Lexer where
  state : Lexer.State := .data
  lastStart : String := ""
  deriving DecidableEq, Repr

namespace Lexer

/-- The next character in any state. -/
def next (lexer : Lexer) (foreign : Bool) (c : Char) : Step :=
  match lexer.state with
  | .data => data c
  | .raw kind => raw kind c
  | .reference site form reversed => reference site form reversed c
  | .tagOpen => tagOpen c
  | .endTagOpen => endTagOpen c
  | .tagName tag => tagName tag c
  | .rawTagOpen kind => rawTagOpen kind c
  | .rawEndTagOpen kind => rawEndTagOpen kind c
  | .rawEndTagName kind reversed => rawEndTagName lexer.lastStart kind reversed c
  | .scriptBang => scriptBang c
  | .scriptBangDash => scriptBangDash c
  | .hiddenTagName reversed => hiddenTagName reversed c
  | .nestedTagOpen => nestedTagOpen c
  | .nestedEndTagName reversed => nestedEndTagName reversed c
  | .beforeAttribute tag => beforeAttribute tag c
  | .attributeName tag attr => attributeName tag attr c
  | .afterAttributeName tag attr => afterAttributeName tag attr c
  | .beforeValue tag attr => beforeValue tag attr c
  | .value tag attr quote => value tag attr quote c
  | .afterQuotedValue tag => afterQuotedValue tag c
  | .selfClosing tag => selfClosing tag c
  | .declaration reversed => declaration foreign reversed c
  | .bogusComment reversed => bogusComment reversed c
  | .commentStart => commentStart c
  | .commentStartDash => commentStartDash c
  | .comment reversed => comment reversed c
  | .commentDash reversed => commentDash reversed c
  | .commentEnd reversed => commentEnd reversed c
  | .commentEndBang reversed => commentEndBang reversed c
  | .cdata => cdata c
  | .cdataBracket => cdataBracket c
  | .cdataEnd => cdataEnd c
  | .doctypeStart => doctypeStart c
  | .doctypeName doctype => doctypeName doctype c
  | .afterDoctypeName doctype keyword => afterDoctypeName doctype keyword c
  | .afterKeyword doctype which | .beforeIdentifier doctype which =>
    beforeIdentifier doctype which c
  | .identifier doctype which quote => identifier doctype which quote c
  | .afterIdentifier doctype which => afterIdentifier doctype which c
  | .betweenIdentifiers doctype => betweenIdentifiers doctype c
  | .bogusDoctype doctype => bogusDoctype doctype c

/-- **The tokens that the end of the text completes**: what looked like the start of a tag is text,
a comment and a document type are over, and an unfinished tag is dropped. -/
def rest (lexer : Lexer) : List Token :=
  match lexer.state with
  | .tagOpen | .rawTagOpen _ => chars ['<']
  | .endTagOpen | .rawEndTagOpen _ => chars ['<', '/']
  | .rawEndTagName _ reversed => chars ('<' :: '/' :: reversed.reverse)
  | .reference site form reversed =>
    flaws form ++ (close site (Reference.resolve site.inAttribute form reversed.reverse none)).2
  | .commentStart | .commentStartDash => [.comment ""]
  | .declaration reversed | .bogusComment reversed | .comment reversed | .commentDash reversed
  | .commentEnd reversed | .commentEndBang reversed => [.comment (text reversed)]
  | .cdataBracket => chars [']']
  | .cdataEnd => chars [']', ']']
  | .doctypeStart => [DoctypeDraft.token { broken := true }]
  | .doctypeName doctype | .afterDoctypeName doctype _ | .afterKeyword doctype _
  | .beforeIdentifier doctype _ | .identifier doctype _ _ | .afterIdentifier doctype _
  | .betweenIdentifiers doctype => [doctype.spoil.token]
  | .bogusDoctype doctype => [doctype.token]
  | .data | .raw _ | .tagName _ | .scriptBang | .scriptBangDash | .hiddenTagName _
  | .nestedTagOpen | .nestedEndTagName _ | .beforeAttribute _ | .attributeName ..
  | .afterAttributeName .. | .beforeValue .. | .value .. | .afterQuotedValue _ | .selfClosing _
  | .cdata => []

end Lexer

end OpcodeTable.Html
