import OpcodeTable.Html.Rules.Whole

/-!
# Html/Reader — from the text of a page to its elements

Reading is total: every text is a page.
-/

namespace OpcodeTable.Html

/-- **A page being read**: the lexer, and the page so far. -/
structure Reader where
  lexer : Lexer := {}
  builder : Builder := {}
  /-- whether a byte order mark that comes next is left out: where the text starts, and where it
  goes on after a script -/
  atStart : Bool := true

namespace Reader

/-- Whether a token ends a script, so that the text goes on after it. -/
def endsScript (builder : Builder) : Token → Bool
  | .endTag tag => builder.mode = .inText && tag.name == "script"
  | _ => false

/-- Take in one token.  A start tag is remembered, for its end tag ends raw text; and the page may
tell the lexer what to read next. -/
def token : Reader → Token → Reader
  | ⟨lexer, builder, atStart⟩, token =>
    let atStart := atStart || endsScript builder token
    let builder := builder.accept token
    let lexer := match token with
      | .startTag tag => { lexer with lastStart := tag.name }
      | _ => lexer
    match builder.content with
    | some kind => ⟨{ lexer with state := .raw kind }, { builder with content := none }, atStart⟩
    | none => ⟨lexer, builder, atStart⟩

/-- A byte order mark. -/
def mark : Char := Char.ofNat 0xFEFF

/-- Take in one character. -/
def char : Reader → Char → Reader
  | ⟨lexer, builder, atStart⟩, c =>
    if atStart ∧ c = mark then ⟨lexer, builder, false⟩
    else
      let (state, tokens) := lexer.next builder.isForeign c
      tokens.foldl token ⟨{ lexer with state }, builder, false⟩

/-- The page that has been read, once the text has ended. -/
def finish (reader : Reader) : Document :=
  ((reader.lexer.rest ++ [Token.endOfFile]).foldl token reader).builder.arena.page

end Reader

/-- The text with each line end written as one line feed. -/
def unifyLineEnds : List Char → List Char
  | [] => []
  | '\r' :: '\n' :: rest => '\n' :: unifyLineEnds rest
  | '\r' :: rest => '\n' :: unifyLineEnds rest
  | c :: rest => c :: unifyLineEnds rest

/-- **The page that a text describes.** -/
def parse (text : List Char) : Document := ((unifyLineEnds text).foldl Reader.char {}).finish

end OpcodeTable.Html
