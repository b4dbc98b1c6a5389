/-!
# Tokens

A template is a row of tokens: plain text and tags. A token knows the place in the source at which
it begins.
-/

namespace Stencil

/-- A line and a column, both from one. Columns count characters. -/
structure Position where
  line : Nat
  column : Nat
deriving DecidableEq, Repr

/-- The first place of a source. -/
def Position.start : Position := ⟨1, 1⟩

/-- The place behind one character. -/
def Position.step (p : Position) (c : Char) : Position :=
  if c = '\n' then ⟨p.line + 1, 1⟩ else ⟨p.line, p.column + 1⟩

/-- The place behind a text. -/
def Position.after (p : Position) (cs : List Char) : Position := cs.foldl Position.step p

/-- What a token is. -/
inductive TokenKind where
  | text
  | echo
  | blockStart
  | blockEnd
  | comment
  | rawEcho
  | directive
  | ending
deriving DecidableEq, Repr

namespace TokenKind

/-- The name of the kind in messages. -/
def label : TokenKind → String
  | text => "Text"
  | echo => "Variable"
  | blockStart => "Block Start"
  | blockEnd => "Block End"
  | comment => "Comment"
  | rawEcho => "Raw Output"
  | directive => "Directive"
  | ending => "End of File"

/-- Whether tokens of the kind make output or logic. -/
def isExecutable : TokenKind → Bool
  | text | comment | ending => false
  | echo | blockStart | blockEnd | rawEcho | directive => true

/-- The kind of a tag by the mark at the front of its content. -/
def ofContent : List Char → TokenKind
  | '#' :: _ => comment
  | '@' :: _ => directive
  | '\x7b' :: '%' :: _ => blockStart
  | '%' :: '\x7d' :: _ => blockEnd
  | '!' :: _ => rawEcho
  | _ => echo

end TokenKind

/-- A token: its kind, its text (for a tag the content without delimiters and outer blanks) and the
place where it begins. -/
structure Token where
  kind : TokenKind
  value : String
  position : Position
deriving DecidableEq, Repr

/-- The end of a source. -/
def Token.endingAt (p : Position) : Token := ⟨.ending, "", p⟩

/-- The token for people to read. -/
def Token.describe (t : Token) : String :=
  t.kind.label ++ "(\"" ++ t.value ++ "\") at line " ++ toString t.position.line ++ ", column " ++
    toString t.position.column

theorem Position.after_append (p : Position) (a b : List Char) :
    p.after (a ++ b) = (p.after a).after b := by
  simp [Position.after]

end Stencil
