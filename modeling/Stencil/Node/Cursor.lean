import Stencil.Error
import Stencil.Node.Basic
import Stencil.Text.Blank
import Stencil.Text.Find

/-!
# From tokens to nodes

A cursor stands on one token of a row and only moves forward. A row that does not end with the end
of the source gets one. Reading turns the tokens up to the first end into nodes, one each; the mark
of a block's end has no node.

* `Cursor.ofTokens_ends`: a new cursor stands on a row whose last token is an end.
* `Cursor.next_ends`, `Cursor.read_ends`: moving and reading keep that.
-/

namespace Stencil

open Stencil.Text

/-- A row of tokens with one marked: the tokens before it in reverse, it, and those after it. -/
structure Cursor where
  passed : List Token
  current : Token
  ahead : List Token
deriving DecidableEq, Repr

namespace Cursor

/-- The whole row. -/
def tokens (c : Cursor) : List Token := c.passed.reverse ++ c.current :: c.ahead

/-- Whether the last token of the row is an end. -/
def Ends (c : Cursor) : Prop := ∃ t, c.tokens.getLast? = some t ∧ t.kind = .ending

/-- The tokens with an end behind the last one, if that is no end itself. -/
def closed (tokens : List Token) : List Token :=
  match tokens.getLast? with
  | none => [.endingAt .start]
  | some last => if last.kind = .ending then tokens else tokens ++ [.endingAt last.position]

/-- A cursor on the first token. -/
def ofTokens (tokens : List Token) : Cursor :=
  match closed tokens with
  | [] => ⟨[], .endingAt .start, []⟩
  | first :: rest => ⟨[], first, rest⟩

/-- Moves on by one token, as long as there is one. -/
def next (c : Cursor) : Cursor :=
  match c.ahead with
  | [] => c
  | t :: rest => ⟨c.current :: c.passed, t, rest⟩

/-- Whether the current token is of the kind. -/
def test (c : Cursor) (kind : TokenKind) : Bool := c.current.kind = kind

/-- Takes a token of the kind and moves on, or says what stands there. -/
def expect (template : String) (c : Cursor) (kind : TokenKind) :
    Except SyntaxError Token × Cursor :=
  if c.test kind then (.ok c.current, c.next)
  else (.error (.unexpected template kind c.current), c)

end Cursor

namespace Node

/-- The name of a directive and its arguments, which the first blank separates. -/
def splitDirective (content : List Char) : List Char × List Char :=
  let content := content.dropWhile (· == '@')
  (content.takeWhile fun c => !isBlank c, trimmed (content.dropWhile fun c => !isBlank c))

/-- The expression of a tag with leading exclamation marks. -/
def rawExpression (content : List Char) : List Char :=
  dropBlanks (content.dropWhile (· == '!'))

/-- The name in a tag that opens a block: without the mark in front and the one behind. -/
def blockName (content : List Char) : List Char :=
  let content := (after? ['\x7b', '%'] content).getD content
  trimmed ((before? ['%', '\x7d'] content).getD content)

/-- The node of a token, unless it marks an end. -/
def ofToken? (t : Token) : Option Node :=
  let content := t.value.toList
  let line := t.position.line
  match t.kind with
  | .text => some (.text t.value line)
  | .echo => some (.echo t.value line)
  | .rawEcho => some (.rawEcho (String.ofList (rawExpression content)) line)
  | .comment => some (.comment t.value line)
  | .directive =>
      let (name, arguments) := splitDirective content
      some (.directive (String.ofList name) (String.ofList arguments) line)
  | .blockStart => some (.block (String.ofList (blockName content)) line [])
  | .blockEnd | .ending => none

end Node

namespace Cursor

/-- The nodes of the tokens from `current` up to the first end, and the cursor
where reading stops. -/
def readFrom (template : String) (passed : List Token) (current : Token) :
    List Token → Except SyntaxError (List Node) × Cursor
  | [] =>
      if current.kind = .ending then (.ok [], ⟨passed, current, []⟩)
      else
        match Node.ofToken? current with
        | none => (.error (.unexpected template .text current), ⟨passed, current, []⟩)
        | some node => (.ok [node], ⟨passed, current, []⟩)
  | t :: rest =>
      if current.kind = .ending then (.ok [], ⟨passed, current, t :: rest⟩)
      else
        match Node.ofToken? current with
        | none => (.error (.unexpected template .text current), ⟨passed, current, t :: rest⟩)
        | some node =>
            match readFrom template (current :: passed) t rest with
            | (.ok nodes, c) => (.ok (node :: nodes), c)
            | (.error e, c) => (.error e, c)

/-- The nodes from the current token up to the first end. -/
def read (template : String) (c : Cursor) : Except SyntaxError (List Node) × Cursor :=
  readFrom template c.passed c.current c.ahead

theorem readFrom_tokens (template : String) (passed : List Token) (current : Token)
    (ahead : List Token) :
    (readFrom template passed current ahead).2.tokens = passed.reverse ++ current :: ahead := by
  induction ahead generalizing passed current with
  | nil =>
      simp only [readFrom]
      split
      · rfl
      · split <;> rfl
  | cons t rest ih =>
      have moved := ih (current :: passed) t
      simp only [readFrom]
      split
      · rfl
      · split
        · rfl
        · split <;> simp_all

/-- Reading leaves the row as it is. -/
theorem read_tokens (template : String) (c : Cursor) : (read template c).2.tokens = c.tokens :=
  readFrom_tokens template c.passed c.current c.ahead

theorem next_tokens (c : Cursor) : c.next.tokens = c.tokens := by
  unfold next
  split <;> simp_all [tokens]

theorem closed_ends (ts : List Token) : ∃ t, (closed ts).getLast? = some t ∧ t.kind = .ending := by
  unfold closed
  split
  · exact ⟨_, rfl, rfl⟩
  · rename_i last found
    split
    · exact ⟨last, found, ‹_›⟩
    · exact ⟨.endingAt last.position, by simp, rfl⟩

theorem ofTokens_tokens (ts : List Token) : (ofTokens ts).tokens = closed ts := by
  unfold ofTokens
  split
  · rename_i h
    obtain ⟨t, found, _⟩ := closed_ends ts
    simp [h] at found
  · rename_i h
    simp [tokens, h]

theorem ofTokens_ends (ts : List Token) : (ofTokens ts).Ends := by
  unfold Ends
  rw [ofTokens_tokens]
  exact closed_ends ts

theorem next_ends {c : Cursor} (h : c.Ends) : c.next.Ends := by
  unfold Ends at h ⊢
  rwa [next_tokens]

theorem read_ends {c : Cursor} (template : String) (h : c.Ends) : (read template c).2.Ends := by
  unfold Ends at h ⊢
  rwa [read_tokens]

end Cursor

/-- The tree of a row of tokens. -/
def Node.ofTokens (template : String) (tokens : List Token) : Except SyntaxError Node :=
  (Cursor.read template (.ofTokens tokens)).1.map .root

end Stencil
