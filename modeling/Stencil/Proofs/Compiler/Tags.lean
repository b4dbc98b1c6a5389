import Stencil.Engine
import Stencil.Proofs.Compiler.Instructions
import Stencil.Proofs.Token.Cutting

/-!
# Instructions written as tags

Every instruction that steers or prints has a tag, and every literal is a text. An engine's compiler
makes the instruction of the tag again, if the tag ends where it should and if what is written in it
is trimmed and is not taken for something else.

1. `Node.ofToken?_directive`: how the tag of a directive is read.
2. `Engine.makes_written`: what the compiler makes of a written instruction.
3. `Engine.compile_written`: what it makes of a source that is written from instructions.
-/

namespace Stencil

open Stencil.Text

/-! ## Writing -/

namespace Piece

/-- A tag with blanks around its content. -/
def spaced (content : String) : Piece := .tag (' ' :: (content.toList ++ [' ']))

def mark (name : String) : Piece := spaced ("@" ++ name)

/-- The tag of a directive with arguments. -/
def directive (name arguments : String) : Piece := spaced ("@" ++ name ++ " " ++ arguments)

/-- The tag of a directive with a name in quotes. -/
def named (name argument : String) : Piece := directive name ("\"" ++ argument ++ "\"")

end Piece

def Control.written : Control → Piece
  | openIf condition => .directive "if" condition
  | elseIf condition => .directive "elseif" condition
  | otherwise => .mark "else"
  | closeIf => .mark "endif"
  | openForeach expression => .directive "foreach" expression
  | closeForeach => .mark "endforeach"
  | openFor expression => .directive "for" expression
  | closeFor => .mark "endfor"
  | openWhile condition => .directive "while" condition
  | closeWhile => .mark "endwhile"
  | insert template => .named "include" template
  | inherit template => .named "extends" template

namespace Instruction

/-- The text or tag of an instruction. -/
def written : Instruction → Piece
  | literal text => .text text.toList
  | echo expression none _ => .spaced ("!" ++ expression)
  | echo expression (some _) _ => .spaced expression
  | comment text => .spaced text
  | unknownDirective name _ => .mark name
  | openBlock name => .named "block" name
  | closeBlock => .mark "endblock"
  | control op => op.written

/-- The instruction on another line. -/
def onLine (line : Nat) : Instruction → Instruction
  | echo expression strategy _ => echo expression strategy line
  | i => i

def source (row : List Instruction) : String :=
  String.ofList ((row.map written).flatMap (Piece.source .braces))

/-- The instructions with the lines on which they stand when they are written from a place on. -/
def lined (p : Position) : List Instruction → List Instruction
  | [] => []
  | i :: rest => i.onLine p.line :: lined (p.after (i.written.source .braces)) rest

end Instruction

/-! ## What may be written -/

/-- The text does not end a tag in which it stands. -/
def StaysInTag (s : String) : Prop := ¬"\x7d\x7d".toList <:+: s.toList

/-- The text can be the expression of a tag. -/
def IsExpression (s : String) : Prop := trim s = s ∧ StaysInTag s

/-- The text does not begin with the mark of another kind of tag. -/
def IsUnmarked (s : String) : Prop :=
  ∀ mark ∈ ["#", "@", "!", "\x7b%", "%\x7d"], ¬mark.toList <+: s.toList

/-- The marker can be read again from its tag. -/
def Control.Writable : Control → Prop
  | openIf e | elseIf e | openForeach e | openFor e | openWhile e => IsExpression e
  | insert name | inherit name => StaysInTag name
  | otherwise | closeIf | closeForeach | closeFor | closeWhile => True

/-- The instruction can be read again from its tag, or from its text if that is bounded. -/
def Instruction.Writable : Instruction → Prop
  | literal text => text ≠ ""
  | echo e strategy _ =>
      IsExpression e ∧ IsUnmarked e ∧ (strategy = none ∨ strategy = some "html")
  | openBlock name => StaysInTag name
  | closeBlock => True
  | control op => op.Writable
  | comment _ | unknownDirective .. => False

/-! ## Reading -/

namespace Node

/-- A name and what begins with the first blank after it are told apart. -/
theorem splitDirective_eq {name rest : List Char} (noMark : '@' ∉ name)
    (noBlank : ∀ c ∈ name, isBlank c = false) (blank : ∀ c ∈ rest.head?, isBlank c = true) :
    splitDirective ('@' :: (name ++ rest)) = (name, trimmed rest) := by
  have unmarked : (name ++ rest).dropWhile (· == '@') = name ++ rest := by
    cases name with
    | cons c name =>
        have other : c ≠ '@' := fun same => noMark (same ▸ List.mem_cons_self)
        rw [List.cons_append, List.dropWhile_cons_of_neg (by simpa using other)]
    | nil =>
        cases rest with
        | nil => rfl
        | cons b rest =>
            have other : b ≠ '@' := fun same => absurd (same ▸ blank b rfl) (by decide)
            rw [List.nil_append, List.dropWhile_cons_of_neg (by simpa using other)]
  have stop : ∀ c ∈ rest.head?, (!isBlank c) = false := fun c head => by simp [blank c head]
  have all : ∀ c ∈ name, (!isBlank c) = true := fun c member => by simp [noBlank c member]
  have mark : ('@' :: (name ++ rest)).dropWhile (· == '@') = name ++ rest := by
    rw [List.dropWhile_cons_of_pos (by decide), unmarked]
  simp only [splitDirective, mark]
  rw [takeWhile_append_of_stop all stop, dropWhile_append_of_stop all stop]

/-- How the tag of a directive is read: the name up to the first blank, and what follows trimmed. -/
theorem ofToken?_directive {name gap : List Char} {b : Char} (noMark : '@' ∉ name)
    (noBlank : ∀ c ∈ name, isBlank c = false) (blank : isBlank b = true) (p : Position) :
    ofToken? ((Piece.tag (' ' :: '@' :: (name ++ b :: gap))).token p) =
      some (.directive (String.ofList name) (String.ofList (trimmed gap)) p.line) := by
  have value : trimmed (' ' :: '@' :: (name ++ b :: gap)) =
      '@' :: (name ++ dropBlanksEnd (b :: gap)) := by
    rw [trimmed_cons_blank (by decide), trimmed_cons_of_not (by decide),
      dropBlanksEnd_append noBlank]
  have starts : ∀ c ∈ (dropBlanksEnd (b :: gap)).head?, isBlank c = true := by
    rw [dropBlanksEnd_cons]
    split
    · simp
    · simpa using blank
  have arguments : trimmed (dropBlanksEnd (b :: gap)) = trimmed gap := by
    rw [trimmed_dropBlanksEnd, trimmed_cons_blank blank]
  have split := splitDirective_eq noMark noBlank starts
  simp only [Piece.token, value, TokenKind.ofContent, ofToken?, String.toList_ofList, split,
    arguments]

theorem trimmed_of_expression {e : String} (h : IsExpression e) : trimmed e.toList = e.toList := by
  simpa [trim] using congrArg String.toList h.1

theorem ofToken?_echo {e : String} (expression : IsExpression e) (unmarked : IsUnmarked e)
    (p : Position) : ofToken? ((Piece.spaced e).token p) = some (.echo e p.line) := by
  have value : trimmed (' ' :: (e.toList ++ [' '])) = e.toList := by
    rw [trimmed_cons_blank (by decide), trimmed_concat_blank (by decide),
      trimmed_of_expression expression]
  have kind : TokenKind.ofContent e.toList = .echo := by
    unfold IsUnmarked at unmarked
    generalize e.toList = cs at unmarked
    unfold TokenKind.ofContent
    split
    · exact absurd ⟨_, rfl⟩ (unmarked "#" (by simp))
    · exact absurd ⟨_, rfl⟩ (unmarked "@" (by simp))
    · exact absurd ⟨_, rfl⟩ (unmarked "\x7b%" (by simp))
    · exact absurd ⟨_, rfl⟩ (unmarked "%\x7d" (by simp))
    · exact absurd ⟨_, rfl⟩ (unmarked "!" (by simp))
    · rfl
  simp only [Piece.spaced, Piece.token, value, kind, ofToken?, String.ofList_toList]

theorem ofToken?_rawEcho {e : String} (expression : IsExpression e) (unmarked : IsUnmarked e)
    (p : Position) : ofToken? ((Piece.spaced ("!" ++ e)).token p) = some (.rawEcho e p.line) := by
  have marked : ("!" ++ e).toList = '!' :: e.toList := by simp
  have value : trimmed (' ' :: (('!' :: e.toList) ++ [' '])) = '!' :: e.toList := by
    rw [trimmed_cons_blank (by decide), trimmed_concat_blank (by decide),
      trimmed_cons_of_not (by decide), dropBlanksEnd_of_trimmed (trimmed_of_expression expression)]
  have single : ('!' :: e.toList).dropWhile (· == '!') = e.toList := by
    rw [List.dropWhile_cons_of_pos (by decide)]
    have first := unmarked "!" (by simp)
    generalize e.toList = cs at first
    cases cs with
    | nil => rfl
    | cons c cs =>
        have other : c ≠ '!' := fun same => first (same ▸ ⟨cs, rfl⟩)
        rw [List.dropWhile_cons_of_neg (by simpa using other)]
  have bare : rawExpression ('!' :: e.toList) = e.toList := by
    rw [rawExpression, single, dropBlanks_of_trimmed (trimmed_of_expression expression)]
  simp only [Piece.spaced, Piece.token, marked, value, TokenKind.ofContent, ofToken?,
    String.toList_ofList, bare, String.ofList_toList]

end Node

namespace Directive

theorem toList_quoted (name : String) :
    ("\"" ++ name ++ "\"").toList = '"' :: (name.toList ++ ['"']) := by simp

theorem trimmed_quoted (name : String) :
    trimmed ("\"" ++ name ++ "\"").toList = ("\"" ++ name ++ "\"").toList := by
  rw [toList_quoted, trimmed_cons_of_not (by decide), dropBlanksEnd_concat_of_not (by decide)]

theorem nameArgument_quoted (name : String) : nameArgument ("\"" ++ name ++ "\"") = name := by
  have inner : quotedName? '"' ('"' :: (name.toList ++ ['"'])) = some name.toList := by
    simp [quotedName?, between?, after?, before?]
  rw [nameArgument, trimmed_quoted, toList_quoted]
  simp only [between?, after?]
  simp [inner]

end Directive

namespace Engine

/-- The compiler makes the instruction, and no other, of the piece. -/
def Makes (c : Compiler) (piece : Piece) (p : Position) (i : Instruction) : Prop :=
  ∃ n, Node.ofToken? (piece.token p) = some n ∧ c.instructions n = [i]

theorem expand_of_known {c : Compiler} {name : String} {directive : Directive}
    (known : c.directives.get? name = some directive) (arguments : String) (line : Nat) :
    ∃ view, c.expand name arguments line = directive view arguments := by
  have deep : c.expansionLimit arguments ≠ 0 := by
    unfold Compiler.expansionLimit
    cases table : c.directives with
    | nil =>
        rw [table] at known
        cases known
    | cons entry rest => simp
  obtain ⟨depth, limit⟩ := Nat.exists_eq_succ_of_ne_zero deep
  refine ⟨⟨c.echo, c.defaultStrategy, c.expandWithin depth⟩, ?_⟩
  rw [Compiler.expand, limit, Compiler.expandWithin, known]

section Directives

variable {c : Compiler} {name : String} {d : Directive}
  (known : c.directives.get? name = some d)
  (plain : (name.toList.all fun c => c != '@' && !isBlank c) = true)
include known plain

theorem makes_directive {i : Instruction} {gap : List Char}
    (makes : ∀ view, d view (String.ofList (trimmed gap)) = [i]) (p : Position) :
    Makes c (.tag (' ' :: '@' :: (name.toList ++ ' ' :: gap))) p i := by
  simp only [List.all_eq_true, Bool.and_eq_true, bne_iff_ne, Bool.not_eq_true'] at plain
  have noMark : '@' ∉ name.toList := fun member => (plain _ member).1 rfl
  have noBlank : ∀ c ∈ name.toList, isBlank c = false := fun c member => (plain c member).2
  refine ⟨_, Node.ofToken?_directive noMark noBlank (by decide) p, ?_⟩
  obtain ⟨view, expanded⟩ := expand_of_known known (String.ofList (trimmed gap)) p.line
  rw [Compiler.instructions, String.ofList_toList, expanded, makes]

theorem makes_mark {i : Instruction} (makes : ∀ view arguments, d view arguments = [i])
    (p : Position) : Makes c (.mark name) p i := by
  have shape : Piece.mark name = .tag (' ' :: '@' :: (name.toList ++ ' ' :: [])) := by
    simp [Piece.mark, Piece.spaced]
  rw [shape]
  exact makes_directive known plain (fun view => makes view _) p

theorem makes_arguments {i : Instruction} {arguments : String}
    (trims : trimmed arguments.toList = arguments.toList)
    (makes : ∀ view, d view arguments = [i]) (p : Position) :
    Makes c (.directive name arguments) p i := by
  have shape : Piece.directive name arguments =
      .tag (' ' :: '@' :: (name.toList ++ ' ' :: (arguments.toList ++ [' ']))) := by
    simp [Piece.directive, Piece.spaced]
  have whole : String.ofList (trimmed (arguments.toList ++ [' '])) = arguments := by
    rw [trimmed_concat_blank (by decide), trims, String.ofList_toList]
  rw [shape]
  refine makes_directive known plain (fun view => ?_) p
  rw [whole, makes]

end Directives

variable {l : Loader}

theorem makes_control {op : Control} (writable : op.Writable) (p : Position) :
    Makes (make l .default).compiler op.written p (.control op) := by
  have named : ∀ name : String, Directive.nameArgument ("\"" ++ name ++ "\"") = name :=
    Directive.nameArgument_quoted
  cases op with
  | openIf e | elseIf e | openForeach e | openFor e | openWhile e =>
      exact makes_arguments rfl rfl (Node.trimmed_of_expression writable) (fun _ => rfl) p
  | otherwise | closeIf | closeForeach | closeFor | closeWhile =>
      exact makes_mark rfl rfl (fun _ _ => rfl) p
  | insert name | inherit name =>
      exact makes_arguments rfl rfl (Directive.trimmed_quoted name) (fun _ => by simp [named]) p

/-- What an engine's compiler makes of a written instruction. -/
theorem makes_written {i : Instruction} (writable : i.Writable) (p : Position) :
    Makes (make l .default).compiler i.written p (i.onLine p.line) := by
  cases i with
  | literal text =>
      refine ⟨.text text p.line, ?_, by simp [Compiler.instructions, Instruction.onLine]⟩
      simp [Instruction.written, Piece.token, Node.ofToken?]
  | echo e strategy line =>
      obtain ⟨expression, unmarked, rfl | rfl⟩ := writable
      · refine ⟨_, Node.ofToken?_rawEcho expression unmarked p, ?_⟩
        rw [Compiler.instructions, Instruction.onLine]
      · refine ⟨_, Node.ofToken?_echo expression unmarked p, ?_⟩
        rw [Compiler.instructions]
        rfl
  | comment text => exact writable.elim
  | unknownDirective name line => exact writable.elim
  | openBlock name =>
      refine makes_arguments rfl rfl (Directive.trimmed_quoted name) (fun _ => ?_) p
      simp [Directive.nameArgument_quoted, Instruction.onLine]
  | closeBlock => exact makes_mark rfl rfl (fun _ _ => rfl) p
  | control op => exact makes_control writable p

theorem nodes_written {row : List Instruction} (writable : ∀ i ∈ row, i.Writable) (name : String)
    (p : Position) :
    ∃ nodes, Token.nodes name (Piece.tokens .braces p (row.map Instruction.written)) = .ok nodes ∧
      nodes.flatMap (make l .default).compiler.instructions = Instruction.lined p row := by
  induction row generalizing p with
  | nil => exact ⟨[], rfl, rfl⟩
  | cons i rest ih =>
      rw [List.forall_mem_cons] at writable
      obtain ⟨n, isNode, made⟩ := makes_written (l := l) writable.1 p
      obtain ⟨nodes, read, further⟩ := ih writable.2 (p.after (i.written.source .braces))
      refine ⟨n :: nodes, ?_, ?_⟩
      · rw [List.map_cons, Piece.tokens, Token.nodes_cons, Token.node, isNode, read]
        rfl
      · rw [List.flatMap_cons, made, further]
        rfl

/-- What an engine's compiler makes of a source that is written from instructions. -/
theorem compile_written {row : List Instruction} (writable : ∀ i ∈ row, i.Writable)
    (separable : Separable .braces (row.map Instruction.written)) (name : String) :
    (make l .default).compiler.compile (Instruction.source row) name =
      .ok (Artifact.make name (Instruction.lined .start row)) := by
  have cut : pieces .braces (Instruction.source row).toList = row.map Instruction.written := by
    rw [Instruction.source, String.toList_ofList, separable.pieces_eq (by decide)]
  obtain ⟨nodes, read, made⟩ := nodes_written (l := l) writable name .start
  have tags : (make l .default).compiler.tags (Instruction.source row) =
      Piece.tokens .braces .start (row.map Instruction.written) := by
    rw [← cut]
    rfl
  rw [Compiler.compile, Compiler.compileNoted_eq rfl, tags, read]
  simp only [Except.map, made]

end Engine

end Stencil
