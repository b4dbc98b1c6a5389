import Stencil.Proofs.Compiler.Separation

/-!
# Programs written as sources

A program is written as a source by writing the instructions of its statements as tags. What is
compiled from the source and paired up again is the program.

* `Draft.Writable`: the programs that are not taken for something else when they are read.
* `Engine.program_of_source`: the source of such a program is read as the program.
-/

namespace Stencil

/-- What is written as a source: the template that a program inherits from, and its statements. -/
structure Draft where
  parent : Option String
  body : List Stmt

namespace Draft

def head (P : Draft) : List Instruction := P.parent.toList.map fun name => .control (.inherit name)

/-- All instructions, the one that names the parent first. -/
def instructions (P : Draft) : List Instruction := P.head ++ Stmt.emitAll P.body

def source (P : Draft) : String := Instruction.source P.instructions

/-- The statements with the lines of their tags in the source. -/
def lined (P : Draft) : List Stmt := Stmt.linedAll (Instruction.past .start P.head) P.body

/-- The source can be read again: names and expressions stay in their tags, expressions are trimmed
and not taken for something else, every condition has a branch, and texts are not empty, apart from
each other and bounded by the tags. -/
structure Writable (P : Draft) : Prop where
  parent : ∀ name ∈ P.parent, StaysInTag name
  statements : ∀ s ∈ Stmt.walkAll P.body, s.Writable
  apart : Stmt.TextsApart P.body
  apartInside : ∀ s ∈ Stmt.walkAll P.body, ∀ row ∈ s.bodies, Stmt.TextsApart row
  found : Instruction.Found P.instructions

variable {P : Draft}

theorem Writable.instructions (h : P.Writable) : ∀ i ∈ P.instructions, i.Writable := by
  intro i member
  rcases List.mem_append.1 member with inHead | inBody
  · obtain ⟨name, isParent, rfl⟩ := List.mem_map.1 inHead
    exact h.parent name (Option.mem_toList.1 isParent)
  · obtain ⟨s, listed, found⟩ := Stmt.mem_emitAll.1 inBody
    refine Stmt.writable_emit (fun t inside => h.statements t ?_) i found
    exact Stmt.mem_walkAll.2 ⟨s, listed, inside⟩

theorem Writable.apart_instructions (h : P.Writable) : Instruction.Apart P.instructions := by
  have body : Instruction.Apart (Stmt.emitAll P.body) := by
    refine Stmt.apart_emitAll (fun s listed => Stmt.neat_emit fun t inside => ?_) h.apart
    exact h.apartInside t (Stmt.mem_walkAll.2 ⟨s, listed, inside⟩)
  unfold Draft.instructions head
  cases P.parent with
  | none => exact body
  | some name => exact (Instruction.Apart.led_cons body id).1

theorem lined_instructions (P : Draft) :
    Instruction.lined .start P.instructions = P.head ++ Stmt.emitAll P.lined := by
  have sameHead : Instruction.lined .start P.head = P.head := by
    unfold head
    cases P.parent <;> rfl
  rw [instructions, Instruction.lined_append, sameHead, lined, Stmt.emitAll_linedAll]

end Draft

namespace Engine

/-- What an engine compiles from the source of a program and pairs up again is the program, with the
lines of the tags. -/
theorem program_of_source (l : Loader) {P : Draft} (writable : P.Writable) (name : String) :
    ∃ a, (make l .default).compiler.compile P.source name = .ok a ∧
      Program.ofArtifact a =
        ⟨name, P.lined, Stmt.blockTable P.lined, P.parent, Stmt.insertions P.body⟩ := by
  have separable : Separable .braces (P.instructions.map Instruction.written) :=
    Instruction.separable writable.instructions writable.apart_instructions writable.found
  refine ⟨_, compile_written writable.instructions separable name, ?_⟩
  have branched : ∀ s ∈ Stmt.walkAll P.lined, s.HasBranch :=
    Stmt.hasBranch_linedAll _ fun s listed =>
      Stmt.hasBranch_of_writable (writable.statements s listed)
  rw [Draft.lined_instructions, Draft.head, Program.ofArtifact_emitAll name P.parent branched,
    Draft.lined, Stmt.insertions_linedAll]

/-- A program with a parent, whose block prints a variable. -/
def greeting : Draft := ⟨some "base", [.text "a\n", .block "n" [.echo "x" (some "html") 0]]⟩

theorem writable_greeting : greeting.Writable where
  parent := by
    rintro name ⟨⟩
    exact Piece.staysInTag_of_not_mem (by decide)
  statements := by
    have expression : IsExpression "x" :=
      ⟨by decide +kernel, Piece.staysInTag_of_not_mem (by decide)⟩
    have unmarked : IsUnmarked "x" := by
      unfold IsUnmarked
      decide +kernel
    simpa [greeting, Stmt.walkAll, Stmt.walk, Stmt.Writable, expression, unmarked] using
      Piece.staysInTag_of_not_mem (by decide)
  apart := .cons_cons (fun both => both.2) (.singleton _)
  apartInside := by simp [greeting, Stmt.walkAll, Stmt.walk, Stmt.bodies, Stmt.TextsApart]
  found := by
    constructor
    · intro before t i after same x y whole
      simp only [greeting, Draft.instructions, Draft.head, Stmt.emitAll, Stmt.emit] at same
      have text : t = "a\n" := by
        simp [List.cons_eq_append_iff] at same
        exact same.2.1
      rw [text] at whole
      simp [List.cons_eq_append_iff] at whole
      exact whole.2
    · intro before t same
      simp [greeting, Draft.instructions, Draft.head, Stmt.emitAll, Stmt.emit,
        List.cons_eq_append_iff] at same

theorem lined_greeting :
    greeting.lined = [.text "a\n", .block "n" [.echo "x" (some "html") 2]] := by
  have line : (Instruction.past (Instruction.past (Instruction.past .start greeting.head)
      [.literal "a\n"]) [.openBlock "n"]).line = 2 := by decide +kernel
  simp only [Draft.lined, greeting, Stmt.linedAll, Stmt.lined, Stmt.emit] at line ⊢
  rw [line]

/-- This program, read from its source. -/
theorem program_of_source_greeting :
    ∃ a, (make (.memory []) .default).compiler.compile
        ("\x7b\x7b @extends \"base\" \x7d\x7da\n\x7b\x7b @block \"n\" \x7d\x7d" ++
          "\x7b\x7b x \x7d\x7d\x7b\x7b @endblock \x7d\x7d") "page" = .ok a ∧
      Program.ofArtifact a =
        ⟨"page", [.text "a\n", .block "n" [.echo "x" (some "html") 2]],
          [("n", [.echo "x" (some "html") 2])], some "base", []⟩ := by
  have source : greeting.source =
      "\x7b\x7b @extends \"base\" \x7d\x7da\n\x7b\x7b @block \"n\" \x7d\x7d" ++
        "\x7b\x7b x \x7d\x7d\x7b\x7b @endblock \x7d\x7d" := by decide +kernel
  have read := program_of_source (.memory []) writable_greeting "page"
  have noInsertion : Stmt.insertions greeting.body = [] := by
    simp [greeting, Stmt.insertions, Stmt.walkAll, Stmt.walk, List.filterMap_cons, Stmt.insertion?]
  rw [source, lined_greeting, noInsertion] at read
  simpa [greeting, Stmt.blockTable, Stmt.closedAll, Stmt.closed, Table.append, Table.erase]
    using read

end Engine

end Stencil
