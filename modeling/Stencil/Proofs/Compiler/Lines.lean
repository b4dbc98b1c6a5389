import Mathlib.Data.List.Forall2
import Stencil.Proofs.Compiler.Tags
import Stencil.Proofs.Program.Emission

/-!
# The lines of written statements

When statements are written as a source, what they print stands on the lines of the tags. `lined`
gives them these lines and leaves all else as it is.

* `Stmt.emitAll_linedAll`: the instructions of the statements have the lines of their tags.
* `Stmt.walkAll_linedAll`: the statements are the same up to lines.
-/

namespace Stencil

open Instruction

/-- The place behind the source of instructions that begins at a place. -/
def Instruction.past (p : Position) (row : List Instruction) : Position :=
  p.after (source row).toList

theorem Instruction.past_cons (p : Position) (i : Instruction) (row : List Instruction) :
    past p (i :: row) = past (past p [i]) row := by
  simp [past, source, Position.after_append]

theorem Instruction.lined_append (p : Position) (a b : List Instruction) :
    lined p (a ++ b) = lined p a ++ lined (past p a) b := by
  induction a generalizing p with
  | nil => rfl
  | cons i rest ih =>
      rw [List.cons_append, lined, ih, lined, past_cons, List.cons_append]
      simp [past, source]

theorem Instruction.lined_cons (p : Position) (i : Instruction) (row : List Instruction) :
    lined p (i :: row) = i.onLine p.line :: lined (past p [i]) row := by
  simp [lined, past, source]

namespace Stmt

mutual
/-- The statement when it is written from a place on: what it prints stands on the lines of the
tags. -/
def lined (p : Position) : Stmt → Stmt
  | text t => text t
  | echo e strategy _ => echo e strategy p.line
  | choice branches otherwise =>
      choice (linedBranches true p branches)
        (linedElse (past p (emitBranches true branches)) otherwise)
  | foreach e body => foreach e (linedAll (past p [.control (.openForeach e)]) body)
  | forIn e body => forIn e (linedAll (past p [.control (.openFor e)]) body)
  | whileDo e body => whileDo e (linedAll (past p [.control (.openWhile e)]) body)
  | block name body => block name (linedAll (past p [.openBlock name]) body)
  | insert name => insert name

def linedAll (p : Position) : List Stmt → List Stmt
  | [] => []
  | s :: rest => lined p s :: linedAll (past p (emit s)) rest

def linedBranches (first : Bool) (p : Position) :
    List (String × List Stmt) → List (String × List Stmt)
  | [] => []
  | (condition, body) :: rest =>
      (condition, linedAll (past p [branchMark first condition]) body) ::
        linedBranches false (past p (branchMark first condition :: emitAll body)) rest

def linedElse (p : Position) : Option (List Stmt) → Option (List Stmt)
  | none => none
  | some body => some (linedAll (past p [.control .otherwise]) body)
end

mutual
theorem emit_lined (p : Position) : ∀ s, emit (lined p s) = Instruction.lined p (emit s)
  | text t => by simp [lined, emit, Instruction.lined, onLine]
  | echo e strategy line => by simp [lined, emit, Instruction.lined, onLine]
  | choice branches otherwise => by
      rw [lined, emit, emit, emitBranches_lined true p branches, emitElse_lined _ otherwise,
        lined_append, lined_append]
      rfl
  | foreach e body => by
      rw [lined, emit, emit, emitAll_linedAll _ body, lined_cons, lined_append]
      rfl
  | forIn e body => by
      rw [lined, emit, emit, emitAll_linedAll _ body, lined_cons, lined_append]
      rfl
  | whileDo e body => by
      rw [lined, emit, emit, emitAll_linedAll _ body, lined_cons, lined_append]
      rfl
  | block name body => by
      rw [lined, emit, emit, emitAll_linedAll _ body, lined_cons, lined_append]
      rfl
  | insert name => by simp [lined, emit, Instruction.lined, onLine]

theorem emitAll_linedAll (p : Position) :
    ∀ body, emitAll (linedAll p body) = Instruction.lined p (emitAll body)
  | [] => by simp [linedAll, emitAll, Instruction.lined]
  | s :: rest => by
      rw [linedAll, emitAll, emitAll, emit_lined p s, emitAll_linedAll _ rest, lined_append]

theorem emitBranches_lined (first : Bool) (p : Position) :
    ∀ branches, emitBranches first (linedBranches first p branches) =
      Instruction.lined p (emitBranches first branches)
  | [] => by simp [linedBranches, emitBranches, Instruction.lined]
  | (condition, body) :: rest => by
      rw [linedBranches, emitBranches, emitBranches, emitAll_linedAll _ body,
        emitBranches_lined false _ rest, lined_cons, lined_append,
        past_cons p (branchMark first condition) (emitAll body)]
      rfl

theorem emitElse_lined (p : Position) :
    ∀ otherwise, emitElse (linedElse p otherwise) = Instruction.lined p (emitElse otherwise)
  | none => by simp [linedElse, emitElse, Instruction.lined]
  | some body => by
      rw [linedElse, emitElse, emitElse, emitAll_linedAll _ body, lined_cons]
      rfl
end

/-- The statement is the other one up to a line. -/
def LinedFrom (s t : Stmt) : Prop := ∃ p, t = s.lined p

mutual
theorem walk_lined (p : Position) : ∀ s, List.Forall₂ LinedFrom s.walk (lined p s).walk
  | text t => by simpa [walk, lined] using ⟨p, by simp [lined]⟩
  | echo e strategy line => by simpa [walk, lined] using ⟨p, by simp [lined]⟩
  | choice branches otherwise => by
      simp only [lined, walk]
      refine .cons ⟨p, by rw [lined]⟩ (List.rel_append ?_ ?_)
      · exact walkBranches_lined true p branches
      · exact walkElse_lined _ otherwise
  | foreach e body => by
      simp only [lined, walk]
      exact .cons ⟨p, by rw [lined]⟩ (walkAll_linedAll _ body)
  | forIn e body => by
      simp only [lined, walk]
      exact .cons ⟨p, by rw [lined]⟩ (walkAll_linedAll _ body)
  | whileDo e body => by
      simp only [lined, walk]
      exact .cons ⟨p, by rw [lined]⟩ (walkAll_linedAll _ body)
  | block name body => by
      simp only [lined, walk]
      exact .cons ⟨p, by rw [lined]⟩ (walkAll_linedAll _ body)
  | insert name => by simpa [walk, lined] using ⟨p, by simp [lined]⟩

/-- Writing changes statements only in their lines. -/
theorem walkAll_linedAll (p : Position) :
    ∀ body, List.Forall₂ LinedFrom (walkAll body) (walkAll (linedAll p body))
  | [] => by simp [linedAll, walkAll]
  | s :: rest => by
      rw [linedAll, walkAll, walkAll]
      exact List.rel_append (walk_lined p s) (walkAll_linedAll _ rest)

theorem walkBranches_lined (first : Bool) (p : Position) : ∀ branches,
    List.Forall₂ LinedFrom (walkBranches branches) (walkBranches (linedBranches first p branches))
  | [] => by simp [linedBranches, walkBranches]
  | (condition, body) :: rest => by
      rw [linedBranches, walkBranches, walkBranches]
      exact List.rel_append (walkAll_linedAll _ body) (walkBranches_lined false _ rest)

theorem walkElse_lined (p : Position) : ∀ otherwise,
    List.Forall₂ LinedFrom (walkElse otherwise) (walkElse (linedElse p otherwise))
  | none => by simp [linedElse, walkElse]
  | some body => by
      rw [linedElse, walkElse, walkElse]
      exact walkAll_linedAll _ body
end

theorem linedBranches_eq_nil {first : Bool} {p : Position} {branches : List (String × List Stmt)}
    (h : linedBranches first p branches = []) : branches = [] := by
  cases branches with
  | nil => rfl
  | cons branch rest =>
      rw [linedBranches] at h
      cases h

theorem hasBranch_of_linedFrom {s t : Stmt} (same : LinedFrom s t) (h : s.HasBranch) :
    t.HasBranch := by
  obtain ⟨p, rfl⟩ := same
  cases s with
  | choice branches otherwise =>
      rw [lined]
      exact fun none => h (linedBranches_eq_nil none)
  | _ =>
      rw [lined]
      exact trivial

theorem insertion?_of_linedFrom {s t : Stmt} (same : LinedFrom s t) :
    t.insertion? = s.insertion? := by
  obtain ⟨p, rfl⟩ := same
  cases s <;> simp [lined, insertion?]

theorem hasBranch_linedAll {body : List Stmt} (p : Position)
    (h : ∀ s ∈ walkAll body, s.HasBranch) : ∀ s ∈ walkAll (linedAll p body), s.HasBranch := by
  have pairs := walkAll_linedAll p body
  generalize walkAll body = walk at h pairs
  generalize walkAll (linedAll p body) = walked at pairs
  induction pairs with
  | nil => exact nofun
  | cons same _ ih =>
      rw [List.forall_mem_cons] at h ⊢
      exact ⟨hasBranch_of_linedFrom same h.1, ih h.2⟩

theorem insertions_linedAll (p : Position) (body : List Stmt) :
    insertions (linedAll p body) = insertions body := by
  have pairs := walkAll_linedAll p body
  unfold insertions
  generalize walkAll body = walk at pairs
  generalize walkAll (linedAll p body) = walked at pairs
  induction pairs with
  | nil => rfl
  | cons same _ ih =>
      rw [List.filterMap_cons, List.filterMap_cons, insertion?_of_linedFrom same, ih]

end Stmt

end Stencil
