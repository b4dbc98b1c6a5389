import Stencil.Engine
import Stencil.Proofs.Compiler.Instructions
import Stencil.Proofs.Program.Pairing
import Stencil.Proofs.Rendering.Loaded

/-!
# What an engine's compiler makes of a source

The directives of an engine make markers, and neither texts nor output. What is printed comes from
ordinary tags, which are escaped, and from raw ones.

1. `Directive.steers_of_engine`, `Compiler.steers_expand`: the directives.
2. `Compiler.leafOf_token`: the statements of single tokens.
3. `Engine.leaf_of_compiled`: the statements of a compiled source that hold no others.
-/

namespace Stencil

namespace Table

variable {α : Type}

theorem mem_set {t : Table α} {key : String} {value : α} {entry : String × α}
    (h : entry ∈ t.set key value) : entry = (key, value) ∨ entry ∈ t := by
  induction t with
  | nil => exact Or.inl (List.mem_singleton.1 h)
  | cons head rest ih =>
      obtain ⟨name, held⟩ := head
      rw [set] at h
      split at h
      · rcases List.mem_cons.1 h with new | old
        · exact Or.inl new
        · exact Or.inr (List.mem_cons_of_mem _ old)
      · rcases List.mem_cons.1 h with first | further
        · exact Or.inr (first ▸ List.mem_cons_self)
        · exact (ih further).imp_right (List.mem_cons_of_mem _)

theorem mem_setAll {t more : Table α} {entry : String × α} (h : entry ∈ t.setAll more) :
    entry ∈ t ∨ entry ∈ more := by
  induction more generalizing t with
  | nil => exact Or.inl h
  | cons head rest ih =>
      rcases ih h with inSet | inRest
      · rcases mem_set inSet with new | old
        · exact Or.inr (new ▸ List.mem_cons_self)
        · exact Or.inl old
      · exact Or.inr (List.mem_cons_of_mem _ inRest)

end Table

/-- An instruction that is no text and prints nothing. -/
def Instruction.Steers (i : Instruction) : Prop := ∀ s, i.leaf? = some s → ∃ name, s = .insert name

theorem Instruction.steers_control (op : Control) : (control op).Steers := by
  intro s isLeaf
  cases op with
  | insert name =>
      cases isLeaf
      exact ⟨name, rfl⟩
  | _ => cases isLeaf

theorem Instruction.steers_unknown (name : String) (line : Nat) :
    (unknownDirective name line).Steers := by
  intro s isLeaf
  cases isLeaf

theorem Directive.steers_of_engine {name : String} {directive : Directive}
    (h : (controls.setAll templates).get? name = some directive) (view : CompilerView)
    (arguments : String) : ∀ i ∈ directive view arguments, i.Steers := by
  intro i member
  rcases Table.mem_setAll (Table.mem_of_get? h) with control | template
  · have isMarker : ∃ make, directive = marker make := by
      simp only [controls, List.mem_cons, List.not_mem_nil, or_false, Prod.mk.injEq] at control
      rcases control with h | h | h | h | h | h | h | h | h | h <;> exact ⟨_, h.2⟩
    obtain ⟨make, rfl⟩ := isMarker
    rw [List.mem_singleton.1 member]
    exact Instruction.steers_control _
  · simp only [templates, List.mem_cons, List.not_mem_nil, or_false, Prod.mk.injEq] at template
    rcases template with ⟨-, rfl⟩ | ⟨-, rfl⟩ | ⟨-, rfl⟩ | ⟨-, rfl⟩
    · rw [List.mem_singleton.1 member]
      exact Instruction.steers_control _
    · rw [List.mem_singleton.1 member]
      exact Instruction.steers_control _
    · rw [List.mem_singleton.1 member]
      exact nofun
    · rw [List.mem_singleton.1 member]
      exact nofun

/-- A compiler without visitors, and with no other directives than an engine has. -/
structure Compiler.Unextended (c : Compiler) : Prop where
  visitors : c.visitors = []
  directives : ∀ name directive, c.directives.get? name = some directive →
    (Directive.controls.setAll Directive.templates).get? name = some directive

theorem Compiler.steers_expand {c : Compiler} (own : c.Unextended) (name arguments : String)
    (line : Nat) : ∀ i ∈ c.expand name arguments line, i.Steers := by
  intro i member
  rw [expand] at member
  cases depth : c.expansionLimit arguments with
  | zero =>
      rw [depth, expandWithin, List.mem_singleton] at member
      exact member ▸ Instruction.steers_unknown name line
  | succ depth =>
      rw [depth, expandWithin] at member
      cases found : c.directives.get? name with
      | some directive =>
          rw [found] at member
          exact Directive.steers_of_engine (own.directives _ _ found) _ _ i member
      | none =>
          rw [found] at member
          rw [List.mem_singleton.1 member]
          exact Instruction.steers_unknown name line

/-- The statements without others inside that a token becomes: a text, what a tag prints under the default
strategy or as it is, or an insertion. -/
inductive Compiler.LeafOf (c : Compiler) (t : Token) : Stmt → Prop
  | text : t.kind = .text → LeafOf c t (.text t.value)
  | echo : t.kind = .echo →
      LeafOf c t (.echo t.value (c.escaper.map Escaper.defaultStrategy) t.position.line)
  | rawEcho : t.kind = .rawEcho →
      LeafOf c t (.echo (String.ofList (Node.rawExpression t.value.toList)) none t.position.line)
  | insert (name : String) : LeafOf c t (.insert name)

theorem Compiler.leafOf_token {c : Compiler} (own : c.Unextended) {t : Token} {n : Node}
    (isNode : Node.ofToken? t = some n) {i : Instruction} (member : i ∈ c.instructions n) {s : Stmt}
    (isLeaf : i.leaf? = some s) : c.LeafOf t s := by
  unfold Node.ofToken? at isNode
  split at isNode
  · next kind =>
    cases isNode
    rw [instructions, List.mem_singleton] at member
    subst member
    cases isLeaf
    exact .text kind
  · next kind =>
    cases isNode
    rw [instructions, List.mem_singleton] at member
    subst member
    have printed : (c.echo t.value c.defaultStrategy t.position.line).leaf? =
        some (.echo t.value (c.escaper.map Escaper.defaultStrategy) t.position.line) := by
      rw [Compiler.echo, defaultStrategy]
      cases c.escaper <;> rfl
    cases isLeaf.symm.trans printed
    exact .echo kind
  · next kind =>
    cases isNode
    rw [instructions, List.mem_singleton] at member
    subst member
    cases isLeaf
    exact .rawEcho kind
  · cases isNode
    rw [instructions, List.mem_singleton] at member
    subst member
    cases isLeaf
  · cases isNode
    rw [instructions] at member
    obtain ⟨name, rfl⟩ := steers_expand own _ _ _ i member s isLeaf
    exact .insert name
  · cases isNode
    simp only [instructions, instructionsAll, List.nil_append, List.mem_cons, List.not_mem_nil,
      or_false] at member
    rcases member with rfl | rfl <;> cases isLeaf
  · cases isNode
  · cases isNode

namespace Engine

variable {l : Loader} {o : Options}

theorem unextended_make : (make l o).compiler.Unextended := ⟨rfl, fun _ _ found => found⟩

/-- The statements that hold no others in a template compiled from a source without raw tags. -/
theorem leaf_of_compiled {source name : String} {a : Artifact}
    (compiles : (make l o).compiler.compile source name = .ok a)
    (noRaw : ∀ t ∈ o.delimiters.tokens source, t.kind ≠ .rawEcho) {s : Stmt}
    (h : s ∈ (Program.ofArtifact a).statements) (noInner : s.IsLeaf) :
    (∃ t ∈ o.delimiters.tokens source, t.kind = .text ∧ s = .text t.value) ∨
      (∃ expression line, s = .echo expression (some o.defaultStrategy) line) ∨
        ∃ name, s = .insert name := by
  obtain ⟨i, inArtifact, isLeaf⟩ := Program.leaf_of_instruction h noInner
  obtain ⟨t, inTags, n, isNode, member⟩ := Compiler.mem_instructions rfl compiles inArtifact
  have inTokens := Compiler.tags_subset inTags
  cases Compiler.leafOf_token unextended_make isNode member isLeaf with
  | text kind => exact Or.inl ⟨t, inTokens, kind, rfl⟩
  | echo kind => exact Or.inr (Or.inl ⟨_, _, rfl⟩)
  | rawEcho kind => exact absurd kind (noRaw t inTokens)
  | insert name => exact Or.inr (Or.inr ⟨name, rfl⟩)

end Engine

end Stencil
