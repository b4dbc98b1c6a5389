import Mathlib.Algebra.BigOperators.Group.Finset.Basic
import Mathlib.Data.Set.Finite.Basic
import Stencil.Engine
import Stencil.Proofs.Rendering.Supplied

/-!
# Templates that are mentioned

What templates mention determines which of them can be reached from one, and how many steps it takes
at most to go through these, one after another.

1. `Engine.Reachable`: the templates that are mentioned by one, directly or through others.
2. `Engine.Covering`: what is true of the pending and the loaded templates all the time.
3. `Engine.Covering.contains_iff`: when nothing is pending any more, all that is reachable is loaded.
4. `Engine.room`: how many steps are left at most.
-/

namespace Stencil

namespace Engine

/-- The templates that each template mentions, or nothing for a template that does not load. -/
abbrev Mentions := String → Option (List String)

/-- What an answer for a template mentions. -/
def mentions? (answer : Except Stop Artifact) : Option (List String) :=
  answer.toOption.map fun a => (Program.ofArtifact a).dependencies

/-- The templates that can be reached from one by way of mentions. -/
inductive Reachable (mentioned : Mentions) (name : String) : String → Prop
  | self : Reachable mentioned name name
  | mention {a b : String} {names : List String} : Reachable mentioned name a →
      mentioned a = some names → b ∈ names → Reachable mentioned name b

/-- What an artifact mentions besides what is loaded, the last mention first. -/
def further (loaded : Table Program) (a : Artifact) : List String :=
  ((Program.ofArtifact a).dependencies.filter fun other => !loaded.contains other).reverse

/-! ## Pending and loaded templates -/

/-- What has been loaded is reachable and mentions only what has been loaded or is pending, and all
that is pending is reachable. -/
structure Covering (mentioned : Mentions) (name : String) (pending : List String)
    (loaded : Table Program) : Prop where
  start : name ∈ pending ∨ loaded.contains name = true
  waiting : ∀ n ∈ pending, Reachable mentioned name n
  known : ∀ n, loaded.contains n = true → Reachable mentioned name n
  read : ∀ n p, loaded.get? n = some p → ∃ a, p = .ofArtifact a
  mentions : ∀ n p, loaded.get? n = some p → mentioned n = some p.dependencies
  needs : ∀ n p, loaded.get? n = some p →
    ∀ other ∈ p.dependencies, other ∈ pending ∨ loaded.contains other = true

section Covering

variable {mentioned : Mentions} {name n : String} {pending : List String} {loaded : Table Program}

theorem covering_start (mentioned : Mentions) (name : String) :
    Covering mentioned name [name] [] where
  start := .inl List.mem_cons_self
  waiting := by
    intro n member
    rw [List.mem_singleton.1 member]
    exact .self
  known := nofun
  read := nofun
  mentions := nofun
  needs := nofun

/-- A pending template that is loaded already is passed over. -/
theorem Covering.skip (h : Covering mentioned name (n :: pending) loaded)
    (known : loaded.contains n = true) : Covering mentioned name pending loaded := by
  have still {other : String} (covered : other ∈ n :: pending ∨ loaded.contains other = true) :
      other ∈ pending ∨ loaded.contains other = true := by
    rcases covered with member | there
    · rcases List.mem_cons.1 member with rfl | later
      · exact .inr known
      · exact .inl later
    · exact .inr there
  exact ⟨still h.start, fun m member => h.waiting m (List.mem_cons_of_mem _ member), h.known,
    h.read, h.mentions, fun m p found other needed => still (h.needs m p found other needed)⟩

/-- A pending template is loaded, and what it mentions is pending instead. -/
theorem Covering.load (h : Covering mentioned name (n :: pending) loaded)
    (new : ¬loaded.contains n = true) {a : Artifact}
    (answer : mentioned n = some (Program.ofArtifact a).dependencies) :
    let p := Program.ofArtifact a
    Covering mentioned name (further loaded a ++ pending) (loaded.set n p) := by
  intro p
  have reached : Reachable mentioned name n := h.waiting n List.mem_cons_self
  have still {other : String} (covered : other ∈ n :: pending ∨ loaded.contains other = true) :
      other ∈ further loaded a ++ pending ∨ (loaded.set n p).contains other = true := by
    rw [Table.contains_set]
    rcases covered with member | there
    · rcases List.mem_cons.1 member with rfl | later
      · exact .inr (.inl rfl)
      · exact .inl (List.mem_append_right _ later)
    · exact .inr (.inr there)
  -- The new entry is the program of `n`, every other one was there before.
  have entries {m : String} {q : Program} (found : (loaded.set n p).get? m = some q) :
      (n = m ∧ p = q) ∨ loaded.get? m = some q := by
    rw [Table.get?_set] at found
    split at found
    · next same => exact .inl ⟨same, Option.some.inj found⟩
    · exact .inr found
  refine ⟨still h.start, fun m member => ?_, fun m known => ?_, fun m q found => ?_,
    fun m q found => ?_, fun m q found other needed => ?_⟩
  · rcases List.mem_append.1 member with new | old
    · have needed := (List.mem_filter.1 (List.mem_reverse.1 new)).1
      exact .mention reached answer needed
    · exact h.waiting m (List.mem_cons_of_mem _ old)
  · rcases (Table.contains_set loaded n m p).1 known with rfl | before
    · exact reached
    · exact h.known m before
  · rcases entries found with ⟨rfl, rfl⟩ | before
    · exact ⟨a, rfl⟩
    · exact h.read m q before
  · rcases entries found with ⟨rfl, rfl⟩ | before
    · exact answer
    · exact h.mentions m q before
  · rcases entries found with ⟨rfl, rfl⟩ | before
    · by_cases known : loaded.contains other = true
      · exact still (.inr known)
      · exact .inl (List.mem_append_left _
          (List.mem_reverse.2 (List.mem_filter.2 ⟨needed, by simp [known]⟩)))
    · exact still (h.needs m q before other needed)

theorem Covering.supplied (h : Covering mentioned name [] loaded) : Supplied loaded :=
  ⟨h.read, fun n p found other needed =>
    (h.needs n p found other needed).resolve_left List.not_mem_nil⟩

/-- When nothing is pending any more, all that is reachable is loaded. -/
theorem Covering.contains_iff (h : Covering mentioned name [] loaded) (n : String) :
    loaded.contains n = true ↔ Reachable mentioned name n := by
  refine ⟨h.known n, fun reached => ?_⟩
  induction reached with
  | self => exact h.start.resolve_left List.not_mem_nil
  | @mention a b names _ answer needed ih =>
      obtain ⟨p, found⟩ := Option.isSome_iff_exists.1 ih
      obtain rfl : p.dependencies = names :=
        Option.some.inj ((h.mentions a p found).symm.trans answer)
      exact h.supplied.needs a p found b needed

theorem Covering.mem_keys_iff (h : Covering mentioned name [] loaded) (n : String) :
    n ∈ loaded.keys ↔ Reachable mentioned name n := by
  rw [← Table.contains_iff, h.contains_iff]

theorem Covering.loads (h : Covering mentioned name [] loaded) {n : String}
    (reached : Reachable mentioned name n) : mentioned n ≠ none := by
  obtain ⟨p, found⟩ := Option.isSome_iff_exists.1 ((h.contains_iff n).2 reached)
  rw [h.mentions n p found]
  exact nofun

/-! ## Steps -/

/-- How many steps are left at most: one for each pending template, and one for each mention in a
template that has not been loaded. -/
def room (names : Finset String) (mentioned : Mentions) (pending : List String)
    (loaded : Table Program) : Nat :=
  pending.length + ∑ n ∈ names with ¬loaded.contains n = true, ((mentioned n).getD []).length

theorem room_skip (names : Finset String) (mentioned : Mentions) (n : String)
    (pending : List String) (loaded : Table Program) :
    room names mentioned pending loaded < room names mentioned (n :: pending) loaded := by
  simp only [room, List.length_cons]
  omega

theorem room_load (pending : List String) {names : Finset String} (among : n ∈ names)
    (new : ¬loaded.contains n = true) {a : Artifact}
    (answer : mentioned n = some (Program.ofArtifact a).dependencies) :
    room names mentioned (further loaded a ++ pending) (loaded.set n (.ofArtifact a)) <
      room names mentioned (n :: pending) loaded := by
  have others : (names.filter fun m => ¬(loaded.set n (.ofArtifact a)).contains m = true) =
      (names.filter fun m => ¬loaded.contains m = true).erase n := by
    ext m
    simp only [Finset.mem_filter, Finset.mem_erase, Table.contains_set, not_or]
    tauto
  have own : n ∈ names.filter fun m => ¬loaded.contains m = true :=
    Finset.mem_filter.2 ⟨among, new⟩
  have sum := Finset.add_sum_erase _ (fun m => ((mentioned m).getD []).length) own
  have fewer := List.length_filter_le (fun other => !loaded.contains other)
    (Program.ofArtifact a).dependencies
  simp only [answer, Option.getD_some] at sum
  simp only [room, further, others, List.length_append, List.length_reverse, List.length_cons]
  omega

end Covering

end Engine

end Stencil
