import Mathlib.Data.List.Basic
import Stencil.Proofs.Engine.Covering
import Stencil.Proofs.Engine.Work

/-!
# What a run is answered

While the templates for a rendering are loaded, an engine is asked for one after another, and what
the answer mentions is asked for next. Nothing is asked for twice, so the answers of one run say of
each template what it mentions, or that it does not load. What the engine would answer at another
time, before or after others were loaded, has no part in the run.

1. `Engine.loading_induction`: the cases of one step of a run.
2. `Engine.asked`, `Engine.asked_distinct`, `Engine.asked_of_le`: what is asked for in a run.
3. `Engine.Follows`, `Engine.exists_follows`: mentions that are those of the answers.
-/

namespace Stencil

namespace Engine

/-- Loading goes on from one row of pending templates to another as long as it is answered. -/
theorem loading_induction (e : Engine)
    {motive : Nat → List String → Table Program → Session → Disk → Prop}
    (done : ∀ steps loaded session d, motive steps [] loaded session d)
    (out : ∀ n rest loaded session d, motive 0 (n :: rest) loaded session d)
    (skip : ∀ steps n rest loaded session d, loaded.contains n = true →
      motive steps rest loaded session d → motive (steps + 1) (n :: rest) loaded session d)
    (stop : ∀ steps n rest loaded session d stop after later, ¬loaded.contains n = true →
      Work.runOn (e.artifact n) session d = ((.error stop, after), later) →
        motive (steps + 1) (n :: rest) loaded session d)
    (load : ∀ steps n rest loaded session d a after later, ¬loaded.contains n = true →
      Work.runOn (e.artifact n) session d = ((.ok a, after), later) →
        motive steps (further loaded a ++ rest) (loaded.set n (.ofArtifact a)) after later →
          motive (steps + 1) (n :: rest) loaded session d)
    (steps : Nat) (pending : List String) (loaded : Table Program) (session : Session) (d : Disk) :
    motive steps pending loaded session d := by
  induction steps generalizing pending loaded session d with
  | zero =>
      cases pending with
      | nil => exact done 0 loaded session d
      | cons n rest => exact out n rest loaded session d
  | succ steps ih =>
      cases pending with
      | nil => exact done (steps + 1) loaded session d
      | cons n rest =>
          by_cases known : loaded.contains n = true
          · exact skip steps n rest loaded session d known (ih rest loaded session d)
          · generalize outcome : Work.runOn (e.artifact n) session d = answered
            obtain ⟨⟨result, after⟩, later⟩ := answered
            cases result with
            | error cause =>
                exact stop steps n rest loaded session d cause after later known outcome
            | ok a => exact load steps n rest loaded session d a after later known outcome (ih ..)

section Loading

variable {e : Engine} {session after : Session} {d later : Disk} {n : String} {rest : List String}
  {loaded : Table Program}

theorem runOn_loadAll_skip (known : loaded.contains n = true) (steps : Nat) :
    Work.runOn (e.loadAll (steps + 1) (n :: rest) loaded) session d =
      Work.runOn (e.loadAll steps rest loaded) session d := by
  rw [loadAll, if_pos known]

theorem runOn_loadAll_stop (new : ¬loaded.contains n = true) {stop : Stop}
    (answer : Work.runOn (e.artifact n) session d = ((.error stop, after), later)) (steps : Nat) :
    Work.runOn (e.loadAll (steps + 1) (n :: rest) loaded) session d =
      ((.error stop, after), later) := by
  rw [loadAll, if_neg new, Work.runOn_bind_error answer]

theorem runOn_loadAll_load (new : ¬loaded.contains n = true) {a : Artifact}
    (answer : Work.runOn (e.artifact n) session d = ((.ok a, after), later)) (steps : Nat) :
    Work.runOn (e.loadAll (steps + 1) (n :: rest) loaded) session d =
      Work.runOn (e.loadAll steps (further loaded a ++ rest) (loaded.set n (.ofArtifact a)))
        after later := by
  rw [loadAll, if_neg new, Work.runOn_bind answer]
  rfl

/-! ## Questions and answers -/

/-- What an engine is asked for while pending templates and all that they mention are loaded, within
some steps, and its answers. -/
def asked (e : Engine) :
    Nat → List String → Table Program → Session → Disk → List (String × Except Stop Artifact)
  | _, [], _, _, _ => []
  | 0, _ :: _, _, _, _ => []
  | steps + 1, name :: pending, loaded, session, d =>
      if loaded.contains name then e.asked steps pending loaded session d
      else
        match Work.runOn (e.artifact name) session d with
        | ((.error stop, _), _) => [(name, .error stop)]
        | ((.ok a, after), later) =>
            (name, .ok a) ::
              e.asked steps (further loaded a ++ pending) (loaded.set name (.ofArtifact a)) after
                later

theorem asked_skip (known : loaded.contains n = true) (steps : Nat) :
    e.asked (steps + 1) (n :: rest) loaded session d = e.asked steps rest loaded session d := by
  rw [asked, if_pos known]

theorem asked_stop (new : ¬loaded.contains n = true) {stop : Stop}
    (answer : Work.runOn (e.artifact n) session d = ((.error stop, after), later)) (steps : Nat) :
    e.asked (steps + 1) (n :: rest) loaded session d = [(n, .error stop)] := by
  rw [asked, if_neg new, answer]

theorem asked_load (new : ¬loaded.contains n = true) {a : Artifact}
    (answer : Work.runOn (e.artifact n) session d = ((.ok a, after), later)) (steps : Nat) :
    e.asked (steps + 1) (n :: rest) loaded session d = (n, .ok a) ::
      e.asked steps (further loaded a ++ rest) (loaded.set n (.ofArtifact a)) after later := by
  rw [asked, if_neg new, answer]

/-- What has been loaded is not asked for, and nothing is asked for twice. -/
theorem asked_distinct (e : Engine) (steps : Nat) (pending : List String) (loaded : Table Program)
    (session : Session) (d : Disk) :
    ((e.asked steps pending loaded session d).map Prod.fst).Nodup ∧
      ∀ x ∈ e.asked steps pending loaded session d, ¬loaded.contains x.1 = true := by
  induction steps, pending, loaded, session, d using loading_induction e with
  | done steps loaded session d => cases steps <;> simp [asked]
  | out n rest loaded session d => simp [asked]
  | skip steps n rest loaded session d known ih =>
      rw [asked_skip known]
      exact ih
  | stop steps n rest loaded session d stop after later new answer =>
      rw [asked_stop new answer]
      simpa using new
  | load steps n rest loaded session d a after later new answer ih =>
      obtain ⟨distinct, others⟩ := ih
      rw [asked_load new answer]
      refine ⟨List.nodup_cons.2 ⟨fun again => ?_, distinct⟩, fun x member => ?_⟩
      · obtain ⟨x, member, same⟩ := List.mem_map.1 again
        exact others x member ((Table.contains_set ..).2 (.inl same.symm))
      · rcases List.mem_cons.1 member with rfl | further
        · exact new
        · exact fun known => others x further ((Table.contains_set ..).2 (.inr known))

/-- With more steps, the same is asked for and more. -/
theorem asked_of_le {steps more : Nat} (enough : steps ≤ more) {pending : List String}
    {x : String × Except Stop Artifact} (member : x ∈ e.asked steps pending loaded session d) :
    x ∈ e.asked more pending loaded session d := by
  induction steps, pending, loaded, session, d using loading_induction e generalizing more with
  | done steps loaded session d => cases steps <;> simp [asked] at member
  | out n rest loaded session d => simp [asked] at member
  | skip steps n rest loaded session d known ih =>
      obtain ⟨more, rfl⟩ := Nat.exists_eq_add_of_le' (Nat.lt_of_lt_of_le steps.succ_pos enough)
      rw [asked_skip known] at member ⊢
      exact ih (by omega) member
  | stop steps n rest loaded session d stop after later new answer =>
      obtain ⟨more, rfl⟩ := Nat.exists_eq_add_of_le' (Nat.lt_of_lt_of_le steps.succ_pos enough)
      rw [asked_stop new answer] at member ⊢
      exact member
  | load steps n rest loaded session d a after later new answer ih =>
      obtain ⟨more, rfl⟩ := Nat.exists_eq_add_of_le' (Nat.lt_of_lt_of_le steps.succ_pos enough)
      rw [asked_load new answer] at member ⊢
      rcases List.mem_cons.1 member with rfl | further
      · exact List.mem_cons_self
      · exact List.mem_cons_of_mem _ (ih (by omega) further)

/-- What is loaded is what was asked for. -/
theorem keys_of_loadAll {steps : Nat} {pending : List String} {programs : Table Program}
    (h : (Work.runOn (e.loadAll steps pending loaded) session d).1.1 = .ok programs) :
    programs.keys = loaded.keys ++ (e.asked steps pending loaded session d).map Prod.fst := by
  induction steps, pending, loaded, session, d using loading_induction e with
  | done steps loaded session d => cases steps <;> cases h <;> simp [asked]
  | out n rest loaded session d => cases h
  | skip steps n rest loaded session d known ih =>
      rw [runOn_loadAll_skip known] at h
      rw [asked_skip known]
      exact ih h
  | stop steps n rest loaded session d stop after later new answer =>
      rw [runOn_loadAll_stop new answer] at h
      cases h
  | load steps n rest loaded session d a after later new answer ih =>
      rw [runOn_loadAll_load new answer] at h
      have absent : n ∉ loaded.keys := mt (loaded.contains_iff n).2 new
      rw [asked_load new answer, ih h, Table.keys_set, if_neg absent, List.map_cons,
        List.append_assoc, List.singleton_append]

end Loading

/-- Whether templates mention what a run for one of them is answered. -/
def Follows (e : Engine) (session : Session) (d : Disk) (name : String) (mentioned : Mentions) :
    Prop :=
  ∀ steps, ∀ x ∈ e.asked steps [name] [] session d, mentions? x.2 = mentioned x.1

/-- The answers of a run say what the templates mention. -/
theorem exists_follows (e : Engine) (session : Session) (d : Disk) (name : String) :
    ∃ mentioned, e.Follows session d name mentioned := by
  classical
  let Answered (n : String) (names? : Option (List String)) : Prop :=
    ∃ steps, ∃ x ∈ e.asked steps [name] [] session d, x.1 = n ∧ mentions? x.2 = names?
  have unique {n : String} {first second : Option (List String)} (one : Answered n first)
      (other : Answered n second) : first = second := by
    obtain ⟨steps, x, asked, rfl, rfl⟩ := one
    obtain ⟨more, y, askedToo, same, rfl⟩ := other
    have distinct := (e.asked_distinct (max steps more) [name] [] session d).1
    have isX := asked_of_le (Nat.le_max_left steps more) asked
    have isY := asked_of_le (Nat.le_max_right steps more) askedToo
    rw [List.inj_on_of_nodup_map distinct isX isY same.symm]
  refine ⟨fun n => if h : ∃ names?, Answered n names? then h.choose else none, ?_⟩
  intro steps x member
  have answered : Answered x.1 (mentions? x.2) := ⟨steps, x, member, rfl, rfl⟩
  have there : ∃ names?, Answered x.1 names? := ⟨_, answered⟩
  dsimp only
  rw [dif_pos there]
  exact unique answered there.choose_spec

end Engine

end Stencil
