import Stencil.Proofs.Engine.Asked
import Stencil.Proofs.Engine.Health
import Stencil.Proofs.Engine.Separate

/-!
# Answers that are settled beforehand

While the templates for a rendering are loaded, the cache fills. Often it does not matter to an
answer what was loaded before, and then a run is answered as the engine would answer at its
beginning.

1. `Engine.follows_of_healthy`: engines that look whether templates have changed, over a cache
   directory in health.
2. `Engine.mentionedNow`: what the templates mention as they are answered now.
3. `Engine.follows_of_noDirectory`: engines without a cache directory.
-/

namespace Stencil

namespace Engine

/-! ## With coherent caches -/

section Coherent

variable {e : Engine} {sources : Sources} {keyOf : String → String} {keys : String → Prop}
  {session : Session} {d : Disk}

theorem answer_coherent (shows : e.loader.Shows sources keyOf)
    (reload : e.options.autoReload = true) (apart : Apart e sources keyOf)
    (forget : ∀ v ∈ e.compiler.visitors, v.Forgetful)
    (used : ∀ name source, sources name = .ok source → keys (keyOf name))
    (coherent : Coherent e sources keyOf session d) (healthy : e.Healthy keys session d)
    (name : String) :
    let done := Work.runOn (e.artifact name) session d
    done.1.1 = e.compiled sources name ∧ Coherent e sources keyOf done.1.2 done.2 ∧
      e.Healthy keys done.1.2 done.2 := by
  obtain ⟨stays, isCompiled⟩ := artifact_meets shows reload apart forget name session d coherent
  obtain ⟨kept, spared | ⟨⟨⟩, -⟩⟩ := artifact_spares shows used name session d healthy
  exact ⟨isCompiled.resolve_right fun failed => spared failed.2, stays, kept⟩

theorem asked_coherent (shows : e.loader.Shows sources keyOf) (reload : e.options.autoReload = true)
    (apart : Apart e sources keyOf) (forget : ∀ v ∈ e.compiler.visitors, v.Forgetful)
    (used : ∀ name source, sources name = .ok source → keys (keyOf name)) {steps : Nat}
    {pending : List String} {loaded : Table Program} (coherent : Coherent e sources keyOf session d)
    (healthy : e.Healthy keys session d) :
    ∀ x ∈ e.asked steps pending loaded session d, x.2 = e.compiled sources x.1 := by
  intro x member
  induction steps, pending, loaded, session, d using loading_induction e with
  | done steps loaded session d => cases steps <;> simp [asked] at member
  | out n rest loaded session d => simp [asked] at member
  | skip steps n rest loaded session d known ih =>
      rw [asked_skip known] at member
      exact ih coherent healthy member
  | stop steps n rest loaded session d stop after later new answer =>
      obtain ⟨same, -, -⟩ := answer_coherent shows reload apart forget used coherent healthy n
      rw [answer] at same
      rw [asked_stop new answer, List.mem_singleton] at member
      rw [member, ← same]
  | load steps n rest loaded session d a after later new answer ih =>
      obtain ⟨same, stays, kept⟩ :=
        answer_coherent shows reload apart forget used coherent healthy n
      rw [answer] at same stays kept
      rw [asked_load new answer] at member
      rcases List.mem_cons.1 member with rfl | further
      · exact same
      · exact ih stays kept further

/-- Over a coherent cache whose directory is in health, a run is answered as the sources say. -/
theorem follows_of_healthy (shows : e.loader.Shows sources keyOf)
    (reload : e.options.autoReload = true) (apart : Apart e sources keyOf)
    (forget : ∀ v ∈ e.compiler.visitors, v.Forgetful)
    (used : ∀ name source, sources name = .ok source → keys (keyOf name))
    (coherent : Coherent e sources keyOf session d) (healthy : e.Healthy keys session d)
    (name : String) : e.Follows session d name fun n => mentions? (e.compiled sources n) := by
  intro steps x member
  rw [asked_coherent shows reload apart forget used coherent healthy x member]

end Coherent

/-! ## Without a cache directory -/

/-- What the templates mention as they are answered now. -/
def mentionedNow (e : Engine) (session : Session) (d : Disk) : Mentions :=
  fun n => mentions? (Work.runOn (e.artifact n) session d).1.1

/-- Whether a session has what another one began with, but for what is held under the keys of the
templates that have been loaded. -/
def Untouched (e : Engine) (session : Session) (d : Disk) (loaded : Table Program)
    (now : Session) : Prop :=
  ∀ key, (∀ n, loaded.contains n = true → e.loader.keyOn n d ≠ .ok key) →
    Work.Offers e.compiler.visitors key (session.cache.held.get? key) now

section NoDirectory

variable {e : Engine} {session now : Session} {d : Disk} {loaded : Table Program} {n : String}

/-- A template is answered as at the beginning, if none with the same key has been loaded, and all
is left untouched that concerns other keys. -/
theorem answer_untouched (forget : ∀ v ∈ e.compiler.visitors, v.Forgetful)
    (beginning : Untouched e session d [] session) (untouched : Untouched e session d loaded now)
    (new : ∀ other key, loaded.contains other = true → e.loader.keyOn other d = .ok key →
      e.loader.keyOn n d ≠ .ok key) :
    (Work.runOn (e.artifact n) now d).1.1 = (Work.runOn (e.artifact n) session d).1.1 ∧
      (Work.runOn (e.artifact n) now d).2 = d ∧
      ∀ p, Untouched e session d (loaded.set n p) (Work.runOn (e.artifact n) now d).1.2 := by
  have earlier {key : String} {p : Program} (foreign : ∀ other,
      (loaded.set n p).contains other = true → e.loader.keyOn other d ≠ .ok key) :=
    untouched key fun other known => foreign other ((Table.contains_set ..).2 (.inr known))
  cases keyed : e.loader.keyOn n d with
  | error cause =>
      rw [runOn_keyless e n keyed, runOn_keyless e n keyed]
      exact ⟨rfl, rfl, fun p key foreign => earlier foreign⟩
  | ok own =>
      obtain ⟨result, left?, does⟩ := artifact_local n forget keyed (session.cache.held.get? own)
      have first := does session (beginning own nofun)
      have again := does now (untouched own fun other known same => new other own known same keyed)
      refine ⟨again.result.trans first.result.symm, again.disk, fun p key foreign => ?_⟩
      have other : own ≠ key := by
        rintro rfl
        exact foreign n ((Table.contains_set ..).2 (.inl rfl)) keyed
      obtain ⟨directory, visitors, held⟩ := earlier foreign
      refine ⟨again.directory, again.visitors.trans visitors, ?_⟩
      rw [again.held, if_neg other, held]

theorem asked_untouched {name : String} (forget : ∀ v ∈ e.compiler.visitors, v.Forgetful)
    (beginning : Untouched e session d [] session)
    (apart : ∀ a b key, Reachable (e.mentionedNow session d) name a →
      Reachable (e.mentionedNow session d) name b →
        e.loader.keyOn a d = .ok key → e.loader.keyOn b d = .ok key → a = b)
    {steps : Nat} {pending : List String} {here : Disk} (still : here = d)
    (covering : Covering (e.mentionedNow session d) name pending loaded)
    (untouched : Untouched e session d loaded now) :
    ∀ x ∈ e.asked steps pending loaded now here, mentions? x.2 = e.mentionedNow session d x.1 := by
  -- What is asked for next has a key that no loaded template has.
  have next {n : String} {rest : List String} {loaded : Table Program} {now : Session}
      (covering : Covering (e.mentionedNow session d) name (n :: rest) loaded)
      (untouched : Untouched e session d loaded now) (new : ¬loaded.contains n = true) :=
    answer_untouched forget beginning untouched fun other key known keyed same =>
      new (apart other n key (covering.known other known) (covering.waiting n List.mem_cons_self)
        keyed same ▸ known)
  intro x member
  induction steps, pending, loaded, now, here using loading_induction e with
  | done steps loaded now here => cases steps <;> simp [asked] at member
  | out n rest loaded now here => simp [asked] at member
  | skip steps n rest loaded now here known ih =>
      rw [asked_skip known] at member
      exact ih still (covering.skip known) untouched member
  | stop steps n rest loaded now here stop after later new answer =>
      subst still
      obtain ⟨same, -, -⟩ := next covering untouched new
      rw [answer] at same
      rw [asked_stop new answer, List.mem_singleton] at member
      rw [member, mentionedNow, ← same]
  | load steps n rest loaded now here a after later new answer ih =>
      subst still
      obtain ⟨same, disk, left⟩ := next covering untouched new
      rw [answer] at same disk left
      have mentions : e.mentionedNow session here n = some (Program.ofArtifact a).dependencies := by
        rw [mentionedNow, ← same]
        rfl
      rw [asked_load new answer] at member
      rcases List.mem_cons.1 member with rfl | further
      · exact mentions.symm
      · exact ih disk (covering.load new mentions) (left _) further

/-- Without a cache directory, a run is answered as at its beginning, if no two templates share a
key. -/
theorem follows_of_noDirectory (forget : ∀ v ∈ e.compiler.visitors, v.Forgetful)
    (nowhere : session.cache.directory = none)
    (same : session.visitors.map Visitor.fresh = e.compiler.visitors.map Visitor.fresh)
    (name : String)
    (apart : ∀ a b key, Reachable (e.mentionedNow session d) name a →
      Reachable (e.mentionedNow session d) name b →
        e.loader.keyOn a d = .ok key → e.loader.keyOn b d = .ok key → a = b) :
    e.Follows session d name (e.mentionedNow session d) := by
  have beginning : Untouched e session d [] session := fun key _ => ⟨nowhere, same, rfl⟩
  exact fun steps =>
    asked_untouched forget beginning apart rfl (covering_start _ name) beginning

end NoDirectory

end Engine

end Stencil
