import Stencil.Proofs.Program.NormalForm
import Stencil.Proofs.Rendering.Failure
import Stencil.Proofs.Rendering.Loaded

/-!
# Renderings that miss no template

A set of programs is supplied if every template that one of them needs, as its parent or to insert
it, has a program as well. Then no rendering looks for a template in vain, whichever way it takes
through blocks that stand in for others.

1. `Renderer.served_of_plan`: what is set in motion has its program.
2. `Renderer.render_ne_load`, `Renderer.renderBlock_ne_load`: templates and blocks.
-/

namespace Stencil

/-- Whether programs were read from artifacts, and the templates that they need are among them. -/
structure Supplied (programs : Table Program) : Prop where
  read : ∀ name p, programs.get? name = some p → ∃ a, p = .ofArtifact a
  needs : ∀ name p, programs.get? name = some p →
    ∀ other ∈ p.dependencies, programs.contains other = true

/-- A program inserts only what is listed among its includes, also inside its blocks. -/
theorem Program.mem_includes_ofArtifact {a : Artifact} {name : String}
    (h : .insert name ∈ (ofArtifact a).statements) : name ∈ (ofArtifact a).includes := by
  rw [insertions_ofArtifact, Stmt.insertions, List.mem_filterMap]
  exact ⟨_, statements_subset_walkAll a h, rfl⟩

theorem Supplied.parent {programs : Table Program} (h : Supplied programs) {name parent : String}
    {p : Program} (found : programs.get? name = some p) (inherits : p.parent = some parent) :
    programs.contains parent = true :=
  h.needs name p found parent (by simp [Program.dependencies, inherits])

namespace Renderer

variable {r : Renderer}

theorem contains_of_insert (supplied : Supplied r.programs) {name : String}
    (loaded : r.Loaded (.insert name)) : r.programs.contains name = true := by
  obtain ⟨key, p, found, member⟩ := loaded
  obtain ⟨a, rfl⟩ := supplied.read key p found
  have listed := Program.mem_includes_ofArtifact member
  exact supplied.needs key _ found name (List.mem_append_right _ listed)

/-- All that a job may execute is loaded, and so is the template that it is to render. -/
def Served (r : Renderer) (t : Job) : Prop :=
  r.Sound t ∧
    match t with
    | .statement .. => True
    | .template _ _ _ name => r.programs.contains name = true

theorem served_of_plan (supplied : Supplied r.programs) {t : Job} (h : r.Served t) :
    ∀ u ∈ (r.plan t).jobs, r.Served u := by
  intro u member
  refine ⟨sound_of_plan h.1 u member, ?_⟩
  cases t with
  | statement site scope s =>
      rcases mem_planOf member with
        ⟨v, -, inner, rfl⟩ | ⟨name, body, block, -, -, v, -, rfl⟩ | ⟨name, rfl, rfl⟩
      · trivial
      · trivial
      · exact contains_of_insert supplied h.1.1.loaded
  | template chain overrides scope name =>
      obtain ⟨-, p, found, ⟨parent, inherits, rfl⟩ | ⟨s, -, rfl⟩⟩ := mem_plan_template member
      · exact supplied.parent found inherits
      · trivial

/-- An error about loading is none of a statement, and none of a template with a program. -/
theorem failure_ne_load {t : Job} (h : r.Served t) {cause : RenderError}
    (fails : (r.plan t).failure = some cause) : ∀ inner, cause ≠ .load inner := by
  rintro inner rfl
  cases t with
  | statement site scope s =>
      rcases planOf_failure fails with located | ⟨name, other⟩
      · cases located
      · cases other
  | template chain overrides scope name =>
      rcases plan_failure fails with ⟨-, other⟩ | ⟨missing, -⟩
      · cases other
      · have known : r.programs.contains name = true := h.2
        rw [Table.contains, missing] at known
        cases known

theorem run_ne_load (supplied : Supplied r.programs) {depth : Nat} {t : Job} (h : r.Served t)
    (cause : LoadError) : r.run depth t ≠ .error (.raised (.load cause)) := by
  intro raised
  have other := cause_of_plan (P := fun cause => ∀ inner, cause ≠ .load inner)
    (fun t good => ⟨fun _ => failure_ne_load good, served_of_plan supplied good⟩) h raised
  exact other cause rfl

theorem render_ne_load (supplied : Supplied r.programs) {name : String}
    (known : r.programs.contains name = true) (depth : Nat) (scope : Scope) (cause : LoadError) :
    r.render depth scope name ≠ .error (.raised (.load cause)) :=
  run_ne_load supplied (t := .template [] [] scope name) ⟨covered_nil, known⟩ cause

theorem lineage_ne_load (supplied : Supplied r.programs) {steps : Nat} {visited : List String}
    {name : String} (known : r.programs.contains name = true) (cause : LoadError) :
    r.lineage steps visited name ≠ .error (.load cause) := by
  induction steps generalizing visited name with
  | zero =>
      intro failed
      cases failed
  | succ steps ih =>
      obtain ⟨p, found⟩ := Option.isSome_iff_exists.1 known
      rw [lineage, program, found]
      simp only [bind, Except.bind]
      split
      · intro failed
        cases failed
      · split
        · intro failed
          cases failed
        · next parent inherits =>
          have above : r.lineage steps (visited ++ [p.name]) parent ≠ .error (.load cause) :=
            ih (supplied.parent found inherits)
          cases result : r.lineage steps (visited ++ [p.name]) parent with
          | error other =>
              rw [result] at above
              exact above
          | ok blocks =>
              intro failed
              cases failed

theorem renderBlock_ne_load (supplied : Supplied r.programs) {name : String}
    (known : r.programs.contains name = true) (depth : Nat) (scope : Scope) (block : String)
    (cause : LoadError) : r.renderBlock depth scope name block ≠ .error (.raised (.load cause)) := by
  intro raised
  rcases renderBlock_cases r depth scope name block with
    ⟨other, above, same⟩ | ⟨blocks, above, same | ⟨found, there, same⟩⟩
  · rw [same] at raised
    cases raised
    exact lineage_ne_load supplied known cause above
  · rw [same] at raised
    cases raised
  · have covered := covered_of_lineage above
    rw [same] at raised
    obtain ⟨t, isJob, stopped⟩ := concat_raised raised
    obtain ⟨s, inBody, rfl⟩ := mem_bodyJobs.1 isJob
    have whole := covered _ (Table.mem_of_get? there) s inBody
    exact run_ne_load supplied (t := .statement _ scope s) ⟨⟨whole, covered⟩, trivial⟩ cause stopped

end Renderer

end Stencil
