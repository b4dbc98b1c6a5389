import Stencil.Proofs.Rendering.Plan
import Stencil.Proofs.Statement

/-!
# Only what is loaded is executed

Whatever way a rendering takes through loops, blocks, parents and inserted templates, each statement
that it executes is a statement of a loaded program.

* `Renderer.mem_planOf`, `Renderer.mem_plan_template`: what plans set in motion.
* `Renderer.throughout_of_plan`: what holds of the statements of all programs, each under the name of
  its program, holds of the statements that a plan sets in motion.
* `Renderer.sound_of_plan`: what a plan sets in motion is loaded again.
* `Renderer.of_lineage`, `Renderer.covered_of_lineage`: the blocks in effect for a template.
-/

namespace Stencil

namespace Renderer

/-- The statement stands in some loaded program, in its body or in its block table. -/
def Loaded (r : Renderer) (s : Stmt) : Prop :=
  ∃ name p, r.programs.get? name = some p ∧ s ∈ p.statements

/-- All that stands in a statement is loaded. -/
def Whole (r : Renderer) (s : Stmt) : Prop := ∀ t ∈ s.walk, r.Loaded t

/-- All that stands in some blocks is loaded. -/
def Covered (r : Renderer) (overrides : Table BlockBody) : Prop :=
  ∀ entry ∈ overrides, ∀ s ∈ entry.2.body, r.Whole s

/-- All that a job may execute is loaded. -/
def Sound (r : Renderer) : Job → Prop
  | .statement site _ s => r.Whole s ∧ r.Covered site.overrides
  | .template _ overrides _ _ => r.Covered overrides

variable {r : Renderer}

theorem Whole.loaded {s : Stmt} (h : r.Whole s) : r.Loaded s := h s s.self_mem_walk

theorem program_eq_ok {name : String} {p : Program} (h : r.program name = .ok p) :
    r.programs.get? name = some p := by
  unfold program at h
  split at h
  · next found =>
    cases h
    exact found
  · cases h

theorem chosen_mem {template : String} {scope : Scope} {otherwise : Option (List Stmt)}
    {branches : List (String × List Stmt)} {body : List Stmt}
    (h : r.chosen template scope otherwise branches = .ok body) :
    ∀ s ∈ body, s ∈ (Stmt.choice branches otherwise).inner := by
  simp only [Stmt.inner, Stmt.bodies, List.flatten_append, List.mem_append]
  induction branches with
  | nil =>
      cases h
      cases otherwise <;> simp
  | cons branch rest ih =>
      obtain ⟨condition, first⟩ := branch
      rw [chosen] at h
      cases holds : r.rules.holds template scope condition with
      | error cause =>
          rw [holds] at h
          cases h
      | ok truth =>
          rw [holds] at h
          cases truth with
          | true =>
              cases h
              intro s member
              simp [member]
          | false =>
              intro s member
              rcases ih h s member with found | found
              · simp [found]
              · exact .inr found

theorem mem_bodyJobs {site : Site} {scope : Scope} {body : List Stmt} {t : Job} :
    t ∈ bodyJobs site scope body ↔ ∃ s ∈ body, t = .statement site scope s := by
  simp [bodyJobs, eq_comm]

/-- What a statement sets in motion: statements in its bodies, the body of the block that stands in
for it, or the template that it inserts. -/
theorem mem_planOf {site : Site} {scope : Scope} {s : Stmt} {t : Job}
    (h : t ∈ (r.planOf site scope s).jobs) :
    (∃ u ∈ s.inner, ∃ inner, t = .statement site inner u) ∨
      (∃ name body block, s = .block name body ∧ site.overrides.get? name = some block ∧
        ∃ u ∈ block.body, t = .statement (blockSite site block) scope u) ∨
      ∃ name, s = .insert name ∧ t = .template site.chain [] scope name := by
  cases s with
  | text text => cases h
  | echo expression strategy line =>
      obtain ⟨text, _, none⟩ := Plan.mem_after.1 h
      cases none
  | choice branches otherwise =>
      obtain ⟨body, result, inBody⟩ := Plan.mem_after.1 h
      obtain ⟨u, member, rfl⟩ := mem_bodyJobs.1 inBody
      exact .inl ⟨u, chosen_mem result u member, scope, rfl⟩
  | foreach text body | forIn text body =>
      obtain ⟨rounds, _, inRounds⟩ := Plan.mem_after.1 h
      obtain ⟨inner, _, inRound⟩ := List.mem_flatMap.1 inRounds
      obtain ⟨u, member, rfl⟩ := mem_bodyJobs.1 inRound
      exact .inl ⟨u, by simpa [Stmt.inner, Stmt.bodies], inner, rfl⟩
  | whileDo condition body =>
      obtain ⟨holds, _, inRounds⟩ := Plan.mem_after.1 h
      cases holds with
      | false => cases inRounds
      | true =>
          obtain ⟨round, isRound, inRound⟩ := List.mem_flatten.1 inRounds
          rw [List.eq_of_mem_replicate isRound] at inRound
          obtain ⟨u, member, rfl⟩ := mem_bodyJobs.1 inRound
          exact .inl ⟨u, by simpa [Stmt.inner, Stmt.bodies], scope, rfl⟩
  | block name body =>
      obtain ⟨u, member, rfl⟩ := mem_bodyJobs.1 h
      unfold blockAt at member ⊢
      -- Without a block that stands in, the body is that of the statement.
      cases found : site.overrides.get? name with
      | none =>
          rw [found] at member
          exact .inl ⟨u, by simpa [Stmt.inner, Stmt.bodies] using member, scope, rfl⟩
      | some block =>
          rw [found] at member
          exact .inr (.inl ⟨name, body, block, rfl, found, u, member, rfl⟩)
  | insert name => exact .inr (.inr ⟨name, rfl, List.mem_singleton.1 h⟩)

/-- What a template sets in motion: its parent with more blocks that stand in for others, or its
body. -/
theorem mem_plan_template {chain : List String} {overrides : Table BlockBody} {scope : Scope}
    {name : String} {t : Job} (h : t ∈ (r.plan (.template chain overrides scope name)).jobs) :
    name ∉ chain ∧ ∃ p, r.programs.get? name = some p ∧
      ((∃ parent, p.parent = some parent ∧
          t = .template (chain ++ [name]) (overrides ++ blockBodies p) scope parent) ∨
        ∃ s ∈ p.body, t = .statement ⟨chain ++ [name], p.name, overrides⟩ scope s) := by
  rw [plan] at h
  split at h
  · cases h
  · next new =>
    obtain ⟨p, result, inProgram⟩ := Plan.mem_after.1 h
    refine ⟨by simpa using new, p, program_eq_ok result, ?_⟩
    cases inherits : p.parent with
    | some parent =>
        rw [inherits] at inProgram
        exact .inl ⟨parent, rfl, List.mem_singleton.1 inProgram⟩
    | none =>
        rw [inherits] at inProgram
        exact .inr (mem_bodyJobs.1 inProgram)

/-! ## What holds of the statements of programs -/

/-- Whether something holds of all that stands in some blocks, each under the name of the template
that it is written in. -/
def InBlocks (Q : String → Stmt → Prop) (overrides : Table BlockBody) : Prop :=
  ∀ entry ∈ overrides, ∀ s ∈ entry.2.body, ∀ t ∈ s.walk, Q entry.2.template t

/-- Whether something holds of all that a job may execute. -/
def Throughout (Q : String → Stmt → Prop) : Job → Prop
  | .statement site _ s => (∀ t ∈ s.walk, Q site.template t) ∧ InBlocks Q site.overrides
  | .template _ overrides _ _ => InBlocks Q overrides

section Throughout

variable {Q : String → Stmt → Prop}

theorem inBlocks_nil : InBlocks Q [] := fun _ member => absurd member List.not_mem_nil

theorem InBlocks.append {overrides more : Table BlockBody} (h : InBlocks Q overrides)
    (further : InBlocks Q more) : InBlocks Q (overrides ++ more) := by
  intro entry member
  rcases List.mem_append.1 member with first | second
  · exact h entry first
  · exact further entry second

theorem inBlocks_blockBodies {p : Program} (own : ∀ s ∈ p.statements, Q p.name s) :
    InBlocks Q (blockBodies p) := by
  intro entry member s inBody t within
  obtain ⟨⟨block, body⟩, listed, rfl⟩ := List.mem_map.1 member
  have stands := Program.mem_statements_of_block listed inBody
  exact own t (Program.walk_subset_statements stands within)

/-- The statements that a plan sets in motion are those of the job, of the blocks that stand in for
others and of the program that is rendered. Each of them is executed under the name of the template
it is written in. -/
theorem throughout_of_plan
    (own : ∀ name p, r.programs.get? name = some p → ∀ s ∈ p.statements, Q p.name s) {t : Job}
    (h : Throughout Q t) : ∀ u ∈ (r.plan t).jobs, Throughout Q u := by
  intro u member
  cases t with
  | statement site scope s =>
      obtain ⟨whole, others⟩ := h
      rcases mem_planOf member with
        ⟨v, within, inner, rfl⟩ | ⟨name, body, block, -, found, v, inBlock, rfl⟩ | ⟨name, -, rfl⟩
      · exact ⟨fun t deeper => whole t (Stmt.mem_walk_of_inner within deeper), others⟩
      · exact ⟨others _ (Table.mem_of_get? found) v inBlock, others⟩
      · exact inBlocks_nil
  | template chain overrides scope name =>
      obtain ⟨-, p, found, ⟨parent, -, rfl⟩ | ⟨s, inBody, rfl⟩⟩ := mem_plan_template member
      · exact InBlocks.append h (inBlocks_blockBodies (own name p found))
      · have stands := Program.mem_statements_of_body inBody
        exact ⟨fun t within => own name p found t (Program.walk_subset_statements stands within), h⟩

end Throughout

theorem loaded_of_program (name : String) (p : Program) (found : r.programs.get? name = some p) :
    ∀ s ∈ p.statements, r.Loaded s := fun _ member => ⟨name, p, found, member⟩

theorem covered_nil : r.Covered [] := inBlocks_nil (Q := fun _ => r.Loaded)

theorem sound_of_plan {t : Job} (h : r.Sound t) : ∀ u ∈ (r.plan t).jobs, r.Sound u := by
  -- All that a job may execute is loaded just if this holds of it under whatever name.
  have same (u : Job) : r.Sound u ↔ Throughout (fun _ => r.Loaded) u := by cases u <;> rfl
  simp only [same] at h ⊢
  exact throughout_of_plan (fun name p => loaded_of_program name p) h

/-- What holds of the blocks of each program, and passes to tables put together, holds of the blocks
in effect for a template. -/
theorem of_lineage {Q : Table BlockBody → Prop}
    (own : ∀ name p, r.programs.get? name = some p → Q (blockBodies p))
    (append : ∀ blocks more, Q blocks → Q more → Q (blocks ++ more)) {steps : Nat}
    {visited : List String} {name : String} {blocks : Table BlockBody}
    (h : r.lineage steps visited name = .ok blocks) : Q blocks := by
  induction steps generalizing visited name blocks with
  | zero => cases h
  | succ steps ih =>
      rw [lineage] at h
      obtain ⟨p, result, h⟩ := bind_eq_ok.1 h
      have first : Q (blockBodies p) := own name p (program_eq_ok result)
      split at h
      · cases h
      · split at h
        · cases h
          exact first
        · obtain ⟨inherited, above, h⟩ := bind_eq_ok.1 h
          cases h
          exact append _ _ first (ih above)

theorem inBlocks_of_lineage {Q : String → Stmt → Prop}
    (own : ∀ name p, r.programs.get? name = some p → ∀ s ∈ p.statements, Q p.name s) {steps : Nat}
    {visited : List String} {name : String} {blocks : Table BlockBody}
    (h : r.lineage steps visited name = .ok blocks) : InBlocks Q blocks :=
  of_lineage (fun name p found => inBlocks_blockBodies (own name p found)) (fun _ _ => .append) h

theorem covered_of_lineage {steps : Nat} {visited : List String} {name : String}
    {blocks : Table BlockBody} (h : r.lineage steps visited name = .ok blocks) :
    r.Covered blocks :=
  inBlocks_of_lineage (Q := fun _ => r.Loaded) (fun name p => loaded_of_program name p) h

end Renderer

end Stencil
