import Stencil.Proofs.Rendering.Loaded

/-!
# What rendering does not depend on

Two renderings give the same although they differ in what they are given:

* in the programs, as long as these have the same names, parents and blocks, and those without a
  parent have the same body;
* in the tables of blocks, as long as every block that is reached has the same body in both;
* in the chain. A chain with fewer templates can only spare a rendering a circular reference.

1. `Renderer.planOf_matches`: all that a statement does with its site.
2. `Renderer.plan_similar`: similar jobs set similar jobs in motion.
3. `Renderer.run_similar`: similar jobs give the same results.
-/

namespace Stencil

/-- The programs differ at most in what stands outside the blocks of a program with a parent. -/
structure Program.SameBlocks (p q : Program) : Prop where
  name : q.name = p.name
  parent : q.parent = p.parent
  blocks : ∀ block, q.blocks.get? block = p.blocks.get? block
  body : p.parent = none → q.body = p.body

theorem Program.SameBlocks.refl (p : Program) : p.SameBlocks p :=
  ⟨rfl, rfl, fun _ => rfl, fun _ => rfl⟩

/-- The same names stand for programs, and these have the same blocks. -/
def Table.SameBlocks (programs other : Table Program) : Prop :=
  ∀ name, Option.Rel Program.SameBlocks (programs.get? name) (other.get? name)

theorem Table.SameBlocks.refl (programs : Table Program) : programs.SameBlocks programs := by
  intro name
  cases programs.get? name with
  | none => exact .none
  | some p => exact .some (.refl p)

theorem Table.SameBlocks.cons {name : String} {p q : Program} {programs other : Table Program}
    (first : p.SameBlocks q) (rest : programs.SameBlocks other) :
    Table.SameBlocks ((name, p) :: programs) ((name, q) :: other) := by
  intro key
  unfold Table.get?
  split
  · exact .some first
  · exact rest key

theorem Table.SameBlocks.lookup {programs other : Table Program} (same : programs.SameBlocks other)
    (name : String) :
    (programs.get? name = none ∧ other.get? name = none) ∨
      ∃ p q, programs.get? name = some p ∧ other.get? name = some q ∧ p.SameBlocks q := by
  have known := same name
  cases found : programs.get? name with
  | none =>
      cases found' : other.get? name with
      | none => exact .inl ⟨rfl, rfl⟩
      | some q =>
          rw [found, found'] at known
          cases known
  | some p =>
      cases found' : other.get? name with
      | none =>
          rw [found, found'] at known
          cases known
      | some q =>
          rw [found, found'] at known
          cases known with
          | some blocks => exact .inr ⟨p, q, rfl, rfl, blocks⟩

namespace Renderer

variable {r : Renderer}

theorem get?_blockBodies (p : Program) (block : String) :
    (blockBodies p).get? block = (p.blocks.get? block).map (BlockBody.mk p.name) := by
  unfold blockBodies
  induction p.blocks with
  | nil => rfl
  | cons entry rest ih =>
      obtain ⟨name, body⟩ := entry
      show (if name = block then some _ else Table.get? (List.map _ rest) block) =
        Option.map _ (if name = block then some body else Table.get? rest block)
      split
      · rfl
      · exact ih

theorem contains_blockBodies (p : Program) (block : String) :
    (blockBodies p).contains block = p.blocks.contains block := by
  rw [Table.contains, get?_blockBodies, Option.isSome_map]
  rfl

theorem get?_blockBodies_same {p q : Program} (same : p.SameBlocks q) (block : String) :
    (blockBodies q).get? block = (blockBodies p).get? block := by
  rw [get?_blockBodies, get?_blockBodies, same.name, same.blocks]

/-! ## Plans of statements -/

section Plans

variable {R : Job → Job → Prop} {site site' : Site} {scope scope' : Scope} {s : Stmt}

theorem after_matches {α : Type} (result : Except RenderError α) {next next' : α → Plan}
    (same : ∀ value, result = .ok value → (next value).Matches R (next' value)) :
    (Plan.after result next).Matches R (Plan.after result next') := by
  cases result with
  | error cause => exact ⟨rfl, .nil, rfl⟩
  | ok value => exact same value rfl

theorem bodyJobs_matches {body : List Stmt}
    (each : ∀ u ∈ body, R (.statement site scope u) (.statement site' scope' u)) :
    List.Forall₂ R (bodyJobs site scope body) (bodyJobs site' scope' body) := by
  unfold bodyJobs
  rw [List.forall₂_map_left_iff, List.forall₂_map_right_iff, List.forall₂_same]
  exact each

theorem flatMap_matches {α : Type} {row : List α} {jobs jobs' : α → List Job}
    (each : ∀ item, List.Forall₂ R (jobs item) (jobs' item)) :
    List.Forall₂ R (row.flatMap jobs) (row.flatMap jobs') := by
  induction row with
  | nil => exact .nil
  | cons item rest ih =>
      rw [List.flatMap_cons, List.flatMap_cons]
      exact List.rel_append (each item) ih

theorem replicate_matches (n : Nat) {jobs jobs' : List Job} (same : List.Forall₂ R jobs jobs') :
    List.Forall₂ R (List.replicate n jobs).flatten (List.replicate n jobs').flatten := by
  induction n with
  | zero => exact .nil
  | succ n ih =>
      rw [List.replicate_succ, List.replicate_succ, List.flatten_cons, List.flatten_cons]
      exact List.rel_append same ih

/-- A statement makes use of its site in three ways: it passes it on to the statements inside of it,
looks blocks up, and hands the chain to a template that it inserts. -/
theorem planOf_matches (template : site'.template = site.template)
    (inside : ∀ u ∈ s.inner, ∀ scope, R (.statement site scope u) (.statement site' scope u))
    (blocks : ∀ name body, s = .block name body →
      blockAt site' name body = blockAt site name body ∧
        ∀ u ∈ (blockAt site name body).body,
          R (.statement (blockSite site (blockAt site name body)) scope u)
            (.statement (blockSite site' (blockAt site name body)) scope u))
    (inserts : ∀ name, s = .insert name →
      R (.template site.chain [] scope name) (.template site'.chain [] scope name)) :
    (r.planOf site scope s).Matches R (r.planOf site' scope s) := by
  cases s with
  | text text => exact ⟨rfl, .nil, rfl⟩
  | echo expression strategy line =>
      rw [planOf, planOf, template]
      exact after_matches _ fun _ _ => ⟨rfl, .nil, rfl⟩
  | choice branches otherwise =>
      rw [planOf, planOf, template]
      refine after_matches _ fun body result => ⟨rfl, ?_, rfl⟩
      exact bodyJobs_matches fun u member => inside u (chosen_mem result u member) scope
  | foreach text body | forIn text body =>
      rw [planOf, planOf, template]
      refine after_matches _ fun rounds _ => ⟨rfl, flatMap_matches fun inner => ?_, rfl⟩
      refine bodyJobs_matches fun u member => inside u ?_ inner
      simpa [Stmt.inner, Stmt.bodies] using member
  | whileDo condition body =>
      rw [planOf, planOf, template]
      refine after_matches _ fun holds _ => ?_
      cases holds with
      | false => exact ⟨rfl, .nil, rfl⟩
      | true =>
          refine ⟨rfl, replicate_matches _ (bodyJobs_matches fun u member => inside u ?_ scope), rfl⟩
          simpa [Stmt.inner, Stmt.bodies] using member
  | block name body =>
      obtain ⟨same, each⟩ := blocks name body rfl
      rw [planOf, planOf, same]
      exact ⟨rfl, bodyJobs_matches each, rfl⟩
  | insert name => exact ⟨rfl, .cons (inserts name rfl) .nil, rfl⟩

end Plans

/-! ## Similar jobs -/

/-- In both tables the blocks inside of the statement have the same body. -/
def Agree (blocks other : Table BlockBody) (template : String) (s : Stmt) : Prop :=
  ∀ name body, .block name body ∈ s.walk →
    (other.get? name).getD ⟨template, body⟩ = (blocks.get? name).getD ⟨template, body⟩

/-- In both tables the blocks inside of the first one's bodies have the same body. -/
def Faithful (blocks other : Table BlockBody) : Prop :=
  ∀ name block, blocks.get? name = some block →
    ∀ s ∈ block.body, Agree blocks other block.template s

theorem agree_of_get? {blocks other : Table BlockBody}
    (same : ∀ block, other.get? block = blocks.get? block) (template : String) (s : Stmt) :
    Agree blocks other template s := fun name _ _ => by rw [same name]

/-- More blocks behind a table make no difference, where the table has a block or the one behind it
is the statement's own. -/
theorem agree_append {blocks more : Table BlockBody} {template : String} {s : Stmt}
    (each : ∀ name body, .block name body ∈ s.walk →
      blocks.contains name = true ∨ more.get? name = some ⟨template, body⟩) :
    Agree blocks (blocks ++ more) template s := by
  intro name body inside
  rw [Table.get?_join]
  cases found : blocks.get? name with
  | some block => rfl
  | none =>
      rcases each name body inside with known | behind
      · rw [Table.contains, found] at known
        cases known
      · rw [behind]
        rfl

theorem faithful_of_get? {blocks other : Table BlockBody}
    (same : ∀ block, other.get? block = blocks.get? block) : Faithful blocks other :=
  fun _ block _ s _ => agree_of_get? same block.template s

/-- The jobs are the same up to the tables of blocks and the chains of templates. -/
inductive Similar (C : List String → List String → Prop) : Job → Job → Prop
  | statement {site site' : Site} (scope : Scope) (s : Stmt)
      (template : site'.template = site.template) (chains : C site.chain site'.chain)
      (own : Agree site.overrides site'.overrides site.template s)
      (others : Faithful site.overrides site'.overrides) :
      Similar C (.statement site scope s) (.statement site' scope s)
  | template {chain chain' : List String} {overrides overrides' : Table BlockBody} (scope : Scope)
      (name : String) (chains : C chain chain')
      (same : ∀ block, overrides'.get? block = overrides.get? block) :
      Similar C (.template chain overrides scope name) (.template chain' overrides' scope name)

/-- One chain may stand in for another: it revisits a template only if the other does, and then
either it is the same or the circular reference is of no interest. -/
structure StandsIn (K : Stop → Prop) (C : List String → List String → Prop) : Prop where
  push : ∀ {chain chain'} name, C chain chain' → C (chain ++ [name]) (chain' ++ [name])
  ahead : ∀ {chain chain'} {name : String}, C chain chain' → name ∈ chain' → name ∈ chain
  again : ∀ {chain chain'} {name : String}, C chain chain' → name ∈ chain →
    chain' = chain ∨ ¬K (.raised (.circularReference (chain ++ [name])))

theorem standsIn_eq (K : Stop → Prop) : StandsIn K Eq where
  push _ same := same ▸ rfl
  ahead same member := same ▸ member
  again same _ := .inl same.symm

/-- Everything but a circular reference. -/
def NotCircular (stop : Stop) : Prop := ∀ chain, stop ≠ .raised (.circularReference chain)

theorem standsIn_subset : StandsIn NotCircular fun chain chain' => chain' ⊆ chain where
  push _ fewer := List.append_subset.2
    ⟨List.Subset.trans fewer (List.subset_append_left _ _), List.subset_append_right _ _⟩
  ahead fewer member := fewer member
  again _ _ := .inr fun notCircular => notCircular _ rfl

variable {K : Stop → Prop} {C : List String → List String → Prop}

theorem similar_inner {site site' : Site} {s u : Stmt} (template : site'.template = site.template)
    (chains : C site.chain site'.chain)
    (own : Agree site.overrides site'.overrides site.template s)
    (others : Faithful site.overrides site'.overrides) (within : u ∈ s.inner) (scope : Scope) :
    Similar C (.statement site scope u) (.statement site' scope u) := by
  refine .statement scope u template chains (fun name body inside => ?_) others
  exact own name body (Stmt.mem_walk_of_inner within inside)

theorem planOf_similar {site site' : Site} {scope : Scope} {s : Stmt}
    (template : site'.template = site.template) (chains : C site.chain site'.chain)
    (own : Agree site.overrides site'.overrides site.template s)
    (others : Faithful site.overrides site'.overrides) :
    (r.planOf site scope s).Matches (Similar C) (r.planOf site' scope s) := by
  refine planOf_matches template (fun u within scope => ?_) (fun name body isBlock => ?_)
    (fun name _ => .template scope name chains fun _ => rfl)
  · exact similar_inner template chains own others within scope
  · subst isBlock
    refine ⟨?_, fun u member => .statement scope u rfl chains ?_ others⟩
    · unfold blockAt
      rw [template]
      exact own name body (Stmt.self_mem_walk _)
    · -- The body is the statement's own, or one that the first table gives.
      unfold blockAt at member ⊢
      cases found : site.overrides.get? name with
      | none =>
          rw [found] at member
          refine fun inner below inside => own inner below ?_
          refine Stmt.mem_walk_of_inner ?_ inside
          simpa [Stmt.inner, Stmt.bodies] using member
      | some block =>
          rw [found] at member
          exact others name block found u member

/-! ## Programs with the same blocks -/

section Programs

variable {other : Table Program}

theorem chosen_programs (template : String) (scope : Scope) (otherwise : Option (List Stmt))
    (branches : List (String × List Stmt)) :
    { r with programs := other }.chosen template scope otherwise branches =
      r.chosen template scope otherwise branches := by
  induction branches with
  | nil => rfl
  | cons branch rest ih =>
      obtain ⟨condition, body⟩ := branch
      rw [chosen, chosen, ih]
      rfl

theorem planOf_programs (site : Site) (scope : Scope) (s : Stmt) :
    { r with programs := other }.planOf site scope s = r.planOf site scope s := by
  cases s with
  | choice branches otherwise => rw [planOf, planOf, chosen_programs]
  | text _ | echo _ _ _ | foreach _ _ | forIn _ _ | whileDo _ _ | block _ _ | insert _ => rfl

theorem plan_similar (programs : r.programs.SameBlocks other) (standsIn : StandsIn K C) {t u : Job}
    (h : Similar C t u) :
    (∃ cause, r.plan t = .fail cause ∧ ¬K (.raised cause)) ∨
      (r.plan t).Matches (Similar C) ({ r with programs := other }.plan u) := by
  cases h with
  | @statement site site' scope s template chains own others =>
      right
      have same : { r with programs := other }.plan (.statement site' scope s) =
          r.planOf site' scope s := planOf_programs site' scope s
      rw [same]
      exact planOf_similar template chains own others
  | @template chain chain' overrides overrides' scope name chains same =>
      by_cases visited : name ∈ chain
      · rcases standsIn.again chains visited with rfl | dropped
        · right
          simp only [plan, List.contains_iff_mem.2 visited, if_true]
          exact ⟨rfl, .nil, rfl⟩
        · left
          refine ⟨_, ?_, dropped⟩
          simp only [plan, List.contains_iff_mem.2 visited, if_true]
      · right
        have new : name ∉ chain' := fun member => visited (standsIn.ahead chains member)
        have longer := standsIn.push name chains
        simp only [plan, List.contains_iff_mem, visited, new, if_false, program]
        rcases programs.lookup name with ⟨missing, missing'⟩ | ⟨p, q, found, found', blocks⟩
        · rw [missing, missing']
          exact ⟨rfl, .nil, rfl⟩
        · rw [found, found']
          simp only [Plan.after, blocks.parent]
          cases inherits : p.parent with
          | some parent =>
              refine ⟨rfl, .cons (.template scope parent longer fun block => ?_) .nil, rfl⟩
              rw [Table.get?_join, Table.get?_join, same, get?_blockBodies_same blocks]
          | none =>
              rw [blocks.body inherits, blocks.name]
              refine ⟨rfl, bodyJobs_matches fun u _ => ?_, rfl⟩
              exact .statement scope u rfl longer (agree_of_get? same _ u) (faithful_of_get? same)

/-- Similar jobs give the same results, as far as these are kept. -/
theorem run_similar (programs : r.programs.SameBlocks other) (standsIn : StandsIn K C) {depth : Nat}
    {t u : Job} (similar : Similar C t u) (kept : Kept K (r.run depth t)) :
    { r with programs := other }.run depth u = r.run depth t :=
  run_of_matches (fun _ _ => plan_similar programs standsIn) similar kept

end Programs

end Renderer

end Stencil
