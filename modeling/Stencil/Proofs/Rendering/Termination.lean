import Mathlib.Data.Finset.Card
import Mathlib.Data.Finset.Dedup
import Mathlib.Data.Prod.Lex
import Mathlib.Order.WellFounded
import Stencil.Engine
import Stencil.Proofs.Rendering.Loaded

/-!
# When rendering comes to an end

A rendering finishes if some depth of execution is enough for a text or an error. What it executes
gets smaller from call to call: an inserted template and a parent add a name to the chain, which
never holds a name twice, and a statement is larger than those in its bodies. The exception is a
block that another one stands in for. Its body comes from the table of blocks and may hold the block
itself.

1. `Renderer.finishes_iff_acc`: a job finishes just if its calls do not go on for ever.
2. `Renderer.weight_lt_of_calls`: besides such blocks, whatever is called is smaller.
3. `Renderer.finishes_iff_not_endless`: these blocks are the only way never to finish.
4. `Renderer.finishes_of_wellFounded`: if no block stands inside itself, everything finishes.
-/

namespace Stencil

/-- The job is a block that another one stands in for. -/
def Job.Replaced : Job → Prop
  | .statement site _ (.block name _) => site.overrides.contains name = true
  | _ => False

namespace Renderer

variable {r : Renderer} {t u : Job}

/-- The job gives a text or an error, if the depth is great enough. -/
def Finishes (r : Renderer) (t : Job) : Prop := ∃ depth, r.run depth t ≠ .error .unfinished

/-- The job sets another one in motion, and what comes before that gives texts. -/
def Calls (r : Renderer) (t u : Job) : Prop :=
  ∃ before after, (r.plan t).jobs = before ++ u :: after ∧
    ∀ v ∈ before, ∃ depth text, r.run depth v = .ok text

/-! ## Calls -/

theorem Calls.mem (h : r.Calls t u) : u ∈ (r.plan t).jobs := by
  obtain ⟨before, after, row, -⟩ := h
  simp [row]

theorem run_unique {depth other : Nat} (h : r.run depth t ≠ .error .unfinished)
    (h' : r.run other t ≠ .error .unfinished) : r.run depth t = r.run other t :=
  (run_mono (Nat.le_max_left depth other) h).symm.trans (run_mono (Nat.le_max_right depth other) h')

theorem concat_unfinished {α : Type} {render : α → Except Stop String} {before after : List α}
    {item : α} (texts : ∀ other ∈ before, ∀ stop, render other = .error stop → stop = .unfinished)
    (stuck : render item = .error .unfinished) :
    concat render (before ++ item :: after) = .error .unfinished := by
  induction before with
  | nil =>
      rw [List.nil_append, concat_cons, stuck]
      rfl
  | cons other rest ih =>
      rw [List.forall_mem_cons] at texts
      rw [List.cons_append, concat_cons]
      cases first : render other with
      | error stop =>
          rw [texts.1 stop first]
          rfl
      | ok text =>
          rw [ih texts.2]
          rfl

/-- What a job calls has a result one level below the job. -/
theorem settled_of_calls {depth : Nat} (h : r.run (depth + 1) t ≠ .error .unfinished)
    (calls : r.Calls t u) : r.run depth u ≠ .error .unfinished := by
  intro stuck
  obtain ⟨before, after, row, texts⟩ := calls
  have all : concat (r.run depth) (r.plan t).jobs = .error .unfinished := by
    rw [row]
    refine concat_unfinished (fun v member stop failed => ?_) stuck
    obtain ⟨other, text, done⟩ := texts v member
    -- An error at one depth and a text at another would be two results of the same job.
    by_contra raised
    have settled : r.run depth v ≠ .error .unfinished := by simpa [failed] using raised
    have same := run_unique settled (by simp [done] : r.run other v ≠ .error .unfinished)
    rw [failed, done] at same
    cases same
  rw [run_succ, Plan.follow, all] at h
  exact h rfl

/-- A row of jobs finishes from some job on, if each job of it does that is reached. -/
theorem finishes_row (before : List Job) {rest : List Job}
    (texts : ∀ v ∈ before, ∃ depth text, r.run depth v = .ok text)
    (reached : ∀ ahead u after, rest = ahead ++ u :: after →
      (∀ v ∈ before ++ ahead, ∃ depth text, r.run depth v = .ok text) → r.Finishes u) :
    ∃ depth, concat (r.run depth) rest ≠ .error .unfinished := by
  induction rest generalizing before with
  | nil => exact ⟨0, by simp⟩
  | cons u rest ih =>
      obtain ⟨depth, settled⟩ := reached [] u rest rfl (by simpa using texts)
      cases result : r.run depth u with
      | error stop =>
          refine ⟨depth, ?_⟩
          rw [result] at settled
          rw [concat_cons, result]
          exact settled
      | ok text =>
          have known : ∀ v ∈ before ++ [u], ∃ depth text, r.run depth v = .ok text := by
            intro v member
            rcases List.mem_append.1 member with old | isNew
            · exact texts v old
            · exact ⟨depth, text, List.mem_singleton.1 isNew ▸ result⟩
          obtain ⟨deeper, done⟩ := ih _ known fun ahead v after row fine =>
            reached (u :: ahead) v after (by rw [row, List.cons_append])
              (by simpa using fine)
          -- The job and those after it are brought to one depth.
          have first : r.run (max depth deeper) u = .ok text := by
            rw [run_mono (Nat.le_max_left depth deeper) settled, result]
          have others : concat (r.run (max depth deeper)) rest = concat (r.run deeper) rest :=
            concat_mono (fun v _ settled => run_mono (Nat.le_max_right depth deeper) settled) done
          refine ⟨max depth deeper, ?_⟩
          rw [concat_cons, first, others]
          cases tail : concat (r.run deeper) rest with
          | error stop =>
              rw [tail] at done
              exact done
          | ok _ => simp [Except.map, Except.bind]

theorem finishes_of_calls (h : ∀ u, r.Calls t u → r.Finishes u) : r.Finishes t := by
  have all : ∃ depth, concat (r.run depth) (r.plan t).jobs ≠ .error .unfinished :=
    finishes_row [] (fun _ member => absurd member List.not_mem_nil)
      fun ahead u after row texts => h u ⟨ahead, after, row, texts⟩
  obtain ⟨depth, done⟩ := all
  refine ⟨depth + 1, ?_⟩
  rw [run_succ, Plan.follow]
  cases result : concat (r.run depth) (r.plan t).jobs with
  | error stop =>
      rw [result] at done
      exact done
  | ok text => cases (r.plan t).failure <;> simp

/-- A job finishes just if its calls do not go on for ever. -/
theorem finishes_iff_acc : r.Finishes t ↔ Acc (fun u t => r.Calls t u) t := by
  constructor
  · rintro ⟨depth, settled⟩
    induction depth generalizing t with
    | zero => exact absurd (run_zero r t) settled
    | succ depth ih => exact .intro t fun u calls => ih (settled_of_calls settled calls)
  · intro acc
    induction acc with
    | intro t _ ih => exact finishes_of_calls ih

/-! ## Sizes -/

/-- How many names of programs are not in the chain. -/
def fresh (r : Renderer) (chain : List String) : Nat :=
  (r.programs.keys.toFinset \ chain.toFinset).card

theorem fresh_append_lt {chain : List String} {name : String} {p : Program} (new : name ∉ chain)
    (found : r.programs.get? name = some p) : r.fresh (chain ++ [name]) < r.fresh chain := by
  have known : name ∈ r.programs.keys := by
    rw [← Table.contains_iff, Table.contains, found]
    rfl
  have fewer : r.programs.keys.toFinset \ (chain ++ [name]).toFinset ⊆
      r.programs.keys.toFinset \ chain.toFinset :=
    Finset.sdiff_subset_sdiff subset_rfl (by simp)
  refine Finset.card_lt_card ((Finset.ssubset_iff_of_subset fewer).2 ⟨name, ?_, ?_⟩)
  · simpa using ⟨known, new⟩
  · simp

/-- How large a job is. The names that its chain leaves count first, and then what it holds. -/
def weight (r : Renderer) : Job → Nat ×ₗ Nat
  | .statement site _ s => toLex (r.fresh site.chain, s.walk.length)
  | .template chain _ _ _ => toLex (r.fresh chain, 0)

/-- Besides blocks that others stand in for, a job is larger than what it calls. -/
theorem weight_lt_of_calls (calls : r.Calls t u) (own : ¬t.Replaced) : r.weight u < r.weight t := by
  cases t with
  | statement site scope s =>
      rcases mem_planOf calls.mem with
        ⟨v, within, inner, rfl⟩ | ⟨name, body, block, rfl, found, -⟩ | ⟨name, rfl, rfl⟩
      · exact Prod.Lex.toLex_lt_toLex.2 (.inr ⟨rfl, Stmt.length_walk_lt within⟩)
      · exact absurd (Option.isSome_of_eq_some found) own
      · exact Prod.Lex.toLex_lt_toLex.2 (.inr ⟨rfl, by simp [Stmt.walk]⟩)
  | template chain overrides scope name =>
      obtain ⟨new, p, found, ⟨parent, -, rfl⟩ | ⟨s, -, rfl⟩⟩ := mem_plan_template calls.mem
      · exact Prod.Lex.toLex_lt_toLex.2 (.inl (fresh_append_lt new found))
      · exact Prod.Lex.toLex_lt_toLex.2 (.inl (fresh_append_lt new found))

/-! ## Blocks that others stand in for -/

/-- In the course of a job a block is executed that another one stands in for. -/
def Reenters (r : Renderer) (t u : Job) : Prop := Relation.TransGen r.Calls t u ∧ u.Replaced

/-- There is an endless row of jobs that starts with this one. Each of the others is a block that
another one stands in for, executed in the course of the one before. -/
def Endless (r : Renderer) (t : Job) : Prop :=
  ∃ row : Nat → Job, row 0 = t ∧ ∀ n, r.Reenters (row n) (row (n + 1))

/-- The calls of a job do not go on for ever if those of the replaced blocks do not that are
executed in its course. -/
theorem acc_of_reenters (own : ¬t.Replaced)
    (below : ∀ u, r.Reenters t u → Acc (fun u t => r.Calls t u) u) :
    Acc (fun u t => r.Calls t u) t := by
  induction weight : r.weight t using WellFoundedLT.induction generalizing t with
  | ind size ih =>
      refine .intro t fun u calls => ?_
      by_cases replaced : u.Replaced
      · exact below u ⟨.single calls, replaced⟩
      · -- The weight drops, and what is reentered from below is reentered from here.
        refine ih _ (weight ▸ weight_lt_of_calls calls own) replaced (fun v later => ?_) rfl
        exact below v ⟨.head calls later.1, later.2⟩

theorem acc_calls_iff :
    Acc (fun u t => r.Calls t u) t ↔ Acc (fun u t => r.Reenters t u) t := by
  constructor
  · intro acc
    refine Subrelation.accessible (fun later => ?_) acc.transGen
    exact Relation.transGen_swap.2 later.1
  · intro acc
    induction acc with
    | intro t _ ih =>
        by_cases replaced : t.Replaced
        · refine .intro t fun u calls => ?_
          by_cases again : u.Replaced
          · exact ih u ⟨.single calls, again⟩
          · exact acc_of_reenters again fun v later => ih v ⟨.head calls later.1, later.2⟩
        · exact acc_of_reenters replaced ih

/-- The only way for a job never to finish is an endless row of blocks that others stand in for. -/
theorem finishes_iff_not_endless : r.Finishes t ↔ ¬r.Endless t := by
  rw [finishes_iff_acc, acc_calls_iff]
  exact (not_iff_comm.1 not_acc_iff_exists_descending_chain).symm

/-! ## Blocks inside themselves -/

/-- A block of some program holds, at any depth, a block of the other name. -/
def Nests (r : Renderer) (outer inner : String) : Prop :=
  ∃ name p body, r.programs.get? name = some p ∧ (outer, body) ∈ p.blocks ∧
    ∃ s ∈ body, ∃ below, .block inner below ∈ s.walk

/-- The blocks of the table are blocks of programs, under their names. -/
def Listed (r : Renderer) (overrides : Table BlockBody) : Prop :=
  ∀ block ∈ overrides, ∃ name p, r.programs.get? name = some p ∧ (block.1, block.2.body) ∈ p.blocks

theorem listed_blockBodies {name : String} {p : Program} (found : r.programs.get? name = some p) :
    r.Listed (blockBodies p) := by
  intro block member
  obtain ⟨⟨_, _⟩, listed, rfl⟩ := List.mem_map.1 member
  exact ⟨name, p, found, listed⟩

theorem listed_nil : r.Listed [] := fun _ member => absurd member List.not_mem_nil

theorem Listed.append {overrides more : Table BlockBody} (h : r.Listed overrides)
    (further : r.Listed more) : r.Listed (overrides ++ more) := fun block member =>
  (List.mem_append.1 member).elim (h block) (further block)

/-- A statement finishes if the blocks do that stand in for blocks inside of it, and the templates
that are inserted. -/
theorem finishes_statement {site : Site} {s : Stmt}
    (blocks : ∀ name below, .block name below ∈ s.walk → ∀ block,
      site.overrides.get? name = some block → ∀ u ∈ block.body, ∀ scope,
        r.Finishes (.statement (blockSite site block) scope u))
    (templates : ∀ scope name, r.Finishes (.template site.chain [] scope name)) (scope : Scope) :
    r.Finishes (.statement site scope s) := by
  induction s using Stmt.holds_of_inner generalizing scope with
  | step s ih =>
      refine finishes_of_calls fun t calls => ?_
      rcases mem_planOf calls.mem with
        ⟨u, within, inner, rfl⟩ | ⟨name, body, block, rfl, found, u, inBlock, rfl⟩ | ⟨name, -, rfl⟩
      · refine ih u within (fun name below deeper => ?_) inner
        exact blocks name below (Stmt.mem_walk_of_inner within deeper)
      · exact blocks name body (Stmt.self_mem_walk _) block found u inBlock scope
      · exact templates scope name

theorem finishes_block (layered : WellFounded fun inner outer => r.Nests outer inner) {site : Site}
    (listed : r.Listed site.overrides)
    (templates : ∀ scope name, r.Finishes (.template site.chain [] scope name)) (name : String) :
    ∀ block, site.overrides.get? name = some block → ∀ s ∈ block.body, ∀ template scope,
      r.Finishes (.statement { site with template := template } scope s) := by
  induction name using layered.induction with
  | _ outer ih =>
      intro block found s inBlock template
      obtain ⟨name, p, known, entry⟩ := listed _ (Table.mem_of_get? found)
      refine finishes_statement (fun inner below deeper other replaces u inOther => ?_) templates
      have nested : r.Nests outer inner := ⟨name, p, _, known, entry, s, inBlock, below, deeper⟩
      exact ih inner nested other replaces u inOther _

/-- A statement finishes if no block stands inside itself and templates finish. -/
theorem finishes_of_listed (layered : WellFounded fun inner outer => r.Nests outer inner)
    {site : Site} (listed : r.Listed site.overrides)
    (templates : ∀ scope name, r.Finishes (.template site.chain [] scope name)) (scope : Scope)
    (s : Stmt) : r.Finishes (.statement site scope s) :=
  finishes_statement (fun name _ _ block found u inBlock =>
    finishes_block layered listed templates name block found u inBlock _) templates scope

theorem finishes_template (layered : WellFounded fun inner outer => r.Nests outer inner)
    {chain : List String} {overrides : Table BlockBody} (listed : r.Listed overrides)
    (scope : Scope) (name : String) : r.Finishes (.template chain overrides scope name) := by
  -- Parents and inserted templates lengthen the chain. The table of blocks may change at both.
  induction size : r.fresh chain using Nat.strong_induction_on
    generalizing chain overrides scope name with
  | _ bound ih =>
      refine finishes_of_calls fun t calls => ?_
      obtain ⟨new, p, found, kinds⟩ := mem_plan_template calls.mem
      have smaller : r.fresh (chain ++ [name]) < bound := size ▸ fresh_append_lt new found
      rcases kinds with ⟨parent, -, rfl⟩ | ⟨s, -, rfl⟩
      · exact ih _ smaller (listed.append (listed_blockBodies found)) scope parent rfl
      · refine finishes_of_listed layered listed (fun scope name => ?_) scope s
        exact ih _ smaller listed_nil scope name rfl

theorem listed_of_lineage {steps : Nat} {visited : List String} {name : String}
    {blocks : Table BlockBody} (h : r.lineage steps visited name = .ok blocks) :
    r.Listed blocks :=
  of_lineage (fun _ _ found => listed_blockBodies found) (fun _ _ => .append) h

/-! ## Templates and blocks -/

/-- The block is known to the template, and executing it starts an endless row of blocks that others
stand in for. -/
def EndlessBlock (r : Renderer) (scope : Scope) (name block : String) : Prop :=
  ∃ blocks, r.lineage (r.programs.length + 1) [] name = .ok blocks ∧
    blocks.contains block = true ∧ r.Endless (blockJob blocks scope name block)

theorem renderBlock_finishes_iff {scope : Scope} {name block : String} :
    (∃ depth, r.renderBlock depth scope name block ≠ .error .unfinished) ↔
      ∀ blocks, r.lineage (r.programs.length + 1) [] name = .ok blocks →
        blocks.contains block = true → r.Finishes (blockJob blocks scope name block) := by
  constructor
  · rintro ⟨depth, settled⟩ blocks above known
    exact ⟨depth + 1, renderBlock_eq above known depth ▸ settled⟩
  · intro all
    cases above : r.lineage (r.programs.length + 1) [] name with
    | error cause => exact ⟨0, by simp [renderBlock_error above]⟩
    | ok blocks =>
        cases known : blocks.get? block with
        | none => exact ⟨0, by simp [renderBlock_missing above known]⟩
        | some found =>
            have there : blocks.contains block = true := Option.isSome_of_eq_some known
            obtain ⟨depth, settled⟩ := all blocks above there
            have more := run_mono (Nat.le_succ depth) settled
            exact ⟨depth, renderBlock_eq above there depth ▸ more ▸ settled⟩

/-- Rendering a template or a block of it gives a text or an error at some depth, unless blocks that
others stand in for call each other without end. -/
theorem finishes_unless_endless (r : Renderer) (scope : Scope) (name : String) :
    ((∃ depth, r.render depth scope name ≠ .error .unfinished) ↔
      ¬r.Endless (.template [] [] scope name)) ∧
    ∀ block, (∃ depth, r.renderBlock depth scope name block ≠ .error .unfinished) ↔
      ¬r.EndlessBlock scope name block := by
  refine ⟨finishes_iff_not_endless (t := .template [] [] scope name), fun block => ?_⟩
  rw [renderBlock_finishes_iff]
  simp only [finishes_iff_not_endless, EndlessBlock, not_exists, not_and]

theorem not_finishes_of_calls_self (calls : r.Calls t t) : ¬r.Finishes t := by
  rintro ⟨depth, settled⟩
  induction depth with
  | zero => exact settled (run_zero r t)
  | succ depth ih => exact ih (settled_of_calls settled calls)

/-- A template with a block inside a block of the same name. -/
def selfNested : String :=
  "\x7b\x7b @block \"a\" \x7d\x7d\x7b\x7b @block \"a\" \x7d\x7dx" ++
    "\x7b\x7b @endblock \x7d\x7d\x7b\x7b @endblock \x7d\x7d"

/-- The block stands in for the one inside it. So rendering the block does not come to an end, at
whatever depth, though the template can be rendered. -/
theorem not_finishes_selfNested :
    let e := Engine.make (.memory [("t", ⟨selfNested, 0⟩)]) .default
    ∃ a, e.compiler.compile selfNested "t" = .ok a ∧
      (e.renderer [("t", .ofArtifact a)]).render 4 .empty "t" = .ok "x" ∧
      ∀ depth, (e.renderer [("t", .ofArtifact a)]).renderBlock depth .empty "t" "a" =
        .error .unfinished := by
  intro e
  let a := Artifact.make "t"
    [.openBlock "a", .openBlock "a", .literal "x", .closeBlock, .closeBlock]
  have compiles : (e.compiler.compile selfNested "t").toOption = some a := by decide +kernel
  refine ⟨a, eq_ok_of_toOption compiles, rfl, fun depth => ?_⟩
  let r := e.renderer [("t", .ofArtifact a)]
  let blocks : Table BlockBody := [("a", ⟨"t", [.block "a" [.text "x"]]⟩)]
  have above : r.lineage (r.programs.length + 1) [] "t" = .ok blocks := rfl
  have again : r.Calls (.statement ⟨[], "t", blocks⟩ .empty (.block "a" [.text "x"]))
      (.statement ⟨[], "t", blocks⟩ .empty (.block "a" [.text "x"])) := ⟨[], [], rfl, nofun⟩
  have first : r.Calls (blockJob blocks .empty "t" "a")
      (.statement ⟨[], "t", blocks⟩ .empty (.block "a" [.text "x"])) := ⟨[], [], rfl, nofun⟩
  rw [renderBlock_eq above rfl]
  by_contra settled
  exact not_finishes_of_calls_self again ⟨depth, settled_of_calls settled first⟩

/-- If no block stands inside itself, neither directly nor by way of other blocks, then rendering a
template or a block of it always gives a text or an error. -/
theorem finishes_of_wellFounded (layered : WellFounded fun inner outer => r.Nests outer inner)
    (scope : Scope) (name : String) :
    (∃ depth, r.render depth scope name ≠ .error .unfinished) ∧
      ∀ block, ∃ depth, r.renderBlock depth scope name block ≠ .error .unfinished := by
  refine ⟨finishes_template layered listed_nil scope name, fun block => ?_⟩
  refine renderBlock_finishes_iff.2 fun blocks above _ => ?_
  refine finishes_of_listed layered (listed_of_lineage above) (fun scope name => ?_) scope _
  exact finishes_template layered listed_nil scope name

end Renderer

end Stencil
