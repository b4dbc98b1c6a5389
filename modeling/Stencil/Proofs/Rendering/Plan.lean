import Mathlib.Data.List.Forall2
import Stencil.Renderer

/-!
# What rendering comes down to

Every statement and every template comes down to a text of its own, or to other things that are
rendered one after the other, or to an error. A `Plan` says which. A run at a depth follows the plan
and runs what it sets in motion one level deeper.

1. `Renderer.run_succ`: a run follows the plan.
2. `Plan.follow_matches`, `Renderer.run_of_matches`: plans that match give the same results.
3. `Renderer.run_mono`: a result stays the same at every greater depth.
4. `Renderer.output_of_plan`: what holds of the texts that plans contribute, and of the empty text,
   and passes to texts put together, holds of every output.
-/

namespace Stencil

/-- What can be rendered: a statement, or a template inside of the templates of `chain`. -/
inductive Job where
  | statement (site : Site) (scope : Scope) (s : Stmt)
  | template (chain : List String) (overrides : Table BlockBody) (scope : Scope) (name : String)

/-- What a job comes down to: a text, the jobs that are done after it in order, and the error that
follows on them, if any. -/
structure Plan where
  text : String
  jobs : List Job
  failure : Option RenderError

namespace Plan

def write (text : String) : Plan := ⟨text, [], none⟩

def fail (cause : RenderError) : Plan := ⟨"", [], some cause⟩

def perform (jobs : List Job) : Plan := ⟨"", jobs, none⟩

/-- The plan for what an evaluation gives, which may fail. -/
def after {α : Type} (result : Except RenderError α) (next : α → Plan) : Plan :=
  match result with
  | .ok value => next value
  | .error cause => fail cause

end Plan

namespace Renderer

variable {α β : Type}

@[simp] theorem orStop_ok (value : α) : orStop (.ok value) = .ok value := rfl

@[simp] theorem orStop_error (cause : RenderError) :
    orStop (.error cause : Except RenderError α) = .error (.raised cause) := rfl

/-! ## Texts in a row -/

theorem foldlM_start (render : α → Except Stop String) (row : List α) (out : String) :
    row.foldlM (fun out item => (render item).map (out ++ ·)) out =
      (concat render row).map (out ++ ·) := by
  unfold concat
  induction row generalizing out with
  | nil => simp [pure, Except.pure, Except.map]
  | cons item rest ih =>
      simp only [List.foldlM_cons]
      cases render item with
      | error stop => rfl
      | ok text =>
          simp only [Except.map, bind, Except.bind] at ih ⊢
          rw [ih, ih ("" ++ text)]
          split <;> simp [String.append_assoc]

@[simp] theorem concat_nil (render : α → Except Stop String) : concat render [] = .ok "" := rfl

theorem concat_cons (render : α → Except Stop String) (item : α) (rest : List α) :
    concat render (item :: rest) =
      (render item).bind fun text => (concat render rest).map (text ++ ·) := by
  rw [concat, List.foldlM_cons]
  cases render item with
  | error stop => rfl
  | ok text =>
      show rest.foldlM _ ("" ++ text) = _
      rw [foldlM_start, String.empty_append]
      rfl

theorem concat_append (render : α → Except Stop String) (row more : List α) :
    concat render (row ++ more) =
      (concat render row).bind fun text => (concat render more).map (text ++ ·) := by
  induction row with
  | nil =>
      show concat render more = (concat render more).map ("" ++ ·)
      cases concat render more <;> simp [Except.map]
  | cons item rest ih =>
      rw [List.cons_append, concat_cons, concat_cons, ih]
      cases render item with
      | error stop => rfl
      | ok text =>
          cases concat render rest with
          | error stop => rfl
          | ok tail =>
              show ((concat render more).map (tail ++ ·)).map (text ++ ·) =
                (concat render more).map (text ++ tail ++ ·)
              cases concat render more <;> simp [Except.map, String.append_assoc]

/-- An item of a row gives a part of the text of the row. -/
theorem concat_split {render : α → Except Stop String} {before after : List α} {item : α}
    {out : String} (h : concat render (before ++ item :: after) = .ok out) :
    ∃ first text last, concat render before = .ok first ∧ render item = .ok text ∧
      concat render after = .ok last ∧ out = first ++ text ++ last := by
  rw [concat_append, concat_cons] at h
  cases early : concat render before with
  | error stop =>
      rw [early] at h
      cases h
  | ok first =>
      cases own : render item with
      | error stop =>
          rw [early, own] at h
          cases h
      | ok text =>
          cases late : concat render after with
          | error stop =>
              rw [early, own, late] at h
              cases h
          | ok last =>
              rw [early, own, late] at h
              cases h
              exact ⟨first, text, last, rfl, rfl, rfl, (String.append_assoc).symm⟩

theorem concat_map (render : β → Except Stop String) (f : α → β) (row : List α) :
    concat render (row.map f) = concat (fun item => render (f item)) row := by
  simp only [concat, List.foldlM_map]

theorem concat_flatMap (render : β → Except Stop String) (f : α → List β) (row : List α) :
    concat render (row.flatMap f) = concat (fun item => concat render (f item)) row := by
  induction row with
  | nil => rfl
  | cons item rest ih => rw [List.flatMap_cons, concat_append, concat_cons, ih]

/-! ## Plans -/

def bodyJobs (site : Site) (scope : Scope) (body : List Stmt) : List Job :=
  body.map (.statement site scope)

/-- The body that is executed for a block at a site, and the template it is written in. -/
def blockAt (site : Site) (name : String) (body : List Stmt) : BlockBody :=
  (site.overrides.get? name).getD ⟨site.template, body⟩

/-- The site of a body that is executed for a block. -/
def blockSite (site : Site) (block : BlockBody) : Site := { site with template := block.template }

/-- What a statement comes down to. -/
def planOf (r : Renderer) (site : Site) (scope : Scope) : Stmt → Plan
  | .text text => .write text
  | .echo expression strategy line =>
      .after (r.echo site.template scope expression strategy line) .write
  | .choice branches otherwise =>
      .after (r.chosen site.template scope otherwise branches) fun body =>
        .perform (bodyJobs site scope body)
  | .foreach text body =>
      .after (Loop.foreachRounds r.rules site.template scope text) fun rounds =>
        .perform ((Loop.scopes scope rounds).flatMap fun inner => bodyJobs site inner body)
  | .forIn text body =>
      .after (Loop.forRounds r.rules r.loopLimit site.template scope text) fun rounds =>
        .perform ((Loop.scopes scope rounds).flatMap fun inner => bodyJobs site inner body)
  | .whileDo condition body =>
      -- A condition that holds once holds in every round: no round changes the scope.
      .after (r.rules.holds site.template scope condition) fun holds =>
        if holds then
          ⟨"", (List.replicate r.loopLimit (bodyJobs site scope body)).flatten,
            some (.loopLimit site.template r.loopLimit)⟩
        else .perform []
  | .block name body =>
      let block := blockAt site name body
      .perform (bodyJobs (blockSite site block) scope block.body)
  | .insert name => .perform [.template site.chain [] scope name]

/-- What a job comes down to. -/
def plan (r : Renderer) : Job → Plan
  | .statement site scope s => r.planOf site scope s
  | .template chain overrides scope name =>
      if chain.contains name then .fail (.circularReference (chain ++ [name]))
      else
        .after (r.program name) fun p =>
          match p.parent with
          | some parent =>
              .perform [.template (chain ++ [name]) (overrides ++ blockBodies p) scope parent]
          | none => .perform (bodyJobs ⟨chain ++ [name], p.name, overrides⟩ scope p.body)

def run (r : Renderer) (depth : Nat) : Job → Except Stop String
  | .statement site scope s => r.statement depth site scope s
  | .template chain overrides scope name => r.templateWith depth chain overrides scope name

end Renderer

/-- The text of a plan whose jobs are run in some way. -/
def Plan.follow (p : Plan) (run : Job → Except Stop String) : Except Stop String :=
  match Renderer.concat run p.jobs, p.failure with
  | .error stop, _ => .error stop
  | .ok _, some cause => .error (.raised cause)
  | .ok text, none => .ok (p.text ++ text)

namespace Plan

theorem mem_after {α : Type} {result : Except RenderError α} {next : α → Plan} {t : Job} :
    t ∈ (after result next).jobs ↔ ∃ value, result = .ok value ∧ t ∈ (next value).jobs := by
  cases result <;> simp [after, fail]

variable {run other : Job → Except Stop String}

@[simp] theorem follow_write (text : String) : (write text).follow run = .ok text := by
  simp [follow, write]

@[simp] theorem follow_perform (jobs : List Job) :
    (perform jobs).follow run = Renderer.concat run jobs := by
  unfold follow perform
  cases Renderer.concat run jobs <;> simp

theorem follow_after {α : Type} (result : Except RenderError α) (next : α → Plan) :
    (after result next).follow run =
      (Renderer.orStop result).bind fun value => (next value).follow run := by
  cases result <;> rfl

end Plan

namespace Renderer

-- Neither condition nor body of a loop changes the scope, so every round is like the first.
theorem repeatWhile_eq (overrun : RenderError) (condition : Except RenderError Bool)
    (body : Except Stop String) (limit : Nat) (out : String) :
    repeatWhile overrun (fun _ => condition) (fun _ => body) limit out =
      (orStop condition).bind fun holds =>
        if holds then
          (concat (fun _ : Unit => body) (List.replicate limit ())).bind fun _ =>
            .error (.raised overrun)
        else .ok out := by
  cases condition with
  | error cause => cases limit <;> rfl
  | ok holds =>
      cases holds with
      | false => cases limit <;> rfl
      | true =>
          induction limit generalizing out with
          | zero => rfl
          | succ limit ih =>
              rw [List.replicate_succ, concat_cons]
              cases body with
              | error stop => rfl
              | ok text =>
                  show repeatWhile overrun _ _ limit (out ++ text) = _
                  rw [ih]
                  show (concat _ (List.replicate limit ())).bind _ =
                    ((concat _ (List.replicate limit ())).map (text ++ ·)).bind _
                  cases concat (fun _ : Unit => Except.ok text) (List.replicate limit ()) <;> rfl

theorem concat_replicate (render : α → Except Stop String) (row : List α) (n : Nat) :
    concat render (List.replicate n row).flatten =
      concat (fun _ : Unit => concat render row) (List.replicate n ()) := by
  induction n with
  | zero => rfl
  | succ n ih =>
      rw [List.replicate_succ, List.flatten_cons, concat_append, ih, List.replicate_succ,
        concat_cons]

theorem run_body (r : Renderer) (depth : Nat) (site : Site) (scope : Scope) (body : List Stmt) :
    concat (r.run depth) (bodyJobs site scope body) =
      concat (fun s => r.statement depth site scope s) body := concat_map _ _ _

theorem statement_succ (r : Renderer) (depth : Nat) (site : Site) (scope : Scope) (s : Stmt) :
    r.statement (depth + 1) site scope s = (r.planOf site scope s).follow (r.run depth) := by
  cases s with
  | text text => simp [statement, planOf]
  | echo expression strategy line =>
      rw [statement, planOf, Plan.follow_after]
      cases r.echo site.template scope expression strategy line <;>
        simp [Except.bind]
  | choice branches otherwise =>
      rw [statement, planOf, Plan.follow_after]
      simp only [Plan.follow_perform, run_body]
      rfl
  | foreach text body =>
      rw [statement, planOf, Plan.follow_after]
      simp only [Plan.follow_perform, concat_flatMap, run_body]
      rfl
  | forIn text body =>
      rw [statement, planOf, Plan.follow_after]
      simp only [Plan.follow_perform, concat_flatMap, run_body]
      rfl
  | whileDo condition body =>
      rw [statement, planOf, Plan.follow_after, repeatWhile_eq]
      cases r.rules.holds site.template scope condition with
      | error cause => rfl
      | ok holds =>
          cases holds with
          | false => rfl
          | true =>
              simp only [orStop_ok, Except.bind, if_true, Plan.follow, concat_replicate, run_body]
              cases concat _ (List.replicate r.loopLimit ()) <;> rfl
  | block name body =>
      rw [statement, planOf, Plan.follow_perform, run_body]
      rfl
  | insert name =>
      rw [statement, planOf, Plan.follow_perform, concat_cons, concat_nil]
      show _ = (r.templateWith depth site.chain [] scope name).bind _
      cases r.templateWith depth site.chain [] scope name <;> simp [Except.bind, Except.map]

theorem templateWith_succ (r : Renderer) (depth : Nat) (chain : List String)
    (overrides : Table BlockBody) (scope : Scope) (name : String) :
    r.templateWith (depth + 1) chain overrides scope name =
      (r.plan (.template chain overrides scope name)).follow (r.run depth) := by
  rw [templateWith, plan]
  split
  · rfl
  · rw [Plan.follow_after]
    cases r.program name with
    | error cause => rfl
    | ok p =>
        show (match p.parent with | some parent => _ | none => _) = Plan.follow _ _
        cases p.parent with
        | some parent =>
            simp only [Plan.follow_perform, concat_cons, concat_nil]
            show _ = (r.templateWith depth (chain ++ [name]) (overrides ++ blockBodies p) scope
              parent).bind _
            cases r.templateWith depth (chain ++ [name]) (overrides ++ blockBodies p) scope
              parent <;> simp [Except.bind, Except.map]
        | none => simp only [Plan.follow_perform, run_body]

/-- A run follows the plan, and runs what the plan sets in motion one level deeper. -/
theorem run_succ (r : Renderer) (depth : Nat) (t : Job) :
    r.run (depth + 1) t = (r.plan t).follow (r.run depth) := by
  cases t with
  | statement site scope s => exact statement_succ r depth site scope s
  | template chain overrides scope name =>
      exact templateWith_succ r depth chain overrides scope name

theorem run_zero (r : Renderer) (t : Job) : r.run 0 t = .error .unfinished := by
  cases t <;> simp [run, statement, templateWith]

end Renderer

/-! ## Two runs side by side -/

/-- The result is a text, or it stops in one of some ways. -/
def Kept (K : Stop → Prop) (result : Except Stop String) : Prop :=
  ∀ stop, result = .error stop → K stop

theorem kept_of_ok {K : Stop → Prop} {result : Except Stop String} {text : String}
    (h : result = .ok text) : Kept K result := by
  intro stop stopped
  rw [h] at stopped
  cases stopped

/-- Two plans with the same text and the same error, whose jobs are related one by one. -/
structure Plan.Matches (R : Job → Job → Prop) (p q : Plan) : Prop where
  text : q.text = p.text
  jobs : List.Forall₂ R p.jobs q.jobs
  failure : q.failure = p.failure

variable {α β : Type} {K : Stop → Prop}

/-- Two rows give the same, if the items of one give what those of the other do. Only the results
that are kept have to be the same. -/
theorem Renderer.concat_matches {render : α → Except Stop String} {other : β → Except Stop String}
    {row : List α} {row' : List β}
    (same : List.Forall₂ (fun item item' => Kept K (render item) → other item' = render item)
      row row')
    (kept : Kept K (concat render row)) : concat other row' = concat render row := by
  induction same with
  | nil => rfl
  | @cons item item' rest rest' first _ ih =>
      rw [concat_cons] at kept
      rw [concat_cons, concat_cons]
      cases result : render item with
      | error stop =>
          rw [result] at kept first
          rw [first kept]
          rfl
      | ok text =>
          rw [result] at kept first
          have others : Kept K (concat render rest) := by
            intro stop stopped
            rw [stopped] at kept
            exact kept stop rfl
          rw [first (kept_of_ok rfl), ih others]

theorem Plan.follow_matches {run other : Job → Except Stop String} {p q : Plan}
    (same : p.Matches (fun t u => Kept K (run t) → other u = run t) q)
    (kept : Kept K (p.follow run)) : q.follow other = p.follow run := by
  have jobs : Kept K (Renderer.concat run p.jobs) := by
    intro stop stopped
    unfold follow at kept
    rw [stopped] at kept
    exact kept stop rfl
  unfold follow
  rw [Renderer.concat_matches same.jobs jobs, same.text, same.failure]

namespace Renderer

/-- Related jobs give the same, if a job that does not fail in a way that is of no interest has a
plan that matches the one of its counterpart. -/
theorem run_of_matches {r r' : Renderer} {R : Job → Job → Prop}
    (step : ∀ t u, R t u →
      (∃ cause, r.plan t = .fail cause ∧ ¬K (.raised cause)) ∨ (r.plan t).Matches R (r'.plan u))
    {depth : Nat} {t u : Job} (related : R t u) (kept : Kept K (r.run depth t)) :
    r'.run depth u = r.run depth t := by
  induction depth generalizing t u with
  | zero => rw [run_zero, run_zero]
  | succ depth ih =>
      rw [run_succ] at kept
      rw [run_succ, run_succ]
      rcases step t u related with ⟨cause, fails, dropped⟩ | same
      · rw [fails] at kept
        exact absurd (kept (.raised cause) rfl) dropped
      · exact Plan.follow_matches
          ⟨same.text, same.jobs.imp fun _ _ => ih, same.failure⟩ kept

/-! ## Single blocks -/

/-- A block of a template as a statement that stands in no template being rendered. -/
def blockJob (blocks : Table BlockBody) (scope : Scope) (name block : String) : Job :=
  .statement ⟨[], name, blocks⟩ scope (.block block [])

section

variable {r : Renderer} {scope : Scope} {name block : String} {blocks : Table BlockBody}

theorem renderBlock_error {cause : RenderError}
    (above : r.lineage (r.programs.length + 1) [] name = .error cause) (depth : Nat) :
    r.renderBlock depth scope name block = .error (.raised cause) := by
  rw [renderBlock, above]
  rfl

theorem renderBlock_missing (above : r.lineage (r.programs.length + 1) [] name = .ok blocks)
    (missing : blocks.get? block = none) (depth : Nat) :
    r.renderBlock depth scope name block = .error (.raised (.blockNotFound block name)) := by
  rw [renderBlock, above, orStop_ok]
  simp only [bind, Except.bind, missing]

theorem renderBlock_found (above : r.lineage (r.programs.length + 1) [] name = .ok blocks)
    {found : BlockBody} (there : blocks.get? block = some found) (depth : Nat) :
    r.renderBlock depth scope name block =
      concat (r.run depth) (bodyJobs ⟨[], found.template, blocks⟩ scope found.body) := by
  rw [renderBlock, above, orStop_ok, run_body]
  simp only [bind, Except.bind, there]

/-- A block is looked for among those in effect, and the body that is found is executed. -/
theorem renderBlock_cases (r : Renderer) (depth : Nat) (scope : Scope) (name block : String) :
    (∃ cause, r.lineage (r.programs.length + 1) [] name = .error cause ∧
      r.renderBlock depth scope name block = .error (.raised cause)) ∨
    ∃ blocks, r.lineage (r.programs.length + 1) [] name = .ok blocks ∧
      (r.renderBlock depth scope name block = .error (.raised (.blockNotFound block name)) ∨
        ∃ found, blocks.get? block = some found ∧ r.renderBlock depth scope name block =
          concat (r.run depth) (bodyJobs ⟨[], found.template, blocks⟩ scope found.body)) := by
  cases above : r.lineage (r.programs.length + 1) [] name with
  | error cause => exact .inl ⟨cause, rfl, renderBlock_error above depth⟩
  | ok blocks =>
      refine .inr ⟨blocks, rfl, ?_⟩
      cases there : blocks.get? block with
      | none => exact .inl (renderBlock_missing above there depth)
      | some found => exact .inr ⟨found, rfl, renderBlock_found above there depth⟩

/-- A block that is known is executed like a statement, whatever stands in this one and whatever
template it stands in. -/
theorem renderBlock_statement (above : r.lineage (r.programs.length + 1) [] name = .ok blocks)
    (known : blocks.contains block = true) (depth : Nat) (template : String) (body : List Stmt) :
    r.renderBlock depth scope name block =
      r.run (depth + 1) (.statement ⟨[], template, blocks⟩ scope (.block block body)) := by
  obtain ⟨found, there⟩ := Option.isSome_iff_exists.1 known
  rw [renderBlock_found above there, run_succ]
  show _ = (r.planOf ⟨[], template, blocks⟩ scope (.block block body)).follow (r.run depth)
  rw [planOf, Plan.follow_perform, blockAt, there]
  rfl

theorem renderBlock_eq (above : r.lineage (r.programs.length + 1) [] name = .ok blocks)
    (known : blocks.contains block = true) (depth : Nat) :
    r.renderBlock depth scope name block =
      r.run (depth + 1) (blockJob blocks scope name block) :=
  renderBlock_statement above known depth name []

end

/-! ## Greater depth -/

theorem kept_settled_iff {result : Except Stop String} :
    Kept (· ≠ .unfinished) result ↔ result ≠ .error .unfinished := by
  constructor
  · intro kept stuck
    exact kept .unfinished stuck rfl
  · rintro settled stop stopped rfl
    exact settled stopped

theorem concat_mono {render other : α → Except Stop String} {row : List α}
    (same : ∀ item ∈ row, render item ≠ .error .unfinished → other item = render item)
    (h : concat render row ≠ .error .unfinished) : concat other row = concat render row := by
  refine concat_matches (List.forall₂_same.2 fun item member settled => ?_) (kept_settled_iff.2 h)
  exact same item member (kept_settled_iff.1 settled)

/-- A result that is there at some depth stays the same at every greater one. -/
theorem run_mono {r : Renderer} {depth deeper : Nat} {t : Job} (le : depth ≤ deeper)
    (h : r.run depth t ≠ .error .unfinished) : r.run deeper t = r.run depth t := by
  induction depth generalizing deeper t with
  | zero => exact absurd (run_zero r t) h
  | succ depth ih =>
      obtain ⟨more, rfl⟩ := Nat.exists_eq_add_of_le le
      rw [Nat.add_right_comm]
      rw [run_succ] at h
      rw [run_succ, run_succ]
      refine Plan.follow_matches ⟨rfl, List.forall₂_same.2 fun u _ settled => ?_, rfl⟩
        (kept_settled_iff.2 h)
      exact ih (Nat.le_add_right depth more) (kept_settled_iff.1 settled)

/-! ## Outputs -/

theorem concat_output {Q : String → Prop} (empty : Q "")
    (append : ∀ a b, Q a → Q b → Q (a ++ b)) {render : α → Except Stop String} {row : List α}
    {out : String} (each : ∀ item ∈ row, ∀ text, render item = .ok text → Q text)
    (h : concat render row = .ok out) : Q out := by
  induction row generalizing out with
  | nil =>
      cases h
      exact empty
  | cons item rest ih =>
      rw [List.forall_mem_cons] at each
      rw [concat_cons] at h
      cases first : render item with
      | error stop =>
          rw [first] at h
          cases h
      | ok text =>
          cases more : concat render rest with
          | error stop =>
              rw [first, more] at h
              cases h
          | ok tail =>
              rw [first, more] at h
              cases h
              exact append text tail (each.1 text first) (ih each.2 more)

/-- What holds of the texts that plans contribute and passes to texts put together holds of every
output. `Good` is what the jobs that are set in motion have in common. -/
theorem output_of_plan {r : Renderer} {Good : Job → Prop} {Q : String → Prop} (empty : Q "")
    (append : ∀ a b, Q a → Q b → Q (a ++ b))
    (step : ∀ t, Good t → Q (r.plan t).text ∧ ∀ u ∈ (r.plan t).jobs, Good u)
    {depth : Nat} {t : Job} {out : String} (good : Good t) (h : r.run depth t = .ok out) :
    Q out := by
  induction depth generalizing t out with
  | zero =>
      rw [run_zero] at h
      cases h
  | succ depth ih =>
      obtain ⟨ofText, ofJobs⟩ := step t good
      rw [run_succ, Plan.follow] at h
      split at h
      · cases h
      · cases h
      · rename_i text done _
        cases h
        refine append _ _ ofText (concat_output empty append ?_ done)
        exact fun u member tail => ih (ofJobs u member)

end Renderer

end Stencil
