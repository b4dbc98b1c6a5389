import Stencil.Proofs.Rendering.Comparison

/-!
# The variables that matter

An expression reads the variables at the roots of its paths, those in arguments of filters included. A
rendering may open scopes and bind names in them, but what it reads of the variables that it was given
are only such roots in the loaded programs. All other variables make no difference.

1. `Rules.evaluate_agree`: an expression only reads the variables that it names.
2. `Loop.scopes_agree`: scopes that agree on some names still do inside of a loop.
3. `Renderer.planOf_agree`: a statement comes down to the same in scopes that agree on its names.
4. `Renderer.unnamed_variables`: whole renderings.
-/

namespace Stencil

/-! ## The names in programs -/

/-- The variable that an operand reads. -/
def Operand.root? : Operand → Option String
  | .path (root :: _) => some (Scope.rootName root)
  | .path [] | .literal _ => none

/-- The variables that a row of operands reads. -/
def rootsOf (operands : List Operand) : List String := operands.filterMap Operand.root?

/-- The variables that an expression names: at its root and in the arguments of its filters. -/
def Expr.names : Expr → List String
  | operand _ base filters => rootsOf (base :: filters.flatMap FilterCall.arguments)
  | group _ inner filters => inner.names ++ rootsOf (filters.flatMap FilterCall.arguments)

/-- The variables that a loop names as its bounds or in its source. -/
def LoopSource.names : LoopSource → List String
  | range first last => rootsOf [first, last]
  | items source => source.names

/-- The names in what a text spells. A text that spells nothing has none. -/
def spelledNames {α : Type} (names : α → List String) : Except ExprError α → List String
  | .ok result => names result
  | .error _ => []

/-- The variables that a statement itself names. -/
def Stmt.names : Stmt → List String
  | echo e _ _ | whileDo e _ => spelledNames Expr.names (Expr.parse e)
  | choice branches _ => branches.flatMap fun branch => spelledNames Expr.names (Expr.parse branch.1)
  | foreach e _ => spelledNames (fun header => header.source.names) (ForeachHeader.parse e)
  | forIn e _ => spelledNames (fun header => header.source.names) (ForHeader.parse e)
  | text _ | block _ _ | insert _ => []

/-- The scopes give the same values to the names. -/
def Scope.Agree (names : String → Prop) (scope scope' : Scope) : Prop :=
  ∀ name, names name → scope'.get? name = scope.get? name

namespace Scope

variable {names : String → Prop} {scope scope' : Scope}

theorem Agree.mono {fewer : String → Prop} (agree : Agree names scope scope')
    (part : ∀ name, fewer name → names name) : Agree fewer scope scope' :=
  fun name inFewer => agree name (part name inFewer)

theorem Agree.child (agree : Agree names scope scope') : Agree names scope.child scope'.child := by
  intro name named
  rw [get?_child, get?_child, agree name named]

theorem Agree.bind (agree : Agree names scope scope') (key : String) (value : Value) :
    Agree names (scope.bind key value) (scope'.bind key value) := by
  intro name named
  rw [get?_bind, get?_bind, agree name named]

end Scope

/-! ## Values -/

namespace Rules

open Scope (Agree)

variable {rules : Rules} {place : Place} {scope scope' : Scope} {template : String}

theorem operand_agree {o : Operand} (agree : Agree (o.root? = some ·) scope scope') :
    rules.operand place scope' o = rules.operand place scope o := by
  cases o with
  | literal value => rfl
  | path path =>
      cases path with
      | nil => rfl
      | cons root rest =>
          have same := agree _ rfl
          rw [operand, operand, Scope.at?, Scope.at?, same]

theorem mapM_agree {operands : List Operand} (agree : Agree (· ∈ rootsOf operands) scope scope') :
    operands.mapM (rules.operand place scope') = operands.mapM (rules.operand place scope) := by
  induction operands with
  | nil => rfl
  | cons o rest ih =>
      have first : rules.operand place scope' o = rules.operand place scope o :=
        operand_agree (agree.mono fun name root => by simp [rootsOf, root])
      have others := ih (agree.mono fun name member => by
        simp only [rootsOf, List.filterMap_cons] at member ⊢
        split <;> simp [member])
      rw [List.mapM_cons, List.mapM_cons, first, others]

theorem finish_agree {calls : List FilterCall} {negated : Bool}
    (agree : Agree (· ∈ rootsOf (calls.flatMap FilterCall.arguments)) scope scope') (value : Value) :
    rules.finish template scope' negated calls value =
      rules.finish template scope negated calls value := by
  have filtered : calls.foldlM (rules.apply template scope') value =
      calls.foldlM (rules.apply template scope) value := by
    induction calls generalizing value with
    | nil => rfl
    | cons call rest ih =>
        rw [List.flatMap_cons, rootsOf, List.filterMap_append] at agree
        have first : rules.apply template scope' value call =
            rules.apply template scope value call := by
          rw [apply, apply, mapM_agree (agree.mono fun _ => List.mem_append_left _)]
        have others := ih (agree.mono fun _ => List.mem_append_right _)
        simp only [List.foldlM_cons, first, others]
  rw [finish, finish, filtered]

/-- An expression only reads the variables that it names. -/
theorem evaluate_agree {e : Expr} (agree : Agree (· ∈ e.names) scope scope') :
    rules.evaluate place scope' e = rules.evaluate place scope e := by
  induction e with
  | operand negated base calls =>
      have root : rules.operand place scope' base = rules.operand place scope base :=
        operand_agree (agree.mono fun name root => by simp [Expr.names, rootsOf, root])
      have filters : Agree (· ∈ rootsOf (calls.flatMap FilterCall.arguments)) scope scope' :=
        agree.mono fun name member => by
          simp only [Expr.names, rootsOf, List.filterMap_cons] at member ⊢
          split <;> simp [member]
      rw [evaluate, evaluate, root, funext (finish_agree filters)]
  | group negated inner calls ih =>
      have filters : Agree (· ∈ rootsOf (calls.flatMap FilterCall.arguments)) scope scope' :=
        agree.mono fun _ => List.mem_append_right _
      rw [evaluate, evaluate, ih (agree.mono fun _ => List.mem_append_left _),
        funext (finish_agree filters)]

/-- What is done with what a text spells is the same if it is for what the text does spell. -/
theorem reading_congr {α β : Type} {text : String} {names : α → List String}
    {result : Except ExprError α} {next next' : α → Except RenderError β}
    (agree : Agree (· ∈ spelledNames names result) scope scope')
    (same : ∀ value, Agree (· ∈ names value) scope scope' → next' value = next value) :
    (reading template text result).bind next' = (reading template text result).bind next := by
  cases result with
  | error cause => rfl
  | ok value => exact same value agree

theorem evaluateText_agree {text : String}
    (agree : Agree (· ∈ spelledNames Expr.names (Expr.parse text)) scope scope') :
    rules.evaluateText place scope' text = rules.evaluateText place scope text :=
  reading_congr agree fun _ => evaluate_agree

theorem holds_agree {condition : String}
    (agree : Agree (· ∈ spelledNames Expr.names (Expr.parse condition)) scope scope') :
    rules.holds template scope' condition = rules.holds template scope condition := by
  rw [holds, holds, evaluateText_agree agree]

theorem bound_agree {text : String} {o : Operand} (agree : Agree (o.root? = some ·) scope scope') :
    rules.bound template text scope' o = rules.bound template text scope o := by
  rw [bound, bound, operand_agree agree]

end Rules

/-! ## Loops -/

namespace Loop

open Scope (Agree)

variable {rules : Rules} {scope scope' : Scope} {template text : String}

theorem foreachRounds_agree
    (agree : Agree (· ∈ spelledNames (fun header => header.source.names) (ForeachHeader.parse text))
      scope scope') :
    foreachRounds rules template scope' text = foreachRounds rules template scope text := by
  refine Rules.reading_congr agree fun header agree => ?_
  rw [Rules.evaluate_agree agree]

theorem forRounds_agree (limit : Nat)
    (agree : Agree (· ∈ spelledNames (fun header => header.source.names) (ForHeader.parse text))
      scope scope') :
    forRounds rules limit template scope' text = forRounds rules limit template scope text := by
  refine Rules.reading_congr agree fun header agree => ?_
  obtain ⟨name, source⟩ := header
  cases source with
  | range first last =>
      have start : rules.bound template text scope' first = rules.bound template text scope first :=
        Rules.bound_agree (agree.mono fun name root => by simp [LoopSource.names, rootsOf, root])
      have stop : rules.bound template text scope' last = rules.bound template text scope last := by
        refine Rules.bound_agree (agree.mono fun name root => ?_)
        rw [LoopSource.names, rootsOf, List.mem_filterMap]
        exact ⟨last, by simp, root⟩
      simp only [start, stop]
  | items source => simp only [Rules.evaluate_agree (e := source) agree]

/-- The bindings of a round are the same in both scopes. -/
theorem scopes_agree {names : String → Prop} (agree : Agree names scope scope')
    (rounds : List (Table Value)) :
    List.Forall₂ (Agree names) (scopes scope rounds) (scopes scope' rounds) := by
  have bound (bindings : Table Value) {inner inner' : Scope} (agree : Agree names inner inner') :
      Agree names (bindings.foldl (fun s binding => s.bind binding.1 binding.2) inner)
        (bindings.foldl (fun s binding => s.bind binding.1 binding.2) inner') := by
    induction bindings generalizing inner inner' with
    | nil => exact agree
    | cons binding rest ih => exact ih (agree.bind _ _)
  unfold scopes
  rw [List.forall₂_map_left_iff, List.forall₂_map_right_iff, List.forall₂_same]
  exact fun round _ => (bound round.1 agree.child).bind _ _

end Loop

namespace Renderer

variable {r : Renderer} {site : Site} {scope scope' : Scope} {s : Stmt}

theorem echo_agree {template text : String} {strategy : Option String} {line : Nat}
    (agree : Scope.Agree (· ∈ spelledNames Expr.names (Expr.parse text)) scope scope') :
    r.echo template scope' text strategy line = r.echo template scope text strategy line := by
  rw [echo, echo, Rules.evaluateText_agree agree]

theorem chosen_agree {template : String} {otherwise : Option (List Stmt)}
    {branches : List (String × List Stmt)}
    (agree : Scope.Agree (· ∈ (Stmt.choice branches otherwise).names) scope scope') :
    r.chosen template scope' otherwise branches = r.chosen template scope otherwise branches := by
  induction branches with
  | nil => rfl
  | cons branch rest ih =>
      obtain ⟨condition, body⟩ := branch
      rw [Stmt.names, List.flatMap_cons] at agree
      have first : r.rules.holds template scope' condition =
          r.rules.holds template scope condition :=
        Rules.holds_agree (agree.mono fun _ => List.mem_append_left _)
      have others := ih (agree.mono fun _ => List.mem_append_right _)
      rw [chosen, chosen, first, others]

/-! ## Renderings -/

/-- The jobs are the same up to their scopes, which agree on some names. -/
inductive SameNamed (names : String → Prop) : Job → Job → Prop
  | statement {scope scope' : Scope} (site : Site) (s : Stmt)
      (agree : Scope.Agree names scope scope') :
      SameNamed names (.statement site scope s) (.statement site scope' s)
  | template {scope scope' : Scope} (chain : List String) (overrides : Table BlockBody)
      (name : String) (agree : Scope.Agree names scope scope') :
      SameNamed names (.template chain overrides scope name) (.template chain overrides scope' name)

theorem bodyJobs_agree {names : String → Prop} (agree : Scope.Agree names scope scope')
    (site : Site) (body : List Stmt) :
    List.Forall₂ (SameNamed names) (bodyJobs site scope body) (bodyJobs site scope' body) :=
  bodyJobs_matches fun u _ => .statement site u agree

theorem loopJobs_agree {names : String → Prop} (agree : Scope.Agree names scope scope')
    (site : Site) (body : List Stmt) (rounds : List (Table Value)) :
    List.Forall₂ (SameNamed names)
      ((Loop.scopes scope rounds).flatMap fun inner => bodyJobs site inner body)
      ((Loop.scopes scope' rounds).flatMap fun inner => bodyJobs site inner body) :=
  List.rel_flatMap (Loop.scopes_agree agree rounds) fun _ _ agree => bodyJobs_agree agree site body

/-- A statement comes down to the same, as far as scopes agree on the names in it. -/
theorem planOf_agree {names : String → Prop} (agree : Scope.Agree names scope scope')
    (named : ∀ name ∈ s.names, names name) :
    (r.planOf site scope s).Matches (SameNamed names) (r.planOf site scope' s) := by
  have own : Scope.Agree (· ∈ s.names) scope scope' := agree.mono named
  cases s with
  | text text => exact ⟨rfl, .nil, rfl⟩
  | echo expression strategy line =>
      rw [planOf, planOf, echo_agree own]
      exact after_matches _ fun _ _ => ⟨rfl, .nil, rfl⟩
  | choice branches otherwise =>
      rw [planOf, planOf, chosen_agree own]
      exact after_matches _ fun body _ => ⟨rfl, bodyJobs_agree agree site body, rfl⟩
  | foreach text body =>
      rw [planOf, planOf, Loop.foreachRounds_agree own]
      exact after_matches _ fun rounds _ => ⟨rfl, loopJobs_agree agree site body rounds, rfl⟩
  | forIn text body =>
      rw [planOf, planOf, Loop.forRounds_agree _ own]
      exact after_matches _ fun rounds _ => ⟨rfl, loopJobs_agree agree site body rounds, rfl⟩
  | whileDo condition body =>
      rw [planOf, planOf, Rules.holds_agree own]
      refine after_matches _ fun holds _ => ?_
      cases holds with
      | false => exact ⟨rfl, .nil, rfl⟩
      | true => exact ⟨rfl, replicate_matches _ (bodyJobs_agree agree site body), rfl⟩
  | block name body => exact ⟨rfl, bodyJobs_agree agree _ _, rfl⟩
  | insert name => exact ⟨rfl, .cons (.template site.chain [] name agree) .nil, rfl⟩

/-- Some statement of a loaded program names the variable. -/
def Names (r : Renderer) (name : String) : Prop := ∃ s, r.Loaded s ∧ name ∈ s.names

theorem plan_agree {t u : Job} (sound : r.Sound t) (same : SameNamed r.Names t u) :
    (r.plan t).Matches (SameNamed r.Names) (r.plan u) := by
  cases same with
  | statement site s agree =>
      exact planOf_agree agree fun name member => ⟨s, sound.1.loaded, member⟩
  | template chain overrides name agree =>
      rw [plan, plan]
      split
      · exact ⟨rfl, .nil, rfl⟩
      · refine after_matches _ fun p _ => ?_
        cases p.parent with
        | some parent => exact ⟨rfl, .cons (.template _ _ _ agree) .nil, rfl⟩
        | none => exact ⟨rfl, bodyJobs_agree agree _ _, rfl⟩

theorem run_agree {depth : Nat} {t u : Job} (sound : r.Sound t) (same : SameNamed r.Names t u) :
    r.run depth u = r.run depth t := by
  refine run_of_matches (K := fun _ => True) (R := fun t u => r.Sound t ∧ SameNamed r.Names t u)
    ?_ ⟨sound, same⟩ fun _ _ => trivial
  rintro t u ⟨sound, same⟩
  obtain ⟨text, jobs, failure⟩ := plan_agree sound same
  exact .inr ⟨text, (List.forall₂_and_left _ _).2 ⟨sound_of_plan sound, jobs⟩, failure⟩

theorem renderBlock_agree (agree : Scope.Agree r.Names scope scope') (depth : Nat)
    (name block : String) :
    r.renderBlock depth scope' name block = r.renderBlock depth scope name block := by
  cases above : r.lineage (r.programs.length + 1) [] name with
  | error cause => rw [renderBlock_error above, renderBlock_error above]
  | ok blocks =>
      cases there : blocks.get? block with
      | none => rw [renderBlock_missing above there, renderBlock_missing above there]
      | some found =>
          have covered := covered_of_lineage above
          rw [renderBlock_found above there, renderBlock_found above there]
          refine concat_matches (K := fun _ => True) ?_ fun _ _ => trivial
          refine bodyJobs_matches fun u member _ => run_agree ?_ (.statement _ u agree)
          exact ⟨covered _ (Table.mem_of_get? there) u member, covered⟩

/-- Variables that no expression of a loaded program names make no difference to a rendering, neither
to its text nor to its error. -/
theorem unnamed_variables (r : Renderer) {scope scope' : Scope}
    (agree : ∀ name, r.Names name → scope'.get? name = scope.get? name) (depth : Nat)
    (name : String) :
    r.render depth scope' name = r.render depth scope name ∧
      ∀ block, r.renderBlock depth scope' name block = r.renderBlock depth scope name block :=
  ⟨run_agree (t := .template [] [] scope name) covered_nil (.template [] [] name agree),
    fun block => renderBlock_agree agree depth name block⟩

/-- A page that lists rows in a block, and a row, whose text stands in for those that are empty. -/
def rowPage : Renderer where
  programs :=
    [.make "page" [.control (.inherit "frame"), .openBlock "list",
        .control (.openForeach "items as item"), .control (.insert "row"), .control .closeForeach,
        .closeBlock],
      .make "frame" [.literal "<", .openBlock "list", .closeBlock, .literal ">"],
      .make "row" [.echo "item | default(instead)" none 1, .literal ";"]].map
      fun a => (a.name, .ofArtifact a)
  filters := [("default", Filter.orDefault)]
  escaper := .standard
  strict := true
  loopLimit := 100

/-- The frames of the second scope are others, and so is the secret, which no expression names. -/
theorem unnamed_variables_rows :
    let items := Value.list [.string "a", .string ""]
    let scope := Scope.ofTable
      [("items", items), ("instead", .string "none"), ("secret", .string "x")]
    let scope' : Scope :=
      ⟨[("secret", .string "y"), ("instead", .string "none")],
        [[("items", items), ("instead", .string "all")]]⟩
    (∀ name, rowPage.Names name → scope'.get? name = scope.get? name) ∧
      rowPage.render 12 scope "page" = .ok "<a;none;>" ∧
      rowPage.render 12 scope' "page" = .ok "<a;none;>" ∧
      rowPage.renderBlock 12 scope' "page" "list" = rowPage.renderBlock 12 scope "page" "list" := by
  intro items scope scope'
  have few : ∀ name, rowPage.Names name → name ∈ ["items", "item", "instead"] := by
    rintro name ⟨s, ⟨_, p, found, member⟩, named⟩
    have names : ∀ entry ∈ rowPage.programs, ∀ s ∈ entry.2.statements, ∀ name ∈ s.names,
        name ∈ ["items", "item", "instead"] := by decide +kernel
    exact names _ (Table.mem_of_get? found) s member name named
  have agree : ∀ name, rowPage.Names name → scope'.get? name = scope.get? name := by
    intro name named
    have among := few name named
    simp only [List.mem_cons, List.not_mem_nil, or_false] at among
    rcases among with rfl | rfl | rfl <;> rfl
  have rendered : rowPage.render 12 scope "page" = .ok "<a;none;>" := by decide +kernel
  obtain ⟨whole, blocks⟩ := unnamed_variables rowPage agree 12 "page"
  exact ⟨agree, rendered, whole.trans rendered, blocks "list"⟩

end Renderer

end Stencil
