import Stencil.Proofs.Rendering.Plan

/-!
# How rendering fails

An evaluation fails for a variable or a filter of its expression, or because a text is no expression.
So a statement fails for something that is written in it, and a template only for the templates around
it or for want of a program.

1. `Rules.evaluate_lacks`: what an expression can lack.
2. `Renderer.planOf_raises`, `Renderer.plan_failure`: what plans fail with.
3. `Renderer.cause_of_plan`: what holds of the errors that plans fail with holds of every error.
-/

namespace Stencil

/-! ## What is written in a statement -/

/-- The filters of an expression, those inside of groups included. -/
def Expr.calls : Expr → List FilterCall
  | operand _ _ filters => filters
  | group _ inner filters => inner.calls ++ filters

namespace Stmt

/-- The texts of a statement that are read as expressions or as headers of loops. -/
def texts : Stmt → List String
  | echo e _ _ | foreach e _ | forIn e _ | whileDo e _ => [e]
  | choice branches _ => branches.map Prod.fst
  | text _ | block _ _ | insert _ => []

/-- The expressions that the texts of a statement spell. The bounds of a range are none. -/
inductive Spells : Stmt → Expr → Prop
  | echo {text : String} {strategy : Option String} {line : Nat} {e : Expr}
      (reads : Expr.parse text = .ok e) : Spells (.echo text strategy line) e
  | branch {condition : String} {body : List Stmt} {branches : List (String × List Stmt)}
      {otherwise : Option (List Stmt)} {e : Expr} (member : (condition, body) ∈ branches)
      (reads : Expr.parse condition = .ok e) : Spells (.choice branches otherwise) e
  | foreach {text : String} {body : List Stmt} {header : ForeachHeader}
      (reads : ForeachHeader.parse text = .ok header) : Spells (.foreach text body) header.source
  | forIn {text name : String} {body : List Stmt} {e : Expr}
      (reads : ForHeader.parse text = .ok ⟨name, .items e⟩) : Spells (.forIn text body) e
  | whileDo {condition : String} {body : List Stmt} {e : Expr}
      (reads : Expr.parse condition = .ok e) : Spells (.whileDo condition body) e

/-- Whether the statement is a loop that a limit is set to. -/
inductive IsLimited : Stmt → Prop
  | forIn (text : String) (body : List Stmt) : IsLimited (.forIn text body)
  | whileDo (condition : String) (body : List Stmt) : IsLimited (.whileDo condition body)

end Stmt

/-! ## Results -/

/-- Whether every error of the result is of a kind. -/
def FailsWith {α : Type} (P : RenderError → Prop) (result : Except RenderError α) : Prop :=
  ∀ cause, result = .error cause → P cause

namespace FailsWith

variable {α β : Type} {P Q : RenderError → Prop}

theorem ok (value : α) : FailsWith P (.ok value) := nofun

theorem error {cause : RenderError} (h : P cause) :
    FailsWith P (.error cause : Except RenderError α) := by
  rintro _ ⟨⟩
  exact h

theorem imp {result : Except RenderError α} (h : FailsWith P result)
    (weaker : ∀ cause, P cause → Q cause) : FailsWith Q result :=
  fun cause failed => weaker cause (h cause failed)

theorem bind {result : Except RenderError α} {next : α → Except RenderError β}
    (first : FailsWith P result)
    (then_ : ∀ value, result = .ok value → FailsWith P (next value)) :
    FailsWith P (result.bind next) := by
  cases result with
  | error cause => exact error (first cause rfl)
  | ok value => exact then_ value rfl

theorem map {result : Except RenderError α} {f : α → β} (h : FailsWith P result) :
    FailsWith P (result.map f) := by
  cases result with
  | error cause => exact error (h cause rfl)
  | ok value => exact ok (f value)

theorem mapM {f : α → Except RenderError β} {row : List α}
    (each : ∀ item ∈ row, FailsWith P (f item)) : FailsWith P (row.mapM f) := by
  induction row with
  | nil => exact ok []
  | cons item rest ih =>
      rw [List.forall_mem_cons] at each
      rw [List.mapM_cons]
      exact each.1.bind fun _ _ => (ih each.2).bind fun _ _ => ok _

theorem foldlM {f : β → α → Except RenderError β} {row : List α}
    (each : ∀ item ∈ row, ∀ acc, FailsWith P (f acc item)) (acc : β) :
    FailsWith P (row.foldlM f acc) := by
  induction row generalizing acc with
  | nil => exact ok acc
  | cons item rest ih =>
      rw [List.forall_mem_cons] at each
      rw [List.foldlM_cons]
      exact (each.1 acc).bind fun next _ => ih each.2 next

end FailsWith

/-! ## Evaluation -/

namespace Rules

/-- What an expression can lack at a place in a scope: the variable at its root, if it is printed
under strict rules, or one of its filters. -/
inductive Lacks (rules : Rules) (place : Place) (scope : Scope) (e : Expr) : RenderError → Prop
  | path {path : List Segment} {line : Nat} (strict : rules.strict = true)
      (printed : place.printedOn = some line) (root : e.rootPath? = some path)
      (missing : scope.at? path = none) :
      Lacks rules place scope e (.undefinedVariable (describePath path) place.template line)
  | filter {call : FilterCall} (used : call ∈ e.calls)
      (missing : rules.filters.get? call.name = none) :
      Lacks rules place scope e (.undefinedFilter call.name place.template)

variable {rules : Rules} {place : Place} {scope : Scope} {template : String}

theorem Lacks.of_group {negated : Bool} {inner : Expr} {calls : List FilterCall}
    {cause : RenderError} (h : rules.Lacks place scope inner cause) :
    rules.Lacks place scope (.group negated inner calls) cause := by
  cases h with
  | path strict printed root missing => exact .path strict printed root missing
  | filter used missing => exact .filter (List.mem_append_left _ used) missing

/-- An operand that is not printed always has a value. -/
theorem operand_unprinted (template : String) (scope : Scope) (o : Operand) :
    FailsWith (fun _ => False) (rules.operand ⟨template, none⟩ scope o) := by
  cases o with
  | literal value => exact .ok value
  | path path =>
      rw [operand]
      split
      · exact .ok _
      · rw [undefined]
        cases rules.strict <;> exact .ok _

theorem apply_lacks (value : Value) (call : FilterCall) :
    FailsWith (fun cause => cause = .undefinedFilter call.name template ∧
      rules.filters.get? call.name = none) (rules.apply template scope value call) := by
  rw [apply]
  split
  · next missing => exact .error ⟨rfl, missing⟩
  · -- The arguments are not printed.
    exact (FailsWith.mapM fun o _ =>
      (operand_unprinted template scope o).imp fun _ => False.elim).map

theorem finish_lacks {e : Expr} {negated : Bool} {calls : List FilterCall} {value : Value}
    (used : ∀ call ∈ calls, call ∈ e.calls) :
    FailsWith (rules.Lacks place scope e)
      (rules.finish place.template scope negated calls value) := by
  refine (FailsWith.foldlM (fun call member acc => ?_) value).map
  refine (apply_lacks acc call).imp ?_
  rintro cause ⟨rfl, missing⟩
  exact .filter (used call member) missing

theorem evaluate_lacks (e : Expr) :
    FailsWith (rules.Lacks place scope e) (rules.evaluate place scope e) := by
  induction e with
  | operand negated base calls =>
      refine FailsWith.bind ?_ fun value _ => finish_lacks fun _ used => used
      cases base with
      | literal value => exact .ok value
      | path path =>
          rw [operand]
          split
          · exact .ok _
          · next missing =>
            unfold undefined
            split
            · next strict printed => exact .error (.path strict printed rfl missing)
            · exact .ok _
  | group negated inner calls ih =>
      refine FailsWith.bind (ih.imp fun _ => .of_group) fun value _ => finish_lacks ?_
      exact fun _ used => List.mem_append_right _ used

theorem reading_fails {α : Type} (template text : String) (result : Except ExprError α) :
    FailsWith (fun cause => ∃ message, cause = .invalidExpression text template message)
      (reading template text result) := by
  cases result with
  | error e => exact .error ⟨e.message, rfl⟩
  | ok value => exact .ok value

theorem reading_eq_ok {α : Type} {template text : String} {result : Except ExprError α} {value : α}
    (h : reading template text result = .ok value) : result = .ok value := by
  cases result with
  | error e => cases h
  | ok found =>
      cases h
      rfl

/-- What the evaluation of a text fails with: the text is no expression, or the expression lacks
something. -/
theorem evaluateText_fails (place : Place) (text : String) :
    FailsWith (fun cause => (∃ message, cause = .invalidExpression text place.template message) ∨
      ∃ e, Expr.parse text = .ok e ∧ rules.Lacks place scope e cause)
      (rules.evaluateText place scope text) := by
  refine FailsWith.bind ((reading_fails _ _ _).imp fun _ => .inl) fun e reads => ?_
  exact (evaluate_lacks e).imp fun _ lacks => .inr ⟨e, reading_eq_ok reads, lacks⟩

theorem holds_fails (condition : String) :
    FailsWith (fun cause => (∃ message, cause = .invalidExpression condition template message) ∨
      ∃ e, Expr.parse condition = .ok e ∧ rules.Lacks ⟨template, none⟩ scope e cause)
      (rules.holds template scope condition) :=
  (evaluateText_fails ⟨template, none⟩ condition).map

theorem bound_fails (text : String) (o : Operand) :
    FailsWith (fun cause => ∃ message, cause = .invalidExpression text template message)
      (rules.bound template text scope o) := by
  refine ((operand_unprinted template scope o).imp fun _ => False.elim).bind fun value _ => ?_
  split
  · exact .ok _
  · exact .error ⟨_, rfl⟩

end Rules

namespace Loop

variable {rules : Rules} {scope : Scope} {template : String}

theorem foreachRounds_fails (text : String) :
    FailsWith (fun cause => (∃ message, cause = .invalidExpression text template message) ∨
      ∃ header, ForeachHeader.parse text = .ok header ∧
        rules.Lacks ⟨template, none⟩ scope header.source cause)
      (foreachRounds rules template scope text) := by
  refine FailsWith.bind ((Rules.reading_fails _ _ _).imp fun _ => .inl) fun header reads => ?_
  refine FailsWith.bind ?_ fun source _ => .ok _
  refine (Rules.evaluate_lacks header.source).imp fun _ lacks => .inr ?_
  exact ⟨header, Rules.reading_eq_ok reads, lacks⟩

theorem forRounds_fails (limit : Nat) (text : String) :
    FailsWith (fun cause => (∃ message, cause = .invalidExpression text template message) ∨
      cause = .loopLimit template limit ∨
      ∃ name e, ForHeader.parse text = .ok ⟨name, .items e⟩ ∧
        rules.Lacks ⟨template, none⟩ scope e cause)
      (forRounds rules limit template scope text) := by
  refine FailsWith.bind ((Rules.reading_fails _ _ _).imp fun _ => .inl) fun header reads => ?_
  obtain ⟨name, source⟩ := header
  cases source with
  | range first last =>
      refine ((Rules.bound_fails text first).imp fun _ => .inl).bind fun start _ =>
        ((Rules.bound_fails text last).imp fun _ => .inl).bind fun stop _ => ?_
      split
      · exact .error (.inr (.inl rfl))
      · exact .ok _
  | items e =>
      refine FailsWith.bind ?_ fun source _ => .ok _
      refine (Rules.evaluate_lacks e).imp fun _ lacks => .inr (.inr ?_)
      exact ⟨name, e, Rules.reading_eq_ok reads, lacks⟩

end Loop

theorem Plan.failure_after {α : Type} {result : Except RenderError α} {next : α → Plan}
    {cause : RenderError} (h : (after result next).failure = some cause) :
    result = .error cause ∨ ∃ value, result = .ok value ∧ (next value).failure = some cause := by
  cases result with
  | error other =>
      cases h
      exact .inl rfl
  | ok value => exact .inr ⟨value, rfl, h⟩

/-- If only the result can fail, then the plan fails as the result does. -/
theorem Plan.failsWith_after {α : Type} {P : RenderError → Prop} {result : Except RenderError α}
    {next : α → Plan} (fails : FailsWith P result) (fine : ∀ value, (next value).failure = none)
    {cause : RenderError} (h : (after result next).failure = some cause) : P cause := by
  rcases failure_after h with failed | ⟨value, -, later⟩
  · exact fails cause failed
  · rw [fine] at later
    cases later

namespace Renderer

/-- The errors that a statement of a template can fail with itself, in a scope. Only a statement that
prints fails for a variable. -/
inductive Raises (r : Renderer) (template : String) (scope : Scope) (s : Stmt) : RenderError → Prop
  | path {text : String} {strategy : Option String} {line : Nat} {e : Expr}
      {path : List Segment} (prints : s = .echo text strategy line)
      (reads : Expr.parse text = .ok e) (strict : r.strict = true)
      (root : e.rootPath? = some path) (missing : scope.at? path = none) :
      Raises r template scope s (.undefinedVariable (describePath path) template line)
  | filter {e : Expr} {call : FilterCall} (spells : s.Spells e) (used : call ∈ e.calls)
      (missing : r.filters.get? call.name = none) :
      Raises r template scope s (.undefinedFilter call.name template)
  | expression {text : String} (message : String) (carried : text ∈ s.texts) :
      Raises r template scope s (.invalidExpression text template message)
  | limit (limited : s.IsLimited) : Raises r template scope s (.loopLimit template r.loopLimit)
  | strategy {text name : String} {line : Nat} (prints : s = .echo text (some name) line)
      (missing : r.escaper.strategies.get? name = none) :
      Raises r template scope s (.unknownStrategy name)

variable {r : Renderer} {template : String} {scope : Scope} {s : Stmt} {cause : RenderError}

/-- What is not printed lacks at most a filter. -/
theorem Raises.of_unprinted {e : Expr} (spells : s.Spells e)
    (lacks : r.rules.Lacks ⟨template, none⟩ scope e cause) : r.Raises template scope s cause := by
  cases lacks with
  | path strict printed => cases printed
  | filter used missing => exact .filter spells used missing

theorem Raises.of_condition {condition : String} (carried : condition ∈ s.texts)
    (spells : ∀ e, Expr.parse condition = .ok e → s.Spells e) :
    FailsWith (r.Raises template scope s) (r.rules.holds template scope condition) := by
  refine (Rules.holds_fails condition).imp ?_
  rintro cause (⟨message, rfl⟩ | ⟨e, reads, lacks⟩)
  · exact .expression message carried
  · exact .of_unprinted (spells e reads) lacks

theorem chosen_raises {otherwise : Option (List Stmt)} {branches rest : List (String × List Stmt)}
    (part : ∀ branch ∈ rest, branch ∈ branches) :
    FailsWith (r.Raises template scope (.choice branches otherwise))
      (r.chosen template scope otherwise rest) := by
  induction rest with
  | nil => exact .ok _
  | cons branch rest ih =>
      rw [List.forall_mem_cons] at part
      refine FailsWith.bind ?_ fun holds _ => ?_
      · refine .of_condition (List.mem_map_of_mem part.1) fun e reads => ?_
        exact .branch part.1 reads
      · cases holds with
        | true => exact .ok _
        | false => exact ih part.2

theorem echo_raises {text : String} {strategy : Option String} {line : Nat} :
    FailsWith (r.Raises template scope (.echo text strategy line))
      (r.echo template scope text strategy line) := by
  refine FailsWith.bind ((Rules.evaluateText_fails _ text).imp ?_) fun value _ => ?_
  · rintro cause (⟨message, rfl⟩ | ⟨e, reads, lacks⟩)
    · exact .expression message List.mem_cons_self
    · cases lacks with
      | path strict printed root missing =>
          cases printed
          exact .path rfl reads strict root missing
      | filter used missing => exact .filter (.echo reads) used missing
  · cases strategy with
    | none => exact .ok _
    | some name =>
        simp only [Escaper.escape?]
        cases known : r.escaper.strategies.get? name with
        | none => exact .error (.strategy rfl known)
        | some escape => exact .ok _

/-! ## Plans -/

theorem planOf_raises {site : Site} (h : (r.planOf site scope s).failure = some cause) :
    r.Raises site.template scope s cause := by
  cases s with
  | text text | block name body | insert name => cases h
  | echo expression strategy line =>
      exact Plan.failsWith_after echo_raises (fun _ => rfl) h
  | choice branches otherwise =>
      exact Plan.failsWith_after (chosen_raises fun _ member => member) (fun _ => rfl) h
  | foreach text body =>
      refine Plan.failsWith_after ((Loop.foreachRounds_fails text).imp ?_) (fun _ => rfl) h
      rintro cause (⟨message, rfl⟩ | ⟨header, reads, lacks⟩)
      · exact .expression message List.mem_cons_self
      · exact .of_unprinted (.foreach reads) lacks
  | forIn text body =>
      refine Plan.failsWith_after ((Loop.forRounds_fails r.loopLimit text).imp ?_) (fun _ => rfl) h
      rintro cause (⟨message, rfl⟩ | rfl | ⟨name, e, reads, lacks⟩)
      · exact .expression message List.mem_cons_self
      · exact .limit (.forIn text body)
      · exact .of_unprinted (.forIn reads) lacks
  | whileDo condition body =>
      rcases Plan.failure_after h with failed | ⟨holds, -, overrun⟩
      · exact Raises.of_condition List.mem_cons_self (fun e => .whileDo) cause failed
      · cases holds with
        | false => cases overrun
        | true =>
            cases overrun
            exact .limit (.whileDo condition body)

/-- A statement fails with an error in the template it is written in, or for want of a strategy. -/
theorem planOf_failure {site : Site} (h : (r.planOf site scope s).failure = some cause) :
    cause.template? = some site.template ∨ ∃ name, cause = .unknownStrategy name := by
  cases planOf_raises h with
  | path | filter | expression | limit => exact .inl rfl
  | strategy => exact .inr ⟨_, rfl⟩

/-- A template fails because it is being rendered already, or because it has no program. -/
theorem plan_failure {chain : List String} {overrides : Table BlockBody} {scope : Scope}
    {name : String} {cause : RenderError}
    (h : (r.plan (.template chain overrides scope name)).failure = some cause) :
    (name ∈ chain ∧ cause = .circularReference (chain ++ [name])) ∨
      (r.programs.get? name = none ∧ cause = .load (.notFound name [])) := by
  rw [plan] at h
  split at h
  · next visited =>
    cases h
    exact .inl ⟨List.contains_iff_mem.1 visited, rfl⟩
  · rcases Plan.failure_after h with failed | ⟨p, -, none⟩
    · rw [program] at failed
      split at failed
      · cases failed
      · next missing =>
        cases failed
        exact .inr ⟨missing, rfl⟩
    · cases inherits : p.parent <;>
      · rw [inherits] at none
        cases none

/-- The way from a template to its root ends without blocks at a template that it has come through, or
for want of a program. -/
theorem lineage_failure {steps : Nat} {visited : List String} {name : String}
    (h : r.lineage steps visited name = .error cause) :
    (∃ chain, cause = .circularReference chain) ∨
      ∃ missing, r.programs.get? missing = none ∧ cause = .load (.notFound missing []) := by
  induction steps generalizing visited name with
  | zero =>
      cases h
      exact .inl ⟨visited, rfl⟩
  | succ steps ih =>
      rw [lineage, program] at h
      cases known : r.programs.get? name with
      | none =>
          rw [known] at h
          cases h
          exact .inr ⟨name, known, rfl⟩
      | some p =>
          rw [known] at h
          simp only [bind, Except.bind] at h
          split at h
          · cases h
            exact .inl ⟨_, rfl⟩
          · split at h
            · cases h
            · next parent inherits =>
              cases above : r.lineage steps (visited ++ [p.name]) parent with
              | error other =>
                  rw [above] at h
                  cases h
                  exact ih above
              | ok blocks =>
                  rw [above] at h
                  cases h

/-! ## Runs -/

theorem concat_raised {α : Type} {render : α → Except Stop String} {row : List α} {stop : Stop}
    (h : concat render row = .error stop) : ∃ item ∈ row, render item = .error stop := by
  induction row with
  | nil => cases h
  | cons item rest ih =>
      rw [concat_cons] at h
      cases first : render item with
      | error other =>
          rw [first] at h
          cases h
          exact ⟨item, List.mem_cons_self, first⟩
      | ok text =>
          cases more : concat render rest with
          | error other =>
              rw [first, more] at h
              cases h
              obtain ⟨later, member, stopped⟩ := ih more
              exact ⟨later, List.mem_cons_of_mem _ member, stopped⟩
          | ok tail =>
              rw [first, more] at h
              cases h

/-- What holds of the errors that plans fail with holds of every error of a run. `Good` is what the
jobs that are set in motion have in common. -/
theorem cause_of_plan {Good : Job → Prop} {P : RenderError → Prop}
    (step : ∀ t, Good t →
      (∀ cause, (r.plan t).failure = some cause → P cause) ∧ ∀ u ∈ (r.plan t).jobs, Good u)
    {depth : Nat} {t : Job} {cause : RenderError} (good : Good t)
    (h : r.run depth t = .error (.raised cause)) : P cause := by
  induction depth generalizing t with
  | zero =>
      rw [run_zero] at h
      cases h
  | succ depth ih =>
      obtain ⟨own, others⟩ := step t good
      rw [run_succ, Plan.follow] at h
      split at h
      · rename_i stopped
        cases h
        obtain ⟨u, member, raised⟩ := concat_raised stopped
        exact ih (others u member) raised
      · next fails =>
        cases h
        exact own cause fails
      · cases h

end Renderer

end Stencil
