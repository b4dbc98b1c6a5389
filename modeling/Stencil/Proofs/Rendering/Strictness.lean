import Stencil.Proofs.Rendering.Plan

/-!
# Strictness about variables

A renderer that is strict about undefined variables gives what a lenient one gives, or an undefined
variable as its error. The two differ only where the value of an expression is printed: conditions,
what loops go through, bounds of ranges and arguments of filters are read leniently by both.

1. `Rules.evaluate_lenient`: what is not printed has the same value for both.
2. `Rules.evaluate_tightens`: what is printed has the same value, or the strict rules refuse it.
3. `Renderer.plan_lenient`: a job comes down to the same for both, or the strict renderer fails at it.
4. `Renderer.strictness_adds_undefined`: whole renderings.
-/

namespace Stencil

/-- The error that strict rules have in addition. -/
def RenderError.IsUndefinedVariable (cause : RenderError) : Prop :=
  ∃ name template line, cause = .undefinedVariable name template line

/-- The strict result is the lenient one, or the error about an undefined variable. -/
def Tightens {α : Type} (strict lenient : Except RenderError α) : Prop :=
  lenient = strict ∨ ∃ cause, strict = .error cause ∧ cause.IsUndefinedVariable

namespace Tightens

variable {α β : Type} {strict lenient : Except RenderError α}

/-- What follows on the result may tighten it further. -/
theorem bind {next next' : α → Except RenderError β} (first : Tightens strict lenient)
    (then_ : ∀ value, Tightens (next value) (next' value)) :
    Tightens (strict.bind next) (lenient.bind next') := by
  rcases first with rfl | ⟨cause, rfl, undefined⟩
  · cases lenient with
    | error cause => exact .inl rfl
    | ok value => exact then_ value
  · exact .inr ⟨cause, rfl, undefined⟩

end Tightens

/-! ## Values -/

namespace Rules

/-- The rules that are not strict about variables. -/
def lenient (rules : Rules) : Rules := { rules with strict := false }

variable {rules : Rules} {place : Place} {scope : Scope}

theorem undefined_unprinted (unprinted : place.printedOn = none) (path : List Segment) :
    rules.undefined place path = .ok .null := by
  rw [undefined, unprinted]
  cases rules.strict <;> rfl

theorem undefined_tightens (path : List Segment) :
    Tightens (rules.undefined place path) (rules.lenient.undefined place path) := by
  unfold undefined
  split
  · exact .inr ⟨_, rfl, _, _, _, rfl⟩
  · exact .inl rfl

theorem operand_lenient (unprinted : place.printedOn = none) (o : Operand) :
    rules.lenient.operand place scope o = rules.operand place scope o := by
  cases o with
  | literal value => rfl
  | path path =>
      rw [operand, operand, undefined_unprinted unprinted, undefined_unprinted unprinted]

theorem operand_tightens (o : Operand) :
    Tightens (rules.operand place scope o) (rules.lenient.operand place scope o) := by
  cases o with
  | literal value => exact .inl rfl
  | path path =>
      rw [operand, operand]
      cases scope.at? path with
      | some value => exact .inl rfl
      | none => exact undefined_tightens path

theorem apply_lenient (template : String) (scope : Scope) :
    rules.lenient.apply template scope = rules.apply template scope := by
  funext value call
  have same : rules.lenient.operand ⟨template, none⟩ scope = rules.operand ⟨template, none⟩ scope :=
    funext fun o => operand_lenient rfl o
  rw [apply, apply, same]
  rfl

theorem finish_lenient (template : String) (scope : Scope) (negated : Bool)
    (calls : List FilterCall) :
    rules.lenient.finish template scope negated calls =
      rules.finish template scope negated calls := by
  funext value
  rw [finish, finish, apply_lenient]

/-- Filters and negation are the same under both rules, so only the operand at the root counts. -/
theorem evaluate_lenient (unprinted : place.printedOn = none) (e : Expr) :
    rules.lenient.evaluate place scope e = rules.evaluate place scope e := by
  induction e with
  | operand negated base calls =>
      rw [evaluate, evaluate, operand_lenient unprinted, finish_lenient]
  | group negated inner calls ih => rw [evaluate, evaluate, ih, finish_lenient]

theorem evaluate_tightens (e : Expr) :
    Tightens (rules.evaluate place scope e) (rules.lenient.evaluate place scope e) := by
  induction e with
  | operand negated base calls =>
      rw [evaluate, evaluate, finish_lenient]
      exact (operand_tightens base).bind fun _ => .inl rfl
  | group negated inner calls ih =>
      rw [evaluate, evaluate, finish_lenient]
      exact ih.bind fun _ => .inl rfl

theorem evaluateText_tightens (text : String) :
    Tightens (rules.evaluateText place scope text) (rules.lenient.evaluateText place scope text) :=
  Tightens.bind (.inl rfl) fun e => evaluate_tightens e

theorem holds_lenient (template : String) (scope : Scope) (condition : String) :
    rules.lenient.holds template scope condition = rules.holds template scope condition := by
  have same : rules.lenient.evaluate ⟨template, none⟩ scope = rules.evaluate ⟨template, none⟩ scope :=
    funext fun e => evaluate_lenient rfl e
  rw [holds, holds, evaluateText, evaluateText, same]

theorem bound_lenient (template text : String) (scope : Scope) (o : Operand) :
    rules.lenient.bound template text scope o = rules.bound template text scope o := by
  rw [bound, bound, operand_lenient rfl]

end Rules

/-! ## Loops -/

namespace Loop

variable {rules : Rules}

theorem foreachRounds_lenient (template : String) (scope : Scope) (text : String) :
    foreachRounds rules.lenient template scope text = foreachRounds rules template scope text := by
  unfold foreachRounds
  simp only [Rules.evaluate_lenient]

theorem forRounds_lenient (limit : Nat) (template : String) (scope : Scope) (text : String) :
    forRounds rules.lenient limit template scope text =
      forRounds rules limit template scope text := by
  unfold forRounds
  simp only [Rules.evaluate_lenient, Rules.bound_lenient]

end Loop

namespace Renderer

variable {r : Renderer}

/-- The renderer that is not strict about variables. -/
def lenient (r : Renderer) : Renderer := { r with strict := false }

theorem rules_lenient : r.lenient.rules = r.rules.lenient := rfl

theorem echo_tightens (template : String) (scope : Scope) (text : String)
    (strategy : Option String) (line : Nat) :
    Tightens (r.echo template scope text strategy line)
      (r.lenient.echo template scope text strategy line) :=
  Tightens.bind (Rules.evaluateText_tightens text) fun _ => .inl rfl

theorem chosen_lenient (template : String) (scope : Scope) (otherwise : Option (List Stmt))
    (branches : List (String × List Stmt)) :
    r.lenient.chosen template scope otherwise branches =
      r.chosen template scope otherwise branches := by
  induction branches with
  | nil => rfl
  | cons branch rest ih =>
      obtain ⟨condition, body⟩ := branch
      rw [chosen, chosen, ih, rules_lenient, Rules.holds_lenient]

/-! ## Renderings -/

/-- A statement comes down to the same under both rules, unless it prints an undefined variable. -/
theorem planOf_lenient (site : Site) (scope : Scope) (s : Stmt) :
    (∃ cause, r.planOf site scope s = .fail cause ∧ cause.IsUndefinedVariable) ∨
      r.lenient.planOf site scope s = r.planOf site scope s := by
  cases s with
  | echo expression strategy line =>
      rw [planOf, planOf]
      rcases echo_tightens (r := r) site.template scope expression strategy line with
        same | ⟨cause, failed, undefined⟩
      · exact .inr (by rw [same])
      · exact .inl ⟨cause, by rw [failed]; rfl, undefined⟩
  | text text => exact .inr rfl
  | choice branches otherwise => exact .inr (by rw [planOf, planOf, chosen_lenient])
  | foreach text body =>
      exact .inr (by rw [planOf, planOf, rules_lenient, Loop.foreachRounds_lenient])
  | forIn text body =>
      refine .inr ?_
      rw [planOf, planOf, rules_lenient, Loop.forRounds_lenient]
      rfl
  | whileDo condition body =>
      refine .inr ?_
      rw [planOf, planOf, rules_lenient, Rules.holds_lenient]
      rfl
  | block name body => exact .inr rfl
  | insert name => exact .inr rfl

theorem plan_lenient (t : Job) :
    (∃ cause, r.plan t = .fail cause ∧ cause.IsUndefinedVariable) ∨
      r.lenient.plan t = r.plan t := by
  cases t with
  | statement site scope s => exact planOf_lenient site scope s
  | template chain overrides scope name => exact .inr rfl

/-- Whether a rendering failed because of an undefined variable. -/
def Undefined (result : Except Stop String) : Prop :=
  ∃ cause : RenderError, result = .error (.raised cause) ∧ cause.IsUndefinedVariable

theorem run_lenient {depth : Nat} {t : Job} (defined : ¬Undefined (r.run depth t)) :
    r.lenient.run depth t = r.run depth t := by
  let otherwise (stop : Stop) : Prop :=
    ∀ cause : RenderError, stop = .raised cause → ¬cause.IsUndefinedVariable
  have kept : Kept otherwise (r.run depth t) := by
    rintro stop stopped cause rfl undefined
    exact defined ⟨cause, stopped, undefined⟩
  refine run_of_matches (R := Eq) (K := otherwise) ?_ rfl kept
  rintro t _ rfl
  rcases plan_lenient (r := r) t with ⟨cause, fails, undefined⟩ | same
  · exact .inl ⟨cause, fails, fun dropped => dropped cause rfl undefined⟩
  · exact .inr (same ▸ ⟨rfl, List.forall₂_same.2 fun _ _ => rfl, rfl⟩)

theorem lineage_lenient (steps : Nat) (visited : List String) (name : String) :
    r.lenient.lineage steps visited name = r.lineage steps visited name := by
  induction steps generalizing visited name with
  | zero => rfl
  | succ steps ih =>
      rw [lineage, lineage]
      simp only [ih]
      rfl

theorem renderBlock_lenient {depth : Nat} {scope : Scope} {name block : String}
    (defined : ¬Undefined (r.renderBlock depth scope name block)) :
    r.lenient.renderBlock depth scope name block = r.renderBlock depth scope name block := by
  have same := lineage_lenient (r := r) (r.programs.length + 1) [] name
  cases above : r.lineage (r.programs.length + 1) [] name with
  | error cause => rw [renderBlock_error above, renderBlock_error (same.trans above)]
  | ok blocks =>
      cases known : blocks.get? block with
      | none =>
          rw [renderBlock_missing above known, renderBlock_missing (same.trans above) known]
      | some found =>
          have there : blocks.contains block = true := Option.isSome_of_eq_some known
          rw [renderBlock_eq above there] at defined ⊢
          rw [renderBlock_eq (same.trans above) there]
          exact run_lenient defined

/-- The strict result is the lenient one, as long as it is not an undefined variable. So a text of
the lenient rendering is the text of the strict one, unless a variable is undefined there. -/
structure OnlyAddsUndefined (strict lenient : Except Stop String) : Prop where
  same : ¬Undefined strict → lenient = strict
  text : ∀ out, lenient = .ok out → strict = .ok out ∨ Undefined strict

theorem onlyAddsUndefined_of_same {strict lenient : Except Stop String}
    (same : ¬Undefined strict → lenient = strict) : OnlyAddsUndefined strict lenient := by
  refine ⟨same, fun out rendered => ?_⟩
  by_cases undefined : Undefined strict
  · exact .inr undefined
  · exact .inl ((same undefined).symm.trans rendered)

/-- Strictness about variables changes nothing about a rendering but that it may fail because of an
undefined variable. -/
theorem strictness_adds_undefined (r : Renderer) (depth : Nat) (scope : Scope) (name : String) :
    OnlyAddsUndefined ({ r with strict := true }.render depth scope name)
        ({ r with strict := false }.render depth scope name) ∧
      ∀ block, OnlyAddsUndefined ({ r with strict := true }.renderBlock depth scope name block)
        ({ r with strict := false }.renderBlock depth scope name block) := by
  refine ⟨onlyAddsUndefined_of_same ?_, fun block => onlyAddsUndefined_of_same ?_⟩
  · exact run_lenient (r := { r with strict := true }) (t := .template [] [] scope name)
  · exact renderBlock_lenient (r := { r with strict := true })

end Renderer

end Stencil
