import Stencil.Error
import Stencil.Expr.Header
import Stencil.Filter.Basic
import Stencil.Scope

/-!
# Evaluation

The value of an expression in a scope. A path that leads nowhere is null, or an error where the
rules are strict about it.
-/

namespace Stencil

/-- What expressions are evaluated by: the filters, and whether printing an undefined variable is an
error. -/
structure Rules where
  filters : Table Filter
  strict : Bool

/-- Where an expression stands: its template, and its line if its value is printed. -/
structure Place where
  template : String
  printedOn : Option Nat

namespace Rules

/-- The value of a path that leads nowhere. -/
def undefined (rules : Rules) (place : Place) (path : List Segment) : Except RenderError Value :=
  match rules.strict, place.printedOn with
  | true, some line => .error (.undefinedVariable (describePath path) place.template line)
  | _, _ => .ok .null

/-- The value of an operand. -/
def operand (rules : Rules) (place : Place) (scope : Scope) : Operand → Except RenderError Value
  | .literal value => .ok value
  | .path path =>
      match scope.at? path with
      | some value => .ok value
      | none => rules.undefined place path

/-- The value under a filter. Its arguments are never printed themselves. -/
def apply (rules : Rules) (template : String) (scope : Scope) (value : Value) (call : FilterCall) :
    Except RenderError Value :=
  match rules.filters.get? call.name with
  | none => .error (.undefinedFilter call.name template)
  | some filter => (call.arguments.mapM (rules.operand ⟨template, none⟩ scope)).map (filter value)

/-- The value under a row of filters, negated in the end or not. -/
def finish (rules : Rules) (template : String) (scope : Scope) (negated : Bool)
    (calls : List FilterCall) (value : Value) : Except RenderError Value :=
  (calls.foldlM (rules.apply template scope) value).map fun result =>
    if negated then .bool !result.truthy else result

/-- The value of an expression. -/
def evaluate (rules : Rules) (place : Place) (scope : Scope) : Expr → Except RenderError Value
  | .operand negated base calls =>
      (rules.operand place scope base).bind (rules.finish place.template scope negated calls)
  | .group negated inner calls =>
      (rules.evaluate place scope inner).bind (rules.finish place.template scope negated calls)

/-- The error of a text that is no expression. -/
def invalid (template text message : String) : RenderError :=
  .invalidExpression text template message

/-- Reads a text of a template. -/
def reading {α : Type} (template text : String) (result : Except ExprError α) :
    Except RenderError α :=
  result.mapError fun e => invalid template text e.message

/-- The value of the expression that a text spells. -/
def evaluateText (rules : Rules) (place : Place) (scope : Scope) (text : String) :
    Except RenderError Value := do
  let expr ← reading place.template text (Expr.parse text)
  rules.evaluate place scope expr

/-- Whether a condition holds. -/
def holds (rules : Rules) (template : String) (scope : Scope) (condition : String) :
    Except RenderError Bool :=
  (rules.evaluateText ⟨template, none⟩ scope condition).map Value.truthy

/-- A bound of a range, as an integer. -/
def bound (rules : Rules) (template text : String) (scope : Scope) (bound : Operand) :
    Except RenderError Int := do
  let value ← rules.operand ⟨template, none⟩ scope bound
  match value.number? with
  | some x => return Decimal.toInt64 x
  | none =>
      .error (invalid template text ("range bound \"" ++ bound.describe ++ "\" is not a number"))

theorem evaluate_operand_eq (rules : Rules) (place : Place) (scope : Scope) (base : Operand) :
    rules.evaluate place scope (.operand false base []) = rules.operand place scope base := by
  simp only [evaluate]
  cases rules.operand place scope base <;> rfl

end Rules

end Stencil
