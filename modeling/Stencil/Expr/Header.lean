import Stencil.Expr.Reader

/-!
# Loop headers

`source as item`, `source as key => item`, `name in first..last` and `name in source`, each with or
without one pair of parentheses around it.
-/

namespace Stencil

open Stencil.Text

namespace Expr

/-- The text without blanks, then without one pair of parentheses around it and
the blanks inside. -/
def unwrapped (cs : List Char) : List Char :=
  let cs := trimmed cs
  match (after? ['('] cs).bind (before? [')']) with
  | some inside => trimmed inside
  | none => cs

/-- The name of a loop variable, with or without dollar signs. -/
def variableName (cs : List Char) : Except ExprError String :=
  let name := (trimmed cs).dropWhile (· == '$')
  if name.head?.any isWordStart && name.all isWordChar then .ok (String.ofList name)
  else .error (.invalidName (String.ofList (trimmed cs)))

/-- The operand that the characters spell. -/
def parseOperand (cs : List Char) : Except ExprError Operand := whole (readOperand cs)

end Expr

open Stencil.Expr

/-- The header that the text spells. The last `as` counts, since the source may hold one. -/
def ForeachHeader.parse (text : String) : Except ExprError ForeachHeader := do
  let some (source, binding) := cutAtLast [' ', 'a', 's', ' '] (unwrapped text.toList)
    | .error .noForeach
  let source ← parseAll source
  match cutAt ['=', '>'] binding with
  | some (key, item) =>
      let key ← variableName key
      return ⟨source, some key, ← variableName item⟩
  | none => return ⟨source, none, ← variableName binding⟩

/-- The header that the text spells. Two points anywhere behind the `in` make it a range. -/
def ForHeader.parse (text : String) : Except ExprError ForHeader := do
  let some (name, rest) := cutAt [' ', 'i', 'n', ' '] (unwrapped text.toList)
    | .error .noFor
  let name ← variableName name
  match cutAt ['.', '.'] rest with
  | some (first, last) =>
      let first ← parseOperand first
      return ⟨name, .range first (← parseOperand last)⟩
  | none => return ⟨name, .items (← parseAll rest)⟩

end Stencil
