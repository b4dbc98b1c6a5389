import Stencil.Value

/-!
# Expressions

An operand or a group in parentheses, a row of filters applied to it, and whether the result is
negated in the end. There are no operators.
-/

namespace Stencil

/-- A value as it stands, or the path to one. -/
inductive Operand where
  | literal (value : Value)
  | path (segments : List Segment)
deriving Inhabited

/-- A filter with its arguments. -/
structure FilterCall where
  name : String
  arguments : List Operand
deriving Inhabited

/-- An expression. `negated` is the parity of the negations in front. -/
inductive Expr where
  | operand (negated : Bool) (operand : Operand) (filters : List FilterCall)
  | group (negated : Bool) (inner : Expr) (filters : List FilterCall)
deriving Inhabited

/-- What goes through a loop: the whole numbers between two bounds, or the items of a value. -/
inductive LoopSource where
  | range (first last : Operand)
  | items (source : Expr)
deriving Inhabited

/-- The header of a loop over items, with a name for the key if one is wanted. -/
structure ForeachHeader where
  source : Expr
  key : Option String
  item : String
deriving Inhabited

/-- The header of a loop with one variable. -/
structure ForHeader where
  name : String
  source : LoopSource
deriving Inhabited

/-- A segment behind the first one. -/
def Segment.describe : Segment → String
  | key name => "." ++ name
  | index n => "[" ++ toString n ++ "]"

/-- The first segment of a path. -/
def Segment.describeRoot : Segment → String
  | key name => name
  | index n => "[" ++ toString n ++ "]"

/-- A path for people to read. -/
def describePath : List Segment → String
  | [] => ""
  | root :: path => root.describeRoot ++ String.join (path.map Segment.describe)

/-- An operand for people to read. -/
def Operand.describe : Operand → String
  | literal value => value.render
  | path segments => describePath segments

namespace Expr

/-- Whether the result is negated. -/
def negated : Expr → Bool
  | operand negated .. | group negated .. => negated

/-- The filters outside of any group. -/
def filters : Expr → List FilterCall
  | operand _ _ filters | group _ _ filters => filters

/-- The path at the root of the expression, inside all groups. -/
def rootPath? : Expr → Option (List Segment)
  | operand _ (.path segments) _ => some segments
  | operand _ (.literal _) _ => none
  | group _ inner _ => inner.rootPath?

end Expr

end Stencil
