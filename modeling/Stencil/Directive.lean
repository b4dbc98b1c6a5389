import Stencil.Artifact.Basic
import Stencil.Table
import Stencil.Text.Blank
import Stencil.Text.Find

/-!
# Directives

A directive turns the arguments of its tag into instructions. It sees the compiler only through a
view: how output is written, and what other directives make of their arguments.
-/

namespace Stencil

open Stencil.Text

/-- What a directive may ask of the compiler: the instruction that writes an expression under a
strategy, the strategy of ordinary output, and the instructions of another directive. -/
structure CompilerView where
  echo : String → String → Nat → Instruction
  defaultStrategy : String
  expand : String → String → Nat → List Instruction

/-- A directive: the instructions for its arguments. -/
abbrev Directive := CompilerView → String → List Instruction

namespace Directive

/-- A directive that makes one marker of its arguments. -/
def marker (make : String → Control) : Directive := fun _ arguments => [.control (make arguments)]

/-- The directives of conditions and loops. -/
def controls : Table Directive :=
  [("if", marker .openIf), ("elseif", marker .elseIf), ("else", marker fun _ => .otherwise),
    ("endif", marker fun _ => .closeIf), ("foreach", marker .openForeach),
    ("endforeach", marker fun _ => .closeForeach), ("for", marker .openFor),
    ("endfor", marker fun _ => .closeFor), ("while", marker .openWhile),
    ("endwhile", marker fun _ => .closeWhile)]

/-- What stands between a mark at the front and one at the end, if the text has both. -/
def between? (first last : Char) (cs : List Char) : Option (List Char) :=
  (after? [first] cs).bind (before? [last])

/-- The text between two marks, if the text has both. -/
def quotedName? (mark : Char) (cs : List Char) : Option (List Char) := between? mark mark cs

/-- The name in the arguments of a directive: without one pair of parentheses around it, then
without one pair of quotes. -/
def nameArgument (arguments : String) : String :=
  let cs := trimmed arguments.toList
  let cs := ((between? '(' ')' cs).map trimmed).getD cs
  String.ofList (((quotedName? '"' cs).or (quotedName? '\'' cs)).getD cs)

/-- The directives that name templates and blocks. -/
def templates : Table Directive :=
  [("include", fun _ arguments => [.control (.insert (nameArgument arguments))]),
    ("extends", fun _ arguments => [.control (.inherit (nameArgument arguments))]),
    ("block", fun _ arguments => [.openBlock (nameArgument arguments)]),
    ("endblock", fun _ _ => [.closeBlock])]

end Directive

example : Directive.nameArgument " (\"base\") " = "base" := by decide +kernel
example : Directive.nameArgument "\"a'" = "\"a'" := by decide +kernel

end Stencil
