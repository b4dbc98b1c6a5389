/-!
# Artifacts

A compiled template: a flat row of instructions. Control constructs and blocks stand in it as
separate openers and closers, which need not pair up.
-/

namespace Stencil

/-- A marker of a control construct. -/
inductive Control where
  | openIf (condition : String)
  | elseIf (condition : String)
  | otherwise
  | closeIf
  | openForeach (expression : String)
  | closeForeach
  | openFor (expression : String)
  | closeFor
  | openWhile (condition : String)
  | closeWhile
  | insert (template : String)
  | inherit (template : String)
deriving DecidableEq, Repr

/-- One instruction. An echo without a strategy is not escaped. -/
inductive Instruction where
  | literal (text : String)
  | echo (expression : String) (strategy : Option String) (line : Nat)
  | comment (text : String)
  | unknownDirective (name : String) (line : Nat)
  | openBlock (name : String)
  | closeBlock
  | control (op : Control)
deriving DecidableEq, Repr

/-- Whether the instruction makes no output and steers nothing. -/
def Instruction.isInert : Instruction → Bool
  | comment _ | unknownDirective .. => true
  | _ => false

/-- The name of the block that the instruction opens. -/
def Instruction.block? : Instruction → Option String
  | openBlock name => some name
  | _ => none

/-- The template that the instruction inserts or inherits from. -/
def Instruction.template? : Instruction → Option String
  | control (.insert template) | control (.inherit template) => some template
  | _ => none

/-- A compiled template, with the number of the layout it was written in. -/
structure Artifact where
  format : Nat
  name : String
  instructions : List Instruction
deriving DecidableEq, Repr

namespace Artifact

/-- The layout that this library writes. -/
def currentFormat : Nat := 1

/-- An artifact in the current layout. -/
def make (name : String) (instructions : List Instruction) : Artifact :=
  ⟨currentFormat, name, instructions⟩

/-- Whether the artifact is in the current layout. -/
def isCurrent (a : Artifact) : Bool := a.format == currentFormat

/-- The blocks in the order in which they are opened. -/
def blockNames (a : Artifact) : List String := a.instructions.filterMap Instruction.block?

/-- The templates that the artifact mentions, in order. -/
def dependencies (a : Artifact) : List String := a.instructions.filterMap Instruction.template?

end Artifact

end Stencil
