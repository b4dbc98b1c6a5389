import Stencil.Artifact.Basic
import Stencil.Table

/-!
# Programs

An artifact with its openers and closers paired up. Pairing never fails:

* a closer that has no opener is dropped;
* a closer closes the innermost opener of its kind, and all that was opened inside it;
* a branch marker counts only directly inside a condition, and not after its `else`;
* what is still open at the end is closed there.
-/

namespace Stencil

/-- A statement. A condition has its branches in order and what to do when none applies. -/
inductive Stmt where
  | text (text : String)
  | echo (expression : String) (strategy : Option String) (line : Nat)
  | choice (branches : List (String × List Stmt)) (otherwise : Option (List Stmt))
  | foreach (expression : String) (body : List Stmt)
  | forIn (expression : String) (body : List Stmt)
  | whileDo (condition : String) (body : List Stmt)
  | block (name : String) (body : List Stmt)
  | insert (template : String)
deriving Inhabited

/-- A template that can be executed: its statements, its blocks (of each name the one closed last),
the template it inherits from, and the templates it inserts. -/
structure Program where
  name : String
  body : List Stmt
  blocks : Table (List Stmt)
  parent : Option String
  includes : List String
deriving Inhabited

/-- The templates that are needed to execute the program. -/
def Program.dependencies (p : Program) : List String := p.parent.toList ++ p.includes

namespace Program

/-- What has been opened. A condition knows the branches before the current one, the condition of
the current one, and whether that is the `else`. -/
inductive Opener where
  | choice (branches : List (String × List Stmt)) (condition : String) (inElse : Bool)
  | foreach (expression : String)
  | forIn (expression : String)
  | whileDo (condition : String)
  | block (name : String)

/-- What a closer closes. -/
inductive Closes where
  | choice
  | foreach
  | forIn
  | whileDo
  | block
deriving DecidableEq, Repr

/-- The closer of an opener. -/
def Opener.closedBy : Opener → Closes
  | choice .. => .choice
  | foreach _ => .foreach
  | forIn _ => .forIn
  | whileDo _ => .whileDo
  | block _ => .block

/-- The statement of an opener and what stands after it up to the closer. -/
def Opener.close (body : List Stmt) : Opener → Stmt
  | choice branches _ true => .choice branches (some body)
  | choice branches condition false => .choice (branches ++ [(condition, body)]) none
  | foreach expression => .foreach expression body
  | forIn expression => .forIn expression body
  | whileDo condition => .whileDo condition body
  | block name => .block name body

/-- An opener and the statements after it. -/
structure Frame where
  opener : Opener
  body : List Stmt

/-- Pairing half-way through: the statements outside all frames, the open frames from the inside
out, and what has been found so far. -/
structure Pairing where
  root : List Stmt
  frames : List Frame
  blocks : Table (List Stmt)
  parent : Option String
  includes : List String

namespace Pairing

/-- Nothing read yet. -/
def start : Pairing := ⟨[], [], [], none, []⟩

/-- Puts a statement into the innermost frame. -/
def push (p : Pairing) (s : Stmt) : Pairing :=
  match p.frames with
  | [] => { p with root := p.root ++ [s] }
  | frame :: outer => { p with frames := { frame with body := frame.body ++ [s] } :: outer }

/-- Opens a frame. -/
def openFrame (p : Pairing) (opener : Opener) : Pairing :=
  { p with frames := ⟨opener, []⟩ :: p.frames }

/-- Enters the body of a block. -/
def recordBlock (p : Pairing) (opener : Opener) (body : List Stmt) : Pairing :=
  match opener with
  | .block name => { p with blocks := p.blocks.append name body }
  | _ => p

/-- Closes the innermost frame. -/
def closeInner (p : Pairing) : Pairing :=
  match p.frames with
  | [] => p
  | frame :: outer =>
      ({ p with frames := outer }.recordBlock frame.opener frame.body).push
        (frame.opener.close frame.body)

/-- Closes that many frames. -/
def closeMany : Nat → Pairing → Pairing
  | 0, p => p
  | n + 1, p => closeMany n p.closeInner

/-- Closes up to the innermost frame of a kind, if there is one. -/
def close (p : Pairing) (kind : Closes) : Pairing :=
  match p.frames.findIdx? fun frame => frame.opener.closedBy == kind with
  | none => p
  | some inside => closeMany (inside + 1) p

/-- Begins the next branch of the condition that is open innermost: one with a condition, or the
`else`. -/
def branch (p : Pairing) (condition : Option String) : Pairing :=
  match p.frames with
  | ⟨.choice branches current false, body⟩ :: outer =>
      let opener :=
        Opener.choice (branches ++ [(current, body)]) (condition.getD "") condition.isNone
      { p with frames := ⟨opener, []⟩ :: outer }
  | _ => p

/-- Takes a marker up. -/
def control (p : Pairing) : Control → Pairing
  | .openIf condition => p.openFrame (.choice [] condition false)
  | .elseIf condition => p.branch (some condition)
  | .otherwise => p.branch none
  | .closeIf => p.close .choice
  | .openForeach expression => p.openFrame (.foreach expression)
  | .closeForeach => p.close .foreach
  | .openFor expression => p.openFrame (.forIn expression)
  | .closeFor => p.close .forIn
  | .openWhile condition => p.openFrame (.whileDo condition)
  | .closeWhile => p.close .whileDo
  | .insert template => { p with includes := p.includes ++ [template] }.push (.insert template)
  | .inherit template => { p with parent := p.parent.or (some template) }

/-- Takes an instruction up. -/
def step (p : Pairing) : Instruction → Pairing
  | .literal text => p.push (.text text)
  | .echo expression strategy line => p.push (.echo expression strategy line)
  | .comment _ => p
  | .unknownDirective _ _ => p
  | .openBlock name => p.openFrame (.block name)
  | .closeBlock => p.close .block
  | .control op => p.control op

/-- Takes all instructions up. -/
def run (instructions : List Instruction) : Pairing := instructions.foldl step start

/-- Closes what is still open. -/
def finish (p : Pairing) : Pairing := closeMany p.frames.length p

end Pairing

/-- The program of an artifact. -/
def ofArtifact (a : Artifact) : Program :=
  let p := (Pairing.run a.instructions).finish
  ⟨a.name, p.root, p.blocks, p.parent, p.includes⟩

end Program

end Stencil
