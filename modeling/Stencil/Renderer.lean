import Stencil.Escaper
import Stencil.Loop
import Stencil.Program

/-!
# Rendering

The text of a template in a scope. The blocks of a template that inherits stand in for those of its
parent; its other statements are not executed. An inserted template is rendered on its own.

Blocks that stand inside themselves may call each other without end. The depth of execution is
therefore bounded, and running out of depth is told apart from every error.
-/

namespace Stencil

/-- Why there is no text: an error, or too little depth. -/
inductive Stop where
  | raised (cause : RenderError)
  | unfinished
deriving DecidableEq, Repr

/-- What rendering depends on: the programs by name, and how expressions, escapes and loops go. -/
structure Renderer where
  programs : Table Program
  filters : Table Filter
  escaper : Escaper
  strict : Bool
  loopLimit : Nat

/-- The body of a block and the template that it is written in. -/
structure BlockBody where
  template : String
  body : List Stmt
deriving Inhabited

/-- Where a statement is executed: the templates being rendered, outermost first, the template it is
written in, and the blocks that stand in for others. -/
structure Site where
  chain : List String
  template : String
  overrides : Table BlockBody
deriving Inhabited

namespace Renderer

/-- The rules of evaluation. -/
def rules (r : Renderer) : Rules := ⟨r.filters, r.strict⟩

/-- An error that stops the rendering. -/
def orStop {α : Type} (result : Except RenderError α) : Except Stop α := result.mapError .raised

/-- The program of a name. -/
def program (r : Renderer) (name : String) : Except RenderError Program :=
  match r.programs.get? name with
  | some program => .ok program
  | none => .error (.load (.notFound name []))

/-- The blocks of a program, to stand behind those of the programs that inherit from it. -/
def blockBodies (p : Program) : Table BlockBody :=
  p.blocks.map fun (name, body) => (name, ⟨p.name, body⟩)

/-- The texts of a row, one after the other. -/
def concat {α : Type} (render : α → Except Stop String) (row : List α) : Except Stop String :=
  row.foldlM (fun out item => (render item).map (out ++ ·)) ""

/-- The text of an expression that is printed, escaped by a strategy. -/
def echo (r : Renderer) (template : String) (scope : Scope) (text : String)
    (strategy : Option String) (line : Nat) : Except RenderError String := do
  let value ← r.rules.evaluateText ⟨template, some line⟩ scope text
  match strategy with
  | none => return value.render
  | some name =>
      match r.escaper.escape? value.render name with
      | some escaped => return escaped
      | none => .error (.unknownStrategy name)

/-- The body of the first branch whose condition holds. -/
def chosen (r : Renderer) (template : String) (scope : Scope) (otherwise : Option (List Stmt)) :
    List (String × List Stmt) → Except RenderError (List Stmt)
  | [] => .ok (otherwise.getD [])
  | (condition, body) :: rest => do
      if ← r.rules.holds template scope condition then return body
      else r.chosen template scope otherwise rest

/-- Repeats a body as long as a condition holds, and at most `limit` times. -/
def repeatWhile (overrun : RenderError) (condition : Unit → Except RenderError Bool)
    (body : Unit → Except Stop String) : Nat → String → Except Stop String
  | 0, out => do if ← orStop (condition ()) then .error (.raised overrun) else return out
  | limit + 1, out => do
      if ← orStop (condition ()) then
        repeatWhile overrun condition body limit (out ++ (← body ()))
      else return out

mutual
/-- The text of a statement. -/
def statement (r : Renderer) : Nat → Site → Scope → Stmt → Except Stop String
  | 0, _, _, _ => .error .unfinished
  | depth + 1, site, scope, s =>
      let run (scope : Scope) (body : List Stmt) : Except Stop String :=
        concat (fun s => r.statement depth site scope s) body
      match s with
      | .text text => .ok text
      | .echo expression strategy line =>
          orStop (r.echo site.template scope expression strategy line)
      | .choice branches otherwise => do
          run scope (← orStop (r.chosen site.template scope otherwise branches))
      | .foreach text body => do
          let rounds ← orStop (Loop.foreachRounds r.rules site.template scope text)
          concat (fun inner => run inner body) (Loop.scopes scope rounds)
      | .forIn text body => do
          let rounds ← orStop (Loop.forRounds r.rules r.loopLimit site.template scope text)
          concat (fun inner => run inner body) (Loop.scopes scope rounds)
      | .whileDo condition body =>
          repeatWhile (.loopLimit site.template r.loopLimit)
            (fun _ => r.rules.holds site.template scope condition) (fun _ => run scope body)
            r.loopLimit ""
      | .block name body =>
          let block := (site.overrides.get? name).getD ⟨site.template, body⟩
          concat (fun s => r.statement depth { site with template := block.template } scope s)
            block.body
      | .insert name => r.templateWith depth site.chain [] scope name

/-- The text of a template inside of the templates of `chain`, with blocks that stand in for its
own. -/
def templateWith (r : Renderer) :
    Nat → List String → Table BlockBody → Scope → String → Except Stop String
  | 0, _, _, _, _ => .error .unfinished
  | depth + 1, chain, overrides, scope, name =>
      if chain.contains name then .error (.raised (.circularReference (chain ++ [name])))
      else do
        let p ← orStop (r.program name)
        match p.parent with
        | some parent =>
            r.templateWith depth (chain ++ [name]) (overrides ++ blockBodies p) scope parent
        | none =>
            concat (fun s => r.statement depth ⟨chain ++ [name], p.name, overrides⟩ scope s) p.body
end

/-- How deep execution goes by default. -/
def defaultDepth : Nat := 1000000

/-- The text of a template. -/
def render (r : Renderer) (depth : Nat) (scope : Scope) (name : String) : Except Stop String :=
  r.templateWith depth [] [] scope name

/-- The blocks in effect for a template, its own first and then those of the templates it inherits
from. `visited` are the templates before it, each of which has another name; so `steps` need not be
more than the number of programs. -/
def lineage (r : Renderer) : Nat → List String → String → Except RenderError (Table BlockBody)
  | 0, visited, _ => .error (.circularReference visited)
  | steps + 1, visited, name => do
      let p ← r.program name
      if visited.contains p.name then .error (.circularReference (visited ++ [p.name]))
      else
        match p.parent with
        | none => return blockBodies p
        | some parent =>
            let inherited ← r.lineage steps (visited ++ [p.name]) parent
            return blockBodies p ++ inherited

/-- The text of one block of a template. -/
def renderBlock (r : Renderer) (depth : Nat) (scope : Scope) (name block : String) :
    Except Stop String := do
  let blocks ← orStop (r.lineage (r.programs.length + 1) [] name)
  match blocks.get? block with
  | none => .error (.raised (.blockNotFound block name))
  | some found =>
      concat (fun s => r.statement depth ⟨[], found.template, blocks⟩ scope s) found.body

end Renderer

end Stencil
