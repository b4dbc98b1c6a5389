import Stencil.Directive
import Stencil.Escaper
import Stencil.Node.Cursor
import Stencil.Node.Visitor
import Stencil.Token.Scan

/-!
# The compiler

From the source of a template to its artifact: tokens, nodes, the visitors' changes, instructions.
-/

namespace Stencil

open Stencil.Text

/-- What compiling depends on. Without an escaper no output is escaped. The visitors stand in the
order in which they run. -/
structure Compiler where
  delimiters : Delimiters
  directives : Table Directive
  escaper : Option Escaper
  visitors : List Visitor

namespace Compiler

/-- A compiler with the directives of conditions and loops. -/
def withDelimiters (d : Delimiters) : Compiler := ⟨d, Directive.controls, none, []⟩

/-- A compiler for tags in double braces. -/
def standard : Compiler := withDelimiters .braces

/-- Enters a directive. -/
def addDirective (c : Compiler) (name : String) (directive : Directive) : Compiler :=
  { c with directives := c.directives.set name directive }

/-- Enters a row of directives. -/
def addDirectives (c : Compiler) (directives : Table Directive) : Compiler :=
  { c with directives := c.directives.setAll directives }

/-- The compiler when its visitors have become these. -/
def withVisitors (c : Compiler) (visitors : List Visitor) : Compiler :=
  { c with visitors := visitors }

/-- Enters a visitor at its place among the others. -/
def addVisitor (c : Compiler) (v : Visitor) : Compiler :=
  c.withVisitors (Visitor.ordered (c.visitors ++ [v]))

/-- The strategy of ordinary output. -/
def defaultStrategy (c : Compiler) : String :=
  match c.escaper with
  | some escaper => escaper.defaultStrategy
  | none => "html"

/-- The instruction that writes an expression under a strategy, if output is escaped at all. -/
def echo (c : Compiler) (expression strategy : String) (line : Nat) : Instruction :=
  match c.escaper with
  | some _ => .echo expression (some strategy) line
  | none => .echo expression none line

/-- How deep directives may expand each other: deep enough for directives that pass on no more than
their arguments, and less than that where one of them comes up again. One that expands itself for
ever would have no end. -/
def expansionLimit (c : Compiler) (arguments : String) : Nat :=
  c.directives.length * (arguments.length + 1)

/-- The instructions of a directive, or a trace of one that nobody knows. -/
def expandWithin (c : Compiler) : Nat → String → String → Nat → List Instruction
  | 0, name, _, line => [.unknownDirective name line]
  | depth + 1, name, arguments, line =>
      match c.directives.get? name with
      | some directive => directive ⟨c.echo, c.defaultStrategy, c.expandWithin depth⟩ arguments
      | none => [.unknownDirective name line]

/-- The instructions of a directive. -/
def expand (c : Compiler) (name arguments : String) (line : Nat) : List Instruction :=
  c.expandWithin (c.expansionLimit arguments) name arguments line

mutual
/-- The instructions of a tree. -/
def instructions (c : Compiler) : Node → List Instruction
  | .root children => instructionsAll c children
  | .text text _ => [.literal text]
  | .echo expression line => [c.echo expression c.defaultStrategy line]
  | .rawEcho expression line => [.echo expression none line]
  | .comment text _ => [.comment text]
  | .directive name arguments line => c.expand name arguments line
  | .block name _ children => .openBlock name :: (instructionsAll c children ++ [.closeBlock])

/-- The instructions of a row of trees. -/
def instructionsAll (c : Compiler) : List Node → List Instruction
  | [] => []
  | node :: rest => instructions c node ++ instructionsAll c rest
end

/-- The tree of a source, before any visitor. -/
def parse (c : Compiler) (source name : String) : Except SyntaxError Node :=
  Node.ofTokens name (c.delimiters.tokens source)

/-- The artifact of a source, with the notes of the visitors and what these have become. A source
that is not read is seen by no visitor. -/
def compileNoted (c : Compiler) (source name : String) : Except SyntaxError (Visited Artifact) :=
  (c.parse source name).map fun root =>
    let tree := Visitor.visitAll c.visitors root
    ⟨⟨Artifact.make name (c.instructions tree.value), tree.notes⟩, tree.visitors⟩

/-- The artifact of a source. -/
def compile (c : Compiler) (source name : String) : Except SyntaxError Artifact :=
  (c.compileNoted source name).map fun made => made.value

/-- The compiler for people to read. -/
def describe (c : Compiler) : String :=
  let escaper :=
    match c.escaper with
    | some escaper => "Some(" ++ escaper.describe ++ ")"
    | none => "None"
  "Compiler \x7b lexer: Lexer \x7b delimiters: Delimiters \x7b open: " ++
    quoted c.delimiters.opening ++ ", close: " ++ quoted c.delimiters.closing ++
    " \x7d \x7d, directives: " ++ Escaper.quotedNames c.directives.sortedKeys ++ ", escaper: " ++
    escaper ++ ", visitors: " ++ toString c.visitors.length ++ " \x7d"

end Compiler

end Stencil
