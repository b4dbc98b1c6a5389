import Stencil.Artifact.Basic
import Stencil.Json.Reader
import Stencil.Json.Record
import Stencil.Json.Writer

/-!
# Artifacts as text

The text of an artifact is a JSON object. Every instruction is an object that begins with its `op`,
a control marker one that goes on with its `control`.
-/

namespace Stencil

open Stencil.Json (Record)

namespace Control

/-- The names of the markers and of the field of each that has one. -/
def forms : List (String × Option String) :=
  [("if", some "condition"), ("else_if", some "condition"), ("else", none), ("end_if", none),
    ("foreach", some "expression"), ("end_foreach", none), ("for", some "expression"),
    ("end_for", none), ("while", some "condition"), ("end_while", none),
    ("include", some "template"), ("extends", some "template")]

/-- The members of a marker. -/
def toMembers (op : Control) : List (String × Json) :=
  match op with
  | openIf condition => [("control", .string "if"), ("condition", .string condition)]
  | elseIf condition => [("control", .string "else_if"), ("condition", .string condition)]
  | otherwise => [("control", .string "else")]
  | closeIf => [("control", .string "end_if")]
  | openForeach expression => [("control", .string "foreach"), ("expression", .string expression)]
  | closeForeach => [("control", .string "end_foreach")]
  | openFor expression => [("control", .string "for"), ("expression", .string expression)]
  | closeFor => [("control", .string "end_for")]
  | openWhile condition => [("control", .string "while"), ("condition", .string condition)]
  | closeWhile => [("control", .string "end_while")]
  | insert template => [("control", .string "include"), ("template", .string template)]
  | inherit template => [("control", .string "extends"), ("template", .string template)]

/-- The name of a marker: as it stands, or by its place among the forms. -/
def formName? : Json → Option String
  | .string name => some name
  | .integer n => if 0 ≤ n then (forms[n.toNat]?).map Prod.fst else none
  | _ => none

/-- The marker that a record spells. -/
def ofRecord? (r : Record) : Option Control := do
  let (tag, rest) ← r.tagged? "control"
  let name ← formName? tag
  let field (name : String) : Option String := (rest.sized? 1).bind fun r => r.text? 0 name
  let bare (op : Control) : Option Control := (rest.sized? 0).map fun _ => op
  match name with
  | "if" => (field "condition").map openIf
  | "else_if" => (field "condition").map elseIf
  | "else" => bare otherwise
  | "end_if" => bare closeIf
  | "foreach" => (field "expression").map openForeach
  | "end_foreach" => bare closeForeach
  | "for" => (field "expression").map openFor
  | "end_for" => bare closeFor
  | "while" => (field "condition").map openWhile
  | "end_while" => bare closeWhile
  | "include" => (field "template").map insert
  | "extends" => (field "template").map inherit
  | _ => none

end Control

namespace Instruction

/-- The members of an instruction. -/
def toMembers (i : Instruction) : List (String × Json) :=
  match i with
  | literal text => [("op", .string "literal"), ("text", .string text)]
  | echo expression strategy line =>
      [("op", .string "echo"), ("expression", .string expression),
        ("strategy", match strategy with | some name => .string name | none => .null),
        ("line", .integer line)]
  | comment text => [("op", .string "comment"), ("text", .string text)]
  | unknownDirective name line =>
      [("op", .string "unknown_directive"), ("name", .string name), ("line", .integer line)]
  | openBlock name => [("op", .string "block_open"), ("name", .string name)]
  | closeBlock => [("op", .string "block_close")]
  | control op => ("op", .string "control") :: op.toMembers

/-- The instruction as JSON. -/
def toJson (i : Instruction) : Json := .object i.toMembers

/-- The limit of line numbers. -/
def lineLimit : Nat := 0x10000000000000000

/-- The instruction that a value spells. -/
def ofJson? (j : Json) : Option Instruction := do
  let (tag, rest) ← (← Record.ofJson? j).tagged? "op"
  match ← tag.string? with
  | "literal" => return literal (← (← rest.sized? 1).text? 0 "text")
  | "echo" =>
      let r ← rest.sized? 3
      return echo (← r.text? 0 "expression") (← r.optionalText? 1 "strategy")
        (← r.natural? lineLimit 2 "line")
  | "comment" => return comment (← (← rest.sized? 1).text? 0 "text")
  | "unknown_directive" =>
      let r ← rest.sized? 2
      return unknownDirective (← r.text? 0 "name") (← r.natural? lineLimit 1 "line")
  | "block_open" => return openBlock (← (← rest.sized? 1).text? 0 "name")
  | "block_close" => (rest.sized? 0).map fun _ => closeBlock
  | "control" => (Control.ofRecord? rest).map control
  | _ => none

end Instruction

namespace Artifact

/-- The limit of layout numbers. -/
def formatLimit : Nat := 0x100000000

/-- The artifact as JSON. -/
def toJson (a : Artifact) : Json :=
  .object [("format", .integer a.format), ("name", .string a.name),
    ("instructions", .array (a.instructions.map Instruction.toJson))]

/-- The artifact that a value spells. -/
def ofJson? (j : Json) : Option Artifact := do
  let r ← (← Record.ofJson? j).sized? 3
  let format ← r.natural? formatLimit 0 "format"
  let name ← r.text? 1 "name"
  let items ←
    match ← r.required? 2 "instructions" with
    | .array items => some items
    | _ => none
  return ⟨format, name, ← items.mapM Instruction.ofJson?⟩

/-- The text of an artifact. -/
def toText (a : Artifact) : String := a.toJson.compact

/-- The members of an artifact. Others are passed over. -/
def demand : Json.Demand := .only ["format", "name", "instructions"]

/-- The artifact that a text spells. -/
def ofText? (text : String) : Option Artifact := (Json.readOnly demand text).bind ofJson?

end Artifact

end Stencil
