import Stencil.Json.Reader
import Stencil.Json.Record
import Stencil.Token.Scan

/-!
# Options

How an engine goes about rendering, and the JSON form of that. A field that is missing keeps its
default; one that is unknown or stands twice makes the options unreadable. Only inside the
delimiters unknown members are passed over.
-/

namespace Stencil

/-- The options of an engine: whether printing an undefined variable is an error, whether templates
that have changed are compiled anew, where compiled templates are kept, how often a loop may run,
and how output is escaped and tags are bounded. -/
structure Options where
  strictVariables : Bool
  autoReload : Bool
  cacheDirectory : Option String
  loopLimit : Nat
  defaultStrategy : String
  delimiters : Delimiters
deriving DecidableEq, Repr

namespace Options

/-- What holds when nothing else is said. -/
def default : Options := ⟨false, true, none, 10000, "html", .braces⟩

/-- The limit of the number of rounds. -/
def roundLimit : Nat := 0x10000000000000000

/-- The fields in their order. -/
def fieldNames : List String :=
  ["strict_variables", "auto_reload", "cache_dir", "max_loop_iterations", "default_strategy",
    "delimiters"]

/-- Whether the record has no fields but these. -/
def isKnown : Json.Record → Bool
  | .named members => members.all fun member => fieldNames.contains member.1
  | .listed items => items.length ≤ fieldNames.length

/-- A value for a field that may be missing: the default, or what its value spells. -/
def optional {α : Type} (r : Json.Record) (place : Nat) (byDefault : α) (read : Json → Option α) :
    Option α :=
  match r.field? place (fieldNames[place]?.getD "") with
  | none => none
  | some none => some byDefault
  | some (some value) => read value

/-- A truth value. -/
def readBool : Json → Option Bool
  | .bool b => some b
  | _ => none

/-- A text, or none for null. -/
def readNullable : Json → Option (Option String)
  | .null => some none
  | .string s => some (some s)
  | _ => none

/-- Both delimiters. -/
def readDelimiters (j : Json) : Option Delimiters := do
  let r ← (← Json.Record.ofJson? j).sized? 2
  return ⟨← r.text? 0 "open", ← r.text? 1 "close"⟩

/-- The options that JSON data spells. -/
def ofJson? (j : Json) : Option Options := do
  let r ← Json.Record.ofJson? j
  if isKnown r then
    return {
      strictVariables := ← optional r 0 default.strictVariables readBool
      autoReload := ← optional r 1 default.autoReload readBool
      cacheDirectory := ← optional r 2 default.cacheDirectory readNullable
      loopLimit := ← optional r 3 default.loopLimit (Json.natural? roundLimit)
      defaultStrategy := ← optional r 4 default.defaultStrategy Json.string?
      delimiters := ← optional r 5 default.delimiters readDelimiters }
  else none

/-- All members, but of the delimiters only those that bound tags. -/
def demand : Json.Demand :=
  let ofField (name : String) : Json.Demand :=
    if name == "delimiters" then .only ["open", "close"] else .whole
  .members (fieldNames.map fun name => (name, ofField name)) true

/-- The options that a JSON text spells. -/
def ofText? (text : String) : Option Options := (Json.readOnly demand text).bind ofJson?

example : ofText? "\x7b\x7d" = some default := by decide +kernel
example : ofText? "\x7b\"strict\": true\x7d" = none := by decide +kernel

end Options

end Stencil
