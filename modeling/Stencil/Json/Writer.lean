import Stencil.Decimal.Layout
import Stencil.Json.Basic
import Stencil.Text.Bytes

/-!
# Writing JSON

`write` is the text without any space. `pretty` puts every item on a line of its own, two spaces
deeper than what holds it.
-/

namespace Stencil.Json

open Stencil.Decimal
open Stencil.Text

/-- One character between the quotes of a string. -/
def stringChar (c : Char) : List Char :=
  match c with
  | '"' => ['\\', '"']
  | '\\' => ['\\', '\\']
  | '\n' => ['\\', 'n']
  | '\r' => ['\\', 'r']
  | '\t' => ['\\', 't']
  | _ =>
      if c.toNat = 0x8 then ['\\', 'b']
      else if c.toNat = 0xC then ['\\', 'f']
      else if c.toNat < 0x20 then
        ['\\', 'u', '0', '0', lowerHexDigit (c.toNat / 16), lowerHexDigit (c.toNat % 16)]
      else [c]

/-- The characters between the quotes of a string. -/
def stringBody (cs : List Char) : List Char := cs.flatMap stringChar

/-- A string with its quotes. -/
def writeString (s : String) : List Char := '"' :: (stringBody s.toList ++ ['"'])

/-- A number or a name, whatever is no string and holds nothing. -/
def writeAtom : Json → List Char
  | bool true => ['t', 'r', 'u', 'e']
  | bool false => ['f', 'a', 'l', 's', 'e']
  | integer n => (ofInt n).toList
  | float x => ((toJson? x).getD "null").toList
  | _ => ['n', 'u', 'l', 'l']

mutual
/-- The text of a value without spaces. -/
def write : Json → List Char
  | string s => writeString s
  | array items => '[' :: (writeItems items ++ [']'])
  | object members => '\x7b' :: (writeMembers members ++ ['\x7d'])
  | atom => writeAtom atom

/-- The items with commas between them. -/
def writeItems : List Json → List Char
  | [] => []
  | item :: rest => write item ++ writeMoreItems rest

/-- The items with a comma before each. -/
def writeMoreItems : List Json → List Char
  | [] => []
  | item :: rest => ',' :: (write item ++ writeMoreItems rest)

/-- The members with commas between them. -/
def writeMembers : List (String × Json) → List Char
  | [] => []
  | (name, value) :: rest => writeString name ++ ':' :: (write value ++ writeMoreMembers rest)

/-- The members with a comma before each. -/
def writeMoreMembers : List (String × Json) → List Char
  | [] => []
  | (name, value) :: rest =>
      ',' :: (writeString name ++ ':' :: (write value ++ writeMoreMembers rest))
end

/-- The text of a value without spaces. -/
def compact (j : Json) : String := String.ofList (write j)

/-- A new line at a depth. -/
def newLine (depth : Nat) : List Char := '\n' :: List.replicate (2 * depth) ' '

mutual
/-- The text of a value that starts at a depth. -/
def writePretty (depth : Nat) : Json → List Char
  | string s => writeString s
  | array [] => ['[', ']']
  | array (item :: rest) =>
      '[' :: (newLine (depth + 1) ++ writePretty (depth + 1) item ++
        prettyItems (depth + 1) rest ++ newLine depth ++ [']'])
  | object [] => ['\x7b', '\x7d']
  | object ((name, value) :: rest) =>
      '\x7b' :: (newLine (depth + 1) ++ writeString name ++ [':', ' '] ++
        writePretty (depth + 1) value ++ prettyMembers (depth + 1) rest ++
        newLine depth ++ ['\x7d'])
  | atom => writeAtom atom

/-- The items after the first. -/
def prettyItems (depth : Nat) : List Json → List Char
  | [] => []
  | item :: rest => ',' :: (newLine depth ++ writePretty depth item ++ prettyItems depth rest)

/-- The members after the first. -/
def prettyMembers (depth : Nat) : List (String × Json) → List Char
  | [] => []
  | (name, value) :: rest =>
      ',' :: (newLine depth ++ writeString name ++ [':', ' '] ++ writePretty depth value ++
        prettyMembers depth rest)
end

/-- The text of a value with one item on a line. -/
def pretty (j : Json) : String := String.ofList (writePretty 0 j)

example : compact (.array [.null, .float 2.5, .string "a\"b"]) = "[null,2.5,\"a\\\"b\"]" := by
  decide +kernel

end Stencil.Json
