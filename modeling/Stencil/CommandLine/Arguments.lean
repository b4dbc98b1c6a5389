import Stencil.Text.Find

/-!
# Arguments

The words of a command line as options and operands. A word that begins with a hyphen is an option,
up to a lone pair of hyphens. The value of an option follows as the next word, or in the same word:
behind an equals sign, or for short options directly. What comes first decides when there are
several faults.
-/

namespace Stencil.CommandLine

open Stencil.Text

/-- An option that a command knows. -/
structure OptionRule where
  long : String
  short : Option Char
  takesValue : Bool
  repeatable : Bool
  /-- Whether the value may be empty. -/
  allowsEmpty : Bool

/-- What a command accepts: options, and the number of operands, which it may want not
to be empty. -/
structure Grammar where
  options : List OptionRule
  operands : Nat
  allowsEmpty : Bool

/-- Why a command line is not carried out: it is wrong, or it asks for help or for the version. -/
inductive Refusal where
  | usage
  | help
  | version
deriving DecidableEq, Repr

/-- Options with their values, and operands. -/
structure Arguments where
  options : List (String × String)
  operands : List String
deriving DecidableEq, Repr

namespace Arguments

/-- The values of an option, in order. -/
def values (a : Arguments) (name : String) : List String :=
  (a.options.filter fun option => option.1 == name).map Prod.snd

/-- The value of an option that is given at most once. -/
def value? (a : Arguments) (name : String) : Option String := (a.values name).head?

/-- Whether an option is given. -/
def has (a : Arguments) (name : String) : Bool := a.options.any fun option => option.1 == name

/-- Adds an option, unless it is given twice or its value is missing. -/
def addOption (a : Arguments) (rule : OptionRule) (value : String) : Except Refusal Arguments :=
  if (a.has rule.long && !rule.repeatable) ||
      (rule.takesValue && value == "" && !rule.allowsEmpty) then
    .error .usage
  else .ok { a with options := a.options ++ [(rule.long, value)] }

/-- Adds an operand, unless there are enough of them. -/
def addOperand (g : Grammar) (a : Arguments) (value : String) : Except Refusal Arguments :=
  if g.operands ≤ a.operands.length || (value == "" && !g.allowsEmpty) then .error .usage
  else .ok { a with operands := a.operands ++ [value] }

end Arguments

/-- What a word is. `attached` is a value in the same word. -/
inductive Word where
  | separator
  | option (rule : OptionRule) (attached : Option String)
  | operand (value : String)
  | help
  | unknown

/-- The option that two hyphens and a name mean. -/
def longWord (g : Grammar) (cs : List Char) : Word :=
  let name := String.ofList (cs.takeWhile (· != '='))
  let attached := (after? ['='] (cs.dropWhile (· != '='))).map String.ofList
  match g.options.find? fun rule => rule.long == name with
  | some rule => .option rule attached
  | none => if name == "help" && attached.isNone then .help else .unknown

/-- The option that a hyphen and a letter mean. What follows the letter is the value. -/
def shortWord (g : Grammar) (c : Char) (rest : List Char) : Word :=
  match g.options.find? fun rule => rule.short == some c with
  | some rule =>
      let attached := if rest.isEmpty then none else some ((after? ['='] rest).getD rest)
      .option rule (attached.map String.ofList)
  | none => if c == 'h' then .help else .unknown

/-- What a word is to a command. -/
def readWord (g : Grammar) (word : String) : Word :=
  match word.toList with
  | '-' :: '-' :: [] => .separator
  | '-' :: '-' :: cs => longWord g cs
  | '-' :: c :: rest => shortWord g c rest
  | _ => .operand word

/-- Reads the words of a command. -/
def readWords (g : Grammar) (a : Arguments) : List String → Except Refusal Arguments
  | [] => .ok a
  | word :: rest =>
      match readWord g word with
      | .separator => rest.foldlM (Arguments.addOperand g) a
      | .operand value => (Arguments.addOperand g a value).bind fun a => readWords g a rest
      | .help => .error .help
      | .unknown => .error .usage
      | .option rule (some value) =>
          if rule.takesValue then (a.addOption rule value).bind fun a => readWords g a rest
          else .error .usage
      | .option rule none =>
          if rule.takesValue then
            match rest with
            | [] => .error .usage
            | value :: rest =>
                match readWord g value with
                | .operand value => (a.addOption rule value).bind fun a => readWords g a rest
                | _ => .error .usage
          else (a.addOption rule "").bind fun a => readWords g a rest

/-- Reads the words of a command, which wants all its operands. -/
def readArguments (g : Grammar) (words : List String) : Except Refusal Arguments := do
  let a ← readWords g ⟨[], []⟩ words
  if a.operands.length = g.operands then return a else .error .usage

end Stencil.CommandLine
