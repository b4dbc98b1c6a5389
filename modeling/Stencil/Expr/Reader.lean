import Stencil.Decimal.Numeral
import Stencil.Expr.Basic
import Stencil.Text.Blank
import Stencil.Text.Find
import Stencil.Text.Letter

/-!
# Reading expressions

```
expression := ("!" | "not ")* (operand | "(" expression ")") ("|" filter)*
filter     := name ["(" [operand ("," operand)*] ")"]
operand    := string | number | path
path       := ["$"] name ("." (name | digits) | "[" (digits | string) "]")*
```

Each reader gives what it read and the rest of the text. A reader that repeats itself is bounded by
the length of the text.
-/

namespace Stencil

open Stencil.Text
open Stencil.Decimal

/-- Why a text is no expression. -/
inductive ExprError where
  | unexpected (rest : String)
  | noOperand
  | noIdentifier
  | noIndex
  | wanted (mark : Char)
  | unterminated
  | invalidNumber (text : String)
  | indexRange (digits : String)
  | noForeach
  | noFor
  | invalidName (text : String)
deriving DecidableEq, Repr

/-- The wording of an expression error. -/
def ExprError.message : ExprError → String
  | unexpected rest => "unexpected \"" ++ rest ++ "\""
  | noOperand => "expected an operand"
  | noIdentifier => "expected an identifier"
  | noIndex => "expected an index or quoted key"
  | wanted mark => "expected \"" ++ mark.toString ++ "\""
  | unterminated => "unterminated string"
  | invalidNumber text => "invalid number \"" ++ text ++ "\""
  | indexRange digits => "index out of range: " ++ digits
  | noForeach => "expected \"<source> as <item>\""
  | noFor => "expected \"<var> in <range or source>\""
  | invalidName text => "invalid variable name \"" ++ text ++ "\""

namespace Expr

/-! ## Words and strings -/

/-- The rest behind a mark, after blanks. -/
def eat? (mark : Char) (cs : List Char) : Option (List Char) :=
  match dropBlanks cs with
  | [] => none
  | c :: rest => if c = mark then some rest else none

/-- The rest behind a mark that must stand there, after blanks. -/
def expect (mark : Char) (cs : List Char) : Except ExprError (List Char) :=
  match eat? mark cs with
  | some rest => .ok rest
  | none => .error (.wanted mark)

/-- A character of a name. -/
def isWordChar (c : Char) : Bool := isAlphanumeric c || c == '_'

/-- A character at the front of a name. -/
def isWordStart (c : Char) : Bool := isAlphabetic c || c == '_'

/-- Reads a name. -/
def readWord (cs : List Char) : Except ExprError (String × List Char) :=
  let word := cs.takeWhile isWordChar
  if word.isEmpty then .error .noIdentifier else .ok (String.ofList word, cs.dropWhile isWordChar)

/-- The character that a letter behind a backslash stands for. -/
def unescaped : Char → Char
  | 'n' => '\n'
  | 't' => '\t'
  | c => c

/-- Reads on inside a string, after `seen` in reverse, to the closing quote. -/
def readQuoted (quote : Char) (seen : List Char) : List Char → Except ExprError (String × List Char)
  | [] => .error .unterminated
  | '\\' :: [] => .error .unterminated
  | '\\' :: c :: rest => readQuoted quote (unescaped c :: seen) rest
  | c :: rest =>
      if c = quote then .ok (String.ofList seen.reverse, rest)
      else readQuoted quote (c :: seen) rest

/-- A quotation mark. -/
def isQuote (c : Char) : Bool := c == '"' || c == '\''

/-! ## Numbers -/

/-- The 64-bit integer of that sign, if it fits. -/
def integer? (negative : Bool) (digits : List Char) : Option Value :=
  let n := digitsValue digits
  if digits.isEmpty then none
  else if negative then if n ≤ 0x8000000000000000 then some (.int (Int64.ofInt (-n))) else none
  else if n < 0x8000000000000000 then some (.int (Int64.ofNat n)) else none

/-- Whether a point and a digit follow. -/
def startsFraction : List Char → Bool
  | '.' :: c :: _ => isDigit c
  | _ => false

/-- Reads a number: an integer, or a double when a point and a digit follow the whole part. -/
def readNumber (cs : List Char) : Except ExprError (Value × List Char) :=
  let (sign, unsigned) :=
    match cs with
    | '-' :: rest => (['-'], rest)
    | _ => ([], cs)
  let whole := unsigned.takeWhile isDigit
  let rest := unsigned.dropWhile isDigit
  if startsFraction rest then
    let places := (rest.drop 1).takeWhile isDigit
    let text := sign ++ whole ++ '.' :: places
    match double? text with
    | some x => .ok (.float x, (rest.drop 1).dropWhile isDigit)
    | none => .error (.invalidNumber (String.ofList text))
  else
    match integer? (!sign.isEmpty) whole with
    | some n => .ok (n, rest)
    | none => .error (.invalidNumber (String.ofList (sign ++ whole)))

/-! ## Paths and operands -/

/-- Reads what stands between brackets, after the opening one. -/
def readIndex (cs : List Char) : Except ExprError (Segment × List Char) := do
  let cs := dropBlanks cs
  match cs with
  | [] => .error .noIndex
  | c :: rest =>
      if isQuote c then
        let (name, rest) ← readQuoted c [] rest
        return (.key name, ← expect ']' rest)
      else if isDigit c then
        let digits := cs.takeWhile isDigit
        match natural? wordLimit digits with
        | some n => return (.index n, ← expect ']' (cs.dropWhile isDigit))
        | none => .error (.indexRange (String.ofList digits))
      else .error .noIndex

/-- Reads what stands behind a point: digits or a name, either a key. -/
def readKey (cs : List Char) : Except ExprError (Segment × List Char) :=
  if cs.head?.any isDigit then
    .ok (.key (String.ofList (cs.takeWhile isDigit)), cs.dropWhile isDigit)
  else (readWord cs).map fun (name, rest) => (.key name, rest)

/-- Reads the segments behind the root of a path. -/
def readSegments : Nat → List Char → Except ExprError (List Segment × List Char)
  | 0, cs => .ok ([], cs)
  | steps + 1, cs =>
      match cs with
      | '.' :: rest => do
          let (segment, rest) ← readKey rest
          let (segments, rest) ← readSegments steps rest
          return (segment :: segments, rest)
      | '[' :: rest => do
          let (segment, rest) ← readIndex rest
          let (segments, rest) ← readSegments steps rest
          return (segment :: segments, rest)
      | _ => .ok ([], cs)

/-- The literal that a single word stands for. -/
def wordLiteral? : String → Option Value
  | "true" => some (.bool true)
  | "false" => some (.bool false)
  | "null" => some .null
  | _ => none

/-- The operand of a path: a word that names a literal is one, unless a dollar sign
stands in front. -/
def pathOperand (sigil : Bool) (root : String) (segments : List Segment) : Operand :=
  match sigil, segments, wordLiteral? root with
  | false, [], some value => .literal value
  | _, _, _ => .path (.key root :: segments)

/-- Reads a path or a literal that is a word. -/
def readPath (cs : List Char) : Except ExprError (Operand × List Char) := do
  let (sigil, cs) :=
    match cs with
    | '$' :: rest => (true, rest)
    | _ => (false, cs)
  let (root, rest) ← readWord cs
  let (segments, rest) ← readSegments rest.length rest
  return (pathOperand sigil root segments, rest)

/-- Reads an operand. -/
def readOperand (cs : List Char) : Except ExprError (Operand × List Char) :=
  let cs := dropBlanks cs
  match cs with
  | [] => .error .noOperand
  | c :: rest =>
      if isQuote c then (readQuoted c [] rest).map fun (s, rest) => (.literal (.string s), rest)
      else if isDigit c || c == '-' then (readNumber cs).map fun (n, rest) => (.literal n, rest)
      else if isWordStart c || c == '$' then readPath cs
      else .error (.unexpected c.toString)

/-! ## Filters and expressions -/

/-- Reads the arguments of a filter up to the closing parenthesis. -/
def readArguments : Nat → List Char → Except ExprError (List Operand × List Char)
  | 0, _ => .error (.wanted ',')
  | steps + 1, cs => do
      let (argument, rest) ← readOperand cs
      match eat? ')' rest with
      | some rest => return ([argument], rest)
      | none =>
          let rest ← expect ',' rest
          let (arguments, rest) ← readArguments steps rest
          return (argument :: arguments, rest)

/-- Reads a filter, after the bar. -/
def readCall (cs : List Char) : Except ExprError (FilterCall × List Char) := do
  let (name, rest) ← readWord (dropBlanks cs)
  match eat? '(' rest with
  | none => return (⟨name, []⟩, rest)
  | some inside =>
      match eat? ')' inside with
      | some rest => return (⟨name, []⟩, rest)
      | none =>
          let (arguments, rest) ← readArguments (inside.length + 1) inside
          return (⟨name, arguments⟩, rest)

/-- Reads the filters that follow. -/
def readCalls : Nat → List Char → Except ExprError (List FilterCall × List Char)
  | 0, cs => .ok ([], cs)
  | steps + 1, cs =>
      match eat? '|' cs with
      | none => .ok ([], cs)
      | some rest => do
          let (call, rest) ← readCall rest
          let (calls, rest) ← readCalls steps rest
          return (call :: calls, rest)

/-- The rest behind one negation, after blanks: an exclamation mark, or the word before a blank. -/
def negation? (cs : List Char) : Option (List Char) :=
  match dropBlanks cs with
  | '!' :: rest => some rest
  | 'n' :: 'o' :: 't' :: c :: rest => if isBlank c then some (c :: rest) else none
  | _ => none

/-- Whether the negations in front leave a negation, and the text behind them. -/
def readNegations (negated : Bool) : Nat → List Char → Bool × List Char
  | 0, cs => (negated, cs)
  | steps + 1, cs =>
      match negation? cs with
      | some rest => readNegations (!negated) steps rest
      | none => (negated, cs)

/-- Reads an expression. -/
def readExpr : Nat → List Char → Except ExprError (Expr × List Char)
  | 0, _ => .error .noOperand
  | steps + 1, cs => do
      let (negated, cs) := readNegations false cs.length cs
      match eat? '(' cs with
      | some inside =>
          let (inner, rest) ← readExpr steps inside
          let rest ← expect ')' rest
          let (filters, rest) ← readCalls rest.length rest
          return (.group negated inner filters, rest)
      | none =>
          let (base, rest) ← readOperand cs
          let (filters, rest) ← readCalls rest.length rest
          return (.operand negated base filters, rest)

/-- What a reader gives when nothing but blanks may follow. -/
def whole {α : Type} (step : Except ExprError (α × List Char)) : Except ExprError α := do
  let (result, rest) ← step
  let rest := dropBlanks rest
  if rest.isEmpty then return result else .error (.unexpected (String.ofList rest))

/-- The expression that the characters spell. -/
def parseAll (cs : List Char) : Except ExprError Expr := whole (readExpr (cs.length + 1) cs)

/-- The expression that the text spells. -/
def parse (text : String) : Except ExprError Expr := parseAll text.toList

end Expr

end Stencil
