import Stencil.Json.Spelling

/-!
# Passing over JSON

A value that nobody wants has to be well-formed, but need not stand for anything: its numbers may be
out of every range, its strings may hold lone surrogates, and it may be as deep as it likes.
-/

namespace Stencil.Json

open Stencil.Text

/-- Passes over the inside of a string and its closing quote. -/
def skipString : List Char → Option (List Char)
  | '"' :: rest => some rest
  | '\\' :: 'u' :: a :: b :: c :: d :: rest =>
      if (unit? a b c d).isSome then skipString rest else none
  | '\\' :: c :: rest => if (escaped? c).isSome then skipString rest else none
  | c :: rest => if c.toNat < 0x20 || c = '\\' then none else skipString rest
  | [] => none

/-- Passes over one digit or more. -/
def skipDigits (cs : List Char) : Option (List Char) :=
  if cs.head?.any isDigit then some (cs.dropWhile isDigit) else none

/-- Passes over the sign of an exponent, if there is one. -/
def skipSign (cs : List Char) : List Char :=
  match cs with
  | [] => []
  | c :: rest => if c = '+' ∨ c = '-' then rest else cs

/-- Passes over an exponent, if there is one. -/
def skipExponent (cs : List Char) : Option (List Char) :=
  match cs with
  | [] => some []
  | c :: rest => if c = 'e' ∨ c = 'E' then skipDigits (skipSign rest) else some cs

/-- Passes over a number after its sign. -/
def skipNumber (cs : List Char) : Option (List Char) :=
  let whole :=
    match cs with
    | '0' :: rest => if rest.head?.any isDigit then none else some rest
    | _ => skipDigits cs
  whole.bind fun rest =>
    match rest with
    | '.' :: places => (skipDigits places).bind skipExponent
    | _ => skipExponent rest

mutual
/-- Passes over one value. -/
def skipValue : Nat → List Char → Option (List Char)
  | 0, _ => none
  | steps + 1, cs =>
      match skipSpace cs with
      | 'n' :: 'u' :: 'l' :: 'l' :: rest => some rest
      | 't' :: 'r' :: 'u' :: 'e' :: rest => some rest
      | 'f' :: 'a' :: 'l' :: 's' :: 'e' :: rest => some rest
      | '"' :: rest => skipString rest
      | '-' :: rest => skipNumber rest
      | '[' :: rest =>
          match skipSpace rest with
          | ']' :: rest => some rest
          | _ => skipItems steps rest
      | '\x7b' :: rest =>
          match skipSpace rest with
          | '\x7d' :: rest => some rest
          | _ => skipMembers steps rest
      | cs => skipNumber cs

/-- Passes over the items of an array. -/
def skipItems : Nat → List Char → Option (List Char)
  | 0, _ => none
  | steps + 1, cs =>
      match skipValue steps cs with
      | none => none
      | some rest =>
          match skipSpace rest with
          | ',' :: rest => skipItems steps rest
          | ']' :: rest => some rest
          | _ => none

/-- Passes over the members of an object. -/
def skipMembers : Nat → List Char → Option (List Char)
  | 0, _ => none
  | steps + 1, cs =>
      match skipSpace cs with
      | '"' :: rest =>
          match (skipString rest).map skipSpace with
          | some (':' :: rest) =>
              match (skipValue steps rest).map skipSpace with
              | some (',' :: rest) => skipMembers steps rest
              | some ('\x7d' :: rest) => some rest
              | _ => none
          | _ => none
      | _ => none
end

example : skipValue 8 "[1e999, \"\\ud800\"] ]".toList = some [' ', ']'] := by decide +kernel
example : skipValue 8 "[1,]".toList = none := by decide +kernel

end Stencil.Json
