import Stencil.Text.Letter

/-!
# Text as bytes

The UTF-8 bytes of a text and two spellings of them in ASCII: percent-encoding and Base64.
-/

namespace Stencil.Text

/-- The UTF-8 bytes of the text. -/
def utf8 (s : String) : List UInt8 := s.toList.flatMap String.utf8EncodeChar

/-- The upper-case hexadecimal digit of a number below sixteen. -/
def upperHexDigit (n : Nat) : Char :=
  if n < 10 then Char.ofNat (48 + n) else Char.ofNat (55 + n)

/-- The lower-case hexadecimal digit of a number below sixteen. -/
def lowerHexDigit (n : Nat) : Char :=
  if n < 10 then Char.ofNat (48 + n) else Char.ofNat (87 + n)

/-- A percent sign and the two digits of the byte. -/
def percentByte (b : UInt8) : List Char :=
  ['%', upperHexDigit (b.toNat / 16), upperHexDigit (b.toNat % 16)]

/-- A letter, a digit or one of `-`, `_`, `.` and `~`. -/
def isUnreserved (c : Char) : Bool :=
  isAsciiLetter c || isDigit c || c == '-' || c == '_' || c == '.' || c == '~'

/-- Unreserved characters as they are, all others as percent-encoded bytes. -/
def percentChar (c : Char) : List Char :=
  if isUnreserved c then [c] else (String.utf8EncodeChar c).flatMap percentByte

/-- The text with all but unreserved characters percent-encoded. -/
def percentEncode (s : String) : String := String.ofList (s.toList.flatMap percentChar)

/-- As `percentChar`, with a plus for a space and the tilde encoded. -/
def formChar (c : Char) : List Char :=
  if c = ' ' then ['+'] else if c = '~' then ['%', '7', 'E'] else percentChar c

/-- The text as a form sends it. -/
def formEncode (s : String) : String := String.ofList (s.toList.flatMap formChar)

/-- The Base64 digit of a number below 64. -/
def base64Digit (n : Nat) : Char :=
  if n < 26 then Char.ofNat (65 + n)
  else if n < 52 then Char.ofNat (71 + n)
  else if n < 62 then Char.ofNat (n - 4)
  else if n = 62 then '+'
  else '/'

/-- Three bytes to four digits, with `=` where bytes are missing. -/
def base64Digits : List UInt8 → List Char
  | [] => []
  | [a] =>
      let n := a.toNat * 65536
      [base64Digit (n / 262144), base64Digit (n / 4096 % 64), '=', '=']
  | [a, b] =>
      let n := a.toNat * 65536 + b.toNat * 256
      [base64Digit (n / 262144), base64Digit (n / 4096 % 64), base64Digit (n / 64 % 64), '=']
  | a :: b :: c :: rest =>
      let n := a.toNat * 65536 + b.toNat * 256 + c.toNat
      base64Digit (n / 262144) :: base64Digit (n / 4096 % 64) :: base64Digit (n / 64 % 64) ::
        base64Digit (n % 64) :: base64Digits rest

/-- The text's bytes in Base64. -/
def base64 (s : String) : String := String.ofList (base64Digits (utf8 s))

example : formEncode "a b&~é" = "a+b%26%7E%C3%A9" := by decide +kernel
example : base64 "a b&c~" = "YSBiJmN+" := by decide +kernel

end Stencil.Text
