import Stencil.Moment.Pattern

/-!
# Formatting moments

In a format every letter with a meaning stands for a field of the moment. A backslash takes the
meaning from the character after it, and all other characters stand for themselves. A moment is
written in the pattern that a format is translated to.
-/

namespace Stencil.Moment

/-- The pattern of a character that has a meaning in formats. For a percent sign it is the one that
stands for the sign itself. -/
def meaning? : Char → Option (List Char)
  | 'd' => some ['%', 'd']
  | 'j' => some ['%', '-', 'd']
  | 'D' => some ['%', 'a']
  | 'l' => some ['%', 'A']
  | 'N' => some ['%', 'u']
  | 'w' => some ['%', 'w']
  | 'm' => some ['%', 'm']
  | 'n' => some ['%', '-', 'm']
  | 'M' => some ['%', 'b']
  | 'F' => some ['%', 'B']
  | 'Y' => some ['%', 'Y']
  | 'y' => some ['%', 'y']
  | 'H' => some ['%', 'H']
  | 'G' => some ['%', '-', 'H']
  | 'h' => some ['%', 'I']
  | 'g' => some ['%', '-', 'I']
  | 'i' => some ['%', 'M']
  | 's' => some ['%', 'S']
  | 'A' => some ['%', 'p']
  | 'a' => some ['%', 'P']
  | 'U' => some ['%', 's']
  | 'O' => some ['%', 'z']
  | 'P' => some ['%', ':', 'z']
  | 'c' => some ['%', 'Y', '-', '%', 'm', '-', '%', 'd', 'T', '%', 'H', ':', '%', 'M', ':', '%', 'S',
      '%', ':', 'z']
  | '%' => some ['%', '%']
  | _ => none

/-- The pattern of a character without a backslash in front. -/
def patternOfChar (c : Char) : List Char := (meaning? c).getD [c]

/-- The pattern of a character behind a backslash. -/
def patternOfEscaped (c : Char) : List Char := if c = '%' then ['%', '%'] else [c]

/-- The pattern of a format. A backslash at the end stands for nothing. -/
def pattern : List Char → List Char
  | [] => []
  | '\\' :: [] => []
  | '\\' :: c :: rest => patternOfEscaped c ++ pattern rest
  | c :: rest => patternOfChar c ++ pattern rest

/-- The moment in a format, if all of the pattern of the format means something. -/
def format? (m : Moment) (cs : List Char) : Option (List Char) := m.write? (pattern cs)

example : (Moment.mk 1700000000 false).format? "D, j M y".toList = some "Tue, 14 Nov 23".toList := by
  decide +kernel
example : (Moment.mk 1700000000 false).format? "\\Y=Y 100%".toList = some "Y=2023 100%".toList := by
  decide +kernel

end Stencil.Moment
