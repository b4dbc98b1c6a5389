import Stencil.Filter.Basic
import Stencil.Text.Blank
import Stencil.Text.Case
import Stencil.Text.Find

/-!
# Filters for texts

Case, replacement, and the two ways of dealing with markup in a text.
-/

namespace Stencil.Filter

open Stencil.Text

/-! ## Case -/

/-- The first character in upper case and all others in lower case. -/
def capitalize (s : String) : String :=
  match (lower s).toList with
  | [] => ""
  | c :: rest => String.ofList (upperChar c ++ rest)

/-- Upper case for every character that stands after a blank. -/
def titled (afterBlank : Bool) : List Char → List Char
  | [] => []
  | c :: rest =>
      (if afterBlank && !isBlank c then upperChar c else [c]) ++ titled (isBlank c) rest

/-- Every word with its first character in upper case and all others in lower case. -/
def title (s : String) : String := String.ofList (titled true (lower s).toList)

/-! ## Replacement -/

/-- Neighbours in pairs. One that is left over has no pair. -/
def pairs : List Value → List (String × String)
  | a :: b :: rest => (a.render, b.render) :: pairs rest
  | _ => []

/-- What is replaced by what: the entries of a single map, or the arguments in pairs. -/
def replacements : List Value → List (String × String)
  | [.map entries] => entries.map fun entry => (entry.1, entry.2.render)
  | args => pairs args

/-- Makes the replacements one after the other, but not those of the empty text. -/
def replace : Filter := fun v args =>
  let changes := replacements args
  if changes.isEmpty then v
  else
    .string (changes.foldl (fun s change =>
      if change.1.isEmpty then s else replaceAll s change.1 change.2) v.render)

/-! ## Markup -/

/-- Puts a break in front of every end of a line. -/
def breaks : List Char → List Char
  | '\r' :: '\n' :: rest => ['<', 'b', 'r', ' ', '/', '>', '\r', '\n'] ++ breaks rest
  | c :: rest =>
      (if c = '\r' || c = '\n' then ['<', 'b', 'r', ' ', '/', '>', c] else [c]) ++ breaks rest
  | [] => []

/-- The text with a break in front of every end of a line. -/
def withBreaks (s : String) : String := String.ofList (breaks s.toList)

/-- Where a character stands: in the text, or in a tag and there perhaps inside a quotation mark. -/
inductive Region where
  | text
  | tag
  | quotation (mark : Char)
deriving DecidableEq, Repr

/-- The region after a character of a tag. -/
def Region.step (c : Char) : Region → Region
  | text => text
  | tag => if c = '"' || c = '\'' then quotation c else if c = '>' then text else tag
  | quotation mark => if c = mark then tag else quotation mark

/-- The characters outside of tags. A tag begins with a `<` before a character that is no blank. -/
def outsideTags : Region → List Char → List Char
  | _, [] => []
  | .text, c :: rest =>
      if c = '<' && rest.head?.any fun next => !isBlank next then outsideTags .tag rest
      else c :: outsideTags .text rest
  | region, c :: rest => outsideTags (region.step c) rest

/-- The text without its tags. -/
def stripTags (s : String) : String := String.ofList (outsideTags .text s.toList)

example : stripTags "<p class=\"x>y\">Hi <b>there</b></p><!-- c -->" = "Hi there" := by
  decide +kernel
example : stripTags "1 < 2 and 3 > 2" = "1 < 2 and 3 > 2" := by decide +kernel
example : withBreaks "a\nb\r\nc" = "a<br />\nb<br />\r\nc" := by decide +kernel

end Stencil.Filter
