import Stencil.Json.Writer
import Stencil.Table
import Stencil.Text.Bytes
import Stencil.Text.Quoted

/-!
# Escaping

Named ways of making a text harmless where it is put: in markup, in scripts, in style sheets, in
addresses. All but that for scripts are maps of single characters. A text in a script is written as a
string of JSON, and what is written is gone over once more.
-/

namespace Stencil

open Stencil.Text

namespace Escape

/-- Markup: the five characters with a meaning become entities. -/
def markupChar (c : Char) : List Char :=
  match c with
  | '&' => ['&', 'a', 'm', 'p', ';']
  | '<' => ['&', 'l', 't', ';']
  | '>' => ['&', 'g', 't', ';']
  | '"' => ['&', 'q', 'u', 'o', 't', ';']
  | '\'' => ['&', '#', '0', '3', '9', ';']
  | _ => [c]

/-- Scripts: the characters of markup become escapes of a string literal. -/
def scriptChar (c : Char) : List Char :=
  match c with
  | '<' => ['\\', 'u', '0', '0', '3', 'C']
  | '>' => ['\\', 'u', '0', '0', '3', 'E']
  | '&' => ['\\', 'u', '0', '0', '2', '6']
  | '\'' => ['\\', 'u', '0', '0', '2', '7']
  | _ => [c]

/-- Scripts: the inside of a string literal, without quotes and the characters of markup. A backslash and
the character behind it stay together, and only that of a quote becomes another escape. -/
def scriptBody : List Char → List Char
  | '\\' :: '"' :: rest => ['\\', 'u', '0', '0', '2', '2'] ++ scriptBody rest
  | '\\' :: c :: rest => '\\' :: c :: scriptBody rest
  | c :: rest => scriptChar c ++ scriptBody rest
  | [] => []

/-- Style sheets: a backslash in front of all but letters, digits, hyphens and underscores. -/
def styleChar (c : Char) : List Char :=
  if isAsciiLetter c || isDigit c || c == '-' || c == '_' then [c] else ['\\', c]

/-- The text made harmless in markup. -/
def markup (s : String) : String := String.ofList (s.toList.flatMap markupChar)

/-- The text as a string literal of a script. -/
def script (s : String) : String :=
  String.ofList ('"' :: (scriptBody (Json.stringBody s.toList) ++ ['"']))

/-- The text made harmless in a style sheet. -/
def style (s : String) : String := String.ofList (s.toList.flatMap styleChar)

end Escape

/-- The strategies by name, and the name of the one for ordinary output. -/
structure Escaper where
  defaultStrategy : String
  strategies : Table (String → String)

namespace Escaper

/-- The strategies for markup, attributes, scripts, style sheets and addresses. -/
def standard : Escaper :=
  ⟨"html", [("html", Escape.markup), ("attr", Escape.markup), ("js", Escape.script),
    ("css", Escape.style), ("url", percentEncode)]⟩

/-- The text under a strategy, if there is one of that name. -/
def escape? (e : Escaper) (value strategy : String) : Option String :=
  (e.strategies.get? strategy).map fun escape => escape value

/-- Enters a strategy. -/
def add (e : Escaper) (name : String) (escape : String → String) : Escaper :=
  { e with strategies := e.strategies.set name escape }

/-- The escaper with another default. -/
def withDefault (e : Escaper) (name : String) : Escaper := { e with defaultStrategy := name }

/-- The names of the strategies, sorted. -/
def names (e : Escaper) : List String := e.strategies.sortedKeys

/-- A list of quoted names. -/
def quotedNames (names : List String) : String :=
  "[" ++ ", ".intercalate (names.map quoted) ++ "]"

/-- The escaper for people to read. -/
def describe (e : Escaper) : String :=
  "Escaper \x7b default_strategy: " ++ quoted e.defaultStrategy ++ ", strategies: " ++
    quotedNames e.names ++ " \x7d"

end Escaper

example : Escape.markup "<a href='x'>" = "&lt;a href=&#039;x&#039;&gt;" := by decide +kernel
example : Escape.script "a\"b\\</" = "\"a\\u0022b\\\\\\u003C/\"" := by decide +kernel
example : Escape.style "a-b c" = "a-b\\ c" := by decide +kernel

end Stencil
