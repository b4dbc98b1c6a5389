import Stencil.Decimal.Layout
import Stencil.Report.Location
import Stencil.Text.Blank
import Stencil.Text.Width

/-!
# Excerpts

The lines of a source that a span covers, numbered and in a frame, with a label at the span. A span
on one line is underlined, one on several lines has a bar at the side.

* `pieces_flatten`: the lines of a source are the source.
-/

namespace Stencil.Report

open Stencil.Decimal
open Stencil.Text

/-! ## Lines -/

/-- A character that ends a line. -/
def isBreak (c : Char) : Bool :=
  c == '\n' || c == '\r' || c == '\x0b' || c == '\x0c' || c == '\u0085' || c == '\u2028' ||
    c == '\u2029'

/-- The lines of a text with their breaks, after `seen` in reverse. -/
def piecesFrom (seen : List Char) : List Char → List (List Char)
  | [] => if seen.isEmpty then [] else [seen.reverse]
  | '\r' :: '\n' :: rest => ('\n' :: '\r' :: seen).reverse :: piecesFrom [] rest
  | c :: rest =>
      if isBreak c then (c :: seen).reverse :: piecesFrom [] rest else piecesFrom (c :: seen) rest

/-- A line of a source: its number from zero, where it begins, and its text with the break. -/
structure SourceLine where
  index : Nat
  offset : Nat
  text : List Char

/-- Where the line ends, with its break. -/
def SourceLine.stop (l : SourceLine) : Nat := l.offset + l.text.length

/-- Numbers the lines. -/
def numbered (index offset : Nat) : List (List Char) → List SourceLine
  | [] => []
  | text :: rest => ⟨index, offset, text⟩ :: numbered (index + 1) (offset + text.length) rest

/-- The lines of a source. -/
def sourceLines (cs : List Char) : List SourceLine := numbered 0 0 (piecesFrom [] cs)

/-- The line of an offset: the last one that does not begin behind it. -/
def lineOf? (lines : List SourceLine) (offset : Nat) : Option SourceLine :=
  (lines.takeWhile fun l => l.offset ≤ offset).getLast?

/-! ## Rows -/

/-- The number of columns between tab stops. -/
def tabWidth : Nat := 4

/-- The cells of a character in a column. -/
def cellsAt (column : Nat) (c : Char) : Nat :=
  if c = '\t' then tabWidth - column % tabWidth else if isBlank c then 1 else cells c

/-- The line without the blanks at its end. -/
def SourceLine.shown (l : SourceLine) : List Char := dropBlanksEnd l.text

/-- The line as it is printed, every blank as spaces. -/
def printed (l : SourceLine) : List Char :=
  l.shown.zipIdx.flatMap fun (c, column) =>
    if isBlank c then List.replicate (cellsAt column c) ' ' else [c]

/-- A row under the line: for every column a mark and what fills the other cells of the column. -/
def rowUnder (l : SourceLine) (columns : Nat) (mark : Nat → Char × Char) : List Char :=
  let shown := l.shown.toArray
  (List.range columns).flatMap fun column =>
    match (shown[column]?.map (cellsAt column)).getD 1 with
    | 0 => []
    | width + 1 => (mark column).1 :: List.replicate width (mark column).2

/-- The columns that a pointer reaches beyond what it points at. -/
def pointerEnd : Nat := 2

/-- The mark of a column under a span with the label in column `middle`. -/
def underlineMark (first stop middle column : Nat) : Char × Char :=
  let inside := first ≤ column && column < stop
  if column = middle then (if inside then ('┬', '─') else ('│', ' '))
  else if inside then ('─', '─')
  else (' ', ' ')

/-- The mark of a column beside the pointer to the label in column `middle`. -/
def pointerMark (middle column : Nat) : Char × Char :=
  if column = middle then ('╰', '─') else if middle < column then ('─', '─') else (' ', ' ')

/-- The mark of a row that is all line. -/
def lineMark (_ : Nat) : Char × Char := ('─', '─')

/-- The mark of an empty row. -/
def blankMark (_ : Nat) : Char × Char := (' ', ' ')

/-! ## The frame -/

/-- Spaces. -/
def spaces (n : Nat) : List Char := List.replicate n ' '

/-- The number of a line and the bar behind it. -/
def numberMargin (width : Nat) (l : SourceLine) : List Char :=
  let digits := decimalDigits (l.index + 1)
  ' ' :: (spaces (width - digits.length) ++ digits ++ [' ', '│', ' '])

/-- The bar of a row without a number. -/
def margin (width : Nat) (bar : Char) : List Char := spaces (width + 2) ++ [bar, ' ']

/-- The rows of a span on one line. A span that reaches beyond the text is not shown. -/
def inlineRows (width : Nat) (l : SourceLine) (span : Span) (label : String) : List (List Char) :=
  if l.stop < span.stop then [margin width '│']
  else
    let first := span.start - l.offset
    let stop := span.stop - l.offset
    let middle := (span.start + span.stop) / 2 - l.offset
    [numberMargin width l ++ printed l,
      margin width '│' ++ rowUnder l (stop + pointerEnd) (underlineMark first stop middle),
      margin width '│' ++ rowUnder l (stop + pointerEnd) (pointerMark middle) ++
        ' ' :: label.toList]

/-- The rows of a span from one line to another. What lies between them is left out. -/
def blockRows (width : Nat) (first last : SourceLine) (label : String) : List (List Char) :=
  let columns := last.text.length + pointerEnd
  [numberMargin width first ++ ['╭', '─', '▶', ' '] ++ printed first] ++
    (if first.index + 1 < last.index then [margin width '┆' ++ ['┆', ' ', ' ', ' ']] else []) ++
    [numberMargin width last ++ ['├', '─', '▶', ' '] ++ printed last,
      margin width '│' ++ ['│', ' ', ' ', ' '] ++ rowUnder last columns blankMark,
      margin width '│' ++ ['╰', '─', '─', '─'] ++ rowUnder last columns lineMark ++
        ' ' :: label.toList]

/-- The rows of an excerpt with their frame. A source without lines has none. -/
def excerptRows (name : String) (source : List Char) (span : Span) (label : String) :
    List (List Char) :=
  let lines := sourceLines source
  match lineOf? lines span.start, lineOf? lines (max (span.stop - 1) span.start) with
  | some first, some last =>
      let width := (decimalDigits (last.index + 1)).length
      let place := name ++ ":" ++ toString (first.index + 1) ++ ":" ++
        toString (span.start - first.offset + 1)
      [spaces (width + 2) ++ ['╭', '─', '['] ++ place.toList ++ [']'],
        spaces (width + 2) ++ ['│']] ++
        (if first.index = last.index then inlineRows width first span label
        else blockRows width first last label) ++
        [List.replicate (width + 2) '─' ++ ['╯']]
  | _, _ => []

theorem piecesFrom_flatten (seen cs : List Char) :
    (piecesFrom seen cs).flatten = seen.reverse ++ cs := by
  fun_induction piecesFrom seen cs with
  | case1 seen h =>
      have : seen = [] := by simpa using h
      simp [this]
  | case2 seen h => simp
  | case3 seen rest ih => simp [ih]
  | case4 seen c rest _ h ih => simp [ih]
  | case5 seen c rest _ h ih => simp [ih]

theorem pieces_flatten (cs : List Char) : (piecesFrom [] cs).flatten = cs := by
  simp [piecesFrom_flatten]

end Stencil.Report
