import Mathlib.Data.List.TakeWhile
import Stencil.Proofs.Token.Segments
import Stencil.Report.Location

/-!
# Lines and places

A position is a line and a column, counted from the characters before it. A report goes back from them to
characters of the source, by the lines of the text. The way back ends where it began, whatever stands before
and behind the place.

1. `Report.OnLine`, `Report.exists_line`: the line of a place.
2. `Report.locate_malformed`, `Report.locate_undefined`: the places of errors.
-/

namespace Stencil

open Stencil.Text

namespace Report

/-! ## Lines -/

/-- A place of a source and the line that it is on: where the line begins, and its characters. -/
structure OnLine (source : List Char) (place start : Nat) (line : List Char) : Prop where
  bounds : ∃ front back, source = front ++ (line ++ back) ∧ front.length = start ∧
    (∀ c ∈ front.getLast?, c = '\n') ∧ ∀ c ∈ back.head?, c = '\n'
  unbroken : '\n' ∉ line
  reached : start ≤ place
  within : place ≤ start + line.length

theorem firstLine_break (rest : List Char) : firstLine ('\n' :: rest) = ([], some rest) := rfl

theorem firstLine_cons {c : Char} (h : c ≠ '\n') (rest : List Char) :
    firstLine (c :: rest) = (c :: (firstLine rest).1, (firstLine rest).2) := by
  have other : after? ['\n'] (c :: rest) = none := if_neg (Ne.symm h)
  rw [firstLine, cutAt_cons, other, firstLine]
  cases cutAt ['\n'] rest <;> rfl

/-- A first line ends at a break, or with the text. -/
theorem firstLine_spec (cs : List Char) :
    '\n' ∉ (firstLine cs).1 ∧
      ∃ back, cs = (firstLine cs).1 ++ back ∧ ∀ c ∈ back.head?, c = '\n' := by
  induction cs with
  | nil => exact ⟨List.not_mem_nil, [], rfl, nofun⟩
  | cons c rest ih =>
      by_cases h : c = '\n'
      · subst h
        refine ⟨List.not_mem_nil, '\n' :: rest, rfl, ?_⟩
        rintro c ⟨⟩
        rfl
      · obtain ⟨unbroken, back, whole, ends⟩ := ih
        rw [firstLine_cons h]
        refine ⟨?_, back, congrArg (c :: ·) whole, ends⟩
        rw [List.mem_cons, not_or]
        exact ⟨Ne.symm h, unbroken⟩

theorem lineFrom_break (offset : Nat) (rest : List Char) (skip : Nat) :
    lineFrom offset ('\n' :: rest) (skip + 1) = lineFrom (offset + 1) rest skip := by
  rw [lineFrom, firstLine_break]
  rfl

theorem lineFrom_cons {c : Char} (h : c ≠ '\n') (offset : Nat) (rest : List Char) (skip : Nat) :
    lineFrom offset (c :: rest) (skip + 1) = lineFrom (offset + 1) rest (skip + 1) := by
  rw [lineFrom, lineFrom, firstLine_cons h]
  rcases firstLine rest with ⟨line, more⟩
  cases more with
  | none => rfl
  | some more =>
      have length : offset + (c :: line).length + 1 = offset + 1 + line.length + 1 := by
        rw [List.length_cons]
        omega
      exact congrArg (lineFrom · more skip) length

/-- As many lines are skipped as there are breaks. -/
theorem lineFrom_append (offset : Nat) (front rest : List Char) :
    lineFrom offset (front ++ '\n' :: rest) (front.count '\n' + 1) =
      lineFrom (offset + front.length + 1) rest 0 := by
  induction front generalizing offset with
  | nil => exact lineFrom_break offset rest 0
  | cons c front ih =>
      have length : offset + (c :: front).length + 1 = offset + 1 + front.length + 1 := by
        rw [List.length_cons]
        omega
      rw [List.cons_append, length]
      by_cases h : c = '\n'
      · rw [h, List.count_cons_self, lineFrom_break, ih]
      · rw [List.count_cons_of_ne h, lineFrom_cons h, ih]

theorem firstLine_append {tail : List Char} (unbroken : '\n' ∉ tail) (rest : List Char) :
    (firstLine (tail ++ rest)).1 = tail ++ (firstLine rest).1 := by
  induction tail with
  | nil => rfl
  | cons c tail ih =>
      rw [List.mem_cons, not_or] at unbroken
      rw [List.cons_append, firstLine_cons (Ne.symm unbroken.1), ih unbroken.2]
      rfl

/-- A text up to its last break, and what stands behind that. -/
theorem exists_tail (before : List Char) :
    ∃ front tail, before = front ++ tail ∧ '\n' ∉ tail ∧
      (Position.behind before).column = 1 + tail.length ∧
        (front = [] ∨ ∃ lines, front = lines ++ ['\n']) := by
  have whole := List.takeWhile_append_dropWhile (p := (· ≠ '\n')) (l := before.reverse)
  refine ⟨(before.reverse.dropWhile (· ≠ '\n')).reverse, (before.reverse.takeWhile (· ≠ '\n')).reverse,
    ?_, ?_, ?_, ?_⟩
  · rw [← List.reverse_append, whole, List.reverse_reverse]
  · intro mem
    simpa using List.mem_takeWhile_imp (List.mem_reverse.1 mem)
  · rw [Position.behind, List.length_reverse]
  · cases rest : before.reverse.dropWhile (· ≠ '\n') with
    | nil => exact .inl rfl
    | cons c lines =>
        have stops := List.head?_dropWhile_not (· ≠ '\n') before.reverse
        rw [rest] at stops
        have isBreak : c = '\n' := by simpa using stops
        exact .inr ⟨lines.reverse, by rw [List.reverse_cons, isBreak]⟩

/-- The line of a place is found again, and the place on it. -/
theorem exists_line (before rest : List Char) :
    ∃ start line, lineAt? (before ++ rest) (Position.behind before).line = some (start, line) ∧
      OnLine (before ++ rest) before.length start line ∧
        start + ((Position.behind before).column - 1) = before.length := by
  obtain ⟨front, tail, rfl, unbroken, column, ends⟩ := exists_tail before
  have skipped : lineFrom 0 (front ++ tail ++ rest) ((front ++ tail).count '\n') =
      lineFrom front.length (tail ++ rest) 0 := by
    rw [List.append_assoc, List.count_append, List.count_eq_zero.2 unbroken, Nat.add_zero]
    rcases ends with rfl | ⟨lines, rfl⟩
    · rfl
    · have skipped := lineFrom_append 0 lines (tail ++ rest)
      rw [Nat.zero_add] at skipped
      rw [List.append_assoc, List.singleton_append, List.count_append, List.count_singleton_self,
        skipped, List.length_append, List.length_singleton]
  obtain ⟨noBreak, back, whole, stops⟩ := firstLine_spec rest
  have length : (front ++ tail).length = front.length + tail.length := List.length_append
  refine ⟨front.length, tail ++ (firstLine rest).1, ?_, ⟨⟨front, back, ?_, rfl, ?_, stops⟩, ?_, ?_, ?_⟩,
    ?_⟩
  · have counted : 1 + (front ++ tail).count '\n' ≠ 0 := by omega
    rw [lineAt?, Position.behind, if_neg counted, Nat.add_sub_cancel_left, skipped, lineFrom,
      firstLine_append unbroken]
  · rw [List.append_assoc, List.append_assoc, ← whole]
  · rcases ends with rfl | ⟨lines, rfl⟩
    · rintro c ⟨⟩
    · intro c last
      rw [List.getLast?_concat] at last
      exact (Option.mem_some.1 last).symm
  · rw [List.mem_append, not_or]
    exact ⟨unbroken, noBreak⟩
  · omega
  · have longer : (tail ++ (firstLine rest).1).length = tail.length + (firstLine rest).1.length :=
      List.length_append
    omega
  · omega

/-! ## Places of errors -/

/-- An error at the place behind a text is located right behind that text. -/
theorem locate_malformed {source : String} {before rest : List Char}
    (split : source.toList = before ++ rest) {e : SyntaxError} (placed : e.position = .behind before) :
    locate? source (.malformed e) = some (⟨before.length, before.length + 1⟩, e.message) := by
  obtain ⟨start, line, found, on, column⟩ := exists_line before rest
  have inside := on.within
  have place : start + min ((Position.behind before).column - 1) line.length = before.length := by
    omega
  rw [locate?, placed, split, found]
  simp only [Option.map_some, place]

/-- What is marked for a name on a line: all of the line, or the name where it stands on it. -/
inductive Marks (start : Nat) (line name : List Char) : Span → Prop
  | line : Marks start line name ⟨start, start + line.length⟩
  | name {before after : List Char} : line = before ++ name ++ after →
      Marks start line name ⟨start + before.length, start + before.length + name.length⟩

theorem marks_nameSpan (start : Nat) (line name : List Char) :
    Marks start line name (nameSpan start line name) := by
  rw [nameSpan]
  split
  · next found => exact .name (cutAt_sound found).symm
  · exact .line

theorem locate_undefined {source : String} {before rest : List Char}
    (split : source.toList = before ++ rest) (name template : String) :
    ∃ start line span, OnLine source.toList before.length start line ∧
      Marks start line (rootOf name) span ∧
      locate? source (.undefinedVariable name template (Position.behind before).line) =
        some (span, "\"" ++ name ++ "\" is not defined") := by
  obtain ⟨start, line, found, on, -⟩ := exists_line before rest
  refine ⟨start, line, _, split ▸ on, marks_nameSpan _ _ _, ?_⟩
  rw [locate?, split, found]
  rfl

end Report

end Stencil
