import Stencil.Filter.Core

/-!
# Dates in formats

A format is translated to a pattern, in which a percent sign has to stand in front of a mark or of a
second percent sign. The translation puts none anywhere else, whatever characters are escaped and
whatever letters stand beside each other. So every moment is written in every format, and a format
is written as its parts are, one after the other.

1. `Part.text`, `parts?_eq_some_iff`: the patterns that are read are the rows of parts.
2. `pattern_append`, `exists_parts_pattern`: a format is translated to such a row, part by part.
3. `Piecewise`: any way to write rows of parts.
4. `Filter.date_by_parts`: values that are dates in formats.
-/

namespace Stencil

namespace Moment

/-! ## Rows of parts -/

/-- The mark of a field behind a percent sign. -/
def Field.mark : Field → List Char
  | day true => ['d']
  | day false => ['-', 'd']
  | weekdayName true => ['a']
  | weekdayName false => ['A']
  | weekday true => ['u']
  | weekday false => ['w']
  | month true => ['m']
  | month false => ['-', 'm']
  | monthName true => ['b']
  | monthName false => ['B']
  | year => ['Y']
  | yearOfCentury => ['y']
  | hour true => ['H']
  | hour false => ['-', 'H']
  | halfDayHour true => ['I']
  | halfDayHour false => ['-', 'I']
  | minute => ['M']
  | second => ['S']
  | half true => ['p']
  | half false => ['P']
  | timestamp => ['s']
  | offset true => [':', 'z']
  | offset false => ['z']

/-- The text of a part in a pattern. -/
def Part.text : Part → List Char
  | field f => '%' :: f.mark
  | literal c => if c = '%' then ['%', '%'] else [c]

theorem Field.mark_of_ofMark? {c : Char} {f : Field} (h : ofMark? c = some f) : f.mark = [c] := by
  unfold ofMark? at h
  split at h <;> cases h <;> rfl

theorem Field.mark_of_ofUnpadded? {c : Char} {f : Field} (h : ofUnpadded? c = some f) :
    f.mark = ['-', c] := by
  unfold ofUnpadded? at h
  split at h <;> cases h <;> rfl

theorem parts?_plain {c : Char} (plain : c ≠ '%') (rest : List Char) :
    parts? (c :: rest) = (parts? rest).map (.literal c :: ·) := by
  rw [parts?, if_neg plain]
  all_goals
    intros
    exact absurd ‹c = '%'› plain

/-- A part is read as that part, whatever stands behind it. -/
theorem parts?_text (part : Part) (rest : List Char) :
    parts? (part.text ++ rest) = (parts? rest).map (part :: ·) := by
  cases part with
  | field f => cases f <;> first | rfl | (rename_i form; cases form <;> rfl)
  | literal c =>
      by_cases percent : c = '%'
      · rw [percent]
        rfl
      · rw [Part.text, if_neg percent]
        exact parts?_plain percent rest

theorem parts?_texts (parts : List Part) : parts? (parts.flatMap Part.text) = some parts := by
  induction parts with
  | nil => rfl
  | cons part more ih => rw [List.flatMap_cons, parts?_text, ih, Option.map_some]

theorem eq_texts_of_parts? {cs : List Char} {parts : List Part} (h : parts? cs = some parts) :
    cs = parts.flatMap Part.text := by
  fun_induction parts? cs generalizing parts with
  | case1 =>
      cases h
      rfl
  | case2 rest ih =>
      obtain ⟨more, read, rfl⟩ := Option.map_eq_some_iff.1 h
      rw [ih read]
      rfl
  | case3 c rest ih =>
      obtain ⟨f, mark, further⟩ := Option.bind_eq_some_iff.1 h
      obtain ⟨more, read, rfl⟩ := Option.map_eq_some_iff.1 further
      rw [ih read, List.flatMap_cons, Part.text, Field.mark_of_ofUnpadded? mark]
      rfl
  | case4 rest ih =>
      obtain ⟨more, read, rfl⟩ := Option.map_eq_some_iff.1 h
      rw [ih read]
      rfl
  | case5 c rest _ _ _ ih =>
      obtain ⟨f, mark, further⟩ := Option.bind_eq_some_iff.1 h
      obtain ⟨more, read, rfl⟩ := Option.map_eq_some_iff.1 further
      rw [ih read, List.flatMap_cons, Part.text, Field.mark_of_ofMark? mark]
      rfl
  | case6 rest => cases h
  | case7 c rest _ _ _ _ plain ih =>
      obtain ⟨more, read, rfl⟩ := Option.map_eq_some_iff.1 h
      rw [ih read, List.flatMap_cons, Part.text, if_neg plain]
      rfl

/-- The patterns that are read are the rows of parts. -/
theorem parts?_eq_some_iff {cs : List Char} {parts : List Part} :
    parts? cs = some parts ↔ cs = parts.flatMap Part.text :=
  ⟨eq_texts_of_parts?, fun row => row ▸ parts?_texts parts⟩

/-! ## Formats -/

theorem exists_parts_meaning {c : Char} {cs : List Char} (h : meaning? c = some cs) :
    ∃ parts, parts? cs = some parts := by
  unfold meaning? at h
  split at h <;> cases h <;> exact ⟨_, rfl⟩

theorem exists_parts_char (c : Char) :
    ∃ parts : List Part, patternOfChar c = parts.flatMap Part.text := by
  rw [patternOfChar]
  cases found : meaning? c with
  | some cs =>
      obtain ⟨parts, read⟩ := exists_parts_meaning found
      exact ⟨parts, eq_texts_of_parts? read⟩
  | none =>
      have plain : c ≠ '%' := by
        rintro rfl
        cases found
      refine ⟨[.literal c], ?_⟩
      rw [List.flatMap_singleton, Part.text, if_neg plain]
      rfl

theorem text_literal (c : Char) : (Part.literal c).text = patternOfEscaped c := rfl

theorem exists_parts_pattern (cs : List Char) :
    ∃ parts : List Part, pattern cs = parts.flatMap Part.text := by
  fun_induction pattern cs with
  | case1 => exact ⟨[], rfl⟩
  | case2 => exact ⟨[], rfl⟩
  | case3 c rest ih =>
      obtain ⟨more, row⟩ := ih
      exact ⟨.literal c :: more, by rw [row, List.flatMap_cons, text_literal]⟩
  | case4 c rest _ _ ih =>
      obtain ⟨more, row⟩ := ih
      obtain ⟨parts, front⟩ := exists_parts_char c
      exact ⟨parts ++ more, by rw [row, front, List.flatMap_append]⟩

theorem pattern_of_ne {c : Char} (plain : c ≠ '\\') (rest : List Char) :
    pattern (c :: rest) = patternOfChar c ++ pattern rest := by
  rw [pattern]
  all_goals
    intros
    exact absurd ‹c = '\\'› plain

/-- Whether the text ends in a backslash that has no character after it. -/
def endsOpen : List Char → Bool
  | [] => false
  | '\\' :: [] => true
  | '\\' :: _ :: rest => endsOpen rest
  | _ :: rest => endsOpen rest

/-- A format that does not end in a lone backslash is translated on its own. -/
theorem pattern_append {f : List Char} (closed : endsOpen f = false) (g : List Char) :
    pattern (f ++ g) = pattern f ++ pattern g := by
  fun_induction endsOpen f with
  | case1 => rfl
  | case2 => cases closed
  | case3 c rest ih =>
      show patternOfEscaped c ++ pattern (rest ++ g) =
        patternOfEscaped c ++ pattern rest ++ pattern g
      rw [ih closed, List.append_assoc]
  | case4 c rest notLast notEscaping ih =>
      have plain : c ≠ '\\' := by
        rintro rfl
        cases rest with
        | nil => exact notLast rfl rfl
        | cons d more => exact notEscaping d more rfl rfl
      rw [List.cons_append, pattern_of_ne plain, pattern_of_ne plain, ih closed, List.append_assoc]

-- A backslash at the end takes the first character of what is put behind it.
example : pattern ['\\'] ++ pattern ['Y'] = ['%', 'Y'] ∧ pattern ['\\', 'Y'] = ['Y'] := by decide

/-! ## Writing -/

/-- A way to write patterns by which rows of parts are written part by part: fields as their texts,
two percent signs as one, and other characters as themselves. It need not write other patterns. -/
structure Piecewise (text : Field → List Char) (write : List Char → Option (List Char)) : Prop where
  nil : write [] = some []
  field : ∀ f rest, write ('%' :: (f.mark ++ rest)) = (write rest).map (text f ++ ·)
  percent : ∀ rest, write ('%' :: '%' :: rest) = (write rest).map ('%' :: ·)
  plain : ∀ c rest, c ≠ '%' → write (c :: rest) = (write rest).map (c :: ·)

theorem write?_text (m : Moment) (part : Part) (rest : List Char) :
    m.write? (part.text ++ rest) = (m.write? rest).map (m.writePart part ++ ·) := by
  rw [write?, parts?_text, write?, Option.map_map, Option.map_map]
  rfl

theorem piecewise_write? (m : Moment) : Piecewise m.writeField m.write? where
  nil := rfl
  field f rest := m.write?_text (.field f) rest
  percent rest := m.write?_text (.literal '%') rest
  plain c rest plain := by
    have written := m.write?_text (.literal c) rest
    rwa [Part.text, if_neg plain] at written

theorem Piecewise.write_text {m : Moment} {write : List Char → Option (List Char)}
    (h : Piecewise m.writeField write) (part : Part) (rest : List Char) :
    write (part.text ++ rest) = (write rest).map (m.writePart part ++ ·) := by
  cases part with
  | field f => exact h.field f rest
  | literal c =>
      by_cases percent : c = '%'
      · rw [percent]
        exact h.percent rest
      · rw [Part.text, if_neg percent]
        exact h.plain c rest percent

theorem Piecewise.write_texts {m : Moment} {write : List Char → Option (List Char)}
    (h : Piecewise m.writeField write) (parts : List Part) :
    write (parts.flatMap Part.text) = some (parts.flatMap m.writePart) := by
  induction parts with
  | nil => exact h.nil
  | cons part more ih =>
      rw [List.flatMap_cons, h.write_text, ih, Option.map_some, List.flatMap_cons]

end Moment

namespace Filter

open Moment

variable {v : Value} {m : Moment}

/-- The format that arguments ask for. -/
def formatOf (args : List Value) : List Char :=
  ((args.head?.map Value.render).getD dateFormat).toList

theorem date_of_pattern (named : moment? v = some m) {args : List Value} {parts : List Part}
    (row : pattern (formatOf args) = parts.flatMap Part.text) :
    date v args = .string (String.ofList (parts.flatMap m.writePart)) := by
  have written :
      ((moment? v).bind fun m => m.format? (formatOf args)) = some (parts.flatMap m.writePart) := by
    rw [named, Option.bind_some, format?, row, m.piecewise_write?.write_texts]
  exact congrArg
    (fun text => (text.map fun cs => Value.string (String.ofList cs)).getD .null) written

/-- Only what is no date has no text, whatever the format is. -/
theorem date_eq_null_iff (v : Value) (args : List Value) :
    date v args = .null ↔ moment? v = none := by
  cases named : moment? v with
  | none =>
      refine iff_of_true ?_ rfl
      rw [date, named]
      rfl
  | some m =>
      obtain ⟨parts, row⟩ := exists_parts_pattern (formatOf args)
      rw [date_of_pattern named row]
      exact iff_of_false nofun nofun

/-- A value that is a date is written in every format. Two formats one after the other are written
one after the other, unless the first one ends in a backslash that would take the first character of
the second one. A backslash in front of any character writes that character. The pattern of a format
is a row of fields, pairs of percent signs and other characters, so that it is written in any way
that writes such rows part by part. -/
theorem date_by_parts (named : moment? v = some m) (more : List Value) :
    (∀ f g, endsOpen f.toList = false →
      ∃ a b, date v (.string f :: more) = .string a ∧ date v (.string g :: more) = .string b ∧
        date v (.string (f ++ g) :: more) = .string (a ++ b)) ∧
    (∀ c, date v (.string (String.ofList ['\\', c]) :: more) = .string (String.singleton c)) ∧
    ∀ f, ∃ (parts : List Part) (text : String), pattern f.toList = parts.flatMap Part.text ∧
      date v (.string f :: more) = .string text ∧
        ∀ write, Piecewise m.writeField write → write (pattern f.toList) = some text.toList := by
  refine ⟨fun f g closed => ?_, fun c => ?_, fun f => ?_⟩
  · obtain ⟨front, rowF⟩ := exists_parts_pattern f.toList
    obtain ⟨back, rowG⟩ := exists_parts_pattern g.toList
    have row :
        pattern (formatOf (.string (f ++ g) :: more)) = (front ++ back).flatMap Part.text := by
      show pattern (f ++ g).toList = _
      rw [String.toList_append, pattern_append closed, rowF, rowG, List.flatMap_append]
    refine ⟨_, _, date_of_pattern named rowF, date_of_pattern named rowG, ?_⟩
    rw [date_of_pattern named row, List.flatMap_append, String.ofList_append]
  · have row : pattern (formatOf (.string (String.ofList ['\\', c]) :: more)) =
        [Part.literal c].flatMap Part.text := by
      show pattern (String.ofList ['\\', c]).toList = _
      rw [String.toList_ofList]
      rfl
    exact date_of_pattern named row
  · obtain ⟨parts, row⟩ := exists_parts_pattern f.toList
    refine ⟨parts, _, row, date_of_pattern named row, fun write piecewise => ?_⟩
    rw [row, piecewise.write_texts, String.toList_ofList]

theorem date_by_parts_escaped :
    let v := Value.int 1700000000
    let m := Moment.mk 1700000000 false
    moment? v = some m ∧ endsOpen "\\Y=".toList = false ∧ Piecewise m.writeField m.write? ∧
      date v [.string "\\Y="] = .string "Y=" ∧ date v [.string "Y 100%"] = .string "2023 100%" ∧
        date v [.string "\\Y=Y 100%"] = .string "Y=2023 100%" ∧
          m.write? (pattern "\\Y=Y 100%".toList) = some "Y=2023 100%".toList := by
  intro v m
  have named : moment? v = some m := by decide +kernel
  have closed : endsOpen "\\Y=".toList = false := by decide +kernel
  obtain ⟨append, -, read⟩ := date_by_parts named []
  obtain ⟨a, b, first, second, whole⟩ := append "\\Y=" "Y 100%" closed
  obtain ⟨parts, text, -, same, writes⟩ := read "\\Y=Y 100%"
  have isFirst : date v [.string "\\Y="] = .string "Y=" := rfl
  have isSecond : date v [.string "Y 100%"] = .string "2023 100%" := rfl
  obtain rfl : a = "Y=" := Value.string.inj (first.symm.trans isFirst)
  obtain rfl : b = "2023 100%" := Value.string.inj (second.symm.trans isSecond)
  have joined : "\\Y=" ++ "Y 100%" = "\\Y=Y 100%" := rfl
  rw [joined] at whole
  obtain rfl : text = "Y=" ++ "2023 100%" := Value.string.inj (same.symm.trans whole)
  exact ⟨named, closed, m.piecewise_write?, isFirst, isSecond, whole, writes _ m.piecewise_write?⟩

end Filter

end Stencil
