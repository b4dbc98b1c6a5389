/-!
# Finding text in text

`after?` takes a text off the front of another one. `cutAt` splits a text around the first place
where another one stands, `cutAtLast` around the last.

* `after?_eq_some_iff`: exactly the texts that begin with it have a rest.
* `cutAt_sound`: the parts and the text between them are the whole.
* `cutAt_eq_none_iff`: a text that holds the other one is cut.
* `cutAt_append`, `firstBehind_of_cutAt`: it is cut where the other one stands first.
* `takeWhile_append_of_stop`, `dropWhile_append_of_stop`: it is cut where characters of a kind end.
-/

namespace Stencil.Text

/-- What follows `needle` in a text that begins with it. -/
def after? : List Char → List Char → Option (List Char)
  | [], text => some text
  | _ :: _, [] => none
  | n :: needle, c :: text => if n = c then after? needle text else none

theorem after?_eq_some_iff {needle text rest : List Char} :
    after? needle text = some rest ↔ text = needle ++ rest := by
  induction needle generalizing text with
  | nil => simp [after?]
  | cons n needle ih =>
      cases text with
      | nil => simp [after?]
      | cons c text =>
          by_cases h : n = c
          · simp [after?, h, ih]
          · simp [after?, h, Ne.symm h]

/-- What stands in front of `needle` in a text that ends with it. -/
def before? (needle text : List Char) : Option (List Char) :=
  (after? needle.reverse text.reverse).map List.reverse

/-- The text before (on top of `seen`, which is in reverse) and after the first `needle`. -/
def cutFrom (needle : List Char) (seen : List Char) : List Char → Option (List Char × List Char)
  | [] => if needle.isEmpty then some (seen.reverse, []) else none
  | c :: rest =>
      match after? needle (c :: rest) with
      | some after => some (seen.reverse, after)
      | none => cutFrom needle (c :: seen) rest

/-- The text before and after the first `needle`. -/
def cutAt (needle text : List Char) : Option (List Char × List Char) := cutFrom needle [] text

/-- The text before and after the last `needle`. -/
def cutAtLast (needle text : List Char) : Option (List Char × List Char) :=
  (cutAt needle.reverse text.reverse).map fun (after, before) => (before.reverse, after.reverse)

theorem cutFrom_sound {needle seen text before after : List Char}
    (h : cutFrom needle seen text = some (before, after)) :
    before ++ needle ++ after = seen.reverse ++ text := by
  induction text generalizing seen with
  | nil =>
      simp only [cutFrom] at h
      split at h <;> simp_all
  | cons c rest ih =>
      simp only [cutFrom] at h
      split at h
      · rename_i found
        have whole := after?_eq_some_iff.1 found
        simp only [Option.some.injEq, Prod.mk.injEq] at h
        obtain ⟨rfl, rfl⟩ := h
        simp [whole]
      · have := ih h
        simpa using this

theorem cutAt_sound {needle text before after : List Char}
    (h : cutAt needle text = some (before, after)) : before ++ needle ++ after = text := by
  simpa using cutFrom_sound h

/-- What is found in a text is found in it behind other characters that have been seen. -/
theorem cutFrom_eq (needle seen text : List Char) :
    cutFrom needle seen text = (cutAt needle text).map fun cut => (seen.reverse ++ cut.1, cut.2) := by
  rw [cutAt]
  induction text generalizing seen with
  | nil => by_cases h : needle.isEmpty <;> simp [cutFrom, h]
  | cons c rest ih =>
      rw [cutFrom, cutFrom]
      cases after? needle (c :: rest) with
      | some after => simp
      | none =>
          simp only
          rw [ih (c :: seen), ih [c]]
          cases cutFrom needle [] rest <;> simp

theorem cutAt_cons (needle : List Char) (c : Char) (rest : List Char) :
    cutAt needle (c :: rest) =
      match after? needle (c :: rest) with
      | some after => some ([], after)
      | none => (cutAt needle rest).map fun cut => (c :: cut.1, cut.2) := by
  rw [cutAt, cutFrom]
  cases after? needle (c :: rest) with
  | some after => rfl
  | none => exact cutFrom_eq needle [c] rest

/-- There is nothing to cut at exactly in the texts that do not hold the needle. -/
theorem cutAt_eq_none_iff {needle text : List Char} (nonempty : needle ≠ []) :
    cutAt needle text = none ↔ ¬needle <:+: text := by
  induction text with
  | nil => simp [cutAt, cutFrom, nonempty]
  | cons c rest ih =>
      rw [cutAt_cons, List.infix_cons_iff]
      cases found : after? needle (c :: rest) with
      | some after => simp [after?_eq_some_iff.1 found]
      | none =>
          have noPrefix : ¬needle <+: c :: rest := by
            rintro ⟨after, whole⟩
            rw [after?_eq_some_iff.2 whole.symm] at found
            cases found
          simp [noPrefix, ih]

/-- A text that does not hold the needle is passed over, together with a character after it that does
not occur in the needle. -/
theorem cutAt_append_cons {needle before : List Char} {c : Char} (nonempty : needle ≠ [])
    (without : ¬needle <:+: before) (stops : c ∉ needle) (rest : List Char) :
    cutAt needle (before ++ c :: rest) =
      (cutAt needle rest).map fun cut => (before ++ c :: cut.1, cut.2) := by
  induction before with
  | nil =>
      rw [List.nil_append, cutAt_cons]
      cases found : after? needle (c :: rest) with
      | none => rfl
      | some after =>
          obtain ⟨n, more, rfl⟩ := List.exists_cons_of_ne_nil nonempty
          have whole := after?_eq_some_iff.1 found
          simp only [List.cons_append, List.cons.injEq] at whole
          exact absurd (whole.1 ▸ List.mem_cons_self) stops
  | cons b before ih =>
      rw [List.infix_cons_iff, not_or] at without
      rw [List.cons_append, cutAt_cons, ih without.2]
      cases found : after? needle (b :: (before ++ c :: rest)) with
      | none => cases cutAt needle rest <;> rfl
      | some after =>
          -- The needle would end before the character or hold it.
          have whole : (b :: before) ++ c :: rest = needle ++ after := after?_eq_some_iff.1 found
          rcases List.append_eq_append_iff.1 whole with ⟨more, longer, tail⟩ | ⟨more, shorter, -⟩
          · cases more with
            | nil => exact absurd ⟨[], by simpa using longer⟩ without.1
            | cons d more =>
                simp only [List.cons_append, List.cons.injEq] at tail
                rw [longer, tail.1] at stops
                simp at stops
          · exact absurd ⟨more, shorter.symm⟩ without.1

/-- A text that is put together around a character that does not occur in the needle does not hold the
needle, if none of the parts does. -/
theorem not_infix_append_cons {needle before after : List Char} {c : Char} (nonempty : needle ≠ [])
    (without : ¬needle <:+: before) (stops : c ∉ needle) (later : ¬needle <:+: after) :
    ¬needle <:+: before ++ c :: after := by
  rw [← cutAt_eq_none_iff nonempty] at later ⊢
  rw [cutAt_append_cons nonempty without stops, later]
  rfl

theorem cutAt_self (needle rest : List Char) : cutAt needle (needle ++ rest) = some ([], rest) := by
  cases whole : needle ++ rest with
  | nil =>
      obtain ⟨rfl, rfl⟩ := List.append_eq_nil_iff.1 whole
      rfl
  | cons c tail => rw [cutAt_cons, after?_eq_some_iff.2 whole.symm]

/-- The needle begins at the end of the text and nowhere before, in what the two are together. -/
def FirstBehind (needle text : List Char) : Prop :=
  ∀ x y, text ++ needle = x ++ needle ++ y → y = []

/-- The needle is found behind a text behind which it begins first, whatever follows. -/
theorem cutAt_append {needle before : List Char} (first : FirstBehind needle before)
    (rest : List Char) :
    cutAt needle (before ++ needle ++ rest) = some (before, rest) := by
  induction before with
  | nil => exact cutAt_self needle rest
  | cons b before ih =>
      have later : FirstBehind needle before := fun x y same =>
        first (b :: x) y (by simp [same])
      rw [List.cons_append, List.cons_append, cutAt_cons, ih later]
      cases found : after? needle (b :: (before ++ needle ++ rest)) with
      | none => rfl
      | some after =>
          have whole := after?_eq_some_iff.1 found
          have early : needle <+: b :: before ++ needle := by
            refine List.prefix_of_prefix_length_le ⟨after, whole.symm⟩ ⟨rest, by simp⟩ ?_
            simp only [List.length_append, List.length_cons]
            omega
          obtain ⟨y, same⟩ := early
          have nothing := first [] y (by simpa using same.symm)
          have lengths := congrArg List.length same
          simp only [nothing, List.length_append, List.length_cons, List.length_nil] at lengths
          omega

theorem firstBehind_nil (needle : List Char) : FirstBehind needle [] := by
  intro x y same
  have lengths := congrArg List.length same
  simp only [List.length_append, List.length_nil] at lengths
  exact List.length_eq_zero_iff.1 (by omega)

/-- What is cut at is behind the first part for the first time. -/
theorem firstBehind_of_cutAt {needle text before after : List Char}
    (h : cutAt needle text = some (before, after)) : FirstBehind needle before := by
  induction text generalizing before after with
  | nil =>
      rw [cutAt, cutFrom] at h
      split at h
      · cases h
        exact firstBehind_nil needle
      · cases h
  | cons c rest ih =>
      rw [cutAt_cons] at h
      cases found : after? needle (c :: rest) with
      | some tail =>
          rw [found] at h
          cases h
          exact firstBehind_nil needle
      | none =>
          rw [found] at h
          obtain ⟨⟨first, last⟩, cut, isCut⟩ := Option.map_eq_some_iff.1 h
          cases isCut
          intro x y same
          cases x with
          | cons d x =>
              simp only [List.cons_append, List.cons.injEq] at same
              exact ih cut x y same.2
          | nil =>
              -- The needle would begin at the first character, where it was not found.
              have whole : c :: rest = needle ++ (y ++ last) := by
                rw [← cutAt_sound cut, ← List.append_assoc]
                exact congrArg (· ++ last) same
              rw [after?_eq_some_iff.2 whole] at found
              cases found

/-- A needle that begins nowhere before the end of a text does not stand in it. -/
theorem FirstBehind.not_infix {needle text : List Char} (nonempty : needle ≠ [])
    (first : FirstBehind needle text) : ¬needle <:+: text := by
  rintro ⟨x, y, whole⟩
  have nothing := first x (y ++ needle) (by simp [← whole])
  exact nonempty (List.append_eq_nil_iff.1 nothing).2

/-- Replaces every `needle`, from the left and without overlap. `skip` characters belong to the
needle replaced last. -/
def replaceFrom (needle insert : List Char) : Nat → List Char → List Char
  | _, [] => []
  | skip + 1, _ :: rest => replaceFrom needle insert skip rest
  | 0, c :: rest =>
      if (after? needle (c :: rest)).isSome then
        insert ++ replaceFrom needle insert (needle.length - 1) rest
      else c :: replaceFrom needle insert 0 rest

/-- Replaces every occurrence of a text that is not empty. -/
def replaceAll (s needle insert : String) : String :=
  String.ofList (replaceFrom needle.toList insert.toList 0 s.toList)

example : cutAt ['=', '>'] ['a', '=', '>', 'b'] = some (['a'], ['b']) := by decide
example : cutAtLast ['x'] ['a', 'x', 'b', 'x', 'c'] = some (['a', 'x', 'b'], ['c']) := by decide
example : replaceAll "aaa" "aa" "b" = "ba" := by decide +kernel

/-- Characters of a kind are taken up to one of another kind. -/
theorem takeWhile_append_of_stop {p : Char → Bool} {cs rest : List Char}
    (all : ∀ c ∈ cs, p c = true) (stop : ∀ c ∈ rest.head?, p c = false) :
    (cs ++ rest).takeWhile p = cs := by
  rw [List.takeWhile_append_of_pos all]
  cases rest with
  | nil => simp
  | cons c more => simp [stop c rfl]

theorem dropWhile_append_of_stop {p : Char → Bool} {cs rest : List Char}
    (all : ∀ c ∈ cs, p c = true) (stop : ∀ c ∈ rest.head?, p c = false) :
    (cs ++ rest).dropWhile p = rest := by
  rw [List.dropWhile_append_of_pos all]
  cases rest with
  | nil => rfl
  | cons c more => simp [stop c rfl]

end Stencil.Text
