import Mathlib.Logic.Function.Basic
import Stencil.Escaper
import Stencil.Proofs.Json.Leaves

/-!
# Texts in scripts

A text becomes a string literal of JSON, which is gone over once more. The second pass never takes a part of
one escape for a part of another: it goes through the literal as the first pass wrote it, character by
character of the text.

1. `Escape.scriptBody_stringChar`: what the second pass makes of a character, whatever stands behind it.
2. `Escape.script_is_literal`: the literal is harmless in markup and in strings, and it spells the text.
-/

namespace Stencil.Escape

/-! ## Characters -/

/-- A character that ends no string literal and means nothing in markup. -/
def Safe (c : Char) : Prop := c ∉ ['"', '<', '>', '&', '\''] ∧ 0x20 ≤ c.toNat

instance (c : Char) : Decidable (Safe c) := inferInstanceAs (Decidable (_ ∧ _))

theorem bounds_of_hexValue? {c : Char} {n : Nat} (h : Json.hexValue? c = some n) :
    (48 ≤ c.toNat ∧ c.toNat ≤ 57) ∨ (97 ≤ c.toNat ∧ c.toNat ≤ 102) ∨ (65 ≤ c.toNat ∧ c.toNat ≤ 70) := by
  unfold Json.hexValue? at h
  split at h
  · next digit => exact .inl digit
  · split at h
    · next lower => exact .inr (.inl lower)
    · split at h
      · next upper => exact .inr (.inr upper)
      · cases h

theorem safe_of_hexValue? {c : Char} {n : Nat} (h : Json.hexValue? c = some n) :
    Safe c ∧ c ≠ '\\' := by
  have bounds := bounds_of_hexValue? h
  have other (d : Char) (outside : ¬((48 ≤ d.toNat ∧ d.toNat ≤ 57) ∨ (97 ≤ d.toNat ∧ d.toNat ≤ 102) ∨
      (65 ≤ d.toNat ∧ d.toNat ≤ 70))) : c ≠ d := by
    rintro rfl
    exact outside bounds
  refine ⟨⟨?_, by omega⟩, other _ (by decide)⟩
  simp only [List.mem_cons, List.not_mem_nil, or_false, not_or]
  exact ⟨other _ (by decide), other _ (by decide), other _ (by decide), other _ (by decide),
    other _ (by decide)⟩

theorem hexValues_of_unit? {k l m n : Char} {code : Nat} (h : Json.unit? k l m n = some code) :
    ∀ d ∈ [k, l, m, n], ∃ value, Json.hexValue? d = some value := by
  simp only [Json.unit?, Option.bind_eq_bind, Option.bind_eq_some_iff] at h
  obtain ⟨first, isFirst, second, isSecond, third, isThird, fourth, isFourth, -⟩ := h
  simp [isFirst, isSecond, isThird, isFourth]

theorem safe_of_unit? {k l m n : Char} {code : Nat} (h : Json.unit? k l m n = some code) :
    ∀ d ∈ ['\\', 'u', k, l, m, n], Safe d := by
  refine List.forall_mem_cons.2 ⟨by decide, List.forall_mem_cons.2 ⟨by decide, fun d member => ?_⟩⟩
  obtain ⟨value, digit⟩ := hexValues_of_unit? h d member
  exact (safe_of_hexValue? digit).1

theorem mem_of_escaped? {c e : Char} (h : Json.escaped? e = some c) :
    e ∈ ['"', '\\', '/', 'b', 'f', 'n', 'r', 't'] := by
  unfold Json.escaped? at h
  split at h
  case h_9 => cases h
  all_goals decide

theorem safe_of_escaped? {c e : Char} (h : Json.escaped? e = some c) (noQuote : e ≠ '"') :
    ∀ d ∈ ['\\', e], Safe d := by
  refine List.forall_mem_cons.2 ⟨by decide, List.forall_mem_singleton.2 ?_⟩
  have known := mem_of_escaped? h
  simp only [List.mem_cons, noQuote, false_or, List.not_mem_nil, or_false] at known
  rcases known with rfl | rfl | rfl | rfl | rfl | rfl | rfl <;> decide

/-! ## The second pass -/

theorem scriptBody_escape {c : Char} (noQuote : c ≠ '"') (rest : List Char) :
    scriptBody ('\\' :: c :: rest) = '\\' :: c :: scriptBody rest := by
  rw [scriptBody.eq_def]
  split
  all_goals
    rename_i shape
    cases shape
  all_goals simp_all

theorem scriptBody_plain {c : Char} (noEscape : c ≠ '\\') (rest : List Char) :
    scriptBody (c :: rest) = scriptChar c ++ scriptBody rest := by
  rw [scriptBody.eq_def]
  split
  all_goals
    rename_i shape
    cases shape
  all_goals first
    | contradiction
    | rfl

theorem scriptChar_of_safe {c : Char} (safe : Safe c) : scriptChar c = [c] := by
  unfold scriptChar
  split
  case h_5 => rfl
  all_goals exact absurd safe (by decide)

theorem scriptBody_digit {c : Char} {n : Nat} (digit : Json.hexValue? c = some n) (rest : List Char) :
    scriptBody (c :: rest) = c :: scriptBody rest := by
  obtain ⟨safe, noEscape⟩ := safe_of_hexValue? digit
  rw [scriptBody_plain noEscape, scriptChar_of_safe safe, List.singleton_append]

theorem scriptBody_unit {k l m n : Char} {code : Nat} (digits : Json.unit? k l m n = some code)
    (rest : List Char) :
    scriptBody (['\\', 'u', k, l, m, n] ++ rest) = ['\\', 'u', k, l, m, n] ++ scriptBody rest := by
  have each := hexValues_of_unit? digits
  simp only [List.forall_mem_cons] at each
  obtain ⟨⟨_, first⟩, ⟨_, second⟩, ⟨_, third⟩, ⟨_, fourth⟩, -⟩ := each
  simp only [List.cons_append, List.nil_append]
  rw [scriptBody_escape (by decide), scriptBody_digit first, scriptBody_digit second,
    scriptBody_digit third, scriptBody_digit fourth]

/-- A character of markup becomes a number of four digits. -/
theorem spelling_scriptChar {c : Char} (quote : c ≠ '"') (backslash : c ≠ '\\')
    (low : ¬c.toNat < 0x20) :
    Json.Spelling c (scriptChar c) ∧ ∀ d ∈ scriptChar c, Safe d := by
  unfold scriptChar
  split
  case h_5 lt gt amp apostrophe =>
    have safe : Safe c := ⟨by simp_all, Nat.not_lt.1 low⟩
    exact ⟨.plain quote backslash low, List.forall_mem_singleton.2 safe⟩
  all_goals exact ⟨.unit rfl, safe_of_unit? rfl⟩

theorem exists_spelling (c : Char) :
    ∃ unit, Json.Spelling c unit ∧ (∀ d ∈ unit, Safe d) ∧
      ∀ rest, scriptBody (Json.stringChar c ++ rest) = unit ++ scriptBody rest := by
  have written := Json.spelling_stringChar c
  generalize Json.stringChar c = unit at written ⊢
  cases written with
  | @letter e escape =>
      by_cases isQuote : e = '"'
      · subst isQuote
        cases escape
        exact ⟨_, .unit rfl, safe_of_unit? rfl, fun _ => rfl⟩
      · exact ⟨_, .letter escape, safe_of_escaped? escape isQuote, scriptBody_escape isQuote⟩
  | unit digits => exact ⟨_, .unit digits, safe_of_unit? digits, scriptBody_unit digits⟩
  | plain quote backslash low =>
      obtain ⟨spells, safe⟩ := spelling_scriptChar quote backslash low
      exact ⟨_, spells, safe, scriptBody_plain backslash⟩

/-- What the first pass writes for a character becomes a spelling of it by safe characters, whatever stands
behind it. -/
theorem scriptBody_stringChar (c : Char) :
    Json.Spelling c (scriptBody (Json.stringChar c)) ∧
      (∀ d ∈ scriptBody (Json.stringChar c), Safe d) ∧
      ∀ rest, scriptBody (Json.stringChar c ++ rest) =
        scriptBody (Json.stringChar c) ++ scriptBody rest := by
  obtain ⟨unit, spells, safe, each⟩ := exists_spelling c
  have alone := each []
  rw [List.append_nil, scriptBody, List.append_nil] at alone
  rw [alone]
  exact ⟨spells, safe, each⟩

theorem scriptBody_stringBody (cs : List Char) :
    scriptBody (Json.stringBody cs) = cs.flatMap fun c => scriptBody (Json.stringChar c) := by
  induction cs with
  | nil => rfl
  | cons c more ih =>
      obtain ⟨-, -, first⟩ := scriptBody_stringChar c
      rw [Json.stringBody, List.flatMap_cons, first, List.flatMap_cons]
      exact congrArg (scriptBody (Json.stringChar c) ++ ·) ih

/-! ## The literal -/

/-- An escape of a string literal of JSON. -/
inductive IsEscape : List Char → Prop
  | letter {c : Char} (known : c ∈ ['"', '\\', '/', 'b', 'f', 'n', 'r', 't']) : IsEscape ['\\', c]
  | unit {digits : List Char} (four : digits.length = 4)
      (hexadecimal : ∀ d ∈ digits, ∃ n, Json.hexValue? d = some n) : IsEscape ('\\' :: 'u' :: digits)

theorem isEscape_of_spelling {c : Char} {unit : List Char} (h : Json.Spelling c unit) :
    IsEscape unit ∨ ∃ d, unit = [d] ∧ d ≠ '\\' := by
  cases h with
  | letter escape => exact .inl (.letter (mem_of_escaped? escape))
  | unit digits => exact .inl (.unit rfl (hexValues_of_unit? digits))
  | plain _ backslash _ => exact .inr ⟨c, rfl, backslash⟩

theorem readString_scriptBody (cs seen rest : List Char) :
    Json.readString seen (scriptBody (Json.stringBody cs) ++ '"' :: rest) =
      some (String.ofList (seen.reverse ++ cs), rest) := by
  rw [scriptBody_stringBody]
  induction cs generalizing seen with
  | nil => simp [Json.readString]
  | cons c more ih =>
      obtain ⟨spells, -, -⟩ := scriptBody_stringChar c
      rw [List.flatMap_cons, List.append_assoc, spells.read, ih, List.reverse_cons, List.append_assoc]
      rfl

theorem toList_script (s : String) :
    (script s).toList = '"' :: (scriptBody (Json.stringBody s.toList) ++ ['"']) :=
  String.toList_ofList

theorem read_script (s : String) : Json.read (script s) = some (.string s) := by
  have value (steps depth : Nat) : Json.readValue (steps + 1) depth .whole (script s).toList =
      some (.string s, []) := by
    rw [toList_script]
    simp [Json.readValue, Json.skipSpace, Json.isSpace, readString_scriptBody]
  rw [Json.read, Json.readAll, value]
  rfl

/-- The literal of a text begins and ends with a quote. Between them are no quotes, no control characters
and none of the characters of markup. Every backslash there belongs to an escape of JSON, and JSON reads the
literal as the text. -/
theorem script_is_literal :
    (∀ s : String, ∃ body, (script s).toList = '"' :: (body ++ ['"']) ∧ (∀ c ∈ body, Safe c) ∧
      (∃ units : List (List Char), units.flatten = body ∧
        ∀ unit ∈ units, IsEscape unit ∨ ∃ c, unit = [c] ∧ c ≠ '\\') ∧
      Json.read (script s) = some (.string s)) ∧
    Function.Injective script := by
  refine ⟨fun s => ⟨_, toList_script s, ?_, ?_, read_script s⟩, fun s t same => ?_⟩
  · rw [scriptBody_stringBody]
    intro c member
    obtain ⟨d, -, inUnit⟩ := List.mem_flatMap.1 member
    exact (scriptBody_stringChar d).2.1 c inUnit
  · refine ⟨s.toList.map fun c => scriptBody (Json.stringChar c), ?_, fun unit member => ?_⟩
    · rw [scriptBody_stringBody, List.flatMap_def]
    · obtain ⟨c, -, rfl⟩ := List.mem_map.1 member
      exact isEscape_of_spelling (scriptBody_stringChar c).1
  · have read := read_script s
    rw [same, read_script t] at read
    cases read
    rfl

end Stencil.Escape
