import Mathlib.Data.List.Basic
import Stencil.Escaper
import Stencil.Filter.Core
import Stencil.Json.Spelling

/-!
# Texts in addresses and forms

What is encoded for an address or a form consists of letters, digits, a few marks and bytes in
hexadecimal digits. Decoding gives the bytes of the text back, also where percent signs, plus signs and
tildes stand in it already, and so the text.

1. `Encoded`: what encoded texts look like.
2. `percentEncode_bytes`, `formEncode_words`: encoding byte by byte, and word by word.
3. `percentDecode_percentEncode`, `formDecode_formEncode`: the bytes come back.
4. `encodings_come_back`: the strategy for addresses and the filter for forms.
-/

namespace Stencil.Text

/-! ## Encoded texts -/

/-- A hexadecimal digit, in upper case if it is a letter. -/
def IsUpperHexDigit (c : Char) : Prop := c ∈ "0123456789ABCDEF".toList

instance (c : Char) : Decidable (IsUpperHexDigit c) := inferInstanceAs (Decidable (c ∈ _))

/-- Letters and digits of ASCII, some marks, and bytes as a percent sign and two digits. -/
inductive Encoded (marks : List Char) : List Char → Prop
  | nil : Encoded marks []
  | plain {c : Char} {rest : List Char} :
      isAsciiLetter c = true ∨ isDigit c = true ∨ c ∈ marks → Encoded marks rest →
        Encoded marks (c :: rest)
  | byte {high low : Char} {rest : List Char} : IsUpperHexDigit high → IsUpperHexDigit low →
      Encoded marks rest → Encoded marks ('%' :: high :: low :: rest)

/-- The bytes that an encoded text stands for. All but bytes in digits stands for itself. -/
def percentDecode : List Char → List UInt8
  | '%' :: high :: low :: rest =>
      match Json.hexValue? high, Json.hexValue? low with
      | some h, some l => UInt8.ofNat (16 * h + l) :: percentDecode rest
      | _, _ => String.utf8EncodeChar '%' ++ percentDecode (high :: low :: rest)
  | c :: rest => String.utf8EncodeChar c ++ percentDecode rest
  | [] => []

/-- A form sends spaces as plus signs. -/
def ofPlus (c : Char) : Char := if c = '+' then ' ' else c

/-- The bytes that a text as a form sends it stands for. -/
def formDecode (cs : List Char) : List UInt8 := percentDecode (cs.map ofPlus)

section

variable {marks : List Char}

theorem Encoded.append {front back : List Char} (h : Encoded marks front)
    (further : Encoded marks back) : Encoded marks (front ++ back) := by
  induction h with
  | nil => exact further
  | plain kind _ ih => exact .plain kind ih
  | byte high low _ ih => exact .byte high low ih

theorem Encoded.flatMap {α : Type} {write : α → List Char} (each : ∀ a, Encoded marks (write a))
    (row : List α) : Encoded marks (row.flatMap write) := by
  induction row with
  | nil => exact .nil
  | cons a rest ih => exact (each a).append ih

theorem Encoded.not_mem_plus {cs : List Char} (h : Encoded marks cs) (free : '+' ∉ marks) :
    '+' ∉ cs := by
  have digit : ¬IsUpperHexDigit '+' := by decide
  induction h with
  | nil => exact List.not_mem_nil
  | plain kind _ ih =>
      rw [List.mem_cons, not_or]
      refine ⟨?_, ih⟩
      rintro rfl
      rcases kind with letter | digit | mark
      · cases letter
      · cases digit
      · exact free mark
  | byte high low _ ih =>
      simp only [List.mem_cons, not_or]
      refine ⟨by decide, ?_, ?_, ih⟩
      · rintro rfl
        exact digit high
      · rintro rfl
        exact digit low

end

/-! ## Bytes -/

theorem upperHexDigit_spec :
    ∀ n < 16, IsUpperHexDigit (upperHexDigit n) ∧ Json.hexValue? (upperHexDigit n) = some n := by
  decide

theorem encoded_percentByte (marks : List Char) (b : UInt8) : Encoded marks (percentByte b) := by
  have below := b.toNat_lt
  exact .byte (upperHexDigit_spec _ (by omega)).1 (upperHexDigit_spec _ (by omega)).1 .nil

theorem percentDecode_percentByte (b : UInt8) (rest : List Char) :
    percentDecode (percentByte b ++ rest) = b :: percentDecode rest := by
  have below := b.toNat_lt
  have whole : 16 * (b.toNat / 16) + b.toNat % 16 = b.toNat := Nat.div_add_mod _ _
  simp only [percentByte, List.cons_append, List.nil_append, percentDecode,
    (upperHexDigit_spec (b.toNat / 16) (by omega)).2, (upperHexDigit_spec (b.toNat % 16) (by omega)).2,
    whole, UInt8.ofNat_toNat]

theorem percentDecode_bytes (bytes : List UInt8) (rest : List Char) :
    percentDecode (bytes.flatMap percentByte ++ rest) = bytes ++ percentDecode rest := by
  induction bytes with
  | nil => rfl
  | cons b more ih =>
      rw [List.flatMap_cons, List.append_assoc, percentDecode_percentByte, ih, List.cons_append]

theorem percentDecode_plain {c : Char} (plain : c ≠ '%') (rest : List Char) :
    percentDecode (c :: rest) = String.utf8EncodeChar c ++ percentDecode rest := by
  rw [percentDecode.eq_def]
  split
  · next shape =>
    cases shape
    exact absurd rfl plain
  · next shape =>
    cases shape
    rfl
  · next shape => cases shape

/-! ## Addresses -/

theorem isUnreserved_iff {c : Char} :
    isUnreserved c = true ↔
      isAsciiLetter c = true ∨ isDigit c = true ∨ c ∈ ['-', '_', '.', '~'] := by
  simp [isUnreserved, or_assoc]

theorem encoded_percentChar (c : Char) : Encoded ['-', '_', '.', '~'] (percentChar c) := by
  unfold percentChar
  split
  · next unreserved => exact .plain (isUnreserved_iff.1 unreserved) .nil
  · exact .flatMap (encoded_percentByte _) _

theorem percentDecode_percentChar (c : Char) (rest : List Char) :
    percentDecode (percentChar c ++ rest) = String.utf8EncodeChar c ++ percentDecode rest := by
  unfold percentChar
  split
  · next unreserved =>
    refine percentDecode_plain ?_ rest
    rintro rfl
    cases unreserved
  · exact percentDecode_bytes _ rest

theorem percentDecode_percentEncode (s : String) : percentDecode (percentEncode s).toList = utf8 s := by
  rw [percentEncode, String.toList_ofList, utf8]
  induction s.toList with
  | nil => rfl
  | cons c more ih =>
      rw [List.flatMap_cons, percentDecode_percentChar, ih, List.flatMap_cons]

/-! ## Forms -/

theorem encoded_formChar (c : Char) : Encoded ['-', '_', '.', '+'] (formChar c) := by
  unfold formChar
  split
  · exact .plain (.inr (.inr (by decide))) .nil
  · next space =>
    split
    · exact .byte (by decide) (by decide) .nil
    · next tilde =>
      unfold percentChar
      split
      · next unreserved =>
        refine .plain ?_ .nil
        rcases isUnreserved_iff.1 unreserved with letter | digit | mark
        · exact .inl letter
        · exact .inr (.inl digit)
        · simp only [List.mem_cons, tilde, List.not_mem_nil, or_false] at mark ⊢
          rcases mark with rfl | rfl | rfl <;> decide
      · exact .flatMap (encoded_percentByte _) _

/-- Only a space is sent as a plus sign. -/
theorem map_ofPlus_formChar (c : Char) :
    (formChar c).map ofPlus = if c = ' ' then [' '] else formChar c := by
  unfold formChar
  split
  · rfl
  · have free : '+' ∉ if c = '~' then ['%', '7', 'E'] else percentChar c := by
      split
      · decide
      · exact (encoded_percentChar c).not_mem_plus (by decide)
    refine (List.map_congr_left fun a mem => ?_).trans (List.map_id _)
    have other : a ≠ '+' := fun same => free (same ▸ mem)
    rw [ofPlus, if_neg other, id]

theorem percentDecode_map_formChar (c : Char) (rest : List Char) :
    percentDecode ((formChar c).map ofPlus ++ rest) =
      String.utf8EncodeChar c ++ percentDecode rest := by
  rw [map_ofPlus_formChar]
  split
  · next space =>
    rw [space]
    exact percentDecode_plain (by decide) rest
  · next other =>
    rw [formChar, if_neg other]
    split
    · next tilde =>
      rw [tilde]
      rfl
    · exact percentDecode_percentChar c rest

theorem formDecode_formEncode (s : String) : formDecode (formEncode s).toList = utf8 s := by
  rw [formEncode, String.toList_ofList, utf8, formDecode]
  induction s.toList with
  | nil => rfl
  | cons c more ih =>
      rw [List.flatMap_cons, List.map_append, percentDecode_map_formChar, ih, List.flatMap_cons]

/-! ## Byte by byte, and word by word -/

theorem isUnreserved_of_le {c : Char} (h : 128 ≤ c.toNat) : isUnreserved c = false := by
  have other {d : Char} (low : d.toNat < 128) : (c == d) = false :=
    beq_false_of_ne fun same => by subst same; omega
  have above {d : Char} (low : d.toNat < 128) : decide (c ≤ d) = false :=
    decide_eq_false fun le => by
      have := UInt32.le_iff_toNat_le.1 le
      have : c.toNat ≤ d.toNat := this
      omega
  simp only [isUnreserved, isAsciiLetter, isDigit, other (d := '-') (by decide),
    other (d := '_') (by decide), other (d := '.') (by decide), other (d := '~') (by decide),
    above (d := 'z') (by decide), above (d := 'Z') (by decide), above (d := '9') (by decide),
    Bool.and_false, Bool.or_false]

/-- A byte as it stands in an address. -/
def percentUnit (b : UInt8) : List Char :=
  if isUnreserved (Char.ofNat b.toNat) then [Char.ofNat b.toNat] else percentByte b

theorem percentUnit_of_le {b : UInt8} (h : 128 ≤ b.toNat) : percentUnit b = percentByte b := by
  have below := b.toNat_lt
  have char : (Char.ofNat b.toNat).toNat = b.toNat := by
    have valid : b.toNat.isValidChar := .inl (by omega)
    rw [Char.ofNat, dif_pos valid]
    rfl
  rw [percentUnit, isUnreserved_of_le (char.symm ▸ h), if_neg Bool.false_ne_true]

/-- The bytes of a character beyond ASCII are beyond it too. -/
theorem le_of_mem_utf8EncodeChar {c : Char} (h : 128 ≤ c.toNat) :
    ∀ b ∈ String.utf8EncodeChar c, 128 ≤ b.toNat := by
  have beyond : ¬c.val.toNat ≤ 127 := by
    have : c.val.toNat = c.toNat := rfl
    omega
  intro b mem
  simp only [String.utf8EncodeChar, if_neg beyond] at mem
  split at mem
  · simp only [List.mem_cons, List.not_mem_nil, or_false] at mem
    rcases mem with rfl | rfl <;> rw [UInt8.toNat_ofNat'] <;> omega
  · split at mem <;> simp only [List.mem_cons, List.not_mem_nil, or_false] at mem
    · rcases mem with rfl | rfl | rfl <;> rw [UInt8.toNat_ofNat'] <;> omega
    · rcases mem with rfl | rfl | rfl | rfl <;> rw [UInt8.toNat_ofNat'] <;> omega

theorem percentChar_eq (c : Char) :
    percentChar c = (String.utf8EncodeChar c).flatMap percentUnit := by
  by_cases low : c.toNat < 128
  · have single : String.utf8EncodeChar c = [UInt8.ofNat c.toNat] := if_pos (Nat.le_of_lt_succ low)
    have back : (UInt8.ofNat c.toNat).toNat = c.toNat := Nat.mod_eq_of_lt (by omega)
    simp only [percentChar, single, List.flatMap_cons, List.flatMap_nil, List.append_nil,
      percentUnit, back, Char.ofNat_toNat]
  · have beyond : 128 ≤ c.toNat := Nat.le_of_not_lt low
    rw [percentChar, isUnreserved_of_le beyond, if_neg Bool.false_ne_true]
    exact List.flatMap_congr fun b mem =>
      (percentUnit_of_le (le_of_mem_utf8EncodeChar beyond b mem)).symm

/-- Characters are not looked at to encode an address: its bytes are, one by one. -/
theorem percentEncode_bytes (s : String) :
    percentEncode s = String.ofList ((utf8 s).flatMap percentUnit) := by
  rw [percentEncode, utf8, List.flatMap_assoc, funext percentChar_eq]

theorem replaceFrom_singleton (c : Char) (insert cs : List Char) :
    replaceFrom [c] insert 0 cs = cs.flatMap fun d => if d = c then insert else [d] := by
  induction cs with
  | nil => rfl
  | cons d rest ih =>
      rw [replaceFrom, List.flatMap_cons]
      by_cases same : d = c
      · rw [if_pos same, if_pos (by simp [after?, same]), List.length_singleton, ih]
      · rw [if_neg same, if_neg (by simp [after?, Ne.symm same]), ih, List.singleton_append]

theorem splitOn_cons_self (c : Char) (cs : List Char) :
    (c :: cs).splitOn c = [] :: cs.splitOn c := by
  rw [List.splitOn, List.splitOnP_cons_eq_if_modifyHead, if_pos (beq_self_eq_true c), List.splitOn]

theorem splitOn_cons_of_ne {c d : Char} (h : d ≠ c) (cs : List Char) :
    ∃ word more, cs.splitOn c = word :: more ∧ (d :: cs).splitOn c = (d :: word) :: more := by
  obtain ⟨word, more, split⟩ := List.exists_cons_of_ne_nil (List.splitOnP_ne_nil (· == c) cs)
  refine ⟨word, more, split, ?_⟩
  rw [List.splitOn, List.splitOnP_cons_eq_if_modifyHead, split, if_neg (by simpa using h)]
  rfl

/-- What is written word by word, and put together with a text in place of each mark between words. -/
theorem intercalate_splitOn (c : Char) (insert : List Char) (write : Char → List Char)
    (cs : List Char) :
    insert.intercalate ((cs.splitOn c).map (List.flatMap write)) =
      cs.flatMap fun d => if d = c then insert else write d := by
  induction cs with
  | nil => rfl
  | cons d rest ih =>
      rw [List.flatMap_cons, ← ih]
      by_cases same : d = c
      · obtain ⟨word, more, split⟩ := List.exists_cons_of_ne_nil (List.splitOnP_ne_nil (· == c) rest)
        rw [same, splitOn_cons_self, if_pos rfl, List.splitOn, split, List.map_cons, List.map_cons,
          List.intercalate_cons_cons]
        rfl
      · obtain ⟨word, more, before, behind⟩ := splitOn_cons_of_ne same rest
        rw [before, behind, if_neg same, List.map_cons, List.map_cons, List.flatMap_cons]
        cases more with
        | nil => simp only [List.map_nil, List.intercalate_singleton]
        | cons next further =>
            simp only [List.map_cons, List.intercalate_cons_cons, List.append_assoc]

theorem ne_tilde_of_mem_percentChar {c : Char} (other : c ≠ '~') :
    ∀ d ∈ percentChar c, d ≠ '~' := by
  intro d mem
  unfold percentChar at mem
  split at mem
  · rwa [List.mem_singleton.1 mem]
  · obtain ⟨b, -, digit⟩ := List.mem_flatMap.1 mem
    have below := b.toNat_lt
    have digits : ∀ n < 16, upperHexDigit n ≠ '~' := by decide
    simp only [percentByte, List.mem_cons, List.not_mem_nil, or_false] at digit
    rcases digit with rfl | rfl | rfl
    · decide
    · exact digits _ (by omega)
    · exact digits _ (by omega)

/-- A word in a form: as in an address, and then the tilde in digits. -/
def formWord (word : List Char) : List Char :=
  replaceFrom ['~'] ['%', '7', 'E'] 0 (word.flatMap percentChar)

theorem formWord_eq (word : List Char) :
    formWord word =
      word.flatMap fun c => if c = '~' then ['%', '7', 'E'] else percentChar c := by
  rw [formWord, replaceFrom_singleton, List.flatMap_assoc]
  refine List.flatMap_congr fun c _ => ?_
  split
  · next tilde =>
    rw [tilde]
    rfl
  · next other =>
    have free : ∀ d ∈ percentChar c, d ≠ '~' := ne_tilde_of_mem_percentChar other
    refine (List.flatMap_congr fun d mem => if_neg (free d mem)).trans ?_
    exact List.flatMap_singleton' _

/-- A form takes a text word by word. -/
theorem formEncode_words (s : String) :
    formEncode s = String.ofList (['+'].intercalate ((s.toList.splitOn ' ').map formWord)) := by
  rw [funext formWord_eq, intercalate_splitOn]
  rfl

/-! ## Back to text -/

theorem fromUTF8?_utf8 (s : String) : String.fromUTF8? (utf8 s).toByteArray = some s := by
  have bytes : (utf8 s).toByteArray = s.toByteArray := String.utf8Encode_toList
  rw [bytes]
  simp only [String.fromUTF8?, dif_pos s.isValidUTF8]
  rfl

/-- Texts come back from addresses and forms, whatever stands in them, and what is sent of them there are
letters, digits, four marks and bytes in digits. -/
theorem encodings_come_back (s : String) :
    (∃ text, Escaper.standard.escape? s "url" = some text ∧
      Encoded ['-', '_', '.', '~'] text.toList ∧
      String.fromUTF8? (percentDecode text.toList).toByteArray = some s) ∧
    ∃ filter, Filter.core.get? "url_encode" = some filter ∧
      ∀ args, ∃ text, filter (.string s) args = .string text ∧
        Encoded ['-', '_', '.', '+'] text.toList ∧
        String.fromUTF8? (formDecode text.toList).toByteArray = some s := by
  refine ⟨⟨percentEncode s, rfl, ?_, ?_⟩, _, rfl, fun args => ⟨formEncode s, rfl, ?_, ?_⟩⟩
  · rw [percentEncode, String.toList_ofList]
    exact .flatMap encoded_percentChar _
  · rw [percentDecode_percentEncode, fromUTF8?_utf8]
  · rw [formEncode, String.toList_ofList]
    exact .flatMap encoded_formChar _
  · rw [formDecode_formEncode, fromUTF8?_utf8]

end Stencil.Text
