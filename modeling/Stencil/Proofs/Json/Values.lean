import Stencil.Filter.Basic
import Stencil.Proofs.Json.RoundTrip

/-!
# Values, written and read

A value without doubles is written as JSON and read as the same value, with its items and entries in
their order, as far as the reader goes into lists and maps.

1. `Json.asRead_integer`: a whole number that fits 64 bits, with a sign or without, comes back.
2. `Table.setAll_of_nodup`: entries with names of their own are entered in their order.
3. `Value.Plain.asRead_toJson`, `Value.Plain.ofJson_toJson`: what is read, and the value that it
   stands for.
4. `Value.json_comes_back`: the text that the filter for JSON gives, and that of lists and maps.
-/

namespace Stencil

/-! ## Entries in their order -/

namespace Table

variable {α : Type}

theorem set_of_notMem {t : Table α} {key : String} (new : key ∉ keys t) (value : α) :
    set t key value = t ++ [(key, value)] := by
  induction t with
  | nil => rfl
  | cons entry rest ih =>
      obtain ⟨name, held⟩ := entry
      simp only [keys, List.map_cons, List.mem_cons, not_or] at new
      rw [set, if_neg (Ne.symm new.1), ih new.2, List.cons_append]

/-- Entries with names of their own are entered at the end, in their order. -/
theorem setAll_of_nodup {t more : Table α} (distinct : (keys (t ++ more)).Nodup) :
    setAll t more = t ++ more := by
  induction more generalizing t with
  | nil => exact (List.append_nil t).symm
  | cons entry rest ih =>
      have new : entry.1 ∉ keys t := by
        rw [keys, List.map_append, List.nodup_append] at distinct
        exact fun known => distinct.2.2 _ known _ List.mem_cons_self rfl
      have apart : t ++ entry :: rest = (t ++ [entry]) ++ rest := by simp
      rw [apart] at distinct ⊢
      rw [← ih distinct, ← set_of_notMem new]
      rfl

end Table

/-! ## Whole numbers -/

namespace Json

open Stencil.Decimal

/-- A whole number that fits 64 bits, with a sign or without, comes back. -/
theorem asRead_integer {n : Int} (low : -0x8000000000000000 ≤ n) (high : n < wordLimit) :
    asRead (.integer n) = some (.integer n) := by
  have limit : wordLimit = 0x10000000000000000 := rfl
  have whole : wholeNumber (n < 0) n.natAbs = .integer n := by
    by_cases negative : n < 0
    · have inRange : ¬(n.natAbs = 0 ∨ 0x8000000000000000 < n.natAbs) := by omega
      have back : -(n.natAbs : Int) = n := by omega
      rw [decide_eq_true negative, wholeNumber, if_neg (by decide), if_neg inRange, back]
    · have back : (n.natAbs : Int) = n := by omega
      rw [decide_eq_false negative, wholeNumber, if_pos (by decide), back]
  rw [asRead, ofDigits_of_lt (by omega), whole]

end Json

/-! ## Values -/

namespace Value

theorem toJsonItems_eq (items : List Value) : toJsonItems items = items.map toJson := by
  induction items with
  | nil => simp [toJsonItems]
  | cons item rest ih => rw [toJsonItems, ih, List.map_cons]

theorem toJsonMembers_eq (entries : List (String × Value)) :
    toJsonMembers entries = entries.map fun entry => (entry.1, entry.2.toJson) := by
  induction entries with
  | nil => simp [toJsonMembers]
  | cons entry rest ih => rw [toJsonMembers, ih, List.map_cons]

theorem ofJsonItems_eq (items : List Json) : ofJsonItems items = items.map ofJson := by
  induction items with
  | nil => simp [ofJsonItems]
  | cons item rest ih => rw [ofJsonItems, ih, List.map_cons]

theorem ofJsonMembers_eq (seen : Table Value) (members : List (String × Json)) :
    ofJsonMembers seen members =
      seen.setAll (members.map fun member => (member.1, ofJson member.2)) := by
  induction members generalizing seen with
  | nil => simp [ofJsonMembers, Table.setAll]
  | cons member rest ih =>
      rw [ofJsonMembers, ih, List.map_cons, Table.setAll, Table.setAll, List.foldl_cons]

/-- A value without doubles, with at most `depth` lists and maps inside each other. No two entries of
a map have one key. -/
inductive Plain : Nat → Value → Prop
  | null {depth : Nat} : Plain depth .null
  | bool {depth : Nat} (b : Bool) : Plain depth (.bool b)
  | int {depth : Nat} (n : Int64) : Plain depth (.int n)
  | string {depth : Nat} (s : String) : Plain depth (.string s)
  | list {depth : Nat} (items : List Value) (plain : ∀ item ∈ items, Plain depth item) :
      Plain (depth + 1) (.list items)
  | map {depth : Nat} (entries : Table Value) (distinct : entries.keys.Nodup)
      (plain : ∀ entry ∈ entries, Plain depth entry.2) : Plain (depth + 1) (.map entries)

namespace Plain

variable {depth : Nat} {v : Value}

theorem floatFree_toJson (h : v.Plain depth) : v.toJson.FloatFree := by
  induction h with
  | list items _ ih =>
      rw [toJson, Json.FloatFree, toJsonItems_eq, Json.floatFreeAll_iff]
      simpa using ih
  | map entries _ _ ih =>
      rw [toJson, Json.FloatFree, toJsonMembers_eq, Json.floatFreeMembers_iff]
      exact List.forall_mem_map.2 ih
  | _ => simp [toJson, Json.FloatFree]

theorem nesting_toJson_le (h : v.Plain depth) : v.toJson.nesting ≤ depth := by
  induction h with
  | list items _ ih =>
      rw [toJson, Json.nesting, toJsonItems_eq, Nat.add_le_add_iff_right, Json.nestingAll_le_iff]
      simpa using ih
  | map entries _ _ ih =>
      rw [toJson, Json.nesting, toJsonMembers_eq, Nat.add_le_add_iff_right,
        Json.nestingMembers_le_iff]
      exact List.forall_mem_map.2 ih
  | _ => simp [toJson, Json.nesting]

theorem asRead_toJson (h : v.Plain depth) : Json.asRead v.toJson = some v.toJson := by
  induction h with
  | int n =>
      rw [toJson]
      have low := n.minValue_le_toInt
      have high := n.toInt_lt
      exact Json.asRead_integer low (Int.lt_trans high (by decide))
  | list items _ ih =>
      rw [toJson, Json.asRead_array, toJsonItems_eq, Json.asReadAll_of_forall (by simpa using ih)]
      rfl
  | map entries _ _ ih =>
      rw [toJson, Json.asRead_object, toJsonMembers_eq,
        Json.asReadMembers_of_forall (List.forall_mem_map.2 ih)]
      rfl
  | _ => simp [toJson, Json.asRead]

theorem ofJson_toJson (h : v.Plain depth) : ofJson v.toJson = v := by
  induction h with
  | int n =>
      rw [toJson, ofJson, ofInteger, if_pos ⟨n.minValue_le_toInt, n.toInt_lt⟩, Int64.ofInt_toInt]
  | list items _ ih =>
      rw [toJson, ofJson, toJsonItems_eq, ofJsonItems_eq, List.map_map]
      exact congrArg Value.list ((List.map_congr_left ih).trans (List.map_id _))
  | map entries distinct _ ih =>
      have same : (entries.map fun entry => (entry.1, ofJson entry.2.toJson)) = entries :=
        (List.map_congr_left fun entry member => by rw [ih entry member, id]).trans (List.map_id _)
      rw [toJson, ofJson, toJsonMembers_eq, ofJsonMembers_eq, List.map_map]
      simp only [Function.comp_def, same]
      rw [Table.setAll_of_nodup (by simpa using distinct), List.nil_append]
  | _ => simp [toJson, ofJson]

end Plain

/-- The value is what is read from the text. -/
def Spells (text : String) (v : Value) : Prop := (Json.read text).map ofJson = some v

theorem Plain.spells_compact {v : Value} (plain : v.Plain Json.depthLimit) :
    Spells v.toJson.compact v := by
  have text : v.toJson.compact.toList = v.toJson.write ++ [] := by simp [Json.compact]
  have room : 2 * (v.toJson.write ++ []).length < 3 * (v.toJson.write ++ []).length + 3 := by omega
  have value := Json.readValue_write v.toJson plain.floatFree_toJson plain.nesting_toJson_le room
    (by rintro c ⟨⟩)
  rw [plain.asRead_toJson, Option.map_some] at value
  rw [Spells, Json.read, Json.readAll, text, value]
  simp [Json.skipSpace, plain.ofJson_toJson]

/-- What is written of a value as JSON is read as the same value. The filter for JSON gives this text,
and lists and maps are printed as it. -/
theorem json_comes_back {v : Value} (plain : v.Plain Json.depthLimit) :
    Spells v.toJson.compact v ∧
      (∀ args, ∃ text, Filter.json v args = .string text ∧ Spells text v) ∧
      ((∃ items, v = .list items) ∨ (∃ entries, v = .map entries) → Spells v.render v) := by
  have spells := plain.spells_compact
  refine ⟨spells, fun _ => ⟨_, rfl, spells⟩, ?_⟩
  rintro (⟨items, rfl⟩ | ⟨entries, rfl⟩)
  · exact spells
  · exact spells

/-- Keys out of order and one that is empty, both ends of the integers, and characters that are
escaped. -/
theorem json_comes_back_nested :
    let v : Value := .map
      [("b", .list [.int Int64.minValue, .int Int64.maxValue, .list []]), ("", .null),
        ("a\"\n", .map [("z", .string "\\ \x01 é😀"), ("y", .bool true)])]
    v.Plain Json.depthLimit ∧ Spells v.render v ∧
      v.render = "\x7b\"b\":[-9223372036854775808,9223372036854775807,[]],\"\":null," ++
        "\"a\\\"\\n\":\x7b\"z\":\"\\\\ \\u0001 é😀\",\"y\":true\x7d\x7d" := by
  intro v
  have inner : Plain 126 (.map [("z", .string "\\ \x01 é😀"), ("y", .bool true)]) :=
    .map _ (by decide) (by simpa using ⟨.string _, .bool _⟩)
  have items : Plain 126 (.list [.int Int64.minValue, .int Int64.maxValue, .list []]) :=
    .list _ (by simpa using ⟨.int _, .int _, .list [] (by simp)⟩)
  have plain : v.Plain Json.depthLimit :=
    .map _ (by decide) (by simpa using ⟨items, .null, inner⟩)
  exact ⟨plain, (json_comes_back plain).2.2 (.inr ⟨_, rfl⟩), by decide +kernel⟩

end Value

end Stencil
