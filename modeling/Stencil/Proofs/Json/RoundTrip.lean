import Stencil.Proofs.Json.Leaves

/-!
# JSON, written and read

The reader takes the text of a value off the front of any text. What it gives is the value, but for
whole numbers that do not fit 64 bits: those it reads as doubles, or not at all.

1. `readValue_write`: what is read of a value that was written.
2. `natural?_asRead`: what comes back of a number that is not negative.
3. `readOnly_compact`: the text of an object, for a reader that wants all of its members.
-/

namespace Stencil.Json

open Stencil.Decimal
open Stencil.Text

mutual
/-- Whether no double stands in the value. -/
def FloatFree : Json → Prop
  | float _ => False
  | array items => FloatFreeAll items
  | object members => FloatFreeMembers members
  | _ => True

def FloatFreeAll : List Json → Prop
  | [] => True
  | item :: rest => FloatFree item ∧ FloatFreeAll rest

def FloatFreeMembers : List (String × Json) → Prop
  | [] => True
  | (_, value) :: rest => FloatFree value ∧ FloatFreeMembers rest
end

mutual
/-- How many arrays and objects stand inside each other. -/
def nesting : Json → Nat
  | array items => nestingAll items + 1
  | object members => nestingMembers members + 1
  | _ => 0

def nestingAll : List Json → Nat
  | [] => 0
  | item :: rest => max (nesting item) (nestingAll rest)

def nestingMembers : List (String × Json) → Nat
  | [] => 0
  | (_, value) :: rest => max (nesting value) (nestingMembers rest)
end

theorem floatFreeAll_iff (items : List Json) :
    FloatFreeAll items ↔ ∀ item ∈ items, item.FloatFree := by
  induction items with
  | nil => simp [FloatFreeAll]
  | cons item rest ih => rw [FloatFreeAll, ih, List.forall_mem_cons]

theorem floatFreeMembers_iff (members : List (String × Json)) :
    FloatFreeMembers members ↔ ∀ member ∈ members, member.2.FloatFree := by
  induction members with
  | nil => simp [FloatFreeMembers]
  | cons member rest ih => rw [FloatFreeMembers, ih, List.forall_mem_cons]

theorem nestingAll_le_iff (items : List Json) (depth : Nat) :
    nestingAll items ≤ depth ↔ ∀ item ∈ items, item.nesting ≤ depth := by
  induction items with
  | nil => simp [nestingAll]
  | cons item rest ih => rw [nestingAll, Nat.max_le, ih, List.forall_mem_cons]

theorem nestingMembers_le_iff (members : List (String × Json)) (depth : Nat) :
    nestingMembers members ≤ depth ↔ ∀ member ∈ members, member.2.nesting ≤ depth := by
  induction members with
  | nil => simp [nestingMembers]
  | cons member rest ih => rw [nestingMembers, Nat.max_le, ih, List.forall_mem_cons]

mutual
/-- What the reader makes of the text of a value. -/
def asRead : Json → Option Json
  | integer n => ofDigits (n < 0) (decimalDigits n.natAbs)
  | array items => (asReadAll items).map array
  | object members => (asReadMembers members).map object
  | j => some j

def asReadAll : List Json → Option (List Json)
  | [] => some []
  | item :: rest => (asRead item).bind fun item => (asReadAll rest).map (item :: ·)

def asReadMembers : List (String × Json) → Option (List (String × Json))
  | [] => some []
  | (name, value) :: rest =>
      (asRead value).bind fun value => (asReadMembers rest).map ((name, value) :: ·)
end

@[simp] theorem asRead_null : asRead .null = some .null := by simp [asRead]

@[simp] theorem asRead_string (s : String) : asRead (.string s) = some (.string s) := by
  simp [asRead]

@[simp] theorem asRead_array (items : List Json) :
    asRead (.array items) = (asReadAll items).map .array := by
  rw [asRead]

@[simp] theorem asRead_object (members : List (String × Json)) :
    asRead (.object members) = (asReadMembers members).map .object := by
  rw [asRead]

theorem asReadAll_of_forall {items : List Json} (same : ∀ item ∈ items, asRead item = some item) :
    asReadAll items = some items := by
  induction items with
  | nil => simp [asReadAll]
  | cons item rest ih =>
      rw [List.forall_mem_cons] at same
      simp [asReadAll, same.1, ih same.2]

theorem asReadMembers_of_forall {members : List (String × Json)}
    (same : ∀ member ∈ members, asRead member.2 = some member.2) :
    asReadMembers members = some members := by
  induction members with
  | nil => simp [asReadMembers]
  | cons member rest ih =>
      rw [List.forall_mem_cons] at same
      simp [asReadMembers, same.1, ih same.2]

/-! ## The first character -/

theorem toList_ofInt (n : Int) :
    (ofInt n).toList =
      if n < 0 then '-' :: decimalDigits n.natAbs else decimalDigits n.natAbs := by
  rw [ofInt, Int.toString_eq_repr, Int.repr_eq_if]
  by_cases h : 0 ≤ n
  · have size : n.toNat = n.natAbs := by omega
    rw [if_pos h, if_neg (by omega), Nat.toList_repr, size]
    rfl
  · have size : (-n).toNat = n.natAbs := by omega
    rw [if_neg h, if_pos (by omega), String.toList_append, Nat.toList_repr, size]
    rfl

theorem write_integer (n : Int) :
    write (integer n) =
      if n < 0 then '-' :: decimalDigits n.natAbs else decimalDigits n.natAbs := by
  rw [← toList_ofInt]
  simp [write, writeAtom]

theorem isSpace_of_isDigit {c : Char} (h : isDigit c = true) : isSpace c = false := by
  rw [Bool.eq_false_iff]
  intro blank
  simp only [isSpace, Bool.or_eq_true, beq_iff_eq] at blank
  rcases blank with ((rfl | rfl) | rfl) | rfl <;> cases h

/-- The text of a value does not begin with a blank, a closing mark or nothing. -/
theorem write_start {j : Json} (free : j.FloatFree) (rest : List Char) :
    ∃ c more, write j ++ rest = c :: more ∧ isSpace c = false ∧ c ≠ ']' ∧ c ≠ '\x7d' := by
  cases j with
  | null => exact ⟨_, _, rfl, by decide, by decide, by decide⟩
  | bool b => cases b <;> exact ⟨_, _, rfl, by decide, by decide, by decide⟩
  | integer n =>
      rw [write_integer]
      split
      · exact ⟨_, _, rfl, by decide, by decide, by decide⟩
      · obtain ⟨c, more, shape⟩ := List.exists_cons_of_ne_nil (decimalDigits_ne_nil n.natAbs)
        have digit : isDigit c = true := isDigit_of_decimal (shape ▸ List.mem_cons_self)
        refine ⟨c, more ++ rest, by rw [shape]; rfl, isSpace_of_isDigit digit, ?_, ?_⟩
        · rintro rfl
          cases digit
        · rintro rfl
          cases digit
  | float x => exact free.elim
  | string s => exact ⟨_, _, rfl, by decide, by decide, by decide⟩
  | array items => exact ⟨_, _, rfl, by decide, by decide, by decide⟩
  | object members => exact ⟨_, _, rfl, by decide, by decide, by decide⟩

theorem skipSpace_of_start {c : Char} (h : isSpace c = false) (more : List Char) :
    skipSpace (c :: more) = c :: more := by
  simp [skipSpace, h]

theorem readValue_digit {c : Char} (digit : isDigit c = true) (steps depth : Nat) (demand : Demand)
    (more : List Char) :
    readValue (steps + 1) depth demand (c :: more) = readNumber false (c :: more) := by
  rw [readValue, skipSpace_of_start (isSpace_of_isDigit digit)]
  split
  all_goals first
    | rfl
    | next shape =>
      cases shape
      cases digit

theorem readValue_minus (steps depth : Nat) (demand : Demand) (rest : List Char) :
    readValue (steps + 1) depth demand ('-' :: rest) = readNumber true rest := by
  simp [readValue, skipSpace, isSpace]

theorem readValue_opened {c : Char} (blank : isSpace c = false) (closing : c ≠ ']')
    (steps depth : Nat) (demand : Demand) (more : List Char) :
    readValue (steps + 1) (depth + 1) demand ('[' :: c :: more) =
      readItems steps depth demand.items [] (c :: more) := by
  simp [readValue, skipSpace_of_start blank, skipSpace_of_start (by decide : isSpace '[' = false),
    closing]

theorem readValue_members {members : List (String × Json)} (any : members ≠ [])
    (steps depth : Nat) (demand : Demand) (rest : List Char) :
    readValue (steps + 1) (depth + 1) demand ('\x7b' :: (writeMembers members ++ rest)) =
      readMembers steps depth demand [] (writeMembers members ++ rest) := by
  cases members with
  | nil => exact absurd rfl any
  | cons member more => simp [readValue, writeMembers, writeString, skipSpace, isSpace]

/-- One member whose value is wanted, and what comes after it. -/
theorem readMembers_named {demand : Demand} {name : String} (known : demand.of? name = some .whole)
    (steps depth : Nat) (seen : List (String × Json)) (cs : List Char) :
    readMembers (steps + 1 + 1) depth demand seen (writeString name ++ ':' :: cs) =
      (readValue steps depth .whole cs).bind fun (value, rest) =>
        match skipSpace rest with
        | ',' :: rest => readMembers (steps + 1) depth demand ((name, value) :: seen) rest
        | '\x7d' :: rest => some (.object ((name, value) :: seen).reverse, rest)
        | _ => none := by
  have opened : skipSpace (writeString name ++ ':' :: cs) =
      '"' :: (stringBody name.toList ++ '"' :: ':' :: cs) := by
    simp [writeString, skipSpace, isSpace]
  have key : readString [] (stringBody name.toList ++ '"' :: ':' :: cs) =
      some (name, ':' :: cs) := by
    simpa using readString_stringBody name.toList [] (':' :: cs)
  have colon : skipSpace (':' :: cs) = ':' :: cs := by simp [skipSpace, isSpace]
  have member : readMember (steps + 1) depth demand name seen cs =
      (readValue steps depth .whole cs).map fun (value, rest) => ((name, value) :: seen, rest) := by
    rw [readMember, known]
  rw [readMembers, opened]
  simp only [key, colon, member]
  cases readValue steps depth .whole cs <;> rfl

theorem endsNumber_cons {c : Char} (h : isDigit c = false ∧ c ≠ '.' ∧ c ≠ 'e' ∧ c ≠ 'E')
    (rest : List Char) : EndsNumber (c :: rest) := by
  rintro d ⟨⟩
  exact h

/-! ## Values -/

theorem readValue_integer (n : Int) {rest : List Char} (stop : EndsNumber rest)
    (steps depth : Nat) (demand : Demand) :
    readValue (steps + 1) depth demand (write (integer n) ++ rest) =
      (asRead (integer n)).map (·, rest) := by
  rw [write_integer, asRead]
  by_cases negative : n < 0
  · rw [if_pos negative, List.cons_append, readValue_minus, readNumber_digits _ _ stop,
      decide_eq_true negative]
  · obtain ⟨c, more, shape⟩ := List.exists_cons_of_ne_nil (decimalDigits_ne_nil n.natAbs)
    have digit : isDigit c = true := isDigit_of_decimal (shape ▸ List.mem_cons_self)
    have number := readNumber_digits false n.natAbs stop
    rw [shape] at number
    rw [if_neg negative, decide_eq_false negative, shape, List.cons_append,
      readValue_digit digit]
    exact number

mutual
/-- What is read from the front of a text that begins with that of a value. Every step of the reader
takes a character or stands before one that it takes next, so two steps for a character are
enough. -/
theorem readValue_write (j : Json) (free : j.FloatFree) {steps depth : Nat} {rest : List Char}
    (deep : j.nesting ≤ depth) (enough : 2 * (write j ++ rest).length < steps)
    (stop : EndsNumber rest) :
    readValue steps depth .whole (write j ++ rest) = (asRead j).map (·, rest) := by
  obtain ⟨steps, rfl⟩ := Nat.exists_eq_add_one.2 (Nat.zero_lt_of_lt enough)
  match j with
  | null => simp [readValue, write, writeAtom, skipSpace, isSpace, asRead]
  | bool true => simp [readValue, write, writeAtom, skipSpace, isSpace, asRead]
  | bool false => simp [readValue, write, writeAtom, skipSpace, isSpace, asRead]
  | integer n => exact readValue_integer n stop steps depth .whole
  | float x => exact free.elim
  | string s =>
      have text := readString_stringBody s.toList [] rest
      simp [readValue, write, writeString, skipSpace, isSpace, text, asRead]
  | array [] =>
      obtain ⟨inner, rfl⟩ := Nat.exists_eq_add_one.2 (Nat.lt_of_lt_of_le (Nat.succ_pos _) deep)
      simp [readValue, write, writeItems, skipSpace, isSpace, asRead, asReadAll]
  | array (item :: more) =>
      obtain ⟨inner, rfl⟩ := Nat.exists_eq_add_one.2 (Nat.lt_of_lt_of_le (Nat.succ_pos _) deep)
      have text : write (array (item :: more)) ++ rest =
          '[' :: (writeItems (item :: more) ++ ']' :: rest) := by
        simp [write]
      have head : writeItems (item :: more) ++ ']' :: rest =
          write item ++ (writeMoreItems more ++ ']' :: rest) := by
        rw [writeItems, List.append_assoc]
      have freeAll : FloatFreeAll (item :: more) := by simpa [FloatFree] using free
      have shallow : nestingAll (item :: more) ≤ inner := by simpa [nesting] using deep
      have room : 2 * (writeItems (item :: more) ++ ']' :: rest).length + 1 < steps := by
        rw [text, List.length_cons] at enough
        omega
      have items := readItems_write (item :: more) (List.cons_ne_nil _ _) freeAll shallow room []
      -- The reader looks for a closing bracket first, and an item does not begin with one.
      obtain ⟨c, tail, shape, blank, closing, -⟩ :=
        write_start freeAll.1 (writeMoreItems more ++ ']' :: rest)
      rw [text]
      rw [head, shape] at items ⊢
      rw [readValue_opened blank closing]
      exact items.trans (by simp [asRead, Option.map_map, Function.comp_def])
  | object [] =>
      obtain ⟨inner, rfl⟩ := Nat.exists_eq_add_one.2 (Nat.lt_of_lt_of_le (Nat.succ_pos _) deep)
      simp [readValue, write, writeMembers, skipSpace, isSpace, asRead, asReadMembers]
  | object (member :: more) =>
      obtain ⟨inner, rfl⟩ := Nat.exists_eq_add_one.2 (Nat.lt_of_lt_of_le (Nat.succ_pos _) deep)
      have text : write (object (member :: more)) ++ rest =
          '\x7b' :: (writeMembers (member :: more) ++ '\x7d' :: rest) := by
        simp [write]
      have freeAll : FloatFreeMembers (member :: more) := by simpa [FloatFree] using free
      have shallow : nestingMembers (member :: more) ≤ inner := by simpa [nesting] using deep
      have room : 2 * (writeMembers (member :: more) ++ '\x7d' :: rest).length + 1 < steps := by
        rw [text, List.length_cons] at enough
        omega
      have wanted : ∀ m ∈ member :: more, Demand.whole.of? m.1 = some .whole := fun _ _ => rfl
      rw [text, readValue_members (List.cons_ne_nil _ _),
        readMembers_write (member :: more) (List.cons_ne_nil _ _) freeAll wanted shallow room []]
      simp [asRead, Option.map_map, Function.comp_def]

theorem readItems_write (items : List Json) (any : items ≠ []) (free : FloatFreeAll items)
    {steps depth : Nat} {rest : List Char} (deep : nestingAll items ≤ depth)
    (enough : 2 * (writeItems items ++ ']' :: rest).length + 1 < steps) (seen : List Json) :
    readItems steps depth [] seen (writeItems items ++ ']' :: rest) =
      (asReadAll items).map fun items => (.array (seen.reverse ++ items), rest) := by
  obtain ⟨steps, rfl⟩ := Nat.exists_eq_add_one.2 (Nat.zero_lt_of_lt enough)
  match items with
  | [] => exact absurd rfl any
  | [item] =>
      have shape : writeItems [item] ++ ']' :: rest = write item ++ ']' :: rest := by
        simp [writeItems, writeMoreItems]
      rw [shape] at enough ⊢
      have room : 2 * (write item ++ ']' :: rest).length < steps := by omega
      have value := readValue_write item free.1 (Nat.le_trans (Nat.le_max_left _ _) deep) room
        (endsNumber_cons (by decide) rest)
      cases read : asRead item <;> simp [readItems, value, read, asReadAll, skipSpace, isSpace]
  | item :: next :: more =>
      have shape : writeItems (item :: next :: more) ++ ']' :: rest =
          write item ++ ',' :: (writeItems (next :: more) ++ ']' :: rest) := by
        simp [writeItems, writeMoreItems]
      rw [shape] at enough ⊢
      have room : 2 * (write item ++ ',' :: (writeItems (next :: more) ++ ']' :: rest)).length <
          steps := by
        omega
      have roomFurther : 2 * (writeItems (next :: more) ++ ']' :: rest).length + 1 < steps := by
        rw [List.length_append, List.length_cons] at enough
        omega
      have value := readValue_write item free.1 (Nat.le_trans (Nat.le_max_left _ _) deep) room
        (endsNumber_cons (by decide) _)
      have further := readItems_write (next :: more) (List.cons_ne_nil _ _) free.2
        (Nat.le_trans (Nat.le_max_right _ _) deep) roomFurther
      cases read : asRead item with
      | none => simp [readItems, value, read, asReadAll]
      | some back =>
          rw [asReadAll, read, Option.bind_some, Option.map_map]
          simp [readItems, value, read, skipSpace, isSpace, further, Function.comp_def]

theorem readMembers_write (members : List (String × Json)) (any : members ≠ [])
    (free : FloatFreeMembers members) {steps depth : Nat} {demand : Demand}
    (wanted : ∀ member ∈ members, demand.of? member.1 = some .whole)
    {rest : List Char} (deep : nestingMembers members ≤ depth)
    (enough : 2 * (writeMembers members ++ '\x7d' :: rest).length + 1 < steps)
    (seen : List (String × Json)) :
    readMembers steps depth demand seen (writeMembers members ++ '\x7d' :: rest) =
      (asReadMembers members).map fun members => (.object (seen.reverse ++ members), rest) := by
  obtain ⟨steps, rfl⟩ := Nat.exists_eq_add_one.2 (Nat.zero_lt_of_lt enough)
  match members with
  | [] => exact absurd rfl any
  | [(name, value)] =>
      have shape : writeMembers [(name, value)] ++ '\x7d' :: rest =
          writeString name ++ ':' :: (write value ++ '\x7d' :: rest) := by
        simp [writeMembers, writeMoreMembers]
      rw [shape] at enough ⊢
      simp only [List.length_append, List.length_cons] at enough
      obtain ⟨steps, rfl⟩ := Nat.exists_eq_add_one.2 (by omega : 0 < steps)
      have room : 2 * (write value ++ '\x7d' :: rest).length < steps := by
        rw [List.length_append, List.length_cons]
        omega
      have back := readValue_write value free.1 (Nat.le_trans (Nat.le_max_left _ _) deep) room
        (endsNumber_cons (by decide) rest)
      rw [readMembers_named (wanted _ List.mem_cons_self), back]
      cases read : asRead value <;> simp [read, asReadMembers, skipSpace, isSpace]
  | (name, value) :: next :: more =>
      have shape : writeMembers ((name, value) :: next :: more) ++ '\x7d' :: rest =
          writeString name ++ ':' ::
            (write value ++ ',' :: (writeMembers (next :: more) ++ '\x7d' :: rest)) := by
        simp [writeMembers, writeMoreMembers]
      rw [shape] at enough ⊢
      simp only [List.length_append, List.length_cons] at enough
      obtain ⟨steps, rfl⟩ := Nat.exists_eq_add_one.2 (by omega : 0 < steps)
      have room :
          2 * (write value ++ ',' :: (writeMembers (next :: more) ++ '\x7d' :: rest)).length <
            steps := by
        simp only [List.length_append, List.length_cons]
        omega
      have roomFurther : 2 * (writeMembers (next :: more) ++ '\x7d' :: rest).length + 1 <
          steps + 1 := by
        simp only [List.length_append, List.length_cons]
        omega
      have back := readValue_write value free.1 (Nat.le_trans (Nat.le_max_left _ _) deep) room
        (endsNumber_cons (by decide) _)
      have further := readMembers_write (next :: more) (List.cons_ne_nil _ _) free.2
        (fun member inMore => wanted member (List.mem_cons_of_mem _ inMore))
        (Nat.le_trans (Nat.le_max_right _ _) deep) roomFurther
      rw [readMembers_named (wanted _ List.mem_cons_self), back]
      cases read : asRead value with
      | none => simp [read, asReadMembers]
      | some found =>
          rw [asReadMembers, read, Option.bind_some, Option.map_map]
          simp [skipSpace, isSpace, further, Function.comp_def]
end

/-- A number below the limit comes back, and a larger one as no whole number. -/
theorem natural?_asRead {limit : Nat} (h : limit ≤ wordLimit) (n : Nat) :
    (asRead (.integer n)).bind (natural? limit) = if n < limit then some n else none := by
  rw [asRead, Int.natAbs_natCast, decide_eq_false (Int.not_lt.2 (Int.natCast_nonneg n))]
  exact natural?_ofDigits h n

theorem readOnly_compact {members : List (String × Json)} (any : members ≠ [])
    (free : FloatFreeMembers members) (deep : nestingMembers members < depthLimit)
    {demand : Demand} (wanted : ∀ member ∈ members, demand.of? member.1 = some .whole) :
    readOnly demand (compact (.object members)) = (asReadMembers members).map .object := by
  have text : (compact (.object members)).toList =
      '\x7b' :: (writeMembers members ++ ['\x7d']) := by
    simp [compact, write]
  have room : 2 * (writeMembers members ++ '\x7d' :: []).length + 1 <
      3 * ('\x7b' :: (writeMembers members ++ ['\x7d'])).length + 2 := by
    simp only [List.length_cons]
    omega
  have value := readMembers_write members any free wanted (Nat.le_of_lt_succ deep) room []
  rw [readOnly, readAll, text, depthLimit, readValue_members any, value]
  cases asReadMembers members <;> rfl

end Stencil.Json
