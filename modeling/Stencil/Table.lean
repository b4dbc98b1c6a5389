/-!
# Tables

A table pairs names with entries and keeps them in the order of their insertion. `set` leaves the
entry of a known name at its place, `append` moves it to the end.

* `get?_set`, `get?_append`: the view through look-up, the same for both.
* `get?_join`, `get?_foldl_append`: of two tables put together the first one counts, of two that are
  appended entry by entry the second one.
* `keys_set`: what becomes of the order.
-/

namespace Stencil

/-- Names with their entries, in order. -/
abbrev Table (α : Type) := List (String × α)

namespace Table

variable {α : Type}

/-- The entry of a name: the first one that stands under it. -/
def get? : Table α → String → Option α
  | [], _ => none
  | (name, entry) :: rest, key => if name = key then some entry else get? rest key

/-- Whether the name has an entry. -/
def contains (t : Table α) (key : String) : Bool := (get? t key).isSome

/-- The names, in order. -/
def keys (t : Table α) : List String := t.map Prod.fst

/-- Enters a value. A known name keeps its place, a new one comes last. -/
def set : Table α → String → α → Table α
  | [], key, value => [(key, value)]
  | (name, entry) :: rest, key, value =>
      if name = key then (key, value) :: rest else (name, entry) :: set rest key value

/-- The table without a name. -/
def erase (t : Table α) (key : String) : Table α := t.filter fun entry => entry.1 ≠ key

/-- Enters a value at the end, also when the name is known. -/
def append (t : Table α) (key : String) (value : α) : Table α := erase t key ++ [(key, value)]

/-- Enters all values of another table, in its order. -/
def setAll (t : Table α) (more : Table α) : Table α :=
  more.foldl (fun t entry => set t entry.1 entry.2) t

/-- The names in the order of their characters. -/
def sortedKeys (t : Table α) : List String := (keys t).mergeSort fun a b => a ≤ b

theorem get?_set (t : Table α) (key name : String) (value : α) :
    get? (set t key value) name = if key = name then some value else get? t name := by
  induction t with
  | nil => simp [set, get?]
  | cons entry rest ih =>
      obtain ⟨first, held⟩ := entry
      by_cases same : first = key
      · subst same
        by_cases h : first = name <;> simp [set, get?, h]
      · by_cases h : key = name
        · subst h
          simp [set, get?, same, ih]
        · simp [set, get?, same, ih, h]

theorem get?_erase (t : Table α) (key name : String) :
    get? (erase t key) name = if key = name then none else get? t name := by
  induction t with
  | nil => simp [erase, get?]
  | cons entry rest ih =>
      obtain ⟨first, held⟩ := entry
      by_cases same : first = key
      · subst same
        have : erase ((first, held) :: rest) first = erase rest first := by simp [erase]
        rw [this, ih]
        by_cases h : first = name <;> simp [get?, h]
      · have : erase ((first, held) :: rest) key = (first, held) :: erase rest key := by
          simp [erase, same]
        rw [this]
        by_cases h : key = name
        · subst h
          simp [get?, same, ih]
        · simp [get?, ih, h]

theorem get?_join (t more : Table α) (key : String) :
    get? (t ++ more) key = (get? t key).or (get? more key) := by
  induction t with
  | nil => rfl
  | cons entry rest ih =>
      obtain ⟨name, held⟩ := entry
      by_cases h : name = key
      · simp [get?, h]
      · simp [get?, h, ih]

theorem contains_join (t more : Table α) (key : String) :
    contains (t ++ more) key = (contains t key || contains more key) := by
  rw [contains, get?_join, Option.isSome_or]
  rfl

theorem get?_single (key name : String) (value : α) :
    get? [(key, value)] name = if key = name then some value else none := rfl

theorem get?_append (t : Table α) (key name : String) (value : α) :
    get? (append t key value) name = if key = name then some value else get? t name := by
  rw [append, get?_join, get?_single, get?_erase]
  by_cases h : key = name
  · simp [h]
  · simp [h]

/-- If a table is appended entry by entry, of each name the last entry counts. -/
theorem get?_foldl_append (t more : Table α) (key : String) :
    get? (more.foldl (fun t entry => append t entry.1 entry.2) t) key =
      (get? more.reverse key).or (get? t key) := by
  induction more generalizing t with
  | nil => rfl
  | cons entry rest ih =>
      rw [List.foldl_cons, ih, get?_append, List.reverse_cons, get?_join, get?_single,
        Option.or_assoc]
      by_cases h : entry.1 = key <;> simp [h]

theorem mem_foldl_append {t more : Table α} {entry : String × α}
    (h : entry ∈ more.foldl (fun t entry => append t entry.1 entry.2) t) :
    entry ∈ t ∨ entry ∈ more := by
  induction more generalizing t with
  | nil => exact .inl h
  | cons head rest ih =>
      rw [List.mem_cons]
      rcases ih h with early | late
      · rcases List.mem_append.1 early with old | new
        · exact .inl (List.mem_filter.1 old).1
        · exact .inr (.inl (List.mem_singleton.1 new))
      · exact .inr (.inr late)

theorem mem_of_get? {t : Table α} {key : String} {entry : α} (h : get? t key = some entry) :
    (key, entry) ∈ t := by
  induction t with
  | nil => cases h
  | cons head rest ih =>
      obtain ⟨name, held⟩ := head
      rw [get?] at h
      split at h
      · next same =>
        subst same
        cases h
        exact List.mem_cons_self
      · exact List.mem_cons_of_mem _ (ih h)

theorem get?_of_mem {t : Table α} (distinct : t.keys.Nodup) {key : String} {entry : α}
    (h : (key, entry) ∈ t) : get? t key = some entry := by
  induction t with
  | nil => cases h
  | cons head rest ih =>
      obtain ⟨name, held⟩ := head
      obtain ⟨new, others⟩ := List.nodup_cons.1 distinct
      rw [get?]
      rcases List.mem_cons.1 h with first | further
      · cases first
        rw [if_pos rfl]
      · have later : name ≠ key := by
          rintro rfl
          exact new (List.mem_map.2 ⟨_, further, rfl⟩)
        rw [if_neg later, ih others further]

theorem contains_iff (t : Table α) (key : String) : contains t key = true ↔ key ∈ keys t := by
  induction t with
  | nil => simp [contains, get?, keys]
  | cons entry rest ih =>
      obtain ⟨first, held⟩ := entry
      simp only [contains, get?, keys, List.map_cons, List.mem_cons] at ih ⊢
      by_cases h : first = key
      · simp [h]
      · simp [h, ih, Ne.symm h]

theorem keys_set (t : Table α) (key : String) (value : α) :
    keys (set t key value) = if key ∈ keys t then keys t else keys t ++ [key] := by
  induction t with
  | nil => simp [set, keys]
  | cons entry rest ih =>
      obtain ⟨first, held⟩ := entry
      by_cases same : first = key
      · subst same
        simp [set, keys]
      · simp only [keys, set, same, if_false, List.map_cons, List.mem_cons, Ne.symm same,
          false_or] at ih ⊢
        rw [ih]
        by_cases h : key ∈ List.map Prod.fst rest <;> simp [h]

theorem contains_set (t : Table α) (key name : String) (value : α) :
    contains (set t key value) name = true ↔ key = name ∨ contains t name = true := by
  rw [contains, get?_set]
  by_cases h : key = name <;> simp [h, contains]

end Table

end Stencil
