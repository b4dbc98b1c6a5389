import Mathlib.Data.List.Nodup
import Stencil.Scope
import Stencil.Proofs.Json.Values

/-!
# Scopes in layers

A scope that is laid over another one gives all its bindings to the innermost frame of the other. It
is flattened from the outside in, so that inner bindings win, while look-up goes from the inside
out. Both agree as long as no frame binds a name twice, and no frame that is made ever does.

1. `Scope.Distinct`: no frame binds a name twice.
2. `Scope.get?_flatten`: flattening keeps what is in sight.
3. `Scope.get?_layer`, `Scope.at?_layer`: what a scope in two layers shows.
4. `Scope.Inside`: scopes with further frames inside of those of another one.
-/

namespace Stencil

namespace Table

variable {α : Type}

theorem nodup_keys_set {t : Table α} (distinct : t.keys.Nodup) (key : String) (value : α) :
    (t.set key value).keys.Nodup := by
  rw [keys_set]
  split
  · exact distinct
  · next new => exact List.nodup_append_comm.1 (List.nodup_cons.2 ⟨new, distinct⟩)

theorem nodup_keys_setAll {t : Table α} (distinct : t.keys.Nodup) (more : Table α) :
    (t.setAll more).keys.Nodup := by
  induction more generalizing t with
  | nil => exact distinct
  | cons entry rest ih => exact ih (nodup_keys_set distinct entry.1 entry.2)

/-- Of entries that are entered into a table the last one of a name counts, before what the table
has. -/
theorem get?_setAll (t more : Table α) (key : String) :
    get? (t.setAll more) key = (get? more.reverse key).or (get? t key) := by
  induction more generalizing t with
  | nil => rfl
  | cons entry rest ih =>
      rw [setAll, List.foldl_cons]
      refine (ih (t.set entry.1 entry.2)).trans ?_
      rw [get?_set, List.reverse_cons, get?_join, get?_single, Option.or_assoc]
      by_cases h : entry.1 = key <;> simp [h]

theorem get?_reverse {t : Table α} (distinct : t.keys.Nodup) (key : String) :
    get? t.reverse key = get? t key := by
  have back : (keys t.reverse).Nodup := by
    rw [keys, List.map_reverse, List.nodup_reverse]
    exact distinct
  refine Option.ext fun value => ⟨fun found => ?_, fun found => ?_⟩
  · exact get?_of_mem distinct (List.mem_reverse.1 (mem_of_get? found))
  · exact get?_of_mem back (List.mem_reverse.2 (mem_of_get? found))

end Table

namespace Scope

/-! ## Frames without repetition -/

/-- No frame binds a name twice. -/
def Distinct (s : Scope) : Prop := ∀ frame ∈ s.frames, frame.keys.Nodup

variable {s c base : Scope}

theorem distinct_ofTable {bindings : Table Value} (distinct : bindings.keys.Nodup) :
    (ofTable bindings).Distinct := by
  simpa [Distinct, frames, ofTable] using distinct

theorem distinct_empty : empty.Distinct := distinct_ofTable .nil

theorem distinct_of_ofJson? {data : Json} (h : ofJson? data = some s) : s.Distinct := by
  cases data with
  | object members =>
      obtain rfl := Option.some.inj h
      refine distinct_ofTable ?_
      rw [Value.ofJsonMembers_eq]
      exact Table.nodup_keys_setAll (t := []) .nil _
  | null | bool _ | integer _ | float _ | string _ | array _ => cases h

theorem Distinct.child (h : s.Distinct) : s.child.Distinct :=
  List.forall_mem_cons.2 ⟨.nil, h⟩

theorem Distinct.bind (h : s.Distinct) (name : String) (value : Value) :
    (s.bind name value).Distinct := by
  have parts := List.forall_mem_cons.1 h
  exact List.forall_mem_cons.2 ⟨Table.nodup_keys_set parts.1 name value, parts.2⟩

theorem Distinct.layer (h : base.Distinct) (c : Scope) : (c.layer base).Distinct := by
  have parts := List.forall_mem_cons.1 h
  exact List.forall_mem_cons.2 ⟨Table.nodup_keys_setAll parts.1 _, parts.2⟩

/-! ## What layers show -/

theorem find?_cons (frame : Table Value) (rest : List (Table Value)) (name : String) :
    find? (frame :: rest) name = (frame.get? name).or (find? rest name) := by
  rw [find?]
  cases frame.get? name <;> rfl

theorem find?_append (front back : List (Table Value)) (name : String) :
    find? (front ++ back) name = (find? front name).or (find? back name) := by
  induction front with
  | nil => rfl
  | cons frame rest ih => rw [List.cons_append, find?_cons, find?_cons, ih, Option.or_assoc]

theorem nodup_keys_flatten (frames : List (Table Value)) : (flatten frames).keys.Nodup := by
  induction frames with
  | nil => exact .nil
  | cons frame rest ih => exact Table.nodup_keys_setAll ih frame

theorem get?_flatten {frames : List (Table Value)} (distinct : ∀ frame ∈ frames, frame.keys.Nodup)
    (name : String) : (flatten frames).get? name = find? frames name := by
  induction frames with
  | nil => rfl
  | cons frame rest ih =>
      rw [List.forall_mem_cons] at distinct
      -- Of a name that the frame binds twice the last binding would be entered and the first found.
      rw [flatten, Table.get?_setAll, Table.get?_reverse distinct.1, find?_cons, ih distinct.2]

/-- A name is looked up in the upper layer and then in the lower one. -/
theorem get?_layer (distinct : c.Distinct) (base : Scope) (name : String) :
    (c.layer base).get? name = (c.get? name).or (base.get? name) := by
  have lower : base.get? name = (base.bindings.get? name).or (find? base.outer name) :=
    find?_cons _ _ _
  have both : (c.layer base).get? name =
      ((base.bindings.setAll (flatten c.frames)).get? name).or (find? base.outer name) :=
    find?_cons _ _ _
  rw [both, lower, Table.get?_setAll, Table.get?_reverse (nodup_keys_flatten _),
    get?_flatten distinct, Option.or_assoc]
  rfl

/-- Whether the scope has a value for the name that a path begins with. -/
def sees (s : Scope) (path : List Segment) : Bool :=
  path.head?.any fun root => s.contains (rootName root)

/-- The layer that has the name at the beginning of a path has the whole path. -/
theorem at?_layer (distinct : c.Distinct) (base : Scope) (path : List Segment) :
    (c.layer base).at? path = if c.sees path then c.at? path else base.at? path := by
  cases path with
  | nil => simp [at?]
  | cons root path =>
      rw [at?, get?_layer distinct, at?, at?]
      cases found : c.get? (rootName root) with
      | none => simp [sees, contains, found]
      | some value => simp [sees, contains, found]

/-! ## Scopes that show the same -/

/-- All names have the same values. -/
def Alike (s t : Scope) : Prop := ∀ name, s.get? name = t.get? name

theorem Alike.at? {t : Scope} (h : s.Alike t) (path : List Segment) : s.at? path = t.at? path := by
  cases path with
  | nil => rfl
  | cons root path => rw [Scope.at?, Scope.at?, h]

theorem alike_layer_layer (distinct : c.Distinct) (lower : base.Distinct) (ground : Scope) :
    ((c.layer base).layer ground).Alike (c.layer (base.layer ground)) := by
  intro name
  rw [get?_layer (lower.layer c), get?_layer distinct, get?_layer distinct, get?_layer lower,
    Option.or_assoc]

/-! ## Scopes inside of others -/

/-- The scope has the frames of another one, and perhaps more inside of them. -/
def Inside (s t : Scope) : Prop := ∃ inner, s.frames = inner ++ t.frames

theorem inside_refl (s : Scope) : s.Inside s := ⟨[], rfl⟩

theorem Inside.trans {t u : Scope} (h : s.Inside t) (h' : t.Inside u) : s.Inside u := by
  obtain ⟨inner, eq⟩ := h
  obtain ⟨between, eq'⟩ := h'
  exact ⟨inner ++ between, by rw [eq, eq', List.append_assoc]⟩

/-- Bindings in a child do not touch the frames around it. -/
theorem inside_of_outer {t : Scope} (h : s.outer = t.frames) : s.Inside t :=
  ⟨[s.bindings], by rw [frames, h]; rfl⟩

end Scope

end Stencil
