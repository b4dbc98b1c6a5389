import Stencil.Json.Basic

/-!
# Records in JSON

A record is an object with a member for every field, in any order and possibly with members that
nobody asks for, or an array of its fields in their order. A field that stands twice makes the
record unreadable.
-/

namespace Stencil.Json

/-- The fields of a record. -/
inductive Record where
  | named (members : List (String × Json))
  | listed (items : List Json)
deriving Inhabited

namespace Record

/-- The record that a value spells. -/
def ofJson? : Json → Option Record
  | .object members => some (named members)
  | .array items => some (listed items)
  | _ => none

/-- The members of one name. -/
def membersOf (members : List (String × Json)) (name : String) : List Json :=
  (members.filter fun member => member.1 == name).map Prod.snd

/-- A field by its name or its place: `none` for a field that stands twice, `some none` for one that
is missing. -/
def field? (r : Record) (place : Nat) (name : String) : Option (Option Json) :=
  match r with
  | listed items => some items[place]?
  | named members =>
      match membersOf members name with
      | [] => some none
      | [value] => some (some value)
      | _ => none

/-- A field that must be there. -/
def required? (r : Record) (place : Nat) (name : String) : Option Json := (r.field? place name).join

/-- A text field that must be there. -/
def text? (r : Record) (place : Nat) (name : String) : Option String :=
  (r.required? place name).bind string?

/-- A whole number below a limit that must be there. -/
def natural? (limit : Nat) (r : Record) (place : Nat) (name : String) : Option Nat :=
  (r.required? place name).bind (Json.natural? limit)

/-- A text field that may be null. Among named fields it may also be missing. -/
def optionalText? (r : Record) (place : Nat) (name : String) : Option (Option String) :=
  match r, r.field? place name with
  | _, none => none
  | named _, some none => some none
  | listed _, some none => none
  | _, some (some .null) => some none
  | _, some (some (.string s)) => some (some s)
  | _, some (some _) => none

/-- The record, unless it lists another number of fields. -/
def sized? (r : Record) (fields : Nat) : Option Record :=
  match r with
  | listed items => if items.length = fields then some r else none
  | named _ => some r

/-- The first field, which says what the record is, and the other fields. -/
def tagged? (r : Record) (name : String) : Option (Json × Record) :=
  match r with
  | listed [] => none
  | listed (tag :: items) => some (tag, listed items)
  | named members =>
      match membersOf members name with
      | [tag] => some (tag, named (members.filter fun member => member.1 != name))
      | _ => none

theorem lt_of_natural? {limit n : Nat} {r : Record} {place : Nat} {name : String}
    (h : r.natural? limit place name = some n) : n < limit := by
  obtain ⟨j, -, spelled⟩ := Option.bind_eq_some_iff.1 h
  exact Json.lt_of_natural? spelled

end Record

end Stencil.Json
