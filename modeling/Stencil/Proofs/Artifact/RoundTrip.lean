import Stencil.Artifact.Text
import Stencil.Proofs.Json.RoundTrip

/-!
# Artifacts, written and read

The text of an artifact spells this artifact and no other. It spells none if a number in it is too
large for the field that holds it.

1. `Instruction.ofJson?_asRead`: one instruction, by its constructor.
2. `Artifact.ofText?_toText`: a whole artifact.
3. `Artifact.fits_of_ofText?`: what is read of any text fits, however the text is laid out.
4. `Artifact.ofText?_inverts_toText`: writing and reading are inverse to each other.
-/

namespace Stencil

open Stencil.Json
open Stencil.Decimal (wordLimit)

namespace Instruction

/-- Whether the line number fits its field. -/
def fits : Instruction → Bool
  | echo _ _ line => line < lineLimit
  | unknownDirective _ line => line < lineLimit
  | _ => true

theorem ofJson?_of_line {spell : Json → Json} {make : Nat → Instruction}
    (spelled : ∀ j, ofJson? (spell j) = (j.natural? lineLimit).map make) (line : Nat) :
    ((asRead (.integer line)).map spell).bind ofJson? =
      if line < lineLimit then some (make line) else none := by
  have number := natural?_asRead (Nat.le_refl _ : lineLimit ≤ wordLimit) line
  calc ((asRead (.integer line)).map spell).bind ofJson?
      = ((asRead (.integer line)).bind (natural? lineLimit)).map make := by
        cases asRead (.integer line) with
        | none => rfl
        | some j => exact spelled j
    _ = if line < lineLimit then some (make line) else none := by
        rw [number]
        split <;> rfl

/-- What comes back of an instruction is the same, if its line number fits. -/
theorem ofJson?_asRead (i : Instruction) :
    (asRead i.toJson).bind ofJson? = if i.fits then some i else none := by
  cases i with
  | echo expression strategy line =>
      let spell (j : Json) : Json := .object [("op", .string "echo"),
        ("expression", .string expression),
        ("strategy", (strategy.map Json.string).getD .null), ("line", j)]
      have spelled (j : Json) :
          ofJson? (spell j) = (j.natural? lineLimit).map (echo expression strategy) := by
        cases strategy <;>
        · show (j.natural? lineLimit).bind _ = _
          cases j.natural? lineLimit <;> rfl
      have text : asRead (echo expression strategy line).toJson =
          (asRead (.integer line)).map spell := by
        cases strategy <;> cases back : asRead (.integer line) <;>
          simp [toJson, toMembers, asReadMembers, back, spell]
      rw [text, ofJson?_of_line spelled line]
      simp [fits]
  | unknownDirective name line =>
      let spell (j : Json) : Json :=
        .object [("op", .string "unknown_directive"), ("name", .string name), ("line", j)]
      have spelled (j : Json) :
          ofJson? (spell j) = (j.natural? lineLimit).map (unknownDirective name) := by
        show (j.natural? lineLimit).bind _ = _
        cases j.natural? lineLimit <;> rfl
      have text : asRead (unknownDirective name line).toJson =
          (asRead (.integer line)).map spell := by
        cases back : asRead (.integer line) <;> simp [toJson, toMembers, asReadMembers, back, spell]
      rw [text, ofJson?_of_line spelled line]
      simp [fits]
  | control op => cases op <;> simp [toJson, toMembers, Control.toMembers, asReadMembers] <;> rfl
  | literal text => simp [toJson, toMembers, asReadMembers]; rfl
  | comment text => simp [toJson, toMembers, asReadMembers]; rfl
  | openBlock name => simp [toJson, toMembers, asReadMembers]; rfl
  | closeBlock => simp [toJson, toMembers, asReadMembers]; rfl

theorem ofJson?_asReadAll (row : List Instruction) :
    (asReadAll (row.map toJson)).bind (·.mapM ofJson?) =
      if row.all fits then some row else none := by
  induction row with
  | nil => rfl
  | cons i rest ih =>
      calc (asReadAll ((i :: rest).map toJson)).bind (·.mapM ofJson?)
          = ((asRead i.toJson).bind ofJson?).bind fun first =>
              ((asReadAll (rest.map toJson)).bind (·.mapM ofJson?)).map (first :: ·) := by
            rw [List.map_cons, asReadAll]
            cases asRead i.toJson with
            | none => rfl
            | some j =>
                cases asReadAll (rest.map toJson) with
                | none => cases h : ofJson? j <;> simp [h]
                | some js => cases h : ofJson? j <;> cases more : js.mapM ofJson? <;> simp [h, more]
        _ = if (i :: rest).all fits then some (i :: rest) else none := by
            rw [ofJson?_asRead, ih, List.all_cons]
            cases i.fits <;> cases rest.all fits <;> rfl

/-- A line number that is read fits. -/
theorem fits_of_ofJson? {j : Json} {i : Instruction} (h : ofJson? j = some i) : i.fits = true := by
  simp only [ofJson?, bind, Option.bind_eq_some_iff] at h
  obtain ⟨r, -, ⟨tag, rest⟩, -, name, -, h⟩ := h
  dsimp only at h
  -- One case for each name; two of the forms have a line.
  split at h
  case h_2 =>
    simp only [Option.bind_eq_some_iff] at h
    obtain ⟨_, -, expression, -, strategy, -, line, isLine, made⟩ := h
    cases made
    exact decide_eq_true (Record.lt_of_natural? isLine)
  case h_4 =>
    simp only [Option.bind_eq_some_iff] at h
    obtain ⟨_, -, directive, -, line, isLine, made⟩ := h
    cases made
    exact decide_eq_true (Record.lt_of_natural? isLine)
  case h_1 | h_3 | h_5 =>
    simp only [Option.bind_eq_some_iff] at h
    obtain ⟨_, -, text, -, made⟩ := h
    cases made
    rfl
  case h_6 | h_7 =>
    obtain ⟨_, -, rfl⟩ := Option.map_eq_some_iff.1 h
    rfl
  case h_8 => cases h

theorem fits_of_mapM_ofJson? {items : List Json} {row : List Instruction}
    (h : items.mapM ofJson? = some row) : row.all fits = true := by
  induction items generalizing row with
  | nil =>
      cases h
      rfl
  | cons j rest ih =>
      simp only [List.mapM_cons, bind, Option.bind_eq_some_iff] at h
      obtain ⟨i, first, more, others, made⟩ := h
      cases made
      rw [List.all_cons, fits_of_ofJson? first, ih others]
      rfl

theorem floatFree (i : Instruction) : i.toJson.FloatFree := by
  cases i with
  | echo expression strategy line =>
      cases strategy <;> simp [toJson, toMembers, FloatFree, FloatFreeMembers]
  | control op =>
      cases op <;> simp [toJson, toMembers, Control.toMembers, FloatFree, FloatFreeMembers]
  | _ => simp [toJson, toMembers, FloatFree, FloatFreeMembers]

theorem nesting_toJson (i : Instruction) : i.toJson.nesting = 1 := by
  cases i with
  | echo expression strategy line =>
      cases strategy <;> simp [toJson, toMembers, nesting, nestingMembers]
  | control op => cases op <;> simp [toJson, toMembers, Control.toMembers, nesting, nestingMembers]
  | _ => simp [toJson, toMembers, nesting, nestingMembers]

end Instruction

namespace Artifact

/-- Whether all numbers fit their fields. -/
def fits (a : Artifact) : Bool := a.format < formatLimit && a.instructions.all Instruction.fits

/-- The values of the instructions, as the last member of the artifact. -/
theorem members_ready (a : Artifact) :
    FloatFreeAll (a.instructions.map Instruction.toJson) ∧
      nestingAll (a.instructions.map Instruction.toJson) ≤ 1 := by
  rw [floatFreeAll_iff, nestingAll_le_iff, List.forall_mem_map, List.forall_mem_map]
  exact ⟨fun i _ => i.floatFree, fun i _ => Nat.le_of_eq i.nesting_toJson⟩

def members (format : Json) (name : String) (items : List Json) : List (String × Json) :=
  [("format", format), ("name", .string name), ("instructions", .array items)]

theorem ofJson?_members (format : Json) (name : String) (items : List Json) :
    ofJson? (.object (members format name items)) =
      (format.natural? formatLimit).bind fun number =>
        (items.mapM Instruction.ofJson?).map (⟨number, name, ·⟩) := by
  show (format.natural? formatLimit).bind _ = _
  cases format.natural? formatLimit with
  | none => rfl
  | some number =>
      show (items.mapM Instruction.ofJson?).bind _ = _
      cases items.mapM Instruction.ofJson? <;> rfl

theorem asReadMembers_members (format : Json) (name : String) (items : List Json) :
    asReadMembers (members format name items) =
      (asRead format).bind fun format => (asReadAll items).map (members format name) := by
  cases h : asRead format <;> cases more : asReadAll items <;>
    simp [members, asReadMembers, h, more]

theorem readOnly_toText (a : Artifact) :
    readOnly demand a.toText =
      (asReadMembers (members (.integer a.format) a.name
        (a.instructions.map Instruction.toJson))).map .object := by
  obtain ⟨free, shallow⟩ := a.members_ready
  refine readOnly_compact (List.cons_ne_nil _ _) ?_ ?_ ?_
  · simp [FloatFreeMembers, FloatFree, free]
  · simp only [nestingMembers, nesting, depthLimit]
    omega
  · simp [demand, Demand.only, Demand.of?, List.lookup_cons]

/-- The text of an artifact spells this artifact, if its numbers fit, and else nothing. -/
theorem ofText?_toText (a : Artifact) : ofText? a.toText = if a.fits then some a else none := by
  calc ofText? a.toText
      = ((asRead (.integer a.format)).bind (natural? formatLimit)).bind fun number =>
          ((asReadAll (a.instructions.map Instruction.toJson)).bind
            (·.mapM Instruction.ofJson?)).map (⟨number, a.name, ·⟩) := by
        rw [ofText?, readOnly_toText, asReadMembers_members]
        cases asRead (.integer a.format) with
        | none => rfl
        | some format =>
            cases asReadAll (a.instructions.map Instruction.toJson) with
            | none => cases h : format.natural? formatLimit <;> simp [h]
            | some items => exact ofJson?_members format a.name items
    _ = if a.fits then some a else none := by
        rw [natural?_asRead (by decide : formatLimit ≤ wordLimit), Instruction.ofJson?_asReadAll,
          fits]
        by_cases h : a.format < formatLimit <;> cases a.instructions.all Instruction.fits <;>
          simp [h]

/-- Whatever the text of an artifact is read as is this artifact. -/
theorem eq_of_ofText? {a b : Artifact} (h : ofText? a.toText = some b) : b = a := by
  rw [ofText?_toText] at h
  split at h
  · exact (Option.some.inj h).symm
  · cases h

/-- The numbers of an artifact that is read fit. -/
theorem fits_of_ofText? {text : String} {a : Artifact} (h : ofText? text = some a) :
    a.fits = true := by
  obtain ⟨j, -, h⟩ := Option.bind_eq_some_iff.1 h
  simp only [ofJson?, bind, Option.bind_eq_some_iff] at h
  obtain ⟨r, -, sized, -, format, isFormat, name, -, listed, -, h⟩ := h
  split at h
  case h_2 => cases h
  obtain ⟨items, -, row, isRow, made⟩ := by simpa only [Option.bind_eq_some_iff] using h
  cases made
  rw [fits, decide_eq_true (Record.lt_of_natural? isFormat),
    Instruction.fits_of_mapM_ofJson? isRow]
  rfl

/-- Writing and reading are inverse to each other: an artifact whose numbers fit comes back from its
text, so no two of them have the same text, and an artifact that is read from any text, however it
is laid out, comes back from the text that is written of it. -/
theorem ofText?_inverts_toText :
    (∀ a : Artifact, a.fits = true → ofText? a.toText = some a) ∧
      (∀ a b : Artifact, a.fits = true → b.fits = true → a.toText = b.toText → a = b) ∧
      ∀ (text : String) (a : Artifact), ofText? text = some a → ofText? a.toText = some a := by
  have back (a : Artifact) (fits : a.fits = true) : ofText? a.toText = some a := by
    rw [ofText?_toText, if_pos fits]
  refine ⟨back, fun a b fitsA fitsB same => ?_, fun text a read => back a (fits_of_ofText? read)⟩
  have read := back a fitsA
  rw [same, back b fitsB] at read
  exact (Option.some.inj read).symm

/-- An instruction of every form, with the largest numbers and with characters that are escaped. -/
def everyForm : Artifact :=
  ⟨0xffffffff, "a \"page\" \\ \x08\x1f\n😀",
    [.literal "<\u2028>", .echo "x" (some "html") 0xffffffffffffffff, .echo "" none 0, .comment "",
      .unknownDirective "d" 0xffffffffffffffff, .openBlock "'", .closeBlock,
      .control (.openIf "a"), .control (.elseIf "b"), .control .otherwise, .control .closeIf,
      .control (.openForeach "xs as x"), .control .closeForeach, .control (.openFor "i in 1..2"),
      .control .closeFor, .control (.openWhile "x"), .control .closeWhile,
      .control (.insert "part"), .control (.inherit "base")]⟩

/-- A text with its members in another order, and with one that nobody asks for. -/
def otherLayout : String :=
  "\x7b\"name\": \"\\u0041\", \"at\": 0.5, \"instructions\": [], \"format\": 7\x7d"

/-- What this text spells. -/
def plain : Artifact := ⟨7, "A", []⟩

theorem ofText?_inverts_toText_everyForm :
    everyForm.fits = true ∧ plain.fits = true ∧ ofText? everyForm.toText = some everyForm ∧
      everyForm.toText ≠ plain.toText ∧ ofText? otherLayout = some plain ∧
      ofText? plain.toText = some plain := by
  obtain ⟨back, apart, again⟩ := ofText?_inverts_toText
  have fits : everyForm.fits = true := by decide
  have fitsPlain : plain.fits = true := by decide
  have differ : everyForm ≠ plain := by decide
  have read : ofText? otherLayout = some plain := by decide +kernel
  refine ⟨fits, fitsPlain, back everyForm fits, fun same => ?_, read, again otherLayout plain read⟩
  exact differ (apart everyForm plain fits fitsPlain same)

end Artifact

end Stencil
