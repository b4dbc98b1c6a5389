import Stencil.Error
import Stencil.Text.Find

/-!
# Locating errors

The characters of a source that an error is about: the place of a malformed tag, the name of an
undefined variable on its line.

* `lineAt?_within`: a line and its break lie within the source.
-/

namespace Stencil.Report

open Stencil.Text

/-- The characters from `start` up to before `stop`. -/
structure Span where
  start : Nat
  stop : Nat
deriving DecidableEq, Repr

/-- The first line of a text, and what follows its break if it has one. -/
def firstLine (cs : List Char) : List Char × Option (List Char) :=
  match cutAt ['\n'] cs with
  | some (line, rest) => (line, some rest)
  | none => (cs, none)

/-- Where the line that comes `skip` lines later begins, and its text. -/
def lineFrom (offset : Nat) (cs : List Char) : Nat → Option (Nat × List Char)
  | 0 => some (offset, (firstLine cs).1)
  | skip + 1 =>
      match firstLine cs with
      | (_, none) => none
      | (line, some rest) => lineFrom (offset + line.length + 1) rest skip

/-- Where a line, counted from one, begins in the source, and its text without the break. -/
def lineAt? (source : List Char) (line : Nat) : Option (Nat × List Char) :=
  if line = 0 then none else lineFrom 0 source (line - 1)

/-- The name at the front of a path. -/
def rootOf (path : String) : List Char := path.toList.takeWhile fun c => c != '.' && c != '['

/-- The place of a name on a line, or else the whole line. -/
def nameSpan (start : Nat) (line name : List Char) : Span :=
  match cutAt name line with
  | some (before, _) => ⟨start + before.length, start + before.length + name.length⟩
  | none => ⟨start, start + line.length⟩

/-- What an error is about in the source, and what to say about it there. -/
def locate? (source : String) : RenderError → Option (Span × String)
  | .malformed cause =>
      (lineAt? source.toList cause.position.line).map fun (start, line) =>
        let offset := start + min (cause.position.column - 1) line.length
        (⟨offset, offset + 1⟩, cause.message)
  | .undefinedVariable name _ line =>
      (lineAt? source.toList line).map fun (start, line) =>
        (nameSpan start line (rootOf name), "\"" ++ name ++ "\" is not defined")
  | _ => none

theorem firstLine_length {cs line rest : List Char} (h : firstLine cs = (line, some rest)) :
    line.length + 1 + rest.length = cs.length := by
  unfold firstLine at h
  split at h
  · rename_i found
    have := cutAt_sound found
    simp only [Prod.mk.injEq, Option.some.injEq] at h
    obtain ⟨rfl, rfl⟩ := h
    rw [← this]
    simp only [List.length_append, List.length_cons, List.length_nil]
  · simp at h

theorem firstLine_le (cs : List Char) : (firstLine cs).1.length ≤ cs.length := by
  rcases found : firstLine cs with ⟨line, rest⟩
  cases rest with
  | none =>
      unfold firstLine at found
      split at found <;> simp_all
  | some rest =>
      have := firstLine_length found
      simp only
      omega

theorem lineFrom_within {offset skip start : Nat} {cs line : List Char}
    (h : lineFrom offset cs skip = some (start, line)) :
    offset ≤ start ∧ start + line.length ≤ offset + cs.length := by
  induction skip generalizing offset cs with
  | zero =>
      simp only [lineFrom, Option.some.injEq, Prod.mk.injEq] at h
      obtain ⟨rfl, rfl⟩ := h
      have := firstLine_le cs
      omega
  | succ skip ih =>
      rcases found : firstLine cs with ⟨first, rest⟩
      cases rest with
      | none => simp [lineFrom, found] at h
      | some rest =>
          simp only [lineFrom, found] at h
          have := ih h
          have := firstLine_length found
          omega

theorem lineAt?_within {source line : List Char} {n start : Nat}
    (h : lineAt? source n = some (start, line)) : start + line.length ≤ source.length := by
  unfold lineAt? at h
  split at h
  · simp at h
  · have := lineFrom_within h
    omega

end Stencil.Report
