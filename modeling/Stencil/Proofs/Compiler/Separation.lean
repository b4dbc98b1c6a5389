import Mathlib.Data.List.Chain
import Stencil.Proofs.Compiler.Lines

/-!
# Statements that can be told from their source

The source of statements consists of texts and tags. They are found again in it, if no text is taken
for a part of its neighbour, no tag ends early, and no content of a tag is taken for something else.

1. `Stmt.writable_emit`: what can be written in statements can be written in their instructions.
2. `Stmt.neat_emit`: texts that are no neighbours among statements are none among instructions.
3. `Instruction.closes_written`: tags end where they should.
4. `Instruction.separable`: the pieces of the source are found again.
-/

namespace Stencil

/-! ## Statements that can be written -/

namespace Stmt

/-- What stands in the statement's own tags can be read again. -/
def Writable : Stmt → Prop
  | text t => t ≠ ""
  | echo e strategy _ =>
      IsExpression e ∧ IsUnmarked e ∧ (strategy = none ∨ strategy = some "html")
  | choice branches _ => branches ≠ [] ∧ ∀ branch ∈ branches, IsExpression branch.1
  | foreach e _ | forIn e _ | whileDo e _ => IsExpression e
  | block name _ | insert name => StaysInTag name

def IsText : Stmt → Prop
  | text _ => True
  | _ => False

/-- No text follows directly on another one. -/
def TextsApart (row : List Stmt) : Prop := row.IsChain fun s t => ¬(s.IsText ∧ t.IsText)

theorem hasBranch_of_writable {s : Stmt} (h : s.Writable) : s.HasBranch := by
  cases s with
  | choice branches otherwise => exact h.1
  | _ => exact trivial

theorem writable_emitBranches {branches : List (String × List Stmt)} (first : Bool)
    (conditions : ∀ branch ∈ branches, IsExpression branch.1)
    (inside : ∀ body ∈ branches.map Prod.snd, ∀ i ∈ emitAll body, i.Writable) :
    ∀ i ∈ emitBranches first branches, i.Writable := by
  induction branches generalizing first with
  | nil => simp [emitBranches]
  | cons branch rest ih =>
      obtain ⟨condition, body⟩ := branch
      rw [List.forall_mem_cons] at conditions
      rw [List.map_cons, List.forall_mem_cons] at inside
      have others := ih false conditions.2 inside.2
      have mark : (branchMark first condition).Writable := by
        cases first <;> exact conditions.1
      intro i member
      rw [emitBranches, List.mem_cons, List.mem_append] at member
      rcases member with rfl | inBody | later
      · exact mark
      · exact inside.1 i inBody
      · exact others i later

theorem writable_framed {first last i : Instruction} {row : List Instruction}
    (member : i ∈ first :: (row ++ [last])) (opens : first.Writable)
    (inside : ∀ i ∈ row, i.Writable) (closes : last.Writable) : i.Writable := by
  simp only [List.mem_cons, List.mem_append, List.not_mem_nil, or_false] at member
  rcases member with rfl | inRow | rfl
  · exact opens
  · exact inside i inRow
  · exact closes

theorem writable_emit {s : Stmt} (h : ∀ t ∈ s.walk, t.Writable) : ∀ i ∈ emit s, i.Writable := by
  induction s using holds_of_inner with
  | step s ih =>
      have own : s.Writable := h s (self_mem_walk s)
      have inside : ∀ body ∈ s.bodies, ∀ i ∈ emitAll body, i.Writable := by
        intro body listed i member
        obtain ⟨t, inBody, found⟩ := mem_emitAll.1 member
        have within : t ∈ s.inner := List.mem_flatten.2 ⟨body, listed, inBody⟩
        exact ih t within (fun u deeper => h u (mem_walk_of_inner within deeper)) i found
      intro i member
      rw [emit.eq_def] at member
      cases s with
      | text t =>
          rw [List.mem_singleton.1 member]
          exact own
      | echo e strategy line =>
          rw [List.mem_singleton.1 member]
          exact own
      | insert name =>
          rw [List.mem_singleton.1 member]
          exact own
      | foreach e body | forIn e body | whileDo e body | block name body =>
          exact writable_framed member own (inside body (by simp [bodies])) trivial
      | choice branches otherwise =>
          simp only [List.mem_append, List.mem_singleton] at member
          rcases member with (inBranches | inElse) | rfl
          · refine writable_emitBranches true own.2 (fun body listed => inside body ?_) i inBranches
            exact List.mem_append_left _ listed
          · cases otherwise with
            | none => simp [emitElse] at inElse
            | some body =>
                rw [emitElse, List.mem_cons] at inElse
                rcases inElse with rfl | inBody
                · exact trivial
                · exact inside body (by simp [bodies]) i inBody
          · exact trivial

end Stmt

/-! ## Texts that are no neighbours -/

namespace Instruction

def IsLiteral : Instruction → Prop
  | literal _ => True
  | _ => False

def Apart (row : List Instruction) : Prop := row.IsChain fun i j => ¬(i.IsLiteral ∧ j.IsLiteral)

/-- No text follows directly on another one, and none comes first. -/
def Led (row : List Instruction) : Prop := Apart row ∧ ∀ i ∈ row.head?, ¬i.IsLiteral

theorem Led.append {row more : List Instruction} (h : Apart row) (further : Led more) :
    Apart (row ++ more) :=
  List.isChain_append.2 ⟨h, further.1, fun _ _ j first both => further.2 j first both.2⟩

theorem Apart.led_cons {row : List Instruction} {i : Instruction} (h : Apart row)
    (tag : ¬i.IsLiteral) : Led (i :: row) := by
  refine ⟨?_, by simpa using tag⟩
  cases row with
  | nil => exact .singleton _
  | cons j rest => exact .cons_cons (fun both => tag both.1) h

end Instruction

namespace Stmt

open Instruction

/-- The instructions of the statement keep their texts apart, and only a text begins or ends in
one. -/
structure Neat (s : Stmt) : Prop where
  apart : Apart s.emit
  some : s.emit ≠ []
  ends : ¬s.IsText → (∀ i ∈ s.emit.head?, ¬i.IsLiteral) ∧ ∀ i ∈ s.emit.getLast?, ¬i.IsLiteral

theorem apart_emitAll {body : List Stmt} (each : ∀ s ∈ body, Neat s) (apart : TextsApart body) :
    Apart (emitAll body) := by
  induction body with
  | nil =>
      rw [emitAll]
      exact .nil
  | cons s rest ih =>
      rw [List.forall_mem_cons] at each
      cases rest with
      | nil => simpa [emitAll] using each.1.apart
      | cons t rest =>
          have neighbours : ¬(s.IsText ∧ t.IsText) ∧ TextsApart (t :: rest) :=
            List.isChain_cons_cons.1 apart
          have next : Neat t := each.2 t List.mem_cons_self
          obtain ⟨j, more, starts⟩ := List.exists_cons_of_ne_nil next.some
          rw [emitAll]
          refine List.isChain_append.2 ⟨each.1.apart, ih each.2 neighbours.2, ?_⟩
          intro i isLast k isFirst both
          rw [emitAll, starts] at isFirst
          -- Of two neighbours one is no text, and that one shows a tag to the other.
          by_cases text : s.IsText
          · have other : ¬t.IsText := fun also => neighbours.1 ⟨text, also⟩
            exact (next.ends other).1 k (by rw [starts]; exact isFirst) both.2
          · exact (each.1.ends text).2 i isLast both.1

/-- A construct whose instructions begin and end with tags. -/
theorem neat_of_led {s : Stmt} (row : List Instruction) {last : Instruction}
    (emitted : s.emit = row ++ [last]) (led : Led (row ++ [last])) (closes : ¬last.IsLiteral) :
    Neat s := by
  rw [← emitted] at led
  refine ⟨led.1, by simp [emitted], fun _ => ⟨led.2, ?_⟩⟩
  rw [emitted]
  simpa using closes

theorem led_single {i : Instruction} (tag : ¬i.IsLiteral) : Led [i] :=
  Apart.led_cons .nil tag

theorem led_branches {branches : List (String × List Stmt)} (first : Bool)
    {rest : List Instruction} (inside : ∀ body ∈ branches.map Prod.snd, Apart (emitAll body))
    (further : Led rest) : Led (emitBranches first branches ++ rest) := by
  induction branches generalizing first with
  | nil => simpa [emitBranches] using further
  | cons branch others ih =>
      obtain ⟨condition, body⟩ := branch
      rw [List.map_cons, List.forall_mem_cons] at inside
      rw [emitBranches, List.cons_append, List.append_assoc]
      exact Apart.led_cons (Led.append inside.1 (ih false inside.2)) id

/-- Texts that are no neighbours among the statements of a tree are none among its instructions. -/
theorem neat_emit {s : Stmt} (apart : ∀ t ∈ s.walk, ∀ row ∈ t.bodies, TextsApart row) :
    Neat s := by
  induction s using holds_of_inner with
  | step s ih =>
      have inside : ∀ body ∈ s.bodies, Apart (emitAll body) := by
        intro body listed
        refine apart_emitAll (fun t inBody => ?_) (apart s (self_mem_walk s) body listed)
        have within : t ∈ s.inner := List.mem_flatten.2 ⟨body, listed, inBody⟩
        exact ih t within fun u deeper => apart u (mem_walk_of_inner within deeper)
      have framed : ∀ {first last : Instruction} {body : List Stmt}, body ∈ s.bodies →
          s.emit = first :: (emitAll body ++ [last]) → ¬first.IsLiteral → ¬last.IsLiteral →
            Neat s := by
        intro first last body listed emitted opens closes
        refine neat_of_led (first :: emitAll body) emitted ?_ closes
        exact Apart.led_cons (Led.append (inside body listed) (led_single closes)) opens
      cases s with
      | text t =>
          exact ⟨by rw [emit]; exact .singleton _, by simp [emit], fun no => absurd trivial no⟩
      | echo e strategy line => exact neat_of_led [] (by rw [emit]; rfl) (led_single id) id
      | insert name => exact neat_of_led [] (by rw [emit]; rfl) (led_single id) id
      | foreach e body | forIn e body | whileDo e body | block name body =>
          exact framed (List.mem_singleton_self body) (by rw [emit]) id id
      | choice branches otherwise =>
          refine neat_of_led _ (by rw [emit]) ?_ id
          rw [List.append_assoc]
          refine led_branches true (fun body listed => inside body ?_) ?_
          · exact List.mem_append_left _ listed
          cases otherwise with
          | none => simpa [emitElse] using led_single id
          | some body =>
              rw [emitElse, List.cons_append]
              exact Apart.led_cons (Led.append (inside body (by simp [bodies])) (led_single id)) id

end Stmt

/-! ## Tags that end where they should -/

/-- If the piece is a tag, it ends at the first closing delimiter in it. -/
def Piece.Closes (piece : Piece) : Prop :=
  ∀ content, piece = .tag content →
    Delimiters.Bounds Delimiters.braces.closing.toList content

namespace Piece

/-- A text that is put together around a character that closes nothing. -/
theorem staysInTag_of_parts {before after whole : String} {c : Char} (first : StaysInTag before)
    (other : c ≠ '\x7d') (second : StaysInTag after)
    (parts : whole.toList = before.toList ++ c :: after.toList) : StaysInTag whole := by
  unfold StaysInTag at first second ⊢
  rw [parts]
  exact Text.not_infix_append_cons (by decide) first (by simpa using other) second

theorem staysInTag_of_not_mem {s : String} (h : '\x7d' ∉ s.toList) : StaysInTag s := by
  intro within
  exact h (within.subset (by simp))

theorem staysInTag_empty : StaysInTag "" := staysInTag_of_not_mem (by simp)

theorem closes_spaced {content : String} (stays : StaysInTag content) :
    (spaced content).Closes := by
  rintro _ ⟨⟩
  have closing : Delimiters.braces.closing.toList ≠ [] := by decide
  have led : ¬Delimiters.braces.closing.toList <:+: [] ++ ' ' :: content.toList :=
    Text.not_infix_append_cons closing (by decide) (by decide) stays
  exact Delimiters.bounds_concat closing led (by decide)

theorem closes_raw {e : String} (stays : StaysInTag e) : (spaced ("!" ++ e)).Closes :=
  closes_spaced (staysInTag_of_parts staysInTag_empty (c := '!') (by decide) stays (by simp))

theorem closes_mark {name : String} (plain : '\x7d' ∉ name.toList) : (mark name).Closes := by
  refine closes_spaced (staysInTag_of_not_mem ?_)
  simpa using plain

theorem closes_directive {name arguments : String} (plain : '\x7d' ∉ name.toList)
    (stays : StaysInTag arguments) : (directive name arguments).Closes := by
  have marked : StaysInTag ("@" ++ name) := staysInTag_of_not_mem (by simpa using plain)
  exact closes_spaced (staysInTag_of_parts marked (c := ' ') (by decide) stays (by simp))

theorem closes_named {name argument : String} (plain : '\x7d' ∉ name.toList)
    (stays : StaysInTag argument) : (named name argument).Closes := by
  have opened : StaysInTag ("\"" ++ argument) :=
    staysInTag_of_parts staysInTag_empty (c := '"') (by decide) stays (by simp)
  exact closes_directive plain
    (staysInTag_of_parts opened (c := '"') (by decide) staysInTag_empty (by simp))

end Piece

theorem Control.closes_written {op : Control} (writable : op.Writable) : op.written.Closes := by
  cases op with
  | openIf e | elseIf e | openForeach e | openFor e | openWhile e =>
      rw [written]
      exact Piece.closes_directive (by decide) writable.2
  | otherwise | closeIf | closeForeach | closeFor | closeWhile =>
      rw [written]
      exact Piece.closes_mark (by decide)
  | insert name | inherit name =>
      rw [written]
      exact Piece.closes_named (by decide) writable

namespace Instruction

theorem closes_written {i : Instruction} (writable : i.Writable) : i.written.Closes := by
  cases i with
  | literal text => rintro _ ⟨⟩
  | echo e strategy line =>
      obtain ⟨⟨-, stays⟩, -, rfl | rfl⟩ := writable
      · exact Piece.closes_raw stays
      · exact Piece.closes_spaced stays
  | comment text => exact writable.elim
  | unknownDirective name line => exact writable.elim
  | openBlock name =>
      rw [written]
      exact Piece.closes_named (by decide) writable
  | closeBlock =>
      rw [written]
      exact Piece.closes_mark (by decide)
  | control op => exact Control.closes_written writable

theorem written_of_tag {i : Instruction} (tag : ¬i.IsLiteral) :
    ∃ content, i.written = .tag content := by
  cases i with
  | literal text => exact absurd trivial tag
  | echo e strategy line => cases strategy <;> exact ⟨_, rfl⟩
  | control op => cases op <;> exact ⟨_, rfl⟩
  | _ => exact ⟨_, rfl⟩

/-- Every text is found where it ends: before a tag where the tag opens for the first time, and at
the end of the source if it opens no tag. -/
structure Found (row : List Instruction) : Prop where
  followed : ∀ before t i after, row = before ++ .literal t :: i :: after →
    ∀ x y, t.toList ++ "\x7b\x7b".toList = x ++ "\x7b\x7b".toList ++ y → y = []
  last : ∀ before t, row = before ++ [.literal t] → ¬"\x7b\x7b".toList <:+: t.toList

theorem Found.tail {i : Instruction} {rest : List Instruction} (h : Found (i :: rest)) :
    Found rest where
  followed before t j after same := h.followed (i :: before) t j after (by rw [same]; rfl)
  last before t same := h.last (i :: before) t (by rw [same]; rfl)

/-- The pieces of a source that is written from instructions are found again. -/
theorem separable {row : List Instruction} (writable : ∀ i ∈ row, i.Writable) (apart : Apart row)
    (found : Found row) : Separable .braces (row.map written) := by
  induction row with
  | nil => exact .nil
  | cons i rest ih =>
      rw [List.forall_mem_cons] at writable
      have further : Separable .braces (rest.map written) :=
        ih writable.2 apart.tail found.tail
      rw [List.map_cons]
      by_cases literal : i.IsLiteral
      · cases i with
        | literal t =>
            have some : t ≠ "" := writable.1
            have nonempty : t.toList ≠ [] := by simpa using some
            cases rest with
            | nil => exact .last nonempty (found.last [] t rfl)
            | cons j rest =>
                -- A text is not the neighbour of another one, so a tag follows.
                have isNext : ¬j.IsLiteral := fun also =>
                  (List.isChain_cons_cons.1 apart).1 ⟨trivial, also⟩
                obtain ⟨content, isTag⟩ := written_of_tag isNext
                rw [List.map_cons, isTag] at further ⊢
                have first := found.followed [] t j rest rfl
                exact .text nonempty (Delimiters.bounds_of_first (by decide) first) further
        | _ => exact literal.elim
      · obtain ⟨content, isTag⟩ := written_of_tag literal
        rw [isTag]
        exact .tag (closes_written writable.1 content isTag) further

end Instruction

end Stencil
