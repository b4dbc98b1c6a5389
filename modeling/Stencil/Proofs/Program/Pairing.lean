import Mathlib.Data.List.Induction
import Stencil.Proofs.Statement

/-!
# What pairing is made of

Pairing makes its texts, prints and insertions of single instructions, one of one, and puts them
into constructs. What holds of all of them therefore holds throughout the program.

* `Program.Pairing.step_effect`: all that taking an instruction up can do.
* `Program.Pairing.run_induction`, `Program.Pairing.closeMany_induction`: what every step keeps.
* `Program.Pairing.made_step`: taking an instruction up keeps what is known of all statements.
* `Program.leaf_of_instruction`: every statement without a body comes from an instruction.
-/

namespace Stencil

/-- A statement that cannot hold other statements. -/
def Stmt.IsLeaf : Stmt → Prop
  | text _ | echo .. | insert _ => True
  | _ => False

/-- The statement that an instruction is by itself. -/
def Instruction.leaf? : Instruction → Option Stmt
  | literal text => some (.text text)
  | echo expression strategy line => some (.echo expression strategy line)
  | control (.insert name) => some (.insert name)
  | _ => none

/-- The frame that an instruction opens. -/
def Instruction.opener? : Instruction → Option Program.Opener
  | openBlock name => some (.block name)
  | control (.openIf condition) => some (.choice [] condition false)
  | control (.openForeach expression) => some (.foreach expression)
  | control (.openFor expression) => some (.forIn expression)
  | control (.openWhile condition) => some (.whileDo condition)
  | _ => none

/-- Whether a statement begins with the instruction: one without a body, or a construct. -/
def Instruction.begins : Instruction → Bool
  | literal _ | echo _ _ _ | openBlock _ => true
  | control (.openIf _) | control (.openForeach _) | control (.openFor _) => true
  | control (.openWhile _) | control (.insert _) => true
  | _ => false

theorem Instruction.begins_eq (i : Instruction) :
    i.begins = (i.leaf?.isSome || i.opener?.isSome) := by
  cases i with
  | control op => cases op <;> rfl
  | literal _ | echo _ _ _ | comment _ | unknownDirective _ _ | openBlock _ | closeBlock => rfl

namespace Program

namespace Pairing

/-! ## Steps -/

/-- A closer closes frames that are open, or none. -/
theorem close_eq_closeMany (p : Pairing) (kind : Closes) :
    ∃ n ≤ p.frames.length, p.close kind = closeMany n p := by
  unfold close
  split
  · exact ⟨0, Nat.zero_le _, rfl⟩
  · next inside found =>
    exact ⟨inside + 1, (List.findIdx?_eq_some_iff_getElem.1 found).1, rfl⟩

/-- What taking an instruction up can do: a statement goes into the innermost frame, or a frame is
opened, or some that are open are closed, or another branch begins, or the parent is named. -/
inductive Effect (p : Pairing) (i : Instruction) : Pairing → Prop
  | made (s : Stmt) (includes : List String) (isLeaf : i.leaf? = some s) :
      Effect p i ({ p with includes := includes }.push s)
  | opened (opener : Opener) (opens : i.opener? = some opener) : Effect p i (p.openFrame opener)
  | closed (n : Nat) (areOpen : n ≤ p.frames.length) (quiet : i.begins = false) :
      Effect p i (closeMany n p)
  | branched (condition : Option String) (quiet : i.begins = false) : Effect p i (p.branch condition)
  | named (parent : Option String) (quiet : i.begins = false) :
      Effect p i { p with parent := parent }

theorem effect_close (p : Pairing) {i : Instruction} (kind : Closes) (quiet : i.begins = false) :
    Effect p i (p.close kind) := by
  obtain ⟨n, areOpen, eq⟩ := close_eq_closeMany p kind
  exact eq ▸ .closed n areOpen quiet

theorem step_effect (p : Pairing) (i : Instruction) : Effect p i (p.step i) := by
  cases i with
  | literal _ | echo _ _ _ => exact .made _ _ rfl
  | comment _ | unknownDirective _ _ => exact .closed 0 (Nat.zero_le _) rfl
  | openBlock _ => exact .opened _ rfl
  | closeBlock => exact effect_close p _ rfl
  | control op =>
      cases op with
      | insert _ => exact .made _ _ rfl
      | openIf _ | openForeach _ | openFor _ | openWhile _ => exact .opened _ rfl
      | closeIf | closeForeach | closeFor | closeWhile => exact effect_close p _ rfl
      | elseIf _ | otherwise => exact .branched _ rfl
      | inherit _ => exact .named _ rfl

/-- What holds at the start and passes on at every step holds of every run. -/
theorem run_induction {P : List Instruction → Pairing → Prop} (atStart : P [] start)
    (atStep : ∀ row i p, P row p → P (row ++ [i]) (p.step i)) (row : List Instruction) :
    P row (run row) := by
  induction row using List.reverseRecOn with
  | nil => exact atStart
  | append_singleton row i ih =>
      unfold run at ih ⊢
      rw [List.foldl_append]
      exact atStep row i _ ih

/-- What passes on when the innermost frame is closed passes on when many are. -/
theorem closeMany_induction {P : Pairing → Prop} (inner : ∀ p, P p → P p.closeInner) (n : Nat)
    {p : Pairing} (h : P p) : P (closeMany n p) := by
  induction n generalizing p with
  | zero => exact h
  | succ n ih => exact ih (inner p h)

end Pairing

/-- The statement and all that stands inside of it has the property. -/
def Throughout (P : Stmt → Prop) (s : Stmt) : Prop := ∀ t ∈ s.walk, P t

variable {P : Stmt → Prop}

theorem throughout_of_inner {s : Stmt} (own : P s) (below : ∀ t ∈ s.inner, Throughout P t) :
    Throughout P s := by
  intro t member
  rcases Stmt.mem_walk_iff.1 member with rfl | ⟨u, within, found⟩
  · exact own
  · exact below u within t found

def Opener.made : Opener → List Stmt
  | .choice branches _ _ => (branches.map Prod.snd).flatten
  | _ => []

theorem inner_close (opener : Opener) (body : List Stmt) :
    (opener.close body).inner = opener.made ++ body := by
  cases opener with
  | choice branches condition inElse =>
      cases inElse <;> simp [Opener.close, Opener.made, Stmt.inner, Stmt.bodies]
  | foreach _ | forIn _ | whileDo _ | block _ =>
      simp [Opener.close, Opener.made, Stmt.inner, Stmt.bodies]

theorem not_isLeaf_close (opener : Opener) (body : List Stmt) : ¬(opener.close body).IsLeaf := by
  cases opener with
  | choice branches condition inElse => cases inElse <;> exact id
  | foreach _ | forIn _ | whileDo _ | block _ => exact id

namespace Pairing

/-- All statements that have been made so far have the property throughout. -/
structure Made (P : Stmt → Prop) (p : Pairing) : Prop where
  root : ∀ s ∈ p.root, Throughout P s
  frames : ∀ frame ∈ p.frames, ∀ s ∈ frame.opener.made ++ frame.body, Throughout P s
  blocks : ∀ block ∈ p.blocks, ∀ s ∈ block.2, Throughout P s

theorem made_start : Made P start := ⟨by simp [start], by simp [start], by simp [start]⟩

theorem made_push {p : Pairing} {s : Stmt} (h : Made P p) (new : Throughout P s) :
    Made P (p.push s) := by
  unfold push
  split
  · refine ⟨fun t member => ?_, h.frames, h.blocks⟩
    rcases List.mem_append.1 member with old | isNew
    · exact h.root t old
    · rw [List.mem_singleton.1 isNew]
      exact new
  · next frame outer found =>
    refine ⟨h.root, ?_, h.blocks⟩
    have each := h.frames
    rw [found, List.forall_mem_cons] at each
    rw [List.forall_mem_cons]
    refine ⟨fun t member => ?_, each.2⟩
    rw [← List.append_assoc, List.mem_append] at member
    rcases member with old | isNew
    · exact each.1 t old
    · rw [List.mem_singleton.1 isNew]
      exact new

theorem made_openFrame {p : Pairing} {opener : Opener} (h : Made P p) (fresh : opener.made = []) :
    Made P (p.openFrame opener) := by
  refine ⟨h.root, ?_, h.blocks⟩
  rw [openFrame, List.forall_mem_cons]
  exact ⟨by simp [fresh], h.frames⟩

theorem made_recordBlock {p : Pairing} {opener : Opener} {body : List Stmt} (h : Made P p)
    (each : ∀ s ∈ body, Throughout P s) : Made P (p.recordBlock opener body) := by
  unfold recordBlock
  split
  · refine ⟨h.root, h.frames, fun block member => ?_⟩
    rcases List.mem_append.1 member with old | isNew
    · exact h.blocks block (List.mem_filter.1 old).1
    · rw [List.mem_singleton.1 isNew]
      exact each
  · exact h

theorem made_closeInner {p : Pairing} (built : ∀ s, ¬s.IsLeaf → P s) (h : Made P p) :
    Made P p.closeInner := by
  unfold closeInner
  split
  · exact h
  · next frame outer found =>
    have each := h.frames
    rw [found, List.forall_mem_cons] at each
    have below : Made P { p with frames := outer } := ⟨h.root, each.2, h.blocks⟩
    have body : ∀ s ∈ frame.body, Throughout P s := fun s member =>
      each.1 s (List.mem_append_right _ member)
    refine made_push (made_recordBlock below body) (throughout_of_inner ?_ ?_)
    · exact built _ (not_isLeaf_close frame.opener frame.body)
    · rw [inner_close]
      exact each.1

theorem made_closeMany {p : Pairing} (built : ∀ s, ¬s.IsLeaf → P s) (n : Nat) (h : Made P p) :
    Made P (closeMany n p) :=
  closeMany_induction (P := Made P) (fun _ => made_closeInner built) n h

theorem made_branch {p : Pairing} (condition : Option String) (h : Made P p) :
    Made P (p.branch condition) := by
  unfold branch
  split
  · next branches current body outer found =>
    have each := h.frames
    rw [found, List.forall_mem_cons] at each
    refine ⟨h.root, ?_, h.blocks⟩
    rw [List.forall_mem_cons]
    refine ⟨fun s member => each.1 s ?_, each.2⟩
    simpa [Opener.made] using member
  · exact h

theorem isLeaf_of_leaf? {i : Instruction} {s : Stmt} (h : i.leaf? = some s) : s.IsLeaf := by
  unfold Instruction.leaf? at h
  split at h <;> cases h <;> trivial

theorem inner_of_isLeaf {s : Stmt} (h : s.IsLeaf) : s.inner = [] := by
  cases s <;> first | rfl | cases h

theorem made_of_opener? {i : Instruction} {opener : Opener} (h : i.opener? = some opener) :
    opener.made = [] := by
  unfold Instruction.opener? at h
  split at h <;> cases h <;> rfl

theorem Effect.keepsMade {p q : Pairing} {i : Instruction} (effect : Effect p i q)
    (built : ∀ s, ¬s.IsLeaf → P s) (leaf : ∀ s, i.leaf? = some s → P s) (h : Made P p) :
    Made P q := by
  cases effect with
  | made s includes isLeaf =>
      have nothingInside := inner_of_isLeaf (isLeaf_of_leaf? isLeaf)
      have wider : Made P { p with includes := includes } := ⟨h.root, h.frames, h.blocks⟩
      refine made_push wider (throughout_of_inner (leaf s isLeaf) ?_)
      simp [nothingInside]
  | opened opener opens => exact made_openFrame h (made_of_opener? opens)
  | closed n => exact made_closeMany built n h
  | branched condition => exact made_branch condition h
  | named parent => exact ⟨h.root, h.frames, h.blocks⟩

/-- Taking up an instruction keeps what is known of all statements, if it holds of the statement
that the instruction is. -/
theorem made_step {p : Pairing} {i : Instruction} (built : ∀ s, ¬s.IsLeaf → P s)
    (leaf : ∀ s, i.leaf? = some s → P s) (h : Made P p) : Made P (p.step i) :=
  (step_effect p i).keepsMade built leaf h

theorem made_run {instructions : List Instruction} (built : ∀ s, ¬s.IsLeaf → P s)
    (leaf : ∀ i ∈ instructions, ∀ s, i.leaf? = some s → P s) : Made P (run instructions) := by
  refine run_induction (P := fun row p => (∀ i ∈ row, ∀ s, i.leaf? = some s → P s) → Made P p)
    (fun _ => made_start) (fun row i p ih each => ?_) instructions leaf
  rw [List.forall_mem_append] at each
  exact made_step built (each.2 i (List.mem_singleton_self i)) (ih each.1)

end Pairing

/-- Every statement of a program that cannot hold others comes from an instruction. -/
theorem leaf_of_instruction {a : Artifact} {s : Stmt} (h : s ∈ (ofArtifact a).statements)
    (isLeaf : s.IsLeaf) : ∃ i ∈ a.instructions, i.leaf? = some s := by
  let P : Stmt → Prop := fun t => t.IsLeaf → ∃ i ∈ a.instructions, i.leaf? = some t
  have made : Pairing.Made P (Pairing.run a.instructions).finish := by
    refine Pairing.made_closeMany (fun t noLeaf leaf => absurd leaf noLeaf) _ ?_
    refine Pairing.made_run (fun t noLeaf leaf => absurd leaf noLeaf) ?_
    exact fun i member t found _ => ⟨i, member, found⟩
  simp only [statements, Stmt.mem_walkAll, List.mem_append, List.mem_flatMap] at h
  rcases h with ⟨u, inRoot, found⟩ | ⟨block, listed, u, inBody, found⟩
  · exact made.root u inRoot s found isLeaf
  · exact made.blocks block listed u inBody s found isLeaf

end Program

end Stencil
