import Stencil.Proofs.Program.Pairing

/-!
# Pairing keeps the order

Pairing puts instructions into constructs and drops the markers that fit nowhere. However badly the
markers pair up, every other instruction comes back as one statement, and a walk through the program
meets these statements in the order of the instructions.

1. `Program.Pairing.marks_step`: an instruction adds at the end of the walk what it begins.
2. `Program.Pairing.root_isPrefix_step`: what stands outside all frames stays there.
3. `Program.ofArtifact_in_order`: the walk of a program, its insertions and its parent are those of
   the instructions.
-/

namespace Stencil

/-- The instruction that a statement begins with: the one that it is, or the opener of the
construct. The opener of a condition is that of its first branch. -/
def Stmt.mark? : Stmt → Option Instruction
  | text t => some (.literal t)
  | echo e strategy line => some (.echo e strategy line)
  | choice branches _ => branches.head?.map fun branch => .control (.openIf branch.1)
  | foreach e _ => some (.control (.openForeach e))
  | forIn e _ => some (.control (.openFor e))
  | whileDo e _ => some (.control (.openWhile e))
  | block name _ => some (.openBlock name)
  | insert name => some (.control (.insert name))

/-- What the statements begin with that a walk through a row of statements meets. -/
def Stmt.marks (body : List Stmt) : List (Option Instruction) := (walkAll body).map mark?

namespace Instruction

/-- The template that the instruction inserts. -/
def insertion? : Instruction → Option String
  | control (.insert name) => some name
  | _ => none

/-- The template that the instruction inherits from. -/
def parent? : Instruction → Option String
  | control (.inherit name) => some name
  | _ => none

end Instruction

namespace Stmt

theorem marks_append (a b : List Stmt) : marks (a ++ b) = marks a ++ marks b := by
  simp [marks, walkAll_eq]

/-- A statement is met before those inside of it. -/
theorem marks_single (s : Stmt) : marks [s] = s.mark? :: marks s.inner := by
  simp only [marks, walkAll_eq, List.flatMap_cons, List.flatMap_nil, List.append_nil]
  rw [walk_eq, List.map_cons]

theorem marks_leaf {i : Instruction} {s : Stmt} (h : i.leaf? = some s) : marks [s] = [some i] := by
  have own : s.mark? = some i := by
    unfold Instruction.leaf? at h
    split at h <;> cases h <;> rfl
  rw [marks_single, own, Program.Pairing.inner_of_isLeaf
    (Program.Pairing.isLeaf_of_leaf? h)]
  simp [marks, walkAll]

end Stmt

namespace Program

/-- The instruction that a frame was opened with. -/
def Opener.mark? (opener : Opener) : Option Instruction := (opener.close []).mark?

theorem mark?_close (opener : Opener) (body : List Stmt) :
    (opener.close body).mark? = opener.mark? := by
  cases opener with
  | choice branches condition inElse =>
      cases inElse with
      | true => rfl
      | false => cases branches <;> rfl
  | foreach _ | forIn _ | whileDo _ | block _ => rfl

theorem mark?_of_opener? {i : Instruction} {opener : Opener} (h : i.opener? = some opener) :
    opener.mark? = some i := by
  unfold Instruction.opener? at h
  split at h <;> cases h <;> rfl

theorem marks_close (opener : Opener) (body : List Stmt) :
    Stmt.marks [opener.close body] = opener.mark? :: Stmt.marks (opener.made ++ body) := by
  rw [Stmt.marks_single, mark?_close, inner_close]

namespace Pairing

/-! ## The walk half-way through -/

/-- The statements made so far, with the frames closed one beside the other. A walk does not notice
that the later ones stand inside of the earlier ones. -/
def beside (p : Pairing) : List Stmt :=
  p.root ++ p.frames.reverse.map fun frame => frame.opener.close frame.body

/-- What the statements made so far and the frames begin with, in order. -/
def marks (p : Pairing) : List (Option Instruction) := Stmt.marks p.beside

theorem beside_cons {p : Pairing} {frame : Frame} {outer : List Frame}
    (found : p.frames = frame :: outer) :
    p.beside = { p with frames := outer }.beside ++ [frame.opener.close frame.body] := by
  simp [beside, found]

theorem marks_cons {p : Pairing} {frame : Frame} {outer : List Frame}
    (found : p.frames = frame :: outer) :
    p.marks = { p with frames := outer }.marks ++
      frame.opener.mark? :: Stmt.marks (frame.opener.made ++ frame.body) := by
  rw [marks, beside_cons found, Stmt.marks_append, marks_close]
  rfl

theorem marks_push (p : Pairing) (s : Stmt) : (p.push s).marks = p.marks ++ Stmt.marks [s] := by
  unfold push
  split
  · next outside =>
    simp [marks, beside, outside, Stmt.marks_append]
  · next frame outer found =>
    rw [marks_cons found, marks_cons rfl, ← List.append_assoc frame.opener.made, Stmt.marks_append]
    simp [marks, beside]

theorem marks_openFrame (p : Pairing) {opener : Opener} (fresh : opener.made = []) :
    (p.openFrame opener).marks = p.marks ++ [opener.mark?] := by
  have empty : Stmt.marks [] = [] := by simp [Stmt.marks, Stmt.walkAll]
  rw [openFrame, marks_cons rfl, fresh, List.append_nil, empty]

theorem marks_recordBlock (p : Pairing) (opener : Opener) (body : List Stmt) :
    (p.recordBlock opener body).marks = p.marks := by
  cases opener <;> rfl

theorem marks_closeInner (p : Pairing) : p.closeInner.marks = p.marks := by
  unfold closeInner
  split
  · rfl
  · next frame outer found =>
    rw [marks_push, marks_recordBlock, marks_cons found, marks_close]

theorem marks_closeMany (n : Nat) (p : Pairing) : (closeMany n p).marks = p.marks :=
  closeMany_induction (P := fun q => q.marks = p.marks)
    (fun q same => (marks_closeInner q).trans same) n rfl

-- The branch that ends goes over to those that are made. Nothing is met earlier or later by that.
theorem marks_branch (p : Pairing) (condition : Option String) :
    (p.branch condition).marks = p.marks := by
  unfold branch
  split
  · next branches current body outer found =>
    rw [marks_cons found, marks_cons rfl]
    have first : (Opener.choice (branches ++ [(current, body)]) (condition.getD "")
        condition.isNone).mark? = (Opener.choice branches current false).mark? := by
      cases branches <;> cases condition <;> rfl
    rw [first]
    simp [Opener.made, marks, beside]
  · rfl

theorem Effect.marks {p q : Pairing} {i : Instruction} (effect : Effect p i q) :
    q.marks = p.marks ++ if i.begins then [some i] else [] := by
  cases effect with
  | made s includes isLeaf =>
      rw [marks_push, Stmt.marks_leaf isLeaf, Instruction.begins_eq, isLeaf]
      rfl
  | opened opener opens =>
      rw [marks_openFrame p (made_of_opener? opens), mark?_of_opener? opens,
        Instruction.begins_eq, opens]
      simp
  | closed n areOpen quiet => simp [marks_closeMany, quiet]
  | branched condition quiet => simp [marks_branch, quiet]
  | named parent quiet =>
      rw [quiet]
      exact (List.append_nil p.marks).symm

/-- An instruction adds itself to what is met, if it begins a statement. -/
theorem marks_step (p : Pairing) (i : Instruction) :
    (p.step i).marks = p.marks ++ if i.begins then [some i] else [] := (step_effect p i).marks

theorem marks_run (row : List Instruction) :
    (run row).marks = (row.filter Instruction.begins).map some := by
  refine run_induction (P := fun row p => p.marks = (row.filter Instruction.begins).map some)
    (by simp [marks, beside, start, Stmt.marks, Stmt.walkAll]) (fun row i p ih => ?_) row
  rw [marks_step, ih, List.filter_append, List.map_append]
  cases kind : i.begins <;> simp [kind]

/-! ## The frames -/

theorem length_closeInner (p : Pairing) : p.closeInner.frames.length = p.frames.length - 1 := by
  unfold closeInner
  split
  · next outside => simp [outside]
  · next frame outer found =>
    cases outer <;> cases frame.opener <;> simp [found, push, recordBlock]

theorem length_closeMany (n : Nat) (p : Pairing) :
    (closeMany n p).frames.length = p.frames.length - n := by
  induction n generalizing p with
  | zero => rfl
  | succ n ih =>
      rw [closeMany, ih, length_closeInner]
      omega

/-- At the end no frame is open. -/
theorem frames_finish (p : Pairing) : p.finish.frames = [] := by
  have outside : p.finish.frames.length = 0 := by
    rw [finish, length_closeMany, Nat.sub_self]
  exact List.length_eq_zero_iff.1 outside

/-! ## What stands outside all frames -/

theorem root_isPrefix_push (p : Pairing) (s : Stmt) : p.root <+: (p.push s).root := by
  unfold push
  split
  · exact List.prefix_append p.root [s]
  · exact List.prefix_rfl

theorem root_isPrefix_closeInner (p : Pairing) : p.root <+: p.closeInner.root := by
  unfold closeInner
  split
  · exact List.prefix_rfl
  · next frame outer found =>
    have same : ({ p with frames := outer }.recordBlock frame.opener frame.body).root = p.root := by
      cases frame.opener <;> rfl
    have pushed := root_isPrefix_push ({ p with frames := outer }.recordBlock frame.opener frame.body)
      (frame.opener.close frame.body)
    rwa [same] at pushed

theorem root_isPrefix_closeMany (n : Nat) (p : Pairing) : p.root <+: (closeMany n p).root :=
  closeMany_induction (P := fun q => p.root <+: q.root)
    (fun q before => before.trans (root_isPrefix_closeInner q)) n List.prefix_rfl

theorem Effect.root_isPrefix {p q : Pairing} {i : Instruction} (effect : Effect p i q) :
    p.root <+: q.root := by
  cases effect with
  | made s includes => exact root_isPrefix_push { p with includes := includes } s
  | closed n => exact root_isPrefix_closeMany n p
  | branched condition =>
      unfold branch
      split <;> exact List.prefix_rfl
  | opened _ _ | named _ _ => exact List.prefix_rfl

/-- What stands outside all frames is only added to. -/
theorem root_isPrefix_step (p : Pairing) (i : Instruction) : p.root <+: (p.step i).root :=
  (step_effect p i).root_isPrefix

theorem root_isPrefix_foldl (row : List Instruction) (p : Pairing) :
    p.root <+: (row.foldl step p).root := by
  induction row generalizing p with
  | nil => exact List.prefix_rfl
  | cons i rest ih => exact (root_isPrefix_step p i).trans (ih (p.step i))

/-! ## Insertions and the parent -/

@[simp] theorem includes_push (p : Pairing) (s : Stmt) : (p.push s).includes = p.includes := by
  unfold push
  split <;> rfl

@[simp] theorem parent_push (p : Pairing) (s : Stmt) : (p.push s).parent = p.parent := by
  unfold push
  split <;> rfl

theorem noted_closeMany (n : Nat) (p : Pairing) :
    (closeMany n p).includes = p.includes ∧ (closeMany n p).parent = p.parent := by
  refine closeMany_induction (P := fun q => q.includes = p.includes ∧ q.parent = p.parent)
    (fun q same => ?_) n ⟨rfl, rfl⟩
  unfold closeInner
  split
  · exact same
  · next frame outer found =>
    cases frame.opener <;> simpa [recordBlock] using same

theorem noted_step (p : Pairing) (i : Instruction) :
    (p.step i).includes = p.includes ++ i.insertion?.toList ∧
      (p.step i).parent = p.parent.or i.parent? := by
  have closed (kind : Closes) :
      (p.close kind).includes = p.includes ∧ (p.close kind).parent = p.parent := by
    obtain ⟨n, -, eq⟩ := close_eq_closeMany p kind
    exact eq ▸ noted_closeMany n p
  have branched (condition : Option String) :
      (p.branch condition).includes = p.includes ∧ (p.branch condition).parent = p.parent := by
    unfold branch
    split <;> exact ⟨rfl, rfl⟩
  cases i with
  | control op =>
      cases op <;>
        simp [step, control, openFrame, closed, branched, Instruction.insertion?,
          Instruction.parent?]
  | literal _ | echo _ _ _ | comment _ | unknownDirective _ _ | openBlock _ | closeBlock =>
      simp [step, openFrame, closed, Instruction.insertion?, Instruction.parent?]

theorem noted_run (row : List Instruction) :
    (run row).includes = row.filterMap Instruction.insertion? ∧
      (run row).parent = row.findSome? Instruction.parent? := by
  refine run_induction (P := fun row p => p.includes = row.filterMap Instruction.insertion? ∧
    p.parent = row.findSome? Instruction.parent?) ⟨rfl, rfl⟩ (fun row i p ih => ?_) row
  obtain ⟨includes, parent⟩ := noted_step p i
  rw [includes, parent, ih.1, ih.2, List.filterMap_append, List.findSome?_append]
  constructor
  · cases inserts : i.insertion? <;> simp [inserts]
  · cases names : i.parent? <;> simp [names]

end Pairing

variable (a : Artifact)

/-- A walk through the program of an artifact meets what the instructions begin. -/
theorem marks_ofArtifact :
    Stmt.marks (ofArtifact a).body = (a.instructions.filter Instruction.begins).map some := by
  let p := Pairing.run a.instructions
  have ended : p.finish.beside = p.finish.root := by
    rw [Pairing.beside, Pairing.frames_finish]
    simp
  show Stmt.marks p.finish.root = _
  rw [← ended, ← Pairing.marks_run]
  exact Pairing.marks_closeMany _ p

theorem includes_ofArtifact :
    (ofArtifact a).includes = a.instructions.filterMap Instruction.insertion? :=
  (Pairing.noted_closeMany _ _).1.trans (Pairing.noted_run a.instructions).1

theorem parent_ofArtifact :
    (ofArtifact a).parent = a.instructions.findSome? Instruction.parent? :=
  (Pairing.noted_closeMany _ _).2.trans (Pairing.noted_run a.instructions).2

/-- What stands outside all frames at some time is the beginning of the body. -/
theorem root_isPrefix_ofArtifact (read : Nat) :
    (Pairing.run (a.instructions.take read)).root <+: (ofArtifact a).body := by
  let p := Pairing.run (a.instructions.take read)
  have whole : (a.instructions.drop read).foldl Pairing.step p = Pairing.run a.instructions := by
    show (a.instructions.drop read).foldl Pairing.step (Pairing.run _) = _
    rw [Pairing.run, Pairing.run, ← List.foldl_append, List.take_append_drop]
  have onTheWay := Pairing.root_isPrefix_foldl (a.instructions.drop read) p
  rw [whole] at onTheWay
  exact onTheWay.trans (Pairing.root_isPrefix_closeMany _ _)

/-- However badly its markers pair up, the program of an artifact loses nothing, doubles nothing and
leaves everything in order: a walk meets one statement for each instruction that begins one, with
all that the instruction says. The insertions are those of the instructions, and the parent is the
first one named. What stands outside all frames at any time comes before all that is read later, for
closers close frames that are open and nothing else. -/
theorem ofArtifact_in_order :
    Stmt.marks (ofArtifact a).body = (a.instructions.filter Instruction.begins).map some ∧
      (ofArtifact a).includes = a.instructions.filterMap Instruction.insertion? ∧
      (ofArtifact a).parent = a.instructions.findSome? Instruction.parent? ∧
      ∀ read, let p := Pairing.run (a.instructions.take read)
        p.root <+: (ofArtifact a).body ∧
          ∀ kind, ∃ n, p.close kind = Pairing.closeMany n p ∧
            (p.close kind).frames.length + n = p.frames.length := by
  refine ⟨marks_ofArtifact a, includes_ofArtifact a, parent_ofArtifact a, fun read => ?_⟩
  refine ⟨root_isPrefix_ofArtifact a read, fun kind => ?_⟩
  obtain ⟨n, areOpen, eq⟩ :=
    Pairing.close_eq_closeMany (Pairing.run (a.instructions.take read)) kind
  refine ⟨n, eq, ?_⟩
  rw [eq, Pairing.length_closeMany]
  exact Nat.sub_add_cancel areOpen

end Program

end Stencil
