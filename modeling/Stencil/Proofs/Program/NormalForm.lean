import Stencil.Proofs.Program.Blocks
import Stencil.Proofs.Program.Order

/-!
# Programs written back

A body that is written as instructions is read again as this body. The other way round, whatever
artifact a program was read from, its instructions are a normal form of that artifact: they are read
as the same program, block table, parent and insertions included.

1. `Program.blocks_ofArtifact`: the block table holds the blocks of the body, in the order in which
   they are closed.
2. `Program.hasBranch_of_statement`: no condition of a program is without a branch.
3. `Program.pairing_inverts_emission`: both ways round.
-/

namespace Stencil

/-- The instructions of a program: the one that names the parent and those of the statements. -/
def Program.emit (p : Program) : List Instruction :=
  (p.parent.toList.map fun name => .control (.inherit name)) ++ Stmt.emitAll p.body

namespace Program

namespace Pairing

/-! ## The blocks half-way through -/

/-- The statements that have been made so far, without the frames around them. -/
def held (p : Pairing) : List Stmt :=
  p.root ++ p.frames.reverse.flatMap fun frame => frame.opener.made ++ frame.body

theorem held_cons {p : Pairing} {frame : Frame} {outer : List Frame}
    (found : p.frames = frame :: outer) :
    p.held = { p with frames := outer }.held ++ (frame.opener.made ++ frame.body) := by
  simp [held, found]

theorem held_push (p : Pairing) (s : Stmt) : (p.push s).held = p.held ++ [s] := by
  unfold push
  split
  · next outside => simp [held, outside]
  · next frame outer found => simp [held, found]

theorem held_openFrame (p : Pairing) {opener : Opener} (fresh : opener.made = []) :
    (p.openFrame opener).held = p.held := by
  simp [held, openFrame, fresh]

theorem held_branch (p : Pairing) (condition : Option String) :
    (p.branch condition).held = p.held := by
  unfold branch
  split
  · next branches current body outer found => simp [held, found, Opener.made]
  · rfl

/-- The block table is that of the statements made so far. -/
def Tabled (p : Pairing) : Prop := p.blocks = Stmt.blockTable p.held

theorem blocks_push (p : Pairing) (s : Stmt) : (p.push s).blocks = p.blocks := by
  unfold push
  split <;> rfl

theorem tabled_closeInner {p : Pairing} (h : p.Tabled) : p.closeInner.Tabled := by
  unfold closeInner
  split
  · exact h
  · next frame outer found =>
    unfold Tabled at h ⊢
    rw [held_cons found] at h
    have same : ({ p with frames := outer }.recordBlock frame.opener frame.body).held =
        { p with frames := outer }.held := by
      cases frame.opener <;> rfl
    -- The frame becomes a statement around what it held, so the table grows by its name at most.
    rw [held_push, blocks_push, Stmt.blockTable_inner, same, inner_close, ← h]
    cases frame.opener with
    | choice branches condition inElse => cases inElse <;> rfl
    | foreach _ | forIn _ | whileDo _ | block _ => rfl

theorem Effect.keepsTabled {p q : Pairing} {i : Instruction} (effect : Effect p i q)
    (h : p.Tabled) : q.Tabled := by
  cases effect with
  | made s includes isLeaf =>
      have noBlock : s.block? = none := by
        have leaf := isLeaf_of_leaf? isLeaf
        cases s <;> first | rfl | cases leaf
      unfold Tabled
      rw [held_push, blocks_push, Stmt.blockTable_inner, noBlock,
        inner_of_isLeaf (isLeaf_of_leaf? isLeaf), List.append_nil]
      exact h
  | opened opener opens =>
      unfold Tabled
      rw [held_openFrame p (made_of_opener? opens)]
      exact h
  | closed n => exact closeMany_induction (P := Tabled) (fun _ => tabled_closeInner) n h
  | branched condition =>
      have same : (p.branch condition).blocks = p.blocks := by
        unfold branch
        split <;> rfl
      unfold Tabled
      rw [held_branch, same]
      exact h
  | named parent => exact h

theorem tabled_run (row : List Instruction) : (run row).Tabled :=
  run_induction (P := fun _ p => p.Tabled) rfl (fun _ i p => (step_effect p i).keepsTabled) row

end Pairing

variable (a : Artifact)

/-! ## Programs of artifacts -/

/-- The block table of a program holds the blocks of its body. -/
theorem blocks_ofArtifact : (ofArtifact a).blocks = Stmt.blockTable (ofArtifact a).body := by
  let p := Pairing.run a.instructions
  have tabled : p.finish.Tabled := Pairing.closeMany_induction (P := Pairing.Tabled)
    (fun _ => Pairing.tabled_closeInner) _ (Pairing.tabled_run a.instructions)
  have ended : p.finish.held = p.finish.root := by
    rw [Pairing.held, Pairing.frames_finish]
    simp
  unfold Pairing.Tabled at tabled
  rw [ended] at tabled
  exact tabled

theorem contains_blocks_ofArtifact {name : String} {body : List Stmt}
    (h : .block name body ∈ Stmt.walkAll (ofArtifact a).body) :
    (ofArtifact a).blocks.contains name = true := by
  rw [blocks_ofArtifact]
  exact Stmt.contains_blockTable h

/-- What stands in the block table of a program stands in its body too. -/
theorem statements_subset_walkAll {s : Stmt} (h : s ∈ (ofArtifact a).statements) :
    s ∈ Stmt.walkAll (ofArtifact a).body := by
  rw [statements, blocks_ofArtifact, List.mem_append, List.mem_flatMap] at h
  rcases h with inBody | ⟨⟨name, body⟩, listed, inBlock⟩
  · exact inBody
  · have block := Stmt.mem_of_mem_blockTable listed
    obtain ⟨t, inBody, below⟩ := Stmt.mem_walkAll.1 block
    obtain ⟨u, member, inside⟩ := Stmt.mem_walkAll.1 inBlock
    have within : u ∈ (Stmt.block name body).inner := by simpa [Stmt.inner, Stmt.bodies] using member
    exact Stmt.mem_walkAll.2
      ⟨t, inBody, Stmt.mem_walk_trans (Stmt.mem_walk_of_inner within inside) below⟩

theorem hasBranch_of_statement {s : Stmt} (h : s ∈ (ofArtifact a).statements) : s.HasBranch := by
  -- Every statement of a walk begins with an instruction, a condition without a branch with none.
  have met : s.mark? ∈ Stmt.marks (ofArtifact a).body :=
    List.mem_map_of_mem (statements_subset_walkAll a h)
  rw [marks_ofArtifact] at met
  obtain ⟨i, -, begins⟩ := List.mem_map.1 met
  cases s with
  | choice branches otherwise =>
      rintro rfl
      cases begins
  | text _ | echo _ _ _ | foreach _ _ | forIn _ _ | whileDo _ _ | block _ _ | insert _ => trivial

theorem insertions_ofArtifact :
    (ofArtifact a).includes = Stmt.insertions (ofArtifact a).body := by
  have ofMark : Stmt.insertion? = fun s => s.mark?.bind Instruction.insertion? := by
    funext s
    cases s with
    | choice branches otherwise => cases branches <;> rfl
    | text _ | echo _ _ _ | foreach _ _ | forIn _ _ | whileDo _ _ | block _ _ | insert _ => rfl
  have ofBegins : (fun i : Instruction => if i.begins then i.insertion? else none) =
      Instruction.insertion? := by
    funext i
    cases i with
    | control op => cases op <;> rfl
    | literal _ | echo _ _ _ | comment _ | unknownDirective _ _ | openBlock _ | closeBlock => rfl
  calc (ofArtifact a).includes
      = a.instructions.filterMap Instruction.insertion? := includes_ofArtifact a
    _ = (Stmt.marks (ofArtifact a).body).filterMap fun mark => mark.bind Instruction.insertion? := by
        rw [marks_ofArtifact, List.filterMap_map, ← ofBegins, List.filterMap_filter]
        simp [ofBegins]
    _ = Stmt.insertions (ofArtifact a).body := by
        rw [Stmt.insertions, Stmt.marks, List.filterMap_map, ofMark]
        rfl

/-- Writing statements as instructions and pairing these gives the statements, if every condition
has a branch. In the program of an artifact every condition has one, however badly the markers of
the artifact pair up, and writing the program as instructions and pairing these gives the program. -/
theorem pairing_inverts_emission :
    (∀ body, (∀ s ∈ Stmt.walkAll body, s.HasBranch) →
      ∀ format name, (ofArtifact ⟨format, name, Stmt.emitAll body⟩).body = body) ∧
    ∀ a : Artifact, (∀ s ∈ (ofArtifact a).statements, s.HasBranch) ∧
      ∀ format, ofArtifact ⟨format, a.name, (ofArtifact a).emit⟩ = ofArtifact a := by
  constructor
  · intro body branched format name
    exact congrArg Program.body (ofArtifact_emitAll name none branched)
  · intro a
    refine ⟨fun s => hasBranch_of_statement a, fun format => ?_⟩
    have branched : ∀ s ∈ Stmt.walkAll (ofArtifact a).body, s.HasBranch := fun s inBody =>
      hasBranch_of_statement a (List.mem_append_left _ inBody)
    have read := ofArtifact_emitAll a.name (ofArtifact a).parent branched
    rw [← blocks_ofArtifact, ← insertions_ofArtifact] at read
    exact read

/-- A condition with an `else`, inside of which a block stands. -/
theorem pairing_inverts_emission_condition :
    let body := [Stmt.choice [("c", [.text "x"])] (some [.block "b" [.insert "t"]])]
    (∀ s ∈ Stmt.walkAll body, s.HasBranch) ∧
      Stmt.emitAll body =
        [.control (.openIf "c"), .literal "x", .control .otherwise, .openBlock "b",
          .control (.insert "t"), .closeBlock, .control .closeIf] ∧
      (ofArtifact ⟨1, "page", Stmt.emitAll body⟩).body = body := by
  intro body
  have branched : ∀ s ∈ Stmt.walkAll body, s.HasBranch := by
    simp [body, Stmt.walkAll, Stmt.walk, Stmt.walkBranches, Stmt.walkElse, Stmt.HasBranch]
  refine ⟨branched, ?_, pairing_inverts_emission.1 body branched 1 "page"⟩
  simp [body, Stmt.emitAll, Stmt.emit, Stmt.emitBranches, Stmt.emitElse, Stmt.branchMark]

end Program

end Stencil
