import Stencil.Proofs.Statement

/-!
# Statements written back as instructions

`Stmt.emit` writes a statement as the instructions that it can be read from: every construct as its
opener, what stands inside and its closer. Pairing undoes that, whatever has been read before.

* `Program.Pairing.foldl_emit`: reading the instructions of a statement adds the statement.
* `Program.ofArtifact_emitAll`: the program that is read from the instructions of a body.
-/

namespace Stencil

namespace Stmt

/-- Every condition has a branch. -/
def HasBranch : Stmt → Prop
  | choice branches _ => branches ≠ []
  | _ => True

/-- The marker in front of a branch, which is the first one of its condition or a later one. -/
def branchMark (first : Bool) (condition : String) : Instruction :=
  .control (if first then .openIf condition else .elseIf condition)

mutual
/-- The instructions of a statement. -/
def emit : Stmt → List Instruction
  | text t => [.literal t]
  | echo e strategy line => [.echo e strategy line]
  | choice branches otherwise =>
      emitBranches true branches ++ emitElse otherwise ++ [.control .closeIf]
  | foreach e body => .control (.openForeach e) :: (emitAll body ++ [.control .closeForeach])
  | forIn e body => .control (.openFor e) :: (emitAll body ++ [.control .closeFor])
  | whileDo e body => .control (.openWhile e) :: (emitAll body ++ [.control .closeWhile])
  | block name body => .openBlock name :: (emitAll body ++ [.closeBlock])
  | insert name => [.control (.insert name)]

def emitAll : List Stmt → List Instruction
  | [] => []
  | s :: rest => emit s ++ emitAll rest

def emitBranches (first : Bool) : List (String × List Stmt) → List Instruction
  | [] => []
  | (condition, body) :: rest =>
      branchMark first condition :: (emitAll body ++ emitBranches false rest)

def emitElse : Option (List Stmt) → List Instruction
  | none => []
  | some body => .control .otherwise :: emitAll body
end

mutual
/-- The blocks of a statement, in the order in which they are closed. -/
def closed : Stmt → Table (List Stmt)
  | text _ | echo .. | insert _ => []
  | choice branches otherwise => closedBranches branches ++ closedElse otherwise
  | foreach _ body | forIn _ body | whileDo _ body => closedAll body
  | block name body => closedAll body ++ [(name, body)]

def closedAll : List Stmt → Table (List Stmt)
  | [] => []
  | s :: rest => closed s ++ closedAll rest

def closedBranches : List (String × List Stmt) → Table (List Stmt)
  | [] => []
  | (_, body) :: rest => closedAll body ++ closedBranches rest

def closedElse : Option (List Stmt) → Table (List Stmt)
  | none => []
  | some body => closedAll body
end

def block? : Stmt → Option (String × List Stmt)
  | block name body => some (name, body)
  | _ => none

/-- The template that a statement inserts. -/
def insertion? : Stmt → Option String
  | insert name => some name
  | _ => none

/-- The templates that a row of statements inserts, in order. -/
def insertions (body : List Stmt) : List String := (walkAll body).filterMap insertion?

/-- The blocks of a row of statements as a table: of each name the one closed last. -/
def blockTable (body : List Stmt) : Table (List Stmt) :=
  (closedAll body).foldl (fun table block => table.append block.1 block.2) []

theorem mem_emitAll {body : List Stmt} {i : Instruction} :
    i ∈ emitAll body ↔ ∃ s ∈ body, i ∈ emit s := by
  induction body with
  | nil => simp [emitAll]
  | cons s rest ih => simp [emitAll, ih]

theorem closedAll_eq (body : List Stmt) : closedAll body = body.flatMap closed := by
  induction body with
  | nil => simp [closedAll]
  | cons s rest ih => simp [closedAll, ih]

theorem closedBranches_eq (branches : List (String × List Stmt)) :
    closedBranches branches = closedAll (branches.map Prod.snd).flatten := by
  induction branches with
  | nil => simp [closedBranches, closedAll]
  | cons branch rest ih =>
      obtain ⟨condition, body⟩ := branch
      simp [closedBranches, closedAll_eq, ih]

theorem closed_eq (s : Stmt) : closed s = closedAll s.inner ++ s.block?.toList := by
  cases s with
  | choice branches otherwise =>
      cases otherwise <;>
        simp [closed, inner, bodies, block?, closedBranches_eq, closedElse, closedAll_eq]
  | text _ | echo _ _ _ | insert _ | foreach _ _ | forIn _ _ | whileDo _ _ | block _ _ =>
      simp [closed, closedAll, inner, bodies, block?]

@[simp] theorem insertions_nil : insertions [] = [] := by simp [insertions, walkAll]

theorem insertions_append (a b : List Stmt) :
    insertions (a ++ b) = insertions a ++ insertions b := by
  simp [insertions, walkAll_eq]

theorem insertions_single (s : Stmt) :
    insertions [s] = s.insertion?.toList ++ insertions s.inner := by
  simp only [insertions, walkAll_eq, List.flatMap_cons, List.flatMap_nil, List.append_nil]
  rw [walk_eq, List.filterMap_cons]
  cases s.insertion? <;> rfl

end Stmt

namespace Program.Pairing

open Stmt

/-- Takes notice of the blocks and insertions in statements. -/
def note (p : Pairing) (body : List Stmt) : Pairing :=
  { p with
    blocks := (closedAll body).foldl (fun table block => table.append block.1 block.2) p.blocks
    includes := p.includes ++ insertions body }

/-- Inside of a frame. -/
def within (p : Pairing) (opener : Opener) (body : List Stmt) : Pairing :=
  { p with frames := ⟨opener, body⟩ :: p.frames }

@[simp] theorem note_nil (p : Pairing) : p.note [] = p := by
  simp [note, closedAll]

theorem note_append (p : Pairing) (a b : List Stmt) : (p.note a).note b = p.note (a ++ b) := by
  simp [note, closedAll_eq, insertions_append]

/-- Of a construct that is no block only what is inside is of note. -/
theorem note_inner (p : Pairing) {s : Stmt} (noBlock : s.block? = none)
    (noInsertion : s.insertion? = none) : p.note [s] = p.note s.inner := by
  simp [note, closedAll, closed_eq, insertions_single, noBlock, noInsertion]

theorem note_within (p : Pairing) (opener : Opener) (body more : List Stmt) :
    (p.within opener body).note more = (p.note more).within opener body := rfl

theorem note_push (p : Pairing) (s : Stmt) (body : List Stmt) :
    (p.push s).note body = (p.note body).push s := by
  unfold push note
  cases p.frames <;> rfl

theorem push_within (p : Pairing) (opener : Opener) (body : List Stmt) (s : Stmt) :
    (p.within opener body).push s = p.within opener (body ++ [s]) := rfl

theorem close_within (p : Pairing) (opener : Opener) (body : List Stmt) :
    (p.within opener body).close opener.closedBy =
      (p.recordBlock opener body).push (opener.close body) := by
  have innermost : (p.within opener body).frames.findIdx?
      (fun frame => frame.opener.closedBy == opener.closedBy) = some 0 := by
    simp [within, List.findIdx?_cons]
  rw [close, innermost]
  rfl

/-- Reading the instructions of the statement adds it and takes notice of what is in it. -/
def Adds (s : Stmt) : Prop := ∀ p : Pairing, (emit s).foldl step p = (p.note [s]).push s

theorem foldl_emitAll {body : List Stmt} (each : ∀ s ∈ body, Adds s) (p : Pairing) :
    (emitAll body).foldl step p = body.foldl push (p.note body) := by
  induction body generalizing p with
  | nil => simp [emitAll]
  | cons s rest ih =>
      rw [List.forall_mem_cons] at each
      rw [emitAll, List.foldl_append, each.1, ih each.2, note_push, note_append, List.foldl_cons]
      rfl

theorem foldl_push_within (p : Pairing) (opener : Opener) (before body : List Stmt) :
    body.foldl push (p.within opener before) = p.within opener (before ++ body) := by
  induction body generalizing before with
  | nil => simp
  | cons s rest ih =>
      rw [List.foldl_cons, push_within, ih, List.append_assoc, List.singleton_append]

theorem foldl_push_root {p : Pairing} (outside : p.frames = []) (body : List Stmt) :
    body.foldl push p = { p with root := p.root ++ body } := by
  induction body generalizing p with
  | nil => simp
  | cons s rest ih =>
      have pushed : p.push s = { p with root := p.root ++ [s] } := by simp [push, outside]
      have further := ih (p := { p with root := p.root ++ [s] }) outside
      rw [List.foldl_cons, pushed, further]
      simp

theorem foldl_body {body : List Stmt} (each : ∀ s ∈ body, Adds s) (p : Pairing) (opener : Opener) :
    (emitAll body).foldl step (p.within opener []) = (p.note body).within opener body := by
  rw [foldl_emitAll each, note_within, foldl_push_within, List.nil_append]

/-- Reading what follows on a branch of a condition, up to its end, adds the condition. -/
theorem foldl_branches {branches : List (String × List Stmt)} {otherwise : Option (List Stmt)}
    (each : ∀ body ∈ branches.map Prod.snd ++ otherwise.toList, ∀ s ∈ body, Adds s) (p : Pairing)
    (made : List (String × List Stmt)) (condition : String) (body : List Stmt) :
    (emitBranches false branches ++ emitElse otherwise ++ [Instruction.control .closeIf]).foldl step
        (p.within (.choice made condition false) body) =
      (p.note ((branches.map Prod.snd).flatten ++ otherwise.toList.flatten)).push
        (.choice (made ++ (condition, body) :: branches) otherwise) := by
  -- The branch that is being read stands in the frame, those before it in the opener.
  induction branches generalizing p made condition body with
  | nil =>
      cases otherwise with
      | none =>
          simp only [emitBranches, emitElse, List.nil_append, List.foldl_cons, List.foldl_nil,
            List.map_nil, List.flatten_nil, Option.toList_none, note_nil]
          exact close_within p (.choice made condition false) body
      | some last =>
          have inLast : ∀ s ∈ last, Adds s := each last (by simp)
          simp only [emitBranches, emitElse, List.nil_append, List.cons_append, List.foldl_cons,
            List.foldl_append, List.foldl_nil]
          have entered : (p.within (.choice made condition false) body).step (.control .otherwise) =
              p.within (.choice (made ++ [(condition, body)]) "" true) [] := rfl
          rw [entered, foldl_body inLast]
          simp only [List.map_nil, List.flatten_nil, Option.toList_some, List.flatten_cons,
            List.nil_append, List.append_nil]
          exact close_within (p.note last) (.choice (made ++ [(condition, body)]) "" true) last
  | cons branch rest ih =>
      obtain ⟨next, first⟩ := branch
      have inFirst : ∀ s ∈ first, Adds s := each first (by simp)
      have entered : (p.within (.choice made condition false) body).step (branchMark false next) =
          p.within (.choice (made ++ [(condition, body)]) next false) [] := rfl
      rw [emitBranches, List.cons_append, List.cons_append, List.foldl_cons, entered,
        List.append_assoc, List.append_assoc, List.foldl_append, foldl_body inFirst,
        ← List.append_assoc, ih (fun row member => each row (by simp_all)), note_append]
      simp

/-- A construct with a single body. -/
theorem adds_frame {s : Stmt} {opener : Opener} {body : List Stmt} {first last : Instruction}
    (each : ∀ t ∈ body, Adds t) (emitted : s.emit = first :: (emitAll body ++ [last]))
    (opens : ∀ p : Pairing, p.step first = p.within opener [])
    (closes : ∀ p : Pairing, p.step last = p.close opener.closedBy)
    (noted : ∀ p : Pairing, (p.note body).recordBlock opener body = p.note [s])
    (made : opener.close body = s) : Adds s := by
  intro p
  rw [emitted, List.foldl_cons, opens, List.foldl_append, foldl_body each, List.foldl_cons,
    List.foldl_nil, closes, close_within, noted, made]

/-- Reading the instructions of any statement adds the statement. -/
theorem foldl_emit {s : Stmt} (branched : ∀ t ∈ s.walk, t.HasBranch) : Adds s := by
  induction s using holds_of_inner with
  | step s ih =>
      have each : ∀ t ∈ s.inner, Adds t := fun t within =>
        ih t within fun u member => branched u (mem_walk_of_inner within member)
      cases s with
      | text t =>
          intro p
          rw [note_inner p rfl rfl]
          simp [emit, step, Stmt.inner, bodies]
      | echo e strategy line =>
          intro p
          rw [note_inner p rfl rfl]
          simp [emit, step, Stmt.inner, bodies]
      | insert name =>
          intro p
          simp [emit, step, control, note, closedAll, closed, insertions_single, insertion?,
            Stmt.inner, bodies]
      | foreach e body | forIn e body | whileDo e body =>
          refine adds_frame (by simpa [Stmt.inner, bodies] using each) (by rw [emit]) (fun _ => rfl)
            (fun _ => rfl) (fun p => ?_) rfl
          rw [note_inner p rfl rfl]
          simp [recordBlock, Stmt.inner, bodies]
      | block name body =>
          refine adds_frame (by simpa [Stmt.inner, bodies] using each) (by rw [emit]) (fun _ => rfl)
            (fun _ => rfl) (fun p => ?_) rfl
          simp [recordBlock, note, closedAll, closed, insertions_single, insertion?, Stmt.inner,
            bodies]
      | choice branches otherwise =>
          -- The first branch opens the frame. Without it nothing would.
          obtain ⟨⟨condition, body⟩, rest, rfl⟩ :=
            List.exists_cons_of_ne_nil (branched _ (self_mem_walk _))
          have inBodies : ∀ row ∈ body :: (rest.map Prod.snd ++ otherwise.toList),
              ∀ t ∈ row, Adds t :=
            fun row member t inRow => each t (List.mem_flatten.2 ⟨row, member, inRow⟩)
          rw [List.forall_mem_cons] at inBodies
          intro p
          have entered : p.step (branchMark true condition) =
              p.within (.choice [] condition false) [] := rfl
          rw [emit, emitBranches, List.cons_append, List.cons_append, List.foldl_cons, entered,
            List.append_assoc, List.append_assoc, List.foldl_append, foldl_body inBodies.1,
            ← List.append_assoc, foldl_branches inBodies.2, note_append, note_inner p rfl rfl]
          simp [Stmt.inner, bodies]

end Program.Pairing

/-- The instructions of a body are read as that body. -/
theorem Program.ofArtifact_emitAll (name : String) (parent : Option String) {body : List Stmt}
    (branched : ∀ s ∈ Stmt.walkAll body, s.HasBranch) :
    ofArtifact (Artifact.make name
        ((parent.toList.map fun other => .control (.inherit other)) ++ Stmt.emitAll body)) =
      ⟨name, body, Stmt.blockTable body, parent, Stmt.insertions body⟩ := by
  have each : ∀ s ∈ body, Pairing.Adds s := fun s member =>
    Pairing.foldl_emit fun t inside => branched t (Stmt.mem_walkAll.2 ⟨s, member, inside⟩)
  have started : (parent.toList.map fun other => Instruction.control (.inherit other)).foldl
      Pairing.step .start = { Pairing.start with parent := parent } := by
    cases parent <;> rfl
  have read := Pairing.foldl_emitAll each { Pairing.start with parent := parent }
  rw [Pairing.foldl_push_root rfl] at read
  rw [ofArtifact, Artifact.make, Pairing.run, List.foldl_append, started, read]
  simp [Pairing.finish, Pairing.closeMany, Pairing.note, Pairing.start, Stmt.blockTable]

end Stencil
