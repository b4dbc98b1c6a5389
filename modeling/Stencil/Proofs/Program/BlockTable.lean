import Stencil.Engine
import Stencil.Proofs.Program.NormalForm

/-!
# The block table of a program

The table is filled while frames are closed, by their own closers, by those of frames around them or
at the end, and a name that comes again moves to the end. What it holds can be read off the body
alone: of each name the block that comes last when every statement follows on those inside of it.

1. `Table.foldl_append_eq_latest`: entries that are appended one by one leave the latest of each
   name.
2. `Stmt.closedAll_eq_postorder`: blocks are closed in the order in which they end.
3. `Program.blocks_ended_last`: names, bodies and order of the table.
-/

namespace Stencil

/-! ## The latest entries of a row -/

namespace Table

variable {α : Type}

/-- The entries whose name does not come again, in the order of the row. -/
def latest : List (String × α) → Table α
  | [] => []
  | entry :: rest => if entry.1 ∈ keys rest then latest rest else entry :: latest rest

variable {row rest : List (String × α)} {entry : String × α} {name : String} {value : α}

theorem latest_of_again (again : entry.1 ∈ keys rest) : latest (entry :: rest) = latest rest :=
  if_pos again

theorem latest_of_new (new : entry.1 ∉ keys rest) : latest (entry :: rest) = entry :: latest rest :=
  if_neg new

theorem mem_keys_concat {other : String} :
    other ∈ keys (row ++ [(name, value)]) ↔ other ∈ keys row ∨ other = name := by
  simp [keys]

/-- What comes last is the latest of its name, and no other entry of that name is. -/
theorem latest_concat (row : List (String × α)) (name : String) (value : α) :
    latest (row ++ [(name, value)]) = append (latest row) name value := by
  induction row with
  | nil => rfl
  | cons entry rest ih =>
      rw [List.cons_append]
      by_cases again : entry.1 ∈ keys rest
      · rw [latest_of_again again, latest_of_again (mem_keys_concat.2 (.inl again)), ih]
      · rw [latest_of_new again]
        by_cases same : entry.1 = name
        · rw [latest_of_again (mem_keys_concat.2 (.inr same)), ih]
          simp [append, erase, same]
        · have new : entry.1 ∉ keys (rest ++ [(name, value)]) := fun found =>
            (mem_keys_concat.1 found).elim again same
          rw [latest_of_new new, ih]
          simp [append, erase, same]

theorem foldl_append_eq_latest (row : List (String × α)) :
    row.foldl (fun table entry => append table entry.1 entry.2) [] = latest row := by
  induction row using List.reverseRecOn with
  | nil => rfl
  | append_singleton row entry ih =>
      rw [List.foldl_append, ih, latest_concat]
      rfl

theorem mem_keys_latest : name ∈ keys (latest row) ↔ name ∈ keys row := by
  induction row with
  | nil => rfl
  | cons entry rest ih =>
      have own : name ∈ keys (entry :: rest) ↔ name = entry.1 ∨ name ∈ keys rest := List.mem_cons
      rw [own]
      by_cases again : entry.1 ∈ keys rest
      · rw [latest_of_again again, ih]
        exact ⟨.inr, fun h => h.elim (fun same => same ▸ again) id⟩
      · rw [latest_of_new again, ← ih]
        exact List.mem_cons

theorem nodup_keys_latest (row : List (String × α)) : (keys (latest row)).Nodup := by
  induction row with
  | nil => exact .nil
  | cons entry rest ih =>
      by_cases again : entry.1 ∈ keys rest
      · rwa [latest_of_again again]
      · rw [latest_of_new again]
        exact List.nodup_cons.2 ⟨fun found => again (mem_keys_latest.1 found), ih⟩

theorem mem_latest {entry : String × α} :
    entry ∈ latest row ↔ ∃ before after, row = before ++ entry :: after ∧ entry.1 ∉ keys after := by
  induction row with
  | nil => simp [latest]
  | cons first rest ih =>
      constructor
      · intro found
        by_cases again : first.1 ∈ keys rest
        · rw [latest_of_again again] at found
          obtain ⟨before, after, rfl, new⟩ := ih.1 found
          exact ⟨first :: before, after, rfl, new⟩
        · rw [latest_of_new again] at found
          rcases List.mem_cons.1 found with rfl | later
          · exact ⟨[], rest, rfl, again⟩
          · obtain ⟨before, after, rfl, new⟩ := ih.1 later
            exact ⟨first :: before, after, rfl, new⟩
      · rintro ⟨before, after, split, new⟩
        cases before with
        | nil =>
            obtain ⟨rfl, rfl⟩ := List.cons.inj split
            rw [latest_of_new new]
            exact List.mem_cons_self
        | cons head before =>
            have later := ih.2 ⟨before, after, (List.cons.inj split).2, new⟩
            by_cases again : first.1 ∈ keys rest
            · rwa [latest_of_again again]
            · rw [latest_of_new again]
              exact List.mem_cons_of_mem _ later

/-- Whether of two entries of a row, each the last one of its name, the first comes earlier. -/
def LastInOrder (row : List (String × α)) (x y : String × α) : Prop :=
  ∃ before between after, row = before ++ x :: (between ++ y :: after) ∧
    x.1 ∉ keys (between ++ y :: after) ∧ y.1 ∉ keys after

theorem pairwise_latest (row : List (String × α)) : (latest row).Pairwise (LastInOrder row) := by
  induction row with
  | nil => exact .nil
  | cons entry rest ih =>
      have wider : (latest rest).Pairwise (LastInOrder (entry :: rest)) := ih.imp <| by
        rintro x y ⟨before, between, after, rfl, last⟩
        exact ⟨entry :: before, between, after, rfl, last⟩
      by_cases again : entry.1 ∈ keys rest
      · rwa [latest_of_again again]
      · rw [latest_of_new again]
        refine List.pairwise_cons.2 ⟨fun y found => ?_, wider⟩
        obtain ⟨between, after, rfl, new⟩ := mem_latest.1 found
        exact ⟨[], between, after, rfl, again, new⟩

/-- The table has the last entry of each name. -/
theorem get?_latest : get? (latest row) name = some value ↔
    ∃ before after, row = before ++ (name, value) :: after ∧ name ∉ keys after :=
  ⟨fun found => mem_latest.1 (mem_of_get? found),
    fun last => get?_of_mem (nodup_keys_latest row) (mem_latest.2 last)⟩

end Table

/-! ## Blocks in the order in which they end -/

namespace Stmt

/-- The statements inside of a statement, each after those inside of it, and then the statement. -/
def postorder (s : Stmt) : List Stmt :=
  (s.inner.attach.flatMap fun t => postorder t.1) ++ [s]
termination_by s.walk.length
decreasing_by exact length_walk_lt t.2

/-- The statements of a row, each after those inside of it. -/
def postorderAll (row : List Stmt) : List Stmt := row.flatMap postorder

theorem postorder_eq (s : Stmt) : postorder s = postorderAll s.inner ++ [s] := by
  have onInner : (s.inner.attach.flatMap fun t => postorder t.1) = postorderAll s.inner := by
    rw [← List.flatMap_map, List.attach_map_subtype_val, postorderAll]
  rw [postorder, onInner]

theorem filterMap_postorder (s : Stmt) : (postorder s).filterMap block? = closed s := by
  induction s using holds_of_inner with
  | step s ih =>
      rw [postorder_eq, List.filterMap_append, closed_eq, closedAll_eq, postorderAll,
        List.filterMap_flatMap, List.flatMap_congr ih]
      cases own : s.block? <;> simp [own]

theorem closedAll_eq_postorder (row : List Stmt) :
    closedAll row = (postorderAll row).filterMap block? := by
  rw [closedAll_eq, postorderAll, List.filterMap_flatMap]
  simp only [filterMap_postorder]

end Stmt

namespace Program

variable (a : Artifact)

/-- The blocks of the body are opened in the order in which the instructions open them. -/
theorem keys_blocks_ofArtifact : (Stmt.blocks (ofArtifact a).body).keys = a.blockNames := by
  have ofMark : (fun s : Stmt => s.block?.map Prod.fst) =
      fun s => s.mark?.bind Instruction.block? := by
    funext s
    cases s with
    | choice branches otherwise => cases branches <;> rfl
    | text _ | echo _ _ _ | foreach _ _ | forIn _ _ | whileDo _ _ | block _ _ | insert _ => rfl
  have ofBegins : (fun i : Instruction => if i.begins then i.block? else none) =
      Instruction.block? := by
    funext i
    cases i with
    | control op => cases op <;> rfl
    | literal _ | echo _ _ _ | comment _ | unknownDirective _ _ | openBlock _ | closeBlock => rfl
  calc (Stmt.blocks (ofArtifact a).body).keys
      = (Stmt.walkAll (ofArtifact a).body).filterMap fun s => s.block?.map Prod.fst :=
        List.map_filterMap
    _ = (Stmt.marks (ofArtifact a).body).filterMap fun mark => mark.bind Instruction.block? := by
        rw [ofMark, Stmt.marks, List.filterMap_map]
        rfl
    _ = a.blockNames := by
        rw [marks_ofArtifact, List.filterMap_map, Artifact.blockNames, ← ofBegins,
          List.filterMap_filter]
        simp [ofBegins]

/-- The blocks of a program with their names, in the order in which they end. -/
def ended (p : Program) : List (String × List Stmt) :=
  (Stmt.postorderAll p.body).filterMap Stmt.block?

theorem blocks_eq_latest : (ofArtifact a).blocks = Table.latest (ofArtifact a).ended := by
  rw [blocks_ofArtifact, Stmt.blockTable, Table.foldl_append_eq_latest, ended,
    Stmt.closedAll_eq_postorder]

/-- The names of the blocks that end are those of the blocks that the instructions open. -/
theorem keys_closedAll_perm :
    (Stmt.closedAll (ofArtifact a).body).keys.Perm a.blockNames := by
  rw [← keys_blocks_ofArtifact]
  exact (Stmt.closedAll_perm (ofArtifact a).body).map Prod.fst

/-- However badly its markers pair up, the block table of an artifact agrees with the body: under
each name it has the block that ends last in the body, in the order in which these end. The names
are those of the blocks that the instructions open, each once, and a template has exactly these
blocks. -/
theorem blocks_ended_last :
    (ofArtifact a).blocks = Table.latest (ofArtifact a).ended ∧
      (∀ name body, (ofArtifact a).blocks.get? name = some body ↔
        ∃ before after, (ofArtifact a).ended = before ++ (name, body) :: after ∧
          name ∉ Table.keys after) ∧
      (ofArtifact a).blocks.Pairwise (Table.LastInOrder (ofArtifact a).ended) ∧
      (ofArtifact a).blocks.keys.Nodup ∧
      (∀ name, name ∈ (ofArtifact a).blocks.keys ↔ name ∈ a.blockNames) ∧
      ∀ name, (Template.ofArtifact a).hasBlock name = true ↔
        name ∈ (Template.ofArtifact a).artifact.blockNames := by
  have table := blocks_eq_latest a
  have names (name : String) : name ∈ (ofArtifact a).blocks.keys ↔ name ∈ a.blockNames := by
    rw [table, Table.mem_keys_latest, ended, ← Stmt.closedAll_eq_postorder]
    exact (keys_closedAll_perm a).mem_iff
  refine ⟨table, fun name body => ?_, ?_, ?_, names, fun name => ?_⟩
  · rw [table]
    exact Table.get?_latest
  · rw [table]
    exact Table.pairwise_latest _
  · rw [table]
    exact Table.nodup_keys_latest _
  · exact (Table.contains_iff (ofArtifact a).blocks name).trans (names name)

end Program

end Stencil
