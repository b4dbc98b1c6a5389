import Mathlib.Data.List.Nodup
import Mathlib.Data.List.Perm.Basic
import Stencil.Proofs.Program.Emission

/-!
# The blocks of a row of statements

Blocks are noted in a table as they are closed, an inner one before the one around it. Of blocks
with the same name the one closed last counts.

1. `Stmt.blockTable_append`, `Stmt.blockTable_inner`: how the table grows.
2. `Stmt.closedAll_perm`: the blocks that are closed are those that are opened.
3. `Stmt.contains_blockTable`, `Stmt.get?_blockTable`: what the table has under a name.
-/

namespace Stencil

namespace Stmt

/-- The blocks of a row with their names, nested ones included, in the order in which they are
opened. -/
def blocks (row : List Stmt) : Table (List Stmt) := (walkAll row).filterMap block?

/-! ## How the table grows -/

theorem blockTable_append (a b : List Stmt) :
    blockTable (a ++ b) =
      (closedAll b).foldl (fun table block => table.append block.1 block.2) (blockTable a) := by
  simp [blockTable, closedAll_eq]

/-- A construct that ends closes its blocks, and then itself if it is one. -/
theorem blockTable_inner (a : List Stmt) (s : Stmt) :
    blockTable (a ++ [s]) =
      s.block?.toList.foldl (fun table block => table.append block.1 block.2)
        (blockTable (a ++ s.inner)) := by
  have single : closedAll [s] = closed s := by simp [closedAll]
  rw [blockTable_append, blockTable_append, single, closed_eq, List.foldl_append]

/-! ## What is opened and what is closed -/

theorem block?_eq_some {s : Stmt} {name : String} {body : List Stmt} :
    s.block? = some (name, body) ↔ s = .block name body := by
  cases s <;> simp [block?]

theorem closed_perm (s : Stmt) : (closed s).Perm (s.walk.filterMap block?) := by
  induction s using holds_of_inner with
  | step s ih =>
      have inner : (s.inner.flatMap closed).Perm (s.inner.flatMap fun t => t.walk.filterMap block?) :=
        List.Perm.flatMap_left s.inner ih
      rw [closed_eq, closedAll_eq, walk_eq, List.filterMap_cons, List.filterMap_flatMap]
      cases s.block? with
      | none => simpa using inner
      | some block => exact (List.perm_append_comm.trans (inner.cons block))

/-- The blocks in the order in which they are closed are the ones that are opened. -/
theorem closedAll_perm (row : List Stmt) : (closedAll row).Perm (blocks row) := by
  rw [closedAll_eq, blocks, walkAll_eq, List.filterMap_flatMap]
  exact List.Perm.flatMap_left row fun s _ => closed_perm s

theorem mem_blocks {row : List Stmt} {name : String} {body : List Stmt} :
    (name, body) ∈ blocks row ↔ .block name body ∈ walkAll row := by
  simp [blocks, List.mem_filterMap, block?_eq_some]

/-! ## What the table has -/

/-- Of blocks with the same name the one closed last counts. -/
theorem get?_blockTable_reverse (row : List Stmt) (name : String) :
    (blockTable row).get? name = Table.get? (closedAll row).reverse name := by
  rw [blockTable, Table.get?_foldl_append]
  exact Option.or_none

theorem mem_of_mem_blockTable {row : List Stmt} {name : String} {body : List Stmt}
    (h : (name, body) ∈ blockTable row) : .block name body ∈ walkAll row := by
  rcases Table.mem_foldl_append h with none | closes
  · cases none
  · exact mem_blocks.1 ((closedAll_perm row).mem_iff.1 closes)

theorem contains_blockTable {row : List Stmt} {name : String} {body : List Stmt}
    (h : .block name body ∈ walkAll row) : (blockTable row).contains name = true := by
  have listed : (name, body) ∈ (closedAll row).reverse :=
    List.mem_reverse.2 ((closedAll_perm row).mem_iff.2 (mem_blocks.2 h))
  rw [Table.contains, get?_blockTable_reverse]
  exact (Table.contains_iff _ name).2 (List.mem_map.2 ⟨_, listed, rfl⟩)

/-- If no name is used twice, the table has every block. -/
theorem get?_blockTable {row : List Stmt} (distinct : (blocks row).keys.Nodup) {name : String}
    {body : List Stmt} (h : .block name body ∈ walkAll row) :
    (blockTable row).get? name = some body := by
  rw [get?_blockTable_reverse]
  refine Table.get?_of_mem ?_ (List.mem_reverse.2 ((closedAll_perm row).mem_iff.2 (mem_blocks.2 h)))
  rw [Table.keys, List.map_reverse, List.nodup_reverse]
  exact ((closedAll_perm row).map Prod.fst).nodup_iff.2 distinct

end Stmt

end Stencil
