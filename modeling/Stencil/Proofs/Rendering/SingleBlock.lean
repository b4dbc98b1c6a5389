import Stencil.Proofs.Program.NormalForm
import Stencil.Proofs.Rendering.Inheritance

/-!
# Blocks rendered on their own

A block on its own is not executed as it is inside of its template: the blocks of the root are in
the table of blocks too, and there are no templates being rendered around it. If the root has no two
blocks of one name, neither makes a difference to a text.

1. `Renderer.agree_root`, `Renderer.faithful_heirs`: the blocks of the root stand in for themselves
   only.
2. `Renderer.renderBlock_of_statement`: from the block as a part to the block on its own.
3. `Renderer.render_around_block`: the text of a template around the text of a block.
-/

namespace Stencil.Renderer

variable {r : Renderer}

/-! ## The blocks of the root behind those of its heirs -/

/-- A block of the root stands in for itself only, if no two of them have the same name. -/
theorem agree_root {a : Artifact} {blocks : Table BlockBody} {s : Stmt}
    (distinct : (Stmt.blocks (Program.ofArtifact a).body).keys.Nodup)
    (member : s ∈ (Program.ofArtifact a).body) :
    Agree blocks (blocks ++ blockBodies (.ofArtifact a)) (Program.ofArtifact a).name s := by
  refine agree_append fun name body inside => .inr ?_
  have opened : .block name body ∈ Stmt.walkAll (Program.ofArtifact a).body :=
    Stmt.mem_walkAll.2 ⟨s, member, inside⟩
  rw [get?_blockBodies, Program.blocks_ofArtifact, Stmt.get?_blockTable distinct opened]
  rfl

theorem contains_root {a : Artifact} (blocks : Table BlockBody) {block : String} {body : List Stmt}
    (member : .block block body ∈ (Program.ofArtifact a).body) :
    Table.contains (blocks ++ blockBodies (.ofArtifact a)) block = true := by
  have known : (Program.ofArtifact a).blocks.contains block = true :=
    Program.contains_blocks_ofArtifact a (Stmt.mem_walkAll.2 ⟨_, member, Stmt.self_mem_walk _⟩)
  rw [Table.contains_join, contains_blockBodies, known, Bool.or_true]

theorem contains_heirs {heirs : List Program} {p : Program} (isHeir : p ∈ heirs) {block : String}
    (known : p.blocks.contains block = true) :
    Table.contains (heirs.flatMap blockBodies) block = true := by
  rw [Table.contains, get?_heirs, List.findSome?_isSome_iff]
  refine ⟨p, isHeir, ?_⟩
  rw [Option.isSome_map]
  exact known

/-- The blocks inside of an heir's blocks are an heir's too, so none of the root's stands in for
them. -/
theorem faithful_heirs {heirs : List Program} (each : ∀ p ∈ heirs, ∃ a, p = .ofArtifact a)
    (more : Table BlockBody) :
    Faithful (heirs.flatMap blockBodies) (heirs.flatMap blockBodies ++ more) := by
  intro name block found s member
  rw [get?_heirs] at found
  obtain ⟨p, isHeir, there⟩ := List.exists_of_findSome?_eq_some found
  obtain ⟨body, listed, rfl⟩ := Option.map_eq_some_iff.1 there
  obtain ⟨a, rfl⟩ := each p isHeir
  refine agree_append fun inner below inside => .inl ?_
  have opened : .block inner below ∈ Stmt.walkAll (Program.ofArtifact a).body := by
    refine Program.statements_subset_walkAll a (Program.walk_subset_statements ?_ inside)
    exact Program.mem_statements_of_block (Table.mem_of_get? listed) member
  exact contains_heirs isHeir (Program.contains_blocks_ofArtifact a opened)

/-! ## A block as a part and on its own -/

/-- If a block of the root gives a text as a part of a template, it gives this text on its own. -/
theorem renderBlock_of_statement (read : r.FromArtifacts) {name : String} {heirs : List Program}
    {root : Program} (way : r.Descends name heirs root)
    (distinct : (Stmt.blocks root.body).keys.Nodup) {block : String} {body : List Stmt}
    (member : .block block body ∈ root.body) {depth : Nat} {chain : List String} {scope : Scope}
    {text : String}
    (h : r.statement depth ⟨chain, root.name, heirs.flatMap blockBodies⟩ scope
      (.block block body) = .ok text) :
    r.renderBlock depth scope name block = .ok text := by
  have each : ∀ p ∈ heirs ++ [root], ∃ a, p = .ofArtifact a := by
    intro p onWay
    obtain ⟨key, found⟩ := way.found onWay
    obtain ⟨a, -, isRead⟩ := read key p found
    exact ⟨a, isRead⟩
  obtain ⟨a, rfl⟩ := each root (by simp)
  have above := lineage_of_descends read.ownNames way (.start r.programs)
    (fun _ _ => List.not_mem_nil)
  rw [List.flatMap_append, List.flatMap_singleton] at above
  -- A circular reference that the block makes on its own it would make inside of the template too.
  have similar : Similar (fun chain chain' => chain' ⊆ chain)
      (.statement ⟨chain, a.name, heirs.flatMap blockBodies⟩ scope (.block block body))
      (.statement ⟨[], a.name, heirs.flatMap blockBodies ++ blockBodies (.ofArtifact a)⟩ scope
        (.block block body)) :=
    .statement scope _ rfl (List.nil_subset _) (agree_root distinct member)
      (faithful_heirs (fun p isHeir => each p (List.mem_append_left _ isHeir)) _)
  have alone : r.run depth (.statement ⟨[], a.name, heirs.flatMap blockBodies ++
      blockBodies (.ofArtifact a)⟩ scope (.block block body)) = .ok text :=
    (run_similar (.refl r.programs) standsIn_subset similar (kept_of_ok h)).trans h
  rw [renderBlock_statement above (contains_root _ member) depth a.name body,
    run_mono (Nat.le_succ depth) (by simp [alone]), alone]

/-! ## A template around its blocks -/

/-- If a template is rendered and its root has no two blocks of one name, then each block at the
outermost level of the root can be rendered on its own, and the text of the template is the text of
the block with the texts of the root's other statements around it. -/
theorem render_around_block (r : Renderer) (read : r.FromArtifacts) (name : String)
    (heirs : List Program) (root : Program) (way : r.Descends name heirs root)
    (distinct : (Stmt.blocks root.body).keys.Nodup) (depth : Nat) (scope : Scope) (out : String)
    (rendered : r.render depth scope name = .ok out) (block : String)
    (before body after : List Stmt) (row : root.body = before ++ .block block body :: after) :
    let part := r.statement depth
      ⟨(heirs ++ [root]).map Program.name, root.name, heirs.flatMap blockBodies⟩ scope
    ∃ first text last, concat part before = .ok first ∧
      r.renderBlock depth scope name block = .ok text ∧ concat part after = .ok last ∧
      out = first ++ text ++ last := by
  intro part
  -- The statements of the root are executed a few levels further down.
  have le : depth ≤ depth + heirs.length + 1 := Nat.le_add_right_of_le (Nat.le_add_right _ _)
  have whole : r.run depth (.template [] [] scope name) = .ok out := rendered
  have deep : r.render (depth + heirs.length + 1) scope name = .ok out :=
    (run_mono le (by simp [whole])).trans whole
  rw [render, templateWith_of_descends read.ownNames way (fun _ _ => List.not_mem_nil), row] at deep
  obtain ⟨first, text, last, early, own, late, parts⟩ := concat_split deep
  refine ⟨first, text, last, early, ?_, late, parts⟩
  exact renderBlock_of_statement read way distinct (row ▸ by simp) own

/-- The frame of the page has a block `a`, for which the page has its own. -/
theorem render_around_block_layered :
    (layered []).render 5 .empty "page" = .ok "[page|layout]" ∧
      ∃ first text last, (layered []).renderBlock 5 .empty "page" "a" = .ok text ∧
        "[page|layout]" = first ++ text ++ last := by
  have way : (layered []).Descends "page" _ _ := .heir rfl rfl (.heir rfl rfl (.root rfl rfl))
  have page : (layered []).render 5 .empty "page" = .ok "[page|layout]" := rfl
  obtain ⟨first, text, last, -, own, -, parts⟩ :=
    render_around_block (layered []) (fromArtifacts_layered []) "page" _ _ way (by decide) 5 .empty _
      page "a" [.text "["] [] [.text "|", .block "b" [.text "frame"], .text "]"] rfl
  exact ⟨page, first, text, last, own, parts⟩

end Stencil.Renderer
