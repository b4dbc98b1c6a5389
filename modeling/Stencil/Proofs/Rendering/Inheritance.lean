import Mathlib.Data.List.Nodup
import Stencil.Proofs.Rendering.Comparison

/-!
# Templates that inherit

A template with a parent is rendered as the last of its ancestors, with the blocks of those in
between. What else stands in a template that inherits has no influence.

1. `Renderer.Descends.nodup`: on the way to a template without a parent no template comes twice.
2. `Renderer.templateWith_of_descends`, `Renderer.lineage_of_descends`: what is executed, and the
   blocks in effect.
3. `Renderer.render_same`, `Renderer.renderBlock_same`: programs with the same blocks are rendered
   alike.
4. `Renderer.render_by_inheritance`: the rule of inheritance.
-/

namespace Stencil.Renderer

variable {r : Renderer}

/-- Every program is stored under its own name. -/
def OwnNames (r : Renderer) : Prop := ∀ name p, r.programs.get? name = some p → p.name = name

/-- Every program was read from an artifact and is stored under its name. -/
def FromArtifacts (r : Renderer) : Prop :=
  ∀ name p, r.programs.get? name = some p → ∃ a : Artifact, a.name = name ∧ p = .ofArtifact a

theorem FromArtifacts.ownNames (h : r.FromArtifacts) : r.OwnNames := by
  intro name p found
  obtain ⟨a, named, rfl⟩ := h name p found
  exact named

/-- The way from a template to the root of what it inherits from: the programs with a parent, the
nearest first, and the one without. -/
inductive Descends (r : Renderer) : String → List Program → Program → Prop
  | root {name : String} {p : Program} (found : r.programs.get? name = some p)
      (ends : p.parent = none) : Descends r name [] p
  | heir {name parent : String} {p root : Program} {heirs : List Program}
      (found : r.programs.get? name = some p) (inherits : p.parent = some parent)
      (above : Descends r parent heirs root) : Descends r name (p :: heirs) root

/-! ## The way to the root -/

namespace Descends

variable {name : String} {heirs heirs' : List Program} {root root' : Program}

theorem unique (h : r.Descends name heirs root) (h' : r.Descends name heirs' root') :
    heirs' = heirs ∧ root' = root := by
  induction h generalizing heirs' with
  | root found ends =>
      cases h' with
      | root found' =>
          rw [found] at found'
          cases found'
          exact ⟨rfl, rfl⟩
      | heir found' inherits =>
          rw [found] at found'
          cases found'
          rw [ends] at inherits
          cases inherits
  | heir found inherits _ ih =>
      cases h' with
      | root found' ends =>
          rw [found] at found'
          cases found'
          rw [ends] at inherits
          cases inherits
      | heir found' inherits' above =>
          rw [found] at found'
          cases found'
          rw [inherits] at inherits'
          cases inherits'
          obtain ⟨rfl, rfl⟩ := ih above
          exact ⟨rfl, rfl⟩

theorem found (h : r.Descends name heirs root) {p : Program} (member : p ∈ heirs ++ [root]) :
    ∃ key, r.programs.get? key = some p := by
  induction h with
  | @root name root found => exact ⟨name, List.mem_singleton.1 member ▸ found⟩
  | @heir name parent head root heirs found _ _ ih =>
      rcases List.mem_cons.1 member with rfl | further
      · exact ⟨name, found⟩
      · exact ih further

/-- From each template on the way the rest of the way leads to the root. -/
theorem of_mem (own : r.OwnNames) (h : r.Descends name heirs root) {p : Program}
    (member : p ∈ heirs ++ [root]) :
    ∃ rest, r.Descends p.name rest root ∧ rest.length ≤ heirs.length := by
  induction h with
  | @root name root found ends =>
      rw [List.mem_singleton.1 member, own name root found]
      exact ⟨[], .root found ends, Nat.le_refl 0⟩
  | @heir name parent head root heirs found inherits above ih =>
      rcases List.mem_cons.1 member with rfl | further
      · rw [own name p found]
        exact ⟨_, .heir found inherits above, Nat.le_refl _⟩
      · obtain ⟨rest, onward, shorter⟩ := ih further
        exact ⟨rest, onward, Nat.le_succ_of_le shorter⟩

/-- No template comes twice: the rest of the way would be as long as the whole. -/
theorem nodup (own : r.OwnNames) (h : r.Descends name heirs root) :
    ((heirs ++ [root]).map Program.name).Nodup := by
  induction h with
  | root => exact List.nodup_cons.2 ⟨List.not_mem_nil, List.nodup_nil⟩
  | @heir name parent p root heirs found inherits above ih =>
      refine List.nodup_cons.2 ⟨fun again => ?_, ih⟩
      obtain ⟨q, member, same⟩ := List.mem_map.1 again
      obtain ⟨rest, onward, shorter⟩ := above.of_mem own member
      rw [same, own name p found] at onward
      obtain ⟨rfl, -⟩ := onward.unique (.heir found inherits above)
      exact absurd shorter (by simp)

/-- Behind the first template, the others have not been visited either. -/
theorem new_behind (own : r.OwnNames) {p : Program} (h : r.Descends name (p :: heirs) root)
    {visited : List String} (new : ∀ q ∈ p :: heirs ++ [root], q.name ∉ visited) :
    ∀ q ∈ heirs ++ [root], q.name ∉ visited ++ [p.name] := by
  intro q member again
  rcases List.mem_append.1 again with old | same
  · exact new q (List.mem_cons_of_mem p member) old
  · have distinct := List.nodup_cons.1 (h.nodup own)
    exact distinct.1 (List.mem_singleton.1 same ▸ List.mem_map_of_mem member)

end Descends

/-! ## What is executed -/

theorem program_of_get? {name : String} {p : Program} (found : r.programs.get? name = some p) :
    r.program name = .ok p := by
  unfold program
  rw [found]

theorem get?_heirs (heirs : List Program) (block : String) :
    Table.get? (heirs.flatMap blockBodies) block =
      heirs.findSome? fun p => (p.blocks.get? block).map (BlockBody.mk p.name) := by
  induction heirs with
  | nil => rfl
  | cons p rest ih =>
      rw [List.flatMap_cons, Table.get?_join, get?_blockBodies, ih, List.findSome?_cons]
      cases p.blocks.get? block <;> rfl

theorem templateWith_root {chain : List String} {name : String} {p : Program}
    (found : r.programs.get? name = some p) (ends : p.parent = none) (new : name ∉ chain)
    (depth : Nat) (overrides : Table BlockBody) (scope : Scope) :
    r.templateWith (depth + 1) chain overrides scope name =
      concat (r.statement depth ⟨chain ++ [name], p.name, overrides⟩ scope) p.body := by
  have unvisited : ¬chain.contains name = true := fun visited => new (List.contains_iff_mem.1 visited)
  rw [templateWith, if_neg unvisited, program_of_get? found, orStop_ok]
  simp only [bind, Except.bind, ends]

theorem templateWith_heir {chain : List String} {name parent : String} {p : Program}
    (found : r.programs.get? name = some p) (inherits : p.parent = some parent)
    (new : name ∉ chain) (depth : Nat) (overrides : Table BlockBody) (scope : Scope) :
    r.templateWith (depth + 1) chain overrides scope name =
      r.templateWith depth (chain ++ [name]) (overrides ++ blockBodies p) scope parent := by
  have unvisited : ¬chain.contains name = true := fun visited => new (List.contains_iff_mem.1 visited)
  rw [templateWith, if_neg unvisited, program_of_get? found, orStop_ok]
  simp only [bind, Except.bind, inherits]

/-- Templates that inherit put their names into the chain and their blocks behind those that are
there. Then the body of the root is executed. -/
theorem templateWith_of_descends (own : r.OwnNames) {name : String} {heirs : List Program}
    {root : Program} (h : r.Descends name heirs root) {chain : List String}
    (new : ∀ p ∈ heirs ++ [root], p.name ∉ chain) (depth : Nat) (overrides : Table BlockBody)
    (scope : Scope) :
    r.templateWith (depth + heirs.length + 1) chain overrides scope name =
      concat (r.statement depth ⟨chain ++ (heirs ++ [root]).map Program.name, root.name,
        overrides ++ heirs.flatMap blockBodies⟩ scope) root.body := by
  -- Every step lengthens chain and table, so the induction is over all chains and tables.
  induction h generalizing chain overrides with
  | @root name root found ends =>
      have first : name ∉ chain := own name root found ▸ new root (List.mem_singleton_self root)
      rw [List.length_nil, Nat.add_zero, templateWith_root found ends first, List.flatMap_nil,
        List.append_nil, List.nil_append, List.map_singleton, own name root found]
  | @heir name parent p root heirs found inherits above ih =>
      have named := own name p found
      have first : name ∉ chain := named ▸ new p List.mem_cons_self
      have others := (Descends.heir found inherits above).new_behind own new
      rw [named] at others
      rw [List.length_cons, ← Nat.add_assoc, templateWith_heir found inherits first, ih others,
        List.flatMap_cons, List.append_assoc, List.append_assoc, List.singleton_append,
        List.cons_append, List.map_cons, named]

/-! ## The blocks in effect -/

/-- There are steps left: every template visited is a different one of the table, and there are more
steps than templates that have not been visited. -/
structure Enough (programs : Table Program) (steps : Nat) (visited : List String) : Prop where
  distinct : visited.Nodup
  known : ∀ name ∈ visited, programs.contains name = true
  more : programs.length < visited.length + steps

namespace Enough

variable {programs : Table Program} {steps : Nat} {visited : List String}

theorem start (programs : Table Program) : Enough programs (programs.length + 1) [] where
  distinct := List.nodup_nil
  known _ member := absurd member List.not_mem_nil
  more := by simp

theorem pos (enough : Enough programs steps visited) : 0 < steps := by
  -- Otherwise more different names have been visited than there are entries.
  have le : visited.length ≤ programs.keys.length :=
    enough.distinct.length_le_of_subset fun name member =>
      (Table.contains_iff programs name).1 (enough.known name member)
  have more := enough.more
  rw [Table.keys, List.length_map] at le
  omega

theorem next (enough : Enough programs (steps + 1) visited) {name : String}
    (found : programs.contains name = true) (new : name ∉ visited) :
    Enough programs steps (visited ++ [name]) where
  distinct := List.nodup_append_comm.2 (List.nodup_cons.2 ⟨new, enough.distinct⟩)
  known other member := by
    rcases List.mem_append.1 member with old | same
    · exact enough.known other old
    · exact List.mem_singleton.1 same ▸ found
  more := by
    have more := enough.more
    rw [List.length_append, List.length_singleton]
    omega

end Enough

theorem lineage_succ {steps : Nat} {visited : List String} {name : String} {p : Program}
    (found : r.programs.get? name = some p) :
    r.lineage (steps + 1) visited name =
      if p.name ∈ visited then .error (.circularReference (visited ++ [p.name]))
      else
        match p.parent with
        | none => .ok (blockBodies p)
        | some parent => (r.lineage steps (visited ++ [p.name]) parent).map (blockBodies p ++ ·) := by
  rw [lineage, program_of_get? found]
  simp only [bind, Except.bind, List.contains_iff_mem]
  split
  · rfl
  · cases p.parent with
    | none => rfl
    | some parent => cases r.lineage steps (visited ++ [p.name]) parent <;> rfl

/-- The blocks in effect are those of all templates on the way, one template after the other. -/
theorem lineage_of_descends (own : r.OwnNames) {name : String} {heirs : List Program}
    {root : Program} (h : r.Descends name heirs root) {steps : Nat} {visited : List String}
    (enough : Enough r.programs steps visited)
    (new : ∀ p ∈ heirs ++ [root], p.name ∉ visited) :
    r.lineage steps visited name = .ok ((heirs ++ [root]).flatMap blockBodies) := by
  induction h generalizing steps visited with
  | @root name root found ends =>
      obtain ⟨steps, rfl⟩ := Nat.exists_eq_add_one.2 enough.pos
      rw [lineage_succ found, if_neg (new root (List.mem_singleton_self root)), ends]
      simp
  | @heir name parent p root heirs found inherits above ih =>
      obtain ⟨steps, rfl⟩ := Nat.exists_eq_add_one.2 enough.pos
      have first := new p List.mem_cons_self
      have known : r.programs.contains p.name = true :=
        (own name p found).symm ▸ Option.isSome_of_eq_some found
      have others := (Descends.heir found inherits above).new_behind own new
      rw [lineage_succ found, if_neg first, inherits]
      simp only [ih (enough.next known first) others, Except.map, List.cons_append,
        List.flatMap_cons]

/-! ## Programs with the same blocks -/

section Programs

variable {other : Table Program}

/-- The same blocks behind blocks that are the same, or the same error. -/
theorem map_join_same {result result' : Except RenderError (Table BlockBody)}
    {blocks blocks' : Table BlockBody} (first : ∀ block, blocks'.get? block = blocks.get? block)
    (same : result'.map Table.get? = result.map Table.get?) :
    (result'.map (blocks' ++ ·)).map Table.get? = (result.map (blocks ++ ·)).map Table.get? := by
  cases result with
  | error cause =>
      cases result' with
      | error cause' => exact same
      | ok _ => cases same
  | ok above =>
      cases result' with
      | error _ => cases same
      | ok above' =>
          have behind : above'.get? = above.get? := Except.ok.inj same
          refine congrArg Except.ok (funext fun block => ?_)
          rw [Table.get?_join, Table.get?_join, first, behind]

/-- The same blocks are in effect. The number of steps does not matter, as long as they are enough
for either table. -/
theorem lineage_same (own : r.OwnNames) (programs : r.programs.SameBlocks other)
    {steps steps' : Nat} {visited : List String} (enough : Enough r.programs steps visited)
    (enough' : Enough other steps' visited) (name : String) :
    ({ r with programs := other }.lineage steps' visited name).map Table.get? =
      (r.lineage steps visited name).map Table.get? := by
  induction steps generalizing steps' visited name with
  | zero => exact absurd enough.pos (Nat.lt_irrefl 0)
  | succ steps ih =>
      obtain ⟨steps', rfl⟩ := Nat.exists_eq_add_one.2 enough'.pos
      rcases programs.lookup name with ⟨missing, missing'⟩ | ⟨p, q, found, found', blocks⟩
      · simp [lineage, program, missing, missing', bind, Except.bind]
      · have named := own name p found
        have known : r.programs.contains p.name = true :=
          named.symm ▸ Option.isSome_of_eq_some found
        have known' : other.contains p.name = true := named.symm ▸ Option.isSome_of_eq_some found'
        rw [lineage_succ found, lineage_succ found', blocks.name, blocks.parent]
        by_cases visited : p.name ∈ visited
        · rw [if_pos visited, if_pos visited]
        · rw [if_neg visited, if_neg visited]
          cases p.parent with
          | none => exact congrArg Except.ok (funext (get?_blockBodies_same blocks))
          | some parent =>
              exact map_join_same (get?_blockBodies_same blocks)
                (ih (enough.next known visited) (enough'.next known' visited) parent)

theorem render_same (programs : r.programs.SameBlocks other) (depth : Nat) (scope : Scope)
    (name : String) :
    { r with programs := other }.render depth scope name = r.render depth scope name :=
  run_similar (K := fun _ => True) programs (standsIn_eq _)
    (.template scope name rfl fun _ => rfl) fun _ _ => trivial

theorem renderBlock_same (own : r.OwnNames) (programs : r.programs.SameBlocks other) (depth : Nat)
    (scope : Scope) (name block : String) :
    { r with programs := other }.renderBlock depth scope name block =
      r.renderBlock depth scope name block := by
  have same := lineage_same own programs (.start r.programs) (.start other) name
  cases above : r.lineage (r.programs.length + 1) [] name with
  | error cause =>
      cases above' : { r with programs := other }.lineage (other.length + 1) [] name with
      | error cause' =>
          rw [above, above'] at same
          cases same
          rw [renderBlock_error above, renderBlock_error above']
      | ok blocks' =>
          rw [above, above'] at same
          cases same
  | ok blocks =>
      cases above' : { r with programs := other }.lineage (other.length + 1) [] name with
      | error cause' =>
          rw [above, above'] at same
          cases same
      | ok blocks' =>
          rw [above, above'] at same
          have alike : ∀ key, blocks'.get? key = blocks.get? key := congrFun (Except.ok.inj same)
          cases known : blocks.get? block with
          | none =>
              have missing : blocks'.get? block = none := (alike block).trans known
              rw [renderBlock_missing above known, renderBlock_missing above' missing]
          | some found =>
              have there : blocks.contains block = true := Option.isSome_of_eq_some known
              have there' : blocks'.contains block = true :=
                Option.isSome_of_eq_some ((alike block).trans known)
              rw [renderBlock_eq above there, renderBlock_eq above' there']
              exact run_similar (K := fun _ => True) programs (standsIn_eq _)
                (.statement scope _ rfl rfl (agree_of_get? alike _ _) (faithful_of_get? alike))
                fun _ _ => trivial

end Programs

/-! ## The rule of inheritance -/

/-- Two tables that give the same blocks are as good as each other. -/
theorem body_of_tables {blocks other : Table BlockBody}
    (alike : ∀ block, other.get? block = blocks.get? block) (depth : Nat) (chain : List String)
    (template : String) (scope : Scope) (body : List Stmt) :
    concat (r.statement depth ⟨chain, template, other⟩ scope) body =
      concat (r.statement depth ⟨chain, template, blocks⟩ scope) body := by
  refine concat_matches (K := fun _ => True) (List.forall₂_same.2 fun s _ kept => ?_)
    fun _ _ => trivial
  have similar : Similar Eq (.statement ⟨chain, template, blocks⟩ scope s)
      (.statement ⟨chain, template, other⟩ scope s) :=
    .statement scope s rfl rfl (agree_of_get? alike template s) (faithful_of_get? alike)
  exact run_similar (.refl r.programs) (standsIn_eq _) similar kept

/-- A template is rendered as the root of what it inherits from. Each block is the one of the first
template on the way that has it, written there, and the root's own block if no template before the
root has it. So nothing but the blocks of a template that inherits can make a difference, neither to
the text nor to an error, when the template or a block of it is rendered. -/
theorem render_by_inheritance (r : Renderer) (own : r.OwnNames) :
    (∀ name heirs root, r.Descends name heirs root → ∀ overrides : Table BlockBody,
      (∀ block, overrides.get? block =
        heirs.findSome? fun p => (p.blocks.get? block).map (BlockBody.mk p.name)) →
      ∀ depth scope, r.render (depth + heirs.length + 1) scope name =
        concat (r.statement depth ⟨(heirs ++ [root]).map Program.name, root.name, overrides⟩ scope)
          root.body) ∧
    ∀ other, r.programs.SameBlocks other → ∀ depth scope name,
      { r with programs := other }.render depth scope name = r.render depth scope name ∧
        ∀ block, { r with programs := other }.renderBlock depth scope name block =
          r.renderBlock depth scope name block := by
  refine ⟨fun name heirs root way overrides first depth scope => ?_, fun other programs depth scope
    name => ⟨render_same programs depth scope name, renderBlock_same own programs depth scope name⟩⟩
  -- The table of the rendering has the blocks of all heirs in a row, of which the first one counts.
  have alike : ∀ block, overrides.get? block = Table.get? (heirs.flatMap blockBodies) block :=
    fun block => (first block).trans (get?_heirs heirs block).symm
  rw [render, templateWith_of_descends own way (fun _ _ => List.not_mem_nil), List.nil_append,
    List.nil_append, body_of_tables alike]

/-- A page with something outside its blocks, the layout that it inherits from, and the frame that
the layout inherits from. -/
def layered (outside : List Instruction) : Renderer where
  programs :=
    [.make "page" ([.control (.inherit "layout"), .openBlock "a", .literal "page", .closeBlock] ++
        outside),
      .make "layout" [.control (.inherit "frame"), .literal "lost", .openBlock "a",
        .literal "layout", .closeBlock, .openBlock "b", .literal "layout", .closeBlock],
      .make "frame" [.literal "[", .openBlock "a", .closeBlock, .literal "|", .openBlock "b",
        .literal "frame", .closeBlock, .literal "]"]].map
      fun a => (a.name, .ofArtifact a)
  filters := []
  escaper := .standard
  strict := false
  loopLimit := 100

theorem fromArtifacts_layered (outside : List Instruction) : (layered outside).FromArtifacts := by
  intro name p found
  obtain ⟨a, -, entry⟩ := List.mem_map.1 (Table.mem_of_get? found)
  obtain ⟨rfl, rfl⟩ := Prod.mk.inj entry
  exact ⟨a, rfl, rfl⟩

/-- The page gives its own block, the layout the other one. A template that does not exist is not
looked for if the page inserts it outside its block. -/
theorem render_by_inheritance_layered :
    (layered []).OwnNames ∧ (layered []).render 5 .empty "page" = .ok "[page|layout]" ∧
      (layered [.control (.insert "none")]).render 5 .empty "page" = .ok "[page|layout]" := by
  have own := (fromArtifacts_layered []).ownNames
  have way : (layered []).Descends "page" _ _ := .heir rfl rfl (.heir rfl rfl (.root rfl rfl))
  have text := (render_by_inheritance (layered []) own).1 "page" _ _ way _
    (get?_heirs _) 2 .empty
  have programs :
      (layered []).programs.SameBlocks (layered [.control (.insert "none")]).programs :=
    .cons ⟨rfl, rfl, fun _ => rfl, fun ends => absurd ends (by decide)⟩ (.refl _)
  have page : (layered []).render 5 .empty "page" = .ok "[page|layout]" := text
  have same := ((render_by_inheritance (layered []) own).2 _ programs 5 .empty "page").1
  exact ⟨own, page, same.trans page⟩

end Stencil.Renderer
