import Mathlib.Data.List.Chain
import Stencil.Proofs.Rendering.Inheritance
import Stencil.Proofs.Rendering.Failure

/-!
# Circular references

Templates may inherit from each other in a circle, and insert each other in one. A rendering finds
such a circle by the chain of the templates that are open, and a single block by the templates visited
on the way up.

1. `Renderer.circles_of_repeat`: a way up that comes to a template twice has a first repetition.
2. `Renderer.of_ascent`: the induction that both searches have in common.
3. `Renderer.render_of_circles`, `Renderer.renderBlock_of_circles`: both end at that repetition.
4. `Renderer.linked_of_plan`: the chain of every job starts with the template that is rendered and
   holds no name twice.
5. `Renderer.circular_references`: what a circular reference says.
-/

namespace Stencil

/-- The last name of a row is the first one in it that has come before. -/
def EndsInRepeat (chain : List String) : Prop :=
  ∃ row last, chain = row ++ [last] ∧ row.Nodup ∧ last ∈ row

/-- A row in which a name comes twice begins with one that ends where this first happens. -/
theorem exists_endsInRepeat {names : List String} (twice : ¬names.Nodup) :
    ∃ chain, chain <+: names ∧ EndsInRepeat chain := by
  induction names using List.reverseRecOn with
  | nil => exact absurd List.nodup_nil twice
  | append_singleton row last ih =>
      by_cases distinct : row.Nodup
      · have again : last ∈ row := by
          by_contra new
          exact twice (List.nodup_append_comm.2 (List.nodup_cons.2 ⟨new, distinct⟩))
        exact ⟨row ++ [last], List.prefix_rfl, row, last, rfl, distinct, again⟩
      · obtain ⟨chain, early, ends⟩ := ih distinct
        exact ⟨chain, early.trans (List.prefix_append _ _), ends⟩

namespace Renderer

variable {r : Renderer} {name : String} {chain : List String}

/-- The template has a program, whose parent is the other one. -/
def Inherits (r : Renderer) (name parent : String) : Prop :=
  ∃ p, r.programs.get? name = some p ∧ p.parent = some parent

/-- From the template on, each one of the chain is the parent of the one before, up to the first that
has come before. -/
structure Circles (r : Renderer) (name : String) (chain : List String) : Prop where
  first : chain.head? = some name
  parents : chain.IsChain r.Inherits
  ends : EndsInRepeat chain

/-! ## The way up -/

/-- If the way up comes to some template twice, there is a first time. -/
theorem circles_of_repeat {ancestors : List String}
    (way : (name :: ancestors).IsChain r.Inherits) (twice : ¬(name :: ancestors).Nodup) :
    ∃ chain, r.Circles name chain := by
  obtain ⟨chain, early, ends⟩ := exists_endsInRepeat twice
  refine ⟨chain, ?_, way.prefix early, ends⟩
  obtain ⟨row, last, rfl, -⟩ := ends
  obtain ⟨rest, whole⟩ := early
  cases row with
  | nil =>
      cases whole
      rfl
  | cons first row =>
      cases whole
      rfl

/-- A search that goes up from a template ends with a chain, if it ends so at a template that has been
visited, and at any other one as soon as it does at the parent. -/
theorem of_ascent {P : List String → String → List String → Prop}
    (again : ∀ visited name, name ∈ visited → P visited name (visited ++ [name]))
    (up : ∀ visited name parent chain, r.Inherits name parent → name ∉ visited →
      P (visited ++ [name]) parent chain → P visited name chain)
    (circles : r.Circles name chain) : P [] name chain := by
  obtain ⟨first, parents, row, last, rfl, distinct, repeated⟩ := circles
  -- What has been visited and what is still to come make up the row.
  suffices from_ : ∀ visited, (visited ++ row).Nodup → last ∈ visited ++ row →
      P visited name (visited ++ row ++ [last]) from from_ [] distinct repeated
  clear distinct repeated
  induction row generalizing name with
  | nil =>
      intro visited _ repeated
      cases first
      rw [List.append_nil] at repeated ⊢
      exact again visited last repeated
  | cons head row ih =>
      intro visited distinct repeated
      cases first
      obtain ⟨parent, next⟩ : ∃ parent, (row ++ [last]).head? = some parent := by
        cases row <;> exact ⟨_, rfl⟩
      have inherits : r.Inherits head parent := parents.rel_head? next
      have new : head ∉ visited := fun old =>
        (List.nodup_append.1 distinct).2.2 head old head List.mem_cons_self rfl
      have regroup : visited ++ head :: row = visited ++ [head] ++ row := by simp
      rw [regroup] at distinct repeated ⊢
      exact up _ _ _ _ inherits new (ih next parents.tail (visited ++ [head]) distinct repeated)

theorem templateWith_again {visited : List String} (old : name ∈ visited) (depth : Nat)
    (overrides : Table BlockBody) (scope : Scope) :
    r.templateWith (depth + 1) visited overrides scope name =
      .error (.raised (.circularReference (visited ++ [name]))) := by
  rw [templateWith, if_pos (List.contains_iff_mem.2 old)]

/-- A template on a way up that circles is not rendered, if there is depth for the way. -/
theorem render_of_circles (circles : r.Circles name chain) {depth : Nat}
    (enough : chain.length ≤ depth) (scope : Scope) :
    r.render depth scope name = .error (.raised (.circularReference chain)) := by
  -- A level of depth is used up for every template that joins those visited.
  have search := of_ascent (P := fun visited name chain => visited.length < chain.length ∧
    ∀ depth overrides, chain.length ≤ visited.length + depth →
      r.templateWith depth visited overrides scope name =
        .error (.raised (.circularReference chain))) ?_ ?_ circles
  · exact search.2 depth [] (by simpa using enough)
  · intro visited name old
    simp only [List.length_append, List.length_singleton]
    refine ⟨Nat.lt_succ_self _, fun depth overrides enough => ?_⟩
    obtain ⟨depth, rfl⟩ := Nat.exists_eq_add_one.2 (by omega : 0 < depth)
    exact templateWith_again old depth overrides scope
  · rintro visited name parent chain ⟨p, found, inherits⟩ new ⟨longer, above⟩
    simp only [List.length_append, List.length_singleton] at longer above
    refine ⟨by omega, fun depth overrides enough => ?_⟩
    obtain ⟨depth, rfl⟩ := Nat.exists_eq_add_one.2 (by omega : 0 < depth)
    rw [templateWith_heir found inherits new]
    exact above depth _ (by omega)

theorem lineage_of_circles (own : r.OwnNames) (circles : r.Circles name chain) :
    r.lineage (r.programs.length + 1) [] name = .error (.circularReference chain) := by
  refine of_ascent (P := fun visited name chain => ∀ steps, Enough r.programs steps visited →
    r.lineage steps visited name = .error (.circularReference chain)) ?_ ?_ circles _ (.start _)
  · intro visited name old steps enough
    obtain ⟨steps, rfl⟩ := Nat.exists_eq_add_one.2 enough.pos
    obtain ⟨p, found⟩ := Option.isSome_iff_exists.1 (enough.known name old)
    have named := own name p found
    rw [lineage_succ found, named, if_pos old]
  · rintro visited name parent chain ⟨p, found, inherits⟩ new above steps enough
    obtain ⟨steps, rfl⟩ := Nat.exists_eq_add_one.2 enough.pos
    have named := own name p found
    have known : r.programs.contains name = true := Option.isSome_of_eq_some found
    rw [lineage_succ found, named, if_neg new, inherits]
    simp only [above steps (enough.next known new)]
    rfl

/-- No block of such a template is rendered either. -/
theorem renderBlock_of_circles (own : r.OwnNames) (circles : r.Circles name chain) (depth : Nat)
    (scope : Scope) (block : String) :
    r.renderBlock depth scope name block = .error (.raised (.circularReference chain)) :=
  renderBlock_error (lineage_of_circles own circles) depth

/-! ## The chain of a rendering -/

/-- A chain starts with the template that is rendered, and it holds different templates that have
programs. -/
structure Links (r : Renderer) (start : String) (chain : List String) : Prop where
  first : chain.head? = some start
  distinct : chain.Nodup
  known : ∀ name ∈ chain, r.programs.contains name = true

/-- The chain of the job is that of a rendering of a template, or nothing is open yet and the template
itself comes first. -/
def Linked (r : Renderer) (start : String) : Job → Prop
  | .statement site _ _ => r.Links start site.chain
  | .template chain _ _ name => r.Links start chain ∨ (chain = [] ∧ name = start)

variable {start : String}

theorem Links.push (links : r.Links start chain ∨ (chain = [] ∧ name = start))
    (new : name ∉ chain) (known : r.programs.contains name = true) :
    r.Links start (chain ++ [name]) := by
  rcases links with ⟨first, distinct, others⟩ | ⟨rfl, rfl⟩
  · refine ⟨by simp [first], ?_, fun other member => ?_⟩
    · exact List.nodup_append_comm.2 (List.nodup_cons.2 ⟨new, distinct⟩)
    · rcases List.mem_append.1 member with old | same
      · exact others other old
      · exact List.mem_singleton.1 same ▸ known
  · refine ⟨rfl, List.nodup_singleton _, fun other member => ?_⟩
    exact List.mem_singleton.1 member ▸ known

/-- Statements leave the chain as it is, and a template puts its name behind it. -/
theorem linked_of_plan {t : Job} (h : r.Linked start t) :
    ∀ u ∈ (r.plan t).jobs, r.Linked start u := by
  intro u member
  cases t with
  | statement site scope s =>
      rcases mem_planOf member with ⟨v, -, inner, rfl⟩ | ⟨_, _, block, -, -, v, -, rfl⟩ | ⟨_, -, rfl⟩
      · exact h
      · exact h
      · exact .inl h
  | template chain overrides scope name =>
      obtain ⟨new, p, found, kinds⟩ := mem_plan_template member
      have longer := Links.push h new (Option.isSome_of_eq_some found)
      rcases kinds with ⟨parent, -, rfl⟩ | ⟨s, -, rfl⟩
      · exact .inl longer
      · exact longer

/-- What a circular reference says that comes up when a template is rendered. -/
structure Describes (r : Renderer) (start : String) (chain : List String) : Prop where
  first : chain.head? = some start
  ends : EndsInRepeat chain
  known : ∀ name ∈ chain, r.programs.contains name = true

theorem describes_of_failure {t : Job} (h : r.Linked start t)
    (fails : (r.plan t).failure = some (.circularReference chain)) : r.Describes start chain := by
  cases t with
  | statement site scope s =>
      rcases planOf_failure fails with located | ⟨_, other⟩
      · cases located
      · cases other
  | template row overrides scope name =>
      rcases plan_failure fails with ⟨again, same⟩ | ⟨-, other⟩
      · cases same
        rcases h with ⟨first, distinct, known⟩ | ⟨rfl, -⟩
        · refine ⟨by simp [first], ⟨row, name, rfl, distinct, again⟩, fun other member => ?_⟩
          rcases List.mem_append.1 member with old | same
          · exact known other old
          · exact known other (List.mem_singleton.1 same ▸ again)
        · cases again
      · cases other

theorem describes_of_render {depth : Nat} {scope : Scope}
    (raised : r.render depth scope start = .error (.raised (.circularReference chain))) :
    r.Describes start chain :=
  cause_of_plan
    (P := fun cause => ∀ chain, cause = .circularReference chain → r.Describes start chain)
    (fun _ linked => ⟨fun _ fails _ same => describes_of_failure linked (same ▸ fails),
      linked_of_plan linked⟩)
    (t := .template [] [] scope start) (.inr ⟨rfl, rfl⟩) raised chain rfl

/-! ## The rule of circular references -/

/-- If the way up from a template comes to some template twice, then neither the template nor any of its
blocks is rendered, whatever the variables are. Both searches report the way up to the first
repetition. Every circular reference that comes up when a template is rendered, be it by parents or by
insertions, names the template first, then other ones that are loaded, and at the end the one of them
that is met again. -/
theorem circular_references (r : Renderer) (own : r.OwnNames) (name : String) :
    (∀ ancestors, (name :: ancestors).IsChain r.Inherits → ¬(name :: ancestors).Nodup →
      ∃ chain, r.Circles name chain ∧ ∀ scope,
        (∀ depth, chain.length ≤ depth →
          r.render depth scope name = .error (.raised (.circularReference chain))) ∧
        ∀ depth block,
          r.renderBlock depth scope name block = .error (.raised (.circularReference chain))) ∧
    ∀ depth scope chain,
      r.render depth scope name = .error (.raised (.circularReference chain)) →
        r.Describes name chain := by
  refine ⟨fun ancestors way twice => ?_, fun _ _ _ => describes_of_render⟩
  obtain ⟨chain, circles⟩ := circles_of_repeat way twice
  refine ⟨chain, circles, fun scope => ⟨fun depth enough => ?_, fun depth block => ?_⟩⟩
  · exact render_of_circles circles enough scope
  · exact renderBlock_of_circles own circles depth scope block

/-- A leaf above which two templates inherit from each other, and a list whose rows insert it. -/
def rings : Renderer where
  programs :=
    [.make "leaf" [.control (.inherit "a"), .openBlock "x", .literal "leaf", .closeBlock],
      .make "a" [.control (.inherit "b")], .make "b" [.control (.inherit "a")],
      .make "list" [.literal "<", .control (.openFor "i in 1..2"), .control (.insert "row"),
        .control .closeFor],
      .make "row" [.openBlock "x", .control (.insert "list"), .closeBlock]].map
      fun a => (a.name, .ofArtifact a)
  filters := []
  escaper := .standard
  strict := false
  loopLimit := 100

/-- The leaf is not part of the circle above it. The row inserts the list in a block. -/
theorem circular_references_rings :
    rings.OwnNames ∧
      rings.render 4 .empty "leaf" =
        .error (.raised (.circularReference ["leaf", "a", "b", "a"])) ∧
      rings.renderBlock 4 .empty "leaf" "x" =
        .error (.raised (.circularReference ["leaf", "a", "b", "a"])) ∧
      rings.render 7 .empty "list" = .error (.raised (.circularReference ["list", "row", "list"])) ∧
      rings.Describes "list" ["list", "row", "list"] := by
  have own : rings.OwnNames := by
    refine FromArtifacts.ownNames fun name p found => ?_
    obtain ⟨a, -, entry⟩ := List.mem_map.1 (Table.mem_of_get? found)
    obtain ⟨rfl, rfl⟩ := Prod.mk.inj entry
    exact ⟨a, rfl, rfl⟩
  have way : ["leaf", "a", "b", "a"].IsChain rings.Inherits :=
    .cons_cons ⟨_, rfl, rfl⟩ (.cons_cons ⟨_, rfl, rfl⟩ (.cons_cons ⟨_, rfl, rfl⟩ (.singleton _)))
  have leaf : rings.render 4 .empty "leaf" =
      .error (.raised (.circularReference ["leaf", "a", "b", "a"])) := by rfl
  have list : rings.render 7 .empty "list" =
      .error (.raised (.circularReference ["list", "row", "list"])) := by decide +kernel
  obtain ⟨chain, -, fails⟩ :=
    (circular_references rings own "leaf").1 ["a", "b", "a"] way (by decide)
  obtain ⟨whole, blocks⟩ := fails .empty
  -- At a depth that is enough for either chain, both are the result of one rendering.
  have same : rings.render (max 4 chain.length) .empty "leaf" = rings.render 4 .empty "leaf" :=
    run_mono (t := .template [] [] .empty "leaf") (Nat.le_max_left 4 chain.length)
      (by show rings.render 4 .empty "leaf" ≠ _; simp [leaf])
  rw [whole _ (Nat.le_max_right 4 chain.length), leaf] at same
  cases same
  exact ⟨own, leaf, blocks 4 "x", list, (circular_references rings own "list").2 7 .empty _ list⟩

end Renderer

end Stencil
