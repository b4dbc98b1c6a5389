import Stencil.Program

/-!
# Statements inside statements

A statement holds rows of other statements: the branches of a condition, the body of a loop or of a
block. `walk` lists a statement and all that it holds, in the order in which they are written.

* `Stmt.holds_of_inner`: what passes from all statements in its bodies to a statement holds of all.
* `Stmt.walk_eq`: a walk is the statement and then the walks of its bodies.
* `Stmt.mem_walk_trans`: what is inside of what is inside is inside.
* `Stmt.length_walk_lt`: what is inside is smaller.
-/

namespace Stencil

namespace Stmt

/-- The rows of statements directly inside a statement, in order. -/
def bodies : Stmt → List (List Stmt)
  | choice branches otherwise => branches.map Prod.snd ++ otherwise.toList
  | foreach _ body | forIn _ body | whileDo _ body | block _ body => [body]
  | text _ | echo .. | insert _ => []

/-- The statements directly inside a statement, in order. -/
def inner (s : Stmt) : List Stmt := s.bodies.flatten

/-- What holds of a statement as soon as it holds of those directly inside of it holds of every
statement. -/
theorem holds_of_inner {P : Stmt → Prop} (step : ∀ s, (∀ t ∈ s.inner, P t) → P s) (s : Stmt) :
    P s := by
  -- The recursor needs one motive for each kind of row that a statement can hold.
  refine @Stmt.rec P (fun branches => ∀ body ∈ branches.map Prod.snd, ∀ t ∈ body, P t)
    (fun otherwise => ∀ body ∈ otherwise.toList, ∀ t ∈ body, P t)
    (fun body => ∀ t ∈ body, P t) (fun branch => ∀ t ∈ branch.2, P t)
    ?text ?echo ?choice ?foreach ?forIn ?whileDo ?block ?insert
    ?noBranch ?branches ?noElse ?otherwise ?noStmt ?stmts ?branch s
  case text | echo | insert => intros; exact step _ (by simp [inner, bodies])
  case choice =>
    intro branches otherwise inBranches inElse
    refine step _ fun t within => ?_
    simp only [inner, bodies, List.mem_flatten, List.mem_append] at within
    obtain ⟨body, found | found, member⟩ := within
    · exact inBranches body found t member
    · exact inElse body found t member
  case foreach | forIn | whileDo | block =>
    intro _ body inBody
    exact step _ (by simpa [inner, bodies] using inBody)
  case noStmt | noBranch | noElse => simp
  case branches =>
    intro head tail atHead inTail
    rw [List.map_cons, List.forall_mem_cons]
    exact ⟨atHead, inTail⟩
  case stmts =>
    intro head tail atHead inTail
    rw [List.forall_mem_cons]
    exact ⟨atHead, inTail⟩
  case otherwise =>
    intro body inBody
    simpa using inBody
  case branch => exact fun _ _ inBody => inBody

mutual
/-- The statement and all statements inside of it, in the order in which they are written. -/
def walk : Stmt → List Stmt
  | text t => [text t]
  | echo e strategy line => [echo e strategy line]
  | choice branches otherwise =>
      choice branches otherwise :: (walkBranches branches ++ walkElse otherwise)
  | foreach e body => foreach e body :: walkAll body
  | forIn e body => forIn e body :: walkAll body
  | whileDo e body => whileDo e body :: walkAll body
  | block name body => block name body :: walkAll body
  | insert name => [insert name]

def walkAll : List Stmt → List Stmt
  | [] => []
  | s :: rest => walk s ++ walkAll rest

def walkBranches : List (String × List Stmt) → List Stmt
  | [] => []
  | (_, body) :: rest => walkAll body ++ walkBranches rest

def walkElse : Option (List Stmt) → List Stmt
  | none => []
  | some body => walkAll body
end

theorem walkAll_eq (body : List Stmt) : walkAll body = body.flatMap walk := by
  induction body with
  | nil => simp [walkAll]
  | cons s rest ih => simp [walkAll, ih]

theorem mem_walkAll {body : List Stmt} {t : Stmt} : t ∈ walkAll body ↔ ∃ s ∈ body, t ∈ s.walk := by
  rw [walkAll_eq, List.mem_flatMap]

theorem walkBranches_eq (branches : List (String × List Stmt)) :
    walkBranches branches = (branches.map Prod.snd).flatten.flatMap walk := by
  induction branches with
  | nil => simp [walkBranches]
  | cons branch rest ih =>
      obtain ⟨condition, body⟩ := branch
      simp [walkBranches, walkAll_eq, ih]

theorem walkElse_eq (otherwise : Option (List Stmt)) :
    walkElse otherwise = otherwise.toList.flatten.flatMap walk := by
  cases otherwise <;> simp [walkElse, walkAll_eq]

/-- A walk is the statement and then the walks of what is directly inside of it. -/
theorem walk_eq (s : Stmt) : walk s = s :: s.inner.flatMap walk := by
  cases s <;> simp [walk, inner, bodies, walkAll_eq, walkBranches_eq, walkElse_eq]

theorem self_mem_walk (s : Stmt) : s ∈ s.walk := by
  rw [walk_eq]
  exact List.mem_cons_self

theorem mem_walk_iff {s t : Stmt} : t ∈ s.walk ↔ t = s ∨ ∃ u ∈ s.inner, t ∈ u.walk := by
  rw [walk_eq]
  simp [List.mem_flatMap]

theorem mem_walk_of_inner {s t u : Stmt} (within : u ∈ s.inner) (h : t ∈ u.walk) : t ∈ s.walk :=
  mem_walk_iff.2 (.inr ⟨u, within, h⟩)

/-- What stands inside of a statement that stands inside of another one stands inside of that. -/
theorem mem_walk_trans {s t u : Stmt} (inner : t ∈ s.walk) (outer : s ∈ u.walk) : t ∈ u.walk := by
  induction u using holds_of_inner with
  | step u ih =>
      rcases mem_walk_iff.1 outer with rfl | ⟨v, within, h⟩
      · exact inner
      · exact mem_walk_of_inner within (ih v within h)

theorem length_walk_lt {s t : Stmt} (within : t ∈ s.inner) : t.walk.length < s.walk.length := by
  have part : t.walk.length ≤ (s.inner.flatMap walk).length :=
    (List.sublist_flatten_of_mem (List.mem_map.2 ⟨t, within, rfl⟩)).length_le
  rw [walk_eq s, List.length_cons]
  exact Nat.lt_succ_of_le part

end Stmt

/-- All statements of a program, those of its block table included. -/
def Program.statements (p : Program) : List Stmt :=
  Stmt.walkAll p.body ++ p.blocks.flatMap fun block => Stmt.walkAll block.2

namespace Program

theorem walk_subset_statements {p : Program} {s t : Stmt} (h : s ∈ p.statements)
    (inner : t ∈ s.walk) : t ∈ p.statements := by
  simp only [statements, Stmt.mem_walkAll, List.mem_append, List.mem_flatMap] at h ⊢
  rcases h with ⟨u, member, outer⟩ | ⟨block, found, u, member, outer⟩
  · exact .inl ⟨u, member, Stmt.mem_walk_trans inner outer⟩
  · exact .inr ⟨block, found, u, member, Stmt.mem_walk_trans inner outer⟩

theorem mem_statements_of_body {p : Program} {s : Stmt} (h : s ∈ p.body) : s ∈ p.statements := by
  simp only [statements, Stmt.mem_walkAll, List.mem_append, List.mem_flatMap]
  exact .inl ⟨s, h, s.self_mem_walk⟩

theorem mem_statements_of_block {p : Program} {name : String} {body : List Stmt} {s : Stmt}
    (found : (name, body) ∈ p.blocks) (h : s ∈ body) : s ∈ p.statements := by
  simp only [statements, Stmt.mem_walkAll, List.mem_append, List.mem_flatMap]
  exact .inr ⟨(name, body), found, s, h, s.self_mem_walk⟩

end Program

end Stencil
