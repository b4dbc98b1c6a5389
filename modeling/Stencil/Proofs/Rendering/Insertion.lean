import Stencil.Proofs.Rendering.Comparison

/-!
# Templates that are inserted

A template that another one inserts is rendered inside of it: the chain holds the templates that are
open, and the statement that inserts may stand in a loop, or in a block that is executed for another
one. The text is that of the template on its own, with the variables in sight at that place.

1. `Renderer.output_of_reaches`: what a run gets to gives the part of the output that is next.
2. `Renderer.render_of_insert`: what an insertion gives is what the template gives on its own.
3. `Renderer.insertion_is_rendering`: the rule of insertion.
-/

namespace Stencil.Renderer

variable {r : Renderer}

/-- A run at a depth gets to a job and executes it at a depth of its own, when the run has put out
`written`. -/
inductive Reaches (r : Renderer) : Nat → Job → String → Nat → Job → Prop
  | here (depth : Nat) (t : Job) : Reaches r depth t "" depth t
  | further {depth deeper : Nat} {t u v : Job} (before : List Job) {after : List Job}
      (first : String) {written : String} (row : (r.plan t).jobs = before ++ u :: after)
      (texts : concat (r.run depth) before = .ok first)
      (on : Reaches r depth u written deeper v) :
      Reaches r (depth + 1) t ((r.plan t).text ++ first ++ written) deeper v

/-! ## What is reached -/

/-- The output of a run goes on with the text of what it gets to. -/
theorem output_of_reaches {depth deeper : Nat} {t u : Job} {written : String}
    (reached : r.Reaches depth t written deeper u) {out : String} (h : r.run depth t = .ok out) :
    ∃ text rest, r.run deeper u = .ok text ∧ out = written ++ text ++ rest := by
  induction reached generalizing out with
  | here depth t => exact ⟨out, "", h, by simp⟩
  | further before first row texts _ ih =>
      rw [run_succ, Plan.follow, row] at h
      split at h
      · cases h
      · cases h
      · next whole all _ =>
        cases h
        obtain ⟨first, own, last, early, done, -, rfl⟩ := concat_split all
        rw [texts] at early
        cases early
        obtain ⟨text, rest, given, rfl⟩ := ih done
        exact ⟨text, rest ++ last, given, by simp only [String.append_assoc]⟩

/-! ## Insertions -/

theorem run_insert (depth : Nat) (site : Site) (scope : Scope) (name : String) :
    r.run (depth + 1) (.statement site scope (.insert name)) =
      r.templateWith depth site.chain [] scope name := by
  simp only [run, statement]

/-- Inside of other templates, and whatever blocks are in effect there, a template gives what it gives
on its own, unless it leads back to one that is open. -/
theorem render_of_insert {depth : Nat} {site : Site} {scope : Scope} {name : String}
    (kept : Kept NotCircular (r.run (depth + 1) (.statement site scope (.insert name)))) :
    r.render depth scope name = r.run (depth + 1) (.statement site scope (.insert name)) := by
  rw [run_insert] at kept ⊢
  have similar : Similar (fun chain chain' => chain' ⊆ chain) (.template site.chain [] scope name)
      (.template [] [] scope name) := .template scope name (List.nil_subset _) fun _ => rfl
  exact run_similar (.refl r.programs) standsIn_subset similar kept

theorem render_of_insert_ok {deeper enough : Nat} {site : Site} {scope : Scope}
    {name text : String} (le : deeper ≤ enough)
    (given : r.run deeper (.statement site scope (.insert name)) = .ok text) :
    r.render enough scope name = .ok text := by
  cases deeper with
  | zero =>
      rw [run_zero] at given
      cases given
  | succ depth =>
      have alone : r.run depth (.template [] [] scope name) = .ok text :=
        (render_of_insert (kept_of_ok given)).trans given
      have settled : r.run depth (.template [] [] scope name) ≠ .error .unfinished := by
        simp [alone]
      exact (run_mono (Nat.le_of_succ_le le) settled).trans alone

/-- Every insertion that a run gets to gives the text of the template on its own with the variables in
sight there, or no text. If the run gives an output, that text stands in it right behind what has been
put out before. -/
def InsertsRenderings (r : Renderer) (result : Except Stop String) (depth : Nat) (start : Job) :
    Prop :=
  ∀ written deeper site scope name,
    r.Reaches depth start written deeper (.statement site scope (.insert name)) →
      (∀ text, r.run deeper (.statement site scope (.insert name)) = .ok text →
        ∀ enough, deeper ≤ enough → r.render enough scope name = .ok text) ∧
      ∀ out, result = .ok out → ∃ text rest,
        r.run deeper (.statement site scope (.insert name)) = .ok text ∧
          out = written ++ text ++ rest

theorem insertsRenderings_of_run {result : Except Stop String} {depth : Nat} {start : Job}
    (same : result = r.run depth start) : r.InsertsRenderings result depth start := by
  intro written deeper site scope name reached
  refine ⟨fun text given enough le => render_of_insert_ok le given, fun out done => ?_⟩
  exact output_of_reaches reached (same.symm.trans done)

/-- A template is inserted by rendering it, whether a template is rendered or a block of it, and
whichever way leads to the insertion. -/
theorem insertion_is_rendering (r : Renderer) (depth : Nat) (scope : Scope) (name : String) :
    r.InsertsRenderings (r.render depth scope name) depth (.template [] [] scope name) ∧
    ∀ block blocks, r.lineage (r.programs.length + 1) [] name = .ok blocks →
      blocks.contains block = true →
        r.InsertsRenderings (r.renderBlock depth scope name block) (depth + 1)
          (blockJob blocks scope name block) := by
  refine ⟨insertsRenderings_of_run rfl, fun block blocks above known => ?_⟩
  exact insertsRenderings_of_run (renderBlock_eq above known depth)

/-- A page whose list stands in for that of its frame, and a row, which has a list of its own. -/
def listPage : Renderer where
  programs :=
    [.make "page" [.control (.inherit "frame"), .openBlock "list",
        .control (.openForeach "items as item"), .control (.insert "row"), .control .closeForeach,
        .closeBlock],
      .make "frame" [.literal "<", .openBlock "list", .closeBlock, .literal ">"],
      .make "row" [.openBlock "list", .echo "item" none 1, .closeBlock, .literal ";"]].map
      fun a => (a.name, .ofArtifact a)
  filters := []
  escaper := .standard
  strict := true
  loopLimit := 100

def twoItems : Scope := .ofTable [("items", .list [.string "a", .string "b"])]

/-- The second row is inserted by the page's list in place of the frame's. The row's own list is the
one in the text, as it is if the row is rendered on its own. -/
theorem insertion_is_rendering_row :
    ∃ deeper site inner,
      listPage.Reaches 8 (.template [] [] twoItems "page") "<a;" deeper
        (.statement site inner (.insert "row")) ∧
      site.chain = ["page", "frame"] ∧ site.overrides.contains "list" = true ∧
      listPage.run deeper (.statement site inner (.insert "row")) = .ok "b;" ∧
      listPage.render deeper inner "row" = .ok "b;" := by
  let inner := (twoItems.child.bind "item" (.string "b")).bind "loop" (Loop.counter 1 2)
  let list := [Stmt.foreach "items as item" [.insert "row"]]
  let site : Site := ⟨["page", "frame"], "page", [("list", ⟨"page", list⟩)]⟩
  have reached : listPage.Reaches 8 (.template [] [] twoItems "page") "<a;" 4
      (.statement site inner (.insert "row")) := by
    refine .further [] "" rfl rfl (?_ : listPage.Reaches 7 _ "<a;" 4 _)
    refine .further [_] "<" rfl rfl (?_ : listPage.Reaches 6 _ "a;" 4 _)
    refine .further [] "" rfl rfl (?_ : listPage.Reaches 5 _ "a;" 4 _)
    exact .further [_] "a;" rfl rfl (.here 4 _)
  have given : listPage.run 4 (.statement site inner (.insert "row")) = .ok "b;" := by rfl
  have alone := ((insertion_is_rendering listPage 8 twoItems "page").1 "<a;" 4 site inner "row"
    reached).1 "b;" given 4 (Nat.le_refl 4)
  exact ⟨4, site, inner, reached, rfl, rfl, given, alone⟩

end Stencil.Renderer
