import Mathlib.Logic.Relation
import Stencil.Engine
import Stencil.Proofs.Rendering.Loaded
import Stencil.Proofs.Scope

/-!
# Variables in front of globals

Rendering begins in a scope that is laid over the globals, and goes on in scopes inside of it: a
loop adds a frame for each round, and nothing else changes the scope. So whatever is executed, a
name is looked up in the loops around it, then in the variables of the rendering and then in the
globals.

1. `Renderer.inside_of_plan`: a step of rendering stays inside of its scope.
2. `Renderer.inside_of_setsOff`: so does every run.
3. `Engine.variables_in_layers`: scopes in layers, and which bindings are in sight while rendering.
-/

namespace Stencil

/-- The scope that a job is done in. -/
def Job.scope : Job → Scope
  | .statement _ scope _ | .template _ _ scope _ => scope

namespace Loop

/-- The scope of a round is the scope of the loop with one more frame. -/
theorem inside_of_scopes {scope inner : Scope} {rounds : List (Table Value)}
    (h : inner ∈ scopes scope rounds) : inner.Inside scope := by
  have bound (bindings : Table Value) (s : Scope) :
      (bindings.foldl (fun s binding => s.bind binding.1 binding.2) s).outer = s.outer := by
    induction bindings generalizing s with
    | nil => rfl
    | cons binding rest ih => exact ih (s.bind binding.1 binding.2)
  obtain ⟨⟨bindings, i⟩, -, rfl⟩ := List.mem_map.1 h
  exact Scope.inside_of_outer (bound bindings scope.child)

end Loop

namespace Renderer

variable {r : Renderer}

theorem inside_of_bodyJobs {site : Site} {scope outer : Scope} {body : List Stmt} {t : Job}
    (h : t ∈ bodyJobs site scope body) (within : scope.Inside outer) : t.scope.Inside outer := by
  obtain ⟨s, -, rfl⟩ := mem_bodyJobs.1 h
  exact within

theorem inside_of_planOf {site : Site} {scope : Scope} {s : Stmt} {t : Job}
    (h : t ∈ (r.planOf site scope s).jobs) : t.scope.Inside scope := by
  cases s with
  | text text => cases h
  | echo expression strategy line =>
      obtain ⟨text, -, none⟩ := Plan.mem_after.1 h
      cases none
  | choice branches otherwise =>
      obtain ⟨body, -, inBody⟩ := Plan.mem_after.1 h
      exact inside_of_bodyJobs inBody (Scope.inside_refl scope)
  | foreach text body | forIn text body =>
      obtain ⟨rounds, -, inRounds⟩ := Plan.mem_after.1 h
      obtain ⟨inner, isRound, inRound⟩ := List.mem_flatMap.1 inRounds
      exact inside_of_bodyJobs inRound (Loop.inside_of_scopes isRound)
  | whileDo condition body =>
      obtain ⟨holds, -, inRounds⟩ := Plan.mem_after.1 h
      cases holds with
      | false => cases inRounds
      | true =>
          obtain ⟨round, isRound, inRound⟩ := List.mem_flatten.1 inRounds
          rw [List.eq_of_mem_replicate isRound] at inRound
          exact inside_of_bodyJobs inRound (Scope.inside_refl scope)
  | block name body => exact inside_of_bodyJobs h (Scope.inside_refl scope)
  | insert name =>
      obtain rfl := List.mem_singleton.1 h
      exact Scope.inside_refl scope

/-- What a plan sets in motion stays inside of the scope. -/
theorem inside_of_plan {t u : Job} (h : u ∈ (r.plan t).jobs) : u.scope.Inside t.scope := by
  cases t with
  | statement site scope s => exact inside_of_planOf h
  | template chain overrides scope name =>
      obtain ⟨-, p, -, ⟨parent, -, rfl⟩ | ⟨s, -, rfl⟩⟩ := mem_plan_template h
      · exact Scope.inside_refl scope
      · exact Scope.inside_refl scope

/-- One job sets another one in motion, directly or by way of others. -/
def SetsOff (r : Renderer) : Job → Job → Prop :=
  Relation.ReflTransGen fun t u => u ∈ (r.plan t).jobs

theorem inside_of_setsOff {t u : Job} (h : r.SetsOff t u) : u.scope.Inside t.scope := by
  induction h with
  | refl => exact Scope.inside_refl _
  | tail _ step ih => exact (inside_of_plan step).trans ih

end Renderer

namespace Engine

theorem get?_visible (e : Engine) {c : Scope} (distinct : c.Distinct) (name : String) :
    (e.visible c).get? name = (c.get? name).or (e.globals.get? name) := by
  have ground : (Scope.ofTable e.globals).get? name = e.globals.get? name := by
    rw [Scope.get?, Scope.frames, Scope.find?_cons]
    exact Option.or_none
  rw [visible, Scope.get?_layer distinct, ground]

/-- A scope in two layers has the value of a name in the upper layer if there is one, and else that
in the lower layer, and it has a path as a whole from one of the two. Three layers show the same in
whichever order they are laid. While a template is rendered, the bindings of the loops around a
statement come first, then those that the rendering was given, in whatever frame they stand, and
then the globals. -/
theorem variables_in_layers {c : Scope} (distinct : c.Distinct) :
    (∀ base : Scope, (∀ name, (c.layer base).get? name =
        if c.contains name then c.get? name else base.get? name) ∧
      (∀ path, (c.layer base).at? path = if c.sees path then c.at? path else base.at? path) ∧
      (base.Distinct → ∀ ground : Scope,
        (∀ name,
          ((c.layer base).layer ground).get? name = (c.layer (base.layer ground)).get? name) ∧
        ∀ path, ((c.layer base).layer ground).at? path = (c.layer (base.layer ground)).at? path)) ∧
    ∀ (e : Engine) (r : Renderer) (start job : Job), start.scope = e.visible c →
      r.SetsOff start job → ∃ loops, job.scope.frames = loops ++ (e.visible c).frames ∧
        ∀ name, job.scope.get? name =
          (Scope.find? loops name).or ((c.get? name).or (e.globals.get? name)) := by
  refine ⟨fun base => ⟨fun name => ?_, Scope.at?_layer distinct base, fun lower ground => ?_⟩, ?_⟩
  · rw [Scope.get?_layer distinct, Scope.contains]
    cases c.get? name <;> rfl
  · have alike := Scope.alike_layer_layer distinct lower ground
    exact ⟨alike, alike.at?⟩
  · intro e r start job begins reached
    obtain ⟨loops, inside⟩ := Renderer.inside_of_setsOff reached
    rw [begins] at inside
    refine ⟨loops, inside, fun name => ?_⟩
    rw [Scope.get?, inside, Scope.find?_append]
    exact congrArg (Option.or _) (get?_visible e distinct name)

/-- The title of the page stands outside of its items, and the lower title in the innermost frame.
In the loop over the items the title of the page is still in front of that of the globals. -/
theorem variables_in_layers_hidden :
    let c := (Scope.ofTable [("title", .string "page")]).child.bind "items" (.list [.int 7])
    let base := (Scope.ofTable [("x", .int 4)]).child.bind "title" (.map [("x", .int 5)])
    let e := { make (.memory []) .default with
      globals := [("title", .string "site"), ("item", .int 0), ("charset", .string "UTF-8")] }
    let start := Job.statement ⟨[], "t", []⟩ (e.visible c) (.forIn "item in items" [.text "-"])
    let inner := ((e.visible c).child.bind "item" (.int 7)).bind "loop" (Loop.counter 0 1)
    let job := Job.statement ⟨[], "t", []⟩ inner (.text "-")
    c.Distinct ∧ base.Distinct ∧ (e.renderer []).SetsOff start job ∧
      (c.layer base).get? "title" = some (.string "page") ∧
      (c.layer base).at? [.key "title", .key "x"] = none ∧
      (c.layer base).get? "x" = some (.int 4) ∧
      ((c.layer base).layer (.ofTable e.globals)).get? "title" = some (.string "page") ∧
      inner.get? "title" = some (.string "page") ∧ inner.get? "item" = some (.int 7) ∧
      inner.get? "charset" = some (.string "UTF-8") := by
  intro c base e start inner job
  have upper : c.Distinct := (Scope.distinct_ofTable (by decide)).child.bind _ _
  have lower : base.Distinct := (Scope.distinct_ofTable (by decide)).child.bind _ _
  have reached : (e.renderer []).SetsOff start job := by
    have rounds : Loop.forRounds (e.renderer []).rules (e.renderer []).loopLimit "t" (e.visible c)
        "item in items" = .ok [[("item", .int 7)]] := rfl
    have planned : ((e.renderer []).plan start).jobs = [job] := by
      simp only [start, Renderer.plan, Renderer.planOf, rounds]
      rfl
    exact .single (planned ▸ List.mem_singleton_self job)
  obtain ⟨layers, running⟩ := variables_in_layers upper
  obtain ⟨names, paths, laid⟩ := layers base
  obtain ⟨loops, frames, shows⟩ := running e (e.renderer []) start job rfl reached
  obtain rfl : loops = [inner.bindings] := (List.append_cancel_right frames).symm
  refine ⟨upper, lower, reached, (names "title").trans rfl, (paths _).trans rfl,
    (names "x").trans rfl, ((laid lower (.ofTable e.globals)).1 "title").trans rfl,
    (shows "title").trans rfl, (shows "item").trans rfl, (shows "charset").trans rfl⟩

end Engine

end Stencil
