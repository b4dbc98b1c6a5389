import Stencil.Proofs.Expr.Bindings
import Stencil.Proofs.Rendering.Plan

/-!
# Loops over the items of a source

The two loops have headers of their own, but go through the same rounds: one for every item of a list
and for every value of a map. A round has a frame of its own, in which only the item and the counter are
bound.

1. `Loop.Rounds`, `Loop.rounds_scopes`: the scope of each round.
2. `Loop.Runs`, `Loop.runs_concat`: the rounds one after the other.
3. `Renderer.loops_agree`: what either loop gives.
-/

namespace Stencil

open Stencil.Expr

namespace Loop

/-! ## Rounds -/

/-- What a loop goes over: the items of a list, and the values of a map in its order. -/
def elements : Value → List Value
  | .list items => items
  | .map entries => entries.map Prod.snd
  | _ => []

theorem items_snd (value : Value) : (items value).map Prod.snd = elements value := by
  cases value with
  | list items =>
      simp only [Loop.items, elements, List.map_map]
      exact List.zipIdx_map_fst 0 items
  | map entries => simp [Loop.items, elements, Function.comp_def]
  | _ => rfl

/-- The scope of round `i` of `n`: the item and the counter are bound, and nothing else. -/
structure Round (scope : Scope) (name : String) (n i : Nat) (item : Value) (inner : Scope) :
    Prop where
  item : inner.get? name = some item
  counter : inner.get? "loop" = some (.map [("index", .ofNat (i + 1)), ("index0", .ofNat i),
    ("first", .bool (i = 0)), ("last", .bool (i + 1 = n)), ("length", .ofNat n)])
  others : ∀ other, other ≠ name → other ≠ "loop" → inner.get? other = scope.get? other

/-- The scopes of the rounds over a row of items, in its order. -/
structure Rounds (scope : Scope) (name : String) (row : List Value) (inner : List Scope) : Prop where
  length : inner.length = row.length
  round : ∀ i item s, row[i]? = some item → inner[i]? = some s → Round scope name row.length i item s

/-- The rounds of a loop with one variable. -/
def roundsOf (name : String) (row : List Value) : List (Table Value) :=
  row.map fun item => [(name, item)]

theorem roundsOf_elements (name : String) (value : Value) :
    (items value).map (fun entry => [(name, entry.2)]) = roundsOf name (elements value) := by
  rw [roundsOf, ← items_snd, List.map_map]
  rfl

theorem round_bind {scope : Scope} {name : String} (free : name ≠ "loop") (n i : Nat) (item : Value) :
    Round scope name n i item ((scope.child.bind name item).bind "loop" (counter i n)) where
  item := by rw [Scope.get?_bind, if_neg free.symm, Scope.get?_bind, if_pos rfl]
  counter := by
    rw [Scope.get?_bind, if_pos rfl, counter, beq_eq_decide, beq_eq_decide]
  others other notItem notLoop := by
    rw [Scope.get?_bind, if_neg (Ne.symm notLoop), Scope.get?_bind, if_neg (Ne.symm notItem),
      Scope.get?_child]

theorem rounds_scopes (scope : Scope) {name : String} (free : name ≠ "loop") (row : List Value) :
    Rounds scope name row (scopes scope (roundsOf name row)) where
  length := by rw [scopes_length, roundsOf, List.length_map]
  round i item s here inside := by
    simp only [scopes, roundsOf, List.getElem?_map, List.getElem?_zipIdx, here, Option.map_some,
      Option.some.injEq, List.length_map, Nat.zero_add] at inside
    rw [← inside]
    exact round_bind free row.length i item

/-! ## Runs -/

/-- What runs one after the other come to: their texts in a row, or what stops the first of them that
gives none. -/
inductive Runs (run : Scope → Except Stop String) (inner : List Scope) : Except Stop String → Prop
  | finished {texts : List String} (all : List.Forall₂ (fun s text => run s = .ok text) inner texts) :
      Runs run inner (.ok (String.join texts))
  | stopped {before later : List Scope} {s : Scope} {stop : Stop} (place : inner = before ++ s :: later)
      (early : ∀ t ∈ before, ∃ text, run t = .ok text) (stops : run s = .error stop) :
      Runs run inner (.error stop)

theorem runs_concat (run : Scope → Except Stop String) (inner : List Scope) :
    Runs run inner (Renderer.concat run inner) := by
  induction inner with
  | nil => exact .finished .nil
  | cons s rest ih =>
      rw [Renderer.concat_cons]
      cases first : run s with
      | error stop =>
          have place : s :: rest = [] ++ s :: rest := rfl
          exact .stopped place (List.forall_mem_nil _) first
      | ok text =>
          cases later : Renderer.concat run rest with
          | ok out =>
              rw [later] at ih
              cases ih with
              | finished all =>
                  have joined := Runs.finished (List.Forall₂.cons first all)
                  rwa [String.join_cons] at joined
          | error stop =>
              rw [later] at ih
              cases ih with
              | @stopped before after _ _ place early stops =>
                  have place' : s :: rest = s :: before ++ _ :: after := congrArg (s :: ·) place
                  exact .stopped place' (List.forall_mem_cons.2 ⟨⟨text, first⟩, early⟩) stops

/-! ## Headers -/

section

variable {rules : Rules} {template : String} {scope : Scope} {text name : String} {x : Expr}

theorem foreachRounds_of_parse (header : ForeachHeader.parse text = .ok ⟨x, none, name⟩) :
    foreachRounds rules template scope text =
      (rules.evaluate ⟨template, none⟩ scope x).map fun value => roundsOf name (elements value) := by
  rw [foreachRounds, header]
  simp only [← roundsOf_elements]
  show (rules.evaluate ⟨template, none⟩ scope x >>= fun value => pure ((items value).map _)) = _
  cases rules.evaluate ⟨template, none⟩ scope x <;> rfl

theorem forRounds_of_parse (header : ForHeader.parse text = .ok ⟨name, .items x⟩) (limit : Nat) :
    forRounds rules limit template scope text =
      (rules.evaluate ⟨template, none⟩ scope x).map fun value => roundsOf name (elements value) := by
  rw [forRounds, header]
  simp only [← roundsOf_elements]
  show (rules.evaluate ⟨template, none⟩ scope x >>= fun value => pure ((items value).map _)) = _
  cases rules.evaluate ⟨template, none⟩ scope x <;> rfl

end

/-- Both headers spell the same variable and source. -/
theorem parse_headers {v e name : String} {x : Expr} (named : variableName v.toList = .ok name)
    (read : Expr.parse e = .ok x) (without : ¬['.', '.'] <:+: e.toList) :
    ForHeader.parse (v ++ " in " ++ e) = .ok ⟨name, .items x⟩ ∧
      ForeachHeader.parse (e ++ " as " ++ v) = .ok ⟨x, none, name⟩ := by
  constructor
  · rw [ForHeader.parse_named named (dropBlanksEnd_ne_nil_of_parseAll read)]
    exact ForHeader.behindIn_of_read read without
  · have plain : Wrapped (e.toList ++ [' ', 'a', 's', ' '] ++ v.toList) (e ++ " as " ++ v).toList := by
      rw [String.toList_append, String.toList_append]
      exact .self _
    rw [ForeachHeader.parse_of_bindable read (bindable_of_variableName named) plain]
    exact ForeachHeader.bound_of_variableName x named

end Loop

namespace Renderer

/-- A round of a loop: its body in the scope of the round. -/
def runBody (r : Renderer) (depth : Nat) (site : Site) (body : List Stmt) (inner : Scope) :
    Except Stop String :=
  concat (fun s => r.statement depth site inner s) body

/-- A loop over a source and the other one over the same source give the same at every depth: one round
for each item, whose scope has the item and the counter in a frame of its own. What follows on the loop is
rendered in the scope that it began in. -/
theorem loops_agree (r : Renderer) (site : Site) (scope : Scope) {v e name : String} {x : Expr}
    (named : variableName v.toList = .ok name) (free : name ≠ "loop") (read : Expr.parse e = .ok x)
    (without : ¬['.', '.'] <:+: e.toList) (depth : Nat) (body : List Stmt) :
    let forIn := Stmt.forIn (v ++ " in " ++ e) body
    let foreach := Stmt.foreach (e ++ " as " ++ v) body
    r.statement depth site scope forIn = r.statement depth site scope foreach ∧
      (∀ cause, r.rules.evaluate ⟨site.template, none⟩ scope x = .error cause →
        r.statement (depth + 1) site scope forIn = .error (.raised cause)) ∧
      (∀ value, r.rules.evaluate ⟨site.template, none⟩ scope x = .ok value →
        ∃ inner, Loop.Rounds scope name (Loop.elements value) inner ∧
          Loop.Runs (r.runBody depth site body) inner (r.statement (depth + 1) site scope forIn)) ∧
      ∀ after, concat (r.statement depth site scope) (forIn :: after) =
        (r.statement depth site scope forIn).bind fun out =>
          (concat (r.statement depth site scope) after).map (out ++ ·) := by
  intro forIn foreach
  obtain ⟨forHeader, foreachHeader⟩ := Loop.parse_headers named read without
  have rounds (limit : Nat) : Loop.forRounds r.rules limit site.template scope (v ++ " in " ++ e) =
      (r.rules.evaluate ⟨site.template, none⟩ scope x).map
        fun value => Loop.roundsOf name (Loop.elements value) := Loop.forRounds_of_parse forHeader limit
  refine ⟨?_, fun cause fails => ?_, fun value evaluated => ?_, fun after => concat_cons _ _ after⟩
  · cases depth with
    | zero => rfl
    | succ depth =>
        simp only [forIn, foreach, statement, rounds, Loop.foreachRounds_of_parse foreachHeader]
  · simp only [forIn, statement, rounds, fails]
    rfl
  · refine ⟨_, Loop.rounds_scopes scope free (Loop.elements value), ?_⟩
    simp only [forIn, statement, rounds, evaluated]
    exact Loop.runs_concat _ _

/-- A loop over the values of a map, inside of which a loop binds the same names, or goes over nothing.
Behind it they have the values that they had before. -/
theorem loops_agree_nested :
    let r : Renderer := ⟨[], [("default", Filter.orDefault)], .standard, true, 10⟩
    let site : Site := ⟨["page"], "page", []⟩
    let rows := [Value.list [.int 1, .int 2], .int 5, .list [.int 3]]
    let scope := Scope.ofTable [("rows", .map (["a", "b", "c"].zip rows)), ("row", .string "outer"),
      ("loop", .string "none")]
    let e := "rows | default(' as . ')"
    let x := Expr.operand false (.path [.key "rows"]) [⟨"default", [.literal (.string " as . ")]⟩]
    let body := [Stmt.foreach "row as row" [.echo "row" none 1, .echo "loop.index" none 1],
      .echo "loop.index" none 1, .text ";"]
    let forIn := Stmt.forIn ("$row" ++ " in " ++ e) body
    let foreach := Stmt.foreach (e ++ " as " ++ "$row") body
    let out := "11221;2;313;"
    variableName "$row".toList = .ok "row" ∧ Expr.parse e = .ok x ∧ ¬['.', '.'] <:+: e.toList ∧
      r.statement 3 site scope forIn = .ok out ∧ r.statement 3 site scope foreach = .ok out ∧
      (∃ inner, Loop.Rounds scope "row" rows inner ∧ Loop.Runs (r.runBody 2 site body) inner (.ok out)) ∧
      concat (r.statement 3 site scope) [forIn, .echo "row" none 2, .echo "loop" none 2] =
        .ok "11221;2;313;outernone" := by
  intro r site rows scope e x body forIn foreach out
  have named : variableName "$row".toList = .ok "row" := by decide +kernel
  have read : Expr.parse e = .ok x := by
    simp only [e, x]
    cbv
  have noPoints : Text.cutAt ['.', '.'] e.toList = none := by decide +kernel
  have without := (Text.cutAt_eq_none_iff (List.cons_ne_nil _ _)).1 noPoints
  have evaluated : r.rules.evaluate ⟨site.template, none⟩ scope x =
      .ok (.map (["a", "b", "c"].zip rows)) := rfl
  have rendered : r.statement 3 site scope forIn = .ok out := by decide +kernel
  have later : concat (r.statement 3 site scope) [.echo "row" none 2, .echo "loop" none 2] =
      .ok "outernone" := by decide +kernel
  have free : "row" ≠ "loop" := by decide
  obtain ⟨same, -, -, follows⟩ := loops_agree r site scope named free read without 3 body
  obtain ⟨-, -, goes, -⟩ := loops_agree r site scope named free read without 2 body
  obtain ⟨inner, rounds, runs⟩ := goes _ evaluated
  refine ⟨named, read, without, rendered, same ▸ rendered, ⟨inner, rounds, rendered ▸ runs⟩, ?_⟩
  rw [follows, rendered, later]
  rfl

end Renderer

end Stencil
