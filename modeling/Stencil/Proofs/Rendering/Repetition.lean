import Stencil.Proofs.Rendering.Loops

/-!
# Loops with a condition

Nothing in a round changes what the condition depends on: the bindings of the round are gone when the next
one begins. So a condition that holds once holds in every round, and the loop ends in an error, that of the
first round or, after as many rounds as are allowed, that of the limit.

1. `Loop.Repeats`, `Loop.repeats_repeatWhile`: the rounds of a loop, counted upward.
2. `Loop.Repeats.unique`: a loop comes to one number of rounds and to one result.
3. `Renderer.while_rounds`: what the loop gives.
-/

namespace Stencil

namespace Loop

/-! ## Rounds -/

/-- A loop tests its condition and runs a round, again and again, but not more than `limit` rounds. With
`done` rounds behind it that wrote `out`, it goes on to a number of rounds in all and comes to a result. -/
inductive Repeats (overrun : RenderError) (limit : Nat) (condition : Except RenderError Bool)
    (round : Except Stop String) : Nat → String → Nat → Except Stop String → Prop
  | refused {done : Nat} {out : String} {cause : RenderError} (tested : condition = .error cause) :
      Repeats overrun limit condition round done out done (.error (.raised cause))
  | ended {done : Nat} {out : String} (tested : condition = .ok false) :
      Repeats overrun limit condition round done out done (.ok out)
  | overrun {done : Nat} {out : String} (tested : condition = .ok true) (full : done = limit) :
      Repeats overrun limit condition round done out done (.error (.raised overrun))
  | stopped {done : Nat} {out : String} {stop : Stop} (tested : condition = .ok true)
      (room : done < limit) (run : round = .error stop) :
      Repeats overrun limit condition round done out (done + 1) (.error stop)
  | again {done total : Nat} {out text : String} {result : Except Stop String}
      (tested : condition = .ok true) (room : done < limit) (run : round = .ok text)
      (later : Repeats overrun limit condition round (done + 1) (out ++ text) total result) :
      Repeats overrun limit condition round done out total result

variable {overrun : RenderError} {limit : Nat} {condition : Except RenderError Bool}
  {round : Except Stop String} {done total : Nat} {out text : String} {result : Except Stop String}

/-- `repeatWhile` makes these rounds. It counts those that are left, downward. -/
theorem repeats_repeatWhile (overrun : RenderError) (condition : Except RenderError Bool)
    (round : Except Stop String) {left : Nat} (all : done + left = limit) (out : String) :
    ∃ total, Repeats overrun limit condition round done out total
      (Renderer.repeatWhile overrun (fun _ => condition) (fun _ => round) left out) := by
  induction left generalizing done out with
  | zero =>
      match condition with
      | .error cause => exact ⟨done, .refused rfl⟩
      | .ok false => exact ⟨done, .ended rfl⟩
      | .ok true => exact ⟨done, .overrun rfl all⟩
  | succ left ih =>
      match condition with
      | .error cause => exact ⟨done, .refused rfl⟩
      | .ok false => exact ⟨done, .ended rfl⟩
      | .ok true =>
          have room : done < limit := by omega
          cases run : round with
          | error stop => exact ⟨done + 1, .stopped rfl room rfl⟩
          | ok text =>
              obtain ⟨total, later⟩ := ih (by omega : done + 1 + left = limit) (out ++ text)
              rw [run] at later
              exact ⟨total, .again rfl room rfl later⟩

theorem Repeats.unique {other : Nat} {another : Except Stop String}
    (h : Repeats overrun limit condition round done out total result)
    (h' : Repeats overrun limit condition round done out other another) :
    other = total ∧ another = result := by
  -- Condition, limit and round decide what happens next, so both come about in the same way.
  induction h with
  | refused tested => cases h' <;> simp_all
  | ended tested => cases h' <;> simp_all
  | overrun tested full => cases h' <;> simp_all
  | stopped tested room run => cases h' <;> simp_all
  | again tested room run later ih =>
      cases h' with
      | again _ _ sameRun sameLater =>
          rw [run] at sameRun
          cases sameRun
          exact ih sameLater
      | _ => simp_all

theorem Repeats.full (h : Repeats overrun limit (.ok true) (.ok text) done out total result)
    (within : done ≤ limit) : total = limit ∧ result = .error (.raised overrun) := by
  induction h with
  | refused tested => cases tested
  | ended tested => cases tested
  | overrun _ full => exact ⟨full, rfl⟩
  | stopped _ _ run => cases run
  | again _ room _ _ ih => exact ih room

/-- If the condition holds, the loop fails in its first round, or at the limit. -/
theorem Repeats.fails (h : Repeats overrun limit (.ok true) round 0 out total result)
    (settled : round ≠ .error .unfinished) :
    ∃ cause, result = .error (.raised cause) ∧
      (∀ failure, round = .error (.raised failure) → 0 < limit → cause = failure ∧ total = 1) ∧
      ((∃ text, round = .ok text) ∨ limit = 0 → cause = overrun ∧ total = limit) := by
  cases h with
  | refused tested => cases tested
  | ended tested => cases tested
  | overrun _ full =>
      refine ⟨overrun, rfl, fun _ _ room => ?_, fun _ => ⟨rfl, full⟩⟩
      exact absurd full (Nat.ne_of_lt room)
  | @stopped _ _ stop _ room run =>
      subst run
      cases stop with
      | unfinished => contradiction
      | raised cause =>
          refine ⟨cause, rfl, ?_, ?_⟩
          · rintro failure ⟨⟩ -
            exact ⟨rfl, rfl⟩
          · rintro (⟨text, ⟨⟩⟩ | none)
            exact absurd none.symm (Nat.ne_of_lt room)
  | again _ room run later =>
      subst run
      obtain ⟨rfl, rfl⟩ := later.full room
      exact ⟨overrun, rfl, nofun, fun _ => ⟨rfl, rfl⟩⟩

end Loop

namespace Renderer

/-- A loop succeeds just if its condition does not hold, and then it gives nothing. If the condition holds,
the loop fails: like its first round if that fails, and otherwise as soon as there have been as many rounds
as the limit allows. -/
theorem while_rounds (r : Renderer) (site : Site) (scope : Scope) (condition : String)
    (body : List Stmt) {depth : Nat} (settled : r.runBody depth site body scope ≠ .error .unfinished) :
    let loop := r.statement (depth + 1) site scope (.whileDo condition body)
    let value := r.rules.evaluateText ⟨site.template, none⟩ scope condition
    let round := r.runBody depth site body scope
    let overrun := RenderError.loopLimit site.template r.loopLimit
    ∃ rounds,
      (∀ n result, Loop.Repeats overrun r.loopLimit (r.rules.holds site.template scope condition)
        round 0 "" n result ↔ n = rounds ∧ result = loop) ∧
      (∀ out, loop = .ok out ↔ out = "" ∧ ∃ v, value = .ok v ∧ v.truthy = false) ∧
      (∀ cause, value = .error cause → loop = .error (.raised cause)) ∧
      ∀ v, value = .ok v → v.truthy = true → ∃ cause, loop = .error (.raised cause) ∧
        (∀ failure, round = .error (.raised failure) → 0 < r.loopLimit →
          cause = failure ∧ rounds = 1) ∧
        ((∃ text, round = .ok text) ∨ r.loopLimit = 0 → cause = overrun ∧ rounds = r.loopLimit) := by
  intro loop value round overrun
  obtain ⟨rounds, repeats⟩ : ∃ rounds, Loop.Repeats overrun r.loopLimit
      (r.rules.holds site.template scope condition) round 0 "" rounds loop := by
    simp only [loop, statement]
    exact Loop.repeats_repeatWhile overrun _ round (Nat.zero_add r.loopLimit) ""
  have refused (cause : RenderError) (same : value = .error cause) : loop = .error (.raised cause) := by
    have tested := congrArg (Except.map Value.truthy) same
    exact ((Loop.Repeats.refused tested).unique repeats).2
  have ended (v : Value) (same : value = .ok v) (falsy : v.truthy = false) : loop = .ok "" := by
    have tested := congrArg (Except.map Value.truthy) same
    rw [Except.map, falsy] at tested
    exact ((Loop.Repeats.ended tested).unique repeats).2
  have fails (v : Value) (same : value = .ok v) (holds : v.truthy = true) :
      Loop.Repeats overrun r.loopLimit (.ok true) round 0 "" rounds loop := by
    have tested : r.rules.holds site.template scope condition = .ok v.truthy :=
      congrArg (Except.map Value.truthy) same
    rwa [tested, holds] at repeats
  refine ⟨rounds, fun n result => ⟨repeats.unique, ?_⟩, fun out => ⟨fun done => ?_, ?_⟩, refused,
    fun v same holds => (fails v same holds).fails settled⟩
  · rintro ⟨rfl, rfl⟩
    exact repeats
  · cases same : value with
    | error cause =>
        rw [refused cause same] at done
        cases done
    | ok v =>
        cases holds : v.truthy with
        | false =>
            rw [ended v same holds] at done
            cases done
            exact ⟨rfl, v, rfl, holds⟩
        | true =>
            obtain ⟨cause, failed, -⟩ := (fails v same holds).fails settled
            rw [failed] at done
            cases done
  · rintro ⟨rfl, v, same, falsy⟩
    exact ended v same falsy

/-- The body binds the variable of the condition for itself, and in its scope inserts a template. Behind it
the condition holds again, so there are as many rounds as are allowed. -/
theorem while_rounds_shadowed :
    let r : Renderer :=
      ⟨[("row", ⟨"row", [.echo "on" none 1], [], none, []⟩)], [], .standard, true, 2⟩
    let site : Site := ⟨["page"], "page", []⟩
    let scope := Scope.ofTable [("on", .bool true), ("items", .list [.int 0, .int 1])]
    let body := [Stmt.foreach "items as on" [.insert "row"]]
    let loop := r.statement 5 site scope (.whileDo "on" body)
    r.runBody 4 site body scope = .ok "01" ∧ loop = .error (.raised (.loopLimit "page" 2)) ∧
      ∀ n result, Loop.Repeats (.loopLimit "page" 2) 2 (.ok true) (.ok "01") 0 "" n result ↔
        n = 2 ∧ result = loop := by
  intro r site scope body loop
  have round : r.runBody 4 site body scope = .ok "01" := by decide +kernel
  have value : r.rules.evaluateText ⟨"page", none⟩ scope "on" = .ok (.bool true) := by rfl
  have settled : r.runBody 4 site body scope ≠ .error .unfinished := by
    rw [round]
    exact nofun
  obtain ⟨rounds, only, -, -, fails⟩ := while_rounds r site scope "on" body settled
  obtain ⟨cause, failed, -, full⟩ := fails (.bool true) value rfl
  obtain ⟨rfl, rfl⟩ := full (.inl ⟨"01", round⟩)
  rw [Rules.holds, value, round] at only
  exact ⟨round, failed, only⟩

end Renderer

end Stencil
