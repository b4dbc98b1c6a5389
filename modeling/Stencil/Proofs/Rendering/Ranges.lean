import Stencil.Proofs.Decimal.Integers
import Stencil.Proofs.Rendering.Loops

/-!
# Loops over a range

A loop over a range goes through every integer from the first bound to the last, upward or downward, if
these are no more than the limit allows. The bounds are numbers of any kind, and therefore taken as
doubles. An integer that is no double becomes one beside it, so that the range is not the one spelled.

1. `Loop.Walks`, `Loop.walks_walk`: the integers of a range.
2. `Loop.asBound`, `Loop.asBound_eq_iff`: which integers are bounds as they are.
3. `Renderer.range_runs`: what the loop gives.
-/

namespace Stencil

open Stencil.Expr
open Stencil.Decimal

namespace Loop

/-! ## Integers in a row -/

/-- The integers from `a` to `b`, each of them next to the one before. -/
structure Walks (a b : Int64) (row : List Int64) : Prop where
  length : row.length = (b.toInt - a.toInt).natAbs + 1
  first : row.head? = some a
  step : row.IsChain fun m n => n.toInt = m.toInt + (b.toInt - a.toInt).sign
  last : row.getLast? = some b

/-- The integer at a place of the way from `a` to `b`. -/
def walkAt (a b : Int64) (i : Nat) : Int64 :=
  Int64.ofInt (if a.toInt ≤ b.toInt then a.toInt + i else a.toInt - i)

def walk (a b : Int64) : List Int64 :=
  (List.range ((b.toInt - a.toInt).natAbs + 1)).map (walkAt a b)

theorem integers_eq_walk (a b : Int64) : integers a.toInt b.toInt = (walk a b).map .int := by
  simp only [integers, walk, List.map_map]
  rfl

theorem toInt_bounds (n : Int64) : -2 ^ 63 ≤ n.toInt ∧ n.toInt < 2 ^ 63 :=
  ⟨n.minValue_le_toInt, n.toInt_lt⟩

/-- No integer of the way is outside of 64 bits. -/
theorem toInt_walkAt {a b : Int64} {i : Nat} (within : i ≤ (b.toInt - a.toInt).natAbs) :
    (walkAt a b i).toInt = if a.toInt ≤ b.toInt then a.toInt + i else a.toInt - i := by
  have boundsA := toInt_bounds a
  have boundsB := toInt_bounds b
  rw [walkAt]
  split
  · exact Int64.toInt_ofInt_of_le (by omega) (by omega)
  · exact Int64.toInt_ofInt_of_le (by omega) (by omega)

theorem walks_walk (a b : Int64) : Walks a b (walk a b) where
  length := by rw [walk, List.length_map, List.length_range]
  first := by
    have start : walkAt a b 0 = a := by
      refine Int64.toInt_inj.1 ?_
      rw [toInt_walkAt (Nat.zero_le _)]
      split <;> omega
    rw [walk, List.range_succ_eq_map, List.map_cons, List.head?_cons, start]
  step := by
    refine List.isChain_iff_getElem.2 fun i further => ?_
    rw [walk, List.length_map, List.length_range] at further
    simp only [walk, List.getElem_map, List.getElem_range]
    rw [toInt_walkAt (by omega), toInt_walkAt (by omega)]
    split
    · rw [Int.sign_eq_one_of_pos (by omega)]
      omega
    · rw [Int.sign_eq_neg_one_of_neg (by omega)]
      omega
  last := by
    have finish : walkAt a b (b.toInt - a.toInt).natAbs = b := by
      refine Int64.toInt_inj.1 ?_
      rw [toInt_walkAt (Nat.le_refl _)]
      split <;> omega
    rw [walk, List.range_succ, List.map_append, List.map_singleton, List.getLast?_concat, finish]

/-! ## Bounds -/

/-- The bound that an integer is taken for. -/
def asBound (n : Int64) : Int64 := Int64.ofInt (toInt64 (Float.ofInt n.toInt))

theorem toInt_asBound (n : Int64) : (asBound n).toInt = toInt64 (Float.ofInt n.toInt) := by
  obtain ⟨low, high⟩ : -0x8000000000000000 ≤ toInt64 (Float.ofInt n.toInt) ∧
      toInt64 (Float.ofInt n.toInt) ≤ 0x7FFFFFFFFFFFFFFF := by
    rw [toInt64, saturate]
    split
    · exact clamp_bounds (by decide)
    · split <;> decide
    · decide
  exact Int64.toInt_ofInt_of_le (by omega) (by omega)

theorem asBound_eq_iff (n : Int64) : asBound n = n ↔ IsDouble n.toInt ∨ n.toInt = 2 ^ 63 - 1 := by
  rw [← Int64.toInt_inj, toInt_asBound]
  exact toInt64_ofInt_iff n

/-! ## Rounds -/

/-- A loop over the integers from `a` to `b`: each of them has its round, or none has one if they are more
than the limit. Their number is kept in a word of 64 bits. -/
structure Goes (limit : Nat) (template : String) (scope : Scope) (name : String) (a b : Int64)
    (run : Scope → Except Stop String) (result : Except Stop String) : Prop where
  within : (b.toInt - a.toInt).natAbs + 1 ≤ limit → ∃ row inner, Walks a b row ∧
    Rounds scope name (row.map .int) inner ∧ Runs run inner result
  beyond : limit < min ((b.toInt - a.toInt).natAbs + 1) 0xFFFFFFFFFFFFFFFF →
    result = .error (.raised (.loopLimit template limit))

theorem forRounds_of_bounds {rules : Rules} {template text name : String} {scope : Scope} {a b : Int64}
    (header : ForHeader.parse text = .ok ⟨name, .range (.literal (.int a)) (.literal (.int b))⟩)
    (limit : Nat) :
    forRounds rules limit template scope text =
      if limit < count (asBound a).toInt (asBound b).toInt then .error (.loopLimit template limit)
      else .ok (roundsOf name ((walk (asBound a) (asBound b)).map .int)) := by
  rw [← integers_eq_walk, toInt_asBound, toInt_asBound, forRounds, header]
  rfl

end Loop

namespace Renderer

/-- A loop over a range of integers goes from one to the other if both of them are doubles or the
greatest integer of all. In general it goes between the doubles that are taken for them. Nothing is
said of the range of all integers under the limit `2 ^ 64 - 1`: it has one integer more than that,
but the count saturates there, so the loop is not refused. -/
theorem range_runs (r : Renderer) (site : Site) (scope : Scope) {v first last name : String}
    {a b : Int64} (named : variableName v.toList = .ok name) (free : name ≠ "loop")
    (readFirst : parseOperand first.toList = .ok (.literal (.int a)))
    (readLast : parseOperand last.toList = .ok (.literal (.int b))) (depth : Nat) (body : List Stmt) :
    Loop.Goes r.loopLimit site.template scope name (Loop.asBound a) (Loop.asBound b)
        (r.runBody depth site body)
        (r.statement (depth + 1) site scope (.forIn (v ++ " in " ++ (first ++ ".." ++ last)) body)) ∧
      ∀ n ∈ [a, b], Loop.asBound n = n ↔ IsDouble n.toInt ∨ n.toInt = 2 ^ 63 - 1 := by
  refine ⟨?_, fun n _ => Loop.asBound_eq_iff n⟩
  have header := ForHeader.parse_of_bounds named readFirst (point_not_mem_of_int readFirst) readLast
  constructor
  · intro within
    have fits : ¬r.loopLimit < Loop.count (Loop.asBound a).toInt (Loop.asBound b).toInt := by
      rw [Loop.count]
      omega
    refine ⟨_, _, Loop.walks_walk _ _, Loop.rounds_scopes scope free _, ?_⟩
    simp only [statement, Loop.forRounds_of_bounds header, if_neg fits]
    exact Loop.runs_concat _ _
  · intro beyond
    have overrun : r.loopLimit < Loop.count (Loop.asBound a).toInt (Loop.asBound b).toInt := beyond
    simp only [statement, Loop.forRounds_of_bounds header, if_pos overrun]
    rfl

/-- Downward, with blanks around the bounds, over an integer that is no double, and up to the limit. -/
theorem range_runs_down :
    let r : Renderer := ⟨[], [], .standard, true, 3⟩
    let site : Site := ⟨["page"], "page", []⟩
    let first := " 9007199254740994\t"
    let last := "9007199254740992 "
    let body := [Stmt.echo "n" none 1, .text ";"]
    let result := r.statement 2 site .empty (.forIn ("$n" ++ " in " ++ (first ++ ".." ++ last)) body)
    variableName "$n".toList = .ok "n" ∧
      parseOperand first.toList = .ok (.literal (.int 9007199254740994)) ∧
      parseOperand last.toList = .ok (.literal (.int 9007199254740992)) ∧
      Loop.Goes 3 "page" .empty "n" 9007199254740994 9007199254740992 (r.runBody 1 site body) result ∧
      result = .ok "9007199254740994;9007199254740993;9007199254740992;" := by
  intro r site first last body result
  have named : variableName "$n".toList = .ok "n" := by decide +kernel
  have readFirst : parseOperand first.toList = .ok (.literal (.int 9007199254740994)) := by
    simp only [first]
    cbv
  have readLast : parseOperand last.toList = .ok (.literal (.int 9007199254740992)) := by
    simp only [last]
    cbv
  obtain ⟨goes, exactly⟩ := range_runs r site .empty named (by decide) readFirst readLast 1 body
  rw [(exactly _ (by simp)).2 (.inl ⟨4503599627370497, 1, by decide, rfl⟩),
    (exactly _ (by simp)).2 (.inl (isDouble_of_natAbs_le (by decide)))] at goes
  exact ⟨named, readFirst, readLast, goes, by decide +kernel⟩

theorem echo_of_get? (r : Renderer) {template text name : String} {scope : Scope} {value : Value}
    (read : Expr.parse text = .ok (.operand false (.path [.key name]) []))
    (found : scope.get? name = some value) (line : Nat) :
    r.echo template scope text none line = .ok value.render := by
  have reached : scope.at? [.key name] = some value := by
    rw [Scope.at?, Scope.rootName, found]
    rfl
  have evaluated : r.rules.evaluateText ⟨template, some line⟩ scope text = .ok value := by
    rw [Rules.evaluateText, read]
    show r.rules.evaluate _ _ _ = _
    rw [Rules.evaluate_operand_eq, Rules.operand, reached]
  rw [echo, evaluated]
  rfl

/-- The least integer that is no double is taken for the one before it. -/
theorem not_range_exact :
    ¬∀ (r : Renderer) (site : Site) (scope : Scope) (v first last name : String) (a b : Int64)
        (depth : Nat) (body : List Stmt),
      variableName v.toList = .ok name → name ≠ "loop" →
        parseOperand first.toList = .ok (.literal (.int a)) →
        parseOperand last.toList = .ok (.literal (.int b)) →
        Loop.Goes r.loopLimit site.template scope name a b (r.runBody depth site body)
          (r.statement (depth + 1) site scope
            (.forIn (v ++ " in " ++ (first ++ ".." ++ last)) body)) := by
  intro every
  let r : Renderer := ⟨[], [], .standard, true, 1⟩
  let site : Site := ⟨["page"], "page", []⟩
  let body := [Stmt.echo "n" none 1]
  let bound := "9007199254740993"
  have named : variableName "n".toList = .ok "n" := by decide +kernel
  have read : parseOperand bound.toList = .ok (.literal (.int 9007199254740993)) := by
    simp only [bound]
    cbv
  have rendered : r.statement 2 site .empty (.forIn ("n" ++ " in " ++ (bound ++ ".." ++ bound)) body) =
      .ok "9007199254740992" := by decide +kernel
  obtain ⟨row, inner, walks, rounds, runs⟩ :=
    (every r site .empty "n" bound bound "n" _ _ 1 body named (by decide) read read).within (by decide)
  rw [rendered] at runs
  -- There is one round, in which the integer that was spelled is bound.
  obtain ⟨n, rfl⟩ := List.length_eq_one_iff.1 walks.length
  cases walks.first
  obtain ⟨s, rfl⟩ := List.length_eq_one_iff.1 rounds.length
  have found := (rounds.round 0 _ s rfl rfl).item
  have reads : Expr.parse "n" = .ok (.operand false (.path [.key "n"]) []) := by cbv
  have shown : r.runBody 1 site body s = .ok "9007199254740993" := by
    rw [runBody, concat_cons]
    simp only [statement, echo_of_get? r reads found]
    rfl
  generalize spelled : (Except.ok "9007199254740992" : Except Stop String) = result at runs
  cases runs with
  | finished all =>
      obtain ⟨text, rest, own, none, rfl⟩ := List.forall₂_cons_left_iff.1 all
      cases none
      rw [shown] at own
      cases own
      exact absurd spelled (by decide)
  | stopped => cases spelled

end Renderer

end Stencil
