import Stencil.Engine
import Stencil.Proofs.Cache.Kept

/-!
# Work under an invariant

What a piece of work does is told by an invariant of the session and the disk that it keeps, and by
what its result is like. A result may also be the failure of the cache, where that can fail.

1. `Work.Meets`: the triple.
2. `Work.Meets.bind`, `Work.Meets.bind_eq`: one piece of work after another.
3. `Work.Finishes`: work that needs no bound on its steps.
-/

namespace Stencil

/-- Whether a result is the failure of the cache. -/
def IsCacheFailure {α : Type} (result : Except Stop α) : Prop :=
  ∃ cause, result = .error (.raised (.cache cause))

namespace Work

variable {α β : Type}

/-- A piece of work on a disk: its result, and the session and the disk after it. -/
def runOn (work : Work (StateM Disk) α) (session : Session) (d : Disk) :
    (Except Stop α × Session) × Disk :=
  (work.perform session).run d

theorem runOn_ofLoader {question : StateM Disk (Except LoadError α)} {answer : Except LoadError α}
    (h : question = pure answer) (session : Session) (d : Disk) :
    runOn (ofLoader question) session d =
      ((answer.mapError fun e => .raised (.load e), session), d) := by
  subst h
  rfl

theorem runOn_ofCache {operation : Cache → StateM Disk (Except FileError α × Cache)}
    {session : Session} {d later : Disk} {result : Except FileError α} {cache : Cache}
    (h : (operation session.cache).run d = ((result, cache), later)) :
    runOn (ofCache operation) session d =
      ((result.mapError fun e => .raised (.cache e), { session with cache := cache }), later) := by
  show (operation session.cache >>= _).run d = _
  rw [Disk.run_bind h]
  rfl

section Compilation

variable {compile : List Visitor → Except SyntaxError (Visited Artifact)} {session : Session}

theorem runOn_ofCompilation {made : Visited Artifact} (h : compile session.visitors = .ok made)
    (d : Disk) :
    runOn (ofCompilation compile) session d =
      ((.ok made.value, ⟨session.cache, session.notes ++ made.notes, made.visitors⟩), d) := by
  simp only [runOn, perform, ofCompilation, ExceptT.run_mk, h]
  rfl

theorem runOn_ofCompilation_error {cause : SyntaxError}
    (h : compile session.visitors = .error cause) (d : Disk) :
    runOn (ofCompilation compile) session d =
      ((.error (.raised (.malformed cause)), session), d) := by
  simp only [runOn, perform, ofCompilation, ExceptT.run_mk, h]
  rfl

end Compilation

theorem perform_bind (work : Work (StateM Disk) α) (next : α → Work (StateM Disk) β)
    (session : Session) :
    (work >>= next).perform session =
      work.perform session >>= fun done =>
        match done.1 with
        | .ok a => (next a).perform done.2
        | .error stop => pure (.error stop, done.2) := by
  show StateT.run (ExceptT.run (work >>= next)) session = _
  rw [ExceptT.run_bind, StateT.run_bind]
  refine congrArg (work.perform session >>= ·) (funext fun done => ?_)
  obtain ⟨result | result, after⟩ := done <;> rfl

theorem runOn_bind {work : Work (StateM Disk) α} {next : α → Work (StateM Disk) β}
    {session after : Session} {d later : Disk} {a : α}
    (h : runOn work session d = ((.ok a, after), later)) :
    runOn (work >>= next) session d = runOn (next a) after later := by
  rw [runOn, perform_bind, Disk.run_bind h]
  rfl

theorem runOn_bind_error {work : Work (StateM Disk) α} {next : α → Work (StateM Disk) β}
    {session after : Session} {d later : Disk} {stop : Stop}
    (h : runOn work session d = ((.error stop, after), later)) :
    runOn (work >>= next) session d = ((.error stop, after), later) := by
  rw [runOn, perform_bind, Disk.run_bind h]
  rfl

/-- Work that always comes to an end: it never stops for want of steps. -/
def Finishes (work : Work (StateM Disk) α) : Prop :=
  ∀ session d, (runOn work session d).1.1 ≠ .error .unfinished

theorem finishes_pure (a : α) : Finishes (pure a) := fun _ _ => nofun

theorem finishes_ofLoader (question : StateM Disk (Except LoadError α)) :
    Finishes (ofLoader question) := by
  intro session d
  show (question.run d).1.mapError _ ≠ _
  cases (question.run d).1 <;> exact nofun

theorem finishes_ofCache (operation : Cache → StateM Disk (Except FileError α × Cache)) :
    Finishes (ofCache operation) := by
  intro session d
  show ((operation session.cache).run d).1.1.mapError _ ≠ _
  cases ((operation session.cache).run d).1.1 <;> exact nofun

theorem finishes_ofCompilation (compile : List Visitor → Except SyntaxError (Visited Artifact)) :
    Finishes (ofCompilation compile : Work (StateM Disk) Artifact) := by
  intro session d
  cases outcome : compile session.visitors with
  | error cause =>
      rw [runOn_ofCompilation_error outcome]
      exact nofun
  | ok made =>
      rw [runOn_ofCompilation outcome]
      exact nofun

theorem Finishes.bind {work : Work (StateM Disk) α} {next : α → Work (StateM Disk) β}
    (first : Finishes work) (second : ∀ a, Finishes (next a)) : Finishes (work >>= next) := by
  intro session d
  have ended := first session d
  generalize outcome : runOn work session d = done at ended
  obtain ⟨⟨result, after⟩, later⟩ := done
  cases result with
  | error stop =>
      rw [runOn_bind_error outcome]
      exact fun same => ended (by cases same; rfl)
  | ok a =>
      rw [runOn_bind outcome]
      exact second a after later
/-- Work that keeps an invariant and whose result is as expected, or else the failure of a cache
that can fail. -/
def Meets (invariant : Session → Disk → Prop) (mayFail : Prop) (work : Work (StateM Disk) α)
    (expected : Except Stop α → Prop) : Prop :=
  ∀ session d, invariant session d →
    invariant (runOn work session d).1.2 (runOn work session d).2 ∧
      (expected (runOn work session d).1.1 ∨ mayFail ∧ IsCacheFailure (runOn work session d).1.1)

variable {invariant : Session → Disk → Prop} {mayFail : Prop}

theorem meets_pure {a : α} {expected : Except Stop α → Prop} (h : expected (.ok a)) :
    Meets invariant mayFail (pure a) expected :=
  fun _ _ holds => ⟨holds, Or.inl h⟩

theorem meets_ofResult (result : Except Stop α) :
    Meets invariant mayFail (ofResult result) (· = result) :=
  fun _ _ holds => ⟨holds, Or.inl rfl⟩

theorem meets_ofLoader {question : StateM Disk (Except LoadError α)} {answer : Except LoadError α}
    (h : question = pure answer) :
    Meets invariant mayFail (ofLoader question)
      (· = answer.mapError fun e => .raised (.load e)) := by
  intro session d holds
  rw [runOn_ofLoader h]
  exact ⟨holds, Or.inl rfl⟩

/-- Work after work with an expected result. -/
theorem Meets.bind {work : Work (StateM Disk) α} {next : α → Work (StateM Disk) β}
    {expected : Except Stop α → Prop} {final : Except Stop β → Prop}
    (first : Meets invariant mayFail work expected)
    (stops : ∀ stop, expected (.error stop) → final (.error stop))
    (goesOn : ∀ a, expected (.ok a) → Meets invariant mayFail (next a) final) :
    Meets invariant mayFail (work >>= next) final := by
  intro session d holds
  obtain ⟨kept, expectedOrFailed⟩ := first session d holds
  generalize outcome : runOn work session d = done at kept expectedOrFailed
  obtain ⟨⟨result, after⟩, later⟩ := done
  cases result with
  | error stop =>
      rw [runOn_bind_error outcome]
      refine ⟨kept, ?_⟩
      rcases expectedOrFailed with asExpected | ⟨can, cause, failed⟩
      · exact Or.inl (stops stop asExpected)
      · cases failed
        exact Or.inr ⟨can, cause, rfl⟩
  | ok a =>
      rw [runOn_bind outcome]
      rcases expectedOrFailed with asExpected | ⟨-, cause, failed⟩
      · exact goesOn a asExpected after later kept
      · cases failed

theorem Meets.bind_eq {work : Work (StateM Disk) α} {next : α → Work (StateM Disk) β}
    {result : Except Stop α} {rest : α → Except Stop β}
    (first : Meets invariant mayFail work (· = result))
    (second : ∀ a, Meets invariant mayFail (next a) (· = rest a)) :
    Meets invariant mayFail (work >>= next) (· = result >>= rest) := by
  refine first.bind ?_ ?_
  · intro stop stopped
    rw [← stopped]
    rfl
  · intro a made
    rw [← made]
    exact second a

end Work

end Stencil
