import Stencil.Proofs.Cache.Healthy
import Stencil.Proofs.Engine.Coherence
import Stencil.Proofs.Rendering.Failure

/-!
# A cache directory in health

An engine uses its cache directory by looking up the keys of its templates and by writing under
them. Where the directory is in health for these keys, no request fails for it, and it is in health
afterwards. So a row of requests meets no failure of the cache as long as nobody else disturbs the
directory, however much time passes and however the templates change.

1. `Work.Spares`: work that meets no failure of the cache.
2. `Engine.answer_spares`: every request.
3. `Engine.served_without_failure`: a row of requests.
-/

namespace Stencil

/-- Whether the cache of a session is that of the engine and its directory is in health. -/
structure Engine.Healthy (e : Engine) (keys : String → Prop) (session : Session) (d : Disk) :
    Prop where
  directory : session.cache.directory = e.newSession.cache.directory
  cache : session.cache.Healthy d keys

namespace Work

/-- Whether work leaves a cache directory in health and does not fail for it. -/
def Spares {α : Type} (e : Engine) (keys : String → Prop) (work : Work (StateM Disk) α) : Prop :=
  work.Meets (e.Healthy keys) False fun result => ¬IsCacheFailure result

variable {α β : Type} {e : Engine} {keys : String → Prop}

theorem spares_pure (a : α) : Spares e keys (pure a) := meets_pure nofun

theorem spares_ofResult {result : Except Stop α} (other : ¬IsCacheFailure result) :
    Spares e keys (ofResult result) :=
  fun _ _ healthy => ⟨healthy, Or.inl other⟩

theorem spares_ofLoader {question : StateM Disk (Except LoadError α)} {answer : Except LoadError α}
    (h : question = pure answer) : Spares e keys (ofLoader question) := by
  intro session d healthy
  rw [runOn_ofLoader h]
  refine ⟨healthy, Or.inl ?_⟩
  cases answer <;> exact nofun

theorem spares_ofCompilation (compile : List Visitor → Except SyntaxError (Visited Artifact)) :
    Spares e keys (ofCompilation compile) := by
  intro session d healthy
  cases outcome : compile session.visitors with
  | error cause =>
      rw [runOn_ofCompilation_error outcome]
      exact ⟨healthy, Or.inl nofun⟩
  | ok made =>
      rw [runOn_ofCompilation outcome]
      exact ⟨⟨healthy.directory, healthy.cache⟩, Or.inl nofun⟩

/-- An operation on the cache that succeeds and keeps its directory in health. -/
theorem spares_ofCache {operation : Cache → StateM Disk (Except FileError α × Cache)}
    (succeeds : ∀ cache d, cache.Healthy d keys → ∃ a after later,
      (operation cache).run d = ((.ok a, after), later) ∧ after.directory = cache.directory ∧
        after.Healthy later keys) :
    Spares e keys (ofCache operation) := by
  intro session d healthy
  obtain ⟨a, after, later, done, same, kept⟩ := succeeds session.cache d healthy.cache
  rw [runOn_ofCache done]
  exact ⟨⟨same.trans healthy.directory, kept⟩, Or.inl nofun⟩

theorem Spares.bind {work : Work (StateM Disk) α} {next : α → Work (StateM Disk) β}
    (first : Spares e keys work) (second : ∀ a, Spares e keys (next a)) :
    Spares e keys (work >>= next) := by
  refine Meets.bind first (fun stop other => ?_) fun a _ => second a
  rintro ⟨cause, failed⟩
  cases failed
  exact other ⟨cause, rfl⟩

end Work

/-! ## Rendering -/

namespace Renderer

variable {r : Renderer} {depth : Nat} {scope : Scope} {name block : String}

/-- What is rendered has nothing to do with a cache. -/
theorem run_spares (t : Job) : ¬IsCacheFailure (r.run depth t) := by
  have step (t : Job) (_ : True) :
      (∀ raised, (r.plan t).failure = some raised → ∀ cause, raised ≠ .cache cause) ∧
        ∀ u ∈ (r.plan t).jobs, True := by
    refine ⟨?_, fun _ _ => trivial⟩
    rintro raised fails cause rfl
    cases t with
    | statement site scope s =>
        rcases planOf_failure fails with located | ⟨_, impossible⟩
        · cases located
        · cases impossible
    | template chain overrides scope name =>
        rcases plan_failure fails with ⟨-, impossible⟩ | ⟨-, impossible⟩ <;> cases impossible
  rintro ⟨cause, failed⟩
  exact cause_of_plan step trivial failed cause rfl

theorem render_spares : ¬IsCacheFailure (r.render depth scope name) :=
  run_spares (.template [] [] scope name)

theorem renderBlock_spares : ¬IsCacheFailure (r.renderBlock depth scope name block) := by
  rintro ⟨cause, failed⟩
  rcases renderBlock_cases r depth scope name block with
    ⟨other, above, same⟩ | ⟨blocks, -, same | ⟨found, -, same⟩⟩
  · rw [same] at failed
    cases failed
    rcases lineage_failure above with ⟨_, impossible⟩ | ⟨_, -, impossible⟩ <;> cases impossible
  · rw [same] at failed
    cases failed
  · rw [same] at failed
    obtain ⟨t, -, stopped⟩ := concat_raised failed
    exact run_spares t ⟨cause, stopped⟩

end Renderer

/-! ## Requests -/

namespace Engine

/-- The engine with other templates. -/
def withLoader (e : Engine) (l : Loader) : Engine := { e with loader := l }

/-- The keys of some templates. -/
def keysOf (keyOf : String → String) (names : List String) (key : String) : Prop :=
  ∃ name ∈ names, keyOf name = key

section Spares

variable {e : Engine} {keys : String → Prop} {sources : Sources} {keyOf : String → String}
  {name key : String}

theorem isUsable_spares (shows : e.loader.Shows sources keyOf) (name key : String) :
    (e.isUsable name key).Spares e keys := by
  rw [isUsable]
  split
  · refine Work.Spares.bind (Work.spares_ofCache fun cache d healthy => ?_) fun time? => ?_
    · generalize asked : (cache.writtenAt? key : StateM Disk _).run d = outcome
      have still := cache.writtenAt?_disk key d
      obtain ⟨time?, later⟩ := outcome
      rw [asked] at still
      subst still
      refine ⟨time?, cache, later, ?_, rfl, healthy⟩
      rw [Disk.run_bind asked]
      rfl
    · split
      · exact Work.spares_pure false
      · exact Work.spares_ofLoader (shows.isFresh name _)
  · exact Work.spares_pure true

theorem cached?_spares (shows : e.loader.Shows sources keyOf) (used : keys key) (name : String) :
    (e.cached? name key).Spares e keys := by
  refine Work.Spares.bind (Work.spares_ofCache fun cache d healthy => ?_) fun text? => ?_
  · obtain ⟨found, after, done, same⟩ := Cache.find?_healthy healthy used
    exact ⟨found, after, d, done, same, fun directory place => healthy directory (same ▸ place)⟩
  · split
    · exact Work.spares_pure none
    · refine (isUsable_spares shows name key).bind fun usable => ?_
      split <;> exact Work.spares_pure _

theorem compile_spares (shows : e.loader.Shows sources keyOf) (used : keys key) (name : String) :
    (e.compile name key).Spares e keys := by
  refine (Work.spares_ofLoader (shows.source name)).bind fun source => ?_
  refine (Work.spares_ofCompilation _).bind fun a => ?_
  refine Work.Spares.bind (Work.spares_ofCache fun cache d healthy => ?_) fun _ =>
    Work.spares_pure a
  obtain ⟨after, later, done, same, kept⟩ := Cache.insert_healthy healthy used a.toText
  exact ⟨(), after, later, done, same, kept⟩

theorem artifact_spares (shows : e.loader.Shows sources keyOf)
    (used : ∀ name source, sources name = .ok source → keys (keyOf name)) (name : String) :
    (e.artifact name).Spares e keys := by
  refine Work.Meets.bind (Work.meets_ofLoader (shows.cacheKey name)) ?_ ?_
  · rintro stop stopped ⟨cause, failed⟩
    cases known : sources name <;> rw [known] at stopped <;> cases stopped
    cases failed
  · intro key isKey
    cases known : sources name with
    | error cause =>
        rw [known] at isKey
        cases isKey
    | ok source =>
        rw [known] at isKey
        cases isKey
        have isUsed := used name source known
        refine (cached?_spares shows isUsed name).bind fun found => ?_
        split
        · exact Work.spares_pure _
        · exact compile_spares shows isUsed name

theorem loadAll_spares (shows : e.loader.Shows sources keyOf)
    (used : ∀ name source, sources name = .ok source → keys (keyOf name)) (steps : Nat)
    (pending : List String) (loaded : Table Program) :
    (e.loadAll steps pending loaded).Spares e keys := by
  induction steps generalizing pending loaded with
  | zero =>
      cases pending with
      | nil => exact Work.spares_pure loaded
      | cons name rest => exact Work.spares_ofResult nofun
  | succ steps ih =>
      cases pending with
      | nil => exact Work.spares_pure loaded
      | cons name rest =>
          rw [loadAll]
          split
          · exact ih rest loaded
          · exact (artifact_spares shows used name).bind fun a => ih _ _

/-- No request fails for a cache directory in health, which is in health afterwards. -/
theorem answer_spares (shows : e.loader.Shows sources keyOf)
    (used : ∀ name source, sources name = .ok source → keys (keyOf name)) (request : Request) :
    (e.answer request).Spares e keys := by
  cases request with
  | load name =>
      refine Work.Spares.bind ?_ fun t => Work.spares_pure (Answer.template t)
      exact (artifact_spares shows used name).bind fun a => Work.spares_pure (Template.ofArtifact a)
  | render name scope =>
      refine Work.Spares.bind ?_ fun text => Work.spares_pure (Answer.text text)
      exact (loadAll_spares shows used loadLimit [name] []).bind fun programs =>
        Work.spares_ofResult Renderer.render_spares
  | renderBlock name block scope =>
      refine Work.Spares.bind ?_ fun text => Work.spares_pure (Answer.text text)
      exact (loadAll_spares shows used loadLimit [name] []).bind fun programs =>
        Work.spares_ofResult Renderer.renderBlock_spares

end Spares

/-! ## Rows of requests -/

/-- A request, when it is made, and the templates that there are then. The engine may have been made
anew before. -/
structure Turn where
  time : Instant
  loader : Loader
  anew : Bool
  request : Request

/-- The session in which the request of a turn is answered. -/
def Turn.session (turn : Turn) (e : Engine) (session : Session) : Session :=
  if turn.anew then e.newSession else session

/-- The answers to a row of requests. -/
def served (e : Engine) : List Turn → Session → Disk → List (Except Stop Answer)
  | [], _, _ => []
  | turn :: rest, session, d =>
      let done := Work.runOn ((e.withLoader turn.loader).answer turn.request)
        (turn.session e session) { d with clock := turn.time }
      done.1.1 :: e.served rest done.1.2 done.2

section Served

variable {e : Engine} {keyOf : String → String} {names : List String} {session : Session} {d : Disk}

/-- An engine made anew finds the directory as it was left. -/
theorem Healthy.anew {keys : String → Prop} (healthy : e.Healthy keys session d) :
    e.newSession.cache.Healthy d keys :=
  fun directory place => healthy.cache directory (healthy.directory.trans place)

/-- Health does not depend on the time. -/
theorem Healthy.turn {keys : String → Prop} (healthy : e.Healthy keys session d) (turn : Turn) :
    e.Healthy keys (turn.session e session) { d with clock := turn.time } := by
  have later : e.Healthy keys session { d with clock := turn.time } :=
    ⟨healthy.directory, fun directory place => (healthy.cache directory place).at_time turn.time⟩
  unfold Turn.session
  split
  · exact ⟨rfl, later.anew⟩
  · exact later

theorem Healthy.answered {keys : String → Prop} (healthy : e.Healthy keys session d) {l : Loader}
    {sources : Sources} (shows : l.Shows sources keyOf)
    (used : ∀ name source, sources name = .ok source → keys (keyOf name)) (request : Request) :
    let done := Work.runOn ((e.withLoader l).answer request) session d
    ¬IsCacheFailure done.1.1 ∧ e.Healthy keys done.1.2 done.2 := by
  have spares := answer_spares (e := e.withLoader l) shows used request
  obtain ⟨kept, spared | ⟨⟨⟩, -⟩⟩ := spares session d ⟨healthy.directory, healthy.cache⟩
  exact ⟨spared, kept.directory, kept.cache⟩

/-- A cache directory that is in health for the keys of the templates makes none of the requests
fail, if the engine alone writes to it. -/
theorem served_without_failure (turns : List Turn)
    (shows : ∀ turn ∈ turns, ∃ sources : Sources, turn.loader.Shows sources keyOf ∧
      ∀ name source, sources name = .ok source → name ∈ names)
    (healthy : e.Healthy (keysOf keyOf names) session d) :
    ∀ answered ∈ e.served turns session d, ¬IsCacheFailure answered := by
  induction turns generalizing session d with
  | nil => exact nofun
  | cons turn rest ih =>
      obtain ⟨sources, isLoader, among⟩ := shows turn List.mem_cons_self
      obtain ⟨spared, kept⟩ := (healthy.turn turn).answered isLoader
        (fun name source known => ⟨name, among name source known, rfl⟩) turn.request
      intro answered member
      rcases List.mem_cons.1 member with rfl | later
      · exact spared
      · exact ih (fun turn member => shows turn (List.mem_cons_of_mem _ member)) kept answered later

end Served

end Engine

end Stencil
