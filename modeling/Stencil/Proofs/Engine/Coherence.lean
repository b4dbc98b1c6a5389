import Stencil.Proofs.Artifact.RoundTrip
import Stencil.Proofs.Compiler.Visitors
import Stencil.Proofs.Engine.Work

/-!
# What an engine answers

Without a cache, the answer of an engine is a function of the sources that its loader has. A cache
is coherent if every text in it that would still be used is that of the source. Every request keeps
the cache coherent and is answered as without one.

1. `Engine.fresh`: the answers without a cache.
2. `Engine.cached?_meets`, `Engine.compile_meets`: what is found in a coherent cache, and what is put
   there.
3. `Engine.answer_meets`: every request.
-/

namespace Stencil

/-- What a loader has for each name: a source, or the reason that there is none. -/
abbrev Sources := String → Except LoadError Source

/-- Whether a loader answers from these sources, each of which has one key. -/
structure Loader.Shows (l : Loader) (sources : Sources) (keyOf : String → String) : Prop where
  source : ∀ name, (l.source name : StateM Disk _) = pure ((sources name).map Source.text)
  cacheKey : ∀ name,
    (l.cacheKey name : StateM Disk _) = pure ((sources name).map fun _ => keyOf name)
  isFresh : ∀ name time,
    (l.isFresh name time : StateM Disk _) = pure (upTo time ((sources name).map Source.changed))

theorem Loader.memory_shows (templates : Table Source) :
    (memory templates).Shows (held templates) ("memory:" ++ ·) :=
  ⟨fun _ => rfl, fun _ => rfl, fun _ _ => rfl⟩

/-- What may be asked of an engine. -/
inductive Request where
  | load (name : String)
  | render (name : String) (scope : Scope)
  | renderBlock (name block : String) (scope : Scope)

inductive Answer where
  | template (template : Template)
  | text (text : String)

namespace Engine

variable {m : Type → Type} [Monad m] [Files m]

/-- Answers a request. -/
def answer (e : Engine) : Request → Work m Answer
  | .load name => return .template (← e.load name)
  | .render name scope => return .text (← e.render name scope)
  | .renderBlock name block scope => return .text (← e.renderBlock name block scope)

/-! ## Answers without a cache -/

/-- The artifact of a template, compiled from its source. -/
def compiled (e : Engine) (sources : Sources) (name : String) : Except Stop Artifact := do
  let source ← (sources name).mapError fun cause => .raised (.load cause)
  (e.compiler.compile source.text name).mapError fun cause => .raised (.malformed cause)

/-- The programs of the pending templates and of all they mention, from a function that gives the
artifact of each. -/
def gather (artifact : String → Except Stop Artifact) :
    Nat → List String → Table Program → Except Stop (Table Program)
  | _, [], loaded => .ok loaded
  | 0, _ :: _, _ => .error .unfinished
  | steps + 1, name :: pending, loaded => do
      if loaded.contains name then gather artifact steps pending loaded
      else
        let program := Program.ofArtifact (← artifact name)
        let missing := program.dependencies.filter fun other => !loaded.contains other
        gather artifact steps (missing.reverse ++ pending) (loaded.set name program)

/-- The answer to a request from the sources alone. -/
def fresh (e : Engine) (sources : Sources) : Request → Except Stop Answer
  | .load name => return .template (.ofArtifact (← e.compiled sources name))
  | .render name scope => do
      let r := e.renderer (← gather (e.compiled sources) loadLimit [name] [])
      return .text (← r.render Renderer.defaultDepth (e.visible scope) name)
  | .renderBlock name block scope => do
      let r := e.renderer (← gather (e.compiled sources) loadLimit [name] [])
      return .text (← r.renderBlock Renderer.defaultDepth (e.visible scope) name block)

/-! ## Coherent caches -/

/-- Whether each text that is kept for a template, and is no older than its source, is the text of
its artifact, and the visitors are those of the engine, whatever they have seen. -/
structure Coherent (e : Engine) (sources : Sources) (keyOf : String → String) (session : Session)
    (d : Disk) : Prop where
  directory : session.cache.directory = e.options.cacheDirectory.map CacheDirectory.mk
  visitors : session.visitors.map Visitor.fresh = e.compiler.visitors.map Visitor.fresh
  current : ∀ name source entry, sources name = .ok source →
    session.cache.Keeps d (keyOf name) entry → source.changed ≤ entry.written →
      ∃ a, e.compiler.compile source.text name = .ok a ∧ entry.text = a.toText

/-- Whether no two templates share the place of their cached texts. -/
def Apart (e : Engine) (sources : Sources) (keyOf : String → String) : Prop :=
  ∀ a b source other, sources a = .ok source → sources b = .ok other →
    keyOf a = keyOf b ∨ (e.options.cacheDirectory ≠ none ∧
      Digest.ofText (keyOf a) = Digest.ofText (keyOf b)) → a = b

section Requests

variable {e : Engine} {sources : Sources} {keyOf : String → String}

theorem decode?_toText {a b : Artifact} (h : decode? a.toText = some b) : b = a := by
  rw [decode?, Option.filter_eq_some_iff] at h
  exact Artifact.eq_of_ofText? h.1

theorem compiled_of_known {name : String} {source : Source} (known : sources name = .ok source) :
    e.compiled sources name =
      (e.compiler.compile source.text name).mapError fun cause => .raised (.malformed cause) := by
  rw [compiled, known]
  rfl

theorem mayFail_of_directory {session : Session} {d : Disk}
    (coherent : Coherent e sources keyOf session d) (h : session.cache.directory ≠ none) :
    e.options.cacheDirectory ≠ none := by
  rw [coherent.directory] at h
  rintro none
  rw [none] at h
  exact h rfl

theorem Coherent.lookedUp {session : Session} {d : Disk} {after : Cache} {key : String}
    {result : Except FileError (Option String)} (coherent : Coherent e sources keyOf session d)
    (h : Cache.LookedUp session.cache after d key result) :
    Coherent e sources keyOf { session with cache := after } d :=
  ⟨h.directory.trans coherent.directory, coherent.visitors,
    fun name source entry known kept current =>
      coherent.current name source entry known (h.keeps _ _ kept) current⟩

/-- A cache stays coherent when the text of the artifact of a source is put into it. -/
theorem Coherent.inserted {session : Session} {d later : Disk} {after : Cache}
    (coherent : Coherent e sources keyOf session d) (apart : Apart e sources keyOf) {name : String}
    {source : Source} (known : sources name = .ok source) {a : Artifact}
    (compiles : e.compiler.compile source.text name = .ok a)
    (directory : after.directory = session.cache.directory)
    (keeps : ∀ other entry, after.Keeps later other entry →
      (entry.text = a.toText ∧ (keyOf name = other ∨ session.cache.directory ≠ none ∧
        Digest.ofText (keyOf name) = Digest.ofText other)) ∨
          session.cache.Keeps d other entry) (notes : List String) {visitors : List Visitor}
    (same : visitors.map Visitor.fresh = session.visitors.map Visitor.fresh) :
    Coherent e sources keyOf ⟨after, notes, visitors⟩ later := by
  refine ⟨directory.trans coherent.directory, same.trans coherent.visitors,
    fun other found entry present kept current => ?_⟩
  rcases keeps _ _ kept with ⟨isText, shared⟩ | before
  · -- The new text is found for another template only if the two share a place.
    have same : name = other := by
      refine apart name other source found known present ?_
      rcases shared with sameKey | ⟨onDisk, sameDigest⟩
      · exact Or.inl sameKey
      · exact Or.inr ⟨mayFail_of_directory coherent onDisk, sameDigest⟩
    subst same
    rw [known] at present
    cases present
    exact ⟨a, compiles, isText⟩
  · exact coherent.current other found entry present before current

/-- A text that is held is used if it is no older than the source. -/
theorem runOn_isUsable (shows : e.loader.Shows sources keyOf) (reload : e.options.autoReload = true)
    {name : String} {source : Source} (known : sources name = .ok source) {session : Session}
    {entry : CacheEntry} (held : session.cache.held.get? (keyOf name) = some entry) (d : Disk) :
    Work.runOn (e.isUsable name (keyOf name)) session d =
      ((.ok (decide (source.changed ≤ entry.written)), session), d) := by
  let question : Cache → StateM Disk (Except FileError (Option Instant) × Cache) := fun cache => do
    return (.ok (← cache.writtenAt? (keyOf name)), cache)
  have asked : (question session.cache).run d = ((.ok (some entry.written), session.cache), d) := by
    rw [Disk.run_bind (Cache.run_writtenAt? held d)]
    rfl
  have time : Work.runOn (Work.ofCache question) session d =
      ((.ok (some entry.written), session), d) := by
    rw [Work.runOn_ofCache asked]
    rfl
  rw [isUsable, if_pos reload, Work.runOn_bind time, Work.runOn_ofLoader (shows.isFresh name _),
    known]
  rfl

/-- What is found in a coherent cache is what would be compiled. -/
theorem cached?_meets (shows : e.loader.Shows sources keyOf) (reload : e.options.autoReload = true)
    {name : String} {source : Source} (known : sources name = .ok source) :
    (e.cached? name (keyOf name)).Meets (Coherent e sources keyOf) (e.options.cacheDirectory ≠ none)
      fun result => ∃ found, result = .ok found ∧
        ∀ a, found = some a → e.compiled sources name = .ok a := by
  intro session d coherent
  generalize looked : (session.cache.find? (keyOf name) : StateM Disk _).run d = outcome
  obtain ⟨⟨result, after⟩, later⟩ := outcome
  obtain ⟨rfl, found⟩ := Cache.find?_spec looked
  have first : Work.runOn (Work.ofCache fun cache => cache.find? (keyOf name)) session later = _ :=
    Work.runOn_ofCache looked
  have kept := coherent.lookedUp found
  rw [cached?]
  cases result with
  | error cause =>
      rw [Work.runOn_bind_error first]
      exact ⟨kept, Or.inr ⟨mayFail_of_directory coherent (found.failure cause rfl), cause, rfl⟩⟩
  | ok text? =>
      rw [Work.runOn_bind first]
      cases text? with
      | none => exact ⟨kept, Or.inl ⟨none, rfl, nofun⟩⟩
      | some text =>
          obtain ⟨entry, held, rfl⟩ := found.held text rfl
          dsimp only
          rw [Work.runOn_bind (runOn_isUsable shows reload known held later)]
          -- Coherence says what the text is if it is still used.
          by_cases current : source.changed ≤ entry.written
          · obtain ⟨made, compiles, isText⟩ :=
              kept.current name source entry known (Or.inl held) current
            rw [decide_eq_true current, if_pos rfl, isText]
            refine ⟨kept, Or.inl ⟨_, rfl, fun a decoded => ?_⟩⟩
            rw [decode?_toText decoded, compiled_of_known known, compiles]
            rfl
          · rw [decide_eq_false current]
            exact ⟨kept, Or.inl ⟨none, rfl, nofun⟩⟩

/-- What is compiled is put into the cache, which stays coherent. -/
theorem compile_meets (shows : e.loader.Shows sources keyOf) (apart : Apart e sources keyOf)
    (forget : ∀ v ∈ e.compiler.visitors, v.Forgetful) {name : String} {source : Source}
    (known : sources name = .ok source) :
    (e.compile name (keyOf name)).Meets (Coherent e sources keyOf) (e.options.cacheDirectory ≠ none)
      (· = e.compiled sources name) := by
  intro session d coherent
  have asked := Work.runOn_ofLoader (shows.source name) session d
  rw [known] at asked
  have same := Compiler.compile_forgetful forget coherent.visitors source.text name
  rw [compile, Work.runOn_bind asked, compiled_of_known known, ← same, Compiler.compile]
  cases compiles : (e.compiler.withVisitors session.visitors).compileNoted source.text name with
  | error cause =>
      rw [Work.runOn_bind_error (Work.runOn_ofCompilation_error compiles d)]
      exact ⟨coherent, Or.inl rfl⟩
  | ok made =>
      rw [Work.runOn_bind (Work.runOn_ofCompilation compiles d)]
      generalize inserted : (session.cache.insert (keyOf name) made.value.toText :
        StateM Disk _).run d = outcome
      obtain ⟨⟨result, after⟩, later⟩ := outcome
      obtain ⟨directory, keeps, failure⟩ := Cache.insert_spec inserted
      have compiled : e.compiler.compile source.text name = .ok made.value := by
        rw [← same, Compiler.compile, compiles]
        rfl
      have kept := coherent.inserted apart known compiled directory keeps
        (session.notes ++ made.notes) (Compiler.fresh_compileNoted compiles)
      have written : Work.runOn (Work.ofCache fun cache =>
          cache.insert (keyOf name) made.value.toText)
            ⟨session.cache, session.notes ++ made.notes, made.visitors⟩ d = _ :=
        Work.runOn_ofCache inserted
      cases result with
      | error cause =>
          rw [Work.runOn_bind_error written]
          exact ⟨kept, Or.inr ⟨mayFail_of_directory coherent (failure cause rfl), cause, rfl⟩⟩
      | ok _ =>
          rw [Work.runOn_bind written]
          exact ⟨kept, Or.inl rfl⟩

theorem artifact_meets (shows : e.loader.Shows sources keyOf) (reload : e.options.autoReload = true)
    (apart : Apart e sources keyOf) (forget : ∀ v ∈ e.compiler.visitors, v.Forgetful)
    (name : String) :
    (e.artifact name).Meets (Coherent e sources keyOf) (e.options.cacheDirectory ≠ none)
      (· = e.compiled sources name) := by
  refine (Work.meets_ofLoader (shows.cacheKey name)).bind ?_ ?_
  · intro stop stopped
    cases known : sources name with
    | error cause =>
        rw [known] at stopped
        cases stopped
        rw [compiled, known]
        rfl
    | ok source =>
        rw [known] at stopped
        cases stopped
  · intro key isKey
    cases known : sources name with
    | error cause =>
        rw [known] at isKey
        cases isKey
    | ok source =>
        rw [known] at isKey
        cases isKey
        refine (cached?_meets shows reload known).bind ?_ ?_
        · rintro stop ⟨found, impossible, -⟩
          cases impossible
        · rintro found ⟨same, isFound, isCompiled⟩
          cases isFound
          cases found with
          | none => exact compile_meets shows apart forget known
          | some a => exact Work.meets_pure (isCompiled a rfl).symm

theorem loadAll_meets (shows : e.loader.Shows sources keyOf) (reload : e.options.autoReload = true)
    (apart : Apart e sources keyOf) (forget : ∀ v ∈ e.compiler.visitors, v.Forgetful) (steps : Nat)
    (pending : List String) (loaded : Table Program) :
    (e.loadAll steps pending loaded).Meets (Coherent e sources keyOf)
      (e.options.cacheDirectory ≠ none) (· = gather (e.compiled sources) steps pending loaded) := by
  induction steps generalizing pending loaded with
  | zero =>
      cases pending with
      | nil => exact Work.meets_pure rfl
      | cons name rest => exact Work.meets_ofResult _
  | succ steps ih =>
      cases pending with
      | nil => exact Work.meets_pure rfl
      | cons name rest =>
          rw [loadAll, gather]
          split
          · exact ih rest loaded
          · refine (artifact_meets shows reload apart forget name).bind ?_ ?_
            · intro stop stopped
              rw [← stopped]
              rfl
            · intro a made
              rw [← made]
              exact ih _ _

theorem render_meets (shows : e.loader.Shows sources keyOf) (reload : e.options.autoReload = true)
    (apart : Apart e sources keyOf) (forget : ∀ v ∈ e.compiler.visitors, v.Forgetful)
    (name : String) (scope : Scope) :
    (e.render name scope).Meets (Coherent e sources keyOf) (e.options.cacheDirectory ≠ none)
      (· = do
        let programs ← gather (e.compiled sources) loadLimit [name] []
        (e.renderer programs).render Renderer.defaultDepth (e.visible scope) name) :=
  (loadAll_meets shows reload apart forget loadLimit [name] []).bind_eq fun programs =>
    Work.meets_ofResult ((e.renderer programs).render Renderer.defaultDepth (e.visible scope) name)

theorem renderBlock_meets (shows : e.loader.Shows sources keyOf)
    (reload : e.options.autoReload = true) (apart : Apart e sources keyOf)
    (forget : ∀ v ∈ e.compiler.visitors, v.Forgetful) (name block : String) (scope : Scope) :
    (e.renderBlock name block scope).Meets (Coherent e sources keyOf)
      (e.options.cacheDirectory ≠ none)
      (· = do
        let programs ← gather (e.compiled sources) loadLimit [name] []
        (e.renderer programs).renderBlock Renderer.defaultDepth (e.visible scope) name block) :=
  (loadAll_meets shows reload apart forget loadLimit [name] []).bind_eq fun programs =>
    Work.meets_ofResult
      ((e.renderer programs).renderBlock Renderer.defaultDepth (e.visible scope) name block)

/-- Every request is answered as without a cache, and the cache stays coherent. -/
theorem answer_meets (shows : e.loader.Shows sources keyOf) (reload : e.options.autoReload = true)
    (apart : Apart e sources keyOf) (forget : ∀ v ∈ e.compiler.visitors, v.Forgetful)
    (request : Request) :
    (e.answer request).Meets (Coherent e sources keyOf) (e.options.cacheDirectory ≠ none)
      (· = e.fresh sources request) := by
  cases request with
  | load name =>
      have loaded := (artifact_meets shows reload apart forget name).bind_eq fun a =>
        Work.meets_pure (rfl : _ = Except.ok (Template.ofArtifact a))
      have answered := loaded.bind_eq fun t =>
        Work.meets_pure (rfl : _ = Except.ok (Answer.template t))
      rw [bind_assoc (m := Except Stop)] at answered
      exact answered
  | render name scope =>
      have answered := (render_meets shows reload apart forget name scope).bind_eq fun text =>
        Work.meets_pure (rfl : _ = Except.ok (Answer.text text))
      rw [bind_assoc (m := Except Stop)] at answered
      exact answered
  | renderBlock name block scope =>
      have rendered := renderBlock_meets shows reload apart forget name block scope
      have answered := rendered.bind_eq fun text =>
        Work.meets_pure (rfl : _ = Except.ok (Answer.text text))
      rw [bind_assoc (m := Except Stop)] at answered
      exact answered

end Requests

end Engine

end Stencil
