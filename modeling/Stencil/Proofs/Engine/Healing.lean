import Stencil.Proofs.Engine.Coherence

/-!
# What loading leaves in the cache

Whatever text the cache has for a template, good or not: when the template has been loaded, the cache
has the text of just the artifact that was given out. That artifact is a new one, unless the text that
was there spelled it and was no older than the source. A source that cannot be compiled leaves the
cached text alone.

1. `Engine.runOn_cached?`: what is taken from the cache.
2. `Engine.runOn_compile`: what is put there.
3. `Engine.load_heals`: the cache after loading.
-/

namespace Stencil

namespace Cache

/-- What the cache answers when it is asked for the text of a key. -/
def textOf (c : Cache) (d : Disk) (key : String) : Except FileError (Option String) :=
  ((c.find? key : StateM Disk _).run d).1.1

/-- What the cache answers when it is asked for the time of a key. -/
def timeOf (c : Cache) (d : Disk) (key : String) : Option Instant :=
  ((c.writtenAt? key : StateM Disk _).run d).1

theorem textOf_of_held {c : Cache} {key : String} {entry : CacheEntry}
    (h : c.held.get? key = some entry) (d : Disk) : c.textOf d key = .ok (some entry.text) := by
  rw [textOf, find?_of_held h]

end Cache

namespace Engine

variable {e : Engine} {sources : Sources} {keyOf : String → String} {name : String} {source : Source}
  {session : Session} {d : Disk}

/-- Whether a text that was written at a time is used for the source. -/
def Takes (e : Engine) (source : Source) (time : Instant) : Prop :=
  e.options.autoReload = true → source.changed ≤ time

/-- What a source is compiled to by the visitors of a session as they are. -/
def compiledIn (e : Engine) (session : Session) (source : Source) (name : String) :
    Except SyntaxError Artifact :=
  (e.compiler.withVisitors session.visitors).compile source.text name

/-! ## Before anything is compiled -/

theorem runOn_isUsable_takes (shows : e.loader.Shows sources keyOf)
    (known : sources name = .ok source) (session : Session) {entry : CacheEntry}
    (held : session.cache.held.get? (keyOf name) = some entry) (d : Disk) :
    ∃ used, Work.runOn (e.isUsable name (keyOf name)) session d = ((.ok used, session), d) ∧
      (used = true → e.Takes source entry.written) := by
  by_cases reload : e.options.autoReload = true
  · refine ⟨_, runOn_isUsable shows reload known held d, fun used _ => ?_⟩
    exact of_decide_eq_true used
  · refine ⟨true, ?_, fun _ reloads => absurd reloads reload⟩
    rw [isUsable, if_neg reload]
    rfl

/-- Taking an artifact from the cache changes no text in it. What is taken is spelled by the text that
is there, and that one is used for the source. -/
theorem runOn_cached? (shows : e.loader.Shows sources keyOf) (known : sources name = .ok source)
    {text? : Option String} {after : Cache} {later : Disk}
    (looked : (session.cache.find? (keyOf name) : StateM Disk _).run d =
      ((.ok text?, after), later)) :
    ∃ found, Work.runOn (e.cached? name (keyOf name)) session d =
        ((.ok found, { session with cache := after }), later) ∧
      ∀ a, found = some a → ∃ text time, text? = some text ∧ decode? text = some a ∧
        after.textOf later (keyOf name) = .ok (some text) ∧
        session.cache.timeOf d (keyOf name) = some time ∧ e.Takes source time := by
  have first : Work.runOn (Work.ofCache fun cache => cache.find? (keyOf name)) session d = _ :=
    Work.runOn_ofCache looked
  rw [cached?, Work.runOn_bind first]
  cases text? with
  | none =>
      refine ⟨none, rfl, ?_⟩
      rintro _ ⟨⟩
  | some text =>
      obtain ⟨entry, held, rfl, dated⟩ := Cache.find?_found looked
      obtain ⟨used, asked, takes⟩ :=
        runOn_isUsable_takes shows known { session with cache := after } held later
      dsimp only
      rw [Work.runOn_bind asked]
      cases used with
      | false =>
          refine ⟨none, rfl, ?_⟩
          rintro _ ⟨⟩
      | true =>
          refine ⟨_, rfl, fun a taken => ⟨entry.text, entry.written, rfl, taken, ?_, ?_, takes rfl⟩⟩
          · exact Cache.textOf_of_held held later
          · rw [Cache.timeOf, dated]

/-! ## Compiling -/

/-- A source that cannot be compiled changes nothing. Otherwise the cache then has the text of the
artifact, or has failed. -/
theorem runOn_compile (shows : e.loader.Shows sources keyOf) (known : sources name = .ok source)
    (session : Session) (d : Disk) :
    (∃ cause, Work.runOn (e.compile name (keyOf name)) session d =
      ((.error (.raised (.malformed cause)), session), d)) ∨
    ∃ a after later, e.compiledIn session source name = .ok a ∧
      ((∃ cause, Work.runOn (e.compile name (keyOf name)) session d =
          ((.error (.raised (.cache cause)), after), later)) ∨
        Work.runOn (e.compile name (keyOf name)) session d = ((.ok a, after), later) ∧
          after.cache.textOf later (keyOf name) = .ok (some a.toText)) := by
  have asked := Work.runOn_ofLoader (shows.source name) session d
  rw [known] at asked
  rw [compile, Work.runOn_bind asked, compiledIn, Compiler.compile]
  cases compiles : (e.compiler.withVisitors session.visitors).compileNoted source.text name with
  | error cause =>
      exact .inl ⟨cause, by rw [Work.runOn_bind_error (Work.runOn_ofCompilation_error compiles d)]⟩
  | ok made =>
      rw [Work.runOn_bind (Work.runOn_ofCompilation compiles d)]
      generalize inserted : (session.cache.insert (keyOf name) made.value.toText :
        StateM Disk _).run d = outcome
      obtain ⟨⟨result, after⟩, later⟩ := outcome
      have written : Work.runOn (Work.ofCache fun cache =>
          cache.insert (keyOf name) made.value.toText)
            ⟨session.cache, session.notes ++ made.notes, made.visitors⟩ d = _ :=
        Work.runOn_ofCache inserted
      refine .inr ⟨made.value, ⟨after, session.notes ++ made.notes, made.visitors⟩, later, rfl, ?_⟩
      cases result with
      | error cause =>
          rw [Work.runOn_bind_error written]
          exact .inl ⟨cause, rfl⟩
      | ok _ =>
          rw [Work.runOn_bind written]
          obtain ⟨time, held⟩ := Cache.insert_held inserted
          exact .inr ⟨rfl, Cache.textOf_of_held held later⟩

/-! ## Loading -/

/-- How loading a template leaves the cache: with the text of the artifact that is given out, in the
current layout. If that is not what the source is compiled to, it was spelled by the text that was
there, which was no older than the source if the engine looks at that. A source that cannot be
compiled leaves the text as it was. -/
structure Heals (e : Engine) (source : Source) (name key : String) (session : Session) (d : Disk)
    (result : Except Stop Artifact) (after : Session) (later : Disk) : Prop where
  kept : ∀ a, result = .ok a → ∃ text,
    after.cache.textOf later key = .ok (some text) ∧ Artifact.ofText? text = some a
  current : ∀ a, result = .ok a → a.isCurrent = true
  reused : ∀ a, result = .ok a → e.compiledIn session source name ≠ .ok a →
    ∃ planted time, session.cache.textOf d key = .ok (some planted) ∧
      Artifact.ofText? planted = some a ∧ session.cache.timeOf d key = some time ∧
      e.Takes source time
  untouched : ∀ cause, result = .error (.raised (.malformed cause)) →
    after.cache.textOf later key = session.cache.textOf d key

theorem Heals.of_error {key : String} {stop : Stop} {after : Session} {later : Disk}
    (untouched : ∀ cause, stop = .raised (.malformed cause) →
      after.cache.textOf later key = session.cache.textOf d key) :
    e.Heals source name key session d (.error stop) after later := by
  refine ⟨?_, ?_, ?_, fun cause malformed => untouched cause (Except.error.inj malformed)⟩
  all_goals
    intro a given
    cases given

theorem Heals.of_ok {key text : String} {a : Artifact} {after : Session} {later : Disk}
    (there : after.cache.textOf later key = .ok (some text)) (spelled : Artifact.ofText? text = some a)
    (current : a.isCurrent = true)
    (reused : e.compiledIn session source name ≠ .ok a →
      ∃ planted time, session.cache.textOf d key = .ok (some planted) ∧
        Artifact.ofText? planted = some a ∧ session.cache.timeOf d key = some time ∧
        e.Takes source time) :
    e.Heals source name key session d (.ok a) after later := by
  refine ⟨?_, ?_, ?_, ?_⟩
  · rintro _ ⟨⟩
    exact ⟨text, there, spelled⟩
  · rintro _ ⟨⟩
    exact current
  · rintro _ ⟨⟩
    exact reused
  · rintro cause ⟨⟩

theorem decode?_eq_some {text : String} {a : Artifact} :
    decode? text = some a ↔ Artifact.ofText? text = some a ∧ a.isCurrent = true :=
  Option.filter_eq_some_iff

theorem isCurrent_of_compiled {c : Compiler} {text : String} {a : Artifact}
    (compiles : c.compile text name = .ok a) : a.isCurrent = true := by
  unfold Compiler.compile Compiler.compileNoted at compiles
  cases parsed : c.parse text name with
  | error cause =>
      rw [parsed] at compiles
      cases compiles
  | ok root =>
      rw [parsed] at compiles
      cases compiles
      rfl

theorem artifact_heals (shows : e.loader.Shows sources keyOf) (known : sources name = .ok source)
    (session : Session) (d : Disk)
    (fits : ∀ a, e.compiledIn session source name = .ok a → a.fits = true) :
    let made := Work.runOn (e.artifact name) session d
    e.Heals source name (keyOf name) session d made.1.1 made.1.2 made.2 := by
  have asked := Work.runOn_ofLoader (shows.cacheKey name) session d
  rw [known] at asked
  rw [artifact, Work.runOn_bind asked]
  generalize looked : (session.cache.find? (keyOf name) : StateM Disk _).run d = outcome
  obtain ⟨⟨result, after⟩, later⟩ := outcome
  have before : session.cache.textOf d (keyOf name) = result := by rw [Cache.textOf, looked]
  cases result with
  | error cause =>
      have first : Work.runOn (Work.ofCache fun cache => cache.find? (keyOf name)) session d = _ :=
        Work.runOn_ofCache looked
      have failed : Work.runOn (e.cached? name (keyOf name)) session d =
          ((.error (.raised (.cache cause)), { session with cache := after }), later) := by
        rw [cached?, Work.runOn_bind_error first]
      rw [Work.runOn_bind_error failed]
      refine .of_error ?_
      rintro _ ⟨⟩
  | ok text? =>
      obtain ⟨found, taken, isSpelled⟩ := runOn_cached? shows known looked
      rw [Work.runOn_bind taken]
      cases found with
      | some a =>
          obtain ⟨text, time, rfl, decoded, there, dated, takes⟩ := isSpelled a rfl
          obtain ⟨spelled, current⟩ := decode?_eq_some.1 decoded
          exact .of_ok there spelled current fun _ => ⟨text, time, before, spelled, dated, takes⟩
      | none =>
          rcases runOn_compile shows known { session with cache := after } later
            with ⟨cause, stopped⟩ | ⟨a, done, final, compiles, ⟨cause, failed⟩ | ⟨ended, there⟩⟩
          · rw [stopped]
            refine .of_error fun _ _ => ?_
            rw [before, Cache.textOf, Cache.find?_again looked]
          · rw [failed]
            refine .of_error ?_
            rintro _ ⟨⟩
          · rw [ended]
            have spelled : Artifact.ofText? a.toText = some a := by
              rw [Artifact.ofText?_toText, if_pos (fits a compiles)]
            exact .of_ok there spelled (isCurrent_of_compiled compiles) fun other =>
              absurd compiles other

theorem runOn_load (name : String) (session : Session) (d : Disk) :
    Work.runOn (e.load name) session d =
      (((Work.runOn (e.artifact name) session d).1.1.map Template.ofArtifact,
        (Work.runOn (e.artifact name) session d).1.2), (Work.runOn (e.artifact name) session d).2) := by
  generalize made : Work.runOn (e.artifact name) session d = outcome
  obtain ⟨⟨result, after⟩, later⟩ := outcome
  rw [load]
  cases result with
  | error stop => exact Work.runOn_bind_error made
  | ok a =>
      rw [Work.runOn_bind made]
      rfl

/-- Loading a template from memory leaves the cache as it should be, whatever text was planted in it
before. -/
theorem load_heals {templates : Table Source} (memory : e.loader = .memory templates)
    (known : templates.get? name = some source) (session : Session) (d : Disk)
    (fits : ∀ a, e.compiledIn session source name = .ok a → a.fits = true) :
    let loaded := Work.runOn (e.load name) session d
    e.Heals source name ("memory:" ++ name) session d (loaded.1.1.map Template.artifact) loaded.1.2
      loaded.2 := by
  have shows : e.loader.Shows (Loader.held templates) ("memory:" ++ ·) :=
    memory ▸ Loader.memory_shows templates
  have held : Loader.held templates name = .ok source := by rw [Loader.held, known]
  have healed := artifact_heals shows held session d fits
  rw [runOn_load]
  generalize Work.runOn (e.artifact name) session d = outcome at healed ⊢
  obtain ⟨⟨result, after⟩, later⟩ := outcome
  have same : (result.map Template.ofArtifact).map Template.artifact = result := by
    cases result <;> rfl
  dsimp only at healed ⊢
  rw [same]
  exact healed

/-- An engine with one template. -/
def single : Engine := make (.memory [("t", ⟨"one", 3⟩)]) .default

/-- A session in which some text stands for that template, written after it was changed. -/
def planted (text : String) : Session := ⟨⟨[("memory:" ++ "t", ⟨text, 5⟩)], none⟩, [], []⟩

theorem map_eq_ok {ε α β : Type} {result : Except ε α} {f : α → β} {value : β}
    (h : result.toOption.map f = some value) : result.map f = .ok value := by
  cases result with
  | error _ => cases h
  | ok _ => exact congrArg Except.ok (Option.some.inj h)

/-- A text that is cut off is replaced by that of the compiled template. -/
theorem load_heals_cut :
    let loaded := Work.runOn (single.load "t") (planted "[1,") ⟨[], [], 0⟩
    let made := Artifact.make "t" [.literal "one"]
    loaded.1.1.map Template.artifact = .ok made ∧ ∃ text,
      loaded.1.2.cache.textOf loaded.2 ("memory:" ++ "t") = .ok (some text) ∧
        Artifact.ofText? text = some made := by
  intro loaded made
  have given : loaded.1.1.map Template.artifact = .ok made := map_eq_ok (by decide +kernel)
  have compiled : single.compiledIn (planted "[1,") ⟨"one", 3⟩ "t" = .ok made :=
    eq_ok_of_toOption (by decide +kernel)
  have fits : ∀ a, single.compiledIn (planted "[1,") ⟨"one", 3⟩ "t" = .ok a → a.fits = true := by
    intro a compiles
    obtain rfl : made = a := Except.ok.inj (compiled.symm.trans compiles)
    decide +kernel
  have known : Table.get? [("t", Source.mk "one" 3)] "t" = some ⟨"one", 3⟩ := rfl
  have healed := load_heals (rfl : single.loader = .memory [("t", ⟨"one", 3⟩)]) known
    (planted "[1,") ⟨[], [], 0⟩ fits
  exact ⟨given, healed.kept made given⟩

end Engine

end Stencil
