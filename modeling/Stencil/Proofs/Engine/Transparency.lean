import Stencil.Proofs.Engine.Health

/-!
# The cache is transparent

An engine that looks whether templates have changed answers as a new engine would that has cached
nothing, whatever was asked of it before, and however templates have been changed, added and removed
in between.

1. `Engine.Reached`: the states that an engine comes to.
2. `Engine.Reached.coherent`: the cache is coherent in all of them.
3. `Engine.cache_transparent`: what is answered there, and over a cache directory in health.
-/

namespace Stencil

/-- The sources where a name has another answer. -/
def Sources.set (sources : Sources) (name : String) (answer : Except LoadError Source) : Sources :=
  fun other => if other = name then answer else sources other

theorem set_eq_ok {sources : Sources} {name other : String} {answer : Except LoadError Source}
    {found : Source} (h : sources.set name answer other = .ok found) :
    (other = name ∧ answer = .ok found) ∨ sources other = .ok found := by
  unfold Sources.set at h
  split at h
  · next same => exact Or.inl ⟨same, h⟩
  · exact Or.inr h

namespace Loader

/-- Entering a template into memory changes the answer for its name only. -/
theorem held_set (templates : Table Source) (name : String) (source : Source) :
    held (templates.set name source) = Sources.set (held templates) name (.ok source) := by
  funext other
  rw [held, Table.get?_set, Sources.set, held]
  by_cases h : other = name
  · rw [if_pos h, if_pos h.symm]
  · rw [if_neg h, if_neg (Ne.symm h)]

theorem held_erase (templates : Table Source) (name : String) :
    held (templates.erase name) =
      Sources.set (held templates) name (.error (.notFound name [])) := by
  funext other
  rw [held, Table.get?_erase, Sources.set, held]
  by_cases h : other = name
  · rw [if_pos h, if_pos h.symm, h]
  · rw [if_neg h, if_neg (Ne.symm h)]

end Loader

namespace Engine

/-- Whether no text is cached on a disk. -/
def NothingCached (e : Engine) (d : Disk) : Prop :=
  ∀ key entry, ¬e.newSession.cache.Keeps d key entry

/-- The states that an engine comes to while it answers requests and its templates change. Each
template has its own key. A template that is changed or added bears a time later than that of each
text that was cached for it. -/
inductive Reached (e : Engine) (keyOf : String → String) (names : List String) :
    Loader → Sources → Session → Disk → Prop
  /-- Nothing was asked yet, and nothing is cached. -/
  | start {l : Loader} {sources : Sources} {d : Disk} (shows : l.Shows sources keyOf)
      (among : ∀ name source, sources name = .ok source → name ∈ names)
      (empty : e.NothingCached d) :
      Reached e keyOf names l sources e.newSession d
  /-- A request was answered. -/
  | call {l : Loader} {sources : Sources} {session : Session} {d : Disk}
      (before : Reached e keyOf names l sources session d) (request : Request) :
      Reached e keyOf names l sources (Work.runOn ((e.withLoader l).answer request) session d).1.2
        (Work.runOn ((e.withLoader l).answer request) session d).2
  /-- A template was changed or added. -/
  | change {l changed : Loader} {sources : Sources} {session : Session} {d : Disk} {name : String}
      {source : Source} (before : Reached e keyOf names l sources session d) (among : name ∈ names)
      (later : ∀ entry, session.cache.Keeps d (keyOf name) entry → entry.written < source.changed)
      (shows : changed.Shows (sources.set name (.ok source)) keyOf) :
      Reached e keyOf names changed (sources.set name (.ok source)) session d
  /-- A template was removed, or cannot be read any more. -/
  | remove {l changed : Loader} {sources : Sources} {session : Session} {d : Disk} {name : String}
      {cause : LoadError} (before : Reached e keyOf names l sources session d)
      (shows : changed.Shows (sources.set name (.error cause)) keyOf) :
      Reached e keyOf names changed (sources.set name (.error cause)) session d
  /-- Time passed, or the disk changed, but for the cache, of which only something may be lost. -/
  | pass {l : Loader} {sources : Sources} {session : Session} {d later : Disk}
      (before : Reached e keyOf names l sources session d)
      (keeps : ∀ key entry, session.cache.Keeps later key entry → session.cache.Keeps d key entry) :
      Reached e keyOf names l sources session later
  /-- The engine was made anew over the same cache directory. -/
  | restart {l : Loader} {sources : Sources} {session : Session} {d : Disk}
      (before : Reached e keyOf names l sources session d) :
      Reached e keyOf names l sources e.newSession d

section Transparency

variable {e : Engine} {keyOf : String → String} {names : List String} {l : Loader}
  {sources : Sources} {session : Session} {d : Disk}

theorem keeps_of_newSession (directory : session.cache.directory = e.newSession.cache.directory)
    {key : String} {entry : CacheEntry} (kept : e.newSession.cache.Keeps d key entry) :
    session.cache.Keeps d key entry := by
  rcases kept with held | ⟨place, found, kept⟩
  · cases held
  · exact Or.inr ⟨place, directory.trans found, kept⟩

theorem coherent_of_nothingCached (empty : e.NothingCached d) (sources : Sources)
    (keyOf : String → String) : Coherent e sources keyOf e.newSession d :=
  ⟨rfl, rfl, fun _ _ entry _ kept => absurd kept (empty _ entry)⟩

/-- Coherence does not depend on where templates come from. -/
theorem Coherent.withLoader (coherent : Coherent e sources keyOf session d) (l : Loader) :
    Coherent (e.withLoader l) sources keyOf session d :=
  ⟨coherent.directory, coherent.visitors, coherent.current⟩

theorem apart_of_names
    (distinct : ∀ a ∈ names, ∀ b ∈ names, keyOf a = keyOf b → a = b)
    (noCollision : e.options.cacheDirectory ≠ none → ∀ a ∈ names, ∀ b ∈ names,
      Digest.ofText (keyOf a) = Digest.ofText (keyOf b) → a = b)
    (among : ∀ name source, sources name = .ok source → name ∈ names) : Apart e sources keyOf := by
  rintro a b source other isA isB (sameKey | ⟨onDisk, sameDigest⟩)
  · exact distinct a (among a source isA) b (among b other isB) sameKey
  · exact noCollision onDisk a (among a source isA) b (among b other isB) sameDigest

theorem Reached.coherent (reload : e.options.autoReload = true)
    (forget : ∀ v ∈ e.compiler.visitors, v.Forgetful)
    (distinct : ∀ a ∈ names, ∀ b ∈ names, keyOf a = keyOf b → a = b)
    (noCollision : e.options.cacheDirectory ≠ none → ∀ a ∈ names, ∀ b ∈ names,
      Digest.ofText (keyOf a) = Digest.ofText (keyOf b) → a = b)
    (reached : e.Reached keyOf names l sources session d) :
    l.Shows sources keyOf ∧ (∀ name source, sources name = .ok source → name ∈ names) ∧
      Coherent e sources keyOf session d := by
  induction reached with
  | start shows among empty => exact ⟨shows, among, coherent_of_nothingCached empty _ _⟩
  | @call l sources session d _ request ih =>
      obtain ⟨shows, among, coherent⟩ := ih
      have apart : Apart (e.withLoader l) sources keyOf := apart_of_names distinct noCollision among
      have kept := (answer_meets (e := e.withLoader l) shows reload apart forget request session d
        (coherent.withLoader l)).1
      exact ⟨shows, among, kept.directory, kept.visitors, kept.current⟩
  | @change l changed sources session d name source _ isName later shows ih =>
      obtain ⟨-, among, coherent⟩ := ih
      refine ⟨shows, fun other found present => ?_, coherent.directory, coherent.visitors,
        fun other found entry present kept current => ?_⟩
      · rcases set_eq_ok present with ⟨rfl, -⟩ | before
        · exact isName
        · exact among other found before
      · rcases set_eq_ok present with ⟨rfl, same⟩ | before
        · -- The text of the old source is older than the new source, so it is not used.
          cases same
          exact absurd current (Int.not_le.2 (later entry kept))
        · exact coherent.current other found entry before kept current
  | remove _ shows ih =>
      obtain ⟨-, among, coherent⟩ := ih
      refine ⟨shows, fun other found present => ?_, coherent.directory, coherent.visitors,
        fun other found entry present kept current => ?_⟩
      · rcases set_eq_ok present with ⟨-, absent⟩ | before
        · cases absent
        · exact among other found before
      · rcases set_eq_ok present with ⟨-, absent⟩ | before
        · cases absent
        · exact coherent.current other found entry before kept current
  | pass before keeps ih =>
      obtain ⟨shows, among, coherent⟩ := ih
      exact ⟨shows, among, coherent.directory, coherent.visitors,
        fun name source entry known kept =>
          coherent.current name source entry known (keeps _ _ kept)⟩
  | restart before ih =>
      obtain ⟨shows, among, coherent⟩ := ih
      exact ⟨shows, among, rfl, rfl, fun name source entry known kept =>
        coherent.current name source entry known (keeps_of_newSession coherent.directory kept)⟩

/-- Every request is answered, whatever was done before, as by a new engine that has cached nothing,
unless a cache directory fails one of them. A directory in health fails neither. -/
theorem cache_transparent (reload : e.options.autoReload = true)
    (forget : ∀ v ∈ e.compiler.visitors, v.Forgetful)
    (distinct : ∀ a ∈ names, ∀ b ∈ names, keyOf a = keyOf b → a = b)
    (noCollision : e.options.cacheDirectory ≠ none → ∀ a ∈ names, ∀ b ∈ names,
      Digest.ofText (keyOf a) = Digest.ofText (keyOf b) → a = b)
    (reached : e.Reached keyOf names l sources session d) {unused : Disk}
    (empty : e.NothingCached unused) (request : Request) :
    let answered := (Work.runOn ((e.withLoader l).answer request) session d).1.1
    let new := (Work.runOn ((e.withLoader l).answer request) e.newSession unused).1.1
    (answered = new ∨
      e.options.cacheDirectory ≠ none ∧ (IsCacheFailure answered ∨ IsCacheFailure new)) ∧
    (e.newSession.cache.Healthy d (keysOf keyOf names) →
      e.newSession.cache.Healthy unused (keysOf keyOf names) → answered = new) := by
  intro answered new
  obtain ⟨shows, among, coherent⟩ := reached.coherent reload forget distinct noCollision
  have apart : Apart (e.withLoader l) sources keyOf := apart_of_names distinct noCollision among
  have meets := answer_meets (e := e.withLoader l) shows reload apart forget request
  have used (name : String) (source : Source) (known : sources name = .ok source) :
      keysOf keyOf names (keyOf name) := ⟨name, among name source known, rfl⟩
  have here := (meets session d (coherent.withLoader l)).2
  have there := (meets e.newSession unused
    ((coherent_of_nothingCached empty sources keyOf).withLoader l)).2
  have same : answered = new ∨
      e.options.cacheDirectory ≠ none ∧ (IsCacheFailure answered ∨ IsCacheFailure new) := by
    rcases here with answered | ⟨can, failed⟩
    · rcases there with new | ⟨can, failed⟩
      · exact Or.inl (answered.trans new.symm)
      · exact Or.inr ⟨can, Or.inr failed⟩
    · exact Or.inr ⟨can, Or.inl failed⟩
  refine ⟨same, fun healthy unusedHealthy => ?_⟩
  have inHealth : e.Healthy (keysOf keyOf names) session d :=
    ⟨coherent.directory, fun directory place =>
      healthy directory (coherent.directory.symm.trans place)⟩
  rcases same with equal | ⟨-, failed | failed⟩
  · exact equal
  · exact absurd failed (inHealth.answered shows used request).1
  · exact absurd failed (Healthy.answered ⟨rfl, unusedHealthy⟩ shows used request).1

end Transparency

theorem nothingCached_of_blank (e : Engine) (home : DiskPath) (clock : Instant) :
    e.NothingCached ⟨[], home, clock⟩ := by
  rintro key entry (held | ⟨directory, -, kept⟩)
  · cases held
  · rw [CacheDirectory.kept?_eq_some, Disk.get?] at kept
    split at kept
    · cases kept
    · cases kept

/-- An engine with a cache directory, and no template yet. -/
def keeping : Engine :=
  make (.memory []) { Options.default with cacheDirectory := some "/cache" }

/-- What is there after its first template was loaded on an empty disk. -/
def loadedOnce : (Except Stop Answer × Session) × Disk :=
  Work.runOn ((keeping.withLoader (.memory [("t", ⟨"one", 0⟩)])).answer (.load "t"))
    keeping.newSession ⟨[], [], 0⟩

theorem written_of_loadedOnce {entry : CacheEntry}
    (kept : loadedOnce.1.2.cache.Keeps loadedOnce.2 ("memory:" ++ "t") entry) :
    entry.written = 0 := by
  obtain ⟨held, directory, onDisk⟩ :
      (loadedOnce.1.2.cache.held.get? ("memory:" ++ "t")).map CacheEntry.written = some 0 ∧
        loadedOnce.1.2.cache.directory = some ⟨"/cache"⟩ ∧
        ((CacheDirectory.mk "/cache").kept? loadedOnce.2 ("memory:" ++ "t")).map
          CacheEntry.written = some 0 := by
    decide +kernel
  rcases kept with inMemory | ⟨place, found, inFile⟩
  · rw [inMemory] at held
    exact Option.some.inj held
  · rw [directory] at found
    cases found
    rw [inFile] at onDisk
    exact Option.some.inj onDisk

/-- The cache directory of that engine is in health on an empty disk. -/
theorem keeping_healthy (clock : Instant) :
    keeping.newSession.cache.Healthy ⟨[], [], clock⟩ (keysOf ("memory:" ++ ·) ["t"]) := by
  rintro directory ⟨⟩
  have single (key : String) (used : keysOf ("memory:" ++ ·) ["t"] key) : key = "memory:t" := by
    obtain ⟨name, isName, rfl⟩ := used
    rw [List.mem_singleton.1 isName]
    rfl
  have ways : (CacheDirectory.mk "/cache").ways "memory:t" =
      [(CacheDirectory.mk "/cache").shardOf "memory:t", "/cache"] := by
    decide +kernel
  have aside : ∀ path ∈ (CacheDirectory.mk "/cache").ways "memory:t",
      Disk.pathText (Disk.placeOf ⟨[], [], clock⟩ path) ≠
        Disk.pathText (Disk.placeOf ⟨[], [], clock⟩
          ((CacheDirectory.mk "/cache").fileOf "memory:t")) := by
    show ∀ path ∈ _, Disk.pathText (Disk.placeOf ⟨[], [], 0⟩ path) ≠
      Disk.pathText (Disk.placeOf ⟨[], [], 0⟩ _)
    decide +kernel
  have made : Disk.makeDirectory ⟨[], [], clock⟩ "/cache" =
      .ok (Disk.put ⟨[], [], clock⟩ ["cache"] (.directory clock)) := by
    rfl
  refine CacheDirectory.healthy_of_blank ⟨by decide, ?_, ?_⟩ rfl made ?_ ?_
  · intro a b usedA usedB _
    rw [single a usedA, single b usedB]
  · intro a b usedA usedB
    rw [single a usedA, single b usedB]
    exact aside
  · intro key used
    rw [single key used]
    exact ⟨[], ways⟩
  · intro key used
    rw [single key used]
    decide +kernel

/-- What an answer says, if it is a text. -/
def Answer.text? : Except Stop Answer → Option String
  | .ok (.text text) => some text
  | _ => none

theorem Answer.eq_ok_of_text? {answer : Except Stop Answer} {text : String}
    (h : Answer.text? answer = some text) : answer = .ok (.text text) := by
  unfold Answer.text? at h
  split at h
  · cases h
    rfl
  · cases h

/-- A template that is loaded, then changed, and rendered: by the same engine, and by one made anew
over the directory that is left then. -/
theorem cache_transparent_of_edit :
    let edited := keeping.withLoader (.memory [("t", ⟨"two", 1⟩)])
    let request := Request.render "t" .empty
    let again := Work.runOn (edited.answer request) loadedOnce.1.2 loadedOnce.2
    let restarted := Work.runOn (edited.answer request) keeping.newSession again.2
    let new := Work.runOn (edited.answer request) keeping.newSession ⟨[], [], 0⟩
    new.1.1 = .ok (.text "two") ∧ again.1.1 = new.1.1 ∧ restarted.1.1 = new.1.1 := by
  dsimp only
  have single : ∀ a ∈ ["t"], ∀ b ∈ ["t"], a = b := by simp
  have distinct : ∀ a ∈ ["t"], ∀ b ∈ ["t"], "memory:" ++ a = "memory:" ++ b → a = b :=
    fun a inA b inB _ => single a inA b inB
  have noCollision : keeping.options.cacheDirectory ≠ none → ∀ a ∈ ["t"], ∀ b ∈ ["t"],
      Digest.ofText ("memory:" ++ a) = Digest.ofText ("memory:" ++ b) → a = b :=
    fun _ a inA b inB _ => single a inA b inB
  have blank : keeping.NothingCached ⟨[], [], 0⟩ := nothingCached_of_blank keeping [] 0
  have among {source : Source} (name : String) (found : Source)
      (known : Loader.held [("t", source)] name = .ok found) : name ∈ ["t"] := by
    by_cases h : "t" = name
    · exact h ▸ List.mem_cons_self
    · simp [Loader.held, Table.get?, h] at known
  have used {source : Source} (name : String) (found : Source)
      (known : Loader.held [("t", source)] name = .ok found) :
      keysOf ("memory:" ++ ·) ["t"] ("memory:" ++ name) := ⟨name, among name found known, rfl⟩
  have loaded : keeping.Reached ("memory:" ++ ·) ["t"] (.memory [("t", ⟨"one", 0⟩)])
      (Loader.held [("t", ⟨"one", 0⟩)]) loadedOnce.1.2 loadedOnce.2 := by
    unfold loadedOnce
    exact (Reached.start (Loader.memory_shows _) among blank).call (.load "t")
  have shows : (Loader.memory [("t", ⟨"two", 1⟩)]).Shows
      (Sources.set (Loader.held [("t", ⟨"one", 0⟩)]) "t" (.ok ⟨"two", 1⟩)) ("memory:" ++ ·) := by
    rw [← Loader.held_set]
    exact Loader.memory_shows _
  have old : ∀ entry, loadedOnce.1.2.cache.Keeps loadedOnce.2 ("memory:" ++ "t") entry →
      entry.written < (⟨"two", 1⟩ : Source).changed := by
    intro entry kept
    rw [written_of_loadedOnce kept]
    decide
  have changed := loaded.change List.mem_cons_self old shows
  -- The directory stays in health from the empty disk on.
  have first : keeping.Healthy (keysOf ("memory:" ++ ·) ["t"]) loadedOnce.1.2 loadedOnce.2 := by
    unfold loadedOnce
    exact (Healthy.answered ⟨rfl, keeping_healthy 0⟩ (Loader.memory_shows _) used (.load "t")).2
  have second := (first.answered (Loader.memory_shows [("t", ⟨"two", 1⟩)]) used
    (.render "t" .empty)).2
  have agrees := cache_transparent rfl Visitor.forgetful_nil distinct noCollision changed blank
    (.render "t" .empty)
  have agreesAnew := cache_transparent rfl Visitor.forgetful_nil distinct noCollision
    (changed.call (.render "t" .empty)).restart blank (.render "t" .empty)
  refine ⟨Answer.eq_ok_of_text? (by decide +kernel), ?_, ?_⟩
  · exact agrees.2 first.anew (keeping_healthy 0)
  · exact agreesAnew.2 second.anew (keeping_healthy 0)

end Engine

end Stencil
