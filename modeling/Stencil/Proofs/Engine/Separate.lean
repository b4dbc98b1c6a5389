import Stencil.Proofs.Compiler.Visitors
import Stencil.Proofs.Engine.Work

/-!
# Templates that do not disturb each other

Without a cache directory, to load a template leaves the disk as it is. Of the cached texts, only
the one under the key of the template is looked at, and no other is changed. So templates with
different keys are answered alike, whichever of them is loaded first, as long as it does not matter
to the visitors either.

1. `Disk.LooksOnly`: work that leaves the disk as it is, such as all questions to a loader.
2. `Work.Local`: work that concerns one key.
3. `Engine.artifact_local`: to load a template is such work.
-/

namespace Stencil

/-! ## Questions to a loader -/

namespace Disk

/-- Work that leaves the disk as it is. -/
def LooksOnly {α : Type} (work : StateM Disk α) : Prop := ∀ d, (work.run d).2 = d

theorem looksOnly_pure {α : Type} (a : α) : LooksOnly (pure a) := fun _ => rfl

theorem LooksOnly.bind {α β : Type} {work : StateM Disk α} {next : α → StateM Disk β}
    (first : LooksOnly work) (second : ∀ a, LooksOnly (next a)) : LooksOnly (work >>= next) := by
  intro d
  show ((next (work.run d).1).run (work.run d).2).2 = d
  rw [second, first]

theorem looksOnly_isFile (path : String) : LooksOnly (Files.isFile path) := fun _ => rfl

end Disk

open Disk (LooksOnly looksOnly_pure looksOnly_isFile)

namespace Loader

theorem looksOnly_search (name : String) (directories : List String) :
    LooksOnly (SearchPath.search name directories) := by
  induction directories with
  | nil => exact looksOnly_pure none
  | cons directory rest ih =>
      refine (looksOnly_isFile _).bind fun there => ?_
      cases there
      · exact ih
      · exact looksOnly_pure _

theorem looksOnly_resolve (s : SearchPath) (name : String) : LooksOnly (s.resolve name) := by
  rw [SearchPath.resolve]
  split
  · refine (looksOnly_isFile name).bind fun there => ?_
    cases there
    · refine (looksOnly_search name s.directories).bind fun file? => ?_
      cases file? <;> exact looksOnly_pure _
    · exact looksOnly_pure _
  · refine (looksOnly_pure false).bind fun there => ?_
    cases there
    · refine (looksOnly_search name s.directories).bind fun file? => ?_
      cases file? <;> exact looksOnly_pure _
    · exact looksOnly_pure _

theorem looksOnly_ask {α : Type} (path : SearchPath) (name : String)
    {question : String → StateM Disk (Except FileError α)}
    (h : ∀ file, LooksOnly (question file)) : LooksOnly (ask path name question) := by
  refine (looksOnly_resolve path name).bind fun file? => ?_
  cases file? with
  | error cause => exact looksOnly_pure _
  | ok file => exact (h file).bind fun answer => looksOnly_pure _

variable (l : Loader) (name : String)

theorem looksOnly_source : LooksOnly (l.source name : StateM Disk _) := by
  cases l with
  | memory templates => exact looksOnly_pure _
  | files path => exact looksOnly_ask path name fun file _ => rfl
  | own answers => exact looksOnly_pure _

theorem looksOnly_cacheKey : LooksOnly (l.cacheKey name : StateM Disk _) := by
  cases l with
  | memory templates => exact looksOnly_pure _
  | files path => exact looksOnly_resolve path name
  | own answers => exact looksOnly_pure _

theorem looksOnly_isFresh (time : Instant) : LooksOnly (l.isFresh name time : StateM Disk _) := by
  cases l with
  | memory templates => exact looksOnly_pure _
  | files path =>
      refine (looksOnly_ask path name ?_).bind fun changed => looksOnly_pure _
      exact fun file _ => rfl
  | own answers => exact looksOnly_pure _

/-- What the loader says that a template is cached under. -/
def keyOn (d : Disk) : Except LoadError String := ((l.cacheKey name : StateM Disk _).run d).1

end Loader

/-! ## Work that concerns one key -/

namespace Work

variable {α β : Type}

/-- What work does to a session without a cache directory: it leaves the disk as it is, all texts in
memory but the one under a key, and the visitors but for what they have seen. -/
structure Does (work : Work (StateM Disk) α) (session : Session) (d : Disk) (key : String)
    (result : Except Stop α) (left? : Option CacheEntry) : Prop where
  result : (runOn work session d).1.1 = result
  disk : (runOn work session d).2 = d
  directory : (runOn work session d).1.2.cache.directory = none
  visitors : (runOn work session d).1.2.visitors.map Visitor.fresh =
    session.visitors.map Visitor.fresh
  held : ∀ other, (runOn work session d).1.2.cache.held.get? other =
    if key = other then left? else session.cache.held.get? other

/-- A session without a cache directory, with these visitors and this text under a key. -/
structure Offers (vs : List Visitor) (key : String) (held? : Option CacheEntry)
    (session : Session) : Prop where
  directory : session.cache.directory = none
  visitors : session.visitors.map Visitor.fresh = vs.map Visitor.fresh
  held : session.cache.held.get? key = held?

/-- Work without a cache directory that concerns one key: all that matters for what it does is the
text that is held under the key, and the visitors up to what they have seen. -/
def Local (d : Disk) (vs : List Visitor) (key : String) (work : Work (StateM Disk) α) : Prop :=
  ∀ held?, ∃ result left?, ∀ session, Offers vs key held? session →
    Does work session d key result left?

variable {d : Disk} {vs : List Visitor} {key : String}

theorem does_of_runOn {work : Work (StateM Disk) α} {session after : Session}
    {result : Except Stop α} {left? : Option CacheEntry}
    (outcome : runOn work session d = ((result, after), d)) (nowhere : after.cache.directory = none)
    (same : after.visitors.map Visitor.fresh = session.visitors.map Visitor.fresh)
    (held : ∀ other, after.cache.held.get? other =
      if key = other then left? else session.cache.held.get? other) :
    Does work session d key result left? := by
  refine ⟨?_, ?_, ?_, ?_, fun other => ?_⟩ <;> rw [outcome]
  · exact nowhere
  · exact same
  · exact held other

/-- Work that leaves the cache as it is, and whose result depends on what is held under the key. -/
theorem local_of_unchanged {work : Work (StateM Disk) α}
    (result : Option CacheEntry → Except Stop α)
    (h : ∀ session held?, Offers vs key held? session → ∃ after,
      runOn work session d = ((result held?, after), d) ∧ after.cache = session.cache ∧
        after.visitors.map Visitor.fresh = session.visitors.map Visitor.fresh) :
    Local d vs key work := by
  intro held?
  refine ⟨result held?, held?, fun session offers => ?_⟩
  obtain ⟨after, outcome, cache, same⟩ := h session held? offers
  refine does_of_runOn outcome (cache ▸ offers.directory) same fun other => ?_
  rw [cache]
  split
  · next same =>
    subst same
    exact offers.held
  · rfl

/-- Work that leaves the session as it is and does not look at it. -/
theorem local_of_blind {work : Work (StateM Disk) α} {result : Except Stop α}
    (h : ∀ session, runOn work session d = ((result, session), d)) : Local d vs key work :=
  local_of_unchanged (fun _ => result) fun session _ _ => ⟨session, h session, rfl, rfl⟩

theorem local_pure (a : α) : Local d vs key (pure a : Work (StateM Disk) α) :=
  local_of_blind fun _ => rfl

/-- A question has its answer from the disk, whatever the session. -/
theorem runOn_of_looksOnly {question : StateM Disk (Except LoadError α)}
    (looks : Disk.LooksOnly question) (session : Session) (d : Disk) :
    runOn (ofLoader question) session d =
      (((question.run d).1.mapError fun e => .raised (.load e), session), d) :=
  congrArg (Prod.mk _) (looks d)

theorem local_ofLoader {question : StateM Disk (Except LoadError α)}
    (looks : Disk.LooksOnly question) : Local d vs key (ofLoader question) :=
  local_of_blind fun session => runOn_of_looksOnly looks session d

/-- A compilation by visitors whose memory does not matter. -/
theorem local_ofCompilation {c : Compiler} (forget : ∀ v ∈ c.visitors, v.Forgetful)
    (source name : String) :
    Local d c.visitors key
      (ofCompilation fun visitors => (c.withVisitors visitors).compileNoted source name) := by
  refine local_of_unchanged
    (fun _ => (c.compile source name).mapError fun cause => .raised (.malformed cause))
    fun session held? offers => ?_
  rw [← Compiler.compile_forgetful forget offers.visitors, Compiler.compile]
  cases outcome : (c.withVisitors session.visitors).compileNoted source name with
  | error cause => exact ⟨session, runOn_ofCompilation_error outcome d, rfl, rfl⟩
  | ok made =>
      exact ⟨_, runOn_ofCompilation outcome d, rfl, Compiler.fresh_compileNoted outcome⟩

theorem Does.whole {work : Work (StateM Disk) α} {session : Session} {result : Except Stop α}
    {left? : Option CacheEntry} (h : Does work session d key result left?) :
    runOn work session d = ((result, (runOn work session d).1.2), d) :=
  Prod.ext (Prod.ext h.result rfl) h.disk

theorem Does.stop {work : Work (StateM Disk) α} {next : α → Work (StateM Disk) β}
    {session : Session} {stop : Stop} {left? : Option CacheEntry}
    (h : Does work session d key (.error stop) left?) :
    Does (work >>= next) session d key (.error stop) left? := by
  have same : runOn (work >>= next) session d = _ := runOn_bind_error h.whole
  refine ⟨?_, ?_, ?_, ?_, fun other => ?_⟩ <;> rw [same]
  · exact h.directory
  · exact h.visitors
  · exact h.held other

theorem Does.bind {work : Work (StateM Disk) α} {next : α → Work (StateM Disk) β}
    {session : Session} {a : α} {result : Except Stop β} {middle? left? : Option CacheEntry}
    (h : Does work session d key (.ok a) middle?)
    (further : Does (next a) (runOn work session d).1.2 d key result left?) :
    Does (work >>= next) session d key result left? := by
  have same : runOn (work >>= next) session d = _ := runOn_bind h.whole
  refine ⟨?_, ?_, ?_, ?_, fun other => ?_⟩ <;> rw [same]
  · exact further.result
  · exact further.disk
  · exact further.directory
  · exact further.visitors.trans h.visitors
  · rw [further.held, h.held]
    split <;> rfl

/-- What a session offers after work that concerns one key. -/
theorem Offers.after {work : Work (StateM Disk) α} {session : Session} {result : Except Stop α}
    {held? left? : Option CacheEntry} (offers : Offers vs key held? session)
    (done : Does work session d key result left?) :
    Offers vs key left? (runOn work session d).1.2 := by
  refine ⟨done.directory, done.visitors.trans offers.visitors, ?_⟩
  rw [done.held, if_pos rfl]

theorem Local.bind {work : Work (StateM Disk) α} {next : α → Work (StateM Disk) β}
    (first : Local d vs key work) (second : ∀ a, Local d vs key (next a)) :
    Local d vs key (work >>= next) := by
  intro held?
  obtain ⟨result, middle?, does⟩ := first held?
  cases result with
  | error stop => exact ⟨.error stop, middle?, fun session offers => (does session offers).stop⟩
  | ok a =>
      obtain ⟨final, left?, further⟩ := second a middle?
      refine ⟨final, left?, fun session offers => ?_⟩
      have done := does session offers
      exact done.bind (further _ (offers.after done))

/-- What comes after a question need only concern the key if there is an answer. -/
theorem local_ask {question : StateM Disk (Except LoadError α)} {next : α → Work (StateM Disk) β}
    (looks : Disk.LooksOnly question)
    (h : ∀ a, (question.run d).1 = .ok a → Local d vs key (next a)) :
    Local d vs key (ofLoader question >>= next) := by
  have asked (session : Session) := runOn_of_looksOnly looks session d
  cases answer : (question.run d).1 with
  | error cause =>
      rw [answer] at asked
      exact local_of_blind fun session => runOn_bind_error (asked session)
  | ok a =>
      rw [answer] at asked
      have same (session : Session) : runOn (ofLoader question >>= next) session d =
          runOn (next a) session d := runOn_bind (asked session)
      intro held?
      obtain ⟨result, left?, does⟩ := h a answer held?
      refine ⟨result, left?, fun session offers => ?_⟩
      obtain ⟨done, unchanged, directory, visitors, others⟩ := does session offers
      rw [← same] at done unchanged directory visitors
      simp only [← same] at others
      exact ⟨done, unchanged, directory, visitors, others⟩

/-- An operation on the cache that only looks up what is held under the key. -/
theorem local_lookUp {operation : Cache → StateM Disk (Except FileError α × Cache)}
    (answer : Option CacheEntry → Except FileError α)
    (h : ∀ cache, cache.directory = none →
      (operation cache).run d = ((answer (cache.held.get? key), cache), d)) :
    Local d vs key (ofCache operation) := by
  refine local_of_unchanged (fun held? => (answer held?).mapError fun e => .raised (.cache e))
    fun session held? offers => ⟨session, ?_, rfl, rfl⟩
  rw [runOn_ofCache (h session.cache offers.directory), offers.held]

theorem local_find? : Local d vs key (ofCache fun cache => cache.find? key) := by
  refine local_lookUp (fun held? => .ok (held?.map CacheEntry.text)) fun cache nowhere => ?_
  rw [Cache.find?, nowhere]
  cases cache.held.get? key <;> rfl

theorem local_writtenAt? :
    Local d vs key (ofCache fun cache => do return (.ok (← cache.writtenAt? key), cache)) := by
  refine local_lookUp (fun held? => .ok (held?.map CacheEntry.written)) fun cache nowhere => ?_
  rw [Cache.writtenAt?, nowhere]
  cases cache.held.get? key <;> rfl

theorem local_insert (text : String) :
    Local d vs key (ofCache fun cache => cache.insert key text) := by
  intro held?
  refine ⟨.ok (), some ⟨text, d.clock⟩, fun session offers => ?_⟩
  have nowhere := offers.directory
  have inserted : (session.cache.insert key text : StateM Disk _).run d =
      ((.ok (), session.cache.hold key ⟨text, d.clock⟩), d) := by
    rw [Cache.insert, Cache.writeBehind, nowhere]
    rfl
  have outcome : runOn (ofCache fun cache => cache.insert key text) session d = _ :=
    runOn_ofCache inserted
  exact does_of_runOn outcome nowhere rfl fun other => Table.get?_set _ _ _ _

end Work

/-! ## Loading -/

namespace Engine

open Work (Local local_pure local_ofLoader)

variable {d : Disk} {vs : List Visitor} {key : String} (e : Engine) (name : String)

theorem isUsable_local : Local d vs key (e.isUsable name key) := by
  rw [isUsable]
  split
  · refine Work.local_writtenAt?.bind fun time? => ?_
    cases time? with
    | none => exact local_pure false
    | some time => exact local_ofLoader (e.loader.looksOnly_isFresh name time)
  · exact local_pure true

theorem cached?_local : Local d vs key (e.cached? name key) := by
  refine Work.local_find?.bind fun text? => ?_
  cases text? with
  | none => exact local_pure none
  | some text =>
      refine (isUsable_local e name).bind fun usable => ?_
      cases usable
      · exact local_pure none
      · exact local_pure (decode? text)

variable {e}

theorem compile_local (forget : ∀ v ∈ e.compiler.visitors, v.Forgetful) :
    Local d e.compiler.visitors key (e.compile name key) :=
  (local_ofLoader (e.loader.looksOnly_source name)).bind fun source =>
    (Work.local_ofCompilation forget source name).bind fun a =>
      (Work.local_insert a.toText).bind fun _ => local_pure a

/-- To load a template concerns no key but its own. -/
theorem artifact_local (forget : ∀ v ∈ e.compiler.visitors, v.Forgetful)
    (own : e.loader.keyOn name d = .ok key) :
    Local d e.compiler.visitors key (e.artifact name) := by
  refine Work.local_ask (e.loader.looksOnly_cacheKey name) fun found isKey => ?_
  obtain rfl : key = found := Except.ok.inj (own.symm.trans isKey)
  refine (cached?_local e name).bind fun cached => ?_
  cases cached with
  | none => exact compile_local name forget
  | some a => exact local_pure a

variable (e)

/-- A template without a key does not load, and nothing comes of it. -/
theorem runOn_keyless {cause : LoadError} (none : e.loader.keyOn name d = .error cause)
    (session : Session) :
    Work.runOn (e.artifact name) session d = ((.error (.raised (.load cause)), session), d) := by
  have asked := Work.runOn_of_looksOnly (e.loader.looksOnly_cacheKey name) session d
  rw [← Loader.keyOn, none] at asked
  exact Work.runOn_bind_error asked

end Engine

end Stencil
