import Stencil.Proofs.Cache.Filed

/-!
# A cache is one map

A cache with memory and a directory answers like a single map from keys to texts with their times,
whatever is asked of it in whatever order. What is held in memory is what the map has, and so is what
the files show; so a new cache on the same directory, which holds nothing yet, answers questions like
the old one.

1. `Cache.Follows`, `Cache.follows_answer`, `Cache.follows_run`: a cache and its disk follow a map, one
   request after the other.
2. `Cache.Mirrors`, `Cache.answer_mirrors`, `Cache.run_mirrors`: questions are answered by the files.
3. `Cache.cache_is_map`: what a cache answers, and what a new one on the same directory would.
-/

namespace Stencil

namespace Cache

/-- What may be asked of a cache. -/
inductive Request where
  | find (key : String)
  | insert (key text : String)
  | contains (key : String)
  | writtenAt (key : String)
  | erase (key : String)
  | clear
deriving DecidableEq, Repr

inductive Answer where
  | text (text? : Option String)
  | present (there : Bool)
  | written (time? : Option Instant)
  | done
deriving DecidableEq, Repr

/-- The key that a request is about. -/
def Request.key? : Request → Option String
  | find key | insert key _ | contains key | writtenAt key | erase key => some key
  | clear => none

/-- Whether a request only asks what there is. -/
def Request.isQuestion : Request → Bool
  | find _ | contains _ | writtenAt _ => true
  | insert .. | erase _ | clear => false

variable {m : Type → Type} [Monad m] [Files m]

/-- Answers a request. -/
def answer (c : Cache) : Request → m (Except FileError Answer × Cache)
  | .find key => do
      let (result, after) ← c.find? key
      return (result.map .text, after)
  | .insert key text => do
      let (result, after) ← c.insert key text
      return (result.map fun _ => .done, after)
  | .contains key => return (.ok (.present (← c.contains key)), c)
  | .writtenAt key => return (.ok (.written (← c.writtenAt? key)), c)
  | .erase key => do
      let (result, after) ← c.erase key
      return (result.map .present, after)
  | .clear => do
      let (result, after) ← c.clear
      return (result.map fun _ => .done, after)

/-- Answers a row of requests, each of them at a time. -/
def run (c : Cache) (d : Disk) :
    List (Instant × Request) → List (Except FileError Answer) × Cache × Disk
  | [] => ([], c, d)
  | (time, request) :: rest =>
      let ((answer, after), later) := (c.answer request : StateM Disk _).run { d with clock := time }
      let (answers, final) := run after later rest
      (answer :: answers, final)

end Cache

/-- A map from keys to texts with their times. -/
abbrev Ledger := String → Option CacheEntry

namespace Ledger

open Cache (Request Answer)

def empty : Ledger := fun _ => none

def set (m : Ledger) (key : String) (value? : Option CacheEntry) : Ledger :=
  fun other => if other = key then value? else m other

/-- The answer of the map to a request at a time, and the map after it. -/
def answer (m : Ledger) (time : Instant) : Request → Answer × Ledger
  | .find key => (.text ((m key).map CacheEntry.text), m)
  | .insert key text => (.done, m.set key (some ⟨text, time⟩))
  | .contains key => (.present (m key).isSome, m)
  | .writtenAt key => (.written ((m key).map CacheEntry.written), m)
  | .erase key => (.present (m key).isSome, m.set key none)
  | .clear => (.done, empty)

/-- The answers to a row of requests. -/
def run (m : Ledger) : List (Instant × Request) → List Answer
  | [] => []
  | (time, request) :: rest => (m.answer time request).1 :: run (m.answer time request).2 rest

theorem set_self (m : Ledger) (key : String) (value? : Option CacheEntry) :
    m.set key value? key = value? := if_pos rfl

theorem set_other (m : Ledger) {key other : String} (differs : other ≠ key)
    (value? : Option CacheEntry) : m.set key value? other = m other := if_neg differs

end Ledger

namespace Cache

/-- Whether what a cache holds and what the files of its directory show is what a map has for the keys
that are used. -/
structure Follows (c : Cache) (d : Disk) (keys : String → Prop) (m : Ledger) : Prop where
  held : ∀ key entry, c.held.get? key = some entry → keys key ∧ m key = some entry
  inMemory : c.directory = none → ∀ key, m key = c.held.get? key
  onDisk : ∀ directory, c.directory = some directory →
    directory.Apart d keys ∧ ∀ key, keys key → directory.Shows d key (m key)

section Requests

variable {c after : Cache} {d later : Disk} {keys : String → Prop} {m : Ledger} {key : String}

/-! ## Questions -/

theorem get?_hold (c : Cache) (key other : String) (entry : CacheEntry) :
    (c.hold key entry).held.get? other = if key = other then some entry else c.held.get? other :=
  Table.get?_set ..

theorem find?_follows (follows : c.Follows d keys m) (used : keys key) {result : Option String}
    (h : (c.find? key : StateM Disk _).run d = ((.ok result, after), later)) :
    result = (m key).map CacheEntry.text ∧ after.Follows later keys m := by
  unfold find? at h
  split at h
  · next _ _ entry found =>
    cases h
    rw [(follows.held key entry found).2]
    exact ⟨rfl, follows⟩
  · next missing nowhere =>
    cases h
    rw [follows.inMemory nowhere, missing]
    exact ⟨rfl, follows⟩
  · next directory missing place =>
    obtain ⟨-, shows⟩ := follows.onDisk directory place
    rw [promote_eq] at h
    split at h
    · cases h
    · next found =>
      cases h
      rw [← directory.lookup_shows (shows key used) found]
      exact ⟨rfl, follows⟩
    · next entry found =>
      cases h
      have same := directory.lookup_shows (shows key used) found
      rw [← same]
      refine ⟨rfl, fun other held isHeld => ?_, fun nowhere => ?_, follows.onDisk⟩
      · rw [get?_hold] at isHeld
        split at isHeld
        · next isKey =>
          subst isKey
          cases isHeld
          exact ⟨used, same.symm⟩
        · exact follows.held other held isHeld
      · rw [show c.directory = none from nowhere] at place
        cases place

theorem contains_follows (follows : c.Follows d keys m) (used : keys key) :
    (c.contains key : StateM Disk Bool).run d = ((m key).isSome, d) := by
  unfold contains
  split
  · next there =>
    obtain ⟨entry, found⟩ := Option.isSome_iff_exists.1 there
    rw [(follows.held key entry found).2]
    rfl
  · next missing nowhere =>
    rw [follows.inMemory nowhere, ← missing]
    rfl
  · next directory missing place =>
    exact directory.run_contains ((follows.onDisk directory place).2 key used)

theorem writtenAt?_follows (follows : c.Follows d keys m) (used : keys key) :
    (c.writtenAt? key : StateM Disk _).run d = ((m key).map CacheEntry.written, d) := by
  unfold writtenAt?
  split
  · next _ _ entry found =>
    rw [(follows.held key entry found).2]
    rfl
  · next missing nowhere =>
    rw [follows.inMemory nowhere, missing]
    rfl
  · next directory missing place =>
    exact directory.run_writtenAt? ((follows.onDisk directory place).2 key used)

/-! ## Changes -/

/-- What is shown of the keys after a change to one of them. -/
theorem shows_set {directory : CacheDirectory} {value? : Option CacheEntry}
    (shows : ∀ key, keys key → directory.Shows d key (m key))
    (own : directory.Shows later key value?)
    (others : ∀ other found, keys other → other ≠ key → directory.Shows d other found →
      directory.Shows later other found) :
    ∀ other, keys other → directory.Shows later other (m.set key value? other) := by
  intro other used
  by_cases same : other = key
  · subst same
    rw [Ledger.set_self]
    exact own
  · rw [Ledger.set_other m same]
    exact others other _ used same (shows other used)

/-- What is held after a change to what is held of one key. -/
theorem held_set (follows : c.Follows d keys m) (used : keys key) {held : Table CacheEntry}
    {value? : Option CacheEntry}
    (changed : ∀ other, held.get? other = if key = other then value? else c.held.get? other) :
    (∀ other entry, held.get? other = some entry →
      keys other ∧ m.set key value? other = some entry) ∧
    (c.directory = none → ∀ other, m.set key value? other = held.get? other) := by
  refine ⟨fun other entry isHeld => ?_, fun nowhere other => ?_⟩
  · rw [changed] at isHeld
    split at isHeld
    · next same =>
      subst same
      exact ⟨used, isHeld ▸ Ledger.set_self ..⟩
    · next differs =>
      rw [Ledger.set_other m (Ne.symm differs)]
      exact follows.held other entry isHeld
  · rw [changed]
    split
    · next same =>
      subst same
      exact Ledger.set_self ..
    · next differs =>
      rw [Ledger.set_other m (Ne.symm differs)]
      exact follows.inMemory nowhere other

theorem writeBehind_follows (follows : c.Follows d keys m) (used : keys key) {text : String}
    {time : Instant} (h : (c.writeBehind key text : StateM Disk _).run d = (.ok time, later)) :
    time = d.clock ∧ ∀ directory, c.directory = some directory → directory.Apart later keys ∧
      ∀ other, keys other →
        directory.Shows later other (m.set key (some ⟨text, d.clock⟩) other) := by
  rw [writeBehind, Disk.run_bind (rfl : (Files.now : StateM Disk _).run d = (d.clock, d))] at h
  split at h
  · next nowhere =>
    cases h
    refine ⟨rfl, fun directory place => ?_⟩
    rw [nowhere] at place
    cases place
  · next directory place =>
    obtain ⟨apart, shows⟩ := follows.onDisk directory place
    generalize outcome : (directory.write key text : StateM Disk _).run d = done at h
    obtain ⟨written, changed⟩ := done
    rw [Disk.run_bind outcome] at h
    cases written with
    | error cause => cases h
    | ok file =>
        obtain ⟨home, own, others⟩ := directory.write_shows apart used outcome
        have dated : (directory.writtenAt? key : StateM Disk _).run changed =
          (some d.clock, changed) := directory.run_writtenAt? own
        rw [Disk.run_bind dated] at h
        cases h
        refine ⟨rfl, fun other found => ?_⟩
        rw [place] at found
        cases found
        exact ⟨apart.of_home home, shows_set shows own others⟩

theorem insert_follows (follows : c.Follows d keys m) (used : keys key) {text : String}
    (h : (c.insert key text : StateM Disk _).run d = ((.ok (), after), later)) :
    after.Follows later keys (m.set key (some ⟨text, d.clock⟩)) := by
  generalize outcome : (c.writeBehind key text : StateM Disk _).run d = done
  obtain ⟨written, changed⟩ := done
  rw [insert, Disk.run_bind outcome] at h
  cases written with
  | error cause => cases h
  | ok time =>
      obtain ⟨rfl, onDisk⟩ := writeBehind_follows follows used outcome
      obtain ⟨held, inMemory⟩ := held_set follows used (get?_hold c key · ⟨text, d.clock⟩)
      cases h
      exact ⟨held, inMemory, onDisk⟩

theorem erase_follows (follows : c.Follows d keys m) (used : keys key) {removed : Bool}
    (h : (c.erase key : StateM Disk _).run d = ((.ok removed, after), later)) :
    removed = (m key).isSome ∧ after.Follows later keys (m.set key none) := by
  obtain ⟨held, inMemory⟩ := held_set follows used (Table.get?_erase c.held key)
  unfold erase at h
  split at h
  · next nowhere =>
    cases h
    refine ⟨?_, held, inMemory, fun directory place => ?_⟩
    · rw [follows.inMemory nowhere]
      rfl
    · rw [show c.directory = some directory from place] at nowhere
      cases nowhere
  · next directory place =>
    obtain ⟨apart, shows⟩ := follows.onDisk directory place
    generalize outcome : (directory.erase key : StateM Disk _).run d = done at h
    obtain ⟨result, changed⟩ := done
    rw [Disk.run_bind outcome] at h
    cases result with
    | error cause => cases h
    | ok onDisk =>
        obtain ⟨home, isRemoved, own, others⟩ :=
          directory.erase_shows apart used (shows key used) outcome
        cases h
        refine ⟨?_, held, inMemory, fun other found => ?_⟩
        · -- What is held is in the map, and so in the file.
          cases inHeld : c.held.get? key with
          | none => simp [Table.contains, inHeld, isRemoved]
          | some entry => simp [Table.contains, inHeld, (follows.held key entry inHeld).2]
        · rw [show c.directory = some other from found] at place
          cases place
          exact ⟨apart.of_home home, shows_set shows own others⟩

theorem clear_follows (follows : c.Follows d keys m)
    (h : (c.clear : StateM Disk _).run d = ((.ok (), after), later)) :
    after.Follows later keys .empty := by
  unfold clear at h
  split at h
  · next nowhere =>
    cases h
    refine ⟨nofun, fun _ _ => rfl, fun directory place => ?_⟩
    rw [show c.directory = some directory from place] at nowhere
    cases nowhere
  · next directory place =>
    obtain ⟨apart, shows⟩ := follows.onDisk directory place
    generalize outcome : (directory.clear : StateM Disk _).run d = done at h
    obtain ⟨result, changed⟩ := done
    rw [Disk.run_bind outcome] at h
    obtain ⟨isOk, rfl⟩ := Prod.mk.inj h
    obtain ⟨rfl, rfl⟩ := Prod.mk.inj isOk
    obtain ⟨home, missing⟩ := directory.clear_shows apart.named outcome
    refine ⟨nofun, fun _ _ => rfl, fun other found => ?_⟩
    rw [show c.directory = some other from found] at place
    cases place
    exact ⟨apart.of_home home, fun key used => missing key _ (shows key used)⟩

/-! ## Rows of requests -/

theorem Follows.at_time (follows : c.Follows d keys m) (time : Instant) :
    c.Follows { d with clock := time } keys m := by
  refine ⟨follows.held, follows.inMemory, fun directory place => ?_⟩
  obtain ⟨apart, shows⟩ := follows.onDisk directory place
  exact ⟨apart.of_home rfl, fun key used => (shows key used).frame rfl (fun _ there => there) rfl⟩

theorem run_map {α β : Type} (f : Except FileError α → Except FileError β)
    (work : StateM Disk (Except FileError α × Cache)) (d : Disk) :
    (do
      let (result, after) ← work
      return (f result, after) : StateM Disk _).run d =
        ((f (work.run d).1.1, (work.run d).1.2), (work.run d).2) := by
  generalize outcome : work.run d = done
  obtain ⟨⟨result, after⟩, later⟩ := done
  rw [Disk.run_bind outcome]
  rfl

theorem run_question {α : Type} (f : α → Answer) (work : StateM Disk α) (c : Cache) (d : Disk) :
    (do return (.ok (f (← work)), c) : StateM Disk (Except FileError Answer × Cache)).run d =
      ((.ok (f (work.run d).1), c), (work.run d).2) := rfl

theorem run_map_eq_ok {α β : Type} {f : α → β} {work : StateM Disk (Except FileError α × Cache)}
    {value : β}
    (h : (do
      let (result, after) ← work
      return (result.map f, after) : StateM Disk _).run d = ((.ok value, after), later)) :
    ∃ result, work.run d = ((.ok result, after), later) ∧ value = f result := by
  rw [run_map (Except.map f)] at h
  generalize work.run d = done at h
  obtain ⟨⟨result, final⟩, changed⟩ := done
  cases result with
  | error cause => cases h
  | ok result =>
      cases h
      exact ⟨result, rfl, rfl⟩

/-- A request is answered as by the map, and the map that comes of it is followed. -/
theorem follows_answer (follows : c.Follows d keys m) {request : Request}
    (used : ∀ key, request.key? = some key → keys key) {answer : Answer}
    (h : (c.answer request : StateM Disk _).run d = ((.ok answer, after), later)) :
    answer = (m.answer d.clock request).1 ∧
      after.Follows later keys (m.answer d.clock request).2 := by
  cases request with
  | find key =>
      obtain ⟨text?, outcome, rfl⟩ := run_map_eq_ok h
      obtain ⟨same, next⟩ := find?_follows follows (used key rfl) outcome
      exact ⟨congrArg Answer.text same, next⟩
  | insert key text =>
      obtain ⟨_, outcome, rfl⟩ := run_map_eq_ok h
      exact ⟨rfl, insert_follows follows (used key rfl) outcome⟩
  | contains key =>
      rw [Cache.answer, Disk.run_bind (contains_follows follows (used key rfl))] at h
      cases h
      exact ⟨rfl, follows⟩
  | writtenAt key =>
      rw [Cache.answer, Disk.run_bind (writtenAt?_follows follows (used key rfl))] at h
      cases h
      exact ⟨rfl, follows⟩
  | erase key =>
      obtain ⟨removed, outcome, rfl⟩ := run_map_eq_ok h
      obtain ⟨same, next⟩ := erase_follows follows (used key rfl) outcome
      exact ⟨congrArg Answer.present same, next⟩
  | clear =>
      obtain ⟨_, outcome, rfl⟩ := run_map_eq_ok h
      exact ⟨rfl, clear_follows follows outcome⟩

theorem run_cons {time : Instant} {request : Request} {result : Except FileError Answer}
    (h : (c.answer request : StateM Disk _).run { d with clock := time } = ((result, after), later))
    (rest : List (Instant × Request)) :
    c.run d ((time, request) :: rest) =
      (result :: (after.run later rest).1, (after.run later rest).2) := by
  simp only [run, h]

theorem mem_run_append {result : Except FileError Answer} {row : List (Instant × Request)}
    (more : List (Instant × Request)) (h : result ∈ (c.run d row).1) :
    result ∈ (c.run d (row ++ more)).1 := by
  induction row generalizing c d with
  | nil => cases h
  | cons first rest ih =>
      obtain ⟨time, request⟩ := first
      generalize outcome : (c.answer request : StateM Disk _).run { d with clock := time } = done
      obtain ⟨⟨answer, after⟩, later⟩ := done
      rw [run_cons outcome] at h
      rw [List.cons_append, run_cons outcome]
      rcases List.mem_cons.1 h with rfl | further
      · exact List.mem_cons_self
      · exact List.mem_cons_of_mem _ (ih further)

/-- The directory of a cache stays the same. -/
theorem directory_answer (c : Cache) (d : Disk) (request : Request) :
    ((c.answer request : StateM Disk _).run d).1.2.directory = c.directory := by
  cases request with
  | find key =>
      rw [Cache.answer, run_map (Except.map Answer.text)]
      generalize outcome : (c.find? key : StateM Disk _).run d = done
      exact (find?_spec outcome).2.directory
  | insert key text =>
      rw [Cache.answer, run_map (Except.map fun _ => Answer.done)]
      generalize outcome : (c.insert key text : StateM Disk _).run d = done
      exact (insert_spec outcome).1
  | contains key | writtenAt key => rfl
  | erase key =>
      rw [Cache.answer, run_map (Except.map Answer.present)]
      unfold erase
      split
      · rfl
      · next directory place =>
        generalize outcome : (directory.erase key : StateM Disk _).run d = done
        rw [Disk.run_bind outcome]
        rfl
  | clear =>
      rw [Cache.answer, run_map (Except.map fun _ => Answer.done)]
      unfold clear
      split
      · rfl
      · next directory place =>
        generalize outcome : (directory.clear : StateM Disk _).run d = done
        rw [Disk.run_bind outcome]
        rfl

/-- A row of requests without a failure is answered as by the map, and a map is followed after it. -/
theorem follows_run (follows : c.Follows d keys m) {requests : List (Instant × Request)}
    (used : ∀ r ∈ requests, ∀ key, r.2.key? = some key → keys key)
    (noFailure : ∀ result ∈ (c.run d requests).1, ∃ answer, result = .ok answer) :
    (c.run d requests).1 = (m.run requests).map .ok ∧
      (c.run d requests).2.1.directory = c.directory ∧
      ∃ final, (c.run d requests).2.1.Follows (c.run d requests).2.2 keys final := by
  induction requests generalizing c d m with
  | nil => exact ⟨rfl, rfl, m, follows⟩
  | cons first rest ih =>
      obtain ⟨time, request⟩ := first
      generalize outcome : (c.answer request : StateM Disk _).run { d with clock := time } = done
      obtain ⟨⟨result, after⟩, later⟩ := done
      rw [run_cons outcome] at noFailure ⊢
      rw [List.forall_mem_cons] at used noFailure
      obtain ⟨⟨answer, rfl⟩, others⟩ := noFailure
      obtain ⟨same, next⟩ := follows_answer (follows.at_time time) used.1 outcome
      obtain ⟨answers, directory, final⟩ := ih next used.2 others
      refine ⟨?_, directory.trans ?_, final⟩
      · rw [Ledger.run, List.map_cons, answers, same]
      · have kept := directory_answer c { d with clock := time } request
        rw [outcome] at kept
        exact kept

/-! ## A new cache on the same directory -/

/-- Whether all that a cache holds is shown by the files of its directory. -/
structure Mirrors (c : Cache) (directory : CacheDirectory) (d : Disk) : Prop where
  place : c.directory = some directory
  held : ∀ key entry, c.held.get? key = some entry → directory.Shows d key (some entry)

variable {directory : CacheDirectory} {question : Request}

theorem Follows.mirrors (follows : c.Follows d keys m) (place : c.directory = some directory) :
    c.Mirrors directory d := by
  refine ⟨place, fun key entry held => ?_⟩
  obtain ⟨used, same⟩ := follows.held key entry held
  exact same ▸ (follows.onDisk directory place).2 key used

theorem mirrors_new (directory : CacheDirectory) (d : Disk) :
    (Cache.mk [] (some directory)).Mirrors directory d := ⟨rfl, nofun⟩

theorem Mirrors.at_time (mirrors : c.Mirrors directory d) (time : Instant) :
    c.Mirrors directory { d with clock := time } :=
  ⟨mirrors.place, fun key entry held =>
    (mirrors.held key entry held).frame rfl (fun _ there => there) rfl⟩

theorem find?_mirrors (mirrors : c.Mirrors directory d) (key : String) :
    ∃ next, (c.find? key : StateM Disk _).run d =
      (((directory.lookup d key).map (Option.map CacheEntry.text), next), d) ∧
        next.Mirrors directory d := by
  cases held : c.held.get? key with
  | some entry =>
      refine ⟨c, ?_, mirrors⟩
      rw [find?_of_held held, CacheDirectory.lookup_eq_some.2 (mirrors.held key entry held)]
      rfl
  | none =>
      have behind : c.find? key = (c.promote directory key : StateM Disk _) := by
        unfold find?
        rw [held, mirrors.place]
      rw [behind, promote_eq]
      cases found : directory.lookup d key with
      | error cause => exact ⟨c, rfl, mirrors⟩
      | ok found? =>
          cases found? with
          | none => exact ⟨c, rfl, mirrors⟩
          | some entry =>
              refine ⟨c.hold key entry, rfl, mirrors.place, fun other shown isHeld => ?_⟩
              rw [get?_hold] at isHeld
              split at isHeld
              · next same =>
                subst same
                cases isHeld
                exact CacheDirectory.lookup_eq_some.1 found
              · exact mirrors.held other shown isHeld

theorem contains_mirrors (mirrors : c.Mirrors directory d) (key : String) :
    (c.contains key : StateM Disk Bool).run d = (directory.contains key : StateM Disk Bool).run d := by
  cases held : c.held.get? key with
  | some entry =>
      have known : c.held.contains key = true := by rw [Table.contains, held, Option.isSome_some]
      rw [directory.run_contains (mirrors.held key entry held)]
      unfold contains
      rw [known]
      rfl
  | none =>
      have unknown : c.held.contains key = false := by rw [Table.contains, held, Option.isSome_none]
      unfold contains
      rw [unknown, mirrors.place]

theorem writtenAt?_mirrors (mirrors : c.Mirrors directory d) (key : String) :
    (c.writtenAt? key : StateM Disk _).run d = (directory.writtenAt? key : StateM Disk _).run d := by
  cases held : c.held.get? key with
  | some entry =>
      rw [directory.run_writtenAt? (mirrors.held key entry held), run_writtenAt? held]
      rfl
  | none =>
      unfold writtenAt?
      rw [held, mirrors.place]

/-- A question changes no file and is answered by the files, whatever is held of them. -/
theorem answer_mirrors (mirrors : c.Mirrors directory d) (asks : question.isQuestion = true) :
    ∃ next, (c.answer question : StateM Disk _).run d =
      (((((Cache.mk [] (some directory)).answer question : StateM Disk _).run d).1.1, next), d) ∧
        next.Mirrors directory d := by
  cases question with
  | find key =>
      obtain ⟨next, found, kept⟩ := find?_mirrors mirrors key
      obtain ⟨_, anew, -⟩ := find?_mirrors (mirrors_new directory d) key
      refine ⟨next, ?_, kept⟩
      rw [Cache.answer, Cache.answer, run_map (Except.map Answer.text),
        run_map (Except.map Answer.text), found, anew]
  | contains key =>
      refine ⟨c, ?_, mirrors⟩
      rw [Cache.answer, Cache.answer, run_question Answer.present, run_question Answer.present,
        contains_mirrors mirrors, contains_mirrors (mirrors_new directory d)]
      rfl
  | writtenAt key =>
      refine ⟨c, ?_, mirrors⟩
      rw [Cache.answer, Cache.answer, run_question Answer.written, run_question Answer.written,
        writtenAt?_mirrors mirrors, writtenAt?_mirrors (mirrors_new directory d)]
      rfl
  | insert _ _ | erase _ | clear => cases asks

/-- Two caches that hold only what the files of one directory show answer a row of questions alike. -/
theorem run_mirrors {other : Cache} (mirrors : c.Mirrors directory d)
    (same : other.Mirrors directory d) {questions : List (Instant × Request)}
    (asks : ∀ q ∈ questions, q.2.isQuestion = true) :
    (c.run d questions).1 = (other.run d questions).1 := by
  induction questions generalizing c other d with
  | nil => rfl
  | cons first rest ih =>
      obtain ⟨time, question⟩ := first
      rw [List.forall_mem_cons] at asks
      obtain ⟨next, answer, kept⟩ := answer_mirrors (mirrors.at_time time) asks.1
      obtain ⟨nextOther, answerOther, keptOther⟩ := answer_mirrors (same.at_time time) asks.1
      rw [run_cons answer, run_cons answerOther, ih kept keptOther asks.2]

end Requests

/-! ## The cache and the map -/

theorem follows_make {root? : Option String} {keys : String → Prop} {d : Disk} {start : Ledger}
    (inMemory : root? = none → start = .empty)
    (onDisk : ∀ root, root? = some root → (CacheDirectory.mk root).Apart d keys ∧
      ∀ key, keys key → (CacheDirectory.mk root).Shows d key (start key)) :
    (make root?).Follows d keys start := by
  cases root? with
  | none =>
      rw [inMemory rfl]
      exact ⟨nofun, fun _ _ => rfl, nofun⟩
  | some root =>
      refine ⟨nofun, nofun, fun directory place => ?_⟩
      cases place
      exact onDisk root rfl

/-- A cache answers any row of requests like one map that begins with what the files show, or empty
without a directory, as long as no request fails. After any part of the row a new cache on the same
directory answers all questions, one after another, as the old one would. -/
theorem cache_is_map {root? : Option String} {keys : String → Prop} {d : Disk} {start : Ledger}
    (inMemory : root? = none → start = .empty)
    (onDisk : ∀ root, root? = some root → (CacheDirectory.mk root).Apart d keys ∧
      ∀ key, keys key → (CacheDirectory.mk root).Shows d key (start key))
    {requests : List (Instant × Request)}
    (used : ∀ r ∈ requests, ∀ key, r.2.key? = some key → keys key)
    (noFailure : ∀ result ∈ ((make root?).run d requests).1, ∃ answer, result = .ok answer) :
    ((make root?).run d requests).1 = (start.run requests).map .ok ∧
      ∀ root, root? = some root → ∀ before, before <+: requests →
        ∀ questions : List (Instant × Request), (∀ q ∈ questions, q.2.isQuestion = true) →
          let old := ((make root?).run d before).2
          ((make root?).run old.2 questions).1 = (old.1.run old.2 questions).1 := by
  have follows := follows_make inMemory onDisk
  refine ⟨(follows_run follows used noFailure).1, ?_⟩
  rintro root rfl before ⟨after, rfl⟩ questions asks
  obtain ⟨-, place, final, still⟩ := follows_run follows
    (fun request earlier => used request (List.mem_append_left after earlier))
    (fun result earlier => noFailure result (mem_run_append after earlier))
  exact run_mirrors (mirrors_new ⟨root⟩ _) (still.mirrors place) asks

theorem cache_is_map_directory :
    let keys := (· ∈ ["a", "b"])
    let requests : List (Instant × Request) :=
      [(1, .insert "a" "x"), (2, .insert "b" "y"), (3, .find "a"), (4, .writtenAt "b"),
        (5, .erase "a"), (6, .contains "a"), (7, .clear), (8, .find "b")]
    ((CacheDirectory.mk "/cache").Apart ⟨[], [], 0⟩ keys ∧
      ∀ r ∈ requests, ∀ key, r.2.key? = some key → keys key) ∧
    ((make (some "/cache")).run ⟨[], [], 0⟩ requests).1 =
      [.done, .done, .text (some "x"), .written (some 2), .present true, .present false, .done,
        .text none].map .ok ∧
    let old := ((make (some "/cache")).run ⟨[], [], 0⟩ (requests.take 2)).2
    ((make (some "/cache")).run old.2 [(9, .find "a"), (9, .writtenAt "a")]).1 =
      (old.1.run old.2 [(9, .find "a"), (9, .writtenAt "a")]).1 := by
  intro keys requests
  have distinct : ∀ a ∈ ["a", "b"], ∀ b ∈ ["a", "b"], Digest.ofText a = Digest.ofText b → a = b := by
    decide +kernel
  have ways : ∀ a ∈ ["a", "b"], ∀ b ∈ ["a", "b"], ∀ path ∈ (CacheDirectory.mk "/cache").ways a,
      Disk.pathText (Disk.placeOf ⟨[], [], 0⟩ path) ≠
        Disk.pathText (Disk.placeOf ⟨[], [], 0⟩ ((CacheDirectory.mk "/cache").fileOf b)) := by
    decide +kernel
  have apart : (CacheDirectory.mk "/cache").Apart ⟨[], [], 0⟩ keys :=
    ⟨by decide, fun a b isA isB => distinct a isA b isB, fun a b isA isB => ways a isA b isB⟩
  have onDisk : ∀ root, some "/cache" = some root → (CacheDirectory.mk root).Apart ⟨[], [], 0⟩ keys ∧
      ∀ key, keys key → (CacheDirectory.mk root).Shows ⟨[], [], 0⟩ key (Ledger.empty key) := by
    rintro root ⟨⟩
    exact ⟨apart, fun key _ => CacheDirectory.shows_blank ⟨"/cache"⟩ rfl key⟩
  have used : ∀ r ∈ requests, ∀ key, r.2.key? = some key → keys key := by
    simp [requests, keys, Request.key?]
  have isOk : ((make (some "/cache")).run ⟨[], [], 0⟩ requests).1.all Except.isOk = true := by
    decide +kernel
  have noFailure : ∀ result ∈ ((make (some "/cache")).run ⟨[], [], 0⟩ requests).1,
      ∃ answer, result = .ok answer := by
    intro result member
    have good := List.all_eq_true.1 isOk result member
    cases result with
    | ok answer => exact ⟨answer, rfl⟩
    | error cause => cases good
  obtain ⟨answers, anew⟩ := cache_is_map (fun _ => rfl) onDisk used noFailure
  have told : Ledger.empty.run requests = [.done, .done, .text (some "x"), .written (some 2),
      .present true, .present false, .done, .text none] := by
    decide +kernel
  rw [told] at answers
  exact ⟨⟨apart, used⟩, answers, anew "/cache" rfl _ (List.take_prefix 2 requests) _ (by decide)⟩

/-- The files of the used keys have to be apart from the directories on their ways. Where the way to
the directory leads through the place of a file, making the way puts a directory there: it is no text
of the key, but has a time. -/
theorem not_map_on_own_way :
    let root :=
      "/01/015f7e6bc5aeaf483724089e9252cc13b50951a6b69412522765cff4d780306e.json/../.."
    let requests : List (Instant × Request) :=
      [(1, .insert "k1" "v1"), (2, .contains "k2"), (3, .writtenAt "k2")]
    Digest.ofText "k1" ≠ Digest.ofText "k2" ∧
    ((make (some root)).run ⟨[], [], 0⟩ requests).1.map Except.toOption =
      [some .done, some (.present false), some (.written (some 1))] ∧
    ∀ start : Ledger,
      ((make (some root)).run ⟨[], [], 0⟩ requests).1 ≠ (start.run requests).map .ok := by
  intro root requests
  have told : ((make (some root)).run ⟨[], [], 0⟩ requests).1.map Except.toOption =
      [some .done, some (.present false), some (.written (some 1))] := by
    decide +kernel
  refine ⟨by decide +kernel, told, fun start same => ?_⟩
  rw [same] at told
  cases found? : start "k2" <;>
    simp [requests, Ledger.run, Ledger.answer, Ledger.set, found?, Except.toOption] at told

/-- The path of the directory must not be empty: what its files show is not cleared then. -/
theorem not_map_without_path :
    let requests : List (Instant × Request) := [(1, .insert "k" "v"), (2, .clear), (3, .find "k")]
    ((make (some "")).run ⟨[], [], 0⟩ requests).1.map Except.toOption =
      [some .done, some .done, some (.text (some "v"))] ∧
    ∀ start : Ledger,
      ((make (some "")).run ⟨[], [], 0⟩ requests).1 ≠ (start.run requests).map .ok := by
  intro requests
  have told : ((make (some "")).run ⟨[], [], 0⟩ requests).1.map Except.toOption =
      [some .done, some .done, some (.text (some "v"))] := by
    decide +kernel
  refine ⟨told, fun start same => ?_⟩
  rw [same] at told
  simp [requests, Ledger.run, Ledger.answer, Ledger.empty, Except.toOption] at told

end Cache

end Stencil
