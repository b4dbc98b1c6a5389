import Stencil.Cache
import Stencil.Proofs.Cache.Places
import Stencil.Proofs.Disk.Changes

/-!
# What a cache keeps

A cache keeps an entry under a key in memory or in the file of the key. Its operations are described
by what is kept before and after them: asking for a text adds nothing, and inserting one adds that
text only, to the keys of the same digest.

1. `CacheDirectory.read_spec`, `CacheDirectory.write_spec`: the directory.
2. `Cache.find?_spec`, `Cache.run_writtenAt?`, `Cache.insert_spec`: the cache.
-/

namespace Stencil

namespace CacheDirectory

/-- The directories that are made before the text of a key is written. -/
def ways (c : CacheDirectory) (key : String) : List String :=
  c.shardOf key :: Files.outward (c.shardOf key)

theorem builds_prepare (c : CacheDirectory) (key : String) :
    Disk.Builds (c.ways key) (c.prepare key : StateM Disk (Except FileError Unit)) := by
  refine Disk.Builds.bind ?_ fun there => ?_
  · exact (Disk.builds_isFile _).bind fun isFile =>
      (Disk.builds_isDirectory _).bind fun isDirectory => Disk.builds_pure _
  · split
    · exact Disk.builds_pure _
    · exact Disk.builds_createDirectories _

def kept? (c : CacheDirectory) (d : Disk) (key : String) : Option CacheEntry :=
  match d.get? (d.placeOf (c.fileOf key)) with
  | some (.file (some text) written) => some ⟨text, written⟩
  | _ => none

theorem kept?_eq_some {c : CacheDirectory} {d : Disk} {key : String} {entry : CacheEntry} :
    c.kept? d key = some entry ↔
      d.get? (d.placeOf (c.fileOf key)) = some (.file (some entry.text) entry.written) := by
  unfold kept?
  split
  · next text written found =>
    rw [found]
    constructor
    · rintro ⟨⟩
      rfl
    · rintro ⟨⟩
      rfl
  · next other =>
    constructor
    · intro h
      cases h
    · intro h
      exact absurd h (other _ _)

theorem kept?_of_built {c : CacheDirectory} {paths : List String} {d later : Disk}
    (h : Disk.Built paths d later) {key : String} {entry : CacheEntry}
    (kept : c.kept? later key = some entry) : c.kept? d key = some entry := by
  rw [kept?_eq_some, Disk.placeOf_of_home h.home] at kept
  rw [kept?_eq_some]
  rcases h.new _ _ kept with old | ⟨⟨changed, isDirectory⟩, -⟩
  · exact old
  · cases isDirectory

theorem kept?_put {c : CacheDirectory} {d : Disk} {key text other : String} {time : Instant}
    {entry : CacheEntry}
    (kept : c.kept? (d.put (d.placeOf (c.fileOf key)) (.file (some text) time)) other =
      some entry) :
    (Digest.ofText key = Digest.ofText other ∧ entry = ⟨text, time⟩) ∨
      c.kept? d other = some entry := by
  obtain ⟨outer, place⟩ := c.placeOf_fileOf d other
  have there : d.placeOf (c.fileOf other) ≠ [] := by
    rw [place]
    exact List.concat_ne_nil _ _
  rw [kept?_eq_some] at kept
  change (d.put _ _).get? (d.placeOf (c.fileOf other)) = _ at kept
  rw [Disk.get?_put _ _ _ _ there] at kept
  split at kept
  · next same =>
    refine Or.inl ⟨c.digest_eq_of_place d same, ?_⟩
    cases kept
    rfl
  · exact Or.inr (kept?_eq_some.2 kept)

/-- Writing a file either fails and changes nothing, or puts the file at its place. -/
theorem run_writeText (d : Disk) (path text : String) :
    ((Files.writeText path text : StateM Disk _).run d).2 = d ∨
      ((Files.writeText path text : StateM Disk _).run d).2 =
        d.put (d.placeOf path) (.file (some text) d.clock) := by
  show (Disk.change (fun d => d.writeText path text) d).2 = d ∨
    (Disk.change (fun d => d.writeText path text) d).2 = _
  unfold Disk.change
  split
  · next changed written => exact Or.inr (Disk.writeText_eq_ok written).2.2
  · exact Or.inl rfl

/-- What there is about a key: its entry, nothing, or an error. -/
def lookup (c : CacheDirectory) (d : Disk) (key : String) : Except FileError (Option CacheEntry) :=
  match d.readText (c.fileOf key) with
  | .error .missing => .ok none
  | .error e => .error e
  | .ok text => (d.modified (c.fileOf key)).map fun time => some ⟨text, time⟩

theorem run_read (c : CacheDirectory) (d : Disk) (key : String) :
    (c.read key : StateM Disk _).run d = (c.lookup d key, d) := by
  rw [read, Disk.run_bind (Disk.run_readText d _)]
  unfold lookup
  generalize c.fileOf key = file
  cases d.readText file with
  | error cause => cases cause <;> rfl
  | ok text =>
      rw [Disk.run_bind (Disk.run_modified d _)]
      rfl

/-- What is found is the text of a file within reach, with the time of that file. -/
theorem lookup_eq_some {c : CacheDirectory} {d : Disk} {key : String} {entry : CacheEntry} :
    c.lookup d key = .ok (some entry) ↔
      d.entry (c.fileOf key) =
        .ok (d.placeOf (c.fileOf key), .file (some entry.text) entry.written) := by
  unfold lookup
  generalize c.fileOf key = file
  constructor
  · intro found
    split at found
    · cases found
    · cases found
    · next text isText =>
      obtain ⟨place, changed, there⟩ := Disk.readText_eq_ok.1 isText
      rw [Disk.modified_of_entry there] at found
      cases found
      exact Disk.place_of_entry there ▸ there
  · intro there
    rw [Disk.readText_eq_ok.2 ⟨_, _, there⟩]
    dsimp only
    rw [Disk.modified_of_entry there]
    rfl

/-- Reading changes nothing and finds what is kept. -/
theorem read_spec (c : CacheDirectory) (d : Disk) (key : String) :
    ((c.read key : StateM Disk _).run d).2 = d ∧
      ∀ entry, ((c.read key : StateM Disk _).run d).1 = .ok (some entry) →
        c.kept? d key = some entry := by
  rw [run_read]
  refine ⟨rfl, fun entry found => ?_⟩
  dsimp only at found
  exact kept?_eq_some.2 (Disk.entry_eq_ok.1 (lookup_eq_some.1 found)).2

/-- After a write the directory keeps the text that was written, if any, and what it kept before. -/
theorem write_spec (c : CacheDirectory) (d : Disk) (key text : String) :
    ∀ other entry, c.kept? ((c.write key text : StateM Disk _).run d).2 other = some entry →
      (Digest.ofText key = Digest.ofText other ∧ entry.text = text) ∨
        c.kept? d other = some entry := by
  intro other entry kept
  have ready := c.builds_prepare key d
  generalize prepared : (c.prepare key : StateM Disk _).run d = outcome at ready
  obtain ⟨result, later⟩ := outcome
  rw [write, Disk.run_bind prepared] at kept
  cases result with
  | error e => exact Or.inr (kept?_of_built ready kept)
  | ok _ =>
      have written := run_writeText later (c.fileOf key) text
      generalize outcome : (Files.writeText (c.fileOf key) text : StateM Disk _).run later = done
        at written
      obtain ⟨result, final⟩ := done
      dsimp only at kept ready written
      rw [Disk.run_bind outcome] at kept
      replace kept : c.kept? final other = some entry := kept
      -- Even a write that fails may have made directories, but these hold no texts.
      rcases written with same | put
      · rw [same] at kept
        exact Or.inr (kept?_of_built ready kept)
      · rw [put] at kept
        rcases kept?_put kept with ⟨same, rfl⟩ | before
        · exact Or.inl ⟨same, rfl⟩
        · exact Or.inr (kept?_of_built ready before)

end CacheDirectory

namespace Cache

/-- Whether an entry is kept under a key: in memory, or in the file of the key. -/
def Keeps (c : Cache) (d : Disk) (key : String) (entry : CacheEntry) : Prop :=
  c.held.get? key = some entry ∨
    ∃ directory, c.directory = some directory ∧ directory.kept? d key = some entry

theorem keeps_hold {c : Cache} {d : Disk} {key other : String} {entry found : CacheEntry}
    (h : (c.hold key entry).Keeps d other found) :
    (key = other ∧ found = entry) ∨ c.Keeps d other found := by
  rcases h with held | onDisk
  · rw [hold, Table.get?_set] at held
    split at held
    · next same => exact Or.inl ⟨same, (Option.some.inj held).symm⟩
    · exact Or.inr (Or.inl held)
  · exact Or.inr (Or.inr onDisk)

/-- What is so after a text was looked up: nothing more is kept than before, what was found is held,
and only a directory can have failed. -/
structure LookedUp (c after : Cache) (d : Disk) (key : String)
    (result : Except FileError (Option String)) : Prop where
  directory : after.directory = c.directory
  keeps : ∀ other entry, after.Keeps d other entry → c.Keeps d other entry
  held : ∀ text, result = .ok (some text) →
    ∃ entry, after.held.get? key = some entry ∧ entry.text = text
  failure : ∀ e, result = .error e → c.directory ≠ none

theorem find?_spec {c after : Cache} {d later : Disk} {key : String}
    {result : Except FileError (Option String)}
    (h : (c.find? key : StateM Disk _).run d = ((result, after), later)) :
    later = d ∧ LookedUp c after d key result := by
  unfold find? at h
  split at h
  · next _ _ entry found =>
    cases h
    refine ⟨rfl, rfl, fun _ _ kept => kept, fun text isText => ?_, nofun⟩
    cases isText
    exact ⟨entry, found, rfl⟩
  · cases h
    exact ⟨rfl, rfl, fun _ _ kept => kept, nofun, nofun⟩
  · next directory missing place =>
    have there : c.directory ≠ none := by
      rw [place]
      exact Option.some_ne_none directory
    obtain ⟨unchanged, isKept⟩ := directory.read_spec d key
    generalize outcome : (directory.read key : StateM Disk _).run d = read at unchanged isKept
    obtain ⟨found, same⟩ := read
    dsimp only at unchanged isKept
    subst unchanged
    rw [promote, Disk.run_bind outcome] at h
    split at h
    · cases h
      exact ⟨rfl, rfl, fun _ _ kept => kept, nofun, fun _ _ => there⟩
    · cases h
      exact ⟨rfl, rfl, fun _ _ kept => kept, nofun, fun _ _ => there⟩
    · next entry =>
      cases h
      refine ⟨rfl, rfl, fun other found kept => ?_, fun text isText => ?_, fun _ _ => there⟩
      · rcases keeps_hold kept with ⟨rfl, rfl⟩ | before
        · exact Or.inr ⟨directory, place, isKept _ rfl⟩
        · exact before
      · cases isText
        refine ⟨entry, ?_, rfl⟩
        rw [hold, Table.get?_set, if_pos rfl]

theorem run_writtenAt? {c : Cache} {key : String} {entry : CacheEntry}
    (h : c.held.get? key = some entry) (d : Disk) :
    (c.writtenAt? key : StateM Disk _).run d = (some entry.written, d) := by
  unfold writtenAt?
  rw [h]
  rfl

theorem find?_of_held {c : Cache} {key : String} {entry : CacheEntry}
    (h : c.held.get? key = some entry) (d : Disk) :
    (c.find? key : StateM Disk _).run d = ((.ok (some entry.text), c), d) := by
  unfold find?
  rw [h]
  rfl

theorem promote_eq (c : Cache) (directory : CacheDirectory) (key : String) (d : Disk) :
    (c.promote directory key : StateM Disk _).run d =
      match directory.lookup d key with
      | .error cause => ((.error cause, c), d)
      | .ok none => ((.ok none, c), d)
      | .ok (some entry) => ((.ok (some entry.text), c.hold key entry), d) := by
  rw [promote, Disk.run_bind (directory.run_read d key)]
  cases directory.lookup d key with
  | error cause => rfl
  | ok found => cases found <;> rfl

/-- What is found is held from then on, with the time that its file has if it was not held before. -/
theorem find?_found {c after : Cache} {d later : Disk} {key text : String}
    (h : (c.find? key : StateM Disk _).run d = ((.ok (some text), after), later)) :
    ∃ entry, after.held.get? key = some entry ∧ entry.text = text ∧
      (c.writtenAt? key : StateM Disk _).run d = (some entry.written, d) := by
  unfold find? at h
  split at h
  · next _ _ entry found =>
    cases h
    exact ⟨entry, found, rfl, run_writtenAt? found d⟩
  · cases h
  · next directory missing place =>
    rw [promote_eq] at h
    split at h
    · cases h
    · cases h
    · next entry found =>
      cases h
      refine ⟨entry, ?_, rfl, ?_⟩
      · rw [hold, Table.get?_set, if_pos rfl]
      · unfold writtenAt?
        rw [missing, place]
        have time := Disk.modified_of_entry (CacheDirectory.lookup_eq_some.1 found)
        exact congrArg (fun time => (Except.toOption time, d)) time

/-- Asking again gives the same. -/
theorem find?_again {c after : Cache} {d later : Disk} {key : String}
    {result : Except FileError (Option String)}
    (h : (c.find? key : StateM Disk _).run d = ((result, after), later)) :
    (after.find? key : StateM Disk _).run later = ((result, after), later) := by
  obtain ⟨rfl, -⟩ := find?_spec h
  by_cases found : ∃ text, result = .ok (some text)
  · obtain ⟨text, rfl⟩ := found
    obtain ⟨entry, held, rfl, -⟩ := find?_found h
    exact find?_of_held held later
  · -- What was not found changed nothing.
    have same : after = c := by
      unfold find? at h
      split at h
      · cases h
        rfl
      · cases h
        rfl
      · rw [promote_eq] at h
        split at h
        · cases h
          rfl
        · cases h
          rfl
        · next entry _ =>
          cases h
          exact absurd ⟨entry.text, rfl⟩ found
    rw [same] at h ⊢
    exact h

/-- A text that is inserted is held. -/
theorem insert_held {c after : Cache} {d later : Disk} {key text : String}
    (h : (c.insert key text : StateM Disk _).run d = ((.ok (), after), later)) :
    ∃ time, after.held.get? key = some ⟨text, time⟩ := by
  generalize outcome : (c.writeBehind key text : StateM Disk _).run d = written
  obtain ⟨result, changed⟩ := written
  rw [insert, Disk.run_bind outcome] at h
  cases result with
  | error cause => cases h
  | ok time =>
      cases h
      exact ⟨time, by rw [hold, Table.get?_set, if_pos rfl]⟩

/-- After a text was written behind, the directory keeps it under the keys of its digest and leaves
the others alone. Only a directory can have failed. -/
theorem writeBehind_spec {c : Cache} {d later : Disk} {key text : String}
    {result : Except FileError Instant}
    (h : (c.writeBehind key text : StateM Disk _).run d = (result, later)) :
    (∀ directory other entry, c.directory = some directory →
      directory.kept? later other = some entry →
        (Digest.ofText key = Digest.ofText other ∧ entry.text = text) ∨
          directory.kept? d other = some entry) ∧
      ∀ e, result = .error e → c.directory ≠ none := by
  rw [writeBehind, Disk.run_bind (rfl : (Files.now : StateM Disk _).run d = (d.clock, d))] at h
  split at h
  · next nowhere =>
    cases h
    refine ⟨fun directory other entry place => ?_, nofun⟩
    rw [nowhere] at place
    cases place
  · next directory place =>
    have kept := directory.write_spec d key text
    generalize outcome : (directory.write key text : StateM Disk _).run d = written at kept
    obtain ⟨made, changed⟩ := written
    rw [Disk.run_bind outcome] at h
    have same : changed = later := by
      split at h
      · cases h
        rfl
      · rw [Disk.run_bind (rfl : (directory.writtenAt? key : StateM Disk _).run changed =
          ((changed.modified (directory.fileOf key)).toOption, changed))] at h
        cases h
        rfl
    subst same
    refine ⟨fun other key entry found => ?_, fun _ _ => ?_⟩
    · rw [place] at found
      cases found
      exact kept key entry
    · rw [place]
      exact Option.some_ne_none directory

/-- A text that is inserted is kept under its key and under keys of the same digest, and all else
that is kept was kept before. Only a directory can fail. -/
theorem insert_spec {c after : Cache} {d later : Disk} {key text : String}
    {result : Except FileError Unit}
    (h : (c.insert key text : StateM Disk _).run d = ((result, after), later)) :
    after.directory = c.directory ∧
      (∀ other entry, after.Keeps later other entry →
        (entry.text = text ∧
          (key = other ∨ c.directory ≠ none ∧ Digest.ofText key = Digest.ofText other)) ∨
            c.Keeps d other entry) ∧
      ∀ e, result = .error e → c.directory ≠ none := by
  generalize outcome : (c.writeBehind key text : StateM Disk _).run d = written
  obtain ⟨time, changed⟩ := written
  obtain ⟨behind, failure⟩ := writeBehind_spec outcome
  have onDisk {other : String} {entry : CacheEntry} (kept : c.Keeps changed other entry) :
      (entry.text = text ∧ c.directory ≠ none ∧ Digest.ofText key = Digest.ofText other) ∨
        c.Keeps d other entry := by
    rcases kept with held | ⟨directory, place, kept⟩
    · exact Or.inr (Or.inl held)
    · rcases behind directory other entry place kept with ⟨same, isText⟩ | before
      · refine Or.inl ⟨isText, ?_, same⟩
        rw [place]
        exact Option.some_ne_none directory
      · exact Or.inr (Or.inr ⟨directory, place, before⟩)
  rw [insert, Disk.run_bind outcome] at h
  split at h
  · cases h
    refine ⟨rfl, fun other entry kept => ?_, fun e _ => failure _ rfl⟩
    rcases onDisk kept with ⟨isText, same⟩ | before
    · exact Or.inl ⟨isText, Or.inr same⟩
    · exact Or.inr before
  · cases h
    refine ⟨rfl, fun other entry kept => ?_, nofun⟩
    rcases keeps_hold kept with ⟨same, rfl⟩ | kept
    · exact Or.inl ⟨rfl, Or.inl same⟩
    · rcases onDisk kept with ⟨isText, same⟩ | before
      · exact Or.inl ⟨isText, Or.inr same⟩
      · exact Or.inr before

end Cache

end Stencil
