import Stencil.Proofs.Cache.Filed

/-!
# Directories that do not fail

A cache directory is in health for some keys if the file of each of them shows an entry or nothing
and can be written. Then each of them can be read, and the directory stays in health whatever is
written under these keys: what a write leaves behind does not stand in the way of another one.

1. `Files.run_directory`, `Files.run_directory_nested`: a directory that is there or can be made.
2. `CacheDirectory.Ready`, `CacheDirectory.Ready.write`: when a text can be written.
3. `CacheDirectory.ready_of_root`, `CacheDirectory.ready_of_missing_root`: which files are ready.
4. `CacheDirectory.Healthy.lookup`, `CacheDirectory.Healthy.write`: reading and writing, and health
   after a write.
5. `Cache.find?_healthy`, `Cache.insert_healthy`: the cache.
-/

namespace Stencil

namespace Files

theorem run_present (path : String) (d : Disk) :
    (present path : StateM Disk Bool).run d = (d.isFile path || d.isDirectory path, d) := rfl

theorem run_ensureDirectory {path : String} {d later : Disk}
    (made : d.makeDirectory path = .ok later) :
    (ensureDirectory path : StateM Disk _).run d = (.ok (), later) := by
  rw [ensureDirectory, Disk.run_bind (Disk.run_makeDirectory_eq_ok.2 made)]
  rfl

theorem run_ensureDirectory_missing {path : String} {d : Disk}
    (missing : d.makeDirectory path = .error .missing) :
    (ensureDirectory path : StateM Disk _).run d = (.error .missing, d) := by
  rw [ensureDirectory, Disk.run_bind (Disk.run_makeDirectory_error missing)]
  rfl

/-- A directory in one that is there is made in one step. -/
theorem run_createDirectories {path : String} {d later : Disk} (named : path ≠ "")
    (made : d.makeDirectory path = .ok later) :
    (createDirectories path : StateM Disk _).run d = (.ok (), later) := by
  rw [createDirectories, if_neg (by simpa using named), ensureNested,
    Disk.run_bind (run_ensureDirectory made)]
  rfl

/-- A directory in one that is missing is made after that one. -/
theorem run_createDirectories_nested {path outer : String} {more : List String}
    {d middle later : Disk} (named : path ≠ "") (way : outward path = outer :: more)
    (missing : d.makeDirectory path = .error .missing) (first : d.makeDirectory outer = .ok middle)
    (second : middle.makeDirectory path = .ok later) :
    (createDirectories path : StateM Disk _).run d = (.ok (), later) := by
  have around : (ensureNested (outer :: more) : StateM Disk _).run d = (.ok (), middle) := by
    rw [ensureNested, Disk.run_bind (run_ensureDirectory first)]
    rfl
  rw [createDirectories, if_neg (by simpa using named), way, ensureNested,
    Disk.run_bind (run_ensureDirectory_missing missing)]
  dsimp only
  rw [Disk.run_bind around]
  exact run_ensureDirectory second

/-- Makes a directory, if it is missing. -/
theorem run_provide {path : String} {d later : Disk}
    (absent : d.entry path = .error .missing)
    (made : (createDirectories path : StateM Disk _).run d = (.ok (), later)) :
    (do if ← present path then return .ok () else createDirectories path :
      StateM Disk (Except FileError Unit)).run d = (.ok (), later) := by
  have nowhere : (d.isFile path || d.isDirectory path) = false := by
    rw [Disk.isFile, Disk.isDirectory, absent]
    rfl
  rw [Disk.run_bind (run_present path d), nowhere, if_neg Bool.false_ne_true]
  exact made

section Provide

variable {root name : String} {d : Disk}

/-- In a directory that is there, another one is there or can be made, unless a file lies in its
place. -/
theorem run_directory (named : root ≠ "") (noSlash : '/' ∉ name.toList) (full : name ≠ "")
    (valid : Disk.pathError? (join root name) = none) (short : name.utf8ByteSize ≤ 255)
    (rooted : d.directory root = .ok (d.placeOf root))
    (free : ∀ text time, d.get? (d.placeOf (join root name)) ≠ some (.file text time)) :
    ∃ later, (do
        if ← present (join root name) then return .ok () else createDirectories (join root name) :
          StateM Disk (Except FileError Unit)).run d = (.ok (), later) ∧
      later.locate (join root name) = .ok (d.placeOf (join root name)) ∧
      later.HasDirectory (d.placeOf (join root name)) := by
  have place := Disk.placeOf_join named noSlash d
  obtain ⟨inRoot, isRoot⟩ := Disk.directory_eq_ok.1 rooted
  have located := Disk.locate_join named noSlash valid inRoot isRoot short
  rw [← place] at located
  cases found : d.get? (d.placeOf (join root name)) with
  | some entry =>
      have there := Disk.entry_eq_ok.2 ⟨located, found⟩
      cases entry with
      | file text time => exact absurd found (free text time)
      | directory changed =>
          have isThere : d.isDirectory (join root name) = true := by rw [Disk.isDirectory, there]
          rw [Disk.run_bind (run_present (join root name) d), isThere, Bool.or_true, if_pos rfl]
          exact ⟨d, rfl, located, changed, found⟩
  | none =>
      have missing : d.entry (join root name) = .error .missing :=
        Disk.entry_missing_of_built (.refl [] d) located found
      have made := Disk.makeDirectory_join named noSlash full valid inRoot isRoot short found
      have created := run_createDirectories (join_ne_empty named noSlash) made
      exact ⟨_, run_provide missing created, Disk.directory_of_made made⟩

/-- In a directory that can be made, another one can be made if nothing lies in its place. -/
theorem run_directory_nested {more : List String} {middle : Disk} (named : root ≠ "")
    (noSlash : '/' ∉ name.toList) (full : name ≠ "")
    (valid : Disk.pathError? (join root name) = none) (short : name.utf8ByteSize ≤ 255)
    (made : d.makeDirectory root = .ok middle) (way : outward (join root name) = root :: more)
    (apart : Disk.pathText (d.placeOf root) ≠ Disk.pathText (d.placeOf (join root name)))
    (nothing : d.get? (d.placeOf (join root name)) = none) :
    ∃ later, (do
        if ← present (join root name) then return .ok () else createDirectories (join root name) :
          StateM Disk (Except FileError Unit)).run d = (.ok (), later) ∧
      later.locate (join root name) = .ok (d.placeOf (join root name)) ∧
      later.HasDirectory (d.placeOf (join root name)) := by
  obtain ⟨-, walked, noRoot, put⟩ := Disk.makeDirectory_eq_ok.1 made
  have built : Disk.Built [root] d middle := put ▸ Disk.built_put noRoot
  obtain ⟨inRoot, isRoot⟩ := Disk.directory_of_made made
  rw [← Disk.placeOf_of_home built.home] at inRoot isRoot
  have located := Disk.locate_join named noSlash valid inRoot isRoot short
  rw [← Disk.placeOf_join named noSlash, Disk.placeOf_of_home built.home] at located
  have missing := Disk.entry_missing_of_built built located nothing
  have stillNothing : middle.get? (middle.placeOf (join root name)) = none := by
    rw [Disk.placeOf_of_home built.home, built.get?_eq (by simpa using apart)]
    exact nothing
  have second := Disk.makeDirectory_join named noSlash full valid inRoot isRoot short stillNothing
  have created := run_createDirectories_nested (join_ne_empty named noSlash) way
    (Disk.makeDirectory_missing named noSlash full valid walked noRoot) made second
  obtain ⟨inside, isThere⟩ := Disk.directory_of_made second
  rw [Disk.placeOf_of_home built.home] at inside isThere
  rw [Disk.placeOf_of_home built.home] at created
  exact ⟨_, run_provide missing created, inside, isThere⟩

end Provide

end Files

namespace CacheDirectory

variable {c : CacheDirectory} {d later : Disk} {key : String}

/-! ## When a text can be written -/

/-- Whether, at whatever time, the directory of a file is there or can be made, so that the file can
be reached, and no directory lies in its place. -/
def Ready (c : CacheDirectory) (d : Disk) (key : String) : Prop :=
  ∀ time, ∃ middle,
    (c.prepare key : StateM Disk _).run { d with clock := time } = (.ok (), middle) ∧
      middle.locate (c.fileOf key) = .ok (d.placeOf (c.fileOf key)) ∧
      ¬middle.HasDirectory (d.placeOf (c.fileOf key))

theorem endsInSlash_fileOf (named : c.root ≠ "") (key : String) :
    Disk.endsInSlash (c.fileOf key) = false := by
  have last : (fileName key).toList.getLast? = some 'n' := by simp [fileName]
  rw [fileOf_eq, Files.join_inside (shardOf_ne_empty named key) (noSlash_fileName key)]
  split
  · simp [Disk.endsInSlash, last]
  · simp [Disk.endsInSlash, List.getLast?_cons, last]

/-- What is ready can be reached when directories have been made. -/
theorem Ready.reached (ready : c.Ready d key) :
    ∃ middle, Disk.Built (c.ways key) d middle ∧
      middle.locate (c.fileOf key) = .ok (d.placeOf (c.fileOf key)) := by
  obtain ⟨middle, prepared, located, -⟩ := ready d.clock
  have built := c.builds_prepare key d
  rw [show (c.prepare key : StateM Disk _).run d = _ from prepared] at built
  exact ⟨middle, built, located⟩

/-- No file lies in the place of the directory of a file that is ready. -/
theorem Ready.free (named : c.root ≠ "") (ready : c.Ready d key) (text : Option String)
    (time : Instant) : d.get? (d.placeOf (c.shardOf key)) ≠ some (.file text time) := by
  intro isFile
  obtain ⟨middle, built, located⟩ := ready.reached
  obtain ⟨-, ⟨changed, isDirectory⟩, -⟩ :=
    Disk.locate_of_join (shardOf_ne_empty named key) (noSlash_fileName key) located
  rw [Disk.placeOf_of_home built.home, built.kept _ _ isFile] at isDirectory
  cases isDirectory

/-- What is ready can be written, whatever it is. -/
theorem Ready.write (named : c.root ≠ "") (ready : c.Ready d key) (text : String) :
    ∃ later, (c.write key text : StateM Disk _).run d = (.ok (c.fileOf key), later) := by
  obtain ⟨middle, prepared, located, noDirectory⟩ := ready d.clock
  have written := Disk.writeText_of_located (endsInSlash_fileOf named key) located noDirectory text
  refine ⟨middle.put (d.placeOf (c.fileOf key)) (.file (some text) middle.clock), ?_⟩
  rw [CacheDirectory.write, Disk.run_bind prepared]
  dsimp only
  rw [Disk.run_bind (Disk.run_writeText_eq_ok.2 written)]
  rfl

/-- A file is ready when its directory can be had at all times. -/
theorem ready_of_provided (named : c.root ≠ "") (valid : Disk.pathError? (c.fileOf key) = none)
    (noDirectory : ¬d.HasDirectory (d.placeOf (c.fileOf key)))
    (aside : ∀ path ∈ c.ways key,
      Disk.pathText (d.placeOf path) ≠ Disk.pathText (d.placeOf (c.fileOf key)))
    (provided : ∀ time, ∃ middle,
      (c.prepare key : StateM Disk _).run { d with clock := time } = (.ok (), middle) ∧
        middle.locate (c.shardOf key) = .ok (d.placeOf (c.shardOf key)) ∧
        middle.HasDirectory (d.placeOf (c.shardOf key))) :
    c.Ready d key := by
  intro time
  have filled := shardOf_ne_empty named key
  have noSlash := noSlash_fileName key
  obtain ⟨middle, prepared, located, there⟩ := provided time
  have built := c.builds_prepare key { d with clock := time }
  rw [prepared] at built
  have home : middle.home = d.home := built.home
  refine ⟨middle, prepared, ?_, fun isThere => noDirectory ?_⟩
  · rw [← Disk.placeOf_of_home home] at located there
    have reached := Disk.locate_join filled noSlash valid located there (short_fileName key)
    rwa [← Disk.placeOf_join filled noSlash, Disk.placeOf_of_home home] at reached
  · rwa [Disk.HasDirectory, built.get?_eq aside] at isThere

/-- Where the directory of all files is there, a file is ready unless its path is too long, a file
lies in the place of its directory, or a directory in its own. -/
theorem ready_of_root (named : c.root ≠ "") (rooted : d.directory c.root = .ok (d.placeOf c.root))
    (valid : Disk.pathError? (c.fileOf key) = none)
    (free : ∀ text time, d.get? (d.placeOf (c.shardOf key)) ≠ some (.file text time))
    (noDirectory : ¬d.HasDirectory (d.placeOf (c.fileOf key)))
    (aside : ∀ path ∈ c.ways key,
      Disk.pathText (d.placeOf path) ≠ Disk.pathText (d.placeOf (c.fileOf key))) :
    c.Ready d key := by
  have inside := Disk.pathError?_of_join (shardOf_ne_empty named key) (noSlash_fileName key) valid
  refine ready_of_provided named valid noDirectory aside fun time => ?_
  exact Files.run_directory named (noSlash_shardName key) (shardName_ne_empty key) inside
    (short_shardName key) (Disk.directory_at_time rooted time) free

/-- Where the directory of all files can be made, a file is ready unless its path is too long or
something lies in the place of its directory or in its own. -/
theorem ready_of_missing_root {more : List String} (named : c.root ≠ "")
    (made : d.makeDirectory c.root = .ok later) (way : c.ways key = c.shardOf key :: c.root :: more)
    (valid : Disk.pathError? (c.fileOf key) = none)
    (nothing : d.get? (d.placeOf (c.shardOf key)) = none)
    (noDirectory : ¬d.HasDirectory (d.placeOf (c.fileOf key)))
    (aside : ∀ path ∈ c.ways key,
      Disk.pathText (d.placeOf path) ≠ Disk.pathText (d.placeOf (c.fileOf key))) :
    c.Ready d key := by
  have inside := Disk.pathError?_of_join (shardOf_ne_empty named key) (noSlash_fileName key) valid
  have apart : Disk.pathText (d.placeOf c.root) ≠ Disk.pathText (d.placeOf (c.shardOf key)) := by
    rw [placeOf_shardOf named]
    exact Disk.pathText_ne_inside _ (shardName_ne_empty key)
  refine ready_of_provided named valid noDirectory aside fun time => ?_
  obtain ⟨middle, madeThen⟩ := Disk.makeDirectory_at_time made time
  exact Files.run_directory_nested named (noSlash_shardName key) (shardName_ne_empty key) inside
    (short_shardName key) madeThen (List.cons.inj way).2 apart nothing

/-! ## Health -/

/-- Whether a directory is in health for some keys: their files are apart, each of them shows what
it holds, and each can be written. -/
structure Healthy (c : CacheDirectory) (d : Disk) (keys : String → Prop) : Prop where
  apart : c.Apart d keys
  shows : ∀ key, keys key → ∃ found, c.Shows d key found
  ready : ∀ key, keys key → c.Ready d key

variable {keys : String → Prop}

theorem noDirectory_of_shows {found : Option CacheEntry} (shows : c.Shows d key found) :
    ¬d.HasDirectory (d.placeOf (c.fileOf key)) := by
  rintro ⟨changed, isDirectory⟩
  cases found with
  | none =>
      rw [show d.get? (d.placeOf (c.fileOf key)) = none from shows] at isDirectory
      cases isDirectory
  | some entry =>
      rw [(Disk.entry_eq_ok.1 shows).2] at isDirectory
      cases isDirectory

/-- On a disk without entries, a directory that can be made is in health. -/
theorem healthy_of_blank (apart : c.Apart d keys) (blank : d.entries = [])
    (made : d.makeDirectory c.root = .ok later)
    (ways : ∀ key, keys key → ∃ more, c.ways key = c.shardOf key :: c.root :: more)
    (valid : ∀ key, keys key → Disk.pathError? (c.fileOf key) = none) : c.Healthy d keys := by
  refine ⟨apart, fun key _ => ⟨none, c.shows_blank blank key⟩, fun key used => ?_⟩
  obtain ⟨more, way⟩ := ways key used
  refine ready_of_missing_root apart.named made way (valid key used) ?_
    (noDirectory_of_shows (c.shows_blank blank key)) (apart.ways key key used used)
  have below : (d.placeOf (c.shardOf key)).isEmpty = false := by
    rw [placeOf_shardOf apart.named]
    simp
  rw [Disk.get?, if_neg (by simp [below]), blank]
  rfl

/-- Health does not depend on the time. -/
theorem Healthy.at_time (healthy : c.Healthy d keys) (time : Instant) :
    c.Healthy { d with clock := time } keys := by
  refine ⟨healthy.apart.of_home rfl, fun key used => ?_, fun key used => healthy.ready key used⟩
  obtain ⟨found, shows⟩ := healthy.shows key used
  exact ⟨found, shows.frame rfl (fun _ there => there) rfl⟩

/-- Each key can be looked up. -/
theorem Healthy.lookup (healthy : c.Healthy d keys) (used : keys key) :
    ∃ found, c.lookup d key = .ok found := by
  obtain ⟨found, shows⟩ := healthy.shows key used
  cases found with
  | some entry => exact ⟨_, lookup_eq_some.2 shows⟩
  | none =>
      -- The file could be reached if its directory were made, so nothing worse than a missing
      -- directory lies on the way.
      obtain ⟨middle, built, located⟩ := (healthy.ready key used).reached
      have nothing : d.get? (d.placeOf (c.fileOf key)) = none := shows
      have missing := Disk.entry_missing_of_built built located nothing
      have unread := Disk.readText_of_missing missing
      refine ⟨none, ?_⟩
      unfold CacheDirectory.lookup
      rw [unread]

/-- Writing one file puts no file in the place of the directory of another one. -/
theorem free_of_write {other text file : String} (apart : c.Apart d keys) (used : keys key)
    (usedOther : keys other) (h : (c.write key text : StateM Disk _).run d = (.ok file, later))
    (free : ∀ text time, d.get? (d.placeOf (c.shardOf other)) ≠ some (.file text time)) :
    ∀ text time, later.get? (later.placeOf (c.shardOf other)) ≠ some (.file text time) := by
  intro text time isFile
  obtain ⟨middle, -, built, written⟩ := write_eq_ok h
  obtain ⟨changed, -⟩ := Disk.changedAt_of_writeText written
  rw [Disk.placeOf_of_home (changed.home.trans built.home)] at isFile
  have below : d.placeOf (c.shardOf other) ≠ [] := by
    rw [placeOf_shardOf apart.named]
    exact List.concat_ne_nil _ _
  have elsewhere := (apart.ways other key usedOther used _ List.mem_cons_self).symm
  rw [← Disk.placeOf_of_home built.home (c.fileOf key)] at elsewhere
  rw [changed.elsewhere _ below elsewhere] at isFile
  rcases built.new _ _ isFile with old | ⟨⟨_, isDirectory⟩, -⟩
  · exact free text time old
  · cases isDirectory

/-- A file that was written can be written again, and so can those of other keys. -/
theorem Healthy.write (healthy : c.Healthy d keys) (used : keys key) (text : String) :
    ∃ later, (c.write key text : StateM Disk _).run d = (.ok (c.fileOf key), later) ∧
      c.Healthy later keys := by
  have named := healthy.apart.named
  obtain ⟨later, h⟩ := (healthy.ready key used).write named text
  obtain ⟨home, own, others⟩ := c.write_shows healthy.apart used h
  have apart := healthy.apart.of_home home
  have shows (other : String) (usedOther : keys other) : ∃ found, c.Shows later other found := by
    by_cases same : other = key
    · subst same
      exact ⟨_, own⟩
    · obtain ⟨found, shows⟩ := healthy.shows other usedOther
      exact ⟨found, others other found usedOther same shows⟩
  refine ⟨later, h, apart, shows, fun other usedOther => ?_⟩
  -- The way to the file that was written leads through the directory of all files.
  have rooted := (shard_of_shows named own).1
  have ready := healthy.ready other usedOther
  obtain ⟨found, shown⟩ := shows other usedOther
  obtain ⟨_, -, located⟩ := ready.reached
  exact ready_of_root named rooted (Disk.valid_of_locate located)
    (free_of_write healthy.apart used usedOther h (ready.free named)) (noDirectory_of_shows shown)
    (apart.ways other other usedOther usedOther)

end CacheDirectory

namespace Cache

variable {c : Cache} {d : Disk} {keys : String → Prop} {key : String}

/-- Whether the directory of a cache, if it has one, is in health. -/
def Healthy (c : Cache) (d : Disk) (keys : String → Prop) : Prop :=
  ∀ directory, c.directory = some directory → directory.Healthy d keys

theorem find?_healthy (healthy : c.Healthy d keys) (used : keys key) :
    ∃ found after, (c.find? key : StateM Disk _).run d = ((.ok found, after), d) ∧
      after.directory = c.directory := by
  unfold find?
  split
  · exact ⟨_, c, rfl, rfl⟩
  · exact ⟨none, c, rfl, rfl⟩
  · next directory _ place =>
    obtain ⟨found, read⟩ := (healthy directory place).lookup used
    rw [promote_eq, read]
    cases found with
    | none => exact ⟨none, c, rfl, rfl⟩
    | some entry => exact ⟨_, c.hold key entry, rfl, rfl⟩

/-- Asking when a text was written leaves the disk as it is. -/
theorem writtenAt?_disk (c : Cache) (key : String) (d : Disk) :
    ((c.writtenAt? key : StateM Disk _).run d).2 = d := by
  unfold writtenAt?
  split <;> rfl

theorem insert_healthy (healthy : c.Healthy d keys) (used : keys key) (text : String) :
    ∃ after later, (c.insert key text : StateM Disk _).run d = ((.ok (), after), later) ∧
      after.directory = c.directory ∧ after.Healthy later keys := by
  have behind : ∃ time later, (c.writeBehind key text : StateM Disk _).run d = (.ok time, later) ∧
      c.Healthy later keys := by
    rw [writeBehind, Disk.run_bind (rfl : (Files.now : StateM Disk _).run d = (d.clock, d))]
    split
    · exact ⟨d.clock, d, rfl, healthy⟩
    · next directory place =>
      obtain ⟨later, written, kept⟩ := (healthy directory place).write used text
      rw [Disk.run_bind written]
      refine ⟨_, later, rfl, fun other found => ?_⟩
      rw [place] at found
      cases found
      exact kept
  obtain ⟨time, later, written, kept⟩ := behind
  refine ⟨c.hold key ⟨text, time⟩, later, ?_, rfl, kept⟩
  rw [insert, Disk.run_bind written]
  rfl

end Cache

end Stencil
