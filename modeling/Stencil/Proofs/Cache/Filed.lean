import Stencil.Proofs.Cache.Kept

/-!
# A directory as a map

The file of a key shows an entry, if it is in its place and can be reached, or nothing, if nothing is
in its place. What the operations on a directory answer, and what they leave behind, is told by what
the files show. They have an effect on the file of their key only, as long as no directory on the way
to it lies where the file of another key belongs.

1. `CacheDirectory.Shows`, `CacheDirectory.Apart`: what a file shows, and which files are apart.
2. `CacheDirectory.lookup_shows`, `CacheDirectory.run_contains`, `CacheDirectory.run_writtenAt?`:
   questions.
3. `CacheDirectory.write_shows`, `CacheDirectory.erase_shows`, `CacheDirectory.clear_shows`: changes.
-/

namespace Stencil

namespace CacheDirectory

variable {c : CacheDirectory} {d later : Disk} {key other : String} {found : Option CacheEntry}

/-- Whether the file of a key is as an entry says, or is missing. -/
def Shows (c : CacheDirectory) (d : Disk) (key : String) : Option CacheEntry → Prop
  | none => d.get? (d.placeOf (c.fileOf key)) = none
  | some entry => d.entry (c.fileOf key) =
      .ok (d.placeOf (c.fileOf key), .file (some entry.text) entry.written)

/-- Whether the files of some keys can be kept apart: they have places of their own, and no directory
on the way to one of them lies in the place of another. -/
structure Apart (c : CacheDirectory) (d : Disk) (keys : String → Prop) : Prop where
  named : c.root ≠ ""
  digests : ∀ a b, keys a → keys b → Digest.ofText a = Digest.ofText b → a = b
  ways : ∀ a b, keys a → keys b → ∀ path ∈ c.ways a,
    Disk.pathText (d.placeOf path) ≠ Disk.pathText (d.placeOf (c.fileOf b))

theorem Apart.of_home {keys : String → Prop} (apart : c.Apart d keys) (home : later.home = d.home) :
    c.Apart later keys := by
  refine ⟨apart.named, apart.digests, fun a b usedA usedB path way => ?_⟩
  rw [Disk.placeOf_of_home home, Disk.placeOf_of_home home]
  exact apart.ways a b usedA usedB path way

/-! ## Places -/

theorem place_ne_nil (c : CacheDirectory) (d : Disk) (key : String) :
    d.placeOf (c.fileOf key) ≠ [] := by
  obtain ⟨outer, place⟩ := c.placeOf_fileOf d key
  rw [place]
  exact List.concat_ne_nil _ _

/-- Nothing is shown where nothing is. -/
theorem shows_blank (c : CacheDirectory) (blank : d.entries = []) (key : String) :
    c.Shows d key none := by
  have place := c.place_ne_nil d key
  unfold Shows
  generalize d.placeOf (c.fileOf key) = path at place
  rw [Disk.get?, if_neg (by rwa [List.isEmpty_iff]), blank]
  rfl

/-- What a file shows does not change where nothing happens to its place or to directories. -/
theorem Shows.frame (shows : c.Shows d key found) (home : later.home = d.home)
    (directories : ∀ place, d.HasDirectory place → later.HasDirectory place)
    (same : later.get? (d.placeOf (c.fileOf key)) = d.get? (d.placeOf (c.fileOf key))) :
    c.Shows later key found := by
  cases found with
  | none =>
      rw [Shows, Disk.placeOf_of_home home, same]
      exact shows
  | some entry =>
      obtain ⟨located, there⟩ := Disk.entry_eq_ok.1 shows
      rw [Shows, Disk.placeOf_of_home home]
      exact Disk.entry_eq_ok.2 ⟨Disk.locate_mono home directories located, same.trans there⟩

/-! ## Questions -/

theorem missing_of_shows (shows : c.Shows d key none) (found : DiskPath × DiskEntry) :
    d.entry (c.fileOf key) ≠ .ok found := by
  intro there
  have same := Disk.place_of_entry there
  have present := (Disk.entry_eq_ok.1 there).2
  rw [same] at present
  exact Option.some_ne_none _ (present.symm.trans shows)

/-- What is found is what the file shows. -/
theorem lookup_shows (shows : c.Shows d key found) {result : Option CacheEntry}
    (h : c.lookup d key = .ok result) : result = found := by
  cases found with
  | none =>
      cases result with
      | none => rfl
      | some entry => exact absurd (lookup_eq_some.1 h) (missing_of_shows shows _)
  | some entry =>
      rw [lookup_eq_some.2 shows] at h
      exact (Except.ok.inj h).symm

theorem run_contains (shows : c.Shows d key found) :
    (c.contains key : StateM Disk Bool).run d = (found.isSome, d) := by
  show (d.isFile (c.fileOf key), d) = _
  unfold Disk.isFile
  cases found with
  | none =>
      have missing := missing_of_shows shows
      generalize d.entry (c.fileOf key) = result at missing
      cases result with
      | error cause => rfl
      | ok there => exact absurd rfl (missing there)
  | some entry =>
      rw [show d.entry (c.fileOf key) = _ from shows]
      rfl

theorem run_writtenAt? (shows : c.Shows d key found) :
    (c.writtenAt? key : StateM Disk _).run d = (found.map CacheEntry.written, d) := by
  show ((d.modified (c.fileOf key)).toOption, d) = _
  cases found with
  | none =>
      have missing := missing_of_shows shows
      unfold Disk.modified
      generalize d.entry (c.fileOf key) = result at missing
      cases result with
      | error cause => rfl
      | ok there => exact absurd rfl (missing there)
  | some entry =>
      rw [Disk.modified_of_entry shows]
      rfl

/-! ## Changes -/

section Changes

variable {keys : String → Prop}

/-- The files of other keys show what they did after a change in the place of one file. -/
theorem Shows.beside {middle : Disk} (apart : c.Apart d keys) (used : keys key)
    (usedOther : keys other) (differs : other ≠ key)
    (changed : Disk.ChangedAt (middle.placeOf (c.fileOf key)) middle later)
    (shows : c.Shows middle other found) : c.Shows later other found := by
  refine shows.frame changed.home changed.directories ?_
  refine changed.elsewhere _ (c.place_ne_nil middle other) fun same => ?_
  exact differs (apart.digests key other used usedOther (c.digest_eq_of_place middle same)).symm

/-- What is written is written into the directory of the file. -/
theorem write_eq_ok {text file : String}
    (h : (c.write key text : StateM Disk _).run d = (.ok file, later)) :
    ∃ middle, (c.prepare key : StateM Disk _).run d = (.ok (), middle) ∧
      Disk.Built (c.ways key) d middle ∧ middle.writeText (c.fileOf key) text = .ok later := by
  have ready := c.builds_prepare key d
  generalize prepared : (c.prepare key : StateM Disk _).run d = outcome at ready
  obtain ⟨result, middle⟩ := outcome
  rw [write, Disk.run_bind prepared] at h
  cases result with
  | error cause => cases h
  | ok _ =>
      dsimp only at ready h
      generalize outcome :
        (Files.writeText (c.fileOf key) text : StateM Disk _).run middle = done at h
      obtain ⟨result, final⟩ := done
      rw [Disk.run_bind outcome] at h
      cases result with
      | error cause => cases h
      | ok _ =>
          have same : final = later := congrArg Prod.snd h
          subst same
          exact ⟨middle, rfl, ready, Disk.run_writeText_eq_ok.1 outcome⟩

/-- A text that was written is shown with the present, and the files of other keys are as before. -/
theorem write_shows (apart : c.Apart d keys) (used : keys key) {text file : String}
    (h : (c.write key text : StateM Disk _).run d = (.ok file, later)) :
    later.home = d.home ∧ c.Shows later key (some ⟨text, d.clock⟩) ∧
      ∀ other found, keys other → other ≠ key → c.Shows d other found →
        c.Shows later other found := by
  obtain ⟨middle, -, ready, written⟩ := write_eq_ok h
  obtain ⟨changed, there⟩ := Disk.changedAt_of_writeText written
  have home := changed.home.trans ready.home
  refine ⟨home, ?_, fun other found usedOther differs shows => ?_⟩
  · rw [Shows, Disk.placeOf_of_home home, ← Disk.placeOf_of_home ready.home, ← ready.clock]
    exact there
  · refine Shows.beside apart used usedOther differs changed ?_
    exact shows.frame ready.home (fun _ => ready.hasDirectory)
      (ready.get?_eq (apart.ways key other used usedOther))

/-- A file that was erased is missing, and was not missing if it is said that there was one. -/
theorem erase_shows (apart : c.Apart d keys) (used : keys key) (shows : c.Shows d key found)
    {removed : Bool} (h : (c.erase key : StateM Disk _).run d = (.ok removed, later)) :
    later.home = d.home ∧ removed = found.isSome ∧ c.Shows later key none ∧
      ∀ other found, keys other → other ≠ key → c.Shows d other found →
        c.Shows later other found := by
  generalize outcome : (Files.removeFile (c.fileOf key) : StateM Disk _).run d = done
  obtain ⟨result, final⟩ := done
  rw [erase, Disk.run_bind outcome] at h
  cases result with
  | ok _ =>
      have isRemoved := Disk.change_eq_ok outcome
      obtain ⟨⟨text, time, there⟩, -⟩ := Disk.removeFile_eq_ok isRemoved
      obtain ⟨changed, gone⟩ := Disk.changedAt_of_removeFile isRemoved
      cases h
      refine ⟨changed.home, ?_, ?_, fun other found usedOther differs => ?_⟩
      · cases found with
        | none => exact absurd there (missing_of_shows shows _)
        | some entry => rfl
      · rw [Shows, Disk.placeOf_of_home changed.home]
        exact gone
      · exact Shows.beside apart used usedOther differs changed
  | error cause =>
      obtain ⟨failed, rfl⟩ := Disk.change_eq_error outcome
      cases found with
      | some entry =>
          rw [Disk.removeFile_of_entry shows] at failed
          cases failed
      | none =>
          cases cause <;> cases h
          exact ⟨rfl, rfl, shows, fun _ _ _ _ same => same⟩

/-- What a file shows lies in a directory that is named in the directory of all. -/
theorem shard_of_shows (named : c.root ≠ "") {entry : CacheEntry}
    (shows : c.Shows d key (some entry)) :
    d.directory c.root = .ok (d.placeOf c.root) ∧
      d.HasDirectory (d.placeOf c.root ++ [shardName key]) ∧
      d.placeOf (c.shardOf key) = d.placeOf c.root ++ [shardName key] ∧
      d.placeOf (c.fileOf key) = d.placeOf c.root ++ [shardName key] ++ [fileName key] := by
  have shard := placeOf_shardOf named d key
  have filled := shardOf_ne_empty named key
  have file : d.placeOf (c.fileOf key) = d.placeOf c.root ++ [shardName key] ++ [fileName key] := by
    rw [fileOf_eq, Disk.placeOf_join filled (noSlash_fileName key), follow_fileName, shard]
  obtain ⟨inShard, isShard, -⟩ :=
    Disk.locate_of_join filled (noSlash_fileName key) (Disk.entry_eq_ok.1 shows).1
  obtain ⟨inRoot, isRoot, -⟩ := Disk.locate_of_join named (noSlash_shardName key) inShard
  exact ⟨Disk.directory_eq_ok.2 ⟨inRoot, isRoot⟩, shard ▸ isShard, shard, file⟩

/-- After the directory was cleared, all files are missing. -/
theorem clear_shows (named : c.root ≠ "")
    (h : (c.clear : StateM Disk _).run d = (.ok (), later)) :
    later.home = d.home ∧ ∀ key found, c.Shows d key found → c.Shows later key none := by
  rw [clear, Disk.run_bind (rfl : (Files.namesIn c.root : StateM Disk _).run d =
    (d.namesIn c.root, d))] at h
  cases listed : d.namesIn c.root with
  | ok names =>
      rw [listed] at h
      have removed : (Files.removeEach (names.map (Files.join c.root)) : StateM Disk _).run d =
        (.ok (), later) := h
      have shrunk := Disk.shrunk_removeEach (names.map (Files.join c.root)) d
      rw [removed] at shrunk
      refine ⟨shrunk.home, fun key found shows => ?_⟩
      rw [Shows, Disk.placeOf_of_home shrunk.home]
      cases found with
      | none => exact shrunk.none shows
      | some entry =>
          obtain ⟨-, isShard, shard, file⟩ := shard_of_shows named shows
          have member : shardName key ∈ names :=
            Disk.mem_namesIn listed (noSlash_shardName key) isShard.choose_spec
          have among : c.shardOf key ∈ names.map (Files.join c.root) := List.mem_map_of_mem member
          refine Disk.gone_of_removeEach removed among (shard ▸ isShard) (c.place_ne_nil d key) ?_
          rw [file, shard, Disk.pathText_inside]
          exact List.prefix_append _ _
  | error cause =>
      rw [listed] at h
      cases cause <;> cases h
      refine ⟨rfl, fun key found shows => ?_⟩
      cases found with
      | none => exact shows
      | some entry =>
          obtain ⟨isRoot, -⟩ := shard_of_shows named shows
          rw [Disk.namesIn, isRoot] at listed
          cases listed

end Changes

end CacheDirectory

end Stencil
