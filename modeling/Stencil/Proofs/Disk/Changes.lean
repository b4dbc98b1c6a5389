import Stencil.Proofs.Disk.Paths

/-!
# What changes on a disk

Making directories leaves all that is there as it is and adds directories at the places that were
asked for. Removing takes away and adds nothing. What is neither added nor taken away can be reached
as before.

1. `Disk.readText_eq_ok`, `Disk.writeText_eq_ok`: one file.
2. `Disk.builds_createDirectories`: making directories.
3. `Disk.removeFile_eq_ok`, `Disk.removeDirectory_eq_ok`: removing.
4. `Disk.gone_of_removeEach`: removing one thing after the other.
5. `Disk.mem_namesIn`: what lies in a directory is listed.
-/

namespace Stencil

theorem Table.get?_filter {α : Type} (t : Table α) (keeps : String → Bool) (key : String) :
    Table.get? (t.filter fun entry => keeps entry.1) key =
      if keeps key then t.get? key else none := by
  induction t with
  | nil => simp [get?]
  | cons entry rest ih =>
      obtain ⟨name, held⟩ := entry
      by_cases same : name = key
      · subst same
        by_cases kept : keeps name = true
        · simp [kept, get?]
        · simp [kept, ih]
      · by_cases kept : keeps name = true
        · simp [kept, get?, same, ih]
        · simp [kept, get?, same, ih]

namespace Disk

theorem run_bind {α β : Type} {work : StateM Disk α} {next : α → StateM Disk β} {d later : Disk}
    {a : α} (h : work.run d = (a, later)) : (work >>= next).run d = (next a).run later := by
  rw [StateT.run_bind, h]
  rfl

theorem run_readText (d : Disk) (path : String) :
    (Files.readText path : StateM Disk _).run d = (d.readText path, d) := rfl

theorem run_modified (d : Disk) (path : String) :
    (Files.modified path : StateM Disk _).run d = (d.modified path, d) := rfl

theorem ne_nil_of_get?_none {d : Disk} {place : DiskPath} (nothing : d.get? place = none) :
    place ≠ [] := by
  rintro rfl
  cases nothing

/-- Paths that are written alike have the same entry. -/
theorem get?_of_pathText {d : Disk} {place other : DiskPath}
    (same : pathText place = pathText other) (inner : place ≠ []) (inner' : other ≠ []) :
    d.get? place = d.get? other := by
  simp [get?, same, inner, inner']

theorem get?_remove (d : Disk) (path other : DiskPath) (h : other ≠ []) :
    (d.remove path).get? other = if pathText path = pathText other then none else d.get? other := by
  simp [get?, remove, Table.get?_erase, h]

theorem entry_eq_ok {d : Disk} {path : String} {place : DiskPath} {entry : DiskEntry} :
    d.entry path = .ok (place, entry) ↔ d.locate path = .ok place ∧ d.get? place = some entry := by
  unfold Disk.entry
  rw [bind_eq_ok]
  constructor
  · rintro ⟨found, located, there⟩
    split at there
    · next isThere =>
      cases there
      exact ⟨located, isThere⟩
    · cases there
  · rintro ⟨located, there⟩
    exact ⟨place, located, by rw [there]⟩

theorem place_of_entry {d : Disk} {path : String} {place : DiskPath} {entry : DiskEntry}
    (h : d.entry path = .ok (place, entry)) : place = d.placeOf path :=
  locate_eq (entry_eq_ok.1 h).1

theorem change_eq_ok {f : Disk → Except FileError Disk} {d later : Disk}
    (h : (change f).run d = (.ok (), later)) : f d = .ok later := by
  change change f d = _ at h
  unfold change at h
  split at h
  · next changed made =>
    cases h
    exact made
  · cases h

theorem change_eq_error {f : Disk → Except FileError Disk} {d later : Disk} {cause : FileError}
    (h : (change f).run d = (.error cause, later)) : f d = .error cause ∧ later = d := by
  change change f d = _ at h
  unfold change at h
  split at h
  · cases h
  · next failed =>
    cases h
    exact ⟨failed, rfl⟩

/-! ## Reading and writing a file -/

theorem readText_eq_ok {d : Disk} {path text : String} :
    d.readText path = .ok text ↔
      ∃ place changed, d.entry path = .ok (place, .file (some text) changed) := by
  unfold readText
  rw [bind_eq_ok]
  constructor
  · rintro ⟨⟨place, entry⟩, there, isText⟩
    cases entry with
    | directory changed => cases isText
    | file content changed =>
        cases content with
        | none => cases isText
        | some content =>
            cases isText
            exact ⟨place, changed, there⟩
  · rintro ⟨place, changed, there⟩
    exact ⟨_, there, rfl⟩

theorem readText_of_missing {d : Disk} {path : String} (h : d.entry path = .error .missing) :
    d.readText path = .error .missing := by
  rw [readText, h]
  rfl

theorem writeText_eq_ok {d later : Disk} {path text : String}
    (h : d.writeText path text = .ok later) :
    d.locate path = .ok (d.placeOf path) ∧ ¬d.HasDirectory (d.placeOf path) ∧
      later = d.put (d.placeOf path) (.file (some text) d.clock) := by
  unfold writeText at h
  split at h
  · cases h
  · obtain ⟨place, located, put⟩ := bind_eq_ok.1 h
    have same := locate_eq located
    subst same
    split at put
    · cases put
    · next noDirectory =>
      refine ⟨located, ?_, (Except.ok.inj put).symm⟩
      rintro ⟨changed, there⟩
      exact noDirectory changed there

theorem modified_of_entry {d : Disk} {path : String} {place : DiskPath} {text : Option String}
    {changed : Instant} (h : d.entry path = .ok (place, .file text changed)) :
    d.modified path = .ok changed := by
  rw [modified, h]
  rfl

/-- Whether a disk becomes another one by a change at one place, and keeps its directories. -/
structure ChangedAt (place : DiskPath) (d later : Disk) : Prop where
  home : later.home = d.home
  directories : ∀ p, d.HasDirectory p → later.HasDirectory p
  elsewhere : ∀ p, p ≠ [] → pathText place ≠ pathText p → later.get? p = d.get? p

/-- If there was no directory, none is lost. -/
theorem changedAt_of_noDirectory {d later : Disk} {place : DiskPath} (home : later.home = d.home)
    (noDirectory : ¬d.HasDirectory place)
    (elsewhere : ∀ p, p ≠ [] → pathText place ≠ pathText p → later.get? p = d.get? p) :
    ChangedAt place d later := by
  refine ⟨home, fun p there => ?_, elsewhere⟩
  by_cases root : p = []
  · exact root ▸ ⟨0, rfl⟩
  · have inner : place ≠ [] := fun nil => noDirectory (nil ▸ ⟨0, rfl⟩)
    have apart : pathText place ≠ pathText p := by
      intro same
      rw [HasDirectory, ← get?_of_pathText same inner root] at there
      exact noDirectory there
    rw [HasDirectory, elsewhere p root apart]
    exact there

/-- A file that was written is there, and that is all that has changed. -/
theorem changedAt_of_writeText {d later : Disk} {path text : String}
    (h : d.writeText path text = .ok later) :
    ChangedAt (d.placeOf path) d later ∧
      later.entry path = .ok (d.placeOf path, .file (some text) d.clock) := by
  obtain ⟨located, noDirectory, put⟩ := writeText_eq_ok h
  have inner : d.placeOf path ≠ [] := fun root => noDirectory (root ▸ ⟨0, rfl⟩)
  have home : later.home = d.home := put ▸ rfl
  have changed : ChangedAt (d.placeOf path) d later := by
    refine changedAt_of_noDirectory home noDirectory fun p below apart => ?_
    rw [put, get?_put d _ p _ below, if_neg apart]
  refine ⟨changed, entry_eq_ok.2 ⟨locate_mono home changed.directories located, ?_⟩⟩
  rw [put, get?_put d _ _ _ inner, if_pos rfl]

/-- A file can be written in a place that can be reached and where no directory is. -/
theorem writeText_of_located {d : Disk} {path : String} {place : DiskPath}
    (noSlash : endsInSlash path = false) (located : d.locate path = .ok place)
    (noDirectory : ¬d.HasDirectory place) (text : String) :
    d.writeText path text = .ok (d.put place (.file (some text) d.clock)) := by
  rw [writeText, if_neg (by simp [noSlash]), located]
  dsimp only [bind, Except.bind]
  split
  · next changed found => exact absurd ⟨changed, found⟩ noDirectory
  · rfl

theorem run_change_eq_ok {f : Disk → Except FileError Disk} {d later : Disk} :
    (change f).run d = (.ok (), later) ↔ f d = .ok later := by
  refine ⟨change_eq_ok, fun h => ?_⟩
  show change f d = _
  rw [change, h]

theorem run_writeText_eq_ok {d later : Disk} {path text : String} :
    (Files.writeText path text : StateM Disk _).run d = (.ok (), later) ↔
      d.writeText path text = .ok later :=
  run_change_eq_ok

/-! ## Making directories -/

/-- Whether a disk becomes another one by making directories at the places of some paths. -/
structure Built (paths : List String) (d later : Disk) : Prop where
  home : later.home = d.home
  clock : later.clock = d.clock
  kept : ∀ place entry, d.get? place = some entry → later.get? place = some entry
  new : ∀ place entry, later.get? place = some entry → d.get? place = some entry ∨
    (∃ changed, entry = .directory changed) ∧
      ∃ path ∈ paths, pathText (d.placeOf path) = pathText place

theorem Built.refl (paths : List String) (d : Disk) : Built paths d d :=
  ⟨rfl, rfl, fun _ _ h => h, fun _ _ h => .inl h⟩

theorem Built.trans {paths : List String} {d middle later : Disk} (first : Built paths d middle)
    (second : Built paths middle later) : Built paths d later := by
  refine ⟨second.home.trans first.home, second.clock.trans first.clock,
    fun place entry h => second.kept place entry (first.kept place entry h),
    fun place entry h => ?_⟩
  rcases second.new place entry h with old | ⟨made, path, member, same⟩
  · exact first.new place entry old
  · rw [placeOf_of_home first.home] at same
    exact .inr ⟨made, path, member, same⟩

/-- What lies at none of those places is as before. -/
theorem Built.get?_eq {paths : List String} {d later : Disk} (built : Built paths d later)
    {place : DiskPath} (aside : ∀ path ∈ paths, pathText (d.placeOf path) ≠ pathText place) :
    later.get? place = d.get? place := by
  cases there : later.get? place with
  | some entry =>
      rcases built.new place entry there with old | ⟨-, path, member, same⟩
      · exact old.symm
      · exact absurd same (aside path member)
  | none =>
      cases before : d.get? place with
      | none => rfl
      | some entry =>
          rw [built.kept place entry before] at there
          cases there

theorem Built.hasDirectory {paths : List String} {d later : Disk} (built : Built paths d later)
    {place : DiskPath} (h : d.HasDirectory place) : later.HasDirectory place :=
  ⟨h.choose, built.kept place _ h.choose_spec⟩

/-- Whether work on a disk does nothing but make directories at the places of some paths. -/
def Builds {α : Type} (paths : List String) (work : StateM Disk α) : Prop :=
  ∀ d, Built paths d (work.run d).2

section Builds

variable {α β : Type} {paths : List String}

theorem builds_pure (a : α) : Builds paths (pure a) := Built.refl paths

theorem builds_isDirectory (path : String) :
    Builds paths (Files.isDirectory path : StateM Disk Bool) := Built.refl paths

theorem builds_isFile (path : String) : Builds paths (Files.isFile path : StateM Disk Bool) :=
  Built.refl paths

theorem Builds.bind {work : StateM Disk α} {next : α → StateM Disk β} (first : Builds paths work)
    (second : ∀ a, Builds paths (next a)) : Builds paths (work >>= next) :=
  fun d => (first d).trans (second (work.run d).1 (work.run d).2)

theorem Builds.mono {more : List String} {work : StateM Disk α} (builds : Builds paths work)
    (subset : paths ⊆ more) : Builds more work := by
  intro d
  obtain ⟨home, clock, kept, new⟩ := builds d
  refine ⟨home, clock, kept, fun place entry h => ?_⟩
  rcases new place entry h with old | ⟨made, path, member, same⟩
  · exact .inl old
  · exact .inr ⟨made, path, subset member, same⟩

theorem makeDirectory_eq_ok {d changed : Disk} {path : String} :
    d.makeDirectory path = .ok changed ↔ pathError? path = none ∧
      d.walk (d.origin path) (Files.names path) = .ok (d.placeOf path) ∧
      d.get? (d.placeOf path) = none ∧ changed = d.put (d.placeOf path) (.directory d.clock) := by
  unfold makeDirectory
  constructor
  · intro h
    split at h
    · cases h
    · next valid =>
      obtain ⟨place, walked, made⟩ := bind_eq_ok.1 h
      have same : place = d.placeOf path := (walk_eq walked).trans (foldl_names _ path)
      subst same
      split at made
      · cases made
      · next nothing => exact ⟨valid, walked, nothing, (Except.ok.inj made).symm⟩
  · rintro ⟨valid, walked, nothing, rfl⟩
    rw [valid]
    dsimp only
    rw [walked]
    dsimp only [bind, Except.bind]
    rw [nothing]

theorem built_put {d : Disk} {path : String} (nothing : d.get? (d.placeOf path) = none) :
    Built [path] d (d.put (d.placeOf path) (.directory d.clock)) := by
  refine ⟨rfl, rfl, fun place entry h => ?_, fun place entry h => ?_⟩
  · by_cases root : place = []
    · subst root
      exact h
    · have other : pathText (d.placeOf path) ≠ pathText place := by
        intro same
        rw [get?_of_pathText same (ne_nil_of_get?_none nothing) root, h] at nothing
        cases nothing
      rw [get?_put d _ place _ root, if_neg other]
      exact h
  · by_cases root : place = []
    · subst root
      exact .inl h
    · rw [get?_put d _ place _ root] at h
      split at h
      · next same =>
        exact .inr ⟨⟨_, (Option.some.inj h).symm⟩, path, List.mem_singleton_self path, same⟩
      · exact .inl h

/-- Whether a directory can be made does not depend on the time. -/
theorem makeDirectory_at_time {d changed : Disk} {path : String}
    (h : d.makeDirectory path = .ok changed) (time : Instant) :
    ∃ later, Disk.makeDirectory { d with clock := time } path = .ok later := by
  obtain ⟨valid, walked, nothing, -⟩ := makeDirectory_eq_ok.1 h
  have same : Disk.walk { d with clock := time } (d.origin path) (Files.names path) =
      .ok (d.placeOf path) := by
    refine walk_mono (d := d) (fun place isThere => ?_) walked
    exact isThere
  exact ⟨_, makeDirectory_eq_ok.2 ⟨valid, same, nothing, rfl⟩⟩

theorem run_makeDirectory_eq_ok {d later : Disk} {path : String} :
    (Files.makeDirectory path : StateM Disk _).run d = (.ok (), later) ↔
      d.makeDirectory path = .ok later :=
  run_change_eq_ok

theorem run_makeDirectory_error {d : Disk} {path : String} {cause : FileError}
    (h : d.makeDirectory path = .error cause) :
    (Files.makeDirectory path : StateM Disk _).run d = (.error cause, d) := by
  show change (fun d => d.makeDirectory path) d = _
  rw [change, h]

/-- A directory can be made in one that can be reached, where nothing is yet. -/
theorem makeDirectory_join {d : Disk} {directory name : String} (there : directory ≠ "")
    (noSlash : '/' ∉ name.toList) (full : name ≠ "")
    (valid : pathError? (Files.join directory name) = none)
    (located : d.locate directory = .ok (d.placeOf directory))
    (isDirectory : d.HasDirectory (d.placeOf directory)) (short : name.utf8ByteSize ≤ 255)
    (nothing : d.get? (d.placeOf (Files.join directory name)) = none) :
    d.makeDirectory (Files.join directory name) =
      .ok (d.put (d.placeOf (Files.join directory name)) (.directory d.clock)) := by
  refine makeDirectory_eq_ok.2 ⟨valid, ?_, nothing, rfl⟩
  rw [locate, pathError?_of_join there noSlash valid] at located
  have walked : d.walk (d.origin directory) (Files.names directory) = .ok (d.placeOf directory) :=
    walk_filled located
  rw [origin_join there noSlash, names_join there noSlash full, walk_append, walked,
    placeOf_join there noSlash]
  show d.walk (d.placeOf directory) [name] = _
  rw [walk, checkStep_eq_ok.2 ⟨isDirectory, short⟩]
  rfl

/-- Nothing can be made in a directory that is missing. -/
theorem makeDirectory_missing {d : Disk} {directory name : String} (there : directory ≠ "")
    (noSlash : '/' ∉ name.toList) (full : name ≠ "")
    (valid : pathError? (Files.join directory name) = none)
    (walked : d.walk (d.origin directory) (Files.names directory) = .ok (d.placeOf directory))
    (nothing : d.get? (d.placeOf directory) = none) :
    d.makeDirectory (Files.join directory name) = .error .missing := by
  have step : d.checkStep (d.placeOf directory) name = .error .missing := by
    rw [checkStep, nothing]
  have stops : d.walk (d.placeOf directory) [name] = .error .missing := by
    rw [walk, step]
    rfl
  rw [makeDirectory, valid]
  dsimp only
  rw [origin_join there noSlash, names_join there noSlash full, walk_append, walked]
  dsimp only [Except.bind]
  rw [stops]
  rfl

/-- A directory that was made can be reached. -/
theorem directory_of_made {d changed : Disk} {path : String}
    (h : d.makeDirectory path = .ok changed) :
    changed.locate path = .ok (d.placeOf path) ∧ changed.HasDirectory (d.placeOf path) := by
  obtain ⟨valid, walked, nothing, rfl⟩ := makeDirectory_eq_ok.1 h
  have built := built_put nothing
  have isThere : (d.put (d.placeOf path) (.directory d.clock)).HasDirectory (d.placeOf path) :=
    ⟨d.clock, by rw [get?_put _ _ _ _ (ne_nil_of_get?_none nothing), if_pos rfl]⟩
  refine ⟨?_, isThere⟩
  rw [locate, valid]
  exact walk_unfilled (walk_mono (fun _ => built.hasDirectory) walked) isThere

/-- What can be followed once directories were made can be followed before, up to where something is
missing. -/
theorem walk_of_built {paths : List String} {d later : Disk} (built : Built paths d later)
    {place found : DiskPath} {parts : List String} (h : later.walk place parts = .ok found) :
    d.walk place parts = .ok found ∨ d.walk place parts = .error .missing := by
  induction parts generalizing place with
  | nil => exact .inl h
  | cons part rest ih =>
      rw [walk] at h
      obtain ⟨_, step, further⟩ := bind_eq_ok.1 h
      obtain ⟨⟨changed, isDirectory⟩, short⟩ := checkStep_eq_ok.1 step
      rw [walk]
      cases there : d.get? place with
      | none =>
          right
          rw [checkStep, there]
          rfl
      | some entry =>
          have same := built.kept place entry there
          rw [isDirectory] at same
          cases same
          rw [checkStep_eq_ok.2 ⟨⟨changed, there⟩, short⟩]
          exact ih further

/-- If a path can be followed once directories were made and nothing is at its place, what it leads
to is missing. -/
theorem entry_missing_of_built {paths : List String} {d later : Disk} (built : Built paths d later)
    {path : String} (located : later.locate path = .ok (d.placeOf path))
    (nothing : d.get? (d.placeOf path) = none) : d.entry path = .error .missing := by
  rw [entry]
  unfold locate at located ⊢
  split at located
  · cases located
  · rw [origin, built.home, ← origin] at located
    rcases walk_of_built built located with reached | failed
    · rw [reached]
      dsimp only [bind, Except.bind]
      rw [nothing]
    · rw [failed]
      rfl

theorem builds_makeDirectory (path : String) :
    Builds [path] (Files.makeDirectory path : StateM Disk (Except FileError Unit)) := by
  intro d
  show Built [path] d (change (fun d => d.makeDirectory path) d).2
  unfold change
  split
  · next changed made =>
    obtain ⟨-, -, nothing, rfl⟩ := makeDirectory_eq_ok.1 made
    exact built_put nothing
  · exact Built.refl [path] d

theorem builds_ensureDirectory (path : String) :
    Builds [path] (Files.ensureDirectory path : StateM Disk (Except FileError Unit)) := by
  refine (builds_makeDirectory path).bind fun result => ?_
  split
  · exact (builds_isDirectory path).bind fun there => builds_pure _
  · exact builds_pure _

theorem builds_ensureNested (paths : List String) :
    Builds paths (Files.ensureNested paths : StateM Disk (Except FileError Unit)) := by
  induction paths with
  | nil => exact builds_pure _
  | cons path outer ih =>
      have first := (builds_ensureDirectory path).mono (List.cons_subset_cons path (List.nil_subset outer))
      refine Builds.bind (first : Builds (path :: outer) _) fun result => ?_
      split
      · refine Builds.bind (ih.mono (List.subset_cons_self path outer)) fun made => ?_
        split
        · exact first
        · exact builds_pure _
      · exact builds_pure _

theorem builds_createDirectories (path : String) :
    Builds (path :: Files.outward path)
      (Files.createDirectories path : StateM Disk (Except FileError Unit)) := by
  unfold Files.createDirectories
  split
  · exact builds_pure _
  · exact builds_ensureNested _

end Builds

/-! ## Removing -/

/-- Whether a disk becomes another one by losing some of its entries. -/
structure Shrunk (d later : Disk) : Prop where
  home : later.home = d.home
  clock : later.clock = d.clock
  left : ∀ place entry, later.get? place = some entry → d.get? place = some entry

theorem Shrunk.refl (d : Disk) : Shrunk d d := ⟨rfl, rfl, fun _ _ h => h⟩

theorem Shrunk.trans {d middle later : Disk} (first : Shrunk d middle)
    (second : Shrunk middle later) : Shrunk d later :=
  ⟨second.home.trans first.home, second.clock.trans first.clock,
    fun place entry h => first.left place entry (second.left place entry h)⟩

theorem Shrunk.none {d later : Disk} (shrunk : Shrunk d later) {place : DiskPath}
    (h : d.get? place = none) : later.get? place = none := by
  cases there : later.get? place with
  | none => rfl
  | some entry =>
      rw [shrunk.left place entry there] at h
      cases h

/-- The root cannot be lost. -/
theorem shrunk_of_lost {d later : Disk} (home : later.home = d.home) (clock : later.clock = d.clock)
    (lost : ∀ place, place ≠ [] → later.get? place = none ∨ later.get? place = d.get? place) :
    Shrunk d later := by
  refine ⟨home, clock, fun place entry h => ?_⟩
  by_cases root : place = []
  · subst root
    exact h
  · rcases lost place root with gone | same
    · rw [gone] at h
      cases h
    · rw [← same]
      exact h

theorem shrunk_remove (d : Disk) (path : DiskPath) : Shrunk d (d.remove path) := by
  refine shrunk_of_lost rfl rfl fun place inner => ?_
  rw [get?_remove d path place inner]
  split
  · exact .inl rfl
  · exact .inr rfl

theorem removeFile_eq_ok {d later : Disk} {path : String} (h : d.removeFile path = .ok later) :
    (∃ text changed, d.entry path = .ok (d.placeOf path, .file text changed)) ∧
      later = d.remove (d.placeOf path) := by
  obtain ⟨⟨place, entry⟩, there, removed⟩ := bind_eq_ok.1 h
  have same := place_of_entry there
  subst same
  cases entry with
  | directory changed => cases removed
  | file text changed => exact ⟨⟨text, changed, there⟩, (Except.ok.inj removed).symm⟩

theorem removeFile_of_entry {d : Disk} {path : String} {place : DiskPath} {text : Option String}
    {changed : Instant} (h : d.entry path = .ok (place, .file text changed)) :
    d.removeFile path = .ok (d.remove place) := by
  rw [removeFile, h]
  rfl

/-- A file that was removed is gone, and that is all that has changed. -/
theorem changedAt_of_removeFile {d later : Disk} {path : String}
    (h : d.removeFile path = .ok later) :
    ChangedAt (d.placeOf path) d later ∧ later.get? (d.placeOf path) = none := by
  obtain ⟨⟨text, time, there⟩, removed⟩ := removeFile_eq_ok h
  have isFile := (entry_eq_ok.1 there).2
  have noDirectory : ¬d.HasDirectory (d.placeOf path) := by
    rintro ⟨changed, isDirectory⟩
    rw [isDirectory] at isFile
    cases isFile
  have inner : d.placeOf path ≠ [] := fun root => noDirectory (root ▸ ⟨0, rfl⟩)
  refine ⟨changedAt_of_noDirectory (removed ▸ rfl) noDirectory fun p below apart => ?_, ?_⟩
  · rw [removed, get?_remove d _ p below, if_neg apart]
  · rw [removed, get?_remove d _ _ inner, if_pos rfl]

theorem directory_eq_ok {d : Disk} {path : String} {place : DiskPath} :
    d.directory path = .ok place ↔ d.locate path = .ok place ∧ d.HasDirectory place := by
  unfold directory
  rw [bind_eq_ok]
  constructor
  · rintro ⟨⟨found, entry⟩, there, isPlace⟩
    obtain ⟨located, present⟩ := entry_eq_ok.1 there
    cases entry with
    | file text changed => cases isPlace
    | directory changed =>
        cases isPlace
        exact ⟨located, changed, present⟩
  · rintro ⟨located, changed, present⟩
    exact ⟨(place, .directory changed), entry_eq_ok.2 ⟨located, present⟩, rfl⟩

theorem directory_at_time {d : Disk} {path : String} {place : DiskPath}
    (h : d.directory path = .ok place) (time : Instant) :
    Disk.directory { d with clock := time } path = .ok place := by
  obtain ⟨located, isDirectory⟩ := directory_eq_ok.1 h
  have same : Disk.locate { d with clock := time } path = .ok place := by
    refine locate_mono (d := d) ?_ (fun place isThere => ?_) located
    · rfl
    · exact isThere
  exact directory_eq_ok.2 ⟨same, isDirectory⟩

/-- The entries outside of a directory. -/
theorem get?_outside (d : Disk) (place other : DiskPath) (h : other ≠ []) :
    get? { d with entries := d.entries.filter fun entry =>
        !(start place).isPrefixOf entry.1.toList } other =
      if start place <+: (pathText other).toList then none else d.get? other := by
  have filtered := Table.get?_filter d.entries (fun key => !(start place).isPrefixOf key.toList)
    (pathText other)
  simp only [get?, List.isEmpty_iff, h, if_false, filtered]
  by_cases inside : start place <+: (pathText other).toList
  · simp [List.isPrefixOf_iff_prefix.2 inside, inside]
  · have outside : (start place).isPrefixOf (pathText other).toList = false := by
      rw [← Bool.not_eq_true, List.isPrefixOf_iff_prefix]
      exact inside
    simp [outside, inside]

/-- Nothing is left of what lies in a directory that is removed, and nothing is added. -/
theorem removeDirectory_eq_ok {d later : Disk} {path : String}
    (h : d.removeDirectory path = .ok later) :
    Shrunk d later ∧ ∀ place, place ≠ [] → start (d.placeOf path) <+: (pathText place).toList →
      later.get? place = none := by
  obtain ⟨place, isDirectory, removed⟩ := bind_eq_ok.1 h
  have same := locate_eq (directory_eq_ok.1 isDirectory).1
  subst same
  cases removed
  have outside : Shrunk d { d with entries := d.entries.filter fun entry =>
      !(start (d.placeOf path)).isPrefixOf entry.1.toList } := by
    refine shrunk_of_lost rfl rfl fun place inner => ?_
    rw [get?_outside d _ place inner]
    split
    · exact .inl rfl
    · exact .inr rfl
  refine ⟨outside.trans (shrunk_remove _ _), fun place inner inside => ?_⟩
  refine (shrunk_remove _ _).none ?_
  rw [get?_outside d _ place inner, if_pos inside]

/-! ## Removing one thing after the other -/

/-- Removing something either fails and changes nothing, or takes away a directory or a file. -/
theorem run_remove (d : Disk) (path : String) :
    (Files.remove path : StateM Disk _).run d =
      if d.isDirectory path then (change fun d => d.removeDirectory path).run d
      else (change fun d => d.removeFile path).run d := by
  show (if d.isDirectory path then _ else _ : StateM Disk (Except FileError Unit)).run d = _
  split <;> rfl

theorem shrunk_run_remove (path : String) (d : Disk) :
    Shrunk d ((Files.remove path : StateM Disk (Except FileError Unit)).run d).2 := by
  rw [run_remove]
  split
  · show Shrunk d (change (fun d => d.removeDirectory path) d).2
    unfold change
    split
    · next changed removed => exact (removeDirectory_eq_ok removed).1
    · exact Shrunk.refl d
  · show Shrunk d (change (fun d => d.removeFile path) d).2
    unfold change
    split
    · next changed removed =>
      rw [(removeFile_eq_ok removed).2]
      exact shrunk_remove d _
    · exact Shrunk.refl d

theorem shrunk_removeEach (paths : List String) (d : Disk) :
    Shrunk d ((Files.removeEach paths : StateM Disk (Except FileError Unit)).run d).2 := by
  induction paths generalizing d with
  | nil => exact Shrunk.refl d
  | cons path rest ih =>
      have first := shrunk_run_remove path d
      generalize outcome : (Files.remove path : StateM Disk _).run d = removed at first
      obtain ⟨result, later⟩ := removed
      rw [Files.removeEach, run_bind outcome]
      cases result with
      | error cause => exact first
      | ok _ => exact first.trans (ih later)

/-- If a row of things is removed without failure, each of them is removed at some moment. -/
theorem removed_of_removeEach {paths : List String} {d later : Disk}
    (h : (Files.removeEach paths : StateM Disk _).run d = (.ok (), later)) {path : String}
    (member : path ∈ paths) :
    ∃ before after, Shrunk d before ∧
      (Files.remove path : StateM Disk _).run before = (.ok (), after) ∧ Shrunk after later := by
  induction paths generalizing d with
  | nil => cases member
  | cons head rest ih =>
      have first := shrunk_run_remove head d
      generalize outcome : (Files.remove head : StateM Disk _).run d = removed at first
      obtain ⟨result, middle⟩ := removed
      rw [Files.removeEach, run_bind outcome] at h
      cases result with
      | error cause => cases h
      | ok _ =>
          rcases List.mem_cons.1 member with rfl | further
          · have others := shrunk_removeEach rest middle
            rw [show (Files.removeEach rest : StateM Disk _).run middle = _ from h] at others
            exact ⟨d, middle, .refl d, outcome, others⟩
          · obtain ⟨before, after, shrunk, removed, others⟩ := ih h further
            exact ⟨before, after, first.trans shrunk, removed, others⟩

/-- If a row of things is removed without failure, nothing is left of a directory among them. -/
theorem gone_of_removeEach {paths : List String} {d later : Disk}
    (h : (Files.removeEach paths : StateM Disk _).run d = (.ok (), later)) {path : String}
    (member : path ∈ paths) (isDirectory : d.HasDirectory (d.placeOf path)) {place : DiskPath}
    (inner : place ≠ []) (inside : start (d.placeOf path) <+: (pathText place).toList) :
    later.get? place = none := by
  obtain ⟨before, after, shrunk, removed, others⟩ := removed_of_removeEach h member
  rw [run_remove] at removed
  refine others.none ?_
  rw [← placeOf_of_home shrunk.home] at inside
  split at removed
  · exact (removeDirectory_eq_ok (change_eq_ok removed)).2 place inner inside
  · -- A directory does not become a file while others are removed.
    obtain ⟨⟨text, changed, there⟩, -⟩ := removeFile_eq_ok (change_eq_ok removed)
    have isFile := shrunk.left _ _ (entry_eq_ok.1 there).2
    rw [placeOf_of_home shrunk.home] at isFile
    obtain ⟨time, found⟩ := isDirectory
    rw [found] at isFile
    cases isFile

/-! ## What lies in a directory -/

theorem pathText_inside (place : DiskPath) (name : String) :
    (pathText (place ++ [name])).toList = start place ++ name.toList := by
  unfold start
  by_cases root : place = []
  · subst root
    simp [pathText]
  · rw [if_neg (by simpa using root), pathText, pathText,
      String.intercalate_append_of_ne_nil root (List.cons_ne_nil _ _)]
    simp

theorem pathText_ne_inside (place : DiskPath) {name : String} (full : name ≠ "") :
    pathText place ≠ pathText (place ++ [name]) := by
  intro same
  have longer := congrArg (fun text => text.toList.length) same
  have there : 0 < name.toList.length := by
    rw [List.length_pos_iff]
    simpa using full
  rw [pathText_inside, List.length_append, start] at longer
  split at longer
  · next root =>
    have short : (pathText []).toList.length = 1 := by decide
    rw [List.isEmpty_iff.1 root, short, List.length_singleton] at longer
    omega
  · simp at longer
    omega

/-- What lies directly in a directory is among its names. -/
theorem mem_namesIn {d : Disk} {path name : String} {names : List String}
    (h : d.namesIn path = .ok names) (noSlash : '/' ∉ name.toList) {entry : DiskEntry}
    (there : d.get? (d.placeOf path ++ [name]) = some entry) : name ∈ names := by
  obtain ⟨place, isDirectory, listed⟩ := bind_eq_ok.1 h
  have same := locate_eq (directory_eq_ok.1 isDirectory).1
  subst same
  cases listed
  have inner : (d.placeOf path ++ [name]).isEmpty = false := by simp
  have stored : (pathText (d.placeOf path ++ [name]), entry) ∈ d.entries := by
    refine Table.mem_of_get? ?_
    simpa [get?, inner] using there
  refine List.mem_filterMap.2 ⟨name.toList, List.mem_filterMap.2 ⟨_, stored, ?_⟩, ?_⟩
  · exact Text.after?_eq_some_iff.2 (pathText_inside _ name)
  · simp [noSlash]

end Disk

end Stencil
