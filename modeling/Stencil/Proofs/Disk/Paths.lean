import Stencil.Disk

/-!
# Where paths lead

A path that can be followed leads to one place, whatever else is on the disk. It can be followed as
long as there are directories on its way.

1. `Disk.locate_eq`: the place of a path that can be followed.
2. `Disk.locate_mono`: more directories make no path worse.
3. `Disk.locate_of_join`, `Disk.locate_join`: the way to a name in a directory leads through the
   directory.
4. `Disk.pathText_last`: paths that are written alike end alike.
-/

namespace Stencil

namespace Files

theorem parts_append (seen before after : List Char) :
    parts seen (before ++ '/' :: after) = parts seen before ++ parts [] after := by
  induction before generalizing seen with
  | nil => rfl
  | cons c rest ih =>
      by_cases slash : c = '/'
      · subst slash
        simp [parts, ih]
      · simp [parts, ih]

theorem parts_of_noSlash (seen : List Char) {cs : List Char} (h : '/' ∉ cs) :
    parts seen cs = [String.ofList (seen.reverse ++ cs)] := by
  induction cs generalizing seen with
  | nil => simp [parts]
  | cons c rest ih =>
      have slash : c ≠ '/' := fun equal => h (equal ▸ List.mem_cons_self)
      rw [parts.eq_def]
      simp [ih (c :: seen) fun inRest => h (List.mem_cons_of_mem c inRest)]

theorem parts_ending (before : List Char) {name : String} (h : '/' ∉ name.toList) :
    parts [] (before ++ '/' :: name.toList) = parts [] before ++ [name] := by
  rw [parts_append, parts_of_noSlash [] h]
  simp

theorem join_inside {directory name : String} (there : directory ≠ "") (h : '/' ∉ name.toList) :
    join directory name =
      if directory.toList.getLast? == some '/' then directory ++ name
      else directory ++ "/" ++ name := by
  have relative : isAbsolute name = false := by
    cases chars : name.toList with
    | nil => simp [isAbsolute, chars]
    | cons c rest =>
        have slash : c ≠ '/' := fun equal => h (chars ▸ equal ▸ List.mem_cons_self)
        simp [isAbsolute, chars, slash]
  rw [join, relative, String.isEmpty_eq_false_iff.2 there]
  simp

theorem join_ne_empty {directory name : String} (there : directory ≠ "") (h : '/' ∉ name.toList) :
    join directory name ≠ "" := by
  rw [join_inside there h]
  split <;> simp [there]

/-- The parts of the path of a name in a directory are those of the directory and the name, which takes
the place of the empty part behind a slash at the end. -/
theorem parts_inside {directory name : String} (there : directory ≠ "") (h : '/' ∉ name.toList) :
    parts [] (join directory name).toList = parts [] directory.toList ++ [name] ∨
      ∃ outer, parts [] directory.toList = outer ++ [""] ∧
        parts [] (join directory name).toList = outer ++ [name] := by
  rw [join_inside there h]
  split
  · next slash =>
    obtain ⟨before, shape⟩ := List.getLast?_eq_some_iff.1 (eq_of_beq slash)
    refine .inr ⟨parts [] before, ?_, ?_⟩
    · rw [shape]
      have noSlash : '/' ∉ "".toList := by simp
      exact parts_ending before noSlash
    · rw [String.toList_append, shape, List.append_assoc]
      exact parts_ending before h
  · left
    rw [String.toList_append, String.toList_append, List.append_assoc]
    exact parts_ending directory.toList h

/-- The last part of the path of a name in a directory is the name. -/
theorem parts_join (directory : String) {name : String} (h : '/' ∉ name.toList) :
    ∃ outer, parts [] (join directory name).toList = outer ++ [name] := by
  by_cases empty : directory = ""
  · subst empty
    exact ⟨[], by simp [join, parts_of_noSlash [] h]⟩
  · rcases parts_inside empty h with longer | ⟨outer, -, longer⟩
    · exact ⟨_, longer⟩
    · exact ⟨outer, longer⟩

end Files

namespace Disk

/-- A name leads one step further. -/
theorem follow_name {place : DiskPath} {name : String} (notEmpty : name ≠ "") (notStay : name ≠ ".")
    (notBack : name ≠ "..") : follow place name = place ++ [name] := by
  simp [follow, notEmpty, notStay, notBack]

/-- The place that a path leads to, if it can be followed. -/
def placeOf (d : Disk) (path : String) : DiskPath :=
  (Files.parts [] path.toList).foldl follow (d.origin path)

theorem walk_eq {d : Disk} {place found : DiskPath} {parts : List String}
    (h : d.walk place parts = .ok found) : found = parts.foldl follow place := by
  induction parts generalizing place with
  | nil =>
      cases h
      rfl
  | cons part rest ih =>
      rw [walk] at h
      obtain ⟨_, -, further⟩ := bind_eq_ok.1 h
      exact ih further

theorem locate_eq {d : Disk} {path : String} {place : DiskPath} (h : d.locate path = .ok place) :
    place = d.placeOf path := by
  unfold locate at h
  split at h
  · cases h
  · exact walk_eq h

theorem placeOf_of_home {d later : Disk} (home : later.home = d.home) (path : String) :
    later.placeOf path = d.placeOf path := by
  rw [placeOf, placeOf, origin, origin, home]

/-- Empty parts are no steps. -/
theorem foldl_names (place : DiskPath) (path : String) :
    (Files.names path).foldl follow place = (Files.parts [] path.toList).foldl follow place := by
  unfold Files.names
  induction Files.parts [] path.toList generalizing place with
  | nil => rfl
  | cons part rest ih =>
      by_cases empty : part = ""
      · subst empty
        exact ih place
      · rw [List.filter_cons_of_pos (by simp [empty])]
        exact ih _

theorem origin_join {directory name : String} (there : directory ≠ "") (h : '/' ∉ name.toList)
    (d : Disk) : d.origin (Files.join directory name) = d.origin directory := by
  cases chars : directory.toList with
  | nil => exact absurd (String.toList_eq_nil_iff.1 chars) there
  | cons c rest =>
      rw [Files.join_inside there h]
      split <;> simp [origin, Files.isAbsolute, chars]

/-- The place of a name in a directory is one step further than that of the directory. -/
theorem placeOf_join {directory name : String} (there : directory ≠ "") (h : '/' ∉ name.toList)
    (d : Disk) : d.placeOf (Files.join directory name) = follow (d.placeOf directory) name := by
  rw [placeOf, placeOf, origin_join there h]
  rcases Files.parts_inside there h with longer | ⟨outer, slash, longer⟩
  · rw [longer, List.foldl_append]
    rfl
  · rw [longer, slash, List.foldl_append, List.foldl_append]
    rfl

/-! ## Following a path -/

/-- Whether there is a directory at a place. -/
def HasDirectory (d : Disk) (place : DiskPath) : Prop :=
  ∃ changed, d.get? place = some (.directory changed)

theorem checkStep_eq_ok {d : Disk} {place : DiskPath} {part : String} :
    d.checkStep place part = .ok () ↔ d.HasDirectory place ∧ part.utf8ByteSize ≤ 255 := by
  unfold checkStep HasDirectory
  split
  · next nothing => simp [nothing]
  · next text changed found => simp [found]
  · next changed found => simp [found]

/-- What fails for other reasons than the length of a name fails for every name. -/
theorem checkStep_eq_error {d : Disk} {place : DiskPath} {part : String} {cause : FileError}
    (h : d.checkStep place part = .error cause) (short : part.utf8ByteSize ≤ 255) (name : String) :
    d.checkStep place name = .error cause := by
  unfold checkStep at h ⊢
  split at h
  · exact h
  · exact h
  · rw [if_neg (by omega)] at h
    cases h

theorem walk_append (d : Disk) (place : DiskPath) (front back : List String) :
    d.walk place (front ++ back) = (d.walk place front).bind fun found => d.walk found back := by
  induction front generalizing place with
  | nil => rfl
  | cons part rest ih =>
      rw [List.cons_append, walk, walk]
      cases d.checkStep place part with
      | error cause => rfl
      | ok _ => exact ih _

/-- What can be followed can be followed where there are more directories. -/
theorem walk_mono {d later : Disk} (more : ∀ p, d.HasDirectory p → later.HasDirectory p)
    {place found : DiskPath} {parts : List String} (h : d.walk place parts = .ok found) :
    later.walk place parts = .ok found := by
  induction parts generalizing place with
  | nil => exact h
  | cons part rest ih =>
      rw [walk] at h ⊢
      obtain ⟨_, step, further⟩ := bind_eq_ok.1 h
      obtain ⟨there, short⟩ := checkStep_eq_ok.1 step
      rw [checkStep_eq_ok.2 ⟨more place there, short⟩]
      exact ih further

theorem locate_mono {d later : Disk} (home : later.home = d.home)
    (more : ∀ p, d.HasDirectory p → later.HasDirectory p) {path : String} {place : DiskPath}
    (h : d.locate path = .ok place) : later.locate path = .ok place := by
  unfold locate at h ⊢
  split at h
  · cases h
  · rw [origin, home]
    exact walk_mono more h

theorem pathError?_of_join {directory name : String} (there : directory ≠ "")
    (noSlash : '/' ∉ name.toList) (h : pathError? (Files.join directory name) = none) :
    pathError? directory = none := by
  have longer : ∃ more, Files.join directory name = directory ++ more := by
    rw [Files.join_inside there noSlash]
    split
    · exact ⟨name, rfl⟩
    · exact ⟨"/" ++ name, String.append_assoc⟩
  obtain ⟨more, whole⟩ := longer
  rw [whole] at h
  unfold pathError? at h ⊢
  split at h
  · cases h
  split at h
  · cases h
  split at h
  · cases h
  next clean short =>
  have noZero : ¬directory.toList.contains '\x00' = true := by
    intro zero
    refine clean ?_
    rw [String.toList_append, List.contains_iff_mem, List.mem_append]
    exact .inl (List.contains_iff_mem.1 zero)
  rw [String.utf8ByteSize_append] at short
  rw [if_neg (by simpa using there), if_neg noZero, if_neg (by omega)]

/-- The way to a name in a directory leads to the directory first. A slash at the end of it asks for
a directory, as the further step does. -/
theorem walk_join {directory name : String} (there : directory ≠ "") (noSlash : '/' ∉ name.toList)
    (d : Disk) (place : DiskPath) :
    d.walk place (Files.parts [] (Files.join directory name).toList) =
      (d.walk place (Files.parts [] directory.toList)).bind fun found => d.walk found [name] := by
  rcases Files.parts_inside there noSlash with longer | ⟨outer, slash, longer⟩
  · rw [longer, walk_append]
  · rw [longer, slash, walk_append, walk_append]
    cases d.walk place outer with
    | error cause => rfl
    | ok before =>
        show d.walk before [name] = (d.walk before [""]).bind fun found => d.walk found [name]
        cases step : d.checkStep before "" with
        | ok _ =>
            have stay : d.walk before [""] = .ok before := by
              rw [walk, step]
              rfl
            rw [stay]
            rfl
        | error cause =>
            have fails (part : String) (failed : d.checkStep before part = .error cause) :
                d.walk before [part] = .error cause := by
              rw [walk, failed]
              rfl
            rw [fails "" step, fails name (checkStep_eq_error step (by decide) name)]
            rfl

theorem locate_of_join {d : Disk} {directory name : String} {place : DiskPath}
    (there : directory ≠ "") (noSlash : '/' ∉ name.toList)
    (h : d.locate (Files.join directory name) = .ok place) :
    d.locate directory = .ok (d.placeOf directory) ∧ d.HasDirectory (d.placeOf directory) ∧
      name.utf8ByteSize ≤ 255 := by
  unfold locate at h
  split at h
  · cases h
  · next noError =>
    rw [origin_join there noSlash, walk_join there noSlash] at h
    obtain ⟨found, walked, last⟩ := bind_eq_ok.1 h
    obtain ⟨_, step, -⟩ := bind_eq_ok.1 last
    have located : d.locate directory = .ok found := by
      rw [locate, pathError?_of_join there noSlash noError]
      exact walked
    cases locate_eq located
    exact ⟨located, checkStep_eq_ok.1 step⟩

/-- A name in a directory can be located. -/
theorem locate_join {d : Disk} {directory name : String} (there : directory ≠ "")
    (noSlash : '/' ∉ name.toList) (valid : pathError? (Files.join directory name) = none)
    (located : d.locate directory = .ok (d.placeOf directory))
    (isDirectory : d.HasDirectory (d.placeOf directory)) (short : name.utf8ByteSize ≤ 255) :
    d.locate (Files.join directory name) = .ok (follow (d.placeOf directory) name) := by
  rw [locate, pathError?_of_join there noSlash valid] at located
  rw [locate, valid]
  dsimp only at located ⊢
  rw [origin_join there noSlash, walk_join there noSlash, located]
  show d.walk (d.placeOf directory) [name] = _
  rw [walk, checkStep_eq_ok.2 ⟨isDirectory, short⟩]
  rfl

theorem names_join {directory name : String} (there : directory ≠ "") (noSlash : '/' ∉ name.toList)
    (full : name ≠ "") :
    Files.names (Files.join directory name) = Files.names directory ++ [name] := by
  have kept : [name].filter (fun part => !part.isEmpty) = [name] := by simp [full]
  unfold Files.names
  rcases Files.parts_inside there noSlash with longer | ⟨outer, slash, longer⟩
  · rw [longer, List.filter_append, kept]
  · rw [longer, slash, List.filter_append, List.filter_append, kept]
    simp

/-- Empty parts can be left out on the way. -/
theorem walk_filled {d : Disk} {place found : DiskPath} {parts : List String}
    (h : d.walk place parts = .ok found) :
    d.walk place (parts.filter fun part => !part.isEmpty) = .ok found := by
  induction parts generalizing place with
  | nil => exact h
  | cons part rest ih =>
      rw [walk] at h
      obtain ⟨_, step, further⟩ := bind_eq_ok.1 h
      by_cases empty : part = ""
      · subst empty
        rw [List.filter_cons_of_neg (by simp)]
        exact ih further
      · rw [List.filter_cons_of_pos (by simpa using empty), walk, step]
        exact ih further

/-- They can be put back on the way to a directory. -/
theorem walk_unfilled {d : Disk} {place found : DiskPath} {parts : List String}
    (h : d.walk place (parts.filter fun part => !part.isEmpty) = .ok found)
    (isDirectory : d.HasDirectory found) : d.walk place parts = .ok found := by
  -- Each place on the way is a directory, so an empty part is a step that stays there.
  have onWay {place : DiskPath} {parts : List String} (h : d.walk place parts = .ok found) :
      d.HasDirectory place := by
    cases parts with
    | nil =>
        cases h
        exact isDirectory
    | cons part rest =>
        rw [walk] at h
        obtain ⟨_, step, -⟩ := bind_eq_ok.1 h
        exact (checkStep_eq_ok.1 step).1
  induction parts generalizing place with
  | nil => exact h
  | cons part rest ih =>
      by_cases empty : part = ""
      · subst empty
        rw [List.filter_cons_of_neg (by simp)] at h
        rw [walk, checkStep_eq_ok.2 ⟨onWay h, by decide⟩]
        exact ih h
      · rw [List.filter_cons_of_pos (by simpa using empty), walk] at h
        obtain ⟨_, step, further⟩ := bind_eq_ok.1 h
        rw [walk, step]
        exact ih further

theorem valid_of_locate {d : Disk} {path : String} {place : DiskPath}
    (h : d.locate path = .ok place) : pathError? path = none := by
  unfold locate at h
  split at h
  · cases h
  · next valid => exact valid

theorem pathText_concat (outer : DiskPath) (last : String) :
    ∃ before, (pathText (outer ++ [last])).toList = before ++ '/' :: last.toList := by
  by_cases h : outer = []
  · subst h
    exact ⟨[], by simp [pathText]⟩
  · refine ⟨'/' :: ("/".intercalate outer).toList, ?_⟩
    rw [pathText, String.intercalate_append_of_ne_nil h (List.cons_ne_nil _ _)]
    simp

theorem pathText_last {outer further : DiskPath} {last final : String} (noSlash : '/' ∉ last.toList)
    (noOther : '/' ∉ final.toList)
    (h : pathText (outer ++ [last]) = pathText (further ++ [final])) : last = final := by
  obtain ⟨before, text⟩ := pathText_concat outer last
  obtain ⟨other, more⟩ := pathText_concat further final
  have parts : Files.parts [] before ++ [last] = Files.parts [] other ++ [final] := by
    rw [← Files.parts_ending before noSlash, ← Files.parts_ending other noOther, ← text, ← more, h]
  exact List.singleton_inj.1 (List.append_inj_right' parts rfl)

end Disk

end Stencil
