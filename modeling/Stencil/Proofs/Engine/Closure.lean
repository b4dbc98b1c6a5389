import Stencil.Proofs.Engine.Settled

/-!
# What is loaded for a rendering

For a rendering, an engine loads the template and all that can be reached from it through parents
and insertions: exactly these, as soon as each of them loads. Hence a rendering of what was loaded
never looks for a template in vain.

1. `Engine.loadAll_ends`: how loading ends, within a number of steps that the mentions determine.
2. `Engine.loadAll_toward`: what is loaded in the end covers its own mentions.
3. `Engine.loadAll_reachable`: what is loaded, and what a rendering of it cannot fail with.
-/

namespace Stencil

namespace Engine

/-! ## Loading comes to an end -/

theorem isUsable_finishes (e : Engine) (name key : String) :
    Work.Finishes (e.isUsable name key) := by
  rw [isUsable]
  split
  · refine (Work.finishes_ofCache _).bind fun time? => ?_
    cases time? with
    | none => exact Work.finishes_pure false
    | some time => exact Work.finishes_ofLoader _
  · exact Work.finishes_pure true

theorem cached?_finishes (e : Engine) (name key : String) :
    Work.Finishes (e.cached? name key) := by
  refine (Work.finishes_ofCache _).bind fun text? => ?_
  cases text? with
  | none => exact Work.finishes_pure none
  | some text =>
      refine (isUsable_finishes e name key).bind fun usable => ?_
      cases usable
      · exact Work.finishes_pure none
      · exact Work.finishes_pure (decode? text)

theorem artifact_finishes (e : Engine) (name : String) : Work.Finishes (e.artifact name) := by
  refine (Work.finishes_ofLoader _).bind fun key => ?_
  refine (cached?_finishes e name key).bind fun found => ?_
  cases found with
  | some a => exact Work.finishes_pure a
  | none =>
      exact (Work.finishes_ofLoader _).bind fun source =>
        (Work.finishes_ofCompilation _).bind fun a =>
          (Work.finishes_ofCache _).bind fun _ => Work.finishes_pure a

/-- How the loading of a template and of all it mentions ends. -/
inductive Ends (mentioned : Mentions) (name : String) : Except Stop (Table Program) → Prop
  /-- All that can be reached is loaded. -/
  | loaded {programs : Table Program} (covering : Covering mentioned name [] programs) :
      Ends mentioned name (.ok programs)
  /-- A template that can be reached does not load. -/
  | missing {n : String} {stop : Stop} (reached : Reachable mentioned name n)
      (absent : mentioned n = none) (ended : stop ≠ .unfinished) :
      Ends mentioned name (.error stop)

section Loading

variable {e : Engine} {session : Session} {d : Disk} {mentioned : Mentions} {name : String}

/-- With enough steps, loading ends in one of these ways. -/
theorem loadAll_ends {names : Finset String}
    (among : ∀ n, Reachable mentioned name n → n ∈ names) {steps : Nat} {pending : List String}
    {loaded : Table Program} (covering : Covering mentioned name pending loaded)
    (answers : ∀ more, ∀ x ∈ e.asked more pending loaded session d,
      mentions? x.2 = mentioned x.1)
    (enough : room names mentioned pending loaded ≤ steps) :
    Ends mentioned name (Work.runOn (e.loadAll steps pending loaded) session d).1.1 := by
  induction steps, pending, loaded, session, d using loading_induction e with
  | done steps loaded session d => cases steps <;> exact .loaded covering
  | out n rest loaded session d => simp [room] at enough
  | skip steps n rest loaded session d known ih =>
      have fewer := room_skip names mentioned n rest loaded
      rw [runOn_loadAll_skip known]
      refine ih (covering.skip known) (fun more x asked => ?_) (by omega)
      exact answers (more + 1) x (by rwa [asked_skip known])
  | stop steps n rest loaded session d stop after later new answer =>
      have ended := artifact_finishes e n session d
      rw [answer] at ended
      rw [runOn_loadAll_stop new answer]
      have absent := answers 1 (n, .error stop) (by simp [asked_stop new answer])
      exact .missing (covering.waiting n List.mem_cons_self) absent.symm fun same =>
        ended (congrArg Except.error same)
  | load steps n rest loaded session d a after later new answer ih =>
      have mentions := (answers 1 (n, .ok a) (by simp [asked_load new answer])).symm
      have fewer := room_load rest (among n (covering.waiting n List.mem_cons_self)) new mentions
      rw [runOn_loadAll_load new answer]
      refine ih (covering.load new mentions) (fun more x asked => ?_) (by omega)
      refine answers (more + 1) x ?_
      rw [asked_load new answer]
      exact List.mem_cons_of_mem _ asked

/-- More steps than needed change nothing. -/
theorem loadAll_of_le {steps more : Nat} {pending : List String} {loaded : Table Program}
    (enough : steps ≤ more)
    (ended : (Work.runOn (e.loadAll steps pending loaded) session d).1.1 ≠ .error .unfinished) :
    Work.runOn (e.loadAll more pending loaded) session d =
      Work.runOn (e.loadAll steps pending loaded) session d := by
  induction steps, pending, loaded, session, d using loading_induction e generalizing more with
  | done steps loaded session d => cases steps <;> cases more <;> rfl
  | out n rest loaded session d => exact absurd rfl ended
  | skip steps n rest loaded session d known ih =>
      obtain ⟨more, rfl⟩ := Nat.exists_eq_add_of_le' (Nat.lt_of_lt_of_le steps.succ_pos enough)
      rw [runOn_loadAll_skip known] at ended
      rw [runOn_loadAll_skip known, runOn_loadAll_skip known]
      exact ih (by omega) ended
  | stop steps n rest loaded session d stop after later new answer =>
      obtain ⟨more, rfl⟩ := Nat.exists_eq_add_of_le' (Nat.lt_of_lt_of_le steps.succ_pos enough)
      rw [runOn_loadAll_stop new answer, runOn_loadAll_stop new answer]
  | load steps n rest loaded session d a after later new answer ih =>
      obtain ⟨more, rfl⟩ := Nat.exists_eq_add_of_le' (Nat.lt_of_lt_of_le steps.succ_pos enough)
      rw [runOn_loadAll_load new answer] at ended
      rw [runOn_loadAll_load new answer, runOn_loadAll_load new answer]
      exact ih (by omega) ended

/-! ## What is loaded in the end -/

/-- What the templates of a table mention. -/
def mentionedIn (programs : Table Program) : Mentions :=
  fun n => (programs.get? n).map Program.dependencies

/-- On the way to these programs: what is loaded is among them already, and when nothing is pending
any more, they cover what they mention. -/
structure Toward (programs : Table Program) (name : String) (pending : List String)
    (loaded : Table Program) : Prop where
  stays : ∀ n p, loaded.get? n = some p → programs.get? n = some p
  covers : Covering (mentionedIn programs) name pending loaded →
    Covering (mentionedIn programs) name [] programs

theorem loadAll_toward {programs : Table Program} {steps : Nat} {pending : List String}
    {loaded : Table Program}
    (h : (Work.runOn (e.loadAll steps pending loaded) session d).1.1 = .ok programs) :
    Toward programs name pending loaded := by
  induction steps, pending, loaded, session, d using loading_induction e with
  | done steps loaded session d =>
      cases steps <;> cases h <;> exact ⟨fun _ _ found => found, fun covering => covering⟩
  | out n rest loaded session d => cases h
  | skip steps n rest loaded session d known ih =>
      rw [runOn_loadAll_skip known] at h
      obtain ⟨stays, covers⟩ := ih h
      exact ⟨stays, fun covering => covers (covering.skip known)⟩
  | stop steps n rest loaded session d stop after later new answer =>
      rw [runOn_loadAll_stop new answer] at h
      cases h
  | load steps n rest loaded session d a after later new answer ih =>
      rw [runOn_loadAll_load new answer] at h
      obtain ⟨stays, covers⟩ := ih h
      refine ⟨fun m p found => stays m p ?_, fun covering => covers (covering.load new ?_)⟩
      · have other : n ≠ m := by
          rintro rfl
          exact new (Option.isSome_of_eq_some found)
        rw [Table.get?_set, if_neg other, found]
      · have entered := stays n (.ofArtifact a) (by rw [Table.get?_set, if_pos rfl])
        rw [mentionedIn, entered]
        rfl

/-- Whether all that can be reached loads. -/
def AllLoad (mentioned : Mentions) (name : String) : Prop :=
  ∀ n, Reachable mentioned name n → mentioned n ≠ none

/-- Whether no rendering of a template, or of a block of it, misses a template. -/
def MissesNothing (programs : Table Program) (name : String) : Prop :=
  ∀ r : Renderer, r.programs = programs → ∀ depth scope cause,
    r.render depth scope name ≠ .error (.raised (.load cause)) ∧
      ∀ block, r.renderBlock depth scope name block ≠ .error (.raised (.load cause))

theorem Covering.missesNothing {programs : Table Program}
    (h : Covering mentioned name [] programs) : MissesNothing programs name := by
  rintro r rfl depth scope cause
  have known : r.programs.contains name = true := (h.contains_iff name).2 .self
  exact ⟨Renderer.render_ne_load h.supplied known depth scope cause, fun block =>
    Renderer.renderBlock_ne_load h.supplied known depth scope block cause⟩

/-- What is loaded for a template is what was asked for, which is that template and all that the
loaded ones mention, and a rendering of it never misses a template. What templates mention is what
the engine is answered for them in the run, and it is asked once for each. If the templates that can
be reached from one are finitely many, then loading comes to an end, in a number of steps that the
mentions determine. If each of them loads, then these are loaded and no others; otherwise nothing
is. -/
theorem loadAll_reachable (e : Engine) (session : Session) (d : Disk) (name : String) :
    (∀ steps programs, (Work.runOn (e.loadAll steps [name] []) session d).1.1 = .ok programs →
      programs.keys = (e.asked steps [name] [] session d).map Prod.fst ∧ programs.keys.Nodup ∧
        (∀ n, n ∈ programs.keys ↔ Reachable (mentionedIn programs) name n) ∧
          MissesNothing programs name) ∧
    (∃ mentioned, e.Follows session d name mentioned) ∧
    ∀ mentioned, e.Follows session d name mentioned →
      ∀ finite : {n | Reachable mentioned name n}.Finite, ∃ result,
        (∀ steps, room finite.toFinset mentioned [name] [] ≤ steps →
          (Work.runOn (e.loadAll steps [name] []) session d).1.1 = result) ∧
        result ≠ .error .unfinished ∧
        ((∃ programs, result = .ok programs) ↔ AllLoad mentioned name) ∧
        ∀ programs, result = .ok programs →
          ∀ n, n ∈ programs.keys ↔ Reachable mentioned name n := by
  refine ⟨fun steps programs loaded => ?_, e.exists_follows session d name,
    fun mentioned follows finite => ?_⟩
  · have covering := (loadAll_toward loaded).covers (covering_start (mentionedIn programs) name)
    have keys := keys_of_loadAll loaded
    refine ⟨keys, ?_, covering.mem_keys_iff, covering.missesNothing⟩
    rw [keys]
    exact (e.asked_distinct steps [name] [] session d).1
  have among (n : String) (reached : Reachable mentioned name n) : n ∈ finite.toFinset :=
    finite.mem_toFinset.2 reached
  have ends := loadAll_ends among (covering_start mentioned name) follows le_rfl
  generalize outcome : (Work.runOn (e.loadAll (room finite.toFinset mentioned [name] []) [name] [])
    session d).1.1 = result at ends
  have ended : result ≠ .error .unfinished := by
    rintro rfl
    cases ends with
    | missing _ _ ended => exact ended rfl
  refine ⟨result, fun steps enough => ?_, ended, ⟨?_, fun all => ?_⟩, ?_⟩
  · rw [loadAll_of_le enough (outcome ▸ ended), outcome]
  · rintro ⟨programs, rfl⟩
    cases ends with
    | loaded covering => exact fun n => covering.loads
  · cases ends with
    | @loaded programs _ => exact ⟨programs, rfl⟩
    | missing reached absent _ => exact absurd absent (all _ reached)
  · rintro programs rfl
    cases ends with
    | loaded covering => exact covering.mem_keys_iff

end Loading

/-- A page with a layout, both of which insert a part that may insert itself. -/
def shelf : Disk :=
  ⟨[("/t", .directory 0),
    ("/t/page", .file (some ("\x7b\x7b @extends \"layout\" \x7d\x7d" ++
      "\x7b\x7b @block \"main\" \x7d\x7d" ++ "\x7b\x7b @include \"part\" \x7d\x7d" ++
      "\x7b\x7b @endblock \x7d\x7d")) 0),
    ("/t/layout", .file (some ("\x7b\x7b @block \"main\" \x7d\x7d" ++
      "\x7b\x7b @endblock \x7d\x7d" ++ "\x7b\x7b @include \"part\" \x7d\x7d")) 0),
    ("/t/part", .file (some ("\x7b\x7b @if x \x7d\x7d" ++ "\x7b\x7b @include \"part\" \x7d\x7d" ++
      "\x7b\x7b @endif \x7d\x7d")) 0)], [], 0⟩

/-- An engine that looks for its templates there. -/
def shelved : Engine := make (.files ⟨["/t"]⟩) .default

/-- What the templates there mention. -/
abbrev shelfMentions : Mentions := shelved.mentionedNow shelved.newSession shelf

theorem mentions_shelf :
    shelfMentions "page" = some ["layout", "part"] ∧ shelfMentions "layout" = some ["part"] ∧
      shelfMentions "part" = some ["part"] := by
  decide +kernel

theorem reachable_shelf (n : String) :
    Reachable shelfMentions "page" n ↔ n = "page" ∨ n = "layout" ∨ n = "part" := by
  obtain ⟨page, layout, part⟩ := mentions_shelf
  constructor
  · intro reached
    induction reached with
    | self => exact .inl rfl
    | mention _ answer needed ih =>
        rcases ih with rfl | rfl | rfl
        · cases page.symm.trans answer
          exact .inr (by simpa using needed)
        · cases layout.symm.trans answer
          exact .inr (.inr (List.mem_singleton.1 needed))
        · cases part.symm.trans answer
          exact .inr (.inr (List.mem_singleton.1 needed))
  · rintro (rfl | rfl | rfl)
    · exact .self
    · exact .mention .self page (by simp)
    · exact .mention .self page (by simp)

/-- All three of them are loaded for the page. -/
theorem loadAll_reachable_shelf :
    shelved.Follows shelved.newSession shelf "page" shelfMentions ∧
      {n | Reachable shelfMentions "page" n}.Finite ∧
      ∃ programs,
        (∀ steps, 5 ≤ steps →
          (Work.runOn (shelved.loadAll steps ["page"] []) shelved.newSession shelf).1.1 =
            .ok programs) ∧
        (∀ n, n ∈ programs.keys ↔ n = "page" ∨ n = "layout" ∨ n = "part") ∧
        MissesNothing programs "page" := by
  obtain ⟨page, layout, part⟩ := mentions_shelf
  have file : ∀ n ∈ ["page", "layout", "part"],
      (shelved.loader.keyOn n shelf).toOption = some ("/t/" ++ n) := by
    decide +kernel
  have follows : shelved.Follows shelved.newSession shelf "page" shelfMentions := by
    refine follows_of_noDirectory Visitor.forgetful_nil rfl rfl "page" ?_
    intro a b key isA isB keyA keyB
    have fileA := file a (by simpa using (reachable_shelf a).1 isA)
    have fileB := file b (by simpa using (reachable_shelf b).1 isB)
    rw [keyA] at fileA
    rw [keyB] at fileB
    exact (String.append_right_inj _).1 (Option.some.inj (fileA.symm.trans fileB))
  have finite : {n | Reachable shelfMentions "page" n}.Finite := by
    refine (({"page", "layout", "part"} : Finset String).finite_toSet).subset fun n reached => ?_
    simpa using (reachable_shelf n).1 reached
  have members : finite.toFinset = {"page", "layout", "part"} := by
    ext n
    simpa using reachable_shelf n
  have five : room finite.toFinset shelfMentions ["page"] [] = 5 := by
    rw [members, room]
    simp [Table.contains, Table.get?, page, layout, part]
  have every : AllLoad shelfMentions "page" := by
    intro n reached
    rcases (reachable_shelf n).1 reached with rfl | rfl | rfl
    · simp [page]
    · simp [layout]
    · simp [part]
  obtain ⟨closed, -, complete⟩ := loadAll_reachable shelved shelved.newSession shelf "page"
  obtain ⟨result, ends, -, succeeds, loaded⟩ := complete shelfMentions follows finite
  obtain ⟨programs, rfl⟩ := succeeds.2 every
  have done (steps : Nat) (enough : 5 ≤ steps) := ends steps (five ▸ enough)
  obtain ⟨-, -, -, missesNothing⟩ := closed 5 programs (done 5 le_rfl)
  refine ⟨follows, finite, programs, done, fun n => ?_, missesNothing⟩
  rw [loaded programs rfl, reachable_shelf]

/-- An engine whose loader has one key for all its templates. -/
def sharing : Engine :=
  make (.own
    { source := fun name =>
        if name = "a" then .ok "\x7b\x7b @include \"b\" \x7d\x7d"
        else if name = "b" then .ok "\x7b\x7b @include \"c\" \x7d\x7d"
        else .ok ""
      cacheKey := fun _ => .ok "key"
      isFresh := fun _ _ => .ok true
      contains := fun _ => true }) .default

/-- What the engine would answer at another time is another matter: here the second template is
taken for the first one, whose text has been cached in the meantime, and so the third one, which the
second would mention if it were asked for alone, is not mentioned in the run. -/
theorem not_mentioned_sharing :
    Reachable (sharing.mentionedNow sharing.newSession ⟨[], [], 0⟩) "a" "c" ∧
      ∃ programs,
        (Work.runOn (sharing.loadTree "a") sharing.newSession ⟨[], [], 0⟩).1.1 = .ok programs ∧
          "c" ∉ programs.keys := by
  have first : sharing.mentionedNow sharing.newSession ⟨[], [], 0⟩ "a" = some ["b"] := by
    decide +kernel
  have second : sharing.mentionedNow sharing.newSession ⟨[], [], 0⟩ "b" = some ["c"] := by
    decide +kernel
  refine ⟨.mention (.mention .self first (by simp)) second (by simp), ?_⟩
  have keys : (Work.runOn (sharing.loadAll 3 ["a"] []) sharing.newSession
      ⟨[], [], 0⟩).1.1.toOption.map Table.keys = some ["a", "b"] := by
    decide +kernel
  obtain ⟨programs, loaded, isKeys⟩ := Option.map_eq_some_iff.1 keys
  have done := eq_ok_of_toOption loaded
  refine ⟨programs, ?_, by simp [isKeys]⟩
  rw [loadTree, loadAll_of_le (by decide : 3 ≤ loadLimit) (by rw [done]; exact nofun), done]

end Engine

end Stencil
