import Stencil.Proofs.Compiler.Markup
import Stencil.Proofs.Engine.Transparency
import Stencil.Proofs.Rendering.Harmless

/-!
# What an engine lets through

Where no template that is loaded has a raw tag, an engine with the default options prints angle
brackets and quotes only where they stand in the texts of its templates.

1. `Engine.of_gather`: every program that is loaded was compiled from the source of its name.
2. `Engine.escapes_of_noRaw`: then all that is printed is escaped.
3. `Engine.output_is_text_or_harmless`: what outputs are made of.
-/

namespace Stencil

namespace Engine

theorem of_gather {artifact : String → Except Stop Artifact} {steps : Nat} {pending : List String}
    {loaded programs : Table Program} (h : gather artifact steps pending loaded = .ok programs)
    (before : ∀ name p, loaded.get? name = some p →
      ∃ a, artifact name = .ok a ∧ p = Program.ofArtifact a) :
    ∀ name p, programs.get? name = some p →
      ∃ a, artifact name = .ok a ∧ p = Program.ofArtifact a := by
  induction steps generalizing pending loaded with
  | zero =>
      cases pending with
      | nil =>
          cases h
          exact before
      | cons name rest => cases h
  | succ steps ih =>
      cases pending with
      | nil =>
          cases h
          exact before
      | cons name rest =>
          rw [gather] at h
          split at h
          · exact ih h before
          · obtain ⟨a, made, further⟩ := bind_eq_ok.1 h
            refine ih further fun other p found => ?_
            rw [Table.get?_set] at found
            split at found
            · next same =>
              cases found
              exact ⟨a, same ▸ made, rfl⟩
            · exact before other p found

theorem compiled_eq_ok {e : Engine} {sources : Sources} {name : String} {a : Artifact}
    (h : e.compiled sources name = .ok a) :
    ∃ source, sources name = .ok source ∧ e.compiler.compile source.text name = .ok a := by
  cases known : sources name with
  | error cause =>
      rw [compiled, known] at h
      cases h
  | ok source =>
      rw [compiled_of_known known] at h
      cases compiles : e.compiler.compile source.text name with
      | error cause =>
          rw [compiles] at h
          cases h
      | ok made =>
          rw [compiles] at h
          cases h
          exact ⟨source, rfl, compiles⟩

/-- An engine with the default options and with these globals over templates in memory. -/
def inMemory (globals : Table Value) (templates : Table Source) : Engine :=
  { make (.memory templates) .default with globals := globals }

theorem compiler_inMemory (globals : Table Value) (templates : Table Source) :
    (inMemory globals templates).compiler = (make (.memory templates) .default).compiler := rfl

theorem forgetful_inMemory (globals : Table Value) (templates : Table Source) :
    ∀ v ∈ (inMemory globals templates).compiler.visitors, v.Forgetful :=
  Visitor.forgetful_nil

theorem withLoader_inMemory (globals : Table Value) (templates : Table Source) :
    (inMemory globals []).withLoader (.memory templates) = inMemory globals templates := by
  simp only [withLoader, inMemory, make, addExtension]

/-- A source without raw tags. -/
def NoRaw (source : Source) : Prop :=
  ∀ t ∈ Delimiters.braces.tokens source.text, t.kind ≠ .rawEcho

/-- Whether no template that is loaded for a name has a raw tag. -/
def LoadsNoRaw (globals : Table Value) (templates : Table Source) (session : Session) (d : Disk)
    (name : String) : Prop :=
  ∀ programs other source,
    (Work.runOn ((inMemory globals templates).loadTree name) session d).1.1 = .ok programs →
      programs.contains other = true → templates.get? other = some source → NoRaw source

/-- A text between the tags of a template that is loaded. -/
def LoadedText (templates : Table Source) (programs : Table Program) (piece : String) : Prop :=
  ∃ name source, programs.contains name = true ∧ templates.get? name = some source ∧
    ∃ t ∈ Delimiters.braces.tokens source.text, t.kind = .text ∧ piece = t.value

/-- Whether an output is made of texts of the templates that are loaded for a name, and of harmless
pieces. -/
def PrintsTexts (globals : Table Value) (templates : Table Source) (session : Session) (d : Disk)
    (name out : String) : Prop :=
  ∃ programs, (Work.runOn ((inMemory globals templates).loadTree name) session d).1.1 =
    .ok programs ∧ CutInto (fun piece => LoadedText templates programs piece ∨ Harmless piece) out

section Loading

variable {globals : Table Value} {templates : Table Source} {name : String}
  {programs : Table Program}

theorem source_of_loaded
    (h : gather ((inMemory globals templates).compiled (Loader.held templates)) loadLimit
      [name] [] = .ok programs)
    {other : String} {p : Program} (found : programs.get? other = some p) :
    ∃ source a, templates.get? other = some source ∧
      (inMemory globals templates).compiler.compile source.text other = .ok a ∧
        p = Program.ofArtifact a := by
  obtain ⟨a, made, rfl⟩ := of_gather h nofun other p found
  obtain ⟨source, known, compiles⟩ := compiled_eq_ok made
  refine ⟨source, a, ?_, compiles, rfl⟩
  unfold Loader.held at known
  split at known
  · next there =>
    cases known
    exact there
  · cases known

variable
  (loads : gather ((inMemory globals templates).compiled (Loader.held templates)) loadLimit
    [name] [] = .ok programs)
  (noRaw : ∀ other source, programs.contains other = true → templates.get? other = some source →
    NoRaw source)

include loads noRaw

theorem leaf_of_loaded {s : Stmt}
    (h : ((inMemory globals templates).renderer programs).Loaded s) (noInner : s.IsLeaf) :
    (∃ piece, LoadedText templates programs piece ∧ s = .text piece) ∨
      (∃ expression line, s = .echo expression (some "html") line) ∨
        ∃ other, s = .insert other := by
  obtain ⟨other, p, found, inProgram⟩ := h
  obtain ⟨source, a, there, compiles, rfl⟩ := source_of_loaded loads found
  replace found : programs.get? other = some (Program.ofArtifact a) := found
  have isLoaded : programs.contains other = true := Option.isSome_of_eq_some found
  have plain := noRaw other source isLoaded there
  rw [compiler_inMemory] at compiles
  rcases leaf_of_compiled compiles plain inProgram noInner with ⟨t, inSource, kind, rfl⟩ | others
  · exact Or.inl ⟨t.value, ⟨other, source, isLoaded, there, t, inSource, kind, rfl⟩, rfl⟩
  · exact Or.inr others

/-- All that is printed is escaped for markup. -/
theorem escapes_of_noRaw : ((inMemory globals templates).renderer programs).Escapes := by
  intro expression strategy line loaded
  rcases leaf_of_loaded loads noRaw loaded trivial with ⟨piece, -, same⟩ | ⟨_, _, same⟩ | ⟨_, same⟩
  · cases same
  · cases same
    exact Or.inl rfl
  · cases same

/-- Texts of programs are texts of templates. -/
theorem cut_of_loaded {out : String}
    (h : CutInto ((inMemory globals templates).renderer programs).TextOrHarmless out) :
    CutInto (fun piece => LoadedText templates programs piece ∨ Harmless piece) out := by
  refine h.imp fun piece kind => kind.imp_left fun loaded => ?_
  rcases leaf_of_loaded loads noRaw loaded trivial with ⟨_, text, same⟩ | ⟨_, _, same⟩ | ⟨_, same⟩
  · cases same
    exact text
  · cases same
  · cases same

end Loading

/-- What is loaded, rendered and printed by an engine in any state that it comes to is the same as
by a new one. -/
theorem runOn_inMemory {globals : Table Value} {templates : Table Source} {names : List String}
    {session : Session} {d : Disk}
    (reached : (inMemory globals []).Reached ("memory:" ++ ·) names (.memory templates)
      (Loader.held templates) session d) {α : Type} {work : Work (StateM Disk) α}
    {result : Except Stop α}
    (meets : (inMemory globals templates).Apart (Loader.held templates) ("memory:" ++ ·) →
      work.Meets (Coherent (inMemory globals templates) (Loader.held templates) ("memory:" ++ ·))
        ((inMemory globals templates).options.cacheDirectory ≠ none) (· = result)) :
    (Work.runOn work session d).1.1 = result := by
  have distinct : ∀ a ∈ names, ∀ b ∈ names, "memory:" ++ a = "memory:" ++ b → a = b :=
    fun a _ b _ same => (String.append_right_inj _).1 same
  obtain ⟨-, among, coherent⟩ := reached.coherent rfl (forgetful_inMemory globals []) distinct
    fun can => absurd rfl can
  have here := coherent.withLoader (.memory templates)
  rw [withLoader_inMemory] at here
  have apart : (inMemory globals templates).Apart (Loader.held templates) ("memory:" ++ ·) :=
    apart_of_names distinct (fun can => absurd rfl can) among
  rcases (meets apart session d here).2 with same | ⟨can, -⟩
  · exact same
  · exact absurd rfl can

/-- If all that the programs print is escaped for markup, then an output is made of their texts and
of harmless pieces. So it is for an engine with the default options, in every state that it comes
to, if no template that is loaded has a raw tag: the texts are those of the templates that are
loaded. -/
theorem output_is_text_or_harmless :
    (∀ r : Renderer, r.escaper.EscapesMarkup → r.Escapes → ∀ depth scope name out,
      (r.render depth scope name = .ok out → CutInto r.TextOrHarmless out) ∧
        ∀ block, r.renderBlock depth scope name block = .ok out → CutInto r.TextOrHarmless out) ∧
    ∀ globals templates names session d,
      (inMemory globals []).Reached ("memory:" ++ ·) names (.memory templates)
        (Loader.held templates) session d →
      ∀ name scope, LoadsNoRaw globals templates session d name → ∀ out,
        ((Work.runOn ((inMemory globals templates).render name scope) session d).1.1 = .ok out →
          PrintsTexts globals templates session d name out) ∧
        ∀ block,
          (Work.runOn ((inMemory globals templates).renderBlock name block scope) session d).1.1 =
            .ok out → PrintsTexts globals templates session d name out := by
  have general : ∀ r : Renderer, r.escaper.EscapesMarkup → r.Escapes → ∀ depth scope name out,
      (r.render depth scope name = .ok out → CutInto r.TextOrHarmless out) ∧
        ∀ block, r.renderBlock depth scope name block = .ok out → CutInto r.TextOrHarmless out := by
    refine fun r escaper escapes depth scope name out => ⟨fun rendered => ?_, fun _ rendered => ?_⟩
    · exact Renderer.cut_of_run escaper escapes (t := .template [] [] scope name)
        Renderer.covered_nil rendered
    · exact Renderer.cut_of_renderBlock escaper escapes rendered
  refine ⟨general, fun globals templates names session d reached name scope noRaw out => ?_⟩
  let e := inMemory globals templates
  have shows : e.loader.Shows (Loader.held templates) ("memory:" ++ ·) :=
    Loader.memory_shows templates
  have forget := forgetful_inMemory globals templates
  have loaded := runOn_inMemory reached fun apart =>
    loadAll_meets shows rfl apart forget loadLimit [name] []
  have escaper : e.escaper.EscapesMarkup := Escaper.escapesMarkup_of_standard rfl
  refine ⟨fun done => ?_, fun block done => ?_⟩
  · rw [runOn_inMemory reached fun apart => render_meets shows rfl apart forget name scope] at done
    obtain ⟨programs, loads, rendered⟩ := bind_eq_ok.1 done
    have plain := fun other source => noRaw programs other source (loaded.trans loads)
    exact ⟨programs, loaded.trans loads, cut_of_loaded loads plain
      ((general _ escaper (escapes_of_noRaw loads plain) _ _ _ _).1 rendered)⟩
  · rw [runOn_inMemory reached fun apart =>
      renderBlock_meets shows rfl apart forget name block scope] at done
    obtain ⟨programs, loads, rendered⟩ := bind_eq_ok.1 done
    have plain := fun other source => noRaw programs other source (loaded.trans loads)
    exact ⟨programs, loaded.trans loads, cut_of_loaded loads plain
      ((general _ escaper (escapes_of_noRaw loads plain) _ _ _ _).2 block rendered)⟩

/-- A tag between two angle brackets of a template, whose value has some of its own, and a template
that is not loaded for it. -/
def bracketed : Table Source :=
  [("t", ⟨"<{{ x }}>", 0⟩), ("other", ⟨"{{ ! x }}", 0⟩)]

/-- The tag has its value from a global. -/
def angled : Table Value := [("x", .string "<b>")]

/-- A session in which nothing was loaded yet. -/
def unopened : Session := (inMemory angled []).newSession

theorem keys_bracketed {programs : Table Program}
    (h : (Work.runOn ((inMemory angled bracketed).loadTree "t") unopened ⟨[], [], 0⟩).1.1 =
      .ok programs) : programs.keys = ["t"] := by
  have keys : (Work.runOn ((inMemory angled bracketed).loadTree "t") unopened
      ⟨[], [], 0⟩).1.1.toOption.map Table.keys = some ["t"] := by
    decide +kernel
  rw [h] at keys
  exact Option.some.inj keys

theorem noRaw_bracketed : LoadsNoRaw angled bracketed unopened ⟨[], [], 0⟩ "t" := by
  intro programs other source loads among known
  have plain : ∀ t ∈ Delimiters.braces.tokens "<{{ x }}>", t.kind ≠ .rawEcho := by
    decide +kernel
  rw [Table.contains_iff, keys_bracketed loads, List.mem_singleton] at among
  subst among
  cases known
  exact plain

/-- What renders the program of the first template. -/
def bracketing : Renderer :=
  (inMemory angled bracketed).renderer
    [("t", ⟨"t", [.text "<", .echo "x" (some "html") 1, .text ">"], [], none, []⟩)]

theorem escapes_bracketing : bracketing.Escapes := by
  rintro expression strategy line ⟨name, p, found, inside⟩
  obtain ⟨-, rfl⟩ := Prod.mk.inj (List.mem_singleton.1 (Table.mem_of_get? found))
  simp only [Program.statements, Stmt.walkAll, Stmt.walk] at inside
  simp at inside
  exact .inl inside.2.1

/-- The output of this tag, cut in three, for the program and for the template. -/
theorem output_is_text_or_harmless_bracketed :
    CutInto bracketing.TextOrHarmless "<&lt;b&gt;>" ∧
      PrintsTexts angled bracketed unopened ⟨[], [], 0⟩ "t" "<&lt;b&gt;>" := by
  constructor
  · have done : (bracketing.render 3 (.ofTable angled) "t").toOption = some "<&lt;b&gt;>" := by
      decide +kernel
    have kinds := output_is_text_or_harmless.1 bracketing (Escaper.escapesMarkup_of_standard rfl)
      escapes_bracketing 3 (.ofTable angled) "t" "<&lt;b&gt;>"
    exact kinds.1 (eq_ok_of_toOption done)
  · have reached : (inMemory angled []).Reached ("memory:" ++ ·) ["t", "other"] (.memory bracketed)
        (Loader.held bracketed) unopened ⟨[], [], 0⟩ := by
      refine .start (Loader.memory_shows bracketed) ?_ (nothingCached_of_blank _ [] 0)
      intro name source known
      by_cases first : "t" = name
      · exact first ▸ List.mem_cons_self
      · by_cases second : "other" = name
        · exact second ▸ List.mem_cons_of_mem _ List.mem_cons_self
        · simp [bracketed, Loader.held, Table.get?, first, second] at known
    have done : (Work.runOn ((inMemory angled bracketed).render "t" .empty) unopened
        ⟨[], [], 0⟩).1.1.toOption = some "<&lt;b&gt;>" := by
      decide +kernel
    have kinds := output_is_text_or_harmless.2 angled bracketed ["t", "other"] _ _ reached "t"
      .empty noRaw_bracketed "<&lt;b&gt;>"
    exact kinds.1 (eq_ok_of_toOption done)

end Engine

end Stencil
