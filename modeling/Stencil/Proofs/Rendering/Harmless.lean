import Stencil.Proofs.Rendering.Loaded

/-!
# What output is made of

If every expression that a program prints is escaped for markup, then the characters that begin and
end tags and quoted values come into the output from the texts of the programs only.

1. `Escape.markup_harmless`: a text escaped for markup holds none of these characters.
2. `Renderer.cut_of_run`: the output of a job is made of texts of loaded programs and of harmless
   texts.
-/

namespace Stencil

/-- A text without angle brackets and quotes. -/
def Harmless (s : String) : Prop := ∀ c ∈ s.toList, c ∉ ['<', '>', '"', '\'']

instance (s : String) : Decidable (Harmless s) := inferInstanceAs (Decidable (∀ c ∈ s.toList, _))

/-- The text can be cut into consecutive pieces, each of a kind. -/
def CutInto (P : String → Prop) (s : String) : Prop :=
  ∃ pieces : List String, String.join pieces = s ∧ ∀ piece ∈ pieces, P piece

namespace CutInto

variable {P Q : String → Prop} {s t : String}

theorem empty : CutInto P "" := ⟨[], rfl, by simp⟩

theorem piece (h : P s) : CutInto P s := ⟨[s], by simp [String.join], by simpa⟩

theorem append (first : CutInto P s) (second : CutInto P t) : CutInto P (s ++ t) := by
  obtain ⟨pieces, rfl, each⟩ := first
  obtain ⟨more, rfl, further⟩ := second
  refine ⟨pieces ++ more, String.join_append, fun piece member => ?_⟩
  rcases List.mem_append.1 member with h | h
  · exact each piece h
  · exact further piece h

theorem imp (weaker : ∀ piece, P piece → Q piece) (h : CutInto P s) : CutInto Q s := by
  obtain ⟨pieces, joined, each⟩ := h
  exact ⟨pieces, joined, fun piece member => weaker piece (each piece member)⟩

end CutInto

namespace Escape

theorem markupChar_harmless (c : Char) : ∀ d ∈ markupChar c, d ∉ ['<', '>', '"', '\''] := by
  unfold markupChar
  split
  case h_6 amp lt gt quote apostrophe =>
    intro d member
    rw [List.mem_singleton.1 member]
    simpa using ⟨lt, gt, quote, apostrophe⟩
  all_goals simp

/-- A text escaped for markup is harmless. -/
theorem markup_harmless (s : String) : Harmless (markup s) := by
  intro d member
  rw [markup, String.toList_ofList] at member
  obtain ⟨c, _, inEntity⟩ := List.mem_flatMap.1 member
  exact markupChar_harmless c d inEntity

end Escape

/-- An escaper that has the strategies for markup and attributes. -/
structure Escaper.EscapesMarkup (e : Escaper) : Prop where
  html : e.strategies.get? "html" = some Escape.markup
  attr : e.strategies.get? "attr" = some Escape.markup

theorem Escaper.escapesMarkup_of_standard {e : Escaper}
    (h : e.strategies = Escaper.standard.strategies) : e.EscapesMarkup :=
  ⟨by rw [h]; rfl, by rw [h]; rfl⟩

namespace Renderer

/-- All that is printed is escaped for markup or for attributes. -/
def Escapes (r : Renderer) : Prop :=
  ∀ expression strategy line, r.Loaded (.echo expression strategy line) →
    strategy = some "html" ∨ strategy = some "attr"

/-- A text of a loaded program, or one that is harmless. -/
def TextOrHarmless (r : Renderer) (piece : String) : Prop := r.Loaded (.text piece) ∨ Harmless piece

variable {r : Renderer}

theorem echo_harmless (escaper : r.escaper.EscapesMarkup) {template : String} {scope : Scope}
    {expression : String} {strategy : Option String} {line : Nat} {out : String}
    (markup : strategy = some "html" ∨ strategy = some "attr")
    (h : r.echo template scope expression strategy line = .ok out) : Harmless out := by
  rw [echo] at h
  cases value : r.rules.evaluateText ⟨template, some line⟩ scope expression with
  | error cause =>
      rw [value] at h
      cases h
  | ok found =>
      have escaped : ∀ name ∈ strategy,
          r.escaper.escape? found.render name = some (Escape.markup found.render) := by
        rintro name isName
        rcases markup with rfl | rfl
        · cases isName
          rw [Escaper.escape?, escaper.html, Option.map_some]
        · cases isName
          rw [Escaper.escape?, escaper.attr, Option.map_some]
      obtain ⟨name, rfl⟩ : ∃ name, strategy = some name := by
        rcases markup with rfl | rfl <;> exact ⟨_, rfl⟩
      rw [value] at h
      simp only [bind, Except.bind, escaped name rfl] at h
      cases h
      exact Escape.markup_harmless found.render

/-- The text that the plan of a loaded job contributes is a text of a program or harmless. -/
theorem planOf_text (escaper : r.escaper.EscapesMarkup) (escapes : r.Escapes) {site : Site}
    {scope : Scope} {s : Stmt} (loaded : r.Loaded s) :
    CutInto r.TextOrHarmless (r.planOf site scope s).text := by
  cases s with
  | text text => exact .piece (.inl loaded)
  | echo expression strategy line =>
      rw [planOf]
      cases result : r.echo site.template scope expression strategy line with
      | error cause => exact .empty
      | ok out => exact .piece (.inr (echo_harmless escaper (escapes _ _ _ loaded) result))
  | choice branches otherwise =>
      rw [planOf]
      cases r.chosen site.template scope otherwise branches <;> exact .empty
  | foreach text body =>
      rw [planOf]
      cases Loop.foreachRounds r.rules site.template scope text <;> exact .empty
  | forIn text body =>
      rw [planOf]
      cases Loop.forRounds r.rules r.loopLimit site.template scope text <;> exact .empty
  | whileDo condition body =>
      rw [planOf]
      cases r.rules.holds site.template scope condition with
      | error cause => exact .empty
      | ok holds => cases holds <;> exact .empty
  | block name body => exact .empty
  | insert name => exact .empty

theorem plan_text (escaper : r.escaper.EscapesMarkup) (escapes : r.Escapes) {t : Job}
    (sound : r.Sound t) : CutInto r.TextOrHarmless (r.plan t).text := by
  cases t with
  | statement site scope s => exact planOf_text escaper escapes sound.1.loaded
  | template chain overrides scope name =>
      rw [plan]
      split
      · exact .empty
      · cases r.program name with
        | error cause => exact .empty
        | ok p =>
            simp only [Plan.after]
            cases p.parent <;> exact .empty

/-- The output of a job is made of texts of loaded programs and of harmless texts. -/
theorem cut_of_run (escaper : r.escaper.EscapesMarkup) (escapes : r.Escapes) {depth : Nat}
    {t : Job} {out : String} (sound : r.Sound t) (h : r.run depth t = .ok out) :
    CutInto r.TextOrHarmless out := by
  refine output_of_plan .empty (fun _ _ => .append) (fun u good => ?_) sound h
  exact ⟨plan_text escaper escapes good, sound_of_plan good⟩

theorem cut_of_renderBlock (escaper : r.escaper.EscapesMarkup) (escapes : r.Escapes)
    {depth : Nat} {scope : Scope} {name block out : String}
    (h : r.renderBlock depth scope name block = .ok out) : CutInto r.TextOrHarmless out := by
  rcases renderBlock_cases r depth scope name block with
    ⟨cause, -, same⟩ | ⟨blocks, above, same | ⟨found, there, same⟩⟩
  · rw [same] at h
    cases h
  · rw [same] at h
    cases h
  · have covered := covered_of_lineage above
    have whole := covered _ (Table.mem_of_get? there)
    rw [same] at h
    refine concat_output .empty (fun _ _ => .append) (fun t isJob text done => ?_) h
    obtain ⟨s, inBody, rfl⟩ := mem_bodyJobs.1 isJob
    exact cut_of_run escaper escapes (t := .statement _ scope s) ⟨whole s inBody, covered⟩ done

end Renderer

end Stencil
