import Stencil.Proofs.Rendering.Failure
import Stencil.Proofs.Rendering.Loaded
import Stencil.Proofs.Rendering.Strictness

/-!
# Where errors come from

An error names a template. Statements get out of their templates: a block stands in for that of a
parent, and inside of it stand blocks of yet other templates. Yet a statement is always executed under
the name of the template it is written in, so the template of an error is the one whose text has to
be mended.

1. `Renderer.Explains`: what there is in the template that an error names.
2. `Renderer.explains_of_raises`: a statement explains the errors that it fails with itself.
3. `Renderer.errors_are_explained`: every error of a rendering is explained.
-/

namespace Stencil

namespace Renderer

/-- The statement stands in some loaded program of the name, in its body or in its block table. -/
def WrittenIn (r : Renderer) (template : String) (s : Stmt) : Prop :=
  ∃ key p, r.programs.get? key = some p ∧ p.name = template ∧ s ∈ p.statements

/-- What there is in the template that an error names: the printed expression whose root variable is
undefined, the text that is no expression, the expression with the unknown filter, or the loop. -/
def Explains (r : Renderer) : RenderError → Prop
  | .undefinedVariable name template line =>
      r.strict = true ∧ ∃ text strategy e path, r.WrittenIn template (.echo text strategy line) ∧
        Expr.parse text = .ok e ∧ e.rootPath? = some path ∧ describePath path = name
  | .invalidExpression text template _ => ∃ s, r.WrittenIn template s ∧ text ∈ s.texts
  | .undefinedFilter name template =>
      r.filters.get? name = none ∧
        ∃ s e, r.WrittenIn template s ∧ s.Spells e ∧ ∃ call ∈ e.calls, call.name = name
  | .loopLimit template limit =>
      limit = r.loopLimit ∧ ∃ s, r.WrittenIn template s ∧ s.IsLimited
  | _ => True

variable {r : Renderer}

theorem writtenIn_of_program (name : String) (p : Program) (found : r.programs.get? name = some p) :
    ∀ s ∈ p.statements, r.WrittenIn p.name s := fun _ member => ⟨name, p, found, rfl, member⟩

theorem explains_of_raises {template : String} {scope : Scope} {s : Stmt} {cause : RenderError}
    (written : r.WrittenIn template s) (raises : r.Raises template scope s cause) :
    r.Explains cause := by
  cases raises with
  | path prints reads strict root missing =>
      subst prints
      exact ⟨strict, _, _, _, _, written, reads, root, rfl⟩
  | filter spells used missing => exact ⟨missing, s, _, written, spells, _, used, rfl⟩
  | expression message carried => exact ⟨s, written, carried⟩
  | limit limited => exact ⟨rfl, s, written, limited⟩
  | strategy prints missing => trivial

/-! ## Renderings -/

/-- What a job fails with itself is explained, if what it executes is executed under the names of the
templates it is written in. -/
theorem explains_of_failure {t : Job} (attributed : Throughout r.WrittenIn t) {cause : RenderError}
    (fails : (r.plan t).failure = some cause) : r.Explains cause := by
  cases t with
  | statement site scope s =>
      exact explains_of_raises (attributed.1 s s.self_mem_walk) (planOf_raises fails)
  | template chain overrides scope name =>
      rcases plan_failure fails with ⟨-, rfl⟩ | ⟨-, rfl⟩ <;> trivial

theorem explains_of_run {depth : Nat} {t : Job} (attributed : Throughout r.WrittenIn t)
    {cause : RenderError} (raised : r.run depth t = .error (.raised cause)) : r.Explains cause :=
  cause_of_plan (fun _ good => ⟨fun _ => explains_of_failure good,
    throughout_of_plan (fun name p => writtenIn_of_program name p) good⟩) attributed raised

theorem explains_of_renderBlock {depth : Nat} {scope : Scope} {name block : String}
    {cause : RenderError} (raised : r.renderBlock depth scope name block = .error (.raised cause)) :
    r.Explains cause := by
  rcases renderBlock_cases r depth scope name block with
    ⟨other, above, same⟩ | ⟨blocks, above, same | ⟨found, there, same⟩⟩
  · rw [same] at raised
    cases raised
    rcases lineage_failure above with ⟨chain, rfl⟩ | ⟨missing, -, rfl⟩ <;> trivial
  · rw [same] at raised
    cases raised
    trivial
  · have attributed := inBlocks_of_lineage (fun name p => writtenIn_of_program name p) above
    rw [same] at raised
    obtain ⟨t, isJob, stopped⟩ := concat_raised raised
    obtain ⟨s, inBody, rfl⟩ := mem_bodyJobs.1 isJob
    have written := attributed _ (Table.mem_of_get? there) s inBody
    exact explains_of_run (t := .statement _ scope s) ⟨written, attributed⟩ stopped

/-! ## Variables -/

/-- Whether the result is no error about an undefined variable. -/
def ComplainsOfNoVariable {α : Type} (result : Except RenderError α) : Prop :=
  FailsWith (fun cause => ¬cause.IsUndefinedVariable) result

section Variables

variable {rules : Rules} {template : String} {scope : Scope} {cause : RenderError}

/-- What is not printed lacks no variable. -/
theorem not_lacks_undefined {e : Expr} (lacks : rules.Lacks ⟨template, none⟩ scope e cause) :
    ¬cause.IsUndefinedVariable := by
  rintro ⟨name, template, line, rfl⟩
  cases lacks with
  | path strict printed => cases printed

theorem not_invalid_undefined {text message : String} :
    ¬(RenderError.invalidExpression text template message).IsUndefinedVariable := by
  rintro ⟨_, _, _, ⟨⟩⟩

theorem holds_ne_undefined (condition : String) :
    ComplainsOfNoVariable (rules.holds template scope condition) := by
  refine (Rules.holds_fails condition).imp ?_
  rintro cause (⟨message, rfl⟩ | ⟨e, -, lacks⟩)
  · exact not_invalid_undefined
  · exact not_lacks_undefined lacks

theorem foreachRounds_ne_undefined (text : String) :
    ComplainsOfNoVariable
      (Loop.foreachRounds rules template scope text) := by
  refine (Loop.foreachRounds_fails text).imp ?_
  rintro cause (⟨message, rfl⟩ | ⟨header, -, lacks⟩)
  · exact not_invalid_undefined
  · exact not_lacks_undefined lacks

theorem forRounds_ne_undefined (limit : Nat) (text : String) :
    ComplainsOfNoVariable
      (Loop.forRounds rules limit template scope text) := by
  refine (Loop.forRounds_fails limit text).imp ?_
  rintro cause (⟨message, rfl⟩ | rfl | ⟨name, e, -, lacks⟩)
  · exact not_invalid_undefined
  · rintro ⟨_, _, _, ⟨⟩⟩
  · exact not_lacks_undefined lacks

theorem bound_ne_undefined (text : String) (o : Operand) :
    ComplainsOfNoVariable (rules.bound template text scope o) := by
  refine (Rules.bound_fails text o).imp ?_
  rintro cause ⟨message, rfl⟩
  exact not_invalid_undefined

theorem apply_ne_undefined (value : Value) (call : FilterCall) :
    ComplainsOfNoVariable
      (rules.apply template scope value call) := by
  refine (Rules.apply_lacks value call).imp ?_
  rintro cause ⟨rfl, -⟩ ⟨_, _, _, ⟨⟩⟩

end Variables

/-! ## The rule of attribution -/

/-- An error of a rendering names the template in which what it complains of is written, whichever
way led there. A variable is only found to be undefined where it is printed, and by a strict renderer:
neither by a condition, nor by the source or a bound of a loop, nor by an argument of a filter. -/
theorem errors_are_explained (r : Renderer) :
    (∀ depth scope name cause, (r.render depth scope name = .error (.raised cause) ∨
        ∃ block, r.renderBlock depth scope name block = .error (.raised cause)) →
      r.Explains cause) ∧
    ∀ template scope,
      (∀ condition, ComplainsOfNoVariable (r.rules.holds template scope condition)) ∧
      (∀ header, ComplainsOfNoVariable (Loop.foreachRounds r.rules template scope header)) ∧
      (∀ header,
        ComplainsOfNoVariable (Loop.forRounds r.rules r.loopLimit template scope header)) ∧
      (∀ header bound, ComplainsOfNoVariable (r.rules.bound template header scope bound)) ∧
      ∀ value call, ComplainsOfNoVariable (r.rules.apply template scope value call) := by
  refine ⟨?_, fun template scope => ⟨holds_ne_undefined, foreachRounds_ne_undefined,
    forRounds_ne_undefined r.loopLimit, bound_ne_undefined, apply_ne_undefined⟩⟩
  rintro depth scope name cause (raised | ⟨block, raised⟩)
  · exact explains_of_run (t := .template [] [] scope name) inBlocks_nil raised
  · exact explains_of_renderBlock raised

/-- A page that prints a name in a block, and its frame. -/
def greetingPage : Renderer where
  programs :=
    [.make "page" [.control (.inherit "frame"), .openBlock "a", .echo "user.name" none 3,
        .closeBlock],
      .make "frame" [.control (.openIf "missing"), .control .closeIf, .openBlock "a", .closeBlock]].map
      fun a => (a.name, .ofArtifact a)
  filters := []
  escaper := .standard
  strict := true
  loopLimit := 100

/-- The block is executed for that of the frame. The error is that of the page all the same. -/
theorem errors_are_explained_page :
    let cause := RenderError.undefinedVariable "user.name" "page" 3
    greetingPage.render 4 .empty "page" = .error (.raised cause) ∧ greetingPage.Explains cause := by
  intro cause
  have failed : greetingPage.render 4 .empty "page" = .error (.raised cause) := by rfl
  exact ⟨failed, (errors_are_explained greetingPage).1 4 .empty "page" cause (.inl failed)⟩

end Renderer

end Stencil
