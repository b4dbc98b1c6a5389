import Stencil.Proofs.Engine.Markup
import Stencil.Proofs.Expr.RoundTrip
import Stencil.Proofs.Node.Reading
import Stencil.Proofs.Rendering.Provenance
import Stencil.Proofs.Report.Lines

/-!
# Errors in their sources

Compiling and rendering report places by lines and columns of tokens. From there a report finds the tag that
the error is about: the first character of a tag that is refused, or the line of a tag that prints an
undefined variable, and on it the name.

1. `Expr.root_of_parse`: the name at the front of a path.
2. `Compiler.tag_of_echo`, `Compiler.located_of_refused`: the tags that print, and the one that is refused.
3. `Engine.compiled_of_gather`: the sources of what an engine loads.
4. `Report.errors_point_into_source`: the errors of compiling and of rendering.
-/

namespace Stencil

open Stencil.Text

/-! ## Names -/

namespace Expr

theorem Named.noMark {name : String} (named : Named name) :
    ∀ c ∈ name.toList, (c != '.' && c != '[') = true := by
  intro c mem
  have isWord := named.2 c mem
  rw [Bool.and_eq_true, bne_iff_ne, bne_iff_ne]
  constructor <;> rintro rfl <;> cases isWord

theorem named_of_readOperand {cs rest : List Char} {path : List Segment}
    (h : readOperand cs = .ok (.path path, rest)) :
    ∃ root more, path = .key root :: more ∧ Named root := by
  cases printable_of_readOperand h trivial with
  | path named _ => exact ⟨_, _, rfl, named⟩

/-- The path of an expression begins with a name. -/
theorem named_of_readExpr {steps : Nat} {cs rest : List Char} {e : Expr} {path : List Segment}
    (h : readExpr steps cs = .ok (e, rest)) (isPath : e.rootPath? = some path) :
    ∃ root more, path = .key root :: more ∧ Named root := by
  induction steps generalizing cs rest e with
  | zero => cases h
  | succ steps ih =>
      rw [readExpr] at h
      simp only at h
      split at h
      · obtain ⟨_, inner, h⟩ := bind_eq_ok.1 h
        obtain ⟨_, -, h⟩ := bind_eq_ok.1 h
        obtain ⟨_, calls, h⟩ := bind_eq_ok.1 h
        cases h
        exact ih inner isPath
      · obtain ⟨⟨base, _⟩, read, h⟩ := bind_eq_ok.1 h
        obtain ⟨_, calls, h⟩ := bind_eq_ok.1 h
        cases h
        cases base with
        | literal value => cases isPath
        | path segments =>
            cases isPath
            exact named_of_readOperand read

theorem root_of_parse {text : String} {e : Expr} {path : List Segment} (h : parse text = .ok e)
    (isPath : e.rootPath? = some path) : ∃ root more, path = .key root :: more ∧ Named root := by
  obtain ⟨_, read, h⟩ := bind_eq_ok.1 h
  simp only at h
  split at h
  · cases h
    exact named_of_readExpr read isPath
  · cases h

theorem describe_start (more : List Segment) :
    ∀ c ∈ (String.join (more.map Segment.describe)).toList.head?, (c != '.' && c != '[') = false := by
  cases more with
  | nil => exact nofun
  | cons segment more =>
      rw [List.map_cons, String.join_cons, String.toList_append]
      cases segment with
      | key name =>
          rw [Segment.describe, String.toList_append]
          rintro c ⟨⟩
          rfl
      | index n =>
          rw [Segment.describe, String.toList_append, String.toList_append]
          rintro c ⟨⟩
          rfl

theorem rootOf_describePath {root : String} (named : Named root) (more : List Segment) :
    Report.rootOf (describePath (.key root :: more)) = root.toList := by
  rw [Report.rootOf, describePath, String.toList_append]
  exact takeWhile_append_of_stop named.noMark (describe_start more)

end Expr

/-! ## Tags -/

/-- A tag of a source: the text before it, and its content. -/
def Delimiters.TagAt (d : Delimiters) (source : String) (before content : List Char) : Prop :=
  ∃ front back, pieces d source.toList = front ++ .tag content :: back ∧
    before = front.flatMap (Piece.source d)

theorem Delimiters.TagAt.split {d : Delimiters} {source : String} {before content : List Char}
    (h : d.TagAt source before content) :
    ∃ rest, source.toList = before ++ ((Piece.tag content).source d ++ rest) := by
  obtain ⟨front, back, row, rfl⟩ := h
  refine ⟨back.flatMap (Piece.source d), ?_⟩
  rw [← pieces_source d source.toList, row, List.flatMap_append, List.flatMap_cons]

/-- A tag that marks the end of a block is not empty. -/
theorem Piece.MarksEnd.length_pos {content : List Char} (h : MarksEnd content) (d : Delimiters) :
    0 < ((Piece.tag content).source d).length := by
  have some : 0 < content.length := by
    cases content with
    | nil => cases List.prefix_nil.1 h
    | cons c rest => exact Nat.succ_pos _
  rw [source, List.length_append, List.length_append]
  omega

/-- Whether the token is a tag that prints what a text spells: all of its content, or what follows the
marks of raw output. -/
def Token.Prints (t : Token) (text : String) : Prop :=
  (t.kind = .echo ∧ text = t.value) ∨
    (t.kind = .rawEcho ∧ text.toList = (t.value.toList.dropWhile (· == '!')).dropWhile isBlank)

/-- A token before the end comes from a piece, which begins where the token stands. -/
theorem exists_piece {d : Delimiters} {p : Position} {row : List Piece} {t : Token}
    (h : t ∈ Piece.tokens d p row) :
    ∃ before piece after, row = before ++ piece :: after ∧
      t = piece.token (p.after (before.flatMap (Piece.source d))) := by
  induction row generalizing p with
  | nil => cases h
  | cons piece row ih =>
      rcases List.mem_cons.1 h with rfl | further
      · exact ⟨[], piece, row, rfl, rfl⟩
      · obtain ⟨before, other, after, rfl, rfl⟩ := ih further
        refine ⟨piece :: before, other, after, rfl, ?_⟩
        rw [List.flatMap_cons, Position.after_append]

namespace Compiler

variable {c : Compiler}

theorem prints_of_leafOf {t : Token} {text : String} {strategy : Option String} {line : Nat}
    (h : c.LeafOf t (.echo text strategy line)) : line = t.position.line ∧ t.Prints text := by
  cases h with
  | echo kind => exact ⟨rfl, .inl ⟨kind, rfl⟩⟩
  | rawEcho kind => exact ⟨rfl, .inr ⟨kind, String.toList_ofList⟩⟩

/-- What a compiled source prints comes from a tag that prints it, on the line on which the tag begins. -/
theorem tag_of_echo (own : c.Unextended) {source name : String} {a : Artifact}
    (compiles : c.compile source name = .ok a) {text : String} {strategy : Option String} {line : Nat}
    (h : .echo text strategy line ∈ (Program.ofArtifact a).statements) :
    ∃ before content, c.delimiters.TagAt source before content ∧
      ((Piece.tag content).token (.behind before)).Prints text ∧
        line = (Position.behind before).line := by
  obtain ⟨i, inArtifact, isLeaf⟩ := Program.leaf_of_instruction h trivial
  obtain ⟨t, inTags, n, isNode, member⟩ := mem_instructions own.visitors compiles inArtifact
  obtain ⟨front, piece, back, row, rfl⟩ := exists_piece inTags
  obtain ⟨isLine, prints⟩ := prints_of_leafOf (leafOf_token own isNode member isLeaf)
  rw [Position.start_after] at prints isLine
  cases piece with
  | text cs => rcases prints with ⟨kind, -⟩ | ⟨kind, -⟩ <;> cases kind
  | tag content => exact ⟨_, content, ⟨front, back, row, rfl⟩, prints, isLine⟩

open Classical in
/-- If a source is refused, then for the first tag in it that marks the end of a block. -/
theorem located_of_refused {source name : String} {e : SyntaxError}
    (refused : c.compile source name = .error e) :
    ∃ front content back, pieces c.delimiters source.toList = front ++ .tag content :: back ∧
      Piece.MarksEnd content ∧ (∀ other, Piece.tag other ∈ front → ¬Piece.MarksEnd other) ∧
        e.position = .behind (front.flatMap (Piece.source c.delimiters)) := by
  let offends (piece : Piece) : Bool :=
    decide (∃ content, piece = .tag content ∧ Piece.MarksEnd content)
  obtain ⟨content, mem, marks⟩ := (c.refuses source name).fails_iff.1 ⟨e, refused⟩
  obtain ⟨piece, found⟩ := Option.isSome_iff_exists.1 ((List.find?_isSome (p := offends)).2
    ⟨_, mem, decide_eq_true ⟨content, rfl, marks⟩⟩)
  obtain ⟨isFirst, front, back, row, others⟩ := List.find?_eq_some_iff_append.1 found
  obtain ⟨content, rfl, marks⟩ := of_decide_eq_true isFirst
  have first : ∀ other, Piece.tag other ∈ front → ¬Piece.MarksEnd other := by
    intro other inFront marksToo
    have offending : offends (.tag other) = true := decide_eq_true ⟨other, rfl, marksToo⟩
    have spared := others _ inFront
    rw [offending] at spared
    cases spared
  refine ⟨front, content, back, row, marks, first, ?_⟩
  have located := (c.refuses source name).located front content back row marks first
  rw [refused] at located
  cases located
  rfl

end Compiler

namespace Report

/-- What is marked for an undefined variable: on the line on which a tag begins that prints it, the name
at the front of its path, or all of the line. -/
inductive MarksVariable (d : Delimiters) (source : String) : String → Span → Prop
  | intro {before content line : List Char} {start : Nat} {text root : String} {e : Expr}
      {path : List Segment} {span : Span} :
      d.TagAt source before content → OnLine source.toList before.length start line →
      ((Piece.tag content).token (.behind before)).Prints text → Expr.parse text = .ok e →
      e.rootPath? = some (.key root :: path) → Marks start line root.toList span →
        MarksVariable d source (describePath (.key root :: path)) span

end Report

/-- Whether all programs of a name are compiled from a source. -/
def Renderer.Compiled (r : Renderer) (c : Compiler) (source template : String) : Prop :=
  ∀ key p, r.programs.get? key = some p → p.name = template →
    ∃ a, c.compile source template = .ok a ∧ p = .ofArtifact a

/-- Every program that an engine loads is compiled from the source of its name. -/
theorem Engine.compiled_of_gather {l : Loader} {o : Options} {sources : Sources} {pages : List String}
    {programs : Table Program}
    (loads : gather ((make l o).compiled sources) loadLimit pages [] = .ok programs) {key : String}
    {p : Program} (found : programs.get? key = some p) :
    p.name = key ∧ ∃ source a, sources key = .ok source ∧
      (make l o).compiler.compile source.text key = .ok a ∧ p = .ofArtifact a := by
  obtain ⟨a, made, rfl⟩ := of_gather loads nofun key p found
  obtain ⟨source, known, compiles⟩ := compiled_eq_ok made
  refine ⟨?_, source, a, known, compiles, rfl⟩
  obtain ⟨noted, visited, rfl⟩ := map_eq_ok_iff.1 compiles
  obtain ⟨tree, -, rfl⟩ := map_eq_ok_iff.1 visited
  rfl

namespace Report

section Rendering

variable {name template : String} {line : Nat}

theorem marks_of_explains {r : Renderer} {c : Compiler} {source : String} (own : c.Unextended)
    (compiled : r.Compiled c source template)
    (explains : r.Explains (.undefinedVariable name template line)) :
    ∃ span, locate? source (.undefinedVariable name template line) =
        some (span, "\"" ++ name ++ "\" is not defined") ∧
      MarksVariable c.delimiters source name span := by
  obtain ⟨-, text, strategy, e, path, written, read, isPath, rfl⟩ := explains
  obtain ⟨key, p, found, isName, inside⟩ := written
  obtain ⟨a, compiles, rfl⟩ := compiled key p found isName
  obtain ⟨before, content, tag, prints, rfl⟩ := Compiler.tag_of_echo own compiles inside
  obtain ⟨root, more, rfl, named⟩ := Expr.root_of_parse read isPath
  obtain ⟨rest, split⟩ := tag.split
  obtain ⟨start, line, span, on, marks, located⟩ :=
    locate_undefined split (describePath (.key root :: more)) template
  rw [Expr.rootOf_describePath named] at marks
  exact ⟨span, located, .intro tag on prints read isPath marks⟩

theorem exists_source {l : Loader} {o : Options} {sources : Sources} {pages : List String}
    {programs : Table Program}
    (loads : Engine.gather ((Engine.make l o).compiled sources) Engine.loadLimit pages [] = .ok programs)
    (explains : ((Engine.make l o).renderer programs).Explains (.undefinedVariable name template line)) :
    ∃ source, sources template = .ok source ∧
      ((Engine.make l o).renderer programs).Compiled (Engine.make l o).compiler source.text template := by
  obtain ⟨-, text, strategy, e, path, ⟨key, p, found, isName, -⟩, -⟩ := explains
  obtain ⟨isKey, source, a, known, -⟩ := Engine.compiled_of_gather loads found
  obtain rfl : key = template := isKey.symm.trans isName
  refine ⟨source, known, fun other q found isName => ?_⟩
  obtain ⟨isOther, source', a, known', compiles, same⟩ := Engine.compiled_of_gather loads found
  obtain rfl : other = key := isOther.symm.trans isName
  obtain rfl : source = source' := Except.ok.inj (known.symm.trans known')
  exact ⟨a, compiles, same⟩

end Rendering

/-- An error of compiling is located at the first tag that marks the end of a block: at the first character
of its opening delimiter. A variable that a rendering finds undefined is located on the line of a tag
that prints it. So it is for the templates that an engine loads. -/
theorem errors_point_into_source :
    (∀ (c : Compiler) source name e, c.compile source name = .error e →
      ∃ front content back, pieces c.delimiters source.toList = front ++ .tag content :: back ∧
        Piece.MarksEnd content ∧ (∀ other, Piece.tag other ∈ front → ¬Piece.MarksEnd other) ∧
        let place := (front.flatMap (Piece.source c.delimiters)).length
        locate? source (.malformed e) = some (⟨place, place + 1⟩, e.message) ∧
          place + 1 ≤ source.length) ∧
    (∀ (r : Renderer) (c : Compiler) source template, c.Unextended → r.Compiled c source template →
      ∀ depth scope page name line,
        let cause := RenderError.undefinedVariable name template line
        (r.render depth scope page = .error (.raised cause) ∨
          ∃ block, r.renderBlock depth scope page block = .error (.raised cause)) →
        ∃ span, locate? source cause = some (span, "\"" ++ name ++ "\" is not defined") ∧
          MarksVariable c.delimiters source name span) ∧
    ∀ (l : Loader) (o : Options) sources pages programs,
      Engine.gather ((Engine.make l o).compiled sources) Engine.loadLimit pages [] = .ok programs →
      ∀ depth scope page name template line,
        let r := (Engine.make l o).renderer programs
        let cause := RenderError.undefinedVariable name template line
        (r.render depth scope page = .error (.raised cause) ∨
          ∃ block, r.renderBlock depth scope page block = .error (.raised cause)) →
        ∃ source, sources template = .ok source ∧
          ∃ span, locate? source.text cause = some (span, "\"" ++ name ++ "\" is not defined") ∧
            MarksVariable o.delimiters source.text name span := by
  have explained {r : Renderer} {depth : Nat} {scope : Scope} {page : String} {cause : RenderError}
      (raised : r.render depth scope page = .error (.raised cause) ∨
        ∃ block, r.renderBlock depth scope page block = .error (.raised cause)) : r.Explains cause := by
    rcases raised with raised | ⟨block, raised⟩
    · exact Renderer.explains_of_run (t := .template [] [] scope page) Renderer.inBlocks_nil raised
    · exact Renderer.explains_of_renderBlock raised
  refine ⟨?_, ?_, ?_⟩
  · intro c source name e refused
    obtain ⟨front, content, back, row, marks, first, placed⟩ := Compiler.located_of_refused refused
    have tag : c.delimiters.TagAt source _ content := ⟨front, back, row, rfl⟩
    obtain ⟨rest, split⟩ := tag.split
    refine ⟨front, content, back, row, marks, first, locate_malformed split placed, ?_⟩
    have some := marks.length_pos c.delimiters
    rw [← String.length_toList, split, List.length_append, List.length_append]
    omega
  · intro r c source template own compiled depth scope page name line cause raised
    exact marks_of_explains own compiled (explained raised)
  · intro l o sources pages programs loads depth scope page name template line r cause raised
    obtain ⟨source, known, compiled⟩ := exists_source loads (explained raised)
    exact ⟨source, known, marks_of_explains Engine.unextended_make compiled (explained raised)⟩

/-- A page whose second line prints a name, behind a character of two bytes. -/
def printingSource : String := "é\n<b>\x7b\x7b user.name \x7d\x7d</b>"

/-- What the compiler of an engine makes of it. -/
def printingPage : Artifact :=
  .make "page" [.literal "é\n<b>", .echo "user.name" (some "html") 2, .literal "</b>"]

/-- What renders it. -/
def printingRenderer : Renderer where
  programs := [("page", .ofArtifact printingPage)]
  filters := []
  escaper := .standard
  strict := true
  loopLimit := 100

theorem compiled_printing : printingRenderer.Compiled (Engine.make (.memory []) .default).compiler
    printingSource "page" := by
  rintro key p found -
  obtain ⟨-, rfl⟩ := Prod.mk.inj (List.mem_singleton.1 (Table.mem_of_get? found))
  have tokens : Delimiters.braces.tokens printingSource =
      [⟨.text, "é\n<b>", ⟨1, 1⟩⟩, ⟨.echo, "user.name", ⟨2, 4⟩⟩, ⟨.text, "</b>", ⟨2, 19⟩⟩,
        ⟨.ending, "", ⟨2, 23⟩⟩] := by
    decide +kernel
  have parsed : (Engine.make (.memory []) .default).compiler.parse printingSource "page" =
      Node.ofTokens "page" (Delimiters.braces.tokens printingSource) := rfl
  refine ⟨printingPage, ?_, rfl⟩
  rw [Compiler.compile, Compiler.compileNoted, parsed, tokens]
  rfl

/-- What is marked is the name, where it stands on the second line. -/
theorem errors_point_into_source_printing :
    let cause := RenderError.undefinedVariable "user.name" "page" 2
    printingRenderer.render 3 .empty "page" = .error (.raised cause) ∧
      locate? printingSource cause = some (⟨8, 12⟩, "\"user.name\" is not defined") ∧
      MarksVariable .braces printingSource "user.name" ⟨8, 12⟩ := by
  intro cause
  have failed : printingRenderer.render 3 .empty "page" = .error (.raised cause) := by rfl
  have place : locate? printingSource cause = some (⟨8, 12⟩, "\"user.name\" is not defined") := by
    decide +kernel
  obtain ⟨span, located, marks⟩ := errors_point_into_source.2.1 printingRenderer _ printingSource "page"
    Engine.unextended_make compiled_printing 3 .empty "page" "user.name" 2 (.inl failed)
  rw [place] at located
  cases located
  exact ⟨failed, place, marks⟩

end Report

end Stencil
