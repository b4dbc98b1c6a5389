import Mathlib.Data.List.Forall2
import Mathlib.Data.List.TakeWhile
import Stencil.Proofs.Compiler.Instructions
import Stencil.Proofs.Token.Joining

/-!
# Rows of tokens, read to the end

A row of tokens is read up to its first end. Of all the other kinds only the mark of a block's end has
no node, so it alone stops reading with an error, and its tag alone makes a compiler refuse a source.

1. `Node.shows_of_ofToken?`: what a node keeps of its token.
2. `Cursor.readFrom_append`: reading passes over tokens that have nodes.
3. `Cursor.reading`: the result for any row of tokens.
4. `Compiler.refuses_block_ends`: that, and the result for any source.
-/

namespace Stencil

open Stencil.Text

/-! ## Tokens and their nodes -/

/-- A text without the mark in front, if it has it there. -/
def Text.WithoutFront (mark cs rest : List Char) : Prop :=
  cs = mark ++ rest ∨ ¬mark <+: cs ∧ rest = cs

/-- A text without the mark behind, if it has it there. -/
def Text.WithoutBack (mark cs rest : List Char) : Prop :=
  cs = rest ++ mark ∨ ¬mark <:+ cs ∧ rest = cs

/-- What a node shows of its token: the kind, the line, and the value without the marks of the kind and
the blanks around what is left. -/
inductive Node.Shows : Node → Token → Prop
  | text {value : String} {p : Position} : Shows (.text value p.line) ⟨.text, value, p⟩
  | echo {value : String} {p : Position} : Shows (.echo value p.line) ⟨.echo, value, p⟩
  | comment {value : String} {p : Position} : Shows (.comment value p.line) ⟨.comment, value, p⟩
  | rawEcho {value : String} {p : Position} {marks blanks expression : List Char} :
      value.toList = marks ++ (blanks ++ expression) → (∀ c ∈ marks, c = '!') →
      (∀ c ∈ (blanks ++ expression).head?, c ≠ '!') → (∀ c ∈ blanks, isBlank c = true) →
      (∀ c ∈ expression.head?, isBlank c = false) →
        Shows (.rawEcho (String.ofList expression) p.line) ⟨.rawEcho, value, p⟩
  | directive {value : String} {p : Position} {marks name rest : List Char} :
      value.toList = marks ++ (name ++ rest) → (∀ c ∈ marks, c = '@') →
      (∀ c ∈ (name ++ rest).head?, c ≠ '@') → (∀ c ∈ name, isBlank c = false) →
      (∀ c ∈ rest.head?, isBlank c = true) →
        Shows (.directive (String.ofList name) (String.ofList (trimmed rest)) p.line)
          ⟨.directive, value, p⟩
  | block {value : String} {p : Position} {inside name : List Char} :
      WithoutFront ['\x7b', '%'] value.toList inside → WithoutBack ['%', '\x7d'] inside name →
        Shows (.block (String.ofList (trimmed name)) p.line []) ⟨.blockStart, value, p⟩

namespace Text

theorem withoutFront_after? (mark cs : List Char) :
    WithoutFront mark cs ((after? mark cs).getD cs) := by
  cases found : after? mark cs with
  | some rest => exact .inl (after?_eq_some_iff.1 found)
  | none =>
      refine .inr ⟨?_, rfl⟩
      rintro ⟨rest, rfl⟩
      rw [after?_eq_some_iff.2 rfl] at found
      cases found

theorem withoutBack_before? (mark cs : List Char) :
    WithoutBack mark cs ((before? mark cs).getD cs) := by
  have front := withoutFront_after? mark.reverse cs.reverse
  rw [before?]
  cases found : after? mark.reverse cs.reverse with
  | some rest => exact .inl (by simpa using congrArg List.reverse (after?_eq_some_iff.1 found))
  | none =>
      rw [found] at front
      rcases front with whole | ⟨without, -⟩
      · rw [after?_eq_some_iff.2 whole] at found
        cases found
      · exact .inr ⟨fun behind => without (List.reverse_prefix.2 behind), rfl⟩

/-- What is left behind characters of a kind does not begin with one of them. -/
theorem stop_dropWhile (p : Char → Bool) (cs : List Char) :
    ∀ c ∈ (cs.dropWhile p).head?, p c = false := by
  intro c first
  have stops := List.head?_dropWhile_not p cs
  rw [Option.mem_def.1 first] at stops
  simpa using stops

end Text

theorem Node.shows_of_ofToken? {t : Token} {n : Node} (h : ofToken? t = some n) : n.Shows t := by
  obtain ⟨kind, value, p⟩ := t
  cases kind with
  | text =>
      cases h
      exact .text
  | echo =>
      cases h
      exact .echo
  | comment =>
      cases h
      exact .comment
  | rawEcho =>
      cases h
      show Shows (.rawEcho (String.ofList
        ((value.toList.dropWhile (· == '!')).dropWhile isBlank)) p.line) _
      have inside := List.takeWhile_append_dropWhile
        (p := isBlank) (l := value.toList.dropWhile (· == '!'))
      refine .rawEcho (List.takeWhile_append_dropWhile.symm.trans (congrArg _ inside.symm))
        ?_ ?_ ?_ (stop_dropWhile _ _)
      · exact fun c member => by simpa using List.mem_takeWhile_imp member
      · rw [inside]
        exact fun c first => by simpa using stop_dropWhile _ _ c first
      · exact fun c member => List.mem_takeWhile_imp member
  | directive =>
      cases h
      have inside := List.takeWhile_append_dropWhile
        (p := fun c => !isBlank c) (l := value.toList.dropWhile (· == '@'))
      refine .directive (List.takeWhile_append_dropWhile.symm.trans (congrArg _ inside.symm))
        ?_ ?_ ?_ ?_
      · exact fun c member => by simpa using List.mem_takeWhile_imp member
      · rw [inside]
        exact fun c first => by simpa using stop_dropWhile _ _ c first
      · exact fun c member => by simpa using List.mem_takeWhile_imp member
      · exact fun c first => by simpa using stop_dropWhile _ _ c first
  | blockStart =>
      cases h
      exact .block (withoutFront_after? _ _) (withoutBack_before? _ _)
  | blockEnd | ending => cases h

theorem Node.ofToken?_of_kind {t : Token} (notBlockEnd : t.kind ≠ .blockEnd)
    (notEnding : t.kind ≠ .ending) : ∃ n, ofToken? t = some n := by
  obtain ⟨kind, value, p⟩ := t
  cases kind with
  | blockEnd => exact absurd rfl notBlockEnd
  | ending => exact absurd rfl notEnding
  | _ => exact ⟨_, rfl⟩

/-- The nodes of a row of tokens, one each. -/
def Node.OfRow (nodes : List Node) (row : List Token) : Prop :=
  List.Forall₂ (fun n t => ofToken? t = some n) nodes row

theorem Node.exists_ofRow {row : List Token} (noBlockEnd : ∀ t ∈ row, t.kind ≠ .blockEnd)
    (noEnding : ∀ t ∈ row, t.kind ≠ .ending) : ∃ nodes, OfRow nodes row := by
  induction row with
  | nil => exact ⟨[], .nil⟩
  | cons t row ih =>
      rw [List.forall_mem_cons] at noBlockEnd noEnding
      obtain ⟨n, isNode⟩ := ofToken?_of_kind noBlockEnd.1 noEnding.1
      obtain ⟨nodes, others⟩ := ih noBlockEnd.2 noEnding.2
      exact ⟨n :: nodes, .cons isNode others⟩

/-! ## Reading -/

theorem Token.kind_of_mem_beforeEnd {tokens : List Token} {t : Token}
    (h : t ∈ beforeEnd tokens) : t.kind ≠ .ending := by
  simpa using List.mem_takeWhile_imp h

namespace Cursor

/-- The tokens before the first end, and the end behind them. -/
theorem closed_split (tokens : List Token) :
    ∃ ending rest, closed tokens = Token.beforeEnd tokens ++ ending :: rest ∧
      ending.kind = .ending := by
  obtain ⟨last, isLast, isEnding⟩ := closed_ends tokens
  rw [← beforeEnd_closed, Token.beforeEnd]
  have whole := List.takeWhile_append_dropWhile
    (p := fun t : Token => decide (t.kind ≠ .ending)) (l := closed tokens)
  cases left : (closed tokens).dropWhile fun t => decide (t.kind ≠ .ending) with
  | nil =>
      rw [left, List.append_nil] at whole
      have member := List.mem_of_getLast? isLast
      rw [← whole] at member
      exact absurd isEnding (Token.kind_of_mem_beforeEnd member)
  | cons ending rest =>
      have stops := List.head?_dropWhile_not (fun t : Token => decide (t.kind ≠ .ending))
        (closed tokens)
      rw [left] at stops whole
      exact ⟨ending, rest, whole.symm, by simpa using stops⟩

theorem read_ofTokens {tokens : List Token} {first : Token} {ahead : List Token}
    (row : closed tokens = first :: ahead) (template : String) :
    read template (.ofTokens tokens) = readFrom template [] first ahead := by
  rw [read, ofTokens, row]

/-- Reading passes over tokens that have nodes. -/
theorem readFrom_append (template : String) {nodes : List Node} {before : List Token}
    (made : Node.OfRow nodes before) (noEnding : ∀ u ∈ before, u.kind ≠ .ending) {t first : Token}
    {rest ahead : List Token} (row : first :: ahead = before ++ t :: rest) (passed : List Token) :
    readFrom template passed first ahead =
      let stopped := readFrom template (before.reverse ++ passed) t rest
      (stopped.1.map (nodes ++ ·), stopped.2) := by
  induction made generalizing passed first ahead with
  | nil =>
      obtain ⟨rfl, rfl⟩ := List.cons_eq_cons.1 row
      simp only [List.reverse_nil, List.nil_append]
      generalize readFrom template passed first ahead = stopped
      obtain ⟨made | e, c⟩ := stopped <;> rfl
  | @cons n b nodes before isNode others ih =>
      rw [List.forall_mem_cons] at noEnding
      obtain ⟨rfl, isAhead⟩ := List.cons_eq_cons.1 (row.trans (List.cons_append ..))
      obtain ⟨next, more, shape⟩ := List.exists_cons_of_ne_nil
        (List.append_ne_nil_of_right_ne_nil before (List.cons_ne_nil t rest))
      rw [isAhead, shape, readFrom, if_neg noEnding.1, isNode, ih noEnding.2 shape.symm]
      simp only [List.reverse_cons, List.append_assoc, List.singleton_append]
      generalize readFrom template _ t rest = stopped
      obtain ⟨made | e, c⟩ := stopped <;> rfl

/-- What reading a row of tokens comes to: the tree, and the cursor as it is left. -/
structure Reading (template : String) (tokens : List Token) (tree : Except SyntaxError Node)
    (cursor : Cursor) : Prop where
  /-- The row is kept. An end is put behind it if there is none. -/
  whole : cursor.tokens = closed tokens
  /-- The marks of blocks' ends before the first end are what fails. -/
  fails_iff : (∃ e, tree = .error e) ↔ ∃ t ∈ Token.beforeEnd tokens, t.kind = .blockEnd
  /-- The error is that of the first mark, and the cursor stays there. -/
  refused : ∀ before t after, Token.beforeEnd tokens = before ++ t :: after → t.kind = .blockEnd →
    (∀ u ∈ before, u.kind ≠ .blockEnd) →
      tree = .error ⟨"Expected Text, got Block End", template, t.position⟩ ∧
        cursor.passed.reverse = before ∧ cursor.current = t
  /-- Without a mark there is a node for each token before the first end, where the cursor stays. -/
  accepted : (∀ t ∈ Token.beforeEnd tokens, t.kind ≠ .blockEnd) →
    ∃ nodes, tree = .ok (.root nodes) ∧
      List.Forall₂ Node.Shows nodes (Token.beforeEnd tokens) ∧
      cursor.passed.reverse = Token.beforeEnd tokens ∧ cursor.current.kind = .ending

/-- Reading comes to the first token that has no node, with the nodes of those before it. -/
theorem read_eq (template : String) {tokens before rest : List Token} {t : Token}
    (row : closed tokens = before ++ t :: rest) (noBlockEnd : ∀ u ∈ before, u.kind ≠ .blockEnd)
    (noEnding : ∀ u ∈ before, u.kind ≠ .ending) :
    ∃ nodes, Node.OfRow nodes before ∧ read template (.ofTokens tokens) =
      let stopped := readFrom template before.reverse t rest
      (stopped.1.map (nodes ++ ·), stopped.2) := by
  obtain ⟨nodes, made⟩ := Node.exists_ofRow noBlockEnd noEnding
  obtain ⟨first, ahead, shape⟩ := List.exists_cons_of_ne_nil
    (List.append_ne_nil_of_right_ne_nil before (List.cons_ne_nil t rest))
  refine ⟨nodes, made, ?_⟩
  rw [read_ofTokens (row.trans shape), readFrom_append template made noEnding shape.symm,
    List.append_nil]

theorem read_blockEnd (template : String) {tokens before after : List Token} {t : Token}
    (row : Token.beforeEnd tokens = before ++ t :: after) (isBlockEnd : t.kind = .blockEnd)
    (first : ∀ u ∈ before, u.kind ≠ .blockEnd) :
    ∃ rest, read template (.ofTokens tokens) =
      (.error (.unexpected template .text t), ⟨before.reverse, t, rest⟩) := by
  obtain ⟨ending, rest, split, -⟩ := closed_split tokens
  rw [row, List.append_assoc, List.cons_append] at split
  have noEnding : ∀ u ∈ before, u.kind ≠ .ending := fun u member =>
    Token.kind_of_mem_beforeEnd (row ▸ List.mem_append_left _ member)
  obtain ⟨nodes, -, read⟩ := read_eq template split first noEnding
  have noNode : Node.ofToken? t = none := by simp [Node.ofToken?, isBlockEnd]
  obtain ⟨next, more, shape⟩ := List.exists_cons_of_ne_nil
    (List.append_ne_nil_of_right_ne_nil after (List.cons_ne_nil ending rest))
  refine ⟨after ++ ending :: rest, ?_⟩
  rw [read, shape, readFrom, if_neg (by simp [isBlockEnd]), noNode]
  rfl

theorem read_ending (template : String) {tokens : List Token}
    (noBlockEnd : ∀ t ∈ Token.beforeEnd tokens, t.kind ≠ .blockEnd) :
    ∃ nodes ending rest, Node.OfRow nodes (Token.beforeEnd tokens) ∧ ending.kind = .ending ∧
      read template (.ofTokens tokens) =
        (.ok nodes, ⟨(Token.beforeEnd tokens).reverse, ending, rest⟩) := by
  obtain ⟨ending, rest, split, isEnding⟩ := closed_split tokens
  obtain ⟨nodes, made, read⟩ := read_eq template split noBlockEnd
    fun u => Token.kind_of_mem_beforeEnd
  refine ⟨nodes, ending, rest, made, isEnding, ?_⟩
  rw [read]
  cases rest <;> simp [readFrom, isEnding, Except.map]

end Cursor

theorem Cursor.reading (template : String) (tokens : List Token) :
    Reading template tokens (Node.ofTokens template tokens)
      (read template (.ofTokens tokens)).2 where
  whole := by rw [read_tokens, ofTokens_tokens]
  fails_iff := by
    constructor
    · rintro ⟨e, failed⟩
      by_contra! noBlockEnd
      obtain ⟨nodes, ending, rest, -, -, read⟩ := read_ending template noBlockEnd
      rw [Node.ofTokens, read] at failed
      cases failed
    · rintro ⟨t, member, isBlockEnd⟩
      obtain ⟨t, found⟩ := Option.isSome_iff_exists.1
        ((List.find?_isSome (p := fun t : Token => decide (t.kind = .blockEnd))).2
          ⟨t, member, decide_eq_true isBlockEnd⟩)
      obtain ⟨isFirst, before, after, row, others⟩ := List.find?_eq_some_iff_append.1 found
      obtain ⟨rest, read⟩ := read_blockEnd template row (of_decide_eq_true isFirst)
        fun u inFront => by simpa using others u inFront
      rw [Node.ofTokens, read]
      exact ⟨_, rfl⟩
  refused := by
    intro before t after row isBlockEnd first
    obtain ⟨rest, read⟩ := read_blockEnd template row isBlockEnd first
    rw [Node.ofTokens, read]
    refine ⟨?_, List.reverse_reverse before, rfl⟩
    simp [Except.map, SyntaxError.unexpected, isBlockEnd, TokenKind.label]
  accepted := by
    intro noBlockEnd
    obtain ⟨nodes, ending, rest, made, isEnding, read⟩ := read_ending template noBlockEnd
    rw [Node.ofTokens, read]
    exact ⟨nodes, rfl, made.imp fun _ _ => Node.shows_of_ofToken?, List.reverse_reverse _, isEnding⟩

/-! ## Sources -/

/-- Whether the content of a tag marks the end of a block. -/
def Piece.MarksEnd (content : List Char) : Prop := ['%', '\x7d'] <+: trimmed content

theorem TokenKind.ofContent_eq_blockEnd {content : List Char} :
    ofContent content = .blockEnd ↔ ['%', '\x7d'] <+: content := by
  constructor
  · intro isBlockEnd
    unfold ofContent at isBlockEnd
    split at isBlockEnd <;> first | exact ⟨_, rfl⟩ | cases isBlockEnd
  · rintro ⟨rest, rfl⟩
    rfl

theorem Piece.kind_tag (p : Position) (content : List Char) :
    ((Piece.tag content).token p).kind = .blockEnd ↔ MarksEnd content :=
  TokenKind.ofContent_eq_blockEnd

theorem Delimiters.beforeEnd_tokens (d : Delimiters) (source : String) :
    Token.beforeEnd (d.tokens source) = (tiled d .start (pieces d source.toList)).map Prod.fst := by
  have tiles := (pieces_cutUp d source.toList).tiles
  rw [tokens, placed_eq, Token.beforeEnd, List.takeWhile_append_of_pos]
  · simp [Token.endingAt]
  · intro t member
    obtain ⟨entry, inRow, rfl⟩ := List.mem_map.1 member
    simpa using tiles.noEnd entry inRow

/-- A token that marks the end of a block comes from a tag that does. -/
theorem Piece.marksEnd_of_tiled {d : Delimiters} {p : Position} {row : List Piece} {t : Token}
    (h : t ∈ (tiled d p row).map Prod.fst) (isBlockEnd : t.kind = .blockEnd) :
    ∃ content, Piece.tag content ∈ row ∧ MarksEnd content := by
  obtain ⟨entry, inRow, rfl⟩ := List.mem_map.1 h
  obtain ⟨before, after, split⟩ := List.append_of_mem inRow
  obtain ⟨front, piece, back, rfl, rfl, -⟩ := tiled_split split
  cases piece with
  | text cs => cases isBlockEnd
  | tag content => exact ⟨content, by simp, (kind_tag _ content).1 isBlockEnd⟩

namespace Compiler

theorem compile_eq_error (c : Compiler) {source name : String} {e : SyntaxError} :
    c.compile source name = .error e ↔
      Node.ofTokens name (c.delimiters.tokens source) = .error e := by
  rw [compile, compileNoted, parse]
  cases Node.ofTokens name (c.delimiters.tokens source) <;> simp [Except.map]

/-- What makes a compiler refuse a source, whatever its directives, escaper and visitors are. -/
structure Refuses (c : Compiler) (source name : String) : Prop where
  /-- A source is refused exactly for the tags in it that mark the end of a block. -/
  fails_iff : (∃ e, c.compile source name = .error e) ↔
    ∃ content, Piece.tag content ∈ pieces c.delimiters source.toList ∧ Piece.MarksEnd content
  /-- The error is located where the first of them begins. -/
  located : ∀ before content after,
    pieces c.delimiters source.toList = before ++ .tag content :: after → Piece.MarksEnd content →
    (∀ other, Piece.tag other ∈ before → ¬Piece.MarksEnd other) →
      c.compile source name = .error ⟨"Expected Text, got Block End", name,
        .behind (before.flatMap (Piece.source c.delimiters))⟩

theorem tokens_of_pieces {d : Delimiters} {source : String} {before after : List Piece}
    {content : List Char}
    (row : pieces d source.toList = before ++ .tag content :: after) :
    ∃ others, Token.beforeEnd (d.tokens source) =
      (tiled d .start before).map Prod.fst ++
        (Piece.tag content).token (.behind (before.flatMap (Piece.source d))) :: others := by
  rw [Delimiters.beforeEnd_tokens, row, tiled_append, List.map_append, Position.start_after, tiled,
    List.map_cons]
  exact ⟨_, rfl⟩

theorem refuses (c : Compiler) (source name : String) : c.Refuses source name where
  fails_iff := by
    simp only [compile_eq_error, (Cursor.reading name (c.delimiters.tokens source)).fails_iff]
    constructor
    · rintro ⟨t, member, isBlockEnd⟩
      rw [Delimiters.beforeEnd_tokens] at member
      exact Piece.marksEnd_of_tiled member isBlockEnd
    · rintro ⟨content, member, marks⟩
      obtain ⟨before, after, row⟩ := List.append_of_mem member
      obtain ⟨others, tokens⟩ := tokens_of_pieces row
      exact ⟨_, tokens ▸ List.mem_append_right _ List.mem_cons_self, (Piece.kind_tag _ _).2 marks⟩
  located := by
    intro before content after row marks first
    obtain ⟨others, tokens⟩ := tokens_of_pieces row
    have unmarked : ∀ u ∈ (tiled c.delimiters .start before).map Prod.fst, u.kind ≠ .blockEnd := by
      intro u member isBlockEnd
      obtain ⟨other, inFront, marksToo⟩ := Piece.marksEnd_of_tiled member isBlockEnd
      exact first other inFront marksToo
    have refused := (Cursor.reading name (c.delimiters.tokens source)).refused _ _ _ tokens
      ((Piece.kind_tag _ _).2 marks) unmarked
    rw [compile_eq_error, refused.1]
    rfl

/-- Reading fails on the marks of blocks' ends alone, at the first of them, and gives one node for each
token otherwise. So compiling fails on the tags that begin with such a mark alone. -/
theorem refuses_block_ends :
    (∀ template tokens, Cursor.Reading template tokens (Node.ofTokens template tokens)
      (Cursor.read template (.ofTokens tokens)).2) ∧
    ∀ (c : Compiler) source name, c.Refuses source name :=
  ⟨Cursor.reading, refuses⟩

end Compiler

end Stencil
