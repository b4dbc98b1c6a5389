import Stencil.Compiler

/-!
# From tokens to instructions

Without visitors, compiling is a map of single tokens: each token before the end has its node, each
node its instructions, and the first token without a node is the error.

1. `Node.ofTokens_eq`: the tree of a row of tokens.
2. `Compiler.compileNoted_eq`: the artifact of a source.
3. `Compiler.mem_instructions`: an instruction of an artifact comes from one token of the source.
-/

namespace Stencil

namespace Token

def beforeEnd (tokens : List Token) : List Token := tokens.takeWhile fun t => t.kind ≠ .ending

/-- The node of a token, or the error that it has none. -/
def node (template : String) (t : Token) : Except SyntaxError Node :=
  match Node.ofToken? t with
  | some node => .ok node
  | none => .error (.unexpected template .text t)

/-- The nodes of a row of tokens, up to the first error. -/
def nodes (template : String) (tokens : List Token) : Except SyntaxError (List Node) :=
  tokens.mapM (node template)

theorem nodes_cons (template : String) (t : Token) (rest : List Token) :
    nodes template (t :: rest) =
      (node template t).bind fun first => (nodes template rest).map (first :: ·) := by
  rw [nodes, List.mapM_cons]
  cases node template t with
  | error e => rfl
  | ok first =>
      show (nodes template rest).bind (fun more => .ok (first :: more)) = _
      cases nodes template rest <;> rfl

theorem mem_nodes {template : String} {tokens : List Token} {made : List Node}
    (h : nodes template tokens = .ok made) {n : Node} (member : n ∈ made) :
    ∃ t ∈ tokens, Node.ofToken? t = some n := by
  induction tokens generalizing made with
  | nil =>
      cases h
      cases member
  | cons t rest ih =>
      rw [nodes_cons] at h
      cases first : Node.ofToken? t with
      | none =>
          rw [node, first] at h
          cases h
      | some head =>
          rw [node, first] at h
          cases more : nodes template rest with
          | error e =>
              rw [more] at h
              cases h
          | ok tail =>
              rw [more] at h
              cases h
              rcases List.mem_cons.1 member with rfl | inTail
              · exact ⟨t, List.mem_cons_self, first⟩
              · obtain ⟨u, inRest, found⟩ := ih more inTail
                exact ⟨u, List.mem_cons_of_mem _ inRest, found⟩

end Token

theorem Cursor.readFrom_eq (template : String) (passed : List Token) (current : Token)
    (ahead : List Token) :
    (readFrom template passed current ahead).1 =
      Token.nodes template (Token.beforeEnd (current :: ahead)) := by
  induction ahead generalizing passed current with
  | nil =>
      by_cases h : current.kind = .ending
      · simp [readFrom, Token.beforeEnd, Token.nodes, h, pure, Except.pure]
      · rw [Token.beforeEnd, List.takeWhile_cons_of_pos (by simpa), Token.nodes_cons, readFrom,
          if_neg h]
        cases found : Node.ofToken? current <;> simp [Token.node, found] <;> rfl
  | cons t rest ih =>
      by_cases h : current.kind = .ending
      · simp [readFrom, Token.beforeEnd, Token.nodes, h, pure, Except.pure]
      · rw [Token.beforeEnd, List.takeWhile_cons_of_pos (by simpa), Token.nodes_cons, readFrom,
          if_neg h]
        have further := ih (current :: passed) t
        rw [Token.beforeEnd] at further
        rw [← further]
        cases found : Node.ofToken? current with
        | none => simp [Token.node, found, Except.bind]
        | some node =>
            simp only [Token.node, found, Except.bind]
            generalize readFrom template (current :: passed) t rest = result
            obtain ⟨made | made, c⟩ := result <;> rfl

theorem Cursor.beforeEnd_closed (tokens : List Token) :
    Token.beforeEnd (closed tokens) = Token.beforeEnd tokens := by
  unfold closed
  split
  · next empty =>
    rw [List.getLast?_eq_none_iff.1 empty]
    rfl
  · split
    · rfl
    · simp only [Token.beforeEnd, Token.endingAt, List.takeWhile_append]
      split
      · next all =>
        have whole :=
          (List.takeWhile_prefix (fun t : Token => decide (t.kind ≠ .ending))).eq_of_length all
        rw [whole]
        simp
      · rfl

/-- The tree of a row of tokens has the nodes of the tokens before the end. -/
theorem Node.ofTokens_eq (template : String) (tokens : List Token) :
    Node.ofTokens template tokens =
      (Token.nodes template (Token.beforeEnd tokens)).map .root := by
  rw [Node.ofTokens, Cursor.read, Cursor.readFrom_eq, ← Cursor.beforeEnd_closed tokens,
    ← Cursor.ofTokens_tokens]
  unfold Cursor.ofTokens
  split <;> rfl

/-- The tokens of pieces that begin at a place, without the end of the source. -/
def Piece.tokens (d : Delimiters) (p : Position) : List Piece → List Token
  | [] => []
  | piece :: rest => piece.token p :: tokens d (p.after (piece.source d)) rest

theorem Piece.token_kind (p : Position) (piece : Piece) : (piece.token p).kind ≠ .ending := by
  cases piece with
  | text cs => simp [token]
  | tag content =>
      show TokenKind.ofContent (Text.trimmed content) ≠ .ending
      unfold TokenKind.ofContent
      split <;> simp

theorem beforeEnd_placed (d : Delimiters) (p : Position) (row : List Piece) :
    Token.beforeEnd (placed d p row) = Piece.tokens d p row := by
  induction row generalizing p with
  | nil => rfl
  | cons piece rest ih =>
      rw [placed, Token.beforeEnd, List.takeWhile_cons_of_pos (by simp [Piece.token_kind])]
      exact congrArg _ (ih _)

namespace Compiler

/-- The tokens of a source that have nodes. -/
def tags (c : Compiler) (source : String) : List Token :=
  Piece.tokens c.delimiters .start (pieces c.delimiters source.toList)

theorem tags_subset {c : Compiler} {source : String} {t : Token} (h : t ∈ c.tags source) :
    t ∈ c.delimiters.tokens source := by
  rw [tags, ← beforeEnd_placed] at h
  exact List.takeWhile_subset _ h

theorem instructionsAll_eq (c : Compiler) (nodes : List Node) :
    c.instructionsAll nodes = nodes.flatMap c.instructions := by
  induction nodes with
  | nil => simp [instructionsAll]
  | cons node rest ih => simp [instructionsAll, ih]

/-- The artifact of a source, where no visitor changes the tree. -/
theorem compileNoted_eq {c : Compiler} (noVisitors : c.visitors = []) (source name : String) :
    c.compileNoted source name =
      (Token.nodes name (c.tags source)).map fun nodes =>
        ⟨⟨Artifact.make name (nodes.flatMap c.instructions), []⟩, []⟩ := by
  rw [compileNoted, parse, Node.ofTokens_eq, Delimiters.tokens, beforeEnd_placed, tags]
  cases Token.nodes name (Piece.tokens c.delimiters .start (pieces c.delimiters source.toList)) with
  | error e => rfl
  | ok nodes => simp [Except.map, noVisitors, Visitor.visitAll, instructions, instructionsAll_eq]

/-- An instruction of an artifact comes from one token of the source. -/
theorem mem_instructions {c : Compiler} (noVisitors : c.visitors = []) {source name : String}
    {a : Artifact} (h : c.compile source name = .ok a) {i : Instruction}
    (member : i ∈ a.instructions) :
    ∃ t ∈ c.tags source, ∃ n, Node.ofToken? t = some n ∧ i ∈ c.instructions n := by
  rw [compile, compileNoted_eq noVisitors] at h
  cases read : Token.nodes name (c.tags source) with
  | error e =>
      rw [read] at h
      cases h
  | ok nodes =>
      rw [read] at h
      cases h
      obtain ⟨n, inNodes, found⟩ := List.mem_flatMap.1 member
      obtain ⟨t, inTags, isNode⟩ := Token.mem_nodes read inNodes
      exact ⟨t, inTags, n, isNode, found⟩

end Compiler

end Stencil
