import Stencil.Proofs.Compiler.Instructions

/-!
# Calls of a cursor

Whatever is asked of a cursor and in whatever order, it stands on a token of a row that ends with
the end of a source. Until it gets another row it moves forward only, by one token at a time, and
stays on the last one.

The same can be had from a row and a position in it that may run out of the row by one. What is
looked at there is the last token. A row without tokens would have none to look at, and in one
without an end reading would go on for ever; but such rows do not come up.

1. `Call`, `Cursor.run`: rows of calls and the replies to them.
2. `Stream.Runs`: the same for a row with a position.
3. `Stream.Marks`, `Stream.exists_runs`: both give the same replies.
4. `Cursor.Advances`, `Cursor.calls_only_advance`: what holds after any calls.
-/

namespace Stencil

/-! ## Calls -/

/-- What is asked of a cursor. -/
inductive Call where
  | set (tokens : List Token)
  | parse (tokens : List Token)
  | current
  | next
  | test (kind : TokenKind)
  | expect (kind : TokenKind)

/-- Whether the cursor gets another row of tokens. -/
def Call.resets : Call → Bool
  | set _ | parse _ => true
  | current | next | test _ | expect _ => false

/-- What a call gives. -/
inductive Reply where
  | done
  | tree (result : Except SyntaxError Node)
  | token (t : Token)
  | verdict (holds : Bool)
  | taken (result : Except SyntaxError Token)

namespace Cursor

/-- The cursor before the first call, on an end and nothing else. -/
def fresh : Cursor := ofTokens []

/-- The reply to a call, and the cursor after it. -/
def reply (template : String) (c : Cursor) : Call → Reply × Cursor
  | .set tokens => (.done, ofTokens tokens)
  | .parse tokens =>
      let (nodes, c) := read template (ofTokens tokens)
      (.tree (nodes.map .root), c)
  | .current => (.token c.current, c)
  | .next => (.token c.next.current, c.next)
  | .test kind => (.verdict (c.test kind), c)
  | .expect kind =>
      let (result, c) := expect template c kind
      (.taken result, c)

/-- The replies to calls one after the other, and the cursor after them. -/
def run (template : String) (c : Cursor) : List Call → List Reply × Cursor
  | [] => ([], c)
  | call :: rest =>
      let (first, c) := c.reply template call
      let (others, c) := run template c rest
      (first :: others, c)

/-- The number of tokens in front of the current one. -/
def place (c : Cursor) : Nat := c.passed.length

end Cursor

/-! ## Positions -/

/-- A row of tokens and a position in it or behind it. -/
structure Stream where
  tokens : List Token
  position : Nat

namespace Stream

/-- The first position of an end and nothing else. -/
def fresh : Stream := ⟨[.endingAt .start], 0⟩

/-- The first position of a row that ends with an end. -/
def set (tokens : List Token) : Stream := ⟨Cursor.closed tokens, 0⟩

/-- The token at the position, and behind the row the last one, if there is any. -/
def current? (s : Stream) : Option Token := s.tokens[min s.position (s.tokens.length - 1)]?

/-- The next position, up to the one behind the row. -/
def next (s : Stream) : Stream :=
  if s.position < s.tokens.length then { s with position := s.position + 1 } else s

/-- The token at the position, if it has the kind, and the position after it. -/
def expect? (template : String) (s : Stream) (kind : TokenKind) :
    Option (Except SyntaxError Token × Stream) :=
  s.current?.map fun t =>
    if t.kind = kind then (.ok t, s.next) else (.error (.unexpected template kind t), s)

/-- Reading from a position on: the nodes of the tokens up to an end, or the error at the first
token that has no node. -/
inductive Reads (template : String) : Stream → Except SyntaxError (List Node) → Stream → Prop
  | ending {s : Stream} {t : Token} :
      s.current? = some t → t.kind = .ending → Reads template s (.ok []) s
  | refused {s : Stream} {t : Token} {e : SyntaxError} :
      s.current? = some t → t.kind ≠ .ending → t.node template = .error e →
        Reads template s (.error e) s
  | node {s after : Stream} {t : Token} {n : Node} {rest : Except SyntaxError (List Node)} :
      s.current? = some t → t.kind ≠ .ending → t.node template = .ok n →
        Reads template s.next rest after → Reads template s (rest.map (n :: ·)) after

/-- The reply to a call at a position, and the position after it. -/
inductive Replies (template : String) : Stream → Call → Reply → Stream → Prop
  | set {s : Stream} {tokens : List Token} : Replies template s (.set tokens) .done (set tokens)
  | parse {s after : Stream} {tokens : List Token} {nodes : Except SyntaxError (List Node)} :
      Reads template (set tokens) nodes after →
        Replies template s (.parse tokens) (.tree (nodes.map .root)) after
  | current {s : Stream} {t : Token} :
      s.current? = some t → Replies template s .current (.token t) s
  | next {s : Stream} {t : Token} :
      s.next.current? = some t → Replies template s .next (.token t) s.next
  | test {s : Stream} {t : Token} {kind : TokenKind} :
      s.current? = some t → Replies template s (.test kind) (.verdict (t.kind = kind)) s
  | expect {s after : Stream} {kind : TokenKind} {result : Except SyntaxError Token} :
      s.expect? template kind = some (result, after) →
        Replies template s (.expect kind) (.taken result) after

/-- The replies to calls one after the other, and the position after them. -/
inductive Runs (template : String) : Stream → List Call → List Reply → Stream → Prop
  | nil {s : Stream} : Runs template s [] [] s
  | cons {s between after : Stream} {call : Call} {first : Reply} {rest : List Call}
      {others : List Reply} :
      Replies template s call first between → Runs template between rest others after →
        Runs template s (call :: rest) (first :: others) after

variable {template : String} {s : Stream}

theorem Reads.unique {nodes nodes' : Except SyntaxError (List Node)} {after after' : Stream}
    (h : Reads template s nodes after) (h' : Reads template s nodes' after') :
    nodes = nodes' ∧ after = after' := by
  induction h generalizing nodes' with
  | ending found isEnding =>
      cases h' with
      | ending => exact ⟨rfl, rfl⟩
      | refused found' other | node found' other =>
          cases found.symm.trans found'
          exact absurd isEnding other
  | refused found other made =>
      cases h' with
      | ending found' isEnding =>
          cases found.symm.trans found'
          exact absurd isEnding other
      | refused found' _ made' =>
          cases found.symm.trans found'
          cases made.symm.trans made'
          exact ⟨rfl, rfl⟩
      | node found' _ made' =>
          cases found.symm.trans found'
          cases made.symm.trans made'
  | node found other made _ ih =>
      cases h' with
      | ending found' isEnding =>
          cases found.symm.trans found'
          exact absurd isEnding other
      | refused found' _ made' =>
          cases found.symm.trans found'
          cases made.symm.trans made'
      | node found' _ made' further =>
          cases found.symm.trans found'
          cases made.symm.trans made'
          obtain ⟨rfl, rfl⟩ := ih further
          exact ⟨rfl, rfl⟩

theorem Replies.unique {call : Call} {a a' : Reply} {after after' : Stream}
    (h : Replies template s call a after) (h' : Replies template s call a' after') :
    a = a' ∧ after = after' := by
  cases h with
  | set =>
      cases h'
      exact ⟨rfl, rfl⟩
  | parse reads =>
      cases h' with
      | parse reads' =>
          obtain ⟨rfl, rfl⟩ := reads.unique reads'
          exact ⟨rfl, rfl⟩
  | current found | next found | test found | expect found =>
      cases h'
      rename_i found'
      cases found.symm.trans found'
      exact ⟨rfl, rfl⟩

theorem Runs.unique {calls : List Call} {replies replies' : List Reply} {after after' : Stream}
    (h : Runs template s calls replies after) (h' : Runs template s calls replies' after') :
    replies = replies' ∧ after = after' := by
  induction h generalizing replies' with
  | nil =>
      cases h'
      exact ⟨rfl, rfl⟩
  | cons first _ ih =>
      cases h' with
      | cons first' others' =>
          obtain ⟨rfl, rfl⟩ := first.unique first'
          obtain ⟨rfl, rfl⟩ := ih others'
          exact ⟨rfl, rfl⟩

end Stream

/-! ## Cursors and positions -/

namespace Cursor

theorem getElem?_place (c : Cursor) : c.tokens[c.place]? = some c.current := by
  rw [tokens, place, ← List.length_reverse, List.getElem?_append_right (Nat.le_refl _),
    Nat.sub_self]
  rfl

theorem length_tokens (c : Cursor) : c.tokens.length = c.place + 1 + c.ahead.length := by
  rw [tokens, place, List.length_append, List.length_reverse, List.length_cons]
  omega

/-- A move leads to the next token, if there is one. -/
theorem place_next (c : Cursor) : c.next.place = min (c.place + 1) (c.tokens.length - 1) := by
  rw [length_tokens]
  obtain ⟨passed, current, _ | ⟨t, rest⟩⟩ := c
  · show passed.length = min (passed.length + 1) (passed.length + 1 + 0 - 1)
    omega
  · show passed.length + 1 = min (passed.length + 1) (passed.length + 1 + (rest.length + 1) - 1)
    omega

theorem place_ofTokens (tokens : List Token) : (ofTokens tokens).place = 0 := by
  unfold ofTokens
  split <;> rfl

/-- A cursor on the last token of its row stands on an end. -/
theorem Ends.kind_of_last {c : Cursor} (h : c.Ends) (last : c.ahead = []) :
    c.current.kind = .ending := by
  obtain ⟨t, isLast, isEnding⟩ := h
  rw [tokens, last, List.getLast?_concat] at isLast
  exact Option.some.inj isLast ▸ isEnding

theorem expect_of_kind (template : String) {c : Cursor} {kind : TokenKind}
    (isKind : c.current.kind = kind) : c.expect template kind = (.ok c.current, c.next) :=
  if_pos (decide_eq_true isKind)

theorem expect_of_ne (template : String) {c : Cursor} {kind : TokenKind}
    (other : c.current.kind ≠ kind) :
    c.expect template kind = (.error (.unexpected template kind c.current), c) :=
  if_neg fun isKind => other (of_decide_eq_true isKind)

end Cursor

namespace Stream

variable {template : String} {s : Stream} {c : Cursor}

/-- The position is that of the cursor in the same row. All positions behind the last token come to
that of the last token. -/
structure Marks (s : Stream) (c : Cursor) : Prop where
  tokens : s.tokens = c.tokens
  place : min s.position (s.tokens.length - 1) = c.place

theorem Marks.current? (h : s.Marks c) : s.current? = some c.current := by
  rw [Stream.current?, h.place, h.tokens, c.getElem?_place]

theorem marks_set (tokens : List Token) : (set tokens).Marks (.ofTokens tokens) where
  tokens := (Cursor.ofTokens_tokens tokens).symm
  place := (Nat.zero_min _).trans (Cursor.place_ofTokens tokens).symm

theorem tokens_next (s : Stream) : s.next.tokens = s.tokens := by
  rw [next]
  split <;> rfl

theorem Marks.next (h : s.Marks c) : s.next.Marks c.next where
  tokens := by rw [tokens_next, h.tokens, c.next_tokens]
  place := by
    have place := h.place
    have length := c.length_tokens
    rw [c.place_next, tokens_next, ← h.tokens, Stream.next]
    rw [← h.tokens] at length
    split
    · show min (s.position + 1) _ = _
      omega
    · omega

theorem exists_reads (template : String) {passed ahead : List Token} {current : Token}
    (marks : s.Marks ⟨passed, current, ahead⟩) (ends : (Cursor.mk passed current ahead).Ends) :
    ∃ after, Reads template s (Cursor.readFrom template passed current ahead).1 after ∧
      after.Marks (Cursor.readFrom template passed current ahead).2 := by
  induction ahead generalizing s passed current with
  | nil =>
      have isEnding : current.kind = .ending := ends.kind_of_last rfl
      rw [Cursor.readFrom, if_pos isEnding]
      exact ⟨s, .ending marks.current? isEnding, marks⟩
  | cons t rest ih =>
      rw [Cursor.readFrom]
      by_cases isEnding : current.kind = .ending
      · rw [if_pos isEnding]
        exact ⟨s, .ending marks.current? isEnding, marks⟩
      · rw [if_neg isEnding]
        cases found : Node.ofToken? current with
        | none =>
            have made : current.node template = .error (.unexpected template .text current) := by
              rw [Token.node, found]
            exact ⟨s, .refused marks.current? isEnding made, marks⟩
        | some n =>
            have made : current.node template = .ok n := by rw [Token.node, found]
            obtain ⟨after, reads, further⟩ := ih marks.next (Cursor.next_ends ends)
            have read := Reads.node marks.current? isEnding made reads
            generalize Cursor.readFrom template (current :: passed) t rest = stopped at *
            obtain ⟨nodes | e, stop⟩ := stopped <;> exact ⟨after, read, further⟩

/-- What a cursor replies is the reply at its position. -/
theorem exists_replies (template : String) (marks : s.Marks c) (call : Call) :
    ∃ after, Replies template s call (c.reply template call).1 after ∧
      after.Marks (c.reply template call).2 := by
  cases call with
  | set tokens => exact ⟨_, .set, marks_set tokens⟩
  | parse tokens =>
      obtain ⟨after, reads, further⟩ :=
        exists_reads template (marks_set tokens) (Cursor.ofTokens_ends tokens)
      exact ⟨after, .parse reads, further⟩
  | current => exact ⟨s, .current marks.current?, marks⟩
  | next => exact ⟨s.next, .next marks.next.current?, marks.next⟩
  | test kind => exact ⟨s, .test marks.current?, marks⟩
  | expect kind =>
      by_cases isKind : c.current.kind = kind
      · have found : s.expect? template kind = some (.ok c.current, s.next) := by
          rw [expect?, marks.current?, Option.map_some, if_pos isKind]
        rw [Cursor.reply, Cursor.expect_of_kind template isKind]
        exact ⟨s.next, .expect found, marks.next⟩
      · have found : s.expect? template kind =
            some (.error (.unexpected template kind c.current), s) := by
          rw [expect?, marks.current?, Option.map_some, if_neg isKind]
        rw [Cursor.reply, Cursor.expect_of_ne template isKind]
        exact ⟨s, .expect found, marks⟩

theorem exists_runs (template : String) (marks : s.Marks c) (calls : List Call) :
    ∃ after, Runs template s calls (c.run template calls).1 after ∧
      after.Marks (c.run template calls).2 := by
  induction calls generalizing s c with
  | nil => exact ⟨s, .nil, marks⟩
  | cons call rest ih =>
      obtain ⟨between, first, further⟩ := exists_replies template marks call
      obtain ⟨after, others, last⟩ := ih further
      exact ⟨after, .cons first others, last⟩

end Stream

/-! ## Moves -/

namespace Cursor

variable {template : String} {c : Cursor}

/-- A call that gives the cursor no other row leaves it where it is or moves it on by one token. -/
theorem reply_moves (template : String) (c : Cursor) {call : Call}
    (noReset : call.resets = false) :
    (c.reply template call).2 = c ∨ (c.reply template call).2 = c.next := by
  cases call with
  | set tokens | parse tokens => cases noReset
  | current | test kind => exact .inl rfl
  | next => exact .inr rfl
  | expect kind =>
      by_cases isKind : c.current.kind = kind
      · rw [reply, expect_of_kind template isKind]
        exact .inr rfl
      · rw [reply, expect_of_ne template isKind]
        exact .inl rfl

theorem reply_ends (h : c.Ends) (call : Call) : (c.reply template call).2.Ends := by
  cases resets : call.resets with
  | true =>
      cases call with
      | set tokens => exact ofTokens_ends tokens
      | parse tokens => exact read_ends template (ofTokens_ends tokens)
      | current | next | test kind | expect kind => cases resets
  | false =>
      rcases reply_moves template c resets with stays | moves
      · rwa [stays]
      · rw [moves]
        exact next_ends h

theorem run_ends (h : c.Ends) (calls : List Call) : (c.run template calls).2.Ends := by
  induction calls generalizing c with
  | nil => exact h
  | cons call rest ih => exact ih (reply_ends h call)

theorem next_of_last (last : c.ahead = []) : c.next = c := by rw [next, last]

theorem place_le_next (c : Cursor) : c.place ≤ c.next.place := by
  have length := c.length_tokens
  rw [c.place_next]
  omega

theorem ahead_of_place (last : c.place + 1 = c.tokens.length) : c.ahead = [] := by
  have length := c.length_tokens
  exact List.length_eq_zero_iff.1 (by omega)

theorem run_cons (template : String) (c : Cursor) (call : Call) (rest : List Call) :
    (c.run template (call :: rest)).2 = ((c.reply template call).2.run template rest).2 := rfl

theorem run_forward (template : String) (c : Cursor) {calls : List Call}
    (noReset : ∀ call ∈ calls, call.resets = false) :
    (c.run template calls).2.tokens = c.tokens ∧ c.place ≤ (c.run template calls).2.place := by
  induction calls generalizing c with
  | nil => exact ⟨rfl, Nat.le_refl _⟩
  | cons call rest ih =>
      obtain ⟨first, others⟩ := List.forall_mem_cons.1 noReset
      obtain ⟨sameRow, forward⟩ := ih (c.reply template call).2 others
      rcases reply_moves template c first with stays | moves
      · rw [stays] at sameRow forward
        rw [run_cons, stays]
        exact ⟨sameRow, forward⟩
      · rw [moves] at sameRow forward
        rw [run_cons, moves]
        exact ⟨sameRow.trans c.next_tokens, Nat.le_trans c.place_le_next forward⟩

/-- The last token is never left. -/
theorem run_of_last (template : String) (last : c.ahead = []) {calls : List Call}
    (noReset : ∀ call ∈ calls, call.resets = false) : (c.run template calls).2 = c := by
  induction calls with
  | nil => rfl
  | cons call rest ih =>
      obtain ⟨first, others⟩ := List.forall_mem_cons.1 noReset
      have stays : (c.reply template call).2 = c := by
        rcases reply_moves template c first with stays | moves
        · exact stays
        · exact moves.trans (next_of_last last)
      rw [run_cons, stays]
      exact ih others

/-! ## After any calls -/

/-- What holds of a cursor between any two calls. -/
structure Advances (template : String) (c : Cursor) : Prop where
  ends : c.Ends
  stands : c.tokens[c.place]? = some c.current
  next : c.next.tokens = c.tokens ∧ c.next.place = min (c.place + 1) (c.tokens.length - 1)
  taken : ∀ kind, c.current.kind = kind → c.expect template kind = (.ok c.current, c.next)
  refused : ∀ kind, c.current.kind ≠ kind →
    c.expect template kind = (.error ⟨"Expected " ++ kind.label ++ ", got " ++ c.current.kind.label,
      template, c.current.position⟩, c)
  forward : ∀ calls : List Call, (∀ call ∈ calls, call.resets = false) →
    (c.run template calls).2.tokens = c.tokens ∧ c.place ≤ (c.run template calls).2.place
  rests : c.place + 1 = c.tokens.length → c.current.kind = .ending ∧
    ∀ calls : List Call, (∀ call ∈ calls, call.resets = false) → (c.run template calls).2 = c

theorem Ends.advances (template : String) (h : c.Ends) : c.Advances template where
  ends := h
  stands := c.getElem?_place
  next := ⟨c.next_tokens, c.place_next⟩
  taken _ isKind := expect_of_kind template isKind
  refused _ other := expect_of_ne template other
  forward _ noReset := run_forward template c noReset
  rests last :=
    have nothingAhead := ahead_of_place last
    ⟨h.kind_of_last nothingAhead, fun _ noReset => run_of_last template nothingAhead noReset⟩

/-- After any calls a cursor moves forward only. A position that gets the same calls is on the same
token of the same row, and there are replies to them there, which are those of the cursor. -/
theorem calls_only_advance (template : String) (calls : List Call) :
    (fresh.run template calls).2.Advances template ∧
      ∃ s, Stream.Runs template .fresh calls (fresh.run template calls).1 s ∧
        s.Marks (fresh.run template calls).2 ∧
        s.current? = some (fresh.run template calls).2.current ∧
        ∀ replies s', Stream.Runs template .fresh calls replies s' →
          replies = (fresh.run template calls).1 ∧ s' = s := by
  have atStart : Stream.fresh.Marks fresh := ⟨rfl, rfl⟩
  obtain ⟨s, runs, marks⟩ := Stream.exists_runs template atStart calls
  have ends : (fresh.run template calls).2.Ends := run_ends (ofTokens_ends []) calls
  exact ⟨ends.advances template, s, runs, marks, marks.current?,
    fun _ _ others => others.unique runs⟩

end Cursor

end Stencil
