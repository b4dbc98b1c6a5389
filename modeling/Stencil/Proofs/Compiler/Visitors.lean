import Mathlib.Data.List.FinRange
import Mathlib.Data.List.Induction
import Stencil.Compiler
import Stencil.Proofs.Node.Visits

/-!
# The order of visitors

Visitors run by falling priority, and those of one priority in the order in which they were
registered. A compiler puts its visitors in order each time that one is registered. That comes to
the same as putting all of them in order once: what is falling already, and has the visitors of each
priority in their order, keeps both when one more is put in. A compilation changes what visitors
remember, which has no part in their order.

1. `Arranges`, `Arranges.unique`: a row in falling order that keeps the order of equals is the only
   one.
2. `Visitor.runs`, `Visitor.sublist_runs_iff`: which visitor runs before which.
3. `Compiler.after_ordered`: what a registration and a compilation make of the visitors in order.
4. `Compiler.visitors_run_by_priority`: the compiler after a row of both, and what it compiles.
-/

namespace Stencil

/-! ## Rows in falling order -/

/-- The row has the items in falling order of their keys. Items with one key keep their order. -/
structure Arranges {α : Type} (key : α → Int) (items row : List α) : Prop where
  falling : row.Pairwise fun earlier later => key later ≤ key earlier
  keeps : ∀ k, row.filter (key · = k) = items.filter (key · = k)

namespace Arranges

variable {α : Type} {key : α → Int} {items row row' : List α}

theorem mem_iff (h : Arranges key items row) {a : α} : a ∈ row ↔ a ∈ items := by
  have same := congrArg (a ∈ ·) (h.keeps (key a))
  simpa using same

theorem head_le {a b : α} (h : Arranges key items (a :: row)) (member : b ∈ items) :
    key b ≤ key a := by
  rcases List.mem_cons.1 (h.mem_iff.2 member) with rfl | later
  · exact Int.le_refl _
  · exact (List.pairwise_cons.1 h.falling).1 b later

theorem unique (h : Arranges key items row) (h' : Arranges key items row') : row = row' := by
  induction row generalizing items row' with
  | nil =>
      have none : items = [] := List.eq_nil_iff_forall_not_mem.2 fun a member =>
        List.not_mem_nil (h.mem_iff.2 member)
      refine (List.eq_nil_iff_forall_not_mem.2 fun a member => ?_).symm
      exact List.not_mem_nil (none ▸ h'.mem_iff.1 member)
  | cons a row ih =>
      cases row' with
      | nil => exact absurd (h'.mem_iff.2 (h.mem_iff.1 List.mem_cons_self)) List.not_mem_nil
      | cons b row' =>
          have same : key a = key b := Int.le_antisymm
            (h'.head_le (h.mem_iff.1 List.mem_cons_self))
            (h.head_le (h'.mem_iff.1 List.mem_cons_self))
          have firsts := (h.keeps (key a)).trans (h'.keeps (key a)).symm
          rw [List.filter_cons_of_pos (by simp), List.filter_cons_of_pos (by simp [same])] at firsts
          obtain ⟨rfl, -⟩ := List.cons.inj firsts
          have rest : Arranges key row row := ⟨(List.pairwise_cons.1 h.falling).2, fun _ => rfl⟩
          have rest' : Arranges key row row' := by
            refine ⟨(List.pairwise_cons.1 h'.falling).2, fun k => ?_⟩
            have kept := (h'.keeps k).trans (h.keeps k).symm
            by_cases isKey : key a = k <;> simpa [List.filter_cons, isKey] using kept
          exact congrArg (a :: ·) (ih rest rest')

/-- A stable sort arranges the items. -/
theorem of_mergeSort (key : α → Int) (items : List α) :
    Arranges key items (items.mergeSort fun a b => key b ≤ key a) := by
  have trans (a b c : α) : decide (key b ≤ key a) = true → decide (key c ≤ key b) = true →
      decide (key c ≤ key a) = true := by
    simp only [decide_eq_true_eq]
    exact fun first second => Int.le_trans second first
  have total (a b : α) : (decide (key b ≤ key a) || decide (key a ≤ key b)) = true := by
    simpa using Int.le_total (key b) (key a)
  refine ⟨?_, fun k => ?_⟩
  · simpa using List.pairwise_mergeSort trans total items
  · -- The items with one key are a row in order, so sorting leaves that row as it is.
    have equals : (items.filter (key · = k)).Pairwise fun a b => decide (key b ≤ key a) = true := by
      refine List.pairwise_of_forall_mem_list fun a inA b inB => ?_
      simp only [List.mem_filter, decide_eq_true_eq] at inA inB ⊢
      exact Int.le_of_eq (inB.2.trans inA.2.symm)
    have kept := (List.sublist_mergeSort trans total equals List.filter_sublist).filter (key · = k)
    rw [List.filter_filter] at kept
    simp only [Bool.and_self] at kept
    refine (kept.eq_of_length ?_).symm
    exact (((List.mergeSort_perm items _).filter _).length_eq).symm

theorem map {β : Type} {f : β → α} {items row : List β}
    (h : Arranges (fun b => key (f b)) items row) : Arranges key (items.map f) (row.map f) := by
  refine ⟨List.pairwise_map.2 h.falling, fun k => ?_⟩
  rw [List.filter_map, List.filter_map]
  exact congrArg (List.map f) (h.keeps k)

/-- One more item that is put in. -/
theorem concat (h : Arranges key items row) (a : α) :
    Arranges key (items ++ [a]) ((row ++ [a]).mergeSort fun a b => key b ≤ key a) := by
  obtain ⟨falling, keeps⟩ := of_mergeSort key (row ++ [a])
  refine ⟨falling, fun k => ?_⟩
  rw [keeps, List.filter_append, List.filter_append, h.keeps]

end Arranges

/-! ## Registration -/

namespace Visitor

/-- Whether of two registered visitors the first is to run before the second: it has the higher
priority, or the same one and was registered earlier. -/
def RunsBefore (vs : List Visitor) (i j : Fin vs.length) : Prop :=
  vs[j].priority < vs[i].priority ∨ vs[i].priority = vs[j].priority ∧ i < j

/-- The registered visitors by their places, in the order in which they run. -/
def runs (vs : List Visitor) : List (Fin vs.length) :=
  (List.finRange vs.length).mergeSort fun i j => vs[j].priority ≤ vs[i].priority

theorem map_runs (vs : List Visitor) : (runs vs).map vs.get = ordered vs := by
  have sorted : (runs vs).map vs.get =
      ((List.finRange vs.length).map vs.get).mergeSort fun a b => b.priority ≤ a.priority :=
    List.map_mergeSort fun _ _ _ _ => rfl
  rw [sorted, List.map_get_finRange, ordered]

theorem arranges_runs (vs : List Visitor) :
    Arranges (fun i => vs[i].priority) (List.finRange vs.length) (runs vs) :=
  .of_mergeSort _ _

theorem RunsBefore.asymm {vs : List Visitor} {i j : Fin vs.length} (h : RunsBefore vs i j) :
    ¬RunsBefore vs j i := by
  unfold RunsBefore at h ⊢
  omega

/-- What stands in front in the row of runs is what is to run before. -/
theorem pairwise_runs (vs : List Visitor) : (runs vs).Pairwise (RunsBefore vs) := by
  obtain ⟨falling, keeps⟩ := arranges_runs vs
  refine List.pairwise_iff_forall_sublist.2 fun {i j} inOrder => ?_
  have notHigher := List.pairwise_iff_forall_sublist.1 falling inOrder
  rcases Int.lt_or_eq_of_le notHigher with lower | same
  · exact .inl lower
  · -- The visitors of one priority are still in the order of their places.
    have ofOnePriority := inOrder.filter fun k => decide (vs[k].priority = vs[i].priority)
    rw [keeps, List.filter_cons_of_pos (by simp), List.filter_cons_of_pos (by simpa using same),
      List.filter_nil] at ofOnePriority
    refine .inr ⟨same.symm, ?_⟩
    exact List.pairwise_iff_forall_sublist.1 (List.pairwise_lt_finRange vs.length)
      (ofOnePriority.trans List.filter_sublist)

theorem mem_runs (vs : List Visitor) (i : Fin vs.length) : i ∈ runs vs :=
  (arranges_runs vs).mem_iff.2 (List.mem_finRange i)

theorem nodup_runs (vs : List Visitor) : (runs vs).Nodup :=
  (List.mergeSort_perm _ _).nodup_iff.2 (List.nodup_finRange vs.length)

theorem sublist_runs_iff (vs : List Visitor) (i j : Fin vs.length) :
    [i, j].Sublist (runs vs) ↔ RunsBefore vs i j := by
  refine ⟨List.pairwise_iff_forall_sublist.1 (pairwise_runs vs), fun first => ?_⟩
  obtain ⟨before, after, split⟩ := List.append_of_mem (mem_runs vs i)
  have ordered := pairwise_runs vs
  have member := mem_runs vs j
  rw [split] at ordered member ⊢
  rcases List.mem_append.1 member with early | late
  · exact absurd ((List.pairwise_append.1 ordered).2.2 j early i List.mem_cons_self) first.asymm
  · rcases List.mem_cons.1 late with rfl | later
    · exact absurd first first.asymm
    · exact ((List.singleton_sublist.2 later).cons_cons i).trans (List.sublist_append_right _ _)

/-- What stands at the places of a row, put in order there, is the row of these visitors in order. -/
theorem ordered_ofFn (now : List Visitor) (later : Fin now.length → Visitor)
    (same : ∀ i, (later i).priority = now[i].priority) :
    ordered (List.ofFn later) = (runs now).map later := by
  have byPlace := arranges_runs now
  rw [← funext same] at byPlace
  have arranged : Arranges priority ((List.finRange now.length).map later)
      ((runs now).map later) := byPlace.map
  rw [← List.ofFn_eq_map] at arranged
  exact (Arranges.of_mergeSort priority (List.ofFn later)).unique arranged

end Visitor

namespace Compiler

/-- What one does with a compiler. -/
inductive Request where
  | register (v : Visitor)
  | compile (source name : String)

/-- The visitors that are registered by a row of requests. -/
def registered : List Request → List Visitor
  | [] => []
  | .register v :: rest => v :: registered rest
  | .compile .. :: rest => registered rest

/-- The compiler after a request. It keeps what the visitors have become by a compilation. -/
def after (c : Compiler) : Request → Compiler
  | .register v => c.addVisitor v
  | .compile source name =>
      match c.compileNoted source name with
      | .ok made => c.withVisitors made.visitors
      | .error _ => c

/-- The visitors after a request, in the order in which they were registered. -/
def keep (c : Compiler) (now : List Visitor) : Request → List Visitor
  | .register v => now ++ [v]
  | .compile source name =>
      match c.parse source name with
      | .ok root => List.ofFn (Visitor.visitPlaces (Visitor.runs now) now.get root).2
      | .error _ => now

/-- The visitors after a row of requests to a compiler that had none. -/
def kept (c : Compiler) (requests : List Request) : List Visitor := requests.foldl c.keep []

variable {c : Compiler}

/-- No visitor is lost, and none is changed but in what it has seen. -/
theorem fresh_keep (c : Compiler) (now : List Visitor) (request : Request) :
    (c.keep now request).map Visitor.fresh = (now ++ registered [request]).map Visitor.fresh := by
  cases request with
  | register v => rfl
  | compile source name =>
      show _ = (now ++ []).map Visitor.fresh
      rw [List.append_nil, keep]
      cases c.parse source name with
      | error e => rfl
      | ok root =>
          have atPlaces : Visitor.fresh ∘ (Visitor.visitPlaces (Visitor.runs now) now.get root).2 =
              Visitor.fresh ∘ now.get :=
            funext (Visitor.fresh_visitPlaces (Visitor.runs now) now.get root)
          rw [List.map_ofFn, atPlaces, ← List.map_ofFn, List.ofFn_get]

theorem registered_append (first second : List Request) :
    registered (first ++ second) = registered first ++ registered second := by
  induction first with
  | nil => rfl
  | cons request rest ih =>
      cases request with
      | register v => exact congrArg (v :: ·) ih
      | compile source name => exact ih

theorem kept_append (c : Compiler) (requests : List Request) (last : Request) :
    c.kept (requests ++ [last]) = c.keep (c.kept requests) last := by
  simp [kept]

theorem fresh_kept (c : Compiler) (requests : List Request) :
    (c.kept requests).map Visitor.fresh = (registered requests).map Visitor.fresh := by
  induction requests using List.reverseRecOn with
  | nil => rfl
  | append_singleton requests last ih =>
      rw [kept_append, fresh_keep, List.map_append, ih, ← List.map_append, registered_append]

/-- Where nothing is compiled, visitors stay as they are registered. -/
theorem kept_of_registrations (c : Compiler) {requests : List Request}
    (only : ∀ request ∈ requests, ∃ v, request = .register v) :
    c.kept requests = registered requests := by
  induction requests using List.reverseRecOn with
  | nil => rfl
  | append_singleton requests last ih =>
      obtain ⟨v, rfl⟩ := only last (by simp)
      rw [kept_append, ih fun request member => only request (by simp [member]), registered_append]
      rfl

/-- Visitors have no part in what a directive expands to. -/
theorem expandWithin_withVisitors (c : Compiler) (vs : List Visitor) (depth : Nat) :
    (c.withVisitors vs).expandWithin depth = c.expandWithin depth := by
  induction depth with
  | zero => rfl
  | succ depth ih =>
      funext name arguments line
      rw [expandWithin, expandWithin, ih]
      rfl

mutual
theorem instructions_withVisitors (c : Compiler) (vs : List Visitor) :
    ∀ node, (c.withVisitors vs).instructions node = c.instructions node
  | .root children => by
      rw [instructions, instructions, instructionsAll_withVisitors c vs children]
  | .text .. => by rw [instructions, instructions]
  | .echo .. => by
      rw [instructions, instructions]
      rfl
  | .rawEcho .. => by rw [instructions, instructions]
  | .comment .. => by rw [instructions, instructions]
  | .directive .. => by
      rw [instructions, instructions, expand, expand, expandWithin_withVisitors]
      rfl
  | .block _ _ children => by
      rw [instructions, instructions, instructionsAll_withVisitors c vs children]

theorem instructionsAll_withVisitors (c : Compiler) (vs : List Visitor) :
    ∀ nodes, (c.withVisitors vs).instructionsAll nodes = c.instructionsAll nodes
  | [] => by rw [instructionsAll, instructionsAll]
  | node :: rest => by
      rw [instructionsAll, instructionsAll, instructions_withVisitors c vs node,
        instructionsAll_withVisitors c vs rest]
end

/-- A compilation changes nothing of the visitors but what they have seen. -/
theorem fresh_compileNoted {source name : String} {made : Visited Artifact}
    (h : c.compileNoted source name = .ok made) :
    made.visitors.map Visitor.fresh = c.visitors.map Visitor.fresh := by
  rw [compileNoted] at h
  cases read : c.parse source name with
  | error e =>
      rw [read] at h
      cases h
  | ok root =>
      rw [read] at h
      cases h
      exact Visitor.fresh_visitAll c.visitors root

/-- What is compiled by visitors whose memory does not matter does not depend on it. -/
theorem compile_forgetful (forget : ∀ v ∈ c.visitors, v.Forgetful) {vs : List Visitor}
    (same : vs.map Visitor.fresh = c.visitors.map Visitor.fresh) (source name : String) :
    (c.withVisitors vs).compile source name = c.compile source name := by
  have sameTree : (c.withVisitors vs).parse source name = c.parse source name := rfl
  rw [compile, compile, compileNoted, compileNoted, sameTree]
  cases c.parse source name with
  | error e => rfl
  | ok root =>
      have visited := congrArg Noted.value (Visitor.visitAll_forgetful forget same root)
      show Except.ok (Artifact.make name ((c.withVisitors vs).instructions _)) = _
      rw [instructions_withVisitors]
      exact congrArg (fun tree => Except.ok (Artifact.make name (c.instructions tree))) visited

/-- A compilation by the visitors of a row, of which each is kept at its place. -/
theorem compileNoted_ordered (c : Compiler) (now : List Visitor) (source name : String) :
    (c.withVisitors (Visitor.ordered now)).compileNoted source name =
      (c.parse source name).map fun root =>
        let done := Visitor.visitPlaces (Visitor.runs now) now.get root
        ⟨⟨Artifact.make name (c.instructions done.1.value), done.1.notes⟩,
          (Visitor.runs now).map done.2⟩ := by
  have sameTree : (c.withVisitors (Visitor.ordered now)).parse source name = c.parse source name :=
    rfl
  have sameVisitors : (c.withVisitors (Visitor.ordered now)).visitors =
      (Visitor.runs now).map now.get := (Visitor.map_runs now).symm
  rw [compileNoted, sameTree, sameVisitors]
  simp only [Visitor.visitAll_places (Visitor.nodup_runs now), instructions_withVisitors]

/-- Visitors that are put in order whenever one more is registered are put in order once, also if
trees are visited in between. -/
theorem after_ordered (c : Compiler) (now : List Visitor) (request : Request) :
    (c.withVisitors (Visitor.ordered now)).after request =
      c.withVisitors (Visitor.ordered (c.keep now request)) := by
  have inOrder (vs : List Visitor) : Arranges Visitor.priority vs (Visitor.ordered vs) :=
    .of_mergeSort _ _
  cases request with
  | register v =>
      exact congrArg c.withVisitors (((inOrder now).concat v).unique (inOrder (now ++ [v])))
  | compile source name =>
      rw [after, compileNoted_ordered, keep]
      cases c.parse source name with
      | error e => rfl
      | ok root =>
          refine congrArg c.withVisitors (Visitor.ordered_ofFn now _ fun i => ?_).symm
          exact (Visitor.eq_of_fresh (Visitor.fresh_visitPlaces _ now.get root i)).1

theorem foldl_after (noVisitors : c.visitors = []) (requests : List Request) :
    requests.foldl after c = c.withVisitors (Visitor.ordered (c.kept requests)) := by
  induction requests using List.reverseRecOn with
  | nil =>
      have empty : Visitor.ordered (c.kept []) = [] := List.mergeSort_nil
      rw [empty, ← noVisitors]
      rfl
  | append_singleton requests last ih =>
      rw [List.foldl_append, ih, kept_append]
      exact after_ordered c (c.kept requests) last

/-- However visitors are registered one by one, and whatever is compiled meanwhile, none is lost and
each of them runs once, one before another exactly if it has the higher priority or the same
priority and the earlier registration. Instructions are made of the tree that is left when all have
visited it in this order, each with what it remembers, and each remembers this visit too. -/
theorem visitors_run_by_priority (c : Compiler) (noVisitors : c.visitors = [])
    (requests : List Request) :
    let now := c.kept requests
    now.map Visitor.fresh = (registered requests).map Visitor.fresh ∧
    ((∀ request ∈ requests, ∃ v, request = .register v) → now = registered requests) ∧
    ∃ order : List (Fin now.length), order.Nodup ∧ (∀ i, i ∈ order) ∧
      (∀ i j, [i, j].Sublist order ↔ Visitor.RunsBefore now i j) ∧
      order.map now.get = Visitor.ordered now ∧
      requests.foldl after c = c.withVisitors (order.map now.get) ∧
      ∀ source name, (requests.foldl after c).compileNoted source name =
        (c.parse source name).map fun root =>
          let done := Visitor.visitPlaces order now.get root
          ⟨⟨Artifact.make name (c.instructions done.1.value), done.1.notes⟩,
            order.map done.2⟩ := by
  intro now
  have reached := foldl_after noVisitors requests
  refine ⟨fresh_kept c requests, kept_of_registrations c, Visitor.runs now, Visitor.nodup_runs now,
    Visitor.mem_runs now, Visitor.sublist_runs_iff now, Visitor.map_runs now,
    by rw [Visitor.map_runs, reached], fun source name => ?_⟩
  rw [reached]
  exact compileNoted_ordered c now source name

/-- A visitor that writes its labels behind texts, the next one behind each. -/
def labelling (priority : Int) (labels : List String) : Visitor :=
  .ofState (fun node => return ⟨node, []⟩)
    (fun node => do
      match node, ← get with
      | .text text line, label :: rest =>
          set (rest ++ [label])
          return ⟨.text (text ++ label) line, []⟩
      | other, _ => return ⟨other, []⟩)
    priority labels

/-- Of three visitors the first one has the highest priority and the others have the same one. The
first has visited a text before the others are registered, and goes on with its second label. -/
theorem visitors_run_by_priority_labels :
    let requests : List Request :=
      [.register (labelling 10 ["1", "2"]), .compile "x" "t", .register (labelling 0 ["a"]),
        .register (labelling 0 ["c"])]
    standard.visitors = [] ∧
      (standard.kept requests).map Visitor.fresh = (registered requests).map Visitor.fresh ∧
      (requests.foldl after standard).compile "x" "t" = .ok (.make "t" [.literal "x2ac"]) := by
  intro requests
  obtain ⟨same, -, order, -, -, -, inOrder, reached, -⟩ :=
    visitors_run_by_priority standard rfl requests
  refine ⟨rfl, same, ?_⟩
  have parsed : standard.parse "x" "t" = .ok (.root [.text "x" 1]) := by
    have tokens : Delimiters.braces.tokens "x" = [⟨.text, "x", ⟨1, 1⟩⟩, ⟨.ending, "", ⟨1, 2⟩⟩] := by
      decide +kernel
    show Node.ofTokens "t" (Delimiters.braces.tokens "x") = _
    rw [tokens]
    rfl
  let once := ((labelling 10 ["1", "2"]).visit (.root [.text "x" 1])).2.value
  have isKept : standard.kept requests = [once, labelling 0 ["a"], labelling 0 ["c"]] := by
    have alone : Visitor.runs [labelling 10 ["1", "2"]] = [0] := by
      have places : List.finRange [labelling 10 ["1", "2"]].length = [0] := rfl
      rw [Visitor.runs, places, List.mergeSort_singleton]
    have visited : standard.keep [labelling 10 ["1", "2"]] (.compile "x" "t") = [once] := by
      rw [keep, parsed]
      dsimp only
      rw [alone]
      rfl
    exact congrArg (· ++ [labelling 0 ["a"]] ++ [labelling 0 ["c"]]) visited
  have sorted : order.map (standard.kept requests).get =
      [once, labelling 0 ["a"], labelling 0 ["c"]] := by
    have priority : once.priority = 10 := rfl
    rw [inOrder, isKept]
    simp [Visitor.ordered, List.mergeSort, List.MergeSort.Internal.splitInTwo, labelling,
      Visitor.ofState, priority]
  rw [reached, sorted, compile, compileNoted]
  have sameTree (vs : List Visitor) : (standard.withVisitors vs).parse "x" "t" = _ := parsed
  rw [sameTree]
  rfl

end Compiler

end Stencil
