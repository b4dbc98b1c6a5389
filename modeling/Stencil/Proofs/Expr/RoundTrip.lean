import Stencil.Error
import Stencil.Proofs.Expr.Printer

/-!
# Expressions and their texts

All that the reader gives can be printed, but for doubles. So an expression without doubles is the
result of reading some text exactly if it can be printed, and then its print is such a text.

1. `Expr.printable_of_readOperand`, `Expr.printable_of_readExpr`: what readers give.
2. `Expr.print_and_parse`: printing and reading, in either order.
-/

namespace Stencil

open Stencil.Decimal
open Stencil.Text

/-! ## Doubles -/

/-- Whether the operand is no double. -/
def Operand.FloatFree : Operand → Prop
  | literal (.float _) => False
  | _ => True

def FilterCall.FloatFree (call : FilterCall) : Prop := ∀ o ∈ call.arguments, o.FloatFree

namespace Expr

/-- Whether no double stands in the expression. -/
def FloatFree : Expr → Prop
  | operand _ base calls => base.FloatFree ∧ ∀ call ∈ calls, call.FloatFree
  | group _ inner calls => inner.FloatFree ∧ ∀ call ∈ calls, call.FloatFree

/-! ## Operands -/

section

variable {cs rest : List Char}

theorem named_of_readWord {name : String} (h : readWord cs = .ok (name, rest)) : Named name := by
  simp only [readWord] at h
  split at h
  · cases h
  · next some =>
    cases h
    refine ⟨by simpa using some, fun c member => ?_⟩
    rw [String.toList_ofList] at member
    exact List.all_eq_true.1 List.all_takeWhile c member

theorem printable_of_readIndex {segment : Segment} (h : readIndex cs = .ok (segment, rest)) :
    segment.Printable := by
  simp only [readIndex] at h
  split at h
  · cases h
  · split at h
    · obtain ⟨_, -, h⟩ := bind_eq_ok.1 h
      obtain ⟨_, -, h⟩ := bind_eq_ok.1 h
      cases h
      trivial
    · split at h
      · split at h
        · next number =>
          obtain ⟨_, -, h⟩ := bind_eq_ok.1 h
          cases h
          exact lt_of_natural? number
        · cases h
      · cases h

theorem printable_of_readKey {segment : Segment} (h : readKey cs = .ok (segment, rest)) :
    segment.Printable := by
  simp only [readKey] at h
  split at h
  · cases h
    trivial
  · obtain ⟨_, -, same⟩ := map_eq_ok_iff.1 h
    cases same
    trivial

theorem printable_of_readSegments {steps : Nat} {segments : List Segment}
    (h : readSegments steps cs = .ok (segments, rest)) :
    ∀ segment ∈ segments, segment.Printable := by
  induction steps generalizing cs segments with
  | zero =>
      cases h
      exact List.forall_mem_nil _
  | succ steps ih =>
      unfold readSegments at h
      split at h
      · obtain ⟨_, first, h⟩ := bind_eq_ok.1 h
        obtain ⟨_, others, h⟩ := bind_eq_ok.1 h
        cases h
        exact List.forall_mem_cons.2 ⟨printable_of_readKey first, ih others⟩
      · obtain ⟨_, first, h⟩ := bind_eq_ok.1 h
        obtain ⟨_, others, h⟩ := bind_eq_ok.1 h
        cases h
        exact List.forall_mem_cons.2 ⟨printable_of_readIndex first, ih others⟩
      · cases h
        exact List.forall_mem_nil _

theorem printable_of_wordLiteral? {word : String} {value : Value}
    (h : wordLiteral? word = some value) : (Operand.literal value).Printable := by
  unfold wordLiteral? at h
  split at h
  · cases h
    exact .bool true
  · cases h
    exact .bool false
  · cases h
    exact .null
  · cases h

theorem printable_of_readPath {o : Operand} (h : readPath cs = .ok (o, rest)) : o.Printable := by
  simp only [readPath] at h
  obtain ⟨⟨root, _⟩, word, h⟩ := bind_eq_ok.1 h
  obtain ⟨⟨segments, _⟩, others, h⟩ := bind_eq_ok.1 h
  cases h
  unfold pathOperand
  split
  · next literal => exact printable_of_wordLiteral? literal
  · exact .path (named_of_readWord word) (printable_of_readSegments others)

theorem printable_of_integer? {negative : Bool} {value : Value}
    (h : integer? negative cs = some value) : (Operand.literal value).Printable := by
  simp only [integer?] at h
  split at h
  · cases h
  · split at h <;> split at h <;> cases h <;> exact .int _

/-- A number that is no double is an integer. -/
theorem printable_of_readNumber {value : Value} (h : readNumber cs = .ok (value, rest))
    (free : (Operand.literal value).FloatFree) : (Operand.literal value).Printable := by
  simp only [readNumber] at h
  -- With a sign and without one, there is a fraction or there is none.
  split at h
  all_goals
    split at h
    · split at h
      · cases h
        exact free.elim
      · cases h
    · split at h
      · next number =>
        cases h
        exact printable_of_integer? number
      · cases h

theorem printable_of_readOperand {o : Operand} (h : readOperand cs = .ok (o, rest))
    (free : o.FloatFree) : o.Printable := by
  simp only [readOperand] at h
  split at h
  · cases h
  · split at h
    · obtain ⟨_, -, same⟩ := map_eq_ok_iff.1 h
      cases same
      exact .string _
    · split at h
      · obtain ⟨_, number, same⟩ := map_eq_ok_iff.1 h
        cases same
        exact printable_of_readNumber number free
      · split at h
        · exact printable_of_readPath h
        · cases h

/-! ## Filters and expressions -/

theorem printable_of_readArguments {steps : Nat} {arguments : List Operand}
    (h : readArguments steps cs = .ok (arguments, rest)) (free : ∀ o ∈ arguments, o.FloatFree) :
    ∀ o ∈ arguments, o.Printable := by
  induction steps generalizing cs arguments with
  | zero => cases h
  | succ steps ih =>
      rw [readArguments] at h
      obtain ⟨⟨argument, behind⟩, first, h⟩ := bind_eq_ok.1 h
      simp only at h
      split at h
      · cases h
        rw [List.forall_mem_cons] at free ⊢
        exact ⟨printable_of_readOperand first free.1, List.forall_mem_nil _⟩
      · obtain ⟨_, -, h⟩ := bind_eq_ok.1 h
        obtain ⟨_, others, h⟩ := bind_eq_ok.1 h
        cases h
        rw [List.forall_mem_cons] at free ⊢
        exact ⟨printable_of_readOperand first free.1, ih others free.2⟩

theorem printable_of_readCall {call : FilterCall} (h : readCall cs = .ok (call, rest))
    (free : call.FloatFree) : call.Printable := by
  rw [readCall] at h
  obtain ⟨⟨name, behind⟩, word, h⟩ := bind_eq_ok.1 h
  have named := named_of_readWord word
  simp only at h
  split at h
  · cases h
    exact ⟨named, List.forall_mem_nil _⟩
  · split at h
    · cases h
      exact ⟨named, List.forall_mem_nil _⟩
    · obtain ⟨_, arguments, h⟩ := bind_eq_ok.1 h
      cases h
      exact ⟨named, printable_of_readArguments arguments free⟩

theorem printable_of_readCalls {steps : Nat} {calls : List FilterCall}
    (h : readCalls steps cs = .ok (calls, rest)) (free : ∀ call ∈ calls, call.FloatFree) :
    ∀ call ∈ calls, call.Printable := by
  induction steps generalizing cs calls with
  | zero =>
      cases h
      exact List.forall_mem_nil _
  | succ steps ih =>
      rw [readCalls] at h
      split at h
      · cases h
        exact List.forall_mem_nil _
      · obtain ⟨_, first, h⟩ := bind_eq_ok.1 h
        obtain ⟨_, others, h⟩ := bind_eq_ok.1 h
        cases h
        rw [List.forall_mem_cons] at free ⊢
        exact ⟨printable_of_readCall first free.1, ih others free.2⟩

theorem printable_of_readExpr {steps : Nat} {e : Expr} (h : readExpr steps cs = .ok (e, rest))
    (free : e.FloatFree) : e.Printable := by
  induction steps generalizing cs rest e with
  | zero => cases h
  | succ steps ih =>
      rw [readExpr] at h
      simp only at h
      split at h
      · obtain ⟨_, inner, h⟩ := bind_eq_ok.1 h
        obtain ⟨_, -, h⟩ := bind_eq_ok.1 h
        obtain ⟨_, calls, h⟩ := bind_eq_ok.1 h
        cases h
        exact ⟨ih inner free.1, printable_of_readCalls calls free.2⟩
      · obtain ⟨_, base, h⟩ := bind_eq_ok.1 h
        obtain ⟨_, calls, h⟩ := bind_eq_ok.1 h
        cases h
        exact ⟨printable_of_readOperand base free.1, printable_of_readCalls calls free.2⟩

end

theorem printable_of_parse {text : String} {e : Expr} (h : parse text = .ok e)
    (free : e.FloatFree) : e.Printable := by
  obtain ⟨_, read, h⟩ := bind_eq_ok.1 h
  simp only at h
  split at h
  · cases h
    exact printable_of_readExpr read free
  · cases h

/-- An expression that can be printed is what its print is read as. What any text is read as can be
printed, if it holds no doubles, and so comes back from its print. -/
theorem print_and_parse (e : Expr) :
    (e.Printable → parse e.print = .ok e) ∧
      ∀ text, parse text = .ok e → e.FloatFree → e.Printable ∧ parse e.print = .ok e := by
  refine ⟨parse_print, fun text read free => ?_⟩
  have printable := printable_of_parse read free
  exact ⟨printable, parse_print printable⟩

/-- Negations inside and outside of a group, marks to be escaped, the largest index, the least
integer, and a text that spells the expression in other ways. -/
theorem print_and_parse_nested :
    let path := Operand.path [.key "user", .key "a \"b\"\\", .index 18446744073709551615]
    let calls := [FilterCall.mk "default"
      [.literal (.string "\"\n"), .literal (.int Int64.minValue), .path [.key "null"]]]
    let e := group true (operand true path calls) [⟨"2nd", []⟩]
    e.Printable ∧ e.FloatFree ∧ parse e.print = .ok e ∧
      e.print = "!(!$user[\"a \\\"b\\\"\\\\\"][18446744073709551615]" ++
        " | default(\"\\\"\n\", -9223372036854775808, $null)) | 2nd" ∧
      parse ("not ( not ! not user['a \"b\"\\\\'][ 018446744073709551615 ]" ++
        "|default( '\"\\n' ,-9223372036854775808,$null ))|2nd ( )") = .ok e := by
  intro path calls e
  have free : e.FloatFree := by
    simp [e, path, calls, FloatFree, Operand.FloatFree, FilterCall.FloatFree]
  have read : parse ("not ( not ! not user['a \"b\"\\\\'][ 018446744073709551615 ]" ++
      "|default( '\"\\n' ,-9223372036854775808,$null ))|2nd ( )") = .ok e := by cbv
  have printable := ((print_and_parse e).2 _ read free).1
  exact ⟨printable, free, (print_and_parse e).1 printable, by decide +kernel, read⟩

end Expr

end Stencil
