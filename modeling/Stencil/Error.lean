import Stencil.Token.Basic

/-!
# What can go wrong

The causes of failure, from the files up to a whole rendering, and the wording of each. A cause that
is located in a template says in which one.
-/

namespace Stencil

/-- Why a file could not be used. -/
inductive FileError where
  | missing
  | notADirectory
  | isADirectory
  | occupied
  | tooLong
  | notText
  | other (message : String)
deriving DecidableEq, Repr

/-- The wording of a file error. -/
def FileError.message : FileError → String
  | missing => "No such file or directory (os error 2)"
  | notADirectory => "Not a directory (os error 20)"
  | isADirectory => "Is a directory (os error 21)"
  | occupied => "File exists (os error 17)"
  | tooLong => "File name too long (os error 36)"
  | notText => "stream did not contain valid UTF-8"
  | other message => message

/-- A tag that no node can be made of, and its place. -/
structure SyntaxError where
  message : String
  template : String
  position : Position
deriving DecidableEq, Repr

/-- The wording of a syntax error. -/
def SyntaxError.describe (e : SyntaxError) : String :=
  "Syntax error in \"" ++ e.template ++ "\" at line " ++ toString e.position.line ++ ": " ++
    e.message

/-- A token of one kind where another kind was wanted. -/
def SyntaxError.unexpected (template : String) (wanted : TokenKind) (found : Token) : SyntaxError :=
  ⟨"Expected " ++ wanted.label ++ ", got " ++ found.kind.label, template, found.position⟩

/-- Why the source of a template is not to be had. -/
inductive LoadError where
  | notFound (name : String) (searched : List String)
  | notReadable (name : String) (cause : FileError)
  | notADirectory (path : String)
deriving DecidableEq, Repr

/-- The wording of a load error. -/
def LoadError.message : LoadError → String
  | notFound name [] => "Template not found: " ++ name
  | notFound name searched =>
      "Template not found: " ++ name ++ " (searched in: " ++ ", ".intercalate searched ++ ")"
  | notReadable name _ => "Template \"" ++ name ++ "\" is not readable"
  | notADirectory path => "Path \"" ++ path ++ "\" is not a directory"

/-- Why a rendering failed. -/
inductive RenderError where
  | malformed (cause : SyntaxError)
  | load (cause : LoadError)
  | undefinedVariable (name template : String) (line : Nat)
  | undefinedFilter (name template : String)
  | unknownStrategy (name : String)
  | invalidExpression (expression template message : String)
  | blockNotFound (name template : String)
  | circularReference (chain : List String)
  | loopLimit (template : String) (limit : Nat)
  | cache (cause : FileError)
deriving DecidableEq, Repr

namespace RenderError

/-- The wording of a render error. -/
def message : RenderError → String
  | malformed cause => cause.describe
  | load cause => cause.message
  | undefinedVariable name template _ =>
      "Undefined variable \"" ++ name ++ "\" in template \"" ++ template ++ "\""
  | undefinedFilter name template =>
      "Undefined filter \"" ++ name ++ "\" in template \"" ++ template ++ "\""
  | unknownStrategy name => "Unknown escaping strategy \"" ++ name ++ "\""
  | invalidExpression expression template message =>
      "Invalid expression \"" ++ expression ++ "\" in template \"" ++ template ++ "\": " ++ message
  | blockNotFound name template =>
      "Block \"" ++ name ++ "\" does not exist in template \"" ++ template ++ "\""
  | circularReference chain => "Circular reference detected: " ++ " -> ".intercalate chain
  | loopLimit template limit =>
      "Loop in template \"" ++ template ++ "\" exceeded " ++ toString limit ++ " iterations"
  | cache cause => "Cache error: " ++ cause.message

/-- The template in which the cause lies, if it lies in one. -/
def template? : RenderError → Option String
  | malformed cause => some cause.template
  | undefinedVariable _ template _ | undefinedFilter _ template | invalidExpression _ template _
  | blockNotFound _ template | loopLimit template _ => some template
  | load _ | unknownStrategy _ | circularReference _ | cache _ => none

/-- The causes behind the error, outermost first. -/
def causes : RenderError → List String
  | load (.notReadable _ cause) => [cause.message]
  | cache cause => [cause.message]
  | _ => []

end RenderError

/-- A result comes out of two steps only if each gives one. -/
theorem bind_eq_ok {ε α β : Type} {first : Except ε α} {next : α → Except ε β} {b : β} :
    first >>= next = .ok b ↔ ∃ a, first = .ok a ∧ next a = .ok b := by
  cases first <;> simp [bind, Except.bind]

theorem map_eq_ok_iff {ε α β : Type} {f : α → β} {result : Except ε α} {b : β} :
    result.map f = .ok b ↔ ∃ a, result = .ok a ∧ f a = b := by
  cases result <;> simp [Except.map]

theorem eq_ok_of_toOption {ε α : Type} {result : Except ε α} {a : α}
    (h : result.toOption = some a) : result = .ok a := by
  cases result <;> cases h
  rfl

end Stencil
