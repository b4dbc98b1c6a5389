import Stencil.CommandLine.Command
import Stencil.Engine
import Stencil.Report

/-!
# Running commands

What a command does to the files, what it prints, and the message of its failure with the causes
behind it.
-/

namespace Stencil.CommandLine

open Stencil.Text

variable {m : Type → Type} [Monad m] [Files m]

/-- A failure: what could not be done, and why. -/
structure Failure where
  message : String
  causes : List String
deriving DecidableEq, Repr

/-- What a failed step is called. -/
def Failure.ofFile (message : String) (e : FileError) : Failure := ⟨message, [e.message]⟩

/-- The wording of a rendering that came to no end. -/
def unfinishedMessage : String := "Rendering goes deeper than it may"

/-- The message of what stopped a rendering. -/
def stopMessage : Stop → String
  | .raised e => e.message
  | .unfinished => unfinishedMessage

/-- The causes behind what stopped a rendering. -/
def stopCauses : Stop → List String
  | .raised e => e.causes
  | .unfinished => []

/-- A step of a command. -/
abbrev Step (m : Type → Type) := ExceptT Failure m

/-- A step that fails with a message and the reason of the files. -/
def attempt {α : Type} (message : String) (action : m (Except FileError α)) : Step m α :=
  ExceptT.mk do return (← action).mapError (Failure.ofFile message)

/-- A step that cannot fail. -/
def ask {α : Type} (action : m α) : Step m α := ExceptT.lift action

/-- Fails, where there is no value. -/
def need {α : Type} (failure : Failure) : Option α → Step m α
  | some value => return value
  | none => throw failure

/-- The loader of a command: the directories, or the current one. -/
def openLoader (paths : List String) : Step m Loader := do
  let message :=
    if paths.isEmpty then "Failed to use the current directory" else "Invalid template search path"
  match ← ask (SearchPath.addAll ⟨[]⟩ (if paths.isEmpty then ["."] else paths)) with
  | .ok path => return .files path
  | .error e => throw ⟨message, [e.message]⟩

/-- The options of a file, or the default ones. -/
def readOptions : Option String → Step m Options
  | none => return .default
  | some file => do
      let text ← attempt ("Failed to read config file " ++ file) (Files.readText file)
      need ⟨"Invalid config file " ++ file, ["not the options of an engine"]⟩ (Options.ofText? text)

/-- The variables of a data file. -/
def readData : Option String → Step m Scope
  | none => return .empty
  | some file => do
      let text ← attempt ("Failed to read data file " ++ file) (Files.readText file)
      let json ← need ⟨"Invalid JSON in data file " ++ file, ["not JSON"]⟩ (Json.read text)
      need ⟨"Data file " ++ file ++ " must contain a JSON object", []⟩ (Scope.ofJson? json)

/-- The name and the value of a binding. What is no JSON is a text. -/
def readBinding (text : String) : Option (String × Value) :=
  (cutAt ['='] text.toList).map fun (name, value) =>
    let value := String.ofList value
    (String.ofList (trimmed name), ((Json.read value).map Value.ofJson).getD (.string value))

/-- Adds bindings to a scope. -/
def bindAll (scope : Scope) : List String → Step m Scope
  | [] => return scope
  | text :: rest => do
      let (name, value) ←
        need ⟨"Invalid variable \"" ++ text ++ "\", expected KEY=VALUE", []⟩ (readBinding text)
      bindAll (scope.bind name value) rest

/-- The message of a failed rendering, with the part of the source that it is about. -/
def explain (e : Engine) (error : Stop) : m String :=
  match error with
  | .unfinished => return unfinishedMessage
  | .raised error =>
      match error.template? with
      | none => return error.message
      | some name => do
          match ← e.loader.source name with
          | .ok source => return report name source error
          | .error _ => return error.message

/-- Renders, and gives what is to be printed. -/
def render (request : RenderRequest) : Step m String := do
  let options ← readOptions request.config
  let options :=
    { options with
      strictVariables := options.strictVariables || request.strict
      cacheDirectory := request.cacheDirectory.or options.cacheDirectory }
  let engine := Engine.make (← openLoader request.paths) options
  let scope ← bindAll (← readData request.data) request.bindings
  let (result, _) ← ask ((engine.render request.name scope).perform engine.newSession)
  match result with
  | .error error => throw ⟨← ask (explain engine error), []⟩
  | .ok text =>
      match request.output with
      | none => return text
      | some file => do
          attempt ("Failed to write " ++ file) (Files.writeText file text)
          return ""

/-- Compiles, and gives the artifact. -/
def compile (name : String) (paths : List String) (config : Option String) : Step m String := do
  let options ← readOptions config
  let engine := Engine.make (← openLoader paths) options
  let (result, _) ← ask ((engine.load name).perform engine.newSession)
  match result with
  | .error error => throw ⟨"Failed to compile " ++ name, stopMessage error :: stopCauses error⟩
  | .ok template => return template.artifact.toJson.pretty ++ "\n"

/-- A token on a line of its own. -/
def tokenLine (t : Token) : String :=
  toString t.position.line ++ ":" ++ toString t.position.column ++ " " ++ t.kind.label ++ " " ++
    quoted t.value ++ "\n"

/-- Lists the tokens of a file. -/
def listTokens (file opening closing : String) : Step m String := do
  let source ← attempt ("Failed to read " ++ file) (Files.readText file)
  return String.join ((Delimiters.tokens ⟨opening, closing⟩ source).map tokenLine)

/-- Clears a cache. -/
def clearCache (directory : String) : Step m String := do
  attempt ("Failed to clear cache at " ++ directory) (CacheDirectory.clear ⟨directory⟩)
  return "Cleared " ++ directory ++ "\n"

/-- Carries a command out, and gives what is to be printed. -/
def Command.run : Command → Step m String
  | .render request => CommandLine.render request
  | .compile name paths config => CommandLine.compile name paths config
  | .tokens file opening closing => listTokens file opening closing
  | .clearCache directory => CommandLine.clearCache directory

/-! ## What is printed -/

/-- The lines of a text, all but the first one after some spaces. -/
def indented (spaces : String) (text : String) : String :=
  String.ofList (text.toList.flatMap fun c => if c = '\n' then c :: spaces.toList else [c])

/-- A cause among several. -/
def numberedCause (cause : String) (i : Nat) : String :=
  let digits := toString i
  let padding := String.ofList (List.replicate (5 - digits.length) ' ')
  "\n" ++ padding ++ digits ++ ": " ++ indented "       " cause

/-- The failure for people to read. -/
def Failure.describe (f : Failure) : String :=
  match f.causes with
  | [] => "Error: " ++ f.message ++ "\n"
  | [cause] =>
      "Error: " ++ f.message ++ "\n\nCaused by:\n    " ++ indented "    " cause ++ "\n"
  | causes =>
      "Error: " ++ f.message ++ "\n\nCaused by:" ++
        String.join (causes.zipIdx.map fun (cause, i) => numberedCause cause i) ++ "\n"

/-- How a run of the program ends: with a text, with a failure, or before it began. -/
inductive Outcome where
  | printed (text : String)
  | failed (failure : Failure)
  | refused (reason : Refusal)
deriving DecidableEq, Repr

/-- Runs the program on the words of its command line. -/
def run (words : List String) : m Outcome := do
  match readCommand words with
  | .error reason => return .refused reason
  | .ok command =>
      match ← command.run.run with
      | .ok text => return .printed text
      | .error failure => return .failed failure

/-- What the program says about its version. -/
def versionLine : String := "inky 0.1.0\n"

/-- The status that the program ends with. -/
def Outcome.status : Outcome → Nat
  | printed _ | refused .help | refused .version => 0
  | failed _ => 1
  | refused .usage => 2

example : (Failure.mk "a" ["b", "c"]).describe = "Error: a\n\nCaused by:\n    0: b\n    1: c\n" :=
  by decide +kernel

end Stencil.CommandLine
