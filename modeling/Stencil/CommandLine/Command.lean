import Stencil.CommandLine.Arguments

/-!
# Commands

Rendering and compiling a template, listing its tokens, and clearing a cache.
-/

namespace Stencil.CommandLine

/-- What to render, with which variables and options, and where to. -/
structure RenderRequest where
  name : String
  paths : List String
  data : Option String
  bindings : List String
  cacheDirectory : Option String
  strict : Bool
  config : Option String
  output : Option String
deriving DecidableEq, Repr

/-- A command of the program. -/
inductive Command where
  | render (request : RenderRequest)
  | compile (name : String) (paths : List String) (config : Option String)
  | tokens (file opening closing : String)
  | clearCache (directory : String)
deriving DecidableEq, Repr

/-- An option with a path as its value. -/
def pathOption (long : String) (short : Option Char) (repeatable : Bool) : OptionRule :=
  ⟨long, short, true, repeatable, false⟩

/-- An option with a text as its value. -/
def textOption (long : String) (short : Option Char) (repeatable : Bool) : OptionRule :=
  ⟨long, short, true, repeatable, true⟩

/-- The grammar of rendering. -/
def renderGrammar : Grammar :=
  ⟨[pathOption "path" (some 'p') true, pathOption "data" (some 'd') false,
    textOption "var" (some 'V') true, pathOption "cache-dir" none false,
    ⟨"strict", none, false, false, true⟩, pathOption "config" none false,
    pathOption "output" (some 'o') false], 1, true⟩

/-- The grammar of compiling. -/
def compileGrammar : Grammar :=
  ⟨[pathOption "path" (some 'p') true, pathOption "config" none false], 1, true⟩

/-- The grammar of listing tokens. -/
def tokensGrammar : Grammar :=
  ⟨[textOption "open" none false, textOption "close" none false], 1, false⟩

/-- The grammar of clearing a cache. -/
def clearGrammar : Grammar := ⟨[pathOption "cache-dir" none false], 0, true⟩

/-- The only operand. -/
def Arguments.operand (a : Arguments) : String := a.operands.head?.getD ""

/-- The request that arguments spell. -/
def renderRequest (a : Arguments) : RenderRequest :=
  ⟨a.operand, a.values "path", a.value? "data", a.values "var", a.value? "cache-dir",
    a.has "strict", a.value? "config", a.value? "output"⟩

/-- The rows of words that help can be asked for. -/
def helpTopics : List (List String) :=
  [[], ["render"], ["compile"], ["tokens"], ["cache"], ["cache", "clear"], ["cache", "help"],
    ["help"]]

/-- The answer to a request for help on a topic. -/
def helpOn (topic : List String) : Refusal := if helpTopics.contains topic then .help else .usage

/-- Whether a word begins with a short option. -/
def startsShort (option word : String) : Bool := option.toList.isPrefixOf word.toList

/-- Reads a command on caches. -/
def readCacheCommand : List String → Except Refusal Command
  | "clear" :: words => do
      let a ← readArguments clearGrammar words
      match a.value? "cache-dir" with
      | some directory => return .clearCache directory
      | none => .error .usage
  | "help" :: topic => .error (helpOn ("cache" :: topic))
  | word :: _ => if word == "--help" || startsShort "-h" word then .error .help else .error .usage
  | [] => .error .usage

/-- Reads a command line. -/
def readCommand : List String → Except Refusal Command
  | "render" :: words => (readArguments renderGrammar words).map fun a => .render (renderRequest a)
  | "compile" :: words =>
      (readArguments compileGrammar words).map fun a =>
        .compile a.operand (a.values "path") (a.value? "config")
  | "tokens" :: words =>
      (readArguments tokensGrammar words).map fun a =>
        .tokens a.operand ((a.value? "open").getD "\x7b\x7b") ((a.value? "close").getD "\x7d\x7d")
  | "cache" :: words => readCacheCommand words
  | "help" :: topic => .error (helpOn topic)
  | word :: _ =>
      if word == "--help" || startsShort "-h" word then .error .help
      else if word == "--version" || startsShort "-V" word then .error .version
      else .error .usage
  | [] => .error .usage

end Stencil.CommandLine
