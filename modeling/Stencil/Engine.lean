import Stencil.Artifact.Text
import Stencil.Cache
import Stencil.Compiler
import Stencil.Filter.Core
import Stencil.Loader
import Stencil.Options
import Stencil.Renderer

/-!
# The engine

Templates by name: found by a loader, compiled once and then taken from a cache, and rendered
together with all templates they mention. Only the cache changes from call to call, and the visitors
with the notes that they leave.
-/

namespace Stencil

variable {m : Type → Type} [Monad m] [Files m]

/-- A bundle of filters, globals and directives. -/
structure Extension where
  name : String
  filters : Table Filter
  globals : Table Value
  directives : Table Directive

/-- The filters and globals that every engine has. -/
def Extension.core : Extension := ⟨"core", Filter.core, coreGlobals, []⟩

/-- A template with what it was compiled to. -/
structure Template where
  artifact : Artifact
  program : Program

namespace Template

/-- The template of an artifact. -/
def ofArtifact (a : Artifact) : Template := ⟨a, .ofArtifact a⟩

/-- Whether the template has a block of the name. -/
def hasBlock (t : Template) (name : String) : Bool := t.program.blocks.contains name

end Template

/-- What rendering depends on. -/
structure Engine where
  loader : Loader
  compiler : Compiler
  escaper : Escaper
  filters : Table Filter
  globals : Table Value
  extensions : List String
  options : Options

/-- What rendering changes: the cache, and the visitors and their notes while templates are
compiled. -/
structure Session where
  cache : Cache
  notes : List String
  visitors : List Visitor

/-- A piece of work that may stop early. What it has changed by then stays changed. -/
abbrev Work (m : Type → Type) := ExceptT Stop (StateT Session m)

namespace Work

/-- A question to the loader. -/
def ofLoader {α : Type} (question : m (Except LoadError α)) : Work m α :=
  ExceptT.mk fun session => do
    return ((← question).mapError fun e => .raised (.load e), session)

/-- An operation on the cache. -/
def ofCache {α : Type} (operation : Cache → m (Except FileError α × Cache)) : Work m α :=
  ExceptT.mk fun session => do
    let (result, cache) ← operation session.cache
    return (result.mapError fun e => .raised (.cache e), { session with cache := cache })

/-- A result that is known already. -/
def ofResult {α : Type} (result : Except Stop α) : Work m α := ExceptT.mk fun session =>
  return (result, session)

/-- A compilation with the visitors as they are. Their notes are kept, and what they become. -/
def ofCompilation (compile : List Visitor → Except SyntaxError (Visited Artifact)) :
    Work m Artifact :=
  ExceptT.mk fun session =>
    match compile session.visitors with
    | .error e => return (.error (.raised (.malformed e)), session)
    | .ok made =>
        return (.ok made.value, ⟨session.cache, session.notes ++ made.notes, made.visitors⟩)

/-- Does the work: its result, and what it has changed. -/
def perform {α : Type} (work : Work m α) (session : Session) : m (Except Stop α × Session) :=
  work.run session

end Work

namespace Engine

/-- Adds an extension. What it brings replaces what had the same name. -/
def addExtension (e : Engine) (x : Extension) : Engine :=
  { e with
    filters := e.filters.setAll x.filters
    globals := e.globals.setAll x.globals
    compiler := e.compiler.addDirectives x.directives
    extensions := if e.extensions.contains x.name then e.extensions else e.extensions ++ [x.name] }

/-- Adds a filter. -/
def addFilter (e : Engine) (name : String) (filter : Filter) : Engine :=
  { e with filters := e.filters.set name filter }

/-- Adds a global, behind all others. -/
def addGlobal (e : Engine) (name : String) (value : Value) : Engine :=
  { e with globals := e.globals.append name value }

/-- An engine with the core extension. -/
def make (loader : Loader) (options : Options) : Engine :=
  let escaper := Escaper.standard.withDefault options.defaultStrategy
  let compiler :=
    { Compiler.withDelimiters options.delimiters with escaper := some escaper }.addDirectives
      Directive.templates
  addExtension ⟨loader, compiler, escaper, [], [], [], options⟩ .core

/-- A session without any compiled template at hand. -/
def newSession (e : Engine) : Session :=
  ⟨.make e.options.cacheDirectory, [], e.compiler.visitors⟩

/-- Whether the cached text of a template still stands for its source. -/
def isUsable (e : Engine) (name key : String) : Work m Bool := do
  if e.options.autoReload then
    match ← Work.ofCache fun cache => do return (.ok (← cache.writtenAt? key), cache) with
    | none => return false
    | some time => Work.ofLoader (e.loader.isFresh name time)
  else return true

/-- The artifact that a cached text holds, if it is one of the current layout. -/
def decode? (text : String) : Option Artifact := (Artifact.ofText? text).filter Artifact.isCurrent

/-- The cached artifact of a template, if there is one that can be used. -/
def cached? (e : Engine) (name key : String) : Work m (Option Artifact) := do
  match ← Work.ofCache fun cache => cache.find? key with
  | none => return none
  | some text => if ← e.isUsable name key then return decode? text else return none

/-- Compiles a template and caches the result. -/
def compile (e : Engine) (name key : String) : Work m Artifact := do
  let source ← Work.ofLoader (e.loader.source name)
  let artifact ← Work.ofCompilation fun visitors =>
    (e.compiler.withVisitors visitors).compileNoted source name
  Work.ofCache fun cache => cache.insert key artifact.toText
  return artifact

/-- The artifact of a template: the cached one, or else a new one. -/
def artifact (e : Engine) (name : String) : Work m Artifact := do
  let key ← Work.ofLoader (e.loader.cacheKey name)
  match ← e.cached? name key with
  | some artifact => return artifact
  | none => e.compile name key

/-- The template of a name. -/
def load (e : Engine) (name : String) : Work m Template := do
  return .ofArtifact (← e.artifact name)

/-- The programs of the pending templates and of all they mention, besides those that are loaded.
What is mentioned last is loaded first. -/
def loadAll (e : Engine) : Nat → List String → Table Program → Work m (Table Program)
  | _, [], loaded => return loaded
  | 0, _ :: _, _ => Work.ofResult (.error .unfinished)
  | steps + 1, name :: pending, loaded => do
      if loaded.contains name then e.loadAll steps pending loaded
      else
        let program := Program.ofArtifact (← e.artifact name)
        let missing := program.dependencies.filter fun other => !loaded.contains other
        e.loadAll steps (missing.reverse ++ pending) (loaded.set name program)

/-- How many templates are looked at for one rendering. -/
def loadLimit : Nat := 1000000

/-- The programs of a template and of all it mentions. -/
def loadTree (e : Engine) (name : String) : Work m (Table Program) := e.loadAll loadLimit [name] []

/-- The renderer of loaded programs. -/
def renderer (e : Engine) (programs : Table Program) : Renderer :=
  ⟨programs, e.filters, e.escaper, e.options.strictVariables, e.options.loopLimit⟩

/-- The variables of a rendering: those of the scope, and behind them the globals. -/
def visible (e : Engine) (scope : Scope) : Scope := scope.layer (.ofTable e.globals)

/-- The text of a template. -/
def render (e : Engine) (name : String) (scope : Scope) : Work m String := do
  let r := e.renderer (← e.loadTree name)
  Work.ofResult (r.render Renderer.defaultDepth (e.visible scope) name)

/-- The text of one block of a template. -/
def renderBlock (e : Engine) (name block : String) (scope : Scope) : Work m String := do
  let r := e.renderer (← e.loadTree name)
  Work.ofResult (r.renderBlock Renderer.defaultDepth (e.visible scope) name block)

end Engine

end Stencil
