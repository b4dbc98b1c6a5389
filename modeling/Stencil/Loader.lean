import Stencil.Files
import Stencil.Table

/-!
# Loaders

Where the sources of templates come from: a table in memory, files in a row of directories of which
the first that has the file counts, or a program that answers for itself. A loader also tells what a
template is cached under and whether it has changed.
-/

namespace Stencil

variable {m : Type → Type} [Monad m] [Files m]

/-- The directories that are searched for templates, in order. -/
structure SearchPath where
  directories : List String
deriving DecidableEq, Repr

namespace SearchPath

/-- Adds a directory, as the path from the root. -/
def add (s : SearchPath) (path : String) : m (Except LoadError SearchPath) := do
  if ← Files.isDirectory path then
    match ← Files.canonical path with
    | .ok place => return .ok ⟨s.directories ++ [place]⟩
    | .error _ => return .error (.notADirectory path)
  else return .error (.notADirectory path)

/-- Adds directories up to the first that cannot be added. -/
def addAll (s : SearchPath) : List String → m (Except LoadError SearchPath)
  | [] => return .ok s
  | path :: rest => do
      match ← s.add path with
      | .ok wider => wider.addAll rest
      | .error e => return .error e

/-- The first of the directories that has a file of the name. -/
def search (name : String) : List String → m (Option String)
  | [] => return none
  | directory :: rest => do
      let file := Files.join directory name
      if ← Files.isFile file then return some file else search name rest

/-- The file of a template. A path from the root that names a file is that file. -/
def resolve (s : SearchPath) (name : String) : m (Except LoadError String) := do
  let direct ← if Files.isAbsolute name then Files.isFile name else pure false
  if direct then return .ok name
  else
    match ← search name s.directories with
    | some file => return .ok file
    | none => return .error (.notFound name s.directories)

end SearchPath

/-- A source and when it was last changed. -/
structure Source where
  text : String
  changed : Instant
deriving DecidableEq, Repr

/-- What a loader of a program's own answers for the name of a template. -/
structure OwnLoader where
  source : String → Except LoadError String
  cacheKey : String → Except LoadError String
  isFresh : String → Instant → Except LoadError Bool
  contains : String → Bool

/-- Where templates come from. -/
inductive Loader where
  | memory (templates : Table Source)
  | files (path : SearchPath)
  | own (answers : OwnLoader)

namespace Loader

/-- The template of a table. -/
def held (templates : Table Source) (name : String) : Except LoadError Source :=
  match templates.get? name with
  | some source => .ok source
  | none => .error (.notFound name [])

/-- The error of a file that cannot be used. -/
def unreadable {α : Type} (name : String) (result : Except FileError α) : Except LoadError α :=
  result.mapError (.notReadable name)

/-- Asks the file of a template for something. -/
def ask {α : Type} (path : SearchPath) (name : String)
    (question : String → m (Except FileError α)) : m (Except LoadError α) := do
  match ← path.resolve name with
  | .error e => return .error e
  | .ok file => return unreadable name (← question file)

/-- The source of a template. -/
def source (l : Loader) (name : String) : m (Except LoadError String) :=
  match l with
  | memory templates => return (held templates name).map Source.text
  | files path => ask path name Files.readText
  | own answers => return answers.source name

/-- What a template is cached under. -/
def cacheKey (l : Loader) (name : String) : m (Except LoadError String) :=
  match l with
  | memory templates => return (held templates name).map fun _ => "memory:" ++ name
  | files path => path.resolve name
  | own answers => return answers.cacheKey name

/-- Whether what was changed at a moment is as it was at that time. -/
def upTo (time : Instant) (changed : Except LoadError Instant) : Except LoadError Bool :=
  changed.map fun moment => decide (moment ≤ time)

/-- Whether a template is as it was at that time. -/
def isFresh (l : Loader) (name : String) (time : Instant) : m (Except LoadError Bool) :=
  match l with
  | memory templates => return upTo time ((held templates name).map Source.changed)
  | files path => return upTo time (← ask path name Files.modified)
  | own answers => return answers.isFresh name time

/-- Whether there is a template of the name. -/
def contains (l : Loader) (name : String) : m Bool :=
  match l with
  | memory templates => return (held templates name).toBool
  | files path => return (← path.resolve name).toBool
  | own answers => return answers.contains name

end Loader

end Stencil
