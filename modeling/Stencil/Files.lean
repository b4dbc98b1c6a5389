import Stencil.Error

/-!
# Files

What the library asks of a store of files. Programs that use files are written against this
interface, so that they run on a real system and on a `Disk` that proofs can see through. A store
gives single steps; what takes several, each of which may fail and leave the others done, is put
together here.
-/

namespace Stencil

/-- A point in time: nanoseconds since 1970. -/
abbrev Instant := Int

/-- A store of files and a clock. -/
class Files (m : Type → Type) where
  /-- The text of a file. -/
  readText : String → m (Except FileError String)
  /-- Makes a file with a text, or gives an existing one another text. -/
  writeText : String → String → m (Except FileError Unit)
  /-- Whether there is a file. -/
  isFile : String → m Bool
  /-- Whether there is a directory. -/
  isDirectory : String → m Bool
  /-- When a file or directory was last changed. -/
  modified : String → m (Except FileError Instant)
  /-- The path from the root without detours, if something is there. -/
  canonical : String → m (Except FileError String)
  /-- Makes a directory in one that is there. -/
  makeDirectory : String → m (Except FileError Unit)
  /-- Removes a file. -/
  removeFile : String → m (Except FileError Unit)
  /-- Removes a directory with all that it holds. -/
  removeDirectory : String → m (Except FileError Unit)
  /-- The names of what a directory holds. -/
  namesIn : String → m (Except FileError (List String))
  /-- The present. -/
  now : m Instant

namespace Files

/-- Whether there is a file or a directory. -/
def present {m : Type → Type} [Monad m] [Files m] (path : String) : m Bool := do
  return (← isFile path) || (← isDirectory path)

/-- Whether a path begins at the root. -/
def isAbsolute (path : String) : Bool := path.toList.head? == some '/'

/-- The path of a name in a directory. A path from the root stays as it is. -/
def join (directory name : String) : String :=
  if isAbsolute name || directory.isEmpty then name
  else if directory.toList.getLast? == some '/' then directory ++ name
  else directory ++ "/" ++ name

/-- The parts of a text between slashes, the first on top of `seen`, which is in reverse. -/
def parts (seen : List Char) : List Char → List String
  | [] => [String.ofList seen.reverse]
  | '/' :: rest => String.ofList seen.reverse :: parts [] rest
  | c :: rest => parts (c :: seen) rest

/-- The parts of a path. Slashes in a row and at its end count as one. -/
def names (path : String) : List String :=
  (parts [] path.toList).filter fun part => !part.isEmpty

/-- The paths on the way to a path, the longest one first. One point is no step. -/
def outward (path : String) : List String :=
  let start := if isAbsolute path then "/" else ""
  let steps := (names path).filter (· != ".")
  (steps.foldl (fun way name => join (way.headD start) name :: way) []).tail

section Directories

variable {m : Type → Type} [Monad m] [Files m]

/-- Makes a directory. One that is there already will do. -/
def ensureDirectory (path : String) : m (Except FileError Unit) := do
  match ← makeDirectory path with
  | .error .occupied => return if ← isDirectory path then .ok () else .error .occupied
  | result => return result

/-- Makes the first of some directories, each of which lies in the next one. A next one is made only
if it is missing, and those that are made stay when a later one fails. -/
def ensureNested : List String → m (Except FileError Unit)
  | [] => return .ok ()
  | path :: outer => do
      match ← ensureDirectory path with
      | .error .missing =>
          match ← ensureNested outer with
          | .ok () => ensureDirectory path
          | failure => return failure
      | result => return result

/-- Makes a directory and those it lies in, as far as they are missing. -/
def createDirectories (path : String) : m (Except FileError Unit) :=
  if path.isEmpty then return .ok () else ensureNested (path :: outward path)

/-- Removes a file, or a directory with all that it holds. -/
def remove (path : String) : m (Except FileError Unit) := do
  if ← isDirectory path then removeDirectory path else removeFile path

/-- Removes one after the other, up to the first that cannot be removed. -/
def removeEach : List String → m (Except FileError Unit)
  | [] => return .ok ()
  | path :: rest => do
      match ← remove path with
      | .ok () => removeEach rest
      | failure => return failure

end Directories

end Files

end Stencil
