import Stencil.Digest
import Stencil.Files

/-!
# The cache directory

Cached texts in files. The file of a key is named by the digest of the key and lies in a directory
named by the first two digits of it.
-/

namespace Stencil

/-- A cached text and when it was written. -/
structure CacheEntry where
  text : String
  written : Instant
deriving DecidableEq, Repr

/-- A directory of cached texts. It need not exist before the first one is written. -/
structure CacheDirectory where
  root : String
deriving DecidableEq, Repr

namespace CacheDirectory

variable {m : Type → Type} [Monad m] [Files m]

/-- The directory of the file of a key. -/
def shardOf (c : CacheDirectory) (key : String) : String :=
  Files.join c.root (String.ofList ((Digest.ofText key).toList.take 2))

/-- The file of a key. -/
def fileOf (c : CacheDirectory) (key : String) : String :=
  Files.join (c.shardOf key) (Digest.ofText key ++ ".json")

/-- The entry of a key, if there is one. -/
def read (c : CacheDirectory) (key : String) : m (Except FileError (Option CacheEntry)) := do
  match ← Files.readText (c.fileOf key) with
  | .error .missing => return .ok none
  | .error e => return .error e
  | .ok text =>
      let changed ← Files.modified (c.fileOf key)
      return changed.map fun time => some ⟨text, time⟩

/-- Makes the directory of a file, if it is missing. -/
def prepare (c : CacheDirectory) (key : String) : m (Except FileError Unit) := do
  if ← Files.present (c.shardOf key) then return .ok ()
  else Files.createDirectories (c.shardOf key)

/-- Writes the text of a key and gives the file. -/
def write (c : CacheDirectory) (key text : String) : m (Except FileError String) := do
  match ← c.prepare key with
  | .error e => return .error e
  | .ok () =>
      let written ← Files.writeText (c.fileOf key) text
      return written.map fun () => c.fileOf key

/-- Whether there is a file for a key. -/
def contains (c : CacheDirectory) (key : String) : m Bool := Files.isFile (c.fileOf key)

/-- When the file of a key was written. -/
def writtenAt? (c : CacheDirectory) (key : String) : m (Option Instant) := do
  return (← Files.modified (c.fileOf key)).toOption

/-- Removes the file of a key. Says whether there was one. -/
def erase (c : CacheDirectory) (key : String) : m (Except FileError Bool) := do
  match ← Files.removeFile (c.fileOf key) with
  | .ok () => return .ok true
  | .error .missing => return .ok false
  | .error e => return .error e

/-- Removes all that the directory holds. It stays itself, and need not be there. Each thing goes by
its path, so the path of the directory must not lead through what is removed before the last. -/
def clear (c : CacheDirectory) : m (Except FileError Unit) := do
  match ← Files.namesIn c.root with
  | .ok names => Files.removeEach (names.map (Files.join c.root))
  | .error .missing => return .ok ()
  | .error e => return .error e

end CacheDirectory

end Stencil
