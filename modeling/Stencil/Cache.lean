import Stencil.Cache.Directory
import Stencil.Table

/-!
# The cache

Texts by key, in memory and, if wanted, in a directory that outlives the program. What is found in
the directory is held in memory from then on; what is written goes to both. Nobody else is expected
to write to the directory: who writes last wins.
-/

namespace Stencil

/-- The texts held in memory, and the directory behind them. -/
structure Cache where
  held : Table CacheEntry
  directory : Option CacheDirectory

namespace Cache

variable {m : Type → Type} [Monad m] [Files m]

/-- A cache that holds nothing yet. -/
def make (directory : Option String) : Cache := ⟨[], directory.map CacheDirectory.mk⟩

/-- Holds an entry in memory. -/
def hold (c : Cache) (key : String) (entry : CacheEntry) : Cache :=
  { c with held := c.held.set key entry }

/-- The file of a key, if there is a directory. -/
def fileOf? (c : Cache) (key : String) : Option String := c.directory.map fun d => d.fileOf key

/-- The text of a key from the directory, which is held from then on. -/
def promote (c : Cache) (d : CacheDirectory) (key : String) :
    m (Except FileError (Option String) × Cache) := do
  match ← d.read key with
  | .error e => return (.error e, c)
  | .ok none => return (.ok none, c)
  | .ok (some entry) => return (.ok (some entry.text), c.hold key entry)

/-- The text of a key. -/
def find? (c : Cache) (key : String) : m (Except FileError (Option String) × Cache) :=
  match c.held.get? key, c.directory with
  | some entry, _ => return (.ok (some entry.text), c)
  | none, none => return (.ok none, c)
  | none, some d => c.promote d key

/-- Writes a text to the directory, if there is one, and tells when that was. -/
def writeBehind (c : Cache) (key text : String) : m (Except FileError Instant) := do
  let present ← Files.now
  match c.directory with
  | none => return .ok present
  | some d =>
      match ← d.write key text with
      | .error e => return .error e
      | .ok _ => return .ok ((← d.writtenAt? key).getD present)

/-- Keeps a text under a key. -/
def insert (c : Cache) (key text : String) : m (Except FileError Unit × Cache) := do
  match ← c.writeBehind key text with
  | .error e => return (.error e, c)
  | .ok time => return (.ok (), c.hold key ⟨text, time⟩)

/-- Whether there is a text under a key. -/
def contains (c : Cache) (key : String) : m Bool :=
  match c.held.contains key, c.directory with
  | true, _ => return true
  | false, none => return false
  | false, some d => d.contains key

/-- When the text of a key was written. -/
def writtenAt? (c : Cache) (key : String) : m (Option Instant) :=
  match c.held.get? key, c.directory with
  | some entry, _ => return some entry.written
  | none, none => return none
  | none, some d => d.writtenAt? key

/-- Forgets the text of a key. Says whether there was one. -/
def erase (c : Cache) (key : String) : m (Except FileError Bool × Cache) := do
  let held := c.held.contains key
  let left := { c with held := c.held.erase key }
  match c.directory with
  | none => return (.ok held, left)
  | some d =>
      let onDisk ← d.erase key
      return (onDisk.map fun removed => held || removed, left)

/-- Forgets all texts. -/
def clear (c : Cache) : m (Except FileError Unit × Cache) := do
  let left := { c with held := [] }
  match c.directory with
  | none => return (.ok (), left)
  | some d => return (← d.clear, left)

end Cache

end Stencil
