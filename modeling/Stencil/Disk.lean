import Stencil.Files
import Stencil.Table
import Stencil.Text.Find

/-!
# A disk

A tree of directories and files as a value, with a clock that stands still until time is said to
pass: what is changed in between bears one time. The disk obeys the rules of paths: every step leads
through a directory, one point stays and two points go back.

* `Disk.get?_put`: what putting an entry at a path changes.
-/

namespace Stencil

/-- What is at a path, and since when. A file whose bytes are no text has none. -/
inductive DiskEntry where
  | directory (changed : Instant)
  | file (text : Option String) (changed : Instant)
deriving DecidableEq, Repr

/-- The names on the way from the root. -/
abbrev DiskPath := List String

/-- The entries by their paths, the directory where paths begin, and the clock. -/
structure Disk where
  entries : Table DiskEntry
  home : DiskPath
  clock : Instant

namespace Disk

/-- A path from the root as a text. -/
def pathText (path : DiskPath) : String := "/" ++ "/".intercalate path

/-- What is at a path. The root is always a directory. -/
def get? (d : Disk) (path : DiskPath) : Option DiskEntry :=
  if path.isEmpty then some (.directory 0) else d.entries.get? (pathText path)

/-- Puts an entry at a path. -/
def put (d : Disk) (path : DiskPath) (entry : DiskEntry) : Disk :=
  { d with entries := d.entries.set (pathText path) entry }

/-- Removes the entry at a path. -/
def remove (d : Disk) (path : DiskPath) : Disk :=
  { d with entries := d.entries.erase (pathText path) }

/-- The disk when some nanoseconds have passed. -/
def later (d : Disk) (nanoseconds : Nat) : Disk := { d with clock := d.clock + nanoseconds }

/-- The path one step further. -/
def follow (path : DiskPath) (part : String) : DiskPath :=
  if part == "" || part == "." then path
  else if part == ".." then path.dropLast
  else path ++ [part]

/-- Fails where no further step is possible. -/
def checkStep (d : Disk) (path : DiskPath) (part : String) : Except FileError Unit :=
  match d.get? path with
  | none => .error .missing
  | some (.file ..) => .error .notADirectory
  | some (.directory _) => if 255 < part.utf8ByteSize then .error .tooLong else .ok ()

/-- Follows the parts from a path on. The last one need not exist. -/
def walk (d : Disk) : DiskPath → List String → Except FileError DiskPath
  | path, [] => .ok path
  | path, part :: rest => do
      d.checkStep path part
      d.walk (follow path part) rest

/-- Where a path from the root begins, and any other path. -/
def origin (d : Disk) (path : String) : DiskPath := if Files.isAbsolute path then [] else d.home

/-- The error of a text that cannot be a path, if it cannot. -/
def pathError? (path : String) : Option FileError :=
  if path.isEmpty then some .missing
  else if path.toList.contains '\x00' then
    some (.other "file name contained an unexpected NUL byte")
  else if 4095 < path.utf8ByteSize then some .tooLong
  else none

/-- The place that a text names. -/
def locate (d : Disk) (path : String) : Except FileError DiskPath :=
  match pathError? path with
  | some e => .error e
  | none => d.walk (d.origin path) (Files.parts [] path.toList)

/-- What is at the place that a text names. -/
def entry (d : Disk) (path : String) : Except FileError (DiskPath × DiskEntry) := do
  let place ← d.locate path
  match d.get? place with
  | some entry => .ok (place, entry)
  | none => .error .missing

/-- The text of a file. -/
def readText (d : Disk) (path : String) : Except FileError String := do
  match (← d.entry path).2 with
  | .directory _ => .error .isADirectory
  | .file none _ => .error .notText
  | .file (some text) _ => .ok text

/-- Whether a path says that it leads to a directory. -/
def endsInSlash (path : String) : Bool := path.toList.getLast? == some '/'

/-- The path without slashes at its end, except for that of the root. -/
def withoutEndSlashes (path : String) : String :=
  let cs := (path.toList.reverse.dropWhile (· == '/')).reverse
  if cs.isEmpty then "/" else String.ofList cs

/-- The error of making a file at a path that ends in a slash: that the path means a directory, once
the directory that it would lie in is found. -/
def slashError (d : Disk) (path : String) : FileError :=
  let way := (Files.parts [] (withoutEndSlashes path).toList).dropLast ++ ["."]
  match pathError? path, d.walk (d.origin path) way with
  | some e, _ => e
  | none, .error e => e
  | none, .ok _ => .isADirectory

/-- The disk with a file that has the text. -/
def writeText (d : Disk) (path text : String) : Except FileError Disk := do
  if endsInSlash path then .error (d.slashError path)
  else
    let place ← d.locate path
    match d.get? place with
    | some (.directory _) => .error .isADirectory
    | _ => .ok (d.put place (.file (some text) d.clock))

/-- Whether there is a file. -/
def isFile (d : Disk) (path : String) : Bool :=
  match d.entry path with
  | .ok (_, .file ..) => true
  | _ => false

/-- Whether there is a directory. -/
def isDirectory (d : Disk) (path : String) : Bool :=
  match d.entry path with
  | .ok (_, .directory _) => true
  | _ => false

/-- When the entry was last changed. -/
def modified (d : Disk) (path : String) : Except FileError Instant := do
  match (← d.entry path).2 with
  | .directory changed | .file _ changed => .ok changed

/-- The disk with a directory, where nothing is yet. -/
def makeDirectory (d : Disk) (path : String) : Except FileError Disk :=
  match pathError? path with
  | some e => .error e
  | none => do
      let place ← d.walk (d.origin path) (Files.names path)
      match d.get? place with
      | some _ => .error .occupied
      | none => .ok (d.put place (.directory d.clock))

/-- The disk without a file. -/
def removeFile (d : Disk) (path : String) : Except FileError Disk := do
  match ← d.entry path with
  | (_, .directory _) => .error .isADirectory
  | (place, .file ..) => .ok (d.remove place)

/-- What the path of an entry begins with if the entry lies in a directory. -/
def start (place : DiskPath) : List Char :=
  if place.isEmpty then ['/'] else (pathText place ++ "/").toList

/-- The place of a directory. -/
def directory (d : Disk) (path : String) : Except FileError DiskPath := do
  match ← d.entry path with
  | (_, .file ..) => .error .notADirectory
  | (place, .directory _) => .ok place

/-- The disk without a directory and all that lies in it. -/
def removeDirectory (d : Disk) (path : String) : Except FileError Disk := do
  let place ← d.directory path
  let outside := d.entries.filter fun entry => !(start place).isPrefixOf entry.1.toList
  .ok ({ d with entries := outside }.remove place)

/-- The names of what lies in a directory, the oldest entry first. -/
def namesIn (d : Disk) (path : String) : Except FileError (List String) := do
  let place ← d.directory path
  .ok ((d.entries.filterMap fun entry => Text.after? (start place) entry.1.toList).filterMap
    fun below => if below.contains '/' then none else some (String.ofList below))

/-- Makes a change, unless it fails. -/
def change (f : Disk → Except FileError Disk) : StateM Disk (Except FileError Unit) := fun d =>
  match f d with
  | .ok changed => (.ok (), changed)
  | .error e => (.error e, d)

instance : Files (StateM Disk) where
  readText path := return (← get).readText path
  writeText path text := change fun d => d.writeText path text
  isFile path := return (← get).isFile path
  isDirectory path := return (← get).isDirectory path
  modified path := return (← get).modified path
  canonical path := return ((← get).entry path).map fun found => pathText found.1
  makeDirectory path := change fun d => d.makeDirectory path
  removeFile path := change fun d => d.removeFile path
  removeDirectory path := change fun d => d.removeDirectory path
  namesIn path := return (← get).namesIn path
  now := return (← get).clock

theorem get?_put (d : Disk) (path other : DiskPath) (entry : DiskEntry) (h : other ≠ []) :
    (d.put path entry).get? other =
      if pathText path = pathText other then some entry else d.get? other := by
  simp [get?, put, Table.get?_set, h]

end Disk

end Stencil
