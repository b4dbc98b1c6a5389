import Std.Time.DateTime.Timestamp
import Stencil.CommandLine.Run

/-!
# The program

The command line over the files of the system. All that is decided is decided elsewhere; here files
are read and written, and the outcome is printed.
-/

namespace Stencil

/-- The number of an error. Some actions give it with a minus sign. -/
def errorNumber (code : UInt32) : Nat :=
  if code.toNat < 0x80000000 then code.toNat else 0x100000000 - code.toNat

/-- The error of a number, in the words of the system unless it is one of the named ones. -/
def FileError.ofNumber (number : Nat) (words : String) : FileError :=
  match number with
  | 2 => .missing
  | 17 => .occupied
  | 20 => .notADirectory
  | 21 => .isADirectory
  | 36 => .tooLong
  | _ => .other (words ++ " (os error " ++ toString number ++ ")")

/-- The cause of a failed action on a file. -/
def FileError.ofSystem (e : IO.Error) : FileError :=
  match e with
  | .noFileOrDirectory .. => .missing
  | .alreadyExists .. => .occupied
  | .inappropriateType _ code words
  | .invalidArgument _ code words
  | .permissionDenied _ code words
  | .resourceExhausted _ code words => .ofNumber (errorNumber code) words
  | _ => .other (toString e)

/-- An action on a file, with its failure as a result. -/
def trying {α : Type} (action : IO α) : IO (Except FileError α) := do
  match ← action.toBaseIO with
  | .ok a => return .ok a
  | .error e => return .error (.ofSystem e)

/-- A path as the system takes it: as that of a directory that entries lie in. -/
def placeOf (path : String) : IO.FS.DirEntry := ⟨path, "."⟩

/-- What the system knows about a path. -/
def statusOf (path : String) : IO (Except FileError IO.FS.Metadata) :=
  trying (placeOf path).root.metadata

/-- Whether there is something of a kind at a path. -/
def isKind (kind : IO.FS.FileType) (path : String) : IO Bool := do
  match ← statusOf path with
  | .ok status => return status.type == kind
  | .error _ => return false

/-- Nanoseconds since 1970. -/
def instantOf (t : IO.FS.SystemTime) : Instant := 1000000000 * t.sec + t.nsec.toNat

/-- The text of bytes that are one. -/
def decodeText (bytes : ByteArray) : Except FileError String :=
  match String.fromUTF8? bytes with
  | some text => .ok text
  | none => .error .notText

instance : Files IO where
  readText path := do
    return (← trying (IO.FS.readBinFile path)).bind decodeText
  writeText path text := trying (IO.FS.writeFile path text)
  isFile := isKind .file
  isDirectory := isKind .dir
  modified path := do
    return (← statusOf path).map fun status => instantOf status.modified
  canonical path := trying do return (← IO.FS.realPath path).toString
  makeDirectory path := trying (IO.FS.createDir path)
  removeFile path := trying (IO.FS.removeFile path)
  removeDirectory path := trying (IO.FS.removeDirAll path)
  namesIn path := trying do
    return (← (placeOf path).root.readDir).toList.map fun entry => entry.fileName
  now := do
    let present ← Std.Time.Timestamp.now
    return present.toNanosecondsSinceUnixEpoch.val

/-- How the program is called. -/
def usage : String :=
  "Usage:\n" ++
    "  render NAME [-p PATH]... [-d FILE] [-V KEY=VALUE]... [--cache-dir PATH] [--strict]\n" ++
    "              [--config FILE] [-o FILE]\n" ++
    "  compile NAME [-p PATH]... [--config FILE]\n" ++
    "  tokens FILE [--open TEXT] [--close TEXT]\n" ++
    "  cache clear --cache-dir PATH\n"

/-- Prints how a run has ended. -/
def CommandLine.Outcome.print : CommandLine.Outcome → IO Unit
  | .printed text => IO.print text
  | .failed failure => IO.eprint failure.describe
  | .refused .usage => IO.eprint usage
  | .refused .help => IO.print usage
  | .refused .version => IO.print CommandLine.versionLine

end Stencil

/-- Runs the program. -/
def main (words : List String) : IO UInt32 := do
  let outcome ← Stencil.CommandLine.run words
  outcome.print
  return UInt32.ofNat outcome.status
