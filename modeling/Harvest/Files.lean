import Harvest.Store.Database
import Harvest.Text.Split

/-!
The files of a machine: directories, plain files and database files under a root directory. Paths follow
the usual rules (`.` and `..`, one or more slashes between names), and what goes wrong has the numbers and
the texts of the system's errors.
-/

namespace Harvest

inductive FileEntry
  | directory
  | plain (bytes : ByteArray)
  | database (db : Store.Database)

/-- Entries by their names from the root; the root itself is always a directory. -/
structure Files where
  entries : List (List String × FileEntry) := []

inductive FileError
  | notFound
  | exists
  | notDirectory
  | isDirectory
  | nameTooLong
  | nulInPath
  | notText
deriving DecidableEq, Repr

def FileError.message : FileError → String
  | notFound => "No such file or directory (os error 2)"
  | .exists => "File exists (os error 17)"
  | notDirectory => "Not a directory (os error 20)"
  | isDirectory => "Is a directory (os error 21)"
  | nameTooLong => "File name too long (os error 36)"
  | nulInPath => "file name contained an unexpected NUL byte"
  | notText => "stream did not contain valid UTF-8"

def FileError.toFailure (e : FileError) : Failure := ⟨e.message, []⟩

namespace Files

/-- The names of a path, without empty ones. -/
def names (path : String) : List String := (Text.split path "/").filter (· ≠ "")

def isAbsolute (path : String) : Bool := path.startsWith "/"

def get? (fs : Files) (at_ : List String) : Option FileEntry :=
  if at_ = [] then some .directory else fs.entries.lookup at_

def set (fs : Files) (at_ : List String) (e : FileEntry) : Files :=
  ⟨if (fs.entries.lookup at_).isSome then
      fs.entries.map fun (p, old) => if p = at_ then (p, e) else (p, old)
    else fs.entries ++ [(at_, e)]⟩

/-- Where one name of a path leads to from a directory; the names between must be directories. -/
def enter (fs : Files) (at_ : List String) (name : String) : Except FileError (List String) :=
  if name = "." then .ok at_
  else if name = ".." then .ok at_.dropLast
  else if name.utf8ByteSize > 255 then .error .nameTooLong
  else
    match fs.get? (at_ ++ [name]) with
    | none => .error .notFound
    | some .directory => .ok (at_ ++ [name])
    | some _ => .error .notDirectory

/-- Where a path leads to: a directory that exists, and a name in it that need not. -/
structure Place where
  directory : List String
  /-- Nothing, where the path means the directory itself. -/
  name : Option String
  slash : Bool

def Place.full (p : Place) : List String :=
  match p.name with
  | none => p.directory
  | some n => p.directory ++ [n]

/-- Where a path leads to from a directory. -/
def locate (fs : Files) (cwd : List String) (path : String) : Except FileError Place :=
  if path.any (· = '\x00') then .error .nulInPath
  else if path = "" then .error .notFound
  else if path.utf8ByteSize > 4095 then .error .nameTooLong
  else do
    let start := if isAbsolute path then [] else cwd
    let parts := names path
    let directory ← parts.dropLast.foldlM fs.enter start
    match parts.getLast? with
    | none => .ok ⟨directory, none, true⟩
    | some last =>
      if last = "." ∨ last = ".." then .ok ⟨← fs.enter directory last, none, true⟩
      else if last.utf8ByteSize > 255 then .error .nameTooLong
      else .ok ⟨directory, some last, path.endsWith "/"⟩

def entry? (fs : Files) (cwd : List String) (path : String) : Except FileError FileEntry := do
  let place ← fs.locate cwd path
  match fs.get? place.full with
  | none => .error .notFound
  | some .directory => .ok .directory
  | some e => if place.slash then .error .notDirectory else .ok e

def pathExists (fs : Files) (cwd : List String) (path : String) : Bool := (fs.entry? cwd path).isOk

def isDirectory (fs : Files) (cwd : List String) (path : String) : Bool :=
  match fs.entry? cwd path with
  | .ok .directory => true
  | _ => false

def decodeText (bytes : ByteArray) : Except FileError String :=
  match String.fromUTF8? bytes with
  | some s => .ok s
  | none => .error .notText

def readText (fs : Files) (cwd : List String) (path : String) : Except FileError String := do
  match ← fs.entry? cwd path with
  | .directory => .error .isDirectory
  | .plain bytes => decodeText bytes
  | .database _ => .error .notText

/-- Replaces the content of a file, which is created if need be. A path that ends in a slash means a
directory, whatever is there. -/
def writeText (fs : Files) (cwd : List String) (path text : String) : Except FileError Files := do
  let place ← fs.locate cwd path
  match fs.get? place.full with
  | some .directory => .error .isDirectory
  | _ => if place.slash then .error .isDirectory else .ok (fs.set place.full (.plain text.toUTF8))

/-- Creates a directory in one that exists. -/
def createDir (fs : Files) (cwd : List String) (path : String) : Except FileError Files := do
  let place ← fs.locate cwd path
  match fs.get? place.full with
  | some _ => .error .exists
  | none => .ok (fs.set place.full .directory)

/-- Cuts empty and `.` parts off the end of a path, but no root and no leading `.`. -/
def trimParts : List String → List String
  | [] => []
  | p :: ps => if ps ≠ [] ∧ (p = "" ∨ p = ".") then trimParts ps else p :: ps

/-- The path without its last name; nothing for the root and the empty path. -/
def parent? (path : String) : Option String :=
  match trimParts (Text.split path "/").reverse with
  | [] => none
  | [p] => if p = "" then none else some ""
  | _ :: ps =>
    match trimParts ps with
    | [""] => some "/"
    | ps => some ("/".intercalate ps.reverse)

/-- Creates a directory and those above it that are missing; `fuel` bounds their number. -/
def createDirAllWithin (fs : Files) (cwd : List String) (path : String) : Nat → Except FileError Files
  | 0 => .error .notFound
  | fuel + 1 =>
    if path = "" then .ok fs
    else
      let create (fs : Files) : Except FileError Files :=
        match fs.createDir cwd path with
        | .error e => if fs.isDirectory cwd path then .ok fs else .error e
        | .ok fs => .ok fs
      match fs.createDir cwd path with
      | .error .notFound =>
        match parent? path with
        | none => .error .notFound
        | some above => do create (← fs.createDirAllWithin cwd above fuel)
      | _ => create fs

def createDirAll (fs : Files) (cwd : List String) (path : String) : Except FileError Files :=
  fs.createDirAllWithin cwd path (path.length + 1)

end Files

end Harvest
