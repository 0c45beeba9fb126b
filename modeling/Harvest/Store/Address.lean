import Harvest.Text.Split
import Harvest.Url.Percent

/-!
Addresses of databases. Most often one is the path of a file; one that starts with `file:` is a path in
percent-encoding, which parameters may follow after a question mark. What follows a number sign is no part
of it.
-/

namespace Harvest.Store

/-- How a database is opened, from the least to the most that may be done with it. -/
inductive Access
  | readOnly
  /-- An existing file is read and written. -/
  | existing
  /-- The file is created if need be. -/
  | creating
  /-- No file is touched. -/
  | memory
deriving DecidableEq, Repr

def Access.rank : Access → Nat
  | readOnly => 1
  | existing => 2
  | creating => 3
  | memory => 4

/-- The access that a parameter names. -/
def Access.ofName? : String → Option Access
  | "ro" => some readOnly
  | "rw" => some existing
  | "rwc" => some creating
  | "memory" => some memory
  | _ => none

structure Address where
  path : String
  access : Access := .creating
deriving DecidableEq, Repr

namespace Address

/-- Whether there is no file: in memory, or without a name. -/
def isTransient (a : Address) : Bool := a.access = .memory || a.path = "" || a.path = ":memory:"

/-- The text of a part in percent-encoding, up to a zero byte. -/
def decodePart? (part : String) : Option String :=
  String.fromUTF8? ⟨((Url.decodeBytes part.toUTF8.toList).takeWhile (· ≠ 0)).toArray⟩

/-- A name and a value with an equals sign between them; nothing where there is no name. -/
def parameter? (text : String) : Option (String × String) := do
  let name := text.toList.takeWhile (· ≠ '=')
  let value := text.toList.drop (name.length + 1)
  let name ← decodePart? (String.ofList name)
  if name = "" then none else pure (name, (decodePart? (String.ofList value)).getD "")

/-- The file systems that databases may lie in. -/
def fileSystems : List String := ["unix", "unix-none", "unix-dotfile", "unix-excl", "memdb"]

/-- An address with a parameter. No parameter may ask for more access than there is, but memory may always
be asked for; parameters of other names change nothing. -/
def withParameter? (a : Address) : String × String → Option Address
  | ("mode", value) => do
    let access ← Access.ofName? value
    if access = .memory ∨ access.rank ≤ a.access.rank then pure { a with access } else none
  | ("cache", value) => if value = "shared" ∨ value = "private" then some a else none
  | _ => some a

/-- The last file system that parameters name must be a known one. -/
def withFileSystem? (parameters : List (String × String)) (a : Address) : Option Address :=
  match (parameters.filter (·.1 = "vfs")).getLast? with
  | none => some a
  | some (_, name) =>
    if name ∉ fileSystems then none
    else if name = "memdb" then some { a with access := .memory }
    else some a

/-- What follows the host of an address, which may only be the machine itself. -/
def afterHost? : List Char → Option (List Char)
  | '/' :: '/' :: rest =>
    let host := rest.takeWhile (· ≠ '/')
    if String.ofList host = "" ∨ String.ofList host = "localhost" then some (rest.drop host.length) else none
  | rest => some rest

def afterScheme? : List Char → Option (List Char)
  | 'f' :: 'i' :: 'l' :: 'e' :: ':' :: rest => some rest
  | _ => none

def ofText? (text : String) : Option Address :=
  match afterScheme? text.toList with
  | none => some { path := text }
  | some rest => do
    let rest := (← afterHost? rest).takeWhile (· ≠ '#')
    let path := rest.takeWhile (· ≠ '?')
    let query := String.ofList (rest.drop (path.length + 1))
    let parameters := (Text.split query "&").filterMap parameter?
    let address ← parameters.foldlM withParameter? { path := ← decodePart? (String.ofList path) }
    address.withFileSystem? parameters

end Address

end Harvest.Store
