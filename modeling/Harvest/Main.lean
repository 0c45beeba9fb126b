import Harvest.Clock
import Harvest.Command.Execute
import Harvest.Digest.Identifier
import Harvest.Digest.Random
import Harvest.Store.Image
import Std.Time.DateTime.Timestamp

/-!
The command line. The files that a command may read are loaded beforehand, the command is executed on
them, and what has changed is written afterwards. No server is reached from here.
-/

namespace Harvest.Main

open Command (Machine Invocation)

def entryOf (bytes : ByteArray) : FileEntry :=
  match (String.fromUTF8? bytes).bind Store.Database.ofText? with
  | some db => .database db
  | none => .plain bytes

def textOf (at_ : List String) : String := "/" ++ "/".intercalate at_

/-- Loads what is at the names of a path, from a directory on. -/
def loadNames (files : Files) (at_ : List String) : List String → IO Files
  | [] => pure files
  | name :: names => do
    if name = "." then loadNames files at_ names
    else if name = ".." then loadNames files at_.dropLast names
    else
      let here := at_ ++ [name]
      try
        let path ← IO.FS.realPath (textOf here)
        if ← path.isDir then loadNames (files.set here .directory) here names
        else if ← path.pathExists then pure (files.set here (entryOf (← IO.FS.readBinFile path)))
        else pure files
      catch _ => pure files

def load (files : Files) (cwd : List String) (path : String) : IO Files :=
  loadNames files (if Files.isAbsolute path then [] else cwd) (Files.names path)

def inputPath : Command → Option String
  | .run o => if o.input = "-" then none else some o.input
  | _ => none

/-- The path of the database that a command may use. -/
def databasePath (m : Machine) (i : Invocation) : Option String :=
  match (Command.prepare m i).run { files := m.files } with
  | (.ok s, _) => some (s.store.databasePath m.userData)
  | (.error _, _) => none

/-- Writes what is new or has changed, directories before what is in them. -/
def writeBack (before after : Files) : IO Unit := do
  for (at_, entry) in after.entries do
    match entry, before.get? at_ with
    | .directory, none => IO.FS.createDirAll (textOf at_)
    | .plain bytes, some (.plain old) => if bytes != old then IO.FS.writeBinFile (textOf at_) bytes
    | .plain bytes, _ => IO.FS.writeBinFile (textOf at_) bytes
    | .database db, some (.database old) => if db ≠ old then IO.FS.writeFile (textOf at_) db.toText
    | .database db, _ => IO.FS.writeFile (textOf at_) db.toText
    | .directory, some _ => pure ()

def userData : IO String := do
  match ← IO.getEnv "XDG_DATA_HOME" with
  | some dir => if Files.isAbsolute dir then return dir
  | none => pure ()
  pure (Settings.joinPath ((← IO.getEnv "HOME").getD "") ".local/share")

def environment : IO Settings.Environment := do
  let values ← Settings.Variable.all.mapM fun v => return (v.name, ← IO.getEnv v.name)
  pure fun name => (values.lookup name).join

def standardInput : IO (Except FileError String) := do
  try return .ok (← (← IO.getStdin).readToEnd)
  catch _ => return .error .notText

def now : IO Nat := do
  return (← Std.Time.Timestamp.now).toNanosecondsSinceUnixEpoch.val.toNat

def machine : IO Machine := do
  let clock ← now
  let seed := s!"{clock} {← IO.rand 0 UInt64.size} {← IO.rand 0 UInt64.size}"
  let drawn (n : Nat) : Nat :=
    (Digest.fingerprint s!"{seed} draw {n}").toList.foldl (fun n c => n * 16 + c.toNat) 0
  let span := Translation.saltHigh - Translation.saltLow
  pure {
    files := {}
    cwd := Files.names (toString (← IO.currentDir))
    environment := ← environment
    userData := ← userData
    stdin := .ok ""
    network := fun u _ => .unreachable s!"error sending request for url ({u.write})"
    outage := fun _ =>
      ⟨"Network is unreachable (os error 101)", ["SystemOverloadedError", "RetryableError"]⟩
    freshTaskId := Digest.identifier s!"{seed} run" 0
    identity := fun n => ⟨Digest.identifier seed n, Clock.dateTime clock⟩
    salt := fun n => Translation.saltLow + drawn n % span
    randomFingerprint := Digest.fingerprintOfNothing seed drawn
    elapsed := fun milliseconds => milliseconds * 1000000 }

/-- The machine with what a command line needs of the files and of the standard input. -/
def machineFor (arguments : List String) : IO Machine := do
  let m ← machine
  let files ← load m.files [] (textOf m.cwd)
  match Command.parse arguments with
  | .error _ => pure { m with files := files }
  | .ok i => do
    let files ← load files m.cwd i.configPath
    let files ← match inputPath i.command with
      | some path => load files m.cwd path
      | none => pure files
    let files ← match databasePath { m with files := files } i with
      | some path => do
        let files ← load files m.cwd path
        match Store.addressOf? path with
        | some address => load files m.cwd address.path
        | none => pure files
      | none => pure files
    let stdin ← match i.command with
      | .run o => if o.input = "-" then standardInput else pure m.stdin
      | _ => pure m.stdin
    pure { m with files := files, stdin := stdin }

def usage : String :=
  "Usage: config-spider [OPTIONS] <COMMAND>

Commands:
  run -i <FILE> [-v <VARIANT>] [-d] [-c <COUNT>] [--task-id <ID>] [--dry-run]
  translate <TEXT> [-t <LANGUAGE>]
  check-url <URL>
  hash [TEXT]
  resolve-url <PAGE> <LINK>
  help

Options:
  -f, --config-path <FILE>
  -l, --log-level <LEVEL>
  -h, --help
  -V, --version
"

/-- Shows the usage: on request as the result, else as a complaint. -/
def showUsage : Command.Stop → IO Unit
  | .help => do (← IO.getStdout).putStr usage
  | .usage => do (← IO.getStderr).putStr usage
  | .version => pure ()

end Harvest.Main

def main (arguments : List String) : IO UInt32 := do
  let m ← Harvest.Main.machineFor arguments
  let (report, files) := Harvest.Command.answer m arguments
  if let .error why := Harvest.Command.parse arguments then Harvest.Main.showUsage why
  Harvest.Main.writeBack m.files files
  (← IO.getStdout).putStr report.stdout
  (← IO.getStderr).putStr (report.stderr (Harvest.Clock.timeOfDay (← Harvest.Main.now)))
  return report.exitCode.toUInt32
