import Harvest.Command.Arguments
import Harvest.Command.Report
import Harvest.Digest
import Harvest.Pipeline.Runner
import Harvest.Record.Lines
import Harvest.Settings.Environment
import Harvest.Settings.File
import Harvest.Settings.Validation
import Harvest.Store.Memory
import Harvest.Store.Opening
import Harvest.Translation.Client
import Harvest.Translation.Rehearsal
import Harvest.Url.Resolve

/-!
Executing commands on a machine.
-/

namespace Harvest.Command

/-- Why a database server cannot be reached, and how such a failure is labelled. -/
structure Outage where
  reason : String
  labels : List String := []
deriving Repr

/-- What is told of a server at an address that did not answer in time. -/
def Outage.text (o : Outage) (address : String) : String :=
  let labels := ", ".intercalate (o.labels.map Text.quoted)
  let rest := "source: None, server response: None"
  s!"Kind: Server selection timeout: No available servers. Topology: \x7b Type: Unknown, Servers: [ \x7b Address: {address}, Type: Unknown, Error: Kind: I/O error: {o.reason}, labels: \x7b{labels}\x7d, {rest} \x7d ] \x7d, labels: \x7b\x7d, {rest}"

/-- What a command finds around it. -/
structure Machine where
  files : Files
  cwd : List String
  environment : Settings.Environment
  userData : String
  stdin : Except FileError String
  network : Url → Translation.Request → Translation.Exchange
  /-- Why the database server of a host does not answer. -/
  outage : String → Outage
  freshTaskId : String
  identity : Nat → Pipeline.Identity
  salt : Nat → Nat
  randomFingerprint : String
  /-- The nanoseconds that a run with some milliseconds of pauses takes. -/
  elapsed : Nat → Nat

/-- The state of a command: the files, what was logged, and what was written. -/
structure State where
  files : Files
  log : List Log.Entry := []
  stdout : String := ""

/-- A part of a command. It may fail, and what was done before stays done. -/
abbrev Job (α : Type) := ExceptT Failure (StateM State) α

namespace Job

def note (entries : List Log.Entry) : Job Unit :=
  modify fun s => { s with log := s.log ++ entries }

def say (line : String) : Job Unit :=
  modify fun s => { s with stdout := s.stdout ++ line ++ "\n" }

end Job

open Job

/-- The settings in a file, or the usual ones, which are then written into it. -/
def loadSettings (m : Machine) (path : String) : Job Settings := do
  let files := (← get).files
  if files.pathExists m.cwd path then liftExcept (Settings.load files m.cwd path)
  else
    note [Log.warn s!"Config file not found at '{path}', creating default config."]
    let files ← liftExcept (({} : Settings).save files m.cwd path)
    modify fun s => { s with files := files }
    pure {}
where
  liftExcept {α : Type} (x : Except Failure α) : Job α := ExceptT.mk (pure x)

def requireValid (s : Settings) : Job Unit :=
  match s.validate with
  | .ok () => pure ()
  | .error d => throw (d.toFailure.wrap "Configuration validation failed")

/-- Opens the store that settings describe. Database servers are out of reach. -/
def openStore (m : Machine) (s : Settings.Store) : Job Store.FileConnection := do
  note [Log.info s!"Opening {s.backend.name} store for collection '{s.collection}'"]
  match s.backend with
  | .mongo =>
    let address := s.serverOptions.address
    throw ⟨s!"Store unavailable at {address}", [(m.outage s.host).text address]⟩
  | .sqlite =>
    let opening := Store.openPath (← get).files m.cwd (s.databasePath m.userData) s.collection
    modify fun state => { state with files := opening.files }
    note opening.notes
    match opening.answer with
    | .ok c => pure c
    | .error f => throw f

def makeClient (s : Settings) : Job Translation.Client := do
  let client := Translation.Client.ofSettings s.translation
  note client.creationNotes
  pure client

def readInput (m : Machine) (input : String) : Job String := do
  if input = "-" then
    match m.stdin with
    | .ok text => pure text
    | .error e => throw (e.toFailure.wrap "Failed to read records from stdin")
  else
    match (← get).files.readText m.cwd input with
    | .ok text => pure text
    | .error e => throw (e.toFailure.wrap s!"Failed to read records from {Text.quoted input}")

def runRecords {σ τ : Type} (m : Machine) (s : Settings) (taskId : String) (store : RecordStore σ)
    (translator : Translation.Translator τ) (start : σ) (memory : τ) (records : List Record) :
    Job (Pipeline.Summary × σ × Nat) := do
  let pipeline := Pipeline.ofSettings s taskId store translator m.identity
  let (summary, shared, slept) := pipeline.runAll s.pipeline.concurrency.toNat
    { store := start, session := ⟨memory, []⟩ } records
  note shared.log
  pure (summary, shared.store, slept)

def runDry (m : Machine) (s : Settings) (taskId : String) (records : List Record) :
    Job (Pipeline.Summary × Nat) := do
  note [Log.info "Dry run: records stay in memory, translations are echoed"]
  let (summary, _, slept) ← runRecords m s taskId Store.Memory.store Translation.Rehearsal.echo.translator
    [] 0 records
  pure (summary, slept)

def runStored (m : Machine) (s : Settings) (taskId : String) (records : List Record) :
    Job (Pipeline.Summary × Nat) := do
  let connection ← openStore m s.store
  let client ← makeClient s
  let (summary, collection, slept) ← runRecords m s taskId Store.Collection.store
    (client.translator m.network m.salt) connection.collection 0 records
  match connection.location with
  | some at_ => modify fun state => { state with files := state.files.set at_ (.database collection.database) }
  | none => pure ()
  pure (summary, slept)

def seconds (nanoseconds : Nat) : String :=
  let tenths := (nanoseconds + 50000000) / 100000000
  s!"{tenths / 10}.{tenths % 10}"

def runInput (m : Machine) (o : RunOptions) (s : Settings) : Job Unit := do
  let s := o.override s
  requireValid s
  let (s, taskId) := s.ensureTaskId m.freshTaskId
  note [Log.info s!"Task id: {taskId}"]
  let text ← readInput m o.input
  let records ← match Record.parseLines text with
    | .ok records => pure records
    | .error f => throw f
  note [Log.debug s!"Loaded {records.length} record(s)"]
  let (summary, slept) ← if o.dryRun then runDry m s taskId records else runStored m s taskId records
  let counters := summary.counters
  if counters.errors > 0 then
    throw ⟨s!"{counters.errors} of {summary.received} record(s) failed, see the log above", []⟩
  let elapsed := m.elapsed slept
  note [Log.info s!"Finished in {seconds elapsed}s: {counters.text}"]
  say (summary.toJson elapsed).pretty

def translateText (m : Machine) (s : Settings) (text : String) (target : Option String) : Job Unit := do
  requireValid s
  let client ← makeClient s
  let (answer, notes) :=
    client.translate m.network ⟨text, target.getD s.translation.targetLanguage⟩ (m.salt 0)
  note notes
  match answer with
  | .ok (some translated) => say translated
  | .ok none => note [Log.warn "The API returned no translation"]
  | .error f => throw ⟨f.message, []⟩

def showStored (m : Machine) (s : Settings) (url : String) : Job Unit := do
  requireValid s
  let connection ← openStore m s.store
  match (connection.collection.find url).1 with
  | .ok (some stored) => say stored.toJson.pretty
  | .ok none => note [Log.info s!"{url} is not stored in '{s.store.collection}'"]
  | .error f => throw f

def perform (m : Machine) (s : Settings) : Command → Job Unit
  | .run options => runInput m options s
  | .translate text target => translateText m s text target
  | .checkUrl url => showStored m s url
  | .hash (some text) => say (Digest.fingerprint text)
  | .hash none => say m.randomFingerprint
  | .resolveUrl page href =>
    match Url.resolve page href with
    | .ok url => say url
    | .error e => throw e.toFailure

/-- Loads the settings and lets the environment override them. -/
def prepare (m : Machine) (i : Invocation) : Job Settings := do
  let s ← loadSettings m i.configPath
  note (Settings.environmentNotes m.environment)
  pure (s.applyEnvironment m.environment)

def shown (bound : Log.Level) (log : List Log.Entry) : List Log.Entry := log.filter (·.level.within bound)

/-- Executes a command line. Until the settings are known, the level of their log does not count. -/
def execute (m : Machine) (i : Invocation) : Report × Files :=
  match (prepare m i).run { files := m.files } with
  | (.error f, s) => ({ exitCode := 1, log := shown (i.logLevel.getD .info) s.log, failure := some f }, s.files)
  | (.ok settings, s) =>
    let early := shown (i.logLevel.getD .info) s.log
    let bound := i.logLevel.getD settings.logLevel
    match (perform m settings i.command).run { files := s.files } with
    | (.error f, s) =>
      ({ exitCode := 1, stdout := s.stdout, log := early ++ shown bound s.log, failure := some f }, s.files)
    | (.ok (), s) => ({ stdout := s.stdout, log := early ++ shown bound s.log }, s.files)

def answer (m : Machine) (arguments : List String) : Report × Files :=
  match parse arguments with
  | .ok i => execute m i
  | .error .usage => ({ exitCode := 2 }, m.files)
  | .error .help => ({}, m.files)
  | .error .version => ({ stdout := s!"{programName} {version}\n" }, m.files)

end Harvest.Command
