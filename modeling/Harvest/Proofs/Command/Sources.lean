import Harvest.Proofs.Command.DryRun
import Harvest.Proofs.Pipeline.Marked
import Harvest.Proofs.Settings.Sources
import Harvest.Proofs.Store.Reopening

/-!
The settings of a run. They come from the options of the command line, the environment, the settings file and the
defaults, the first of these that has a value for a field; main statement: a run is one with the settings that come of
this, from their validation to the task id that all of its records bear.
-/

namespace Harvest.Command

open Job Pipeline
open Settings (Field)

/-- What the command line of a run has for a field. -/
def Invocation.given (i : Invocation) (o : RunOptions) : (f : Field) → Option f.Value
  | .taskId => o.taskId.map some
  | .variant => o.variant
  | .dropDuplicates => if o.dropDuplicates then some true else none
  | .concurrency => o.concurrency
  | .logLevel => i.logLevel
  | _ => none

/-- The settings with which a run is executed. -/
def Invocation.override (i : Invocation) (o : RunOptions) (s : Settings) : Settings :=
  { o.override s with logLevel := i.logLevel.getD s.logLevel }

/-- The options of a run that override nothing. -/
def RunOptions.bare (o : RunOptions) : RunOptions := { input := o.input, dryRun := o.dryRun }

/-- How settings are loaded: what is read of each field in the file of a path, and the state that is left. A file that
is missing has nothing for any field, and is written. -/
inductive Loaded (m : Machine) (path : String) : ((f : Field) → Option f.Value) → State → Prop
  | file {text : String} {s : Settings} (present : m.files.pathExists m.cwd path = true)
      (held : m.files.readText m.cwd path = .ok text) (loads : Settings.parse text = .ok s) :
      Loaded m path (Settings.given (Json.Document.ofText text).root) { files := m.files }
  | missing {files : Files} (absent : m.files.pathExists m.cwd path = false)
      (written : ({} : Settings).save m.files m.cwd path = .ok files) :
      Loaded m path (fun _ => none)
        { files := files, log := [Log.warn s!"Config file not found at '{path}', creating default config."] }

/-- What is reported of a command, once its settings have been loaded. -/
def reported (early : List Log.Entry) (bound : Log.Level) (outcome : Except Failure Unit × State) : Report × Files :=
  match outcome.1 with
  | .error f =>
    ({ exitCode := 1, stdout := outcome.2.stdout, log := early ++ shown bound outcome.2.log, failure := some f },
      outcome.2.files)
  | .ok () => ({ stdout := outcome.2.stdout, log := early ++ shown bound outcome.2.log }, outcome.2.files)

/-- How a run ends whose records have gone through a pipeline, whatever it has logged. -/
inductive Conclusion (m : Machine) (summary : Summary) (slept : Nat) (start : State) :
    Except Failure Unit × State → Prop
  | failed (some_failed : summary.counters.errors > 0) (log : List Log.Entry) : Conclusion m summary slept start
      (.error ⟨s!"{summary.counters.errors} of {summary.received} record(s) failed, see the log above", []⟩,
        { start with log := log })
  | done (none_failed : ¬summary.counters.errors > 0) (log : List Log.Entry) : Conclusion m summary slept start
      (.ok (), { start with log := log, stdout := start.stdout ++ (summary.toJson (m.elapsed slept)).pretty ++ "\n" })

/-- What comes of records that are stored through a connection. -/
def deliver (m : Machine) (s : Settings) (taskId : String) (connection : Store.FileConnection) (records : List Record) :
    Summary × Shared Store.Collection Nat × Nat :=
  let client := Translation.Client.ofSettings s.translation
  (ofSettings s taskId Store.Collection.store (client.translator m.network m.salt) m.identity).runAll
    s.pipeline.concurrency.toNat { store := connection.collection, session := ⟨0, []⟩ } records

/-- The database that a run's settings name, opened. -/
def opening (m : Machine) (s : Settings) (files : Files) : Store.Opening :=
  Store.openPath files m.cwd (s.store.databasePath m.userData) s.store.collection

/-- The files once a database that was opened through a connection is closed. -/
def closed (files : Files) (connection : Store.FileConnection) (db : Store.Database) : Files :=
  match connection.location with
  | some at_ => files.set at_ (.database db)
  | none => files

/-- Whether settings are valid and the input holds these records. -/
structure Takes (m : Machine) (o : RunOptions) (s : Settings) (files : Files) (records : List Record) : Prop where
  valid : s.validate = .ok ()
  input : ∃ text, ((readInput m o.input).run { files := files }).1 = .ok text ∧ Record.parseLines text = .ok records

/-- What settings do for a run. They are validated before anything else is done; then the store, the translator, the
pipeline and the number of records under way come of them, and all that is stored bears one task id. -/
structure RunsWith (m : Machine) (o : RunOptions) (s : Settings) (taskId : String) (start : State)
    (outcome : Except Failure Unit × State) : Prop where
  invalid : ∀ d, s.validate = .error d →
    outcome = (.error (d.toFailure.wrap "Configuration validation failed"), start)
  dry : ∀ records, Takes m o s start.files records → o.dryRun = true →
    let ran := rehearse m s taskId records
    Conclusion m ran.1 ran.2.2 start outcome ∧ ∀ row ∈ ran.2.1.store, row.record.taskId = some taskId
  server : ∀ records, Takes m o s start.files records → o.dryRun = false → s.store.backend = .mongo →
    outcome.1 = .error ⟨s!"Store unavailable at {s.store.serverOptions.address}",
      [(m.outage s.store.host).text s.store.serverOptions.address]⟩
  unopened : ∀ records, Takes m o s start.files records → o.dryRun = false → s.store.backend = .sqlite →
    ∀ f, (opening m s start.files).answer = .error f → outcome.1 = .error f
  file : ∀ records, Takes m o s start.files records → o.dryRun = false → s.store.backend = .sqlite →
    ∀ connection, (opening m s start.files).answer = .ok connection →
      let ran := deliver m s taskId connection records
      let rows (c : Store.Collection) := c.database.rows? s.store.collection
      Conclusion m ran.1 ran.2.2
        { start with files := closed (opening m s start.files).files connection ran.2.1.store.database } outcome ∧
      ∃ added, rows ran.2.1.store = (rows connection.collection).map (· ++ added) ∧
        ∀ row ∈ added, row.taskId = some taskId

theorem get_override (i : Invocation) (o : RunOptions) (s : Settings) (f : Field) :
    (i.override o s).get f = (i.given o f).getD (s.get f) := by
  cases f with
  | taskId =>
    change (o.taskId <|> s.taskId) = (o.taskId.map some).getD s.taskId
    cases o.taskId <;> rfl
  | dropDuplicates =>
    change (o.dropDuplicates || s.pipeline.dropDuplicates) = _
    rw [Invocation.given]
    cases o.dropDuplicates <;> rfl
  | _ => rfl

variable {m : Machine}

theorem loadSettings_of_loaded {path : String} {said : (f : Field) → Option f.Value} {state : State}
    (loaded : Loaded m path said state) : ∃ s : Settings, (∀ f, s.get f = (said f).getD (({} : Settings).get f)) ∧
      (loadSettings m path).run { files := m.files } = (.ok s, state) := by
  cases loaded with
  | @file text s present held loads =>
    have loads' : Settings.load m.files m.cwd path = .ok s := by simp only [Settings.load, held, loads]
    refine ⟨s, Settings.get_of_parse loads, ?_⟩
    rw [loadSettings, run_bind_ok (get_run _)]
    dsimp only
    rw [if_pos present, loads']
    rfl
  | missing absent written =>
    refine ⟨{}, fun _ => rfl, ?_⟩
    rw [loadSettings, run_bind_ok (get_run _)]
    dsimp only
    rw [if_neg (by rw [absent]; decide), run_bind_ok (note_run _ _), written]
    rfl

/-- Settings that are not loaded leave nothing but a failure and what was logged of it. -/
theorem loadSettings_of_not_loaded {path : String} (unloaded : ∀ said state, ¬Loaded m path said state) :
    ∃ f log, (loadSettings m path).run { files := m.files } = (.error f, { files := m.files, log := log }) := by
  rw [loadSettings, run_bind_ok (get_run _)]
  dsimp only
  split
  · rename_i present
    cases load : Settings.load m.files m.cwd path with
    | error f => exact ⟨f, [], rfl⟩
    | ok s =>
      simp only [Settings.load] at load
      split at load
      · cases load
      · rename_i text held
        split at load
        · cases load
        · rename_i loads
          exact absurd (.file present held loads) (unloaded _ _)
  · rename_i absent
    rw [run_bind_ok (note_run _ _)]
    cases save : ({} : Settings).save m.files m.cwd path with
    | error f => exact ⟨f, _, run_bind_error rfl⟩
    | ok files => exact absurd (.missing (Bool.eq_false_iff.2 absent) save) (unloaded _ _)

theorem execute_of_not_loaded {i : Invocation} (unloaded : ∀ said state, ¬Loaded m i.configPath said state) :
    ∃ f log, execute m i = ({ exitCode := 1, log := log, failure := some f }, m.files) := by
  obtain ⟨f, log, run⟩ := loadSettings_of_not_loaded unloaded
  rw [execute, prepare, run_bind_error run]
  exact ⟨f, _, rfl⟩

theorem prepare_of_loaded {i : Invocation} {said : (f : Field) → Option f.Value} {state : State}
    (loaded : Loaded m i.configPath said state) :
    ∃ s : Settings, (∀ f, s.get f = ((m.environment.given f).or (said f)).getD (({} : Settings).get f)) ∧
      (prepare m i).run { files := m.files } =
        (.ok s, { state with log := state.log ++ Settings.environmentNotes m.environment }) := by
  obtain ⟨s, fields, run⟩ := loadSettings_of_loaded loaded
  refine ⟨s.applyEnvironment m.environment, fun f => ?_, ?_⟩
  · rw [Settings.get_of_given, fields, Option.getD_or]
  · rw [prepare, run_bind_ok run, run_bind_ok (note_run _ _)]
    rfl

theorem execute_run {i : Invocation} {o : RunOptions} {s : Settings} {state : State} (command : i.command = .run o)
    (prepared : (prepare m i).run { files := m.files } = (.ok s, state)) :
    execute m i = reported (shown (i.logLevel.getD .info) state.log) (i.logLevel.getD s.logLevel)
      ((runInput m o s).run { files := state.files }) := by
  rw [execute, prepared]
  simp only [command, perform, reported]
  rcases (runInput m o s).run { files := state.files } with ⟨f | ⟨⟩, state'⟩ <;> rfl

theorem override_bare (o : RunOptions) (s : Settings) : o.bare.override s = s := by
  obtain ⟨taskId, store, translation, pipeline, logLevel⟩ := s
  cases taskId <;> rfl

/-- A run with options is one without on the settings that they override, where the level of the log makes no
difference. -/
theorem runInput_override (i : Invocation) (o : RunOptions) (s : Settings) :
    runInput m o s = runInput m o.bare (i.override o s) := by
  have level (s : Settings) (l : Log.Level) : runInput m o.bare { s with logLevel := l } = runInput m o.bare s := by
    obtain ⟨taskId, store, translation, pipeline, logLevel⟩ := s
    cases taskId <;> rfl
  rw [Invocation.override, level]
  conv_rhs => rw [runInput, override_bare]
  rfl

theorem ensureTaskId_eq (s : Settings) (fresh : String) :
    s.ensureTaskId fresh = ({ s with taskId := some (s.taskId.getD fresh) }, s.taskId.getD fresh) := by
  obtain ⟨taskId, store, translation, pipeline, logLevel⟩ := s
  cases taskId <;> rfl

section Stored

variable {s : Settings}

theorem openStore_mongo (server : s.store.backend = .mongo) (state : State) :
    ∃ log, (openStore m s.store).run state = (.error ⟨s!"Store unavailable at {s.store.serverOptions.address}",
      [(m.outage s.store.host).text s.store.serverOptions.address]⟩, { state with log := log }) := by
  rw [openStore, run_bind_ok (note_run _ _), server]
  exact ⟨_, rfl⟩

theorem openStore_sqlite (file : s.store.backend = .sqlite) (state : State) : ∃ log, (openStore m s.store).run state =
    ((opening m s state.files).answer, { state with files := (opening m s state.files).files, log := log }) := by
  rw [openStore, run_bind_ok (note_run _ _), file]
  dsimp only
  rw [run_bind_ok (get_run _)]
  change ∃ log, (modify _ >>= fun _ => _ : Job Store.FileConnection).run _ = _
  rw [run_bind_ok (x := modify _) rfl, run_bind_ok (note_run _ _), opening]
  dsimp only
  cases (Store.openPath state.files m.cwd (s.store.databasePath m.userData) s.store.collection).answer <;>
    exact ⟨_, rfl⟩

theorem makeClient_run (s : Settings) (state : State) : ∃ log,
    (makeClient s).run state = (.ok (Translation.Client.ofSettings s.translation), { state with log := log }) :=
  ⟨_, rfl⟩

theorem deliver_run (connection : Store.FileConnection) (taskId : String) (records : List Record) (state : State) :
    let client := Translation.Client.ofSettings s.translation
    let delivered := deliver m s taskId connection records
    ∃ log, (runRecords m s taskId Store.Collection.store (client.translator m.network m.salt) connection.collection 0
      records).run state = (.ok (delivered.1, delivered.2.1.store, delivered.2.2), { state with log := log }) :=
  ⟨_, rfl⟩

theorem runStored_run (file : s.store.backend = .sqlite) (taskId : String) (records : List Record) (state : State)
    {connection : Store.FileConnection} (opened : (opening m s state.files).answer = .ok connection) :
    let delivered := deliver m s taskId connection records
    ∃ log, (runStored m s taskId records).run state = (.ok (delivered.1, delivered.2.2),
      { state with
        files := closed (opening m s state.files).files connection delivered.2.1.store.database
        log := log }) := by
  obtain ⟨log, answered⟩ := openStore_sqlite (m := m) file state
  rw [opened] at answered
  obtain ⟨log, made⟩ := makeClient_run s { state with files := (opening m s state.files).files, log := log }
  obtain ⟨log, delivered⟩ := deliver_run (m := m) (s := s) connection taskId records
    { state with files := (opening m s state.files).files, log := log }
  rw [runStored, run_bind_ok answered, run_bind_ok made, run_bind_ok delivered]
  refine ⟨log, ?_⟩
  unfold closed
  dsimp only
  cases connection.location <;> rfl

end Stored

def conclude (m : Machine) (ran : Summary × Nat) : Job Unit := do
  let counters := ran.1.counters
  if counters.errors > 0 then
    throw ⟨s!"{counters.errors} of {ran.1.received} record(s) failed, see the log above", []⟩
  let elapsed := m.elapsed ran.2
  note [Log.info s!"Finished in {seconds elapsed}s: {counters.text}"]
  say (ran.1.toJson elapsed).pretty

theorem conclude_run (m : Machine) (summary : Summary) (slept : Nat) (start : State) (log : List Log.Entry) :
    Conclusion m summary slept start ((conclude m (summary, slept)).run { start with log := log }) := by
  rw [conclude]
  dsimp only
  split
  · rename_i some_failed
    exact .failed some_failed log
  · rename_i none_failed
    exact .done none_failed _

section Taken

variable {s : Settings} {o : RunOptions} {state : State} {records : List Record}

/-- A run with valid settings on an input of records is what comes of the records, and an end. -/
theorem runInput_of_takes (takes : Takes m o s state.files records) :
    let taskId := s.taskId.getD m.freshTaskId
    let named := { s with taskId := some taskId }
    ∃ log, (runInput m o.bare s).run state =
      ((if o.dryRun then runDry m named taskId records else runStored m named taskId records) >>=
        conclude m).run { state with log := log } := by
  intro taskId named
  obtain ⟨valid, text, input, parsed⟩ := takes
  unfold runInput
  rw [override_bare, run_bind_ok (requireValid_of_valid valid), ensureTaskId_eq]
  dsimp only
  rw [run_bind_ok (note_run _ _), run_bind_ok ((readInput_run _ _).trans (by rw [RunOptions.bare, input]))]
  refine ⟨state.log ++ [Log.info s!"Task id: {taskId}"] ++ [Log.debug s!"Loaded {records.length} record(s)"], ?_⟩
  -- What follows the records is the same in both cases, but stands in each of them.
  cases dry : o.dryRun
  all_goals
    simp only [parsed, RunOptions.bare, dry, Bool.false_eq_true, if_false, if_true]
    rw [run_bind_ok (x := pure records) rfl, run_bind_ok (note_run _ _)]
    rfl

theorem runInput_dry (takes : Takes m o s state.files records) (dry : o.dryRun = true) :
    let ran := rehearse m s (s.taskId.getD m.freshTaskId) records
    Conclusion m ran.1 ran.2.2 state ((runInput m o.bare s).run state) := by
  intro ran
  obtain ⟨log, run⟩ := runInput_of_takes takes
  rw [run, if_pos dry, run_bind_ok (runDry_run _ _ _ _)]
  exact conclude_run m ran.1 ran.2.2 state _

theorem runInput_unopened (takes : Takes m o s state.files records) (stored : o.dryRun = false) {f : Failure}
    (fails : ∀ log, ∃ state', (openStore m s.store).run { state with log := log } = (.error f, state')) :
    ((runInput m o.bare s).run state).1 = .error f := by
  obtain ⟨log, run⟩ := runInput_of_takes takes
  obtain ⟨_, unopened⟩ := fails log
  rw [run, if_neg (by rw [stored]; decide), runStored]
  rw [run_bind_error (run_bind_error unopened)]

theorem runInput_file (takes : Takes m o s state.files records) (stored : o.dryRun = false)
    (file : s.store.backend = .sqlite) {connection : Store.FileConnection}
    (opened : (opening m s state.files).answer = .ok connection) :
    let ran := deliver m s (s.taskId.getD m.freshTaskId) connection records
    Conclusion m ran.1 ran.2.2
      { state with files := closed (opening m s state.files).files connection ran.2.1.store.database }
      ((runInput m o.bare s).run state) := by
  intro ran
  obtain ⟨log, run⟩ := runInput_of_takes takes
  obtain ⟨log', delivered⟩ := runStored_run (m := m) (s := { s with taskId := some (s.taskId.getD m.freshTaskId) })
    file (s.taskId.getD m.freshTaskId) records { state with log := log } opened
  rw [run, if_neg (by rw [stored]; decide), run_bind_ok delivered]
  exact conclude_run m ran.1 ran.2.2 _ log'

end Taken

theorem memory_marked (taskId : String) : KeptByMarked Store.Memory.store taskId fun rows =>
    ∀ row ∈ rows, row.record.taskId = some taskId where
  find _ _ all := all
  append row rows marked all := by
    change ∀ row' ∈ rows ++ [row], row'.record.taskId = some taskId
    rw [List.forall_mem_append, List.forall_mem_singleton]
    exact ⟨all, marked⟩

/-- The rows of a collection's own table after additions of records with a mark. -/
def Gained (name taskId : String) (rows : Option (List Store.Row)) (c : Store.Collection) : Prop :=
  c.name = name ∧ ∃ added, c.database.rows? name = rows.map (· ++ added) ∧ ∀ row ∈ added, row.taskId = some taskId

theorem collection_marked (name taskId : String) (rows : Option (List Store.Row)) :
    KeptByMarked Store.Collection.store taskId (Gained name taskId rows) where
  find url c gained := by
    change Gained name taskId rows (c.find url).2
    rw [Store.Collection.find, Store.Collection.call]
    split
    · exact gained
    · exact gained
  append row c marked gained := by
    change Gained name taskId rows (c.insert row).2
    rw [Store.Collection.insert, Store.Collection.call]
    split
    · exact gained
    · dsimp only
      split
      · exact gained
      · obtain ⟨rfl, added, held, bear⟩ := gained
        rw [Store.Database.insert]
        cases present : c.database.rows? c.name with
        | none => exact ⟨rfl, added, held, bear⟩
        | some now =>
          obtain ⟨before, rfl, rfl⟩ := Option.map_eq_some_iff.1 (held.symm.trans present)
          refine ⟨rfl, added ++ [.ofStored row], ?_, ?_⟩
          · rw [Store.Database.rows?_mapRows _ present, Option.map_some, List.append_assoc]
          · rw [List.forall_mem_append, List.forall_mem_singleton]
            exact ⟨bear, marked⟩

theorem name_of_openPath {fs : Files} {cwd : List String} {path name : String} {connection : Store.FileConnection}
    (opened : (Store.openPath fs cwd path name).answer = .ok connection) : connection.collection.name = name := by
  obtain ⟨below, _, opened, _⟩ := Store.openPath_eq_ok opened
  unfold Store.openFile at opened
  dsimp only at opened
  split at opened
  · cases opened
  · split at opened
    · cases opened
    · obtain ⟨_, _, rfl⟩ := map_eq_ok.1 opened
      rfl

theorem deliver_marked {s : Settings} {files : Files} {connection : Store.FileConnection}
    (opened : (opening m s files).answer = .ok connection) (taskId : String) (records : List Record) :
    Gained s.store.collection taskId (connection.collection.database.rows? s.store.collection)
      (deliver m s taskId connection records).2.1.store := by
  refine runAll_marked (collection_marked _ taskId _) ⟨name_of_openPath opened, [], ?_, List.forall_mem_nil _⟩ _ records
  simp

theorem rehearse_marked (m : Machine) (s : Settings) (taskId : String) (records : List Record) :
    ∀ row ∈ (rehearse m s taskId records).2.1.store, row.record.taskId = some taskId :=
  runAll_marked (p := rehearsal m s taskId) (memory_marked taskId) (List.forall_mem_nil _) _ records

theorem runsWith (m : Machine) (o : RunOptions) (s : Settings) (start : State) :
    RunsWith m o s (s.taskId.getD m.freshTaskId) start ((runInput m o.bare s).run start) where
  invalid d defect := runInput_invalid (by rwa [override_bare])
  dry records takes dry := ⟨runInput_dry takes dry, rehearse_marked m s _ records⟩
  server records takes stored server := runInput_unopened takes stored fun log => by
    obtain ⟨_, unreachable⟩ := openStore_mongo (m := m) server { start with log := log }
    exact ⟨_, unreachable⟩
  unopened records takes stored file f unopened := runInput_unopened takes stored fun log => by
    obtain ⟨_, answered⟩ := openStore_sqlite (m := m) file { start with log := log }
    rw [unopened] at answered
    exact ⟨_, answered⟩
  file records takes stored file connection opened :=
    ⟨runInput_file takes stored file opened, (deliver_marked opened _ records).2⟩

theorem join_taskId (option environment : Option String) (file : Option (Option String)) :
    ((option.map some).or ((environment.map some).or file)).getD none = (option.or environment).or file.join := by
  cases option <;> cases environment <;> cases file <;> rfl

end Harvest.Command
