import Harvest.Proofs.Command.Jobs
import Harvest.Proofs.Pipeline.Rehearsed
import Harvest.Proofs.Record.Lines
import Harvest.Proofs.Settings.RoundTrip

/-!
Dry runs, from the settings and the text of the input to what is reported. Main statement: when a dry run succeeds, what
its summary then counts, and what it reports when it does not.
-/

namespace Harvest.Command

open Job Pipeline

variable {m : Machine}

/-- The pipeline of a dry run. -/
def rehearsal (m : Machine) (s : Settings) (taskId : String) : Pipeline Store.Memory Nat :=
  ofSettings s taskId Store.Memory.store Translation.Rehearsal.echo.translator m.identity

def rehearsalStart : Shared Store.Memory Nat := { store := [], session := ⟨0, []⟩ }

theorem rehearses (m : Machine) (s : Settings) (taskId : String) (report : Record → Outcome → List Log.Entry) :
    Rehearses { rehearsal m s taskId with report := report } id (fun _ => True) rehearsalStart :=
  ⟨Store.Memory.lawful, Store.Memory.reliable, fun _ _ => rfl, True.intro, rfl, rfl, rfl⟩

/-- What comes of the records of a dry run. -/
def rehearse (m : Machine) (s : Settings) (taskId : String) (records : List Record) :
    Summary × Shared Store.Memory Nat × Nat :=
  (rehearsal m s taskId).runAll s.pipeline.concurrency.toNat rehearsalStart records

theorem runDry_run (s : Settings) (taskId : String) (records : List Record) (state : State) :
    let rehearsed := rehearse m s taskId records
    (runDry m s taskId records).run state = (.ok (rehearsed.1, rehearsed.2.2),
      { state with log := state.log ++ [Log.info "Dry run: records stay in memory, translations are echoed"] ++
        rehearsed.2.1.log }) := rfl

theorem ensureTaskId_pipeline (s : Settings) (fresh : String) : (s.ensureTaskId fresh).1.pipeline = s.pipeline := by
  unfold Settings.ensureTaskId
  split <;> rfl

/-- Each of the records of a dry run that has a URL is kept or, where duplicates are dropped, one with its URL is. -/
theorem rehearse_eq (s : Settings) (taskId : String) (records : List Record) :
    (rehearse m s taskId records).1 = ⟨records.length, rehearsed s.pipeline.dropDuplicates records⟩ ∧
    ∃ notes, (rehearse m s taskId records).2.1.log =
      notes ++ [closingNote (rehearsal m s taskId) (rehearsed s.pipeline.dropDuplicates records)] :=
  (rehearses m s taskId _).runAll_eq s.pipeline.concurrency.toNat records

/-- The log of a run whose settings are valid, before its input is read. -/
def started (m : Machine) (o : RunOptions) (s : Settings) (state : State) : List Log.Entry :=
  state.log ++ [Log.info s!"Task id: {((o.override s).ensureTaskId m.freshTaskId).2}"]

section Run

variable {o : RunOptions} {s : Settings} {state : State} {text : String}

theorem runInput_invalid {d : Settings.Defect} (defect : (o.override s).validate = .error d) :
    (runInput m o s).run state = (.error (d.toFailure.wrap "Configuration validation failed"), state) :=
  run_bind_error (requireValid_of_invalid defect)

section Valid

variable (state : State) (valid : (o.override s).validate = .ok ())
  (input : ((readInput m o.input).run { files := state.files }).1 = .ok text)

include valid input

theorem runInput_bad {f : Failure} (bad : Record.parseLines text = .error f) :
    (runInput m o s).run state = (.error f, { state with log := started m o s state }) := by
  unfold runInput started
  rw [run_bind_ok (requireValid_of_valid valid)]
  generalize (o.override s).ensureTaskId m.freshTaskId = set
  obtain ⟨s', taskId⟩ := set
  dsimp only
  rw [run_bind_ok (note_run _ _), run_bind_ok ((readInput_run _ _).trans (by rw [input]))]
  simp only [bad]
  exact run_bind_error rfl

theorem runInput_rehearsed {records : List Record} (dry : o.dryRun = true)
    (parsed : Record.parseLines text = .ok records) :
    let set := (o.override s).ensureTaskId m.freshTaskId
    let rehearsed := rehearse m set.1 set.2 records
    let counters := rehearsed.1.counters
    let log := started m o s state ++ [Log.debug s!"Loaded {records.length} record(s)"] ++
      [Log.info "Dry run: records stay in memory, translations are echoed"] ++ rehearsed.2.1.log
    let elapsed := m.elapsed rehearsed.2.2
    (runInput m o s).run state = if counters.errors > 0 then
        (.error ⟨s!"{counters.errors} of {rehearsed.1.received} record(s) failed, see the log above", []⟩,
          { state with log := log })
      else (.ok (), { state with
        log := log ++ [Log.info s!"Finished in {seconds elapsed}s: {counters.text}"]
        stdout := state.stdout ++ (rehearsed.1.toJson elapsed).pretty ++ "\n" }) := by
  unfold runInput started
  rw [run_bind_ok (requireValid_of_valid valid)]
  generalize (o.override s).ensureTaskId m.freshTaskId = set
  obtain ⟨s', taskId⟩ := set
  dsimp only
  rw [run_bind_ok (note_run _ _), run_bind_ok ((readInput_run _ _).trans (by rw [input]))]
  simp only [parsed, dry, if_true]
  -- That there are records is a job of its own, which does nothing.
  rw [run_bind_ok (x := pure records) rfl, run_bind_ok (note_run _ _), run_bind_ok (runDry_run _ _ _ _)]
  dsimp only
  split
  · exact run_bind_error rfl
  · rw [run_bind_ok (note_run _ _), say_run]

theorem runInput_parsed {records : List Record} (dry : o.dryRun = true)
    (parsed : Record.parseLines text = .ok records) :
    let counters := rehearsed (o.override s).pipeline.dropDuplicates records
    ∃ (name : String) (notes : List Log.Entry) (slept : Nat),
      let log := notes ++ [Log.info s!"{name} closed: {counters.text}"]
      let elapsed := m.elapsed slept
      (runInput m o s).run state = if counters.errors > 0 then
          (.error ⟨s!"{counters.errors} of {records.length} record(s) failed, see the log above", []⟩,
            { state with log := log })
        else (.ok (), { state with
          log := log ++ [Log.info s!"Finished in {seconds elapsed}s: {counters.text}"]
          stdout := state.stdout ++ ((Summary.mk records.length counters).toJson elapsed).pretty ++ "\n" }) := by
  have run := runInput_rehearsed state valid input dry parsed
  dsimp only at run
  generalize set : (o.override s).ensureTaskId m.freshTaskId = settings at run
  obtain ⟨summary, notes, closed⟩ := rehearse_eq (m := m) settings.1 settings.2 records
  -- A task id that was missing is set before the run, and nothing else of the settings changes.
  have same : settings.1.pipeline = (o.override s).pipeline := set ▸ ensureTaskId_pipeline _ _
  rw [summary, closed, same, ← List.append_assoc] at run
  exact ⟨_, _, _, run⟩

end Valid

end Run

/-- A dry run whose settings load and whose input can be read: `settings` is what the file and the environment say, and
`state` is what is left when they are loaded. -/
structure IsDryRun (m : Machine) (i : Invocation) (o : RunOptions) (settings : Settings) (state : State)
    (text : String) : Prop where
  command : i.command = .run o
  dry : o.dryRun = true
  loaded : (prepare m i).run { files := m.files } = (.ok settings, state)
  input : ((readInput m o.input).run { files := state.files }).1 = .ok text

def earlyLog (i : Invocation) (state : State) : List Log.Entry := shown (i.logLevel.getD .info) state.log

def logBound (i : Invocation) (settings : Settings) : Log.Level := i.logLevel.getD settings.logLevel

section Executed

variable {i : Invocation} {o : RunOptions} {settings : Settings} {state : State} {text : String}

theorem execute_error (dryRun : IsDryRun m i o settings state text) {f : Failure} {state' : State}
    (failed : (runInput m o settings).run { files := state.files } = (.error f, state')) :
    (execute m i).1 = {
      exitCode := 1, stdout := state'.stdout, failure := some f
      log := earlyLog i state ++ shown (logBound i settings) state'.log } := by
  rw [execute, dryRun.loaded]
  simp only [dryRun.command, perform, failed]
  rfl

theorem execute_ok (dryRun : IsDryRun m i o settings state text) {state' : State}
    (done : (runInput m o settings).run { files := state.files } = (.ok (), state')) :
    (execute m i).1 = {
      stdout := state'.stdout, log := earlyLog i state ++ shown (logBound i settings) state'.log } := by
  rw [execute, dryRun.loaded]
  simp only [dryRun.command, perform, done]
  rfl

/-- The lines of an input that are to be records. -/
def recordLines (text : String) : List String := (Text.lines text).filter fun line => !Text.isBlankText line

theorem forall_recordLines {records : List Record} (parsed : Record.parseLines text = .ok records) :
    (∀ line ∈ recordLines text, ∃ r, Record.parse line = .ok r ∧ r.hasBlankUrl = false) ↔
      ∀ r ∈ records, r.hasBlankUrl = false := by
  have related := (Record.ofLines_eq_ok _ 1).1 parsed
  change List.Forall₂ _ (recordLines text) records at related
  generalize recordLines text = lines at related ⊢
  clear parsed
  induction related with
  | nil => simp
  | cons here _ ih =>
    rw [List.forall_mem_cons, List.forall_mem_cons]
    exact and_congr (by simp [here]) ih

theorem length_recordLines {records : List Record} (parsed : Record.parseLines text = .ok records) :
    (recordLines text).length = records.length := ((Record.ofLines_eq_ok _ 1).1 parsed).length_eq

theorem not_all_recordLines {f : Failure} (bad : Record.parseLines text = .error f) :
    ¬∀ line ∈ recordLines text, ∃ r, Record.parse line = .ok r ∧ r.hasBlankUrl = false := by
  intro all
  have passes : ∀ line ∈ Text.lines text, Record.Passes line := by
    intro line member
    by_cases blank : Text.isBlankText line = true
    · exact .inl blank
    · obtain ⟨r, read, _⟩ := all line (List.mem_filter.2 ⟨member, by simpa using blank⟩)
      exact .inr ⟨r, read⟩
  obtain ⟨records, parsed⟩ := (Record.exists_ofLines_eq_ok _ 1).2 passes
  cases bad.symm.trans parsed

section Cases

variable (dryRun : IsDryRun m i o settings state text)

include dryRun

theorem report_of_invalid {d : Settings.Defect} (defect : (o.override settings).validate = .error d) :
    (execute m i).1 = {
      exitCode := 1
      log := earlyLog i state
      failure := some (d.toFailure.wrap "Configuration validation failed") } := by
  rw [execute_error dryRun (runInput_invalid defect)]
  exact congrArg (Report.mk 1 "" · _) (List.append_nil _)

theorem report_of_bad {f : Failure} (valid : (o.override settings).validate = .ok ())
    (bad : Record.parseLines text = .error f) :
    (execute m i).1 = {
      exitCode := 1
      log := earlyLog i state ++ shown (logBound i settings)
        [Log.info s!"Task id: {((o.override settings).ensureTaskId m.freshTaskId).2}"]
      failure := some f } :=
  execute_error dryRun (runInput_bad { files := state.files } valid dryRun.input bad)

theorem report_of_blank {records : List Record} (valid : (o.override settings).validate = .ok ())
    (parsed : Record.parseLines text = .ok records) (blank : ∃ r ∈ records, r.hasBlankUrl = true) :
    let counters := rehearsed (o.override settings).pipeline.dropDuplicates records
    ∃ (name : String) (notes : List Log.Entry), (execute m i).1 = {
      exitCode := 1
      log := earlyLog i state ++ shown (logBound i settings)
        (notes ++ [Log.info s!"{name} closed: {counters.text}"])
      failure := some
        ⟨s!"{records.countP Record.hasBlankUrl} of {records.length} record(s) failed, see the log above", []⟩ } := by
  obtain ⟨name, notes, _, run⟩ := runInput_parsed { files := state.files } valid dryRun.input dryRun.dry parsed
  have some_failed : (rehearsed (o.override settings).pipeline.dropDuplicates records).errors > 0 :=
    List.countP_pos_iff.2 blank
  dsimp only at run
  rw [if_pos some_failed] at run
  exact ⟨name, notes, execute_error dryRun run⟩

theorem report_of_named {records : List Record} (valid : (o.override settings).validate = .ok ())
    (parsed : Record.parseLines text = .ok records) (named : ∀ r ∈ records, r.hasBlankUrl = false) :
    let counters := rehearsed (o.override settings).pipeline.dropDuplicates records
    ∃ (log : List Log.Entry) (slept : Nat), (execute m i).1 = {
      stdout := ((Summary.mk records.length counters).toJson (m.elapsed slept)).pretty ++ "\n"
      log := log } := by
  obtain ⟨_, _, slept, run⟩ := runInput_parsed { files := state.files } valid dryRun.input dryRun.dry parsed
  have none_failed : ¬(rehearsed (o.override settings).pipeline.dropDuplicates records).errors > 0 := by
    rw [Nat.not_lt, Nat.le_zero]
    exact List.countP_eq_zero.2 fun r member => by simp [named r member]
  have empty (written : String) : "" ++ written ++ "\n" = written ++ "\n" := by rw [String.empty_append]
  dsimp only at run
  rw [if_neg none_failed, empty] at run
  exact ⟨_, slept, execute_ok dryRun run⟩

theorem failure_eq_none_iff : (execute m i).1.failure = none ↔ (o.override settings).validate = .ok () ∧
    ∀ line ∈ recordLines text, ∃ r, Record.parse line = .ok r ∧ r.hasBlankUrl = false := by
  cases validity : (o.override settings).validate with
  | error d =>
    rw [report_of_invalid dryRun validity]
    simp
  | ok _ =>
    cases parsed : Record.parseLines text with
    | error f =>
      rw [report_of_bad dryRun validity parsed]
      simpa using not_all_recordLines parsed
    | ok records =>
      rw [forall_recordLines parsed]
      by_cases named : ∀ r ∈ records, r.hasBlankUrl = false
      · obtain ⟨log, slept, report⟩ := report_of_named dryRun validity parsed named
        rw [report]
        simpa using named
      · have blank : ∃ r ∈ records, r.hasBlankUrl = true := by simpa using named
        obtain ⟨name, notes, report⟩ := report_of_blank dryRun validity parsed blank
        rw [report]
        simpa using blank

theorem report_of_success (success : (execute m i).1.failure = none) :
    (execute m i).1.exitCode = 0 ∧ ∃ records slept,
      List.Forall₂ (fun line r => Record.parse line = .ok r) (recordLines text) records ∧
      let n := (recordLines text).length
      let stored := if (o.override settings).pipeline.dropDuplicates then (records.map Record.url).dedup.length else n
      let counters : Counters := { processed := n, stored := stored, duplicatesSkipped := n - stored }
      (execute m i).1.stdout = ((Summary.mk n counters).toJson (m.elapsed slept)).pretty ++ "\n" := by
  obtain ⟨valid, all⟩ := (failure_eq_none_iff dryRun).1 success
  cases parsed : Record.parseLines text with
  | error f => exact absurd all (not_all_recordLines parsed)
  | ok records =>
    have named := (forall_recordLines parsed).1 all
    obtain ⟨log, slept, report⟩ := report_of_named dryRun valid parsed named
    rw [report, rehearsed_of_named named, length_recordLines parsed]
    exact ⟨rfl, records, slept, (Record.ofLines_eq_ok _ 1).1 parsed, rfl⟩

end Cases

end Executed

/-- What becomes of a dry run. It succeeds just if its settings are valid, with the options of the command line, and
each line with something on it is a record with a URL; then the summary counts all of them as processed, and as stored
those that are not dropped. With invalid settings or a bad line nothing is processed, and where only URLs are missing,
the records without one are counted as failed. All this does not depend on the order in which records take their steps:
in every run that ends, with any limit, each record with a URL is stored or dropped as a duplicate, and counted so. -/
theorem dry_run_outcome :
    (∀ (m : Machine) (i : Invocation) (o : RunOptions) (settings : Settings) (state : State) (text : String),
      IsDryRun m i o settings state text →
      let effective := o.override settings
      let report := (execute m i).1
      (report.failure = none ↔ effective.validate = .ok () ∧
        ∀ line ∈ recordLines text, ∃ r, Record.parse line = .ok r ∧ r.hasBlankUrl = false) ∧
      (report.failure = none → report.exitCode = 0 ∧ ∃ records slept,
        List.Forall₂ (fun line r => Record.parse line = .ok r) (recordLines text) records ∧
        let n := (recordLines text).length
        let stored := if effective.pipeline.dropDuplicates then (records.map Record.url).dedup.length else n
        let counters : Counters := { processed := n, stored := stored, duplicatesSkipped := n - stored }
        report.stdout = ((Summary.mk n counters).toJson (m.elapsed slept)).pretty ++ "\n") ∧
      (∀ d, effective.validate = .error d → report = {
        exitCode := 1
        log := earlyLog i state
        failure := some (d.toFailure.wrap "Configuration validation failed") }) ∧
      (effective.validate = .ok () → ∀ f, Record.parseLines text = .error f → report = {
        exitCode := 1
        log := earlyLog i state ++ shown (logBound i settings)
          [Log.info s!"Task id: {(effective.ensureTaskId m.freshTaskId).2}"]
        failure := some f }) ∧
      (effective.validate = .ok () → ∀ records, Record.parseLines text = .ok records →
        (∃ r ∈ records, r.hasBlankUrl = true) →
        let counters := rehearsed effective.pipeline.dropDuplicates records
        ∃ (name : String) (notes : List Log.Entry), report = {
          exitCode := 1
          log := earlyLog i state ++ shown (logBound i settings)
            (notes ++ [Log.info s!"{name} closed: {counters.text}"])
          failure := some
            ⟨s!"{records.countP Record.hasBlankUrl} of {records.length} record(s) failed, see the log above", []⟩ })) ∧
    ∀ (m : Machine) (s : Settings) (taskId : String) (report : Record → Outcome → List Log.Entry)
      (records : List Record),
      let p := { rehearsal m s taskId with report := report }
      let counters := rehearsed s.pipeline.dropDuplicates records
      (∀ moves,
        let w := (World.ofRecords rehearsalStart records).run p moves
        w.isDone = true → w.shared.counters = counters ∧ List.Forall₂ (Ends p) records w.outcomes ∧
        ∀ url, url ∈ Store.urls w.shared.store ↔ ∃ r ∈ records, r.hasBlankUrl = false ∧ r.url = url) ∧
      ∀ concurrency, (p.runAll concurrency rehearsalStart records).1 = ⟨records.length, counters⟩ := by
  refine ⟨?_, ?_⟩
  · intro m i o settings state text dryRun effective report
    exact ⟨failure_eq_none_iff dryRun, report_of_success dryRun, fun _ => report_of_invalid dryRun,
      fun valid _ => report_of_bad dryRun valid, fun valid _ => report_of_blank dryRun valid⟩
  · intro m s taskId report records p counters
    have rehearses : Rehearses p id (fun _ => True) rehearsalStart := rehearses m s taskId report
    refine ⟨?_, fun concurrency => (rehearses.runAll_eq concurrency records).1⟩
    intro moves w done
    exact ⟨rehearses.counters_eq done, rehearses.forall₂_ends done, rehearses.mem_urls done⟩

/-- Two records with one URL are rehearsed over the usual settings, without duplicates. With a blank URL in place of the
second one, it fails alone. -/
theorem dry_run_outcome_with_duplicate :
    let r : Record := ⟨"a", "b", "u", none, none, none, []⟩
    let blank : Record := ⟨"c", "", " ", none, none, none, []⟩
    let o : RunOptions := { input := "-", dropDuplicates := true, dryRun := true }
    let i : Invocation := ⟨"c", none, .run o⟩
    let m : Machine := {
      files := ⟨[(["c"], .plain ({} : Settings).write.toUTF8)]⟩
      cwd := []
      environment := fun _ => none
      userData := ""
      stdin := .ok (String.ofList (r.toJson.write ++ ['\n'] ++ r.toJson.write))
      network := fun _ _ => .unreachable ""
      outage := fun _ => ⟨"", []⟩
      freshTaskId := "run"
      identity := fun n => ⟨toString n, ""⟩
      salt := id
      randomFingerprint := ""
      elapsed := id }
    let w := (World.ofRecords rehearsalStart [r, blank]).run (rehearsal m {} "run") [0, 1, 0, 0]
    let counters : Counters := { processed := 2, stored := 1, duplicatesSkipped := 1 }
    (execute m i).1.failure = none ∧
      (∃ slept, (execute m i).1.stdout = ((Summary.mk 2 counters).toJson slept).pretty ++ "\n") ∧
      w.isDone = true ∧ w.shared.counters = { processed := 2, stored := 1, errors := 1 } := by
  intro r blank o i m w counters
  have located : m.files.locate [] "c" = .ok ⟨[], some "c", false⟩ :=
    Files.locate_of_name (by decide) (by decide) (by decide) (by decide) m.files []
  have entry : m.files.entry? [] "c" = .ok (.plain ({} : Settings).write.toUTF8) :=
    Files.entry?_of_plain located rfl rfl
  have present : m.files.pathExists [] "c" = true := by
    rw [Files.pathExists, entry]
    rfl
  have loads : Settings.load m.files [] "c" = .ok {} :=
    Settings.load_eq_ok (Files.readText_of_entry? entry) (Settings.parse_write {})
  have loaded : (prepare m i).run { files := m.files } = (.ok {}, { files := m.files }) :=
    prepare_of_file present loads
  have listing : Record.Listing [r, r] (r.toJson.write ++ ['\n'] ++ r.toJson.write) :=
    .record r (by decide) (.recordLast r)
  have kept : Record.parse r.toJson.compact = .ok r :=
    Record.parse_compact (by simp [r, Record.numbers, Json.memberNumbers]) (by decide) (by decide) (by decide)
  have parsed : Record.parseLines (String.ofList (r.toJson.write ++ ['\n'] ++ r.toJson.write)) = .ok [r, r] := by
    rw [Record.parseLines, Text.lines, String.toList_ofList]
    exact Record.ofLines_listing listing (by simp [kept]) 1
  have dryRun : IsDryRun m i o {} { files := m.files } _ := ⟨rfl, rfl, loaded, rfl⟩
  obtain ⟨single, all⟩ := dry_run_outcome
  obtain ⟨success, summary, _⟩ := single m i o _ _ _ dryRun
  have succeeds := success.2 ⟨by decide, (forall_recordLines parsed).2 (by decide)⟩
  obtain ⟨_, records, slept, related, stdout⟩ := summary succeeds
  have same : records = [r, r] := by
    have read := (Record.ofLines_eq_ok _ 1).2 related
    exact Except.ok.inj (read.symm.trans parsed)
  rw [length_recordLines parsed, same] at stdout
  have done : w.isDone = true := by decide +kernel
  refine ⟨succeeds, ⟨_, stdout⟩, done, ?_⟩
  exact ((all m {} "run" (fun _ _ => []) [r, blank]).1 [0, 1, 0, 0] done).1.trans (by decide)

end Harvest.Command
