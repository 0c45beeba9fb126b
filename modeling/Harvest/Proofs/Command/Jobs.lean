import Harvest.Command.Execute

/-!
Running jobs. What the parts of a command do to its state, and what follows a part that is done or that fails.
-/

namespace Harvest.Command

open Job

namespace Job

variable {α β : Type} {x : Job α} {f : α → Job β} {s s' : State}

theorem run_bind_ok {a : α} (first : x.run s = (.ok a, s')) : (x >>= f).run s = (f a).run s' := by
  change (match x.run s with | (r, t) => (ExceptT.bindCont f r) t) = _
  rw [first]
  rfl

theorem run_bind_error {e : Failure} (first : x.run s = (.error e, s')) : (x >>= f).run s = (.error e, s') := by
  change (match x.run s with | (r, t) => (ExceptT.bindCont f r) t) = _
  rw [first]
  rfl

end Job

variable {m : Machine}

theorem get_run (s : State) : (get : Job State).run s = (.ok s, s) := rfl

theorem note_run (entries : List Log.Entry) (s : State) :
    (note entries).run s = (.ok (), { s with log := s.log ++ entries }) := rfl

theorem say_run (line : String) (s : State) :
    (say line).run s = (.ok (), { s with stdout := s.stdout ++ line ++ "\n" }) := rfl

theorem requireValid_of_valid {s : Settings} {state : State} (valid : s.validate = .ok ()) :
    (requireValid s).run state = (.ok (), state) := by
  rw [requireValid, valid]
  rfl

theorem requireValid_of_invalid {s : Settings} {state : State} {d : Settings.Defect} (defect : s.validate = .error d) :
    (requireValid s).run state = (.error (d.toFailure.wrap "Configuration validation failed"), state) := by
  rw [requireValid, defect]
  rfl

theorem readInput_run (input : String) (s : State) :
    (readInput m input).run s = (((readInput m input).run { files := s.files }).1, s) := by
  unfold readInput
  split
  · split <;> rfl
  · rw [run_bind_ok (get_run s), run_bind_ok (get_run { files := s.files })]
    cases s.files.readText m.cwd input <;> rfl

theorem prepare_of_file {i : Invocation} {s : Settings} (present : m.files.pathExists m.cwd i.configPath = true)
    (loads : Settings.load m.files m.cwd i.configPath = .ok s) : (prepare m i).run { files := m.files } =
      (.ok (s.applyEnvironment m.environment),
        { files := m.files, log := Settings.environmentNotes m.environment }) := by
  have loaded : (loadSettings m i.configPath).run { files := m.files } = (.ok s, { files := m.files }) := by
    rw [loadSettings, run_bind_ok (get_run _)]
    dsimp only
    rw [if_pos present, loads]
    rfl
  rw [prepare, run_bind_ok loaded, run_bind_ok (note_run _ _)]
  rfl

end Harvest.Command
