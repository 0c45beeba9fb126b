import Harvest.Proofs.Files.Directories
import Harvest.Proofs.Files.Paths
import Harvest.Store.Opening

/-!
Where the file of a path is. A path leads to the same file as long as directories stay directories: only its last name
is not that of a directory. An address leads to the same file as long as it is the same places that hold files.
-/

namespace Harvest

namespace Files

variable {fs fs' : Files} {at_ q cwd names : List String} {name path : String}

/-- Whether a place and all places above it are directories. -/
def Rooted (fs : Files) (at_ : List String) : Prop := ∀ n, fs.get? (at_.take n) = some .directory

theorem rooted_nil (fs : Files) : Rooted fs [] := by
  intro n
  rw [List.take_nil]
  rfl

theorem Rooted.directory (rooted : Rooted fs at_) : fs.get? at_ = some .directory := by
  have whole := rooted at_.length
  rwa [List.take_length] at whole

theorem Rooted.enter (rooted : Rooted fs at_) (entered : fs.enter at_ name = .ok q) : Rooted fs q := by
  rcases enter_eq_ok.1 entered with ⟨_, rfl⟩ | ⟨_, rfl⟩ | ⟨_, _, _, directory, rfl⟩
  · exact rooted
  · intro n
    rw [List.dropLast_eq_take, List.take_take]
    exact rooted _
  · intro n
    rcases Nat.lt_or_ge at_.length n with beyond | within
    · rwa [List.take_of_length_le (by rw [List.length_append]; exact beyond)]
    · rw [List.take_append_of_le_length within]
      exact rooted n

/-- Where the walk along a path begins. -/
def startOf (cwd : List String) (path : String) : List String := if isAbsolute path then [] else cwd

theorem walk_of_isDirectory (directory : fs.isDirectory cwd path = true) :
    ∃ d, (Files.names path).foldlM fs.enter (startOf cwd path) = .ok d := by
  obtain ⟨place, located, here⟩ := isDirectory_iff.1 directory
  unfold locate at located
  split at located
  · cases located
  · split at located
    · cases located
    · split at located
      · cases located
      · obtain ⟨d, walked, located⟩ := bind_eq_ok.1 located
        split at located
        · rename_i no_name
          rw [List.getLast?_eq_none_iff] at no_name
          rw [no_name]
          exact ⟨_, rfl⟩
        · rename_i last named
          obtain ⟨first, whole⟩ := List.getLast?_eq_some_iff.1 named
          rw [whole, List.dropLast_concat] at walked
          rw [whole, List.foldlM_append]
          split at located
          · obtain ⟨q, entered, _⟩ := bind_eq_ok.1 located
            exact ⟨q, bind_eq_ok.2 ⟨d, walked, bind_eq_ok.2 ⟨q, entered, rfl⟩⟩⟩
          · rename_i no_dots
            rw [not_or] at no_dots
            split at located
            · cases located
            · rename_i short
              cases located
              have entered : fs.enter d last = .ok (d ++ [last]) :=
                enter_eq_ok.2 (.inr (.inr ⟨no_dots.1, no_dots.2, Nat.le_of_not_gt short, here, rfl⟩))
              exact ⟨_, bind_eq_ok.2 ⟨d, walked, bind_eq_ok.2 ⟨_, entered, rfl⟩⟩⟩

end Files

def FileEntry.isDirectory : FileEntry → Bool
  | directory => true
  | _ => false

namespace Store

open Files

variable {fs fs' : Files} {at_ p q d start cwd names : List String} {name path : String}

theorem follow?_congr (alike : (fs.get? at_).map FileEntry.isDirectory = (fs'.get? at_).map FileEntry.isDirectory) :
    follow? fs at_ name = follow? fs' at_ name := by
  unfold follow?
  cases here : fs.get? at_ with
  | none =>
    cases there : fs'.get? at_ with
    | none => rfl
    | some e' => simp [here, there] at alike
  | some e =>
    cases there : fs'.get? at_ with
    | none => simp [here, there] at alike
    | some e' =>
      rw [here, there] at alike
      cases e <;> cases e' <;> first | rfl | cases alike

theorem follow?_eq_of_enter (directory : fs.get? at_ = some .directory) (entered : fs.enter at_ name = .ok q)
    (followed : follow? fs at_ name = some p) : p = q := by
  unfold follow? at followed
  rw [directory] at followed
  rcases enter_eq_ok.1 entered with ⟨rfl, rfl⟩ | ⟨rfl, rfl⟩ | ⟨here, up, short, _, rfl⟩
  · exact (Option.some.inj followed).symm
  · exact (Option.some.inj followed).symm
  · rw [if_neg here, if_neg up] at followed
    split at followed
    · cases followed
    · dsimp only at followed
      rw [if_neg (Nat.not_lt.2 short)] at followed
      exact (Option.some.inj followed).symm

theorem foldlM_follow?_dots (dots : ∀ n ∈ names, n = ".") : names.foldlM (follow? fs) at_ = some at_ := by
  induction names with
  | nil => rfl
  | cons n names ih =>
    rw [List.forall_mem_cons] at dots
    rw [List.foldlM_cons, follow?, if_pos dots.1]
    exact ih dots.2

theorem foldlM_follow?_of_enter (kept : Keeps fs fs') (rooted : Rooted fs start)
    (entered : names.foldlM fs.enter start = .ok d) (followed : names.foldlM (follow? fs) start = some p) :
    p = d ∧ Rooted fs d ∧ names.foldlM (follow? fs') start = some d := by
  induction names generalizing start with
  | nil =>
    cases entered
    cases followed
    exact ⟨rfl, rooted, rfl⟩
  | cons name names ih =>
    rw [List.foldlM_cons] at entered followed ⊢
    obtain ⟨q, here, entered⟩ := bind_eq_ok.1 entered
    obtain ⟨q', step, followed⟩ := Option.bind_eq_some_iff.1 followed
    have directory := rooted.directory
    obtain rfl := follow?_eq_of_enter directory here step
    have same : follow? fs' start name = follow? fs start name :=
      follow?_congr (by rw [directory, kept _ directory])
    rw [same, step]
    exact ih (rooted.enter here) entered followed

theorem foldlM_follow?_last {idle trailing : List String} {last : String} (here : fs.get? d = some .directory)
    (there : fs'.get? d = some .directory) (each : ∀ p ∈ idle ++ trailing, p = "" ∨ p = ".") :
    ((idle ++ last :: trailing).filter (· ≠ "")).foldlM (follow? fs) d =
      ((idle ++ last :: trailing).filter (· ≠ "")).foldlM (follow? fs') d := by
  have dots : ∀ n ∈ (idle ++ trailing).filter (· ≠ ""), n = "." := by
    intro n member
    obtain ⟨inside, some_name⟩ := List.mem_filter.1 member
    exact (each n inside).resolve_left (of_decide_eq_true some_name)
  rw [List.filter_append, List.forall_mem_append] at dots
  have step : follow? fs d last = follow? fs' d last := follow?_congr (by rw [here, there])
  have before (files : Files) : (idle.filter (· ≠ "")).foldlM (follow? files) d = some d :=
    foldlM_follow?_dots dots.1
  have after (files : Files) (q : List String) : (trailing.filter (· ≠ "")).foldlM (follow? files) q = some q :=
    foldlM_follow?_dots dots.2
  rw [List.filter_append, List.foldlM_append, List.foldlM_append, before, before, List.filter_cons]
  dsimp only [Option.bind_eq_bind, Option.bind_some]
  split
  · simp only [List.foldlM_cons, step, after]
  · rw [after, after]

/-- Files of which the same places hold directories, and the same places something else. -/
def Alike (fs fs' : Files) : Prop :=
  ∀ at_, (fs.get? at_).map FileEntry.isDirectory = (fs'.get? at_).map FileEntry.isDirectory

theorem alike_set {db db' : Database} (here : fs.get? at_ = some (.database db)) :
    Alike (fs.set at_ (.database db')) fs := by
  have below : at_ ≠ [] := by
    rintro rfl
    cases here
  intro p
  rw [get?_set below]
  split
  · rename_i same
    rw [same, here]
    rfl
  · rfl

/-- Where the engine begins. -/
def start? (fs : Files) (cwd : List String) (path : String) : Option (List String) :=
  if isAbsolute path then some [] else cwd.foldlM (follow? fs) []

/-- A place that a file can be at. -/
def ending? (fs : Files) (at_ : List String) : Option (List String) :=
  match at_, fs.get? at_.dropLast with
  | _ :: _, some .directory => if maxPath < pathLength at_ + 8 then none else some at_
  | _, _ => none

theorem locate?_eq (fs : Files) (cwd : List String) (path : String) : locate? fs cwd path =
    (start? fs cwd path).bind fun start => ((Files.names path).foldlM (follow? fs) start).bind (ending? fs) := by
  unfold locate? start?
  cases isAbsolute path <;> rfl

theorem get?_eq_directory : fs.get? at_ = some .directory ↔ (fs.get? at_).map FileEntry.isDirectory = some true := by
  cases fs.get? at_ with
  | none => simp
  | some e => cases e <;> simp [FileEntry.isDirectory]

theorem Alike.directory_iff (alike : Alike fs fs') (at_ : List String) :
    fs.get? at_ = some .directory ↔ fs'.get? at_ = some .directory := by
  rw [get?_eq_directory, get?_eq_directory, alike at_]

theorem ending?_congr (alike : Alike fs fs') (at_ : List String) : ending? fs at_ = ending? fs' at_ := by
  have same := alike.directory_iff at_.dropLast
  by_cases inside : fs.get? at_.dropLast = some .directory
  · unfold ending?
    rw [inside, same.1 inside]
  · have outside : fs'.get? at_.dropLast ≠ some .directory := fun there => inside (same.2 there)
    have nowhere {files : Files} (no_directory : files.get? at_.dropLast ≠ some .directory) :
        ending? files at_ = none := by
      unfold ending?
      split
      · rename_i found
        exact absurd found no_directory
      · rfl
    rw [nowhere inside, nowhere outside]

theorem ending?_of_keeps (kept : Keeps fs fs') (ended : ending? fs at_ = some q) : ending? fs' at_ = some q := by
  unfold ending? at ended ⊢
  split at ended
  · rename_i inside
    rw [kept _ inside]
    exact ended
  · cases ended

theorem locate?_congr (alike : Alike fs fs') (cwd : List String) (path : String) :
    locate? fs cwd path = locate? fs' cwd path := by
  have same : follow? fs = follow? fs' := funext fun at_ => funext fun _ => follow?_congr (alike at_)
  have ends : ending? fs = ending? fs' := funext (ending?_congr alike)
  rw [locate?_eq, locate?_eq, start?, start?, same, ends]

theorem start?_of_keeps (kept : Keeps fs fs') (home : cwd.foldlM fs.enter [] = .ok cwd)
    (begun : start? fs cwd path = some start) :
    start = startOf cwd path ∧ Rooted fs start ∧ start? fs' cwd path = some start := by
  unfold start? at *
  unfold startOf
  split at begun
  · rename_i absolute
    cases begun
    rw [if_pos absolute, if_pos absolute]
    exact ⟨rfl, rooted_nil fs, rfl⟩
  · rename_i relative
    obtain ⟨rfl, rooted, again⟩ := foldlM_follow?_of_enter kept (rooted_nil fs) home begun
    rw [if_neg relative, if_neg relative]
    exact ⟨rfl, rooted, again⟩

/-- A path still leads to where it led when the directory above it was there. -/
theorem locate?_of_keeps (kept : Keeps fs fs') (home : cwd.foldlM fs.enter [] = .ok cwd)
    (directory : above path = "" ∨ fs.isDirectory cwd (above path) = true)
    (located : locate? fs cwd path = some at_) : locate? fs' cwd path = some at_ := by
  rw [locate?_eq] at located ⊢
  obtain ⟨start, begun, located⟩ := Option.bind_eq_some_iff.1 located
  obtain ⟨q, walked, ended⟩ := Option.bind_eq_some_iff.1 located
  obtain ⟨rfl, rooted, again⟩ := start?_of_keeps kept home begun
  obtain ⟨parts, idle, last, trailing, whole, each, names_above, absolute⟩ := exists_split_above path
  have names_path : Files.names path = Files.names (above path) ++ (idle ++ last :: trailing).filter (· ≠ "") := by
    rw [names_above, Files.names, whole, List.append_assoc, List.filter_append]
  have entered : ∃ d, (Files.names (above path)).foldlM fs.enter (startOf cwd path) = .ok d := by
    by_cases no_path : above path = ""
    · have none_above : Files.names (above path) = [] := by simp [no_path, Files.names, Text.split_slash]
      rw [none_above]
      exact ⟨_, rfl⟩
    · have walk := walk_of_isDirectory (directory.resolve_left no_path)
      rwa [startOf, absolute no_path] at walk
  obtain ⟨d, entered⟩ := entered
  rw [names_path, List.foldlM_append] at walked
  obtain ⟨p, first, later⟩ := Option.bind_eq_some_iff.1 walked
  obtain ⟨rfl, rooted_above, first_again⟩ := foldlM_follow?_of_enter kept rooted entered first
  have here := rooted_above.directory
  have later_again := (foldlM_follow?_last here (kept _ here) each).symm.trans later
  refine Option.bind_eq_some_iff.2 ⟨_, again, Option.bind_eq_some_iff.2 ⟨q, ?_, ending?_of_keeps kept ended⟩⟩
  rw [names_path, List.foldlM_append]
  exact Option.bind_eq_some_iff.2 ⟨p, first_again, later_again⟩

end Store

end Harvest
