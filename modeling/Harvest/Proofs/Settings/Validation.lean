import Harvest.Proofs.Files.Paths
import Harvest.Settings.Derived
import Harvest.Settings.Validation

/-!
Settings that are safe to run with. Main statement: validation lets pass just these, of several defects it reports the
first one, and the file of the database lies in the directory that was set for it.
-/

namespace Harvest.Settings

def IsLetter (c : Char) : Prop := 'a' ≤ c ∧ c ≤ 'z' ∨ 'A' ≤ c ∧ c ≤ 'Z'

def IsDigit (c : Char) : Prop := '0' ≤ c ∧ c ≤ '9'

/-- An ASCII letter or underscore, and nothing but these and ASCII digits after it. -/
def IsPlainName (name : String) : Prop :=
  ∃ first rest, name.toList = first :: rest ∧ (IsLetter first ∨ first = '_') ∧
    ∀ c ∈ rest, IsLetter c ∨ IsDigit c ∨ c = '_'

/-- Whether there is nothing but white space in a text. -/
def IsBlank (text : String) : Prop := ∀ c ∈ text.toList, Text.isBlank c = true

/-- Settings that keep to all conditions. -/
structure Safe (s : Settings) : Prop where
  database : IsPlainName s.store.database
  collection : IsPlainName s.store.collection
  host : s.store.backend = .mongo → ¬IsBlank s.store.host
  port : s.store.backend = .mongo → s.store.port ≠ 0
  targetLanguage : ¬IsBlank s.translation.targetLanguage
  timeout : s.translation.timeoutSecs ≠ 0
  delimiter : s.translation.mode = .packed → s.translation.delimiter ≠ ""
  concurrency : s.pipeline.concurrency ≠ 0

/-- Whether settings have a defect. -/
def Has (s : Settings) : Defect → Prop
  | .databaseName name => name = s.store.database ∧ ¬IsPlainName name
  | .collectionName name => name = s.store.collection ∧ ¬IsPlainName name
  | .blankHost => s.store.backend = .mongo ∧ IsBlank s.store.host
  | .zeroPort => s.store.backend = .mongo ∧ s.store.port = 0
  | .blankTarget => IsBlank s.translation.targetLanguage
  | .zeroTimeout => s.translation.timeoutSecs = 0
  | .emptyDelimiter => s.translation.mode = .packed ∧ s.translation.delimiter = ""
  | .zeroConcurrency => s.pipeline.concurrency = 0

/-- The defects that settings may have, in the order in which they are looked for. -/
def possibleDefects (s : Settings) : List Defect := [
  .databaseName s.store.database, .collectionName s.store.collection, .blankHost, .zeroPort, .blankTarget,
  .zeroTimeout, .emptyDelimiter, .zeroConcurrency]

theorem isAlpha_iff {c : Char} : c.isAlpha = true ↔ IsLetter c := by
  have upper : c.isUpper = true ↔ 'A' ≤ c ∧ c ≤ 'Z' := decide_eq_true_iff
  have lower : c.isLower = true ↔ 'a' ≤ c ∧ c ≤ 'z' :=
    Bool.and_eq_true_iff.trans (and_congr decide_eq_true_iff decide_eq_true_iff)
  exact Bool.or_eq_true_iff.trans ((or_congr upper lower).trans or_comm)

theorem isIdentifier_iff {name : String} : isIdentifier name = true ↔ IsPlainName name := by
  have digit {c : Char} : c.isDigit = true ↔ IsDigit c := by simp [Char.isDigit, IsDigit, Char.le_def]
  unfold isIdentifier
  split
  · rename_i empty
    simp [IsPlainName, empty]
  · rename_i first rest whole
    simp [IsPlainName, whole, isIdentifierStart, isIdentifierPart, Char.isAlphanum, isAlpha_iff, digit, or_assoc]

theorem isBlankText_iff {text : String} : Text.isBlankText text = true ↔ IsBlank text := List.all_eq_true

instance : DecidablePred IsPlainName := fun _ => decidable_of_iff _ isIdentifier_iff

instance : DecidablePred IsBlank := fun _ => decidable_of_iff _ isBlankText_iff

instance (s : Settings) : DecidablePred s.Has
  | .databaseName _ | .collectionName _ | .blankHost | .zeroPort | .emptyDelimiter => instDecidableAnd
  | .blankTarget => inferInstanceAs (Decidable (IsBlank _))
  | .zeroTimeout | .zeroConcurrency => instDecidableEqUInt64 _ _

theorem find?_cons_eq_ite {α : Type} {p : α → Prop} [DecidablePred p] (a : α) (as : List α) :
    (a :: as).find? (fun b => decide (p b)) = if p a then some a else as.find? fun b => decide (p b) := by
  by_cases here : p a <;> simp [here]

theorem defect?_eq (s : Settings) : s.defect? = s.possibleDefects.find? (s.Has ·) := by
  rw [possibleDefects]
  simp only [find?_cons_eq_ite, List.find?_nil]
  simp only [defect?, Has, isIdentifier_iff, isBlankText_iff, String.isEmpty_iff, true_and]
  congr

theorem validate_eq_ok_iff (s : Settings) : s.validate = .ok () ↔ s.defect? = none := by
  unfold validate
  split <;> simp_all

theorem validate_eq_error_iff (s : Settings) (d : Defect) : s.validate = .error d ↔ s.defect? = some d := by
  unfold validate
  split <;> simp_all

theorem safe_iff (s : Settings) : s.Safe ↔ ∀ d ∈ s.possibleDefects, ¬s.Has d := by
  simp only [possibleDefects, List.forall_mem_cons, Has, true_and, not_and, Classical.not_not]
  constructor
  · rintro ⟨database, collection, host, port, target, timeout, delimiter, concurrency⟩
    exact ⟨database, collection, host, port, target, timeout, delimiter, concurrency, List.forall_mem_nil _⟩
  · rintro ⟨database, collection, host, port, target, timeout, delimiter, concurrency, _⟩
    exact ⟨database, collection, host, port, target, timeout, delimiter, concurrency⟩

section Path

open Files Text

variable {dir name : String}

theorem names_append_slash (dir name : String) : names (dir ++ "/" ++ name) = names dir ++ names name := by
  have slash : "/".toList = ['/'] := rfl
  rw [names, names, names, split_slash, split_slash, split_slash, String.toList_append, String.toList_append, slash,
    List.append_assoc, List.singleton_append, List.splitOn_append_cons_self, List.map_append, List.filter_append]

theorem names_of_name (no_slash : '/' ∉ name.toList) (some_name : name ≠ "") : names name = [name] := by
  rw [names, split_of_name no_slash]
  simp [some_name]

/-- A directory as it stands in front of a name in it. -/
def withSlash (dir : String) : String := if dir = "" ∨ dir.endsWith "/" then dir else dir ++ "/"

theorem withSlash_cases (dir : String) : dir = "" ∧ withSlash dir = "" ∨
    dir ≠ "" ∧ ∃ front, (dir = front ++ "/" ∨ dir = front) ∧ withSlash dir = front ++ "/" := by
  unfold withSlash
  by_cases empty : dir = ""
  · exact .inl ⟨empty, by rw [if_pos (.inl empty), empty]⟩
  · refine .inr ⟨empty, ?_⟩
    by_cases slash : dir.endsWith "/" = true
    · rw [if_pos (.inr slash)]
      rw [String.endsWith, String.Slice.endsWith_string_iff, String.copy_toSlice] at slash
      obtain ⟨front, whole⟩ := slash
      have same : dir = String.ofList front ++ "/" := by
        rw [← String.toList_inj, String.toList_append, String.toList_ofList, whole]
      exact ⟨_, .inl same, same⟩
    · rw [if_neg (not_or.2 ⟨empty, slash⟩)]
      exact ⟨dir, .inr rfl, rfl⟩

theorem joinPath_of_name (no_slash : '/' ∉ name.toList) (dir : String) : joinPath dir name = withSlash dir ++ name := by
  have relative : ¬name.startsWith "/" = true := by
    rw [← isAbsolute, isAbsolute_of_name no_slash]
    exact Bool.false_ne_true
  unfold joinPath withSlash
  rw [if_neg relative]
  simp only [String.isEmpty_iff]
  split <;> rfl

theorem names_withSlash (dir name : String) : names (withSlash dir ++ name) = names dir ++ names name := by
  have no_names : names "" = [] := by rw [names, split_of_name (by simp)]; rfl
  rcases withSlash_cases dir with ⟨rfl, same⟩ | ⟨_, front, rfl | rfl, same⟩
  · rw [same, no_names, String.empty_append, List.nil_append]
  · have none_more := names_append_slash front ""
    rw [String.append_empty, no_names, List.append_nil] at none_more
    rw [same, names_append_slash, none_more]
  · rw [same, names_append_slash]

theorem isAbsolute_iff_head? {path : String} : isAbsolute path = true ↔ path.toList.head? = some '/' := by
  have slash : "/".toList = ['/'] := rfl
  rw [isAbsolute, String.startsWith_string_iff, slash]
  cases path.toList <;> simp [eq_comm]

theorem isAbsolute_withSlash (no_slash : '/' ∉ name.toList) (dir : String) :
    isAbsolute (withSlash dir ++ name) = isAbsolute dir := by
  have front_decides {front : String} (some_front : front ≠ "") (rest : String) :
      isAbsolute (front ++ rest) = isAbsolute front := by
    have some_char : front.toList ≠ [] := by simpa using some_front
    rw [Bool.eq_iff_iff, isAbsolute_iff_head?, isAbsolute_iff_head?, String.toList_append,
      List.head?_append_of_ne_nil _ some_char]
  rcases withSlash_cases dir with ⟨rfl, same⟩ | ⟨some_dir, front, rfl | rfl, same⟩
  · rw [same, String.empty_append, isAbsolute_of_name no_slash]
    rfl
  · rw [same, front_decides some_dir]
  · rw [same, String.append_assoc, front_decides some_dir]

theorem endsWith_slash_of_name (no_slash : '/' ∉ name.toList) (some_name : name ≠ "") (front : String) :
    (front ++ name).endsWith "/" = false := by
  have slash : "/".toList = ['/'] := rfl
  have some_char : name.toList ≠ [] := by simpa using some_name
  rw [String.endsWith, String.Slice.endsWith_string_eq_false_iff, String.copy_toSlice, String.toList_append, slash]
  rintro ⟨start, whole⟩
  have last := congrArg List.getLast? whole
  rw [List.getLast?_append_of_ne_nil _ some_char, List.getLast?_concat] at last
  exact no_slash (List.mem_of_getLast? last.symm)

/-- A path joined of a directory and a name leads to that name, in the directory that the other path leads to. -/
theorem locate_joinPath (no_slash : '/' ∉ name.toList) (named : name ≠ "" ∧ name ≠ "." ∧ name ≠ "..") {fs : Files}
    {cwd : List String} {place : Place} (located : fs.locate cwd (joinPath dir name) = .ok place) :
    (names dir).foldlM fs.enter (if isAbsolute dir then [] else cwd) = .ok place.directory ∧
      place.name = some name ∧ place.slash = false := by
  have parts : names (joinPath dir name) = names dir ++ [name] := by
    rw [joinPath_of_name no_slash, names_withSlash, names_of_name no_slash named.1]
  have start : isAbsolute (joinPath dir name) = isAbsolute dir := by
    rw [joinPath_of_name no_slash, isAbsolute_withSlash no_slash]
  have ending : (joinPath dir name).endsWith "/" = false := by
    rw [joinPath_of_name no_slash, endsWith_slash_of_name no_slash named.1]
  unfold locate at located
  simp only [parts, start, ending, List.dropLast_concat, List.getLast?_concat] at located
  split at located
  · cases located
  split at located
  · cases located
  split at located
  · cases located
  obtain ⟨directory, walked, located⟩ := bind_eq_ok.1 located
  rw [if_neg (not_or.2 named.2)] at located
  split at located
  · cases located
  · cases located
    exact ⟨walked, rfl, rfl⟩

end Path

theorem toList_databaseFile (name : String) : (name ++ ".db").toList = name.toList ++ ['.', 'd', 'b'] :=
  String.toList_append

theorem IsPlainName.no_slash {name : String} (plain : IsPlainName name) : '/' ∉ (name ++ ".db").toList := by
  obtain ⟨first, rest, whole, start, each⟩ := plain
  have no_letter : ¬IsLetter '/' ∧ ¬IsDigit '/' := by
    constructor
    · simp [IsLetter, Char.le_def]
    · simp [IsDigit, Char.le_def]
  rw [toList_databaseFile, whole, List.cons_append, List.mem_cons, List.mem_append, not_or, not_or]
  refine ⟨?_, ?_, by decide⟩
  · rintro rfl
    simp [no_letter] at start
  · intro member
    simpa [no_letter] using each '/' member

theorem databaseFile_named (name : String) : name ++ ".db" ≠ "" ∧ name ++ ".db" ≠ "." ∧ name ++ ".db" ≠ ".." := by
  have last : (name ++ ".db").toList.getLast? = some 'b' := by
    rw [toList_databaseFile]
    simp
  refine ⟨?_, ?_, ?_⟩
  all_goals
    intro same
    rw [same] at last
    revert last
    decide

/-- Validation accepts just the settings that keep to all conditions; of the defects of others it reports the one that
is looked for first. The path of the database file of accepted settings is that of the directory that is set, with one
more name, which is that of the database; it is absolute just if that of the directory is, and it leads to this name in
the directory that the other leads to. -/
theorem validate_accepts_safe :
    (∀ s : Settings, s.validate = .ok () ↔ s.Safe) ∧
    (∀ (s : Settings) (d : Defect), s.validate = .error d ↔
      s.Has d ∧ ∃ before after, s.possibleDefects = before ++ d :: after ∧ ∀ d' ∈ before, ¬s.Has d') ∧
    ∀ (s : Settings) (dir userData : String), s.validate = .ok () → s.store.dataDir = some dir →
      let file := s.store.database ++ ".db"
      let path := s.store.databasePath userData
      path = withSlash dir ++ file ∧ Files.names path = Files.names dir ++ [file] ∧
      Files.isAbsolute path = Files.isAbsolute dir ∧
      ∀ (fs : Files) (cwd : List String) (place : Files.Place), fs.locate cwd path = .ok place →
        (Files.names dir).foldlM fs.enter (if Files.isAbsolute dir then [] else cwd) = .ok place.directory ∧
        place.name = some file ∧ place.slash = false := by
  have accepts (s : Settings) : s.validate = .ok () ↔ s.Safe := by
    rw [validate_eq_ok_iff, defect?_eq, List.find?_eq_none, safe_iff]
    simp only [decide_eq_true_eq]
  refine ⟨accepts, ?_, ?_⟩
  · intro s d
    rw [validate_eq_error_iff, defect?_eq, List.find?_eq_some_iff_append]
    simp only [decide_eq_true_eq, Bool.not_eq_true', decide_eq_false_iff_not]
  · intro s dir userData accepted set file path
    have plain := ((accepts s).1 accepted).database.no_slash
    have named := databaseFile_named s.store.database
    have joined : path = joinPath dir file := by
      simp only [path, Store.databasePath, set, Option.getD_some, file]
    have text : path = withSlash dir ++ file := joined.trans (joinPath_of_name plain dir)
    refine ⟨text, ?_, ?_, ?_⟩
    · rw [text, names_withSlash, names_of_name plain named.1]
    · rw [text, isAbsolute_withSlash plain]
    · intro fs cwd place located
      exact locate_joinPath plain named (joined ▸ located)

/-- Nothing is asked of the server where records are kept in a file, and the file lies in its directory. -/
theorem validate_accepts_safe_in_directory :
    let s : Settings :=
      { store := { backend := .sqlite, host := "", port := 0, database := "_a1", dataDir := some "d//" } }
    let fs : Files := ⟨[(["d"], .directory)]⟩
    s.validate = .ok () ∧ s.store.dataDir = some "d//" ∧ s.store.databasePath "" = withSlash "d//" ++ "_a1.db" ∧
      fs.locate [] (s.store.databasePath "") = .ok ⟨["d"], some "_a1.db", false⟩ ∧
      (Files.names "d//").foldlM fs.enter (if Files.isAbsolute "d//" then [] else []) = .ok ["d"] := by
  intro s fs
  have accepted : s.validate = .ok () := by decide +kernel
  obtain ⟨path, _, _, leads⟩ := validate_accepts_safe.2.2 s "d//" "" accepted rfl
  have whole : s.store.databasePath "" = "d//_a1.db" := by decide +kernel
  have located : fs.locate [] (s.store.databasePath "") = .ok ⟨["d"], some "_a1.db", false⟩ := by
    have no_nul : "d//_a1.db".any (· = '\x00') = false := String.contains_prop_eq.trans (by decide +kernel)
    have parts : Files.names "d//_a1.db" = ["d", "_a1.db"] := by decide +kernel
    have start : Files.isAbsolute "d//_a1.db" = false := by decide +kernel
    have ending : "d//_a1.db".endsWith "/" = false := by decide +kernel
    rw [whole, Files.locate, no_nul, parts, start, ending]
    rfl
  exact ⟨accepted, rfl, path, located, (leads fs [] _ located).1⟩

end Harvest.Settings
