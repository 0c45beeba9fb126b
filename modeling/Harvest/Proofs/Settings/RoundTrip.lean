import Harvest.Proofs.Files.Directories
import Harvest.Proofs.Files.Paths
import Harvest.Proofs.Json.Members
import Harvest.Proofs.Json.Written
import Harvest.Settings.File

/-!
Settings as JSON text and back. Main statement: settings that were saved are loaded again, and of a text in which some
of their members were left out, moved or joined by unknown ones, those that are left are loaded, with the defaults of
the others.
-/

namespace Harvest.Settings

open Json Member

/-- What is left of a setting: its value if it is named, and else its default. -/
def left {α : Type} (present : List String) (name : String) (value default : α) : α :=
  if name ∈ present then value else default

@[simp] theorem left_nil {α : Type} (name : String) (value default : α) : left [] name value default = default := rfl

@[simp] theorem left_cons {α : Type} (present : List String) (name other : String) (value default : α) :
    left (other :: present) name value default =
      if name = other then value else left present name value default := by
  by_cases same : name = other <;> simp [left, same]

def Store.kept (s : Store) (present : List String) : Store where
  backend := left present "backend" s.backend unset.backend
  host := left present "host" s.host unset.host
  port := left present "port" s.port unset.port
  username := left present "username" s.username unset.username
  password := left present "password" s.password unset.password
  authSource := left present "auth_source" s.authSource unset.authSource
  database := left present "database" s.database unset.database
  collection := left present "collection" s.collection unset.collection
  dataDir := left present "data_dir" s.dataDir unset.dataDir

def Translating.kept (s : Translating) (present : List String) : Translating where
  endpoint := left present "endpoint" s.endpoint unset.endpoint
  appId := left present "app_id" s.appId unset.appId
  secret := left present "secret" s.secret unset.secret
  targetLanguage := left present "target_language" s.targetLanguage unset.targetLanguage
  timeoutSecs := left present "timeout_secs" s.timeoutSecs unset.timeoutSecs
  delayMs := left present "delay_ms" s.delayMs unset.delayMs
  mode := left present "mode" s.mode unset.mode
  delimiter := left present "delimiter" s.delimiter unset.delimiter

def Processing.kept (s : Processing) (present : List String) : Processing where
  variant := left present "variant" s.variant unset.variant
  dropDuplicates := left present "drop_duplicates" s.dropDuplicates unset.dropDuplicates
  concurrency := left present "concurrency" s.concurrency unset.concurrency

def kept (s : Settings) (present store translation pipeline : List String) : Settings where
  taskId := left present "task_id" s.taskId unset.taskId
  store := left present "store" (s.store.kept store) unset.store
  translation := left present "translation" (s.translation.kept translation) unset.translation
  pipeline := left present "pipeline" (s.pipeline.kept pipeline) unset.pipeline
  logLevel := left present "log_level" s.logLevel unset.logLevel

section Fields

variable {σ : Type} {room : Nat}

theorem read_textField (name : String) (set : String → σ → σ) (v : String) (s : σ) :
    (textField name set).read room (toDoc (.string v)) s = .ok (set v s) := rfl

theorem read_numberField {bits n : Nat} (fits : n < Nat.pow 2 bits) (name expected : String) (set : Nat → σ → σ)
    (s : σ) : (numberField name expected bits set).read room (toDoc (.nat n)) s = .ok (set n s) := by
  have within : (0 : Int) ≤ n ∧ (n : Int) ≤ (Nat.pow 2 bits - 1 : Nat) :=
    ⟨Int.natCast_nonneg n, Int.ofNat_le.2 (Nat.le_sub_one_of_lt fits)⟩
  have taken : (toDoc (.nat n)).natural (Nat.pow 2 bits - 1) expected = .ok n := if_pos within
  exact map_eq_ok.2 ⟨n, taken, rfl⟩

theorem read_choiceField {α : Type} {choices : List (String × α)} {v : String} {a : α}
    (chosen : choices.lookup v = some a) (name : String) (set : α → σ → σ) (s : σ) :
    (choiceField name choices set).read room (toDoc (.string v)) s = .ok (set a s) := by
  have taken : (toDoc (.string v)).choice choices room = .ok a := by
    change Doc.named choices v = _
    rw [Doc.named, chosen]
  exact map_eq_ok.2 ⟨a, taken, rfl⟩

theorem lookup_backend (b : Backend) : Backend.all.lookup b.name = some b := by
  cases b <;> rfl

theorem lookup_mode (m : Mode) : Mode.all.lookup m.name = some m := by
  cases m <;> rfl

theorem lookup_variant (v : Variant) : Variant.all.lookup v.name = some v := by
  cases v <;> rfl

theorem lookup_logLevel (l : Log.Level) : logLevels.lookup l.name = some l := by
  cases l <;> rfl

theorem optional_optionalText (expected : String) (text : Option String) :
    (toDoc (optionalText text)).optional (Doc.text expected) = .ok text := by
  cases text <;> rfl

end Fields

theorem Store.restores (s : Store) (room : Nat) : Restores Store.fields room (namedDocs s.toJson) s.kept where
  reads := by
    simp only [toJson, namedDocs, List.map_cons, List.map_nil, List.forall_mem_cons]
    refine ⟨⟨_, rfl, fun seen => ?_⟩, ⟨_, rfl, fun seen => ?_⟩, ⟨_, rfl, fun seen => ?_⟩, ⟨_, rfl, fun seen => ?_⟩,
      ⟨_, rfl, fun seen => ?_⟩, ⟨_, rfl, fun seen => ?_⟩, ⟨_, rfl, fun seen => ?_⟩, ⟨_, rfl, fun seen => ?_⟩,
      ⟨_, rfl, fun seen => ?_⟩, by simp⟩
    · simp [read_choiceField (lookup_backend s.backend), kept]
    · simp [read_textField, kept]
    · simp [read_numberField s.port.toNat_lt, kept]
    · simp [read_textField, kept]
    · simp [read_textField, kept]
    · simp [read_textField, kept]
    · simp [read_textField, kept]
    · simp [read_textField, kept]
    · simp [optional_optionalText, Except.map, kept]
  depends := by
    intro seen seen' same
    simp only [Store.fields, names, List.map_cons, List.map_nil, List.forall_mem_cons, textField, numberField,
      choiceField] at same
    simp only [kept, left, same]
  distinct := by
    simp only [toJson, namedDocs, List.map_cons, List.map_nil]
    decide

theorem Translating.restores (s : Translating) (room : Nat) :
    Restores Translating.fields room (namedDocs s.toJson) s.kept where
  reads := by
    simp only [toJson, namedDocs, List.map_cons, List.map_nil, List.forall_mem_cons]
    refine ⟨⟨_, rfl, fun seen => ?_⟩, ⟨_, rfl, fun seen => ?_⟩, ⟨_, rfl, fun seen => ?_⟩, ⟨_, rfl, fun seen => ?_⟩,
      ⟨_, rfl, fun seen => ?_⟩, ⟨_, rfl, fun seen => ?_⟩, ⟨_, rfl, fun seen => ?_⟩, ⟨_, rfl, fun seen => ?_⟩, by simp⟩
    · simp [read_textField, kept]
    · simp [read_textField, kept]
    · simp [read_textField, kept]
    · simp [read_textField, kept]
    · simp [read_numberField s.timeoutSecs.toNat_lt, kept]
    · simp [read_numberField s.delayMs.toNat_lt, kept]
    · simp [read_choiceField (lookup_mode s.mode), kept]
    · simp [read_textField, kept]
  depends := by
    intro seen seen' same
    simp only [Translating.fields, names, List.map_cons, List.map_nil, List.forall_mem_cons, textField, numberField,
      choiceField] at same
    simp only [kept, left, same]
  distinct := by
    simp only [toJson, namedDocs, List.map_cons, List.map_nil]
    decide

theorem Processing.restores (s : Processing) (room : Nat) :
    Restores Processing.fields room (namedDocs s.toJson) s.kept where
  reads := by
    simp only [toJson, namedDocs, List.map_cons, List.map_nil, List.forall_mem_cons]
    refine ⟨⟨_, rfl, fun seen => ?_⟩, ⟨_, rfl, fun seen => ?_⟩, ⟨_, rfl, fun seen => ?_⟩, by simp⟩
    · simp [read_choiceField (lookup_variant s.variant), kept]
    · simp [toDoc, Doc.truth, Except.map, kept]
    · simp [read_numberField s.concurrency.toNat_lt, kept]
  depends := by
    intro seen seen' same
    simp only [Processing.fields, names, List.map_cons, List.map_nil, List.forall_mem_cons, numberField,
      choiceField] at same
    simp only [kept, left, same]
  distinct := by
    simp only [toJson, namedDocs, List.map_cons, List.map_nil]
    decide

/-- The members of an object of settings whose sections have these members. -/
def membersWith (s : Settings) (store translation pipeline : List (String × Doc)) : List (String × Doc) := [
  ("task_id", toDoc (optionalText s.taskId)), ("store", .ofMembers store), ("translation", .ofMembers translation),
  ("pipeline", .ofMembers pipeline), ("log_level", toDoc (.string s.logLevel.name))]

/-- Whether an object comes from the one that settings are written as: some members of it and of its sections may be
left out, others that are not known put in, and all come in any order. -/
structure IsEdited (s : Settings) (store translation pipeline members : List (String × Doc)) : Prop where
  in_store : IsEdit (names Store.fields) (namedDocs s.store.toJson) store
  in_translation : IsEdit (names Translating.fields) (namedDocs s.translation.toJson) translation
  in_pipeline : IsEdit (names Processing.fields) (namedDocs s.pipeline.toJson) pipeline
  around : IsEdit (names fields) (s.membersWith store translation pipeline) members

section Edited

variable {s : Settings} {store translation pipeline members : List (String × Doc)}

theorem restores (edited : IsEdited s store translation pipeline members) (room : Nat) :
    Restores fields (room + 1) (s.membersWith store translation pipeline) fun present =>
      s.kept present (store.map Prod.fst) (translation.map Prod.fst) (pipeline.map Prod.fst) where
  reads := by
    have read_store := readStruct_of_isEdit (s.store.restores room) edited.in_store "struct StoreConfig"
    have read_translation :=
      readStruct_of_isEdit (s.translation.restores room) edited.in_translation "struct TranslationConfig"
    have read_pipeline := readStruct_of_isEdit (s.pipeline.restores room) edited.in_pipeline "struct PipelineConfig"
    simp only [membersWith, List.forall_mem_cons]
    refine ⟨⟨_, rfl, fun seen => ?_⟩, ⟨_, rfl, fun seen => ?_⟩, ⟨_, rfl, fun seen => ?_⟩, ⟨_, rfl, fun seen => ?_⟩,
      ⟨_, rfl, fun seen => ?_⟩, by simp⟩
    · simp [optional_optionalText, Except.map, kept]
    · refine map_eq_ok.2 ⟨_, read_store, ?_⟩
      simp [kept]
    · refine map_eq_ok.2 ⟨_, read_translation, ?_⟩
      simp [kept]
    · refine map_eq_ok.2 ⟨_, read_pipeline, ?_⟩
      simp [kept]
    · simp [read_choiceField (lookup_logLevel s.logLevel), kept]
  depends := by
    intro seen seen' same
    simp only [fields, names, List.map_cons, List.map_nil, List.forall_mem_cons, choiceField] at same
    simp only [kept, left, same]
  distinct := by
    simp only [membersWith, List.map_cons, List.map_nil]
    decide

theorem parse_of_edited (edited : IsEdited s store translation pipeline members) {text : String}
    (document : Document.ofText text = ⟨.ofMembers members, false⟩) :
    parse text = .ok (s.kept (members.map Prod.fst) (store.map Prod.fst) (translation.map Prod.fst)
      (pipeline.map Prod.fst)) := by
  have read := readStruct_of_isEdit (restores edited (maxRoom - 2)) edited.around "struct Config"
  rw [parse, decode_of_document document]
  exact read

end Edited

theorem ofMembers_membersWith (s : Settings) : Doc.ofMembers (s.membersWith (namedDocs s.store.toJson)
    (namedDocs s.translation.toJson) (namedDocs s.pipeline.toJson)) = toDoc s.toJson := by
  have store : Doc.ofMembers (namedDocs s.store.toJson) = toDoc s.store.toJson := ofMembers_namedDocs _
  have translation : Doc.ofMembers (namedDocs s.translation.toJson) = toDoc s.translation.toJson :=
    ofMembers_namedDocs _
  have pipeline : Doc.ofMembers (namedDocs s.pipeline.toJson) = toDoc s.pipeline.toJson := ofMembers_namedDocs _
  rw [membersWith, store, translation, pipeline]
  rfl

theorem kept_all (s : Settings) : s.kept ["task_id", "store", "translation", "pipeline", "log_level"]
    ((namedDocs s.store.toJson).map Prod.fst) ((namedDocs s.translation.toJson).map Prod.fst)
    ((namedDocs s.pipeline.toJson).map Prod.fst) = s := by
  simp [kept, Store.kept, Translating.kept, Processing.kept, namedDocs, Store.toJson, Translating.toJson,
    Processing.toJson]

theorem isKept_of_mem_numbers (s : Settings) : ∀ n ∈ s.toJson.numbers, IsKept n := by
  have natural {n : Nat} (fits : n < 2 ^ 64) : IsKept (.integer n) := by
    refine isKept_integer ?_
    simp only [Number.fits, Bool.and_eq_true, decide_eq_true_eq]
    omega
  have port := natural (Nat.lt_trans s.store.port.toNat_lt (by decide))
  have timeout := natural s.translation.timeoutSecs.toNat_lt
  have delay := natural s.translation.delayMs.toNat_lt
  have concurrency := natural s.pipeline.concurrency.toNat_lt
  have all : s.toJson.numbers = [.integer s.store.port.toNat, .integer s.translation.timeoutSecs.toNat,
      .integer s.translation.delayMs.toNat, .integer s.pipeline.concurrency.toNat] := by
    obtain ⟨taskId, store, translation, pipeline, level⟩ := s
    obtain ⟨_, _, _, _, _, _, _, _, dataDir⟩ := store
    cases taskId <;> cases dataDir <;> rfl
  rw [all]
  simp [port, timeout, delay, concurrency]

theorem parse_write (s : Settings) : parse s.write = .ok s := by
  have document : Document.ofText s.write = ⟨toDoc s.toJson, false⟩ := ofText_pretty s.isKept_of_mem_numbers
  have unedited :
      IsEdited s (namedDocs s.store.toJson) (namedDocs s.translation.toJson) (namedDocs s.pipeline.toJson) _ :=
    ⟨IsEdit.refl _ _, IsEdit.refl _ _, IsEdit.refl _ _, IsEdit.refl _ _⟩
  rw [← ofMembers_membersWith] at document
  exact (parse_of_edited unedited document).trans (congrArg Except.ok s.kept_all)

theorem load_eq_ok {fs : Files} {cwd : List String} {path text : String} {s : Settings}
    (found : fs.readText cwd path = .ok text) (read : parse text = .ok s) : load fs cwd path = .ok s := by
  rw [load, found]
  simp only [read]

theorem save_eq_ok {s : Settings} {fs fs' : Files} {cwd : List String} {path : String}
    (saved : s.save fs cwd path = .ok fs') : fs.writeText cwd path s.write = .ok fs' := by
  rw [save] at saved
  split at saved
  · cases saved
  · rename_i written
    cases saved
    exact written

/-- Settings that were saved are loaded again from the same path. From a file with any object that comes of theirs by
leaving members out, of the whole or of its sections, by putting in others that are not known and by changing the
order, what is left of them is loaded, with the defaults of what is not. And an empty section is the same as none: what
its members are taken to be, one by one, is what the whole section is by default. -/
theorem load_saved_or_edited :
    (∀ (s : Settings) (fs fs' : Files) (cwd : List String) (path : String),
      s.save fs cwd path = .ok fs' → load fs' cwd path = .ok s) ∧
    (∀ (s : Settings) (store translation pipeline members : List (String × Doc)),
      IsEdited s store translation pipeline members →
      ∀ (fs : Files) (cwd : List String) (path text : String), fs.readText cwd path = .ok text →
      Document.ofText text = ⟨.ofMembers members, false⟩ →
      load fs cwd path = .ok (s.kept (members.map Prod.fst) (store.map Prod.fst) (translation.map Prod.fst)
        (pipeline.map Prod.fst))) ∧
    ∀ (s : Settings) (present store translation pipeline : List String),
      s.kept ("store" :: present) [] translation pipeline =
        s.kept (present.filter (· ≠ "store")) store translation pipeline ∧
      s.kept ("translation" :: present) store [] pipeline =
        s.kept (present.filter (· ≠ "translation")) store translation pipeline ∧
      s.kept ("pipeline" :: present) store translation [] =
        s.kept (present.filter (· ≠ "pipeline")) store translation pipeline ∧
      s.kept [] store translation pipeline = {} := by
  refine ⟨?_, ?_, ?_⟩
  · intro s fs fs' cwd path saved
    exact load_eq_ok (Files.readText_of_writeText (save_eq_ok saved)) (parse_write s)
  · intro s store translation pipeline members edited fs cwd path text found document
    exact load_eq_ok found (parse_of_edited edited document)
  · intro s present store translation pipeline
    have no_store : s.store.kept [] = unset.store := rfl
    have no_translation : s.translation.kept [] = unset.translation := rfl
    have no_pipeline : s.pipeline.kept [] = unset.pipeline := rfl
    refine ⟨?_, ?_, ?_, rfl⟩
    · simp [kept, left, no_store]
    · simp [kept, left, no_translation]
    · simp [kept, left, no_pipeline]

/-- Saved settings are loaded again, and from an object with two short sections, in the other order and with unknown
members, comes what these have. -/
theorem load_saved_or_edited_in_part :
    let s : Settings := { taskId := some "t", store := { host := "h", port := 1 }, pipeline := { concurrency := 4 } }
    let store := [("port", nat 1), ("note", null)]
    let pipeline := [("concurrency", nat 4)]
    let text := (object [("pipeline", object pipeline), ("", array []), ("store", object store)]).compact
    let fs : Files := ⟨[(["c"], .plain text.toUTF8)]⟩
    (∃ fs', s.save {} [] "c" = .ok fs' ∧ load fs' [] "c" = .ok s) ∧ fs.readText [] "c" = .ok text ∧
      load fs [] "c" = .ok { store := { port := 1 }, pipeline := { concurrency := 4 } } := by
  intro s store pipeline text fs
  obtain ⟨loads, loads_edited, _⟩ := load_saved_or_edited
  have located (fs : Files) : fs.locate [] "c" = .ok ⟨[], some "c", false⟩ :=
    Files.locate_of_name (by decide) (by decide) (by decide) (by decide) fs []
  have written : Files.writeText {} [] "c" s.write = .ok ⟨[(["c"], .plain s.write.toUTF8)]⟩ :=
    bind_eq_ok.2 ⟨_, located {}, rfl⟩
  have saved : s.save {} [] "c" = .ok ⟨[(["c"], .plain s.write.toUTF8)]⟩ := by
    rw [save, written]
  have found : fs.readText [] "c" = .ok text := Files.readText_of_entry? (Files.entry?_of_plain (located fs) rfl rfl)
  have whole : ∀ n ∈ [Number.integer 4, .integer 1], IsKept n :=
    List.forall_mem_cons.2 ⟨isKept_integer (by decide), List.forall_mem_singleton.2 (isKept_integer (by decide))⟩
  have document : Document.ofText text = ⟨.ofMembers [("pipeline", .ofMembers (namedDocs (object pipeline))),
      ("", toDoc (array [])), ("store", .ofMembers (namedDocs (object store)))], false⟩ :=
    ofText_compact whole
  have edited : IsEdited s (namedDocs (object store)) [] (namedDocs (object pipeline)) [
      ("pipeline", .ofMembers (namedDocs (object pipeline))), ("", toDoc (array [])),
      ("store", .ofMembers (namedDocs (object store)))] := by
    refine ⟨⟨[("port", toDoc (nat 1))], [("note", .null)], ?_, ?_, List.Perm.refl _⟩,
      ⟨[], [], List.nil_sublist _, by simp, List.Perm.refl _⟩,
      ⟨[("concurrency", toDoc (nat 4))], [], ?_, by simp, List.Perm.refl _⟩,
      ⟨[("store", .ofMembers (namedDocs (object store))), ("pipeline", .ofMembers (namedDocs (object pipeline)))],
        [("", toDoc (array []))], ?_, ?_, List.perm_append_singleton _ [_, _]⟩⟩
    · simp [namedDocs, Store.toJson, s]
    · exact List.forall_mem_singleton.2 ⟨by decide, skim_toDoc null⟩
    · simp [namedDocs, Processing.toJson, s]
    · exact .cons _ (.cons_cons _ (.cons _ (.cons_cons _ (List.nil_sublist _))))
    · exact List.forall_mem_singleton.2 ⟨by decide, skim_toDoc (array [])⟩
  refine ⟨⟨_, saved, loads s {} _ [] "c" saved⟩, found, ?_⟩
  exact loads_edited s _ _ _ _ edited fs [] "c" text found document

end Harvest.Settings
