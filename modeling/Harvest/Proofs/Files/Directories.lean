import Harvest.Files
import Harvest.Proofs.Results
import Harvest.Proofs.Text.Bytes

/-!
What stays of the directories when files change. A directory that has been entered can be entered again as long as
directories stay directories, so a text that was written to a file is read back from it, and creating the directories
above a path a second time changes nothing.
-/

namespace Harvest.Files

variable {fs fs' : Files}

theorem lookup_replace (entries : List (List String × FileEntry)) (at_ p : List String) (e : FileEntry) :
    (entries.map fun (q, old) => if q = at_ then (q, e) else (q, old)).lookup p =
      if p = at_ then (entries.lookup p).map fun _ => e else entries.lookup p := by
  induction entries with
  | nil => simp
  | cons entry entries ih =>
    obtain ⟨q, old⟩ := entry
    rw [List.map_cons]
    by_cases here : p = q
    · subst here
      by_cases replaced : p = at_ <;> simp [replaced]
    · have other : (p == q) = false := by simpa using here
      by_cases replaced : q = at_
      · subst replaced
        simp [List.lookup_cons, other, here, ih]
      · simp [List.lookup_cons, other, replaced, ih]

/-- What stands at a place after something was put at one, which is not the root. -/
theorem get?_set {at_ : List String} (below : at_ ≠ []) (e : FileEntry) (p : List String) :
    (fs.set at_ e).get? p = if p = at_ then some e else fs.get? p := by
  by_cases root : p = []
  · subst root
    rw [if_neg (Ne.symm below)]
    rfl
  · rw [get?, get?, if_neg root, if_neg root, set]
    split
    · rename_i present
      obtain ⟨old, found⟩ := Option.isSome_iff_exists.1 present
      rw [lookup_replace]
      split
      · rename_i here
        rw [here, found]
        rfl
      · rfl
    · rename_i absent
      have missing := Option.not_isSome_iff_eq_none.1 absent
      rw [List.lookup_append]
      by_cases here : p = at_
      · subst here
        simp [missing]
      · have other : (p == at_) = false := by simpa using here
        simp [here, List.lookup_cons, other]

/-- Whether all directories of some files are directories of others. -/
def Keeps (fs fs' : Files) : Prop := ∀ at_, fs.get? at_ = some .directory → fs'.get? at_ = some .directory

theorem Keeps.refl (fs : Files) : Keeps fs fs := fun _ directory => directory

theorem Keeps.trans {fs'' : Files} (first : Keeps fs fs') (second : Keeps fs' fs'') : Keeps fs fs'' :=
  fun at_ directory => second at_ (first at_ directory)

theorem keeps_set {at_ : List String} (free : fs.get? at_ ≠ some .directory) (e : FileEntry) :
    Keeps fs (fs.set at_ e) := by
  have below : at_ ≠ [] := by
    rintro rfl
    exact free rfl
  intro p directory
  have elsewhere : p ≠ at_ := by
    rintro rfl
    exact free directory
  rw [get?_set below, if_neg elsewhere, directory]

theorem enter_eq_ok {at_ q : List String} {name : String} : fs.enter at_ name = .ok q ↔
    name = "." ∧ q = at_ ∨ name = ".." ∧ q = at_.dropLast ∨
    name ≠ "." ∧ name ≠ ".." ∧ name.utf8ByteSize ≤ 255 ∧ fs.get? (at_ ++ [name]) = some .directory ∧
      q = at_ ++ [name] := by
  unfold enter
  by_cases here : name = "."
  · simp [here, eq_comm]
  · by_cases up : name = ".."
    · simp [up, eq_comm]
    · by_cases long : name.utf8ByteSize > 255
      · simp [here, up, long, Nat.not_le.2 long]
      · have short := Nat.le_of_not_gt long
        rw [if_neg here, if_neg up, if_neg long]
        split
        · rename_i missing
          simp [here, up, missing]
        · rename_i directory
          simp [here, up, short, directory, eq_comm]
        · rename_i e other found
          have file : e ≠ .directory := other
          simp [here, up, found, file]

theorem entry?_of_directory {cwd : List String} {path : String} {place : Place}
    (located : fs.locate cwd path = .ok place) (directory : fs.get? place.full = some .directory) :
    fs.entry? cwd path = .ok .directory :=
  bind_eq_ok.2 ⟨place, located, by rw [directory]⟩

theorem isDirectory_iff {cwd : List String} {path : String} : fs.isDirectory cwd path = true ↔
    ∃ place, fs.locate cwd path = .ok place ∧ fs.get? place.full = some .directory := by
  rw [isDirectory]
  constructor
  · intro directory
    split at directory
    · rename_i found
      obtain ⟨place, located, found⟩ := bind_eq_ok.1 found
      refine ⟨place, located, ?_⟩
      split at found
      · cases found
      · assumption
      · split at found
        · cases found
        · cases found
          contradiction
    · cases directory
  · rintro ⟨place, located, directory⟩
    rw [entry?_of_directory located directory]

section Kept

variable (kept : Keeps fs fs')

include kept

theorem enter_of_keeps {at_ q : List String} {name : String} (entered : fs.enter at_ name = .ok q) :
    fs'.enter at_ name = .ok q := by
  rw [enter_eq_ok] at entered ⊢
  rcases entered with here | up | ⟨here, up, short, directory, same⟩
  · exact .inl here
  · exact .inr (.inl up)
  · exact .inr (.inr ⟨here, up, short, kept _ directory, same⟩)

theorem walk_of_keeps {names : List String} {start d : List String} (walked : names.foldlM fs.enter start = .ok d) :
    names.foldlM fs'.enter start = .ok d := by
  induction names generalizing start with
  | nil => exact walked
  | cons name names ih =>
    rw [List.foldlM_cons] at walked ⊢
    obtain ⟨q, entered, walked⟩ := bind_eq_ok.1 walked
    exact bind_eq_ok.2 ⟨q, enter_of_keeps kept entered, ih walked⟩

theorem locate_of_keeps {cwd : List String} {path : String} {place : Place} (found : fs.locate cwd path = .ok place) :
    fs'.locate cwd path = .ok place := by
  unfold locate at found ⊢
  split at found
  · cases found
  · split at found
    · cases found
    · split at found
      · cases found
      · rename_i no_nul some_path short
        rw [if_neg no_nul, if_neg some_path, if_neg short]
        obtain ⟨directory, walked, found⟩ := bind_eq_ok.1 found
        refine bind_eq_ok.2 ⟨directory, walk_of_keeps kept walked, ?_⟩
        split at found
        · exact found
        · split at found
          · rename_i dots
            rw [if_pos dots]
            obtain ⟨q, entered, same⟩ := bind_eq_ok.1 found
            exact bind_eq_ok.2 ⟨q, enter_of_keeps kept entered, same⟩
          · rename_i named
            rw [if_neg named]
            exact found

theorem isDirectory_of_keeps {cwd : List String} {path : String} (directory : fs.isDirectory cwd path = true) :
    fs'.isDirectory cwd path = true := by
  rw [isDirectory_iff] at directory ⊢
  obtain ⟨place, found, here⟩ := directory
  exact ⟨place, locate_of_keeps kept found, kept _ here⟩

end Kept

theorem entry?_of_plain {cwd : List String} {path : String} {place : Place} {bytes : ByteArray}
    (located : fs.locate cwd path = .ok place) (no_slash : place.slash = false)
    (found : fs.get? place.full = some (.plain bytes)) : fs.entry? cwd path = .ok (.plain bytes) := by
  refine bind_eq_ok.2 ⟨place, located, ?_⟩
  rw [found]
  simp [no_slash]

theorem readText_of_entry? {cwd : List String} {path text : String}
    (found : fs.entry? cwd path = .ok (.plain text.toUTF8)) : fs.readText cwd path = .ok text := by
  refine bind_eq_ok.2 ⟨_, found, ?_⟩
  simp only [decodeText, Text.fromUTF8?_toUTF8]

theorem readText_of_writeText {cwd : List String} {path text : String}
    (written : fs.writeText cwd path text = .ok fs') : fs'.readText cwd path = .ok text := by
  obtain ⟨place, located, written⟩ := bind_eq_ok.1 written
  split at written
  · cases written
  · rename_i free
    split at written
    · cases written
    · rename_i no_slash
      cases written
      have below : place.full ≠ [] := by
        intro root
        rw [root] at free
        exact free rfl
      have again := locate_of_keeps (keeps_set free (.plain text.toUTF8)) located
      exact readText_of_entry? (entry?_of_plain again (by simpa using no_slash) (by rw [get?_set below, if_pos rfl]))

section Creation

variable {cwd : List String} {path : String}

theorem createDir_of_isDirectory (directory : fs.isDirectory cwd path = true) :
    fs.createDir cwd path = .error .exists := by
  obtain ⟨place, located, here⟩ := isDirectory_iff.1 directory
  simp [createDir, located, here, bind, Except.bind]

theorem createDirAll_of_isDirectory (directory : path = "" ∨ fs.isDirectory cwd path = true) :
    fs.createDirAll cwd path = .ok fs := by
  rw [createDirAll, createDirAllWithin]
  split
  · rfl
  · rename_i some_path
    have present := directory.resolve_left some_path
    simp only [createDir_of_isDirectory present, present, ↓reduceIte]

theorem createDir_eq_ok (created : fs.createDir cwd path = .ok fs') :
    Keeps fs fs' ∧ fs'.isDirectory cwd path = true := by
  obtain ⟨place, located, created⟩ := bind_eq_ok.1 created
  split at created
  · cases created
  · rename_i free
    cases created
    have below : place.full ≠ [] := by
      intro root
      rw [root] at free
      cases free
    have kept : Keeps fs (fs.set place.full .directory) := keeps_set (by simp [free]) .directory
    refine ⟨kept, isDirectory_iff.2 ⟨place, locate_of_keeps kept located, ?_⟩⟩
    rw [get?_set below, if_pos rfl]

/-- One directory that is created, or that is there already. -/
theorem created_eq_ok (created : (match fs.createDir cwd path with
      | .error e => if fs.isDirectory cwd path then .ok fs else .error e
      | .ok fs => .ok fs) = Except.ok fs') : Keeps fs fs' ∧ fs'.isDirectory cwd path = true := by
  split at created
  · split at created
    · cases created
      exact ⟨Keeps.refl fs, ‹_›⟩
    · cases created
  · cases created
    exact createDir_eq_ok ‹_›

theorem createDirAllWithin_eq_ok {fuel : Nat} (created : fs.createDirAllWithin cwd path fuel = .ok fs') :
    Keeps fs fs' ∧ (path = "" ∨ fs'.isDirectory cwd path = true) := by
  induction fuel generalizing fs fs' path with
  | zero => cases created
  | succ fuel ih =>
    rw [createDirAllWithin] at created
    split at created
    · rename_i no_path
      cases created
      exact ⟨Keeps.refl fs, .inl no_path⟩
    · split at created
      · split at created
        · cases created
        · obtain ⟨below, first, created⟩ := bind_eq_ok.1 created
          obtain ⟨kept, directory⟩ := created_eq_ok created
          exact ⟨(ih first).1.trans kept, .inr directory⟩
      · exact (created_eq_ok created).imp_right .inr

theorem createDirAll_eq_ok (created : fs.createDirAll cwd path = .ok fs') :
    Keeps fs fs' ∧ (path = "" ∨ fs'.isDirectory cwd path = true) := createDirAllWithin_eq_ok created

end Creation

end Harvest.Files
