import Harvest.Proofs.Url.Paths
import Harvest.Proofs.Url.Reading

/-!
What is known of a URL that was read: its scheme is one in small letters, its user and host were read as such, and its
path starts with a slash behind an authority. A text that is read by itself or relative to a URL of the web gives no
other URL.
-/

namespace Harvest.Url

variable {text : String} {scheme : String} {cs : List Char} {base u : Url}

/-- An authority that was read. -/
structure Authority.Known (scheme : String) (a : Authority) : Prop where
  user : ∃ cs more, readUserinfo (Family.ofScheme scheme) cs = .ok (a.userinfo, more)
  place : ∃ cs more, readHostAndPort scheme cs = .ok (a.host, a.port, more)
  owned : ¬(a.host.isEmpty ∧ ¬a.userinfo.isEmpty)

/-- The kinds of URLs. -/
inductive Sound : Url → Prop
  | hosted {u : Url} {a : Authority} (name : IsName u.scheme) (apart : u.family ≠ .file)
      (authority : u.authority = some a) (known : a.Known u.scheme) (path : ∀ c ∈ u.path.toList.head?, c = '/') (kept : Kept u.path.toList) : Sound u
  | file {u : Url} {host : String} (name : u.scheme = "file") (authority : u.authority = some ⟨"", host, none⟩)
      (known : host = "" ∨ ∃ cs, readDomainHost cs = .ok host) (path : ∀ c ∈ u.path.toList.head?, c = '/') : Sound u
  | placeless {u : Url} (name : IsName u.scheme) (other : u.family = .other) (authority : u.authority = none)
      (kept : Kept u.path.toList) : Sound u

theorem path_of_rooted {s : PathState} (rooted : s.path = [] ∨ s.Rooted) :
    (∀ c ∈ s.path.head?, c = '/') ∧ Kept s.path := by
  rcases rooted with none | rooted
  · rw [none]
    exact ⟨nofun, nofun⟩
  · refine ⟨?_, rooted.path.2⟩
    intro c first
    rw [rooted.path.1] at first
    exact (Option.some.inj first).symm

theorem Sound.of_path {a : Authority} (name : IsName scheme) (apart : Family.ofScheme scheme ≠ .file)
    (known : a.Known scheme) {s : PathState} (rooted : s.path = [] ∨ s.Rooted) (rest : List Char) :
    Sound (finish scheme (some a) s.path rest) := by
  obtain ⟨first, kept⟩ := path_of_rooted rooted
  refine .hosted name apart rfl known ?_ ?_
  · rwa [finish, String.toList_ofList]
  · rwa [finish, String.toList_ofList]

theorem sound_afterSlashes (name : IsName scheme) (apart : Family.ofScheme scheme ≠ .file)
    (read : afterSlashes scheme cs = .ok u) : Sound u := by
  obtain ⟨userinfo, more, host, port, ending, user, place, owned, rfl⟩ := afterSlashes_eq_ok.1 read
  exact .of_path name apart ⟨⟨_, _, user⟩, ⟨_, _, place⟩, owned⟩ (rooted_readPathStart true ending []) _

theorem kept_readOpaquePath (kept : Kept cs) : Kept (readOpaquePath cs).1 := by
  refine forall_mem_encode ?_ kept_code
  exact fun c member _ => kept c ((List.takeWhile_prefix _).subset member)

theorem sound_readOther (name : IsName scheme) (other : Family.ofScheme scheme = .other) (kept : Kept cs)
    (read : readOther scheme cs = .ok u) : Sound u := by
  unfold readOther at read
  split at read
  · exact sound_afterSlashes name (by simp [other]) read
  · cases read
    refine .placeless name other rfl ?_
    rw [finish, String.toList_ofList]
    exact (rooted_readPath (.root false) _ []).path.2
  · cases read
    refine .placeless name other rfl ?_
    rw [finish, String.toList_ofList]
    exact kept_readOpaquePath kept

theorem head?_readPath_file (s : PathState) (cs : List Char) (gaps : List Nat) :
    (readPath .file s cs gaps).1.path.head? = some '/' := by
  simp [readPath, PathState.path, PathState.ofPath, trimSlashes]

theorem sound_fileUrl {host : String} (known : host = "" ∨ ∃ cs, readDomainHost cs = .ok host) {path : List Char}
    (first : path.head? = some '/') (rest : List Char) : Sound (fileUrl host path rest) := by
  refine .file rfl rfl known ?_
  intro c member
  rw [fileUrl, finish, String.toList_ofList, first] at member
  exact (Option.some.inj member).symm

theorem readFileHost_ok {host : String} {rest : List Char} (read : readFileHost cs = .ok (host, rest)) :
    host = "" ∨ ∃ cs, readDomainHost cs = .ok host := by
  simp only [readFileHost] at read
  split at read
  · cases read
    exact .inl rfl
  · split at read
    · cases read
      exact .inl rfl
    · obtain ⟨found, domain, read⟩ := bind_eq_ok.1 read
      split at read
      · cases read
        exact .inl rfl
      · cases read
        exact .inr ⟨_, domain⟩

theorem relativeFile_cons (gaps : List Nat) (c : Char) (rest : List Char) :
    ∃ s, readFile.relative gaps none (c :: rest) =
      fileUrl "" (readPath .file s (c :: rest) gaps).1.path (readPath .file s (c :: rest) gaps).2 := by
  unfold readFile.relative
  by_cases slash : isSlash c = true
  · exact ⟨.ofPath [] false, by simp only [if_pos slash]⟩
  · exact ⟨.root false, by simp only [if_neg slash]⟩

theorem sound_relativeFile (gaps : List Nat) (cs : List Char) : Sound (readFile.relative gaps none cs) := by
  cases cs with
  | nil => exact sound_fileUrl (.inl rfl) rfl []
  | cons c rest =>
    obtain ⟨s, read⟩ := relativeFile_cons gaps c rest
    rw [read]
    exact sound_fileUrl (.inl rfl) (head?_readPath_file s (c :: rest) gaps) _

theorem head?_readPathStart_file (keepsHost : Bool) (cs : List Char) (gaps : List Nat) :
    (readPathStart .file keepsHost cs gaps).1.path.head? = some '/' := by
  unfold readPathStart
  split
  · simp only [Family.isSpecial, if_true]
    split
    · exact head?_readPath_file (.root keepsHost) _ gaps
    · exact head?_readPath_file (.root keepsHost) _ gaps
  · simp only [Family.isSpecial, if_true]
    exact head?_readPath_file (.root keepsHost) [] []

/-- A file URL that is not relative to another one has no more than a host in front of its path. -/
theorem sound_readFile {gaps : List Nat} (read : readFile gaps none cs = .ok u) : Sound u := by
  unfold readFile at read
  split at read
  · rename_i c d rest
    split at read
    · obtain ⟨⟨host, more⟩, place, read⟩ := bind_eq_ok.1 read
      have known (kept : Bool) : (if kept = true then host else "") = "" ∨
          ∃ cs, readDomainHost cs = .ok (if kept = true then host else "") := by
        cases kept with
        | false => exact .inl rfl
        | true => exact readFileHost_ok place
      by_cases none : host.isEmpty = true
      · simp only [if_pos none] at read
        cases read
        exact sound_fileUrl (known _) (head?_readPath_file (.root false) more gaps) _
      · simp only [if_neg none] at read
        cases read
        exact sound_fileUrl (known _) (head?_readPathStart_file true more gaps) _
    · cases read
      exact sound_relativeFile gaps _
  · cases read
    exact sound_relativeFile gaps _

/-- A text is read by itself only if it has a scheme. -/
theorem parse_eq_ok : parse text = .ok u ↔
    ∃ scheme rest, readScheme (significant (withoutOuterSpace text)) = some (scheme, rest) ∧
      afterScheme (gapsOf (withoutOuterSpace text)) none scheme rest = .ok u := by
  simp only [parse, parseWith]
  cases readScheme (significant (withoutOuterSpace text)) with
  | none => simp [afterNoScheme]
  | some found => simp [Prod.ext_iff]

theorem sound_afterScheme {gaps : List Nat} (name : IsName scheme) (kept : Kept cs)
    (read : afterScheme gaps none scheme cs = .ok u) : Sound u := by
  unfold afterScheme at read
  split at read
  · exact sound_readFile read
  · rename_i special
    exact sound_afterSlashes name (by simp [special]) read
  · rename_i other
    exact sound_readOther name other kept read

theorem named_of_readScheme {rest : List Char} (read : readScheme (significant cs) = some (scheme, rest)) :
    IsName scheme ∧ Kept rest := by
  obtain ⟨name, names, rfl, whole⟩ := exists_of_readScheme read
  refine ⟨⟨name, names, rfl⟩, ?_⟩
  intro c member
  have inside : c ∈ significant cs := whole ▸ List.mem_append_right _ (List.mem_cons_of_mem _ member)
  simpa using (List.mem_filter.1 inside).2

theorem sound_parse (read : parse text = .ok u) : Sound u := by
  obtain ⟨scheme, rest, named, read⟩ := parse_eq_ok.1 read
  obtain ⟨name, kept⟩ := named_of_readScheme named
  exact sound_afterScheme name kept read

/-- A URL with a scheme of the web. -/
structure IsWeb (u : Url) : Prop where
  sound : Sound u
  special : u.family = .special

namespace IsWeb

variable (web : IsWeb base)
include web

theorem scheme_ne_file : base.scheme ≠ "file" := by
  intro file
  have special := web.special
  rw [Url.family, file] at special
  cases special

theorem apart : Family.ofScheme base.scheme ≠ .file := by
  rw [← Url.family, web.special]
  exact Family.noConfusion

theorem hosted : ∃ a, base.authority = some a ∧ IsName base.scheme ∧ a.Known base.scheme ∧
    (∀ c ∈ base.path.toList.head?, c = '/') ∧ Kept base.path.toList := by
  cases web.sound with
  | hosted name _ authority known path kept => exact ⟨_, authority, name, known, path, kept⟩
  | file file => exact absurd file web.scheme_ne_file
  | placeless _ other =>
    rw [web.special] at other
    cases other

theorem isOpaque_eq_false : base.isOpaque = false := by
  obtain ⟨a, authority, _⟩ := web.hosted
  rw [isOpaque, authority]
  rfl

theorem withPath {s : PathState} (rooted : s.path = [] ∨ s.Rooted) (rest : List Char) :
    Sound (finish base.scheme base.authority s.path rest) := by
  obtain ⟨a, authority, name, known, _⟩ := web.hosted
  rw [authority]
  exact .of_path name web.apart known rooted rest

theorem withEnding (query fragment : Option String) : Sound { base with query, fragment } := by
  obtain ⟨a, authority, name, known, path, kept⟩ := web.hosted
  exact .hosted name web.apart authority known path kept

/-- What a relative path is put behind: the path up to its last slash, or the slash that stands for an empty one. -/
theorem exists_above : ∃ above : PathState, above.Rooted ∧
    (if (PathState.ofPath base.path.toList true).upToSlash.reversed.isEmpty then .root true
      else (PathState.ofPath base.path.toList true).upToSlash) = above := by
  obtain ⟨a, _, _, _, path, kept⟩ := web.hosted
  refine ⟨_, ?_, rfl⟩
  split
  · exact .root true
  · rename_i present
    have first : base.path.toList.head? = some '/' := by
      cases whole : base.path.toList with
      | nil => simp [PathState.ofPath, PathState.upToSlash, whole] at present
      | cons c rest => rw [List.head?_cons, path c (by rw [whole]; rfl)]
    refine PathState.Rooted.upToSlash ⟨?_, ?_⟩
    · exact List.getLast?_reverse.trans first
    · exact fun c member => kept c (List.mem_reverse.1 member)

theorem sound_readRelative (read : readRelative base cs = .ok u) : Sound u := by
  obtain ⟨a, authority, name, _⟩ := web.hosted
  unfold readRelative at read
  split at read
  · cases read
    exact web.withEnding _ _
  · cases read
    exact web.withEnding _ _
  · cases read
    exact web.withEnding _ _
  · split at read
    · split at read
      · exact sound_afterSlashes name web.apart read
      · split at read
        · exact sound_afterSlashes name web.apart read
        · cases read
          exact web.withPath (.inr (rooted_readPath (.root true) _ [])) _
    · obtain ⟨above, rooted, same⟩ := web.exists_above
      simp only [same] at read
      cases read
      exact web.withPath (.inr (rooted_readPath rooted _ [])) _

theorem sound_join (read : join base text = .ok u) : Sound u := by
  simp only [join, parseWith] at read
  split at read
  · rename_i scheme rest named
    obtain ⟨name, kept⟩ := named_of_readScheme named
    unfold afterScheme at read
    split at read
    · rw [Option.filter_some, if_neg (by simpa using web.scheme_ne_file)] at read
      exact sound_readFile read
    · rename_i special
      have apart : Family.ofScheme scheme ≠ .file := by simp [special]
      split at read
      · rename_i b is_base
        cases is_base
        split at read
        · exact web.sound_readRelative read
        · exact sound_afterSlashes name apart read
      · exact sound_afterSlashes name apart read
    · rename_i other
      exact sound_readOther name other kept read
  · simp only [afterNoScheme, web.isOpaque_eq_false, web.special] at read
    split at read
    · cases read
      exact web.withEnding _ _
    · exact web.sound_readRelative read

end IsWeb

end Harvest.Url
