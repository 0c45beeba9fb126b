import Harvest.Proofs.Results
import Harvest.Url.Parser
import Mathlib.Data.Char
import Mathlib.Data.List.TakeWhile

/-!
What a URL's text is read as. Nothing is lost in front of a character that is printed, a scheme is read off where
it ends with a colon, and an authority that starts with a slash has no host.
-/

namespace Harvest.Url

variable {cs pre rest : List Char} {base : Option Url} {scheme : String} {u : Url}

section Trimming

/-- A text without the controls and spaces at its end and without what is left out of it. -/
def trimmed (cs : List Char) : List Char := significant (cs.reverse.dropWhile fun c => c ≤ ' ').reverse

theorem isLeftOut_of_printed {c : Char} (printed : ' ' < c) : isLeftOut c = false := by
  simp only [isLeftOut, Bool.or_eq_false_iff, decide_eq_false_iff_not]
  refine ⟨⟨?_, ?_⟩, ?_⟩ <;> rintro rfl <;> exact absurd printed (by decide)

theorem significant_of_printed (printed : ∀ c ∈ cs, ' ' < c) : significant cs = cs :=
  List.filter_eq_self.2 fun c member => by simp [isLeftOut_of_printed (printed c member)]

/-- Printed characters at the start of a text are kept, and what follows them is trimmed. -/
theorem trimmed_append (printed : ∀ c ∈ pre, ' ' < c) (nonempty : pre ≠ []) (tail : List Char) :
    trimmed (pre ++ tail) = pre ++ trimmed tail := by
  have last : pre.reverse.dropWhile (fun c => decide (c ≤ ' ')) = pre.reverse := by
    obtain ⟨d, ds, reversed⟩ := List.exists_cons_of_ne_nil (List.reverse_ne_nil_iff.2 nonempty)
    have member : d ∈ pre := List.mem_reverse.1 (reversed ▸ List.mem_cons_self)
    rw [reversed, List.dropWhile_cons_of_neg (by simpa using printed d member)]
  have ending : ((pre ++ tail).reverse.dropWhile fun c => decide (c ≤ ' ')).reverse =
      pre ++ (tail.reverse.dropWhile fun c => decide (c ≤ ' ')).reverse := by
    rw [List.reverse_append, List.dropWhile_append]
    split
    · rename_i blank
      rw [last, List.isEmpty_iff.1 blank]
      simp
    · simp
  rw [trimmed, ending, significant, List.filter_append, ← significant, significant_of_printed printed, trimmed,
    significant]

theorem inner_eq_trimmed (printed : ∀ c ∈ cs.head?, ' ' < c) :
    significant (withoutOuterSpace (String.ofList cs)) = trimmed cs := by
  cases cs with
  | nil => rfl
  | cons c cs =>
    have first : ' ' < c := printed c rfl
    rw [withoutOuterSpace, String.toList_ofList, List.dropWhile_cons_of_neg (by simpa using first), trimmed]

end Trimming

section Schemes

/-- The characters of a scheme. -/
structure IsScheme (name : List Char) : Prop where
  starts : ∃ c rest, name = c :: rest ∧ isAsciiLetter c = true
  chars : ∀ c ∈ name, isSchemeChar c = true

theorem readScheme_append {name : List Char} (names : IsScheme name) (rest : List Char) :
    readScheme (name ++ ':' :: rest) = some (String.ofList (name.map Char.toLower), rest) := by
  have colon : isSchemeChar ':' = false := by decide
  have whole : (name ++ ':' :: rest).takeWhile isSchemeChar = name := by
    rw [List.takeWhile_append_of_pos names.chars, List.takeWhile_cons_of_neg (by simp [colon]), List.append_nil]
  obtain ⟨c, more, rfl, letter⟩ := names.starts
  rw [readScheme, whole, List.drop_left]
  simp only [letter, if_true]

theorem exists_of_readScheme (read : readScheme cs = some (scheme, rest)) :
    ∃ name, IsScheme name ∧ scheme = String.ofList (name.map Char.toLower) ∧ cs = name ++ ':' :: rest := by
  have parts := List.takeWhile_append_dropWhile (p := isSchemeChar) (l := cs)
  have dropped : cs.drop (cs.takeWhile isSchemeChar).length = cs.dropWhile isSchemeChar :=
    calc cs.drop (cs.takeWhile isSchemeChar).length
      _ = (cs.takeWhile isSchemeChar ++ cs.dropWhile isSchemeChar).drop (cs.takeWhile isSchemeChar).length := by
        rw [parts]
      _ = cs.dropWhile isSchemeChar := List.drop_left
  simp only [readScheme] at read
  split at read
  · rename_i first more _ starts colon
    split at read
    · rename_i letter
      cases read
      refine ⟨cs.takeWhile isSchemeChar, ⟨⟨_, _, starts, letter⟩, ?_⟩, rfl, ?_⟩
      · exact fun c member => List.mem_takeWhile_imp member
      · rw [← colon, dropped, parts]
    · cases read
  · cases read

theorem readScheme_of_slash (cs : List Char) : readScheme ('/' :: cs) = none := rfl

theorem lower_schemeChar {c : Char} (inScheme : isSchemeChar c = true) :
    isSchemeChar c.toLower = true ∧ c.toLower.toLower = c.toLower ∧ ' ' < c.toLower ∧
      (isAsciiLetter c = true → isAsciiLetter c.toLower = true) := by
  have ascii : c.toNat < 128 := by
    simp only [isSchemeChar, isAsciiLetter, Char.isDigit, Bool.or_eq_true, Bool.and_eq_true, decide_eq_true_eq,
      Char.le_def, UInt32.le_iff_toNat_le, Char.toNat] at inScheme ⊢
    rcases inScheme with (((letter | digit) | rfl) | rfl) | rfl
    · rcases letter with ⟨_, le⟩ | ⟨_, le⟩ <;> exact Nat.lt_of_le_of_lt le (by decide)
    · exact Nat.lt_of_le_of_lt digit.2 (by decide)
    all_goals decide
  have all : ∀ n < 128, isSchemeChar (Char.ofNat n) = true → isSchemeChar (Char.ofNat n).toLower = true ∧
      (Char.ofNat n).toLower.toLower = (Char.ofNat n).toLower ∧ ' ' < (Char.ofNat n).toLower ∧
      (isAsciiLetter (Char.ofNat n) = true → isAsciiLetter (Char.ofNat n).toLower = true) := by decide
  have here := all c.toNat ascii
  rw [Char.ofNat_toNat] at here
  exact here inScheme

/-- The text of a scheme, in small letters. -/
def IsName (scheme : String) : Prop := ∃ name, IsScheme name ∧ scheme = String.ofList (name.map Char.toLower)

namespace IsName

variable (name : IsName scheme)
include name

theorem isScheme : IsScheme scheme.toList := by
  obtain ⟨name, ⟨⟨c, rest, rfl, letter⟩, chars⟩, rfl⟩ := name
  rw [String.toList_ofList]
  refine ⟨⟨c.toLower, rest.map Char.toLower, rfl, ?_⟩, ?_⟩
  · exact (lower_schemeChar (chars c List.mem_cons_self)).2.2.2 letter
  · intro d member
    obtain ⟨d, source, rfl⟩ := List.mem_map.1 member
    exact (lower_schemeChar (chars d source)).1

theorem lower : String.ofList (scheme.toList.map Char.toLower) = scheme := by
  obtain ⟨name, names, rfl⟩ := name
  rw [String.toList_ofList, List.map_map]
  congr 1
  exact List.map_congr_left fun c member => (lower_schemeChar (names.chars c member)).2.1

theorem printed : ∀ c ∈ scheme.toList ++ [':'], ' ' < c := by
  obtain ⟨name, names, rfl⟩ := name
  rw [String.toList_ofList]
  intro c member
  rcases List.mem_append.1 member with inside | colon
  · obtain ⟨c, source, rfl⟩ := List.mem_map.1 inside
    exact (lower_schemeChar (names.chars c source)).2.2.1
  · rw [List.mem_singleton.1 colon]
    decide

/-- A text with a scheme is read behind it, whatever the text may be relative to. -/
theorem parseWith_eq (base : Option Url) (rest : List Char) : ∃ gaps,
    parseWith base (String.ofList (scheme.toList ++ ':' :: rest)) = afterScheme gaps base scheme (trimmed rest) := by
  have nonempty : scheme.toList ++ [':'] ≠ [] := by simp
  have whole : trimmed (scheme.toList ++ ':' :: rest) = scheme.toList ++ ':' :: trimmed rest := by
    rw [List.append_cons, trimmed_append name.printed nonempty, ← List.append_cons]
  have first : ∀ c ∈ (scheme.toList ++ ':' :: rest).head?, ' ' < c := by
    obtain ⟨c, more, starts, _⟩ := name.isScheme.starts
    intro d head
    rw [starts, List.cons_append, List.head?_cons] at head
    obtain rfl := Option.some.inj head
    exact name.printed c (by simp [starts])
  refine ⟨gapsOf (withoutOuterSpace (String.ofList (scheme.toList ++ ':' :: rest))), ?_⟩
  rw [parseWith, inner_eq_trimmed first, whole, readScheme_append name.isScheme, name.lower]

end IsName

end Schemes

section Authorities

/-- A URL is read behind two slashes if its user and its host are, and there is a host for every user. -/
theorem afterSlashes_eq_ok : afterSlashes scheme cs = .ok u ↔
    ∃ userinfo more host port ending, readUserinfo (Family.ofScheme scheme) cs = .ok (userinfo, more) ∧
      readHostAndPort scheme more = .ok (host, port, ending) ∧ ¬(host.isEmpty ∧ ¬userinfo.isEmpty) ∧
      finish scheme (some ⟨userinfo, host, port⟩) (readPathStart (Family.ofScheme scheme) true ending).1.path
        (readPathStart (Family.ofScheme scheme) true ending).2 = u := by
  constructor
  · intro read
    obtain ⟨⟨userinfo, more⟩, user, read⟩ := bind_eq_ok.1 read
    obtain ⟨⟨host, port, ending⟩, here, read⟩ := bind_eq_ok.1 read
    refine ⟨userinfo, more, host, port, ending, user, here, ?_⟩
    by_cases orphan : host.isEmpty ∧ ¬userinfo.isEmpty
    · simp only [if_pos orphan] at read
      cases read
    · simp only [if_neg orphan] at read
      cases read
      exact ⟨orphan, rfl⟩
  · rintro ⟨userinfo, more, host, port, ending, user, here, orphan, rfl⟩
    refine bind_eq_ok.2 ⟨_, user, bind_eq_ok.2 ⟨_, here, ?_⟩⟩
    simp only [if_neg orphan]
    rfl

/-- Behind two slashes a special URL has its host at once. -/
theorem afterSlashes_slash (special : (Family.ofScheme scheme).isSpecial = true) {c : Char} (slash : isSlash c = true)
    (cs : List Char) : afterSlashes scheme (c :: cs) = .error .emptyHost := by
  have ends : endsAuthority (Family.ofScheme scheme) c = true := by
    simp only [isSlash, Bool.or_eq_true, decide_eq_true_eq] at slash
    rcases slash with rfl | rfl <;> simp [endsAuthority, endsSegment, special]
  have user : readUserinfo (Family.ofScheme scheme) (c :: cs) = .ok ("", c :: cs) := by
    simp [readUserinfo, ends, cutLastAt]
  have host : readHostAndPort scheme (c :: cs) = .error .emptyHost := by
    simp [readHostAndPort, hostChars, ends, special]
    rfl
  rw [afterSlashes, user]
  simp only [bind, Except.bind, host]

end Authorities

end Harvest.Url
