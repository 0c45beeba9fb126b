import Harvest.Proofs.Url.Authorities
import Harvest.Proofs.Url.Links

/-!
Which resolved links are read by themselves. The text of a URL that was read is read again if and only if its host is;
so a link that was joined onto its page is resolved to an absolute URL, and a link that was not is if it can be read as
it is.
-/

namespace Harvest.Url

variable {page href text scheme : String} {base u : Url} {a : Authority} {cs tail : List Char}

/-- A part of a URL behind the sign that it starts with. -/
def marked (sign : Char) (part : Option String) : List Char :=
  match part with
  | none => []
  | some s => sign :: s.toList

/-- Query and fragment as they are written. -/
def ending (u : Url) : List Char := marked '?' u.query ++ marked '#' u.fragment

/-- Whether the host of a URL, as it is written, is read as a host. -/
def HostReturns (u : Url) : Prop :=
  hostOf u ≠ "" →
    ∃ host, (if u.family.isSpecial then readDomainHost (hostOf u).toList
      else readOpaqueHost (hostOf u).toList) = .ok host

/-- What is written in front of the path of a URL. -/
def front (u : Url) : List Char :=
  match u.authority with
  | some a => '/' :: '/' :: a.write.toList
  | none => if u.path.startsWith "//" then ['/', '.'] else []

theorem write_eq (u : Url) :
    u.write = String.ofList (u.scheme.toList ++ ':' :: (front u ++ (u.path.toList ++ ending u))) := by
  obtain ⟨scheme, authority, path, query, fragment⟩ := u
  rw [← String.toList_inj]
  cases authority with
  | some a => cases query <;> cases fragment <;> simp [write, front, ending, marked, String.toList_append]
  | none =>
    simp only [write, front]
    split <;> cases query <;> cases fragment <;> simp [ending, marked, String.toList_append]

theorem head?_ending (u : Url) : ∀ c ∈ (ending u).head?, c = '?' ∨ c = '#' := by
  intro c first
  unfold ending at first
  cases query : u.query with
  | some q =>
    rw [query] at first
    exact .inl (Option.some.inj first).symm
  | none =>
    cases fragment : u.fragment with
    | some f =>
      rw [query, fragment] at first
      exact .inr (Option.some.inj first).symm
    | none =>
      rw [query, fragment] at first
      cases first

theorem follows_path (path : ∀ c ∈ u.path.toList.head?, c = '/') : Follows (u.path.toList ++ ending u) := by
  intro c first
  rw [List.head?_append, Option.mem_def, Option.or_eq_some_iff] at first
  rcases first with here | ⟨_, later⟩
  · rw [path c here]
    decide
  · rcases head?_ending u c later with rfl | rfl <;> decide

theorem Follows.trimmed (follows : Follows tail) : Follows (trimmed tail) := by
  cases tail with
  | nil => exact nofun
  | cons c tail =>
    have signs : ∀ c ∈ ['/', '?', '#'], ' ' < c := Text.forall_chars (by decide)
    have printed : ∀ d ∈ [c], ' ' < d := fun d member => List.mem_singleton.1 member ▸ signs c (follows c rfl)
    have whole := trimmed_append printed (List.cons_ne_nil c []) tail
    simp only [List.singleton_append] at whole
    rw [whole]
    exact fun d first => follows d first

theorem isPrefix_trimmed (cs : List Char) : trimmed cs <+: significant cs := by
  have kept : (cs.reverse.dropWhile fun c => decide (c ≤ ' ')).reverse <+: cs := by
    rw [← List.reverse_suffix, List.reverse_reverse]
    exact List.dropWhile_suffix _
  exact kept.filter _

theorem chars_write (known : a.Known scheme) : ∀ c ∈ a.write.toList, ' ' < c ∧ c ∉ authorityEnds := by
  obtain ⟨_, _, user⟩ := known.user
  obtain ⟨_, _, place⟩ := known.place
  obtain ⟨host, _⟩ := readHostAndPort_eq_ok.1 place
  rw [toList_write]
  intro c member
  rcases List.mem_append.1 member with before | port
  · rcases List.mem_append.1 before with userinfo | name
    · split at userinfo
      · cases userinfo
      · rcases List.mem_append.1 userinfo with inside | sign
        · exact chars_of_readUserinfo user c inside
        · rw [List.mem_singleton.1 sign]
          decide
    · obtain ⟨printed, inside, _⟩ := (readHost_ok host).chars c name
      exact ⟨printed, inside⟩
  · obtain ⟨printed, inside, _⟩ := chars_portText a.port c port
    exact ⟨printed, inside⟩

theorem trimmed_front (authority : u.authority = some a) (printed : ∀ c ∈ a.write.toList, ' ' < c) (cs : List Char) :
    trimmed (front u ++ cs) = '/' :: '/' :: (a.write.toList ++ trimmed cs) := by
  have slashes : ∀ c ∈ '/' :: '/' :: a.write.toList, ' ' < c := by
    intro c member
    simp only [List.mem_cons] at member
    rcases member with rfl | rfl | inside
    · decide
    · decide
    · exact printed c inside
  rw [front, authority, trimmed_append slashes (List.cons_ne_nil _ _)]
  rfl

section Hosted

/-- Behind any scheme but that of files, an authority is read past its slashes. -/
theorem afterScheme_slashes (gaps : List Nat) (apart : Family.ofScheme scheme ≠ .file)
    (first : (Family.ofScheme scheme).isSpecial = true → ∃ c rest, cs = c :: rest ∧ isSlash c = false) :
    afterScheme gaps none scheme ('/' :: '/' :: cs) = afterSlashes scheme cs := by
  unfold afterScheme
  split
  · rename_i file
    exact absurd file apart
  · rename_i special
    obtain ⟨c, rest, rfl, no_slash⟩ := first (by rw [special]; rfl)
    have past : ('/' :: '/' :: c :: rest).dropWhile isSlash = c :: rest := by
      rw [List.dropWhile_cons_of_pos rfl, List.dropWhile_cons_of_pos rfl,
        List.dropWhile_cons_of_neg (by simp [no_slash])]
    simp only [past]
  · rfl

theorem host_ne_empty (known : a.Known scheme) (special : (Family.ofScheme scheme).isSpecial = true) :
    a.host ≠ "" := by
  obtain ⟨_, _, place⟩ := known.place
  obtain ⟨host, _⟩ := readHostAndPort_eq_ok.1 place
  rw [readHost, if_pos special] at host
  split at host
  · cases host
  · exact (domainHost_of_read host).ne_empty

theorem readHost_iff_hostReturns (authority : u.authority = some a) (known : a.Known u.scheme) :
    (∃ host, readHost u.scheme a.host.toList = .ok host) ↔ HostReturns u := by
  have host : hostOf u = a.host := by rw [hostOf, authority]
  rw [HostReturns, host, family]
  by_cases special : (Family.ofScheme u.scheme).isSpecial = true
  · have present := host_ne_empty known special
    have nonempty : ¬a.host.toList.isEmpty = true := by simpa using present
    simp [readHost, special, present]
  · by_cases empty : a.host = ""
    · simp only [readHost, if_neg special, empty, ne_eq, not_true, false_implies, iff_true]
      exact ⟨"", rfl⟩
    · simp [readHost, special, empty]

theorem parse_write_hosted (name : IsName u.scheme) (apart : u.family ≠ .file) (authority : u.authority = some a)
    (known : a.Known u.scheme) (path : ∀ c ∈ u.path.toList.head?, c = '/') :
    (∃ v, parse u.write = .ok v) ↔ HostReturns u := by
  obtain ⟨gaps, read⟩ := name.parseWith_eq none (front u ++ (u.path.toList ++ ending u))
  have chars := chars_write known
  have follows := (follows_path path).trimmed
  rw [parse, write_eq, read, trimmed_front authority fun c member => (chars c member).1, afterScheme_slashes gaps apart,
    afterSlashes_again known follows, readHost_iff_hostReturns authority known]
  intro special
  have present : a.write.toList ≠ [] := by
    rw [toList_write]
    simp [host_ne_empty known special]
  obtain ⟨c, rest, starts⟩ := List.exists_cons_of_ne_nil present
  refine ⟨c, _, by rw [starts, List.cons_append], ?_⟩
  have slashes : ∀ c, isSlash c = true → c ∈ authorityEnds := by simp [isSlash, authorityEnds]
  have inside := (chars c (starts ▸ List.mem_cons_self)).2
  simpa using mt (slashes c) inside

end Hosted

section Files

theorem isName_file : IsName "file" := ⟨"file".toList, ⟨⟨'f', _, rfl, rfl⟩, Text.forall_chars (by decide)⟩, rfl⟩

theorem IsHost.not_drive (isHost : IsHost cs) : isDriveLetter cs = false := by
  cases isHost with
  | name free =>
    rcases cs with _ | ⟨c, _ | ⟨d, _ | ⟨e, cs⟩⟩⟩
    any_goals rfl
    have other := (free d (by simp)).2
    simp only [hostSigns, List.mem_cons, List.not_mem_nil, or_false, not_or] at other
    simp [isDriveLetter, other]
  | @address cs => rcases cs with _ | ⟨c, _ | ⟨d, cs⟩⟩ <;> rfl

theorem readFileHost_again {host : String} (isHost : IsHost host.toList) (follows : Follows tail) :
    (∃ read, readFileHost (host.toList ++ tail) = .ok read) ↔
      (host ≠ "" → ∃ found, readDomainHost host.toList = .ok found) := by
  have name : (host.toList ++ tail).takeWhile (fun c => !isSlash c && c ≠ '?' && c ≠ '#') = host.toList := by
    refine takeWhile_append_follows (fun c member => ?_) fun c first => ?_
    · have inside := (isHost.chars c member).2.1
      simp only [authorityEnds, List.mem_cons, List.not_mem_nil, or_false, not_or] at inside
      simp [isSlash, inside]
    · have ends : ∀ c ∈ ['/', '?', '#'], (!isSlash c && c ≠ '?' && c ≠ '#') = false := Text.forall_chars (by decide)
      exact ends c (follows c first)
  simp only [readFileHost, name, isHost.not_drive, Bool.false_eq_true, if_false]
  by_cases empty : host = ""
  · subst empty
    exact iff_of_true ⟨_, rfl⟩ fun present => absurd rfl present
  · have present : ¬host.toList.isEmpty = true := by simpa using empty
    simp only [if_neg present]
    constructor
    · rintro ⟨_, read⟩ _
      obtain ⟨found, read, _⟩ := bind_eq_ok.1 read
      exact ⟨found, read⟩
    · intro found
      obtain ⟨found, read⟩ := found empty
      exact ⟨_, bind_eq_ok.2 ⟨found, read, rfl⟩⟩

theorem readFile_slashes (gaps : List Nat) (cs : List Char) :
    (∃ v, readFile gaps none ('/' :: '/' :: cs) = .ok v) ↔ ∃ read, readFileHost cs = .ok read := by
  constructor
  · rintro ⟨v, read⟩
    obtain ⟨place, host, _⟩ := bind_eq_ok.1 read
    exact ⟨place, host⟩
  · rintro ⟨place, host⟩
    exact ⟨_, bind_eq_ok.2 ⟨place, host, rfl⟩⟩

theorem parse_write_file {host : String} (file : u.scheme = "file") (authority : u.authority = some ⟨"", host, none⟩)
    (known : host = "" ∨ ∃ cs, readDomainHost cs = .ok host) (path : ∀ c ∈ u.path.toList.head?, c = '/') :
    (∃ v, parse u.write = .ok v) ↔ HostReturns u := by
  obtain ⟨gaps, read⟩ := isName_file.parseWith_eq none (front u ++ (u.path.toList ++ ending u))
  have isHost : IsHost host.toList := by
    rcases known with rfl | ⟨cs, read⟩
    · exact .name nofun
    · exact (domainHost_of_read read).isHost
  have text : (Authority.write ⟨"", host, none⟩).toList = host.toList := by simp [toList_write, portText]
  have whole := trimmed_front authority (fun c member => (isHost.chars c (text ▸ member)).1) (u.path.toList ++ ending u)
  have here : hostOf u = host := by rw [hostOf, authority]
  have special : u.family.isSpecial = true := by rw [family, file]; rfl
  rw [parse, write_eq, file, read, whole, text, HostReturns, here, if_pos special,
    ← readFileHost_again isHost (follows_path path).trimmed]
  exact readFile_slashes gaps _

end Files

section Placeless

theorem readOther_ok (no_slashes : ¬['/', '/'] <+: cs) : ∃ v, readOther scheme cs = .ok v := by
  unfold readOther
  split
  · exact absurd (List.prefix_append ['/', '/'] _) no_slashes
  · exact ⟨_, rfl⟩
  · exact ⟨_, rfl⟩

theorem head?_significant_ending (u : Url) : ∀ c ∈ (significant (ending u)).head?, c ≠ '/' := by
  have signs := head?_ending u
  cases whole : ending u with
  | nil => exact nofun
  | cons d rest =>
    rw [whole] at signs
    have kept : (!isLeftOut d) = true := by rcases signs d rfl with rfl | rfl <;> rfl
    rw [significant, List.filter_cons_of_pos (p := fun c => !isLeftOut c) kept]
    rintro c ⟨⟩ rfl
    rcases signs '/' rfl with sign | sign <;> cases sign

theorem parse_write_placeless (name : IsName u.scheme) (other : u.family = .other) (authority : u.authority = none)
    (kept : Kept u.path.toList) : ∃ v, parse u.write = .ok v := by
  obtain ⟨gaps, read⟩ := name.parseWith_eq none (front u ++ (u.path.toList ++ ending u))
  have kind : Family.ofScheme u.scheme = .other := other
  rw [parse, write_eq, read]
  simp only [afterScheme, kind]
  apply readOther_ok
  by_cases slashes : u.path.startsWith "//" = true
  · have apart : front u = ['/', '.'] := by simp [front, authority, slashes]
    rw [apart, trimmed_append (Text.forall_chars (by decide)) (List.cons_ne_nil _ _)]
    simp
  · have alone : front u = [] := by simp [front, authority, slashes]
    rw [alone, List.nil_append]
    intro found
    have whole := found.trans (isPrefix_trimmed (u.path.toList ++ ending u))
    rw [significant, List.filter_append, List.filter_eq_self.2 fun c member => by simp [kept c member]] at whole
    have behind := head?_significant_ending u
    rw [String.startsWith_string_iff] at slashes
    obtain ⟨more, same⟩ := whole
    rcases path : u.path.toList with _ | ⟨c, _ | ⟨d, rest⟩⟩
    · rw [path, List.nil_append] at same
      exact behind '/' (List.head?_eq_some_iff.2 ⟨_, same.symm⟩) rfl
    · rw [path] at same
      exact behind '/' (List.head?_eq_some_iff.2 ⟨_, (List.cons.inj same).2.symm⟩) rfl
    · rw [path] at same slashes
      obtain ⟨rfl, later⟩ := List.cons.inj same
      obtain ⟨rfl, _⟩ := List.cons.inj later
      exact slashes (List.prefix_append ['/', '/'] rest)

end Placeless

/-- The text of a URL that was read is read again if and only if its host is. -/
theorem parse_write_iff (sound : Sound u) : (∃ v, parse u.write = .ok v) ↔ HostReturns u := by
  cases sound with
  | hosted name apart authority known path _ => exact parse_write_hosted name apart authority known path
  | file file authority known path => exact parse_write_file file authority known path
  | placeless name other authority kept =>
    have nowhere : hostOf u = "" := by rw [hostOf, authority]
    exact iff_of_true (parse_write_placeless name other authority kept) (absurd nowhere)

/-- A host is read again, unless it is a domain with a marked label. -/
theorem Sound.hostReturns (sound : Sound u) (unmarked : IsUnmarked ((hostOf u).toList.map Char.toLower)) :
    HostReturns u := by
  cases sound with
  | @hosted a _ _ authority known =>
    obtain ⟨_, _, place⟩ := known.place
    obtain ⟨host, _⟩ := readHostAndPort_eq_ok.1 place
    have here : hostOf u = a.host := by rw [hostOf, authority]
    rw [here] at unmarked
    rw [HostReturns, here]
    intro _
    unfold readHost at host
    split at host
    · rename_i special
      rw [family, if_pos special]
      split at host
      · cases host
      · exact (domainHost_of_read host).again unmarked
    · rename_i other
      rw [family, if_neg other]
      exact ⟨_, (readOpaqueHost_again host).1⟩
  | @file host file authority known =>
    have here : hostOf u = host := by rw [hostOf, authority]
    have special : u.family.isSpecial = true := by rw [family, file]; rfl
    rw [here] at unmarked
    rw [HostReturns, here, if_pos special]
    intro present
    obtain ⟨cs, read⟩ := known.resolve_left present
    exact (domainHost_of_read read).again unmarked
  | placeless _ _ authority =>
    have nowhere : hostOf u = "" := by rw [hostOf, authority]
    exact absurd nowhere

/-- Whether a link of a page of the web is resolved to a text that is read by itself: one that is kept, if it is read
by itself; one with two slashes, if it means a URL on its page; and any other, if the host of the URL that it is joined
to is read again. -/
def ReadsAlone (base : Url) (href : String) : Prop :=
  if href.startsWith "http" then ∃ v, parse href = .ok v
  else if href.startsWith "//" then ∃ v, joinPastSlashes base href = .ok v
  else ∀ u, join base href = .ok u → HostReturns u

/-- What a link is resolved to is an absolute URL if and only if the link allows it. A link that is joined onto its
page does, unless it leads to a domain with a marked label. -/
theorem parse_resolved_iff (read : parse page = .ok base) (web : base.scheme = "http" ∨ base.scheme = "https")
    (resolved : resolve page href = .ok text) :
    ((∃ v, parse text = .ok v) ↔ ReadsAlone base href) ∧
      (¬href.startsWith "http" → ¬href.startsWith "//" →
        (∀ u, join base href = .ok u → IsUnmarked ((hostOf u).toList.map Char.toLower)) → ∃ v, parse text = .ok v) := by
  have is_web := isWeb_of_parse read web
  have joined (no_http : ¬href.startsWith "http" = true) (no_slashes : ¬href.startsWith "//" = true) :
      ∃ u, join base href = .ok u ∧ ((∃ v, parse text = .ok v) ↔ HostReturns u) := by
    obtain ⟨u, join_eq, rfl⟩ := resolve_joined read no_http no_slashes resolved
    exact ⟨u, join_eq, parse_write_iff (is_web.sound_join join_eq)⟩
  constructor
  · unfold ReadsAlone
    by_cases http : href.startsWith "http" = true
    · rw [resolve_http http] at resolved
      cases resolved
      rw [if_pos http]
    · rw [if_neg http]
      by_cases slashes : href.startsWith "//" = true
      · obtain ⟨rest, text⟩ := exists_of_schemeless slashes
        rw [resolve_schemeless read text] at resolved
        cases resolved
        rw [if_pos slashes, is_web.parse_with_scheme text]
      · obtain ⟨u, join_eq, alone⟩ := joined http slashes
        rw [if_neg slashes, alone, join_eq]
        simp only [Except.ok.injEq, forall_eq']
  · intro no_http no_slashes unmarked
    obtain ⟨u, join_eq, alone⟩ := joined no_http no_slashes
    exact alone.2 ((is_web.sound_join join_eq).hostReturns (unmarked u join_eq))

theorem parse_resolved_above : ∃ v, parse "https://example.com/about" = .ok v := by
  have no_http : ¬"../about".startsWith "http" = true := by
    rw [String.startsWith_string_iff]
    decide
  have no_slashes : ¬"../about".startsWith "//" = true := by
    rw [String.startsWith_string_iff]
    decide
  have joined : join examplePage "../about" =
      .ok ⟨"https", some ⟨"", "example.com", none⟩, "/about", none, none⟩ := rfl
  have resolved : resolve "https://example.com/news/list.html" "../about" = .ok "https://example.com/about" := by
    rw [resolve, if_neg no_http, parse_examplePage]
    simp only [if_neg no_slashes, joined]
    rfl
  refine (parse_resolved_iff parse_examplePage (.inr rfl) resolved).2 no_http no_slashes ?_
  intro u join_eq
  rw [joined] at join_eq
  cases join_eq
  decide

/-- A relative link that starts with the letters of a scheme is resolved to itself, which is no absolute URL. -/
theorem resolved_relative :
    parse "https://example.com/news/list.html" = .ok examplePage ∧ examplePage.scheme = "https" ∧
      resolve "https://example.com/news/list.html" "httpfoo" = .ok "httpfoo" ∧ (¬∃ v, parse "httpfoo" = .ok v) ∧
      join examplePage "httpfoo" = .ok ⟨"https", some ⟨"", "example.com", none⟩, "/news/httpfoo", none, none⟩ := by
  have http : "httpfoo".startsWith "http" = true := by
    rw [String.startsWith_string_iff]
    decide
  have unread : parse "httpfoo" = .error .relativeWithoutBase := rfl
  refine ⟨parse_examplePage, rfl, resolve_http http, ?_, rfl⟩
  rintro ⟨v, read⟩
  rw [unread] at read
  cases read

end Harvest.Url
