import Harvest.Proofs.Url.Authorities
import Harvest.Url.Resolve

/-!
Links that start with two slashes. With the scheme of the page in front, such a link is read by itself as the URL that
it means on the page. Main statement: whenever joining it onto the page gives a URL, the text that it is resolved to is
read as this URL.
-/

namespace Harvest.Url

variable {page href text : String} {base u : Url} {rest : List Char}

/-- The URL that a link with two slashes at its start means on a page of the web, by the standard: however many slashes
of either kind there are, the authority begins behind them. -/
def joinPastSlashes (base : Url) (href : String) : Except Error Url :=
  afterSlashes base.scheme ((significant (withoutOuterSpace href)).dropWhile isSlash)

theorem isWeb_of_parse (read : parse page = .ok base) (web : base.scheme = "http" ∨ base.scheme = "https") :
    IsWeb base := by
  refine ⟨sound_parse read, ?_⟩
  rcases web with http | https
  · rw [Url.family, http]
    rfl
  · rw [Url.family, https]
    rfl

theorem exists_of_schemeless (schemeless : href.startsWith "//" = true) : ∃ rest, href.toList = '/' :: '/' :: rest := by
  obtain ⟨rest, whole⟩ := String.startsWith_string_iff.1 schemeless
  exact ⟨rest, whole.symm⟩

theorem significant_schemeless (slashes : href.toList = '/' :: '/' :: rest) :
    significant (withoutOuterSpace href) = '/' :: '/' :: trimmed rest := by
  have printed : ∀ c ∈ ['/', '/'], ' ' < c := Text.forall_chars (by decide)
  have whole := trimmed_append printed (List.cons_ne_nil _ _) rest
  rw [← String.ofList_toList (s := href), slashes, inner_eq_trimmed fun c first => by cases first; decide]
  exact whole

theorem joinPastSlashes_schemeless (slashes : href.toList = '/' :: '/' :: rest) :
    joinPastSlashes base href = afterSlashes base.scheme ((trimmed rest).dropWhile isSlash) := by
  rw [joinPastSlashes, significant_schemeless slashes]
  rfl

namespace IsWeb

variable (web : IsWeb base)
include web

theorem name : IsName base.scheme := by
  obtain ⟨a, _, name, _⟩ := web.hosted
  exact name

theorem isSpecial : (Family.ofScheme base.scheme).isSpecial = true := by
  rw [← Url.family, web.special]
  rfl

/-- A link with two slashes at its start is joined by its authority, in front of which there is no third slash. -/
theorem join_schemeless (slashes : href.toList = '/' :: '/' :: rest) :
    join base href = afterSlashes base.scheme (trimmed rest) := by
  simp only [join, parseWith, significant_schemeless slashes, readScheme_of_slash, afterNoScheme,
    web.isOpaque_eq_false, web.special, List.head?_cons]
  rfl

/-- With its scheme a link is read past all slashes. -/
theorem parse_with_scheme (slashes : href.toList = '/' :: '/' :: rest) :
    parse (base.scheme ++ ":" ++ href) = joinPastSlashes base href := by
  have text : base.scheme ++ ":" ++ href = String.ofList (base.scheme.toList ++ ':' :: '/' :: '/' :: rest) := by
    rw [← String.toList_inj]
    simp [slashes]
  have printed : ∀ c ∈ ['/', '/'], ' ' < c := Text.forall_chars (by decide)
  have whole := trimmed_append printed (List.cons_ne_nil _ _) rest
  obtain ⟨gaps, read⟩ := web.name.parseWith_eq none ('/' :: '/' :: rest)
  rw [parse, text, read, joinPastSlashes_schemeless slashes]
  simp only [List.cons_append, List.nil_append] at whole
  have special : Family.ofScheme base.scheme = .special := web.special
  simp only [afterScheme, special, whole]
  rfl

/-- A join that succeeds is past all slashes. -/
theorem joinPastSlashes_of_join (slashes : href.toList = '/' :: '/' :: rest) (joined : join base href = .ok u) :
    joinPastSlashes base href = .ok u := by
  rw [web.join_schemeless slashes] at joined
  rw [joinPastSlashes_schemeless slashes]
  cases inner : trimmed rest with
  | nil =>
    rw [inner] at joined
    exact joined
  | cons c more =>
    rw [inner] at joined
    by_cases slash : isSlash c = true
    · rw [afterSlashes_slash web.isSpecial slash] at joined
      cases joined
    · rwa [List.dropWhile_cons_of_neg slash]

end IsWeb

theorem resolve_http (absolute : href.startsWith "http" = true) : resolve page href = .ok href := if_pos absolute

theorem resolve_joined (read : parse page = .ok base) (no_http : ¬href.startsWith "http" = true)
    (no_slashes : ¬href.startsWith "//" = true) (resolved : resolve page href = .ok text) :
    ∃ u, join base href = .ok u ∧ text = u.write := by
  rw [resolve, if_neg no_http, read] at resolved
  simp only [if_neg no_slashes] at resolved
  split at resolved
  · cases resolved
  · rename_i u joined
    cases resolved
    exact ⟨u, joined, rfl⟩

theorem resolve_schemeless (read : parse page = .ok base) (slashes : href.toList = '/' :: '/' :: rest) :
    resolve page href = .ok (base.scheme ++ ":" ++ href) := by
  have not_http : ¬href.startsWith "http" = true := by
    rw [String.startsWith_string_iff, slashes]
    simp
  have schemeless : href.startsWith "//" = true := by
    rw [String.startsWith_string_iff, slashes]
    exact List.prefix_append ['/', '/'] rest
  rw [resolve, if_neg not_http, read]
  simp only [schemeless, if_true]

/-- A page of the web. -/
def examplePage : Url := ⟨"https", some ⟨"", "example.com", none⟩, "/news/list.html", none, none⟩

theorem parse_examplePage : parse "https://example.com/news/list.html" = .ok examplePage := by
  have place : readHostAndPort "https" "example.com/news/list.html".toList =
      .ok ("example.com", none, "/news/list.html".toList) :=
    readHostAndPort_domain rfl rfl (by decide) (by decide) (by decide) (by decide) rfl
  have read : afterSlashes "https" "example.com/news/list.html".toList = .ok examplePage :=
    afterSlashes_eq_ok.2 ⟨"", _, _, _, _, rfl, place, by simp, rfl⟩
  exact parse_eq_ok.2 ⟨"https", _, rfl, read⟩

theorem join_examplePage : join examplePage "//u:p@CDN.example.com:8080/a/../img.png" =
    .ok ⟨"https", some ⟨"u:p", "cdn.example.com", some 8080⟩, "/img.png", none, none⟩ := by
  have place : readHostAndPort "https" "CDN.example.com:8080/a/../img.png".toList =
      .ok ("cdn.example.com", some 8080, "/a/../img.png".toList) :=
    readHostAndPort_domain rfl rfl (by decide) (by decide) (by decide) (by decide) rfl
  exact afterSlashes_eq_ok.2 ⟨"u:p", _, _, _, _, rfl, place, by simp, rfl⟩

/-- A link that starts with two slashes is resolved to a text that by itself is read as what the link means on the
page: the URL that joining gives, if it gives one, and the URL or the error of the standard in any case. -/
theorem parse_resolved_eq_join (read : parse page = .ok base) (web : base.scheme = "http" ∨ base.scheme = "https")
    (schemeless : href.startsWith "//" = true) :
    ∃ text, resolve page href = .ok text ∧ (∀ u, join base href = .ok u → parse text = .ok u) ∧
      parse text = joinPastSlashes base href := by
  have is_web := isWeb_of_parse read web
  obtain ⟨rest, slashes⟩ := exists_of_schemeless schemeless
  have past := is_web.parse_with_scheme slashes
  refine ⟨_, resolve_schemeless read slashes, ?_, past⟩
  intro u joined
  rw [past]
  exact is_web.joinPastSlashes_of_join slashes joined

theorem parse_resolved_with_user : ∃ text,
    resolve "https://example.com/news/list.html" "//u:p@CDN.example.com:8080/a/../img.png" = .ok text ∧
      parse text = .ok ⟨"https", some ⟨"u:p", "cdn.example.com", some 8080⟩, "/img.png", none, none⟩ := by
  have schemeless : "//u:p@CDN.example.com:8080/a/../img.png".startsWith "//" = true := by
    rw [String.startsWith_string_iff]
    exact List.prefix_append ['/', '/'] _
  obtain ⟨text, resolved, joined, _⟩ := parse_resolved_eq_join parse_examplePage (.inr rfl) schemeless
  exact ⟨text, resolved, joined _ join_examplePage⟩

end Harvest.Url
