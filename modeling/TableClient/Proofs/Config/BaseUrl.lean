import TableClient.Client
import TableClient.Proofs.Text.Trim

/-!
# Base Addresses

What an address keeps of its scheme when it loses the slashes it ends with.

A base address is taken if it starts with a scheme of the web and two slashes.
Then the slashes at its end go. Where there is anything between the two, the
scheme and its slashes stay, and so does every address that is made from the
base. Where there is nothing, the slashes behind the scheme are also those at
the end: they go too, and what is left is the scheme and its colon.
`startsHttp_iff_not_bareScheme` says that this is the only case.

## Main definitions

* `StartsHttp`: A text starts as the addresses of the web do.
* `BareScheme`: A scheme of the web and slashes, and nothing behind them.

## Theorems

* `isHttp_iff`: Which addresses are taken.
* `withoutTrailingSlashes_eq_iff`: What is left of a text without the slashes at
  its end.
* `startsHttp_iff_not_bareScheme`: When the scheme stays.
* `startsHttp_endpoint_iff`: The addresses of tables start as their base does.
-/

namespace TableClient

namespace Config

/-- A text starts with a scheme of the web and two slashes. -/
def StartsHttp (url : String) : Prop :=
  "http://".toList <+: url.toList ∨ "https://".toList <+: url.toList

instance (url : String) : Decidable (StartsHttp url) :=
  inferInstanceAs (Decidable (_ ∨ _))

/-- A text is a scheme of the web with slashes behind its colon, two at least,
    and nothing else. -/
def BareScheme (url : String) : Prop :=
  ∃ scheme ∈ ["http:", "https:"], ∃ n, 2 ≤ n ∧
    url.toList = scheme.toList ++ List.replicate n '/'

theorem isHttp_iff {url : String} : isHttp url = true ↔ StartsHttp url := by
  simp only [isHttp, StartsHttp, Bool.or_eq_true, List.isPrefixOf_iff_prefix]

/-- A text that starts as the addresses of the web do, cut behind the colon. -/
theorem startsHttp_iff {url : String} :
    StartsHttp url ↔
      ∃ scheme ∈ ["http:", "https:"], ∃ rest, url.toList = scheme.toList ++ '/' :: '/' :: rest := by
  constructor
  · rintro (⟨rest, h⟩ | ⟨rest, h⟩)
    · exact ⟨"http:", by simp, rest, h.symm⟩
    · exact ⟨"https:", by simp, rest, h.symm⟩
  · rintro ⟨scheme, hscheme, rest, h⟩
    simp only [List.mem_cons, List.not_mem_nil, or_false] at hscheme
    rcases hscheme with rfl | rfl
    · exact .inl ⟨rest, h.symm⟩
    · exact .inr ⟨rest, h.symm⟩

/-- A bare scheme starts as the addresses of the web do. -/
theorem startsHttp_of_bareScheme {url : String} (h : BareScheme url) : StartsHttp url := by
  rcases h with ⟨scheme, hscheme, n, hn, hurl⟩
  refine startsHttp_iff.2 ⟨scheme, hscheme, List.replicate (n - 2) '/', ?_⟩
  have hslashes : List.replicate n '/' = '/' :: '/' :: List.replicate (n - 2) '/' := by
    rw [← List.replicate_succ, ← List.replicate_succ]
    congr
    omega
  rw [hurl, hslashes]

/-- An address of the web is not blank. -/
theorem trim_ne_empty_of_startsHttp {url : String} (h : StartsHttp url) : Text.trim url ≠ "" := by
  intro hblank
  have hall : ∀ c ∈ url.toList, Text.isBlank c = true :=
    List.all_eq_true.1 (Text.trim_eq_empty_iff.1 hblank)
  have hmem : 'h' ∈ url.toList := by
    rcases h with hprefix | hprefix
    · exact hprefix.subset (by decide)
    · exact hprefix.subset (by decide)
  exact absurd (hall 'h' hmem) (by decide)

/-! ### Slashes at the end -/

/-- What is left of a text without the slashes at its end: the text is that with
    some slashes, and it does not end with one. -/
theorem withoutTrailingSlashes_eq_iff {url base : String} :
    withoutTrailingSlashes url = base ↔
      (∃ n, url.toList = base.toList ++ List.replicate n '/') ∧
        base.toList.getLast? ≠ some '/' := by
  have hlist : withoutTrailingSlashes url = base ↔
      url.toList.rdropWhile (· == '/') = base.toList := by
    rw [← String.toList_inj, withoutTrailingSlashes, String.toList_ofList]
    rfl
  have hlast : (∀ c ∈ base.toList.getLast?, (c == '/') = false) ↔
      base.toList.getLast? ≠ some '/' := by
    cases base.toList.getLast? <;> simp
  rw [hlist, Text.rdropWhile_eq_iff, hlast]
  constructor
  · rintro ⟨back, hurl, hback, hend⟩
    have hslashes : back = List.replicate back.length '/' :=
      List.eq_replicate_iff.2 ⟨rfl, fun c hc => by simpa using hback c hc⟩
    exact ⟨⟨back.length, hslashes ▸ hurl⟩, hend⟩
  · rintro ⟨⟨n, hurl⟩, hend⟩
    refine ⟨List.replicate n '/', hurl, fun c hc => ?_, hend⟩
    simpa using List.eq_of_mem_replicate hc

/-- Nothing but the scheme is left of a bare one. -/
theorem withoutTrailingSlashes_of_bareScheme {url : String} (h : BareScheme url) :
    ∃ scheme ∈ ["http:", "https:"], withoutTrailingSlashes url = scheme := by
  rcases h with ⟨scheme, hscheme, n, -, hurl⟩
  refine ⟨scheme, hscheme, withoutTrailingSlashes_eq_iff.2 ⟨⟨n, hurl⟩, ?_⟩⟩
  simp only [List.mem_cons, List.not_mem_nil, or_false] at hscheme
  rcases hscheme with rfl | rfl <;> decide

/-- The scheme and its slashes stay in front of anything that is not a slash. -/
theorem startsHttp_of_not_bareScheme {url : String} (hstart : StartsHttp url)
    (hbare : ¬BareScheme url) : StartsHttp (withoutTrailingSlashes url) := by
  rcases startsHttp_iff.1 hstart with ⟨scheme, hscheme, rest, hurl⟩
  rcases Text.rdropWhile_eq_iff.1 (rfl : rest.rdropWhile (· == '/') = _) with
    ⟨back, hrest, hback, hend⟩
  have hslashes : back = List.replicate back.length '/' :=
    List.eq_replicate_iff.2 ⟨rfl, fun c hc => by simpa using hback c hc⟩
  by_cases hkept : rest.rdropWhile (· == '/') = []
  · -- Only slashes stand behind those of the scheme, so the scheme is bare.
    refine absurd ⟨scheme, hscheme, back.length + 2, by omega, ?_⟩ hbare
    rw [hkept, List.nil_append] at hrest
    rw [hurl, List.replicate_succ, List.replicate_succ, ← hslashes, hrest]
  · refine startsHttp_iff.2 ⟨scheme, hscheme, rest.rdropWhile (· == '/'), ?_⟩
    have hbase : withoutTrailingSlashes url
        = .ofList (scheme.toList ++ '/' :: '/' :: rest.rdropWhile (· == '/')) := by
      refine withoutTrailingSlashes_eq_iff.2 ⟨⟨back.length, ?_⟩, ?_⟩
      · rw [String.toList_ofList, ← hslashes, List.append_assoc, List.cons_append,
          List.cons_append, ← hrest, hurl]
      · -- The end of the text is the end of what is left behind the slashes.
        intro hlast
        rw [String.toList_ofList, List.getLast?_append_of_ne_nil _ (List.cons_ne_nil _ _),
          List.getLast?_cons_cons, List.getLast?_cons_of_ne_nil hkept] at hlast
        have hnot := hend '/' hlast
        simp at hnot
    rw [hbase, String.toList_ofList]

/-- A scheme with its colon is not the start of an address of the web. -/
theorem not_startsHttp_scheme {scheme : String} (h : scheme ∈ ["http:", "https:"]) :
    ¬StartsHttp scheme := by
  simp only [List.mem_cons, List.not_mem_nil, or_false] at h
  rcases h with rfl | rfl <;> decide

/-- An address that is taken keeps its scheme if and only if there is something
    else in it. -/
theorem startsHttp_iff_not_bareScheme {url : String} (hstart : StartsHttp url) :
    StartsHttp (withoutTrailingSlashes url) ↔ ¬BareScheme url := by
  refine ⟨fun h hbare => ?_, startsHttp_of_not_bareScheme hstart⟩
  rcases withoutTrailingSlashes_of_bareScheme hbare with ⟨scheme, hscheme, heq⟩
  exact not_startsHttp_scheme hscheme (heq ▸ h)

/-! ### Addresses made from a base -/

theorem toList_endpoint (config : Config) (table : String) :
    (Client.endpoint config table).toList
      = config.baseUrl.toList ++ ("/apps/".toList ++ config.appId.toList ++ "/tables/".toList
        ++ (Url.encode table).toList ++ "/Action".toList) := by
  simp only [Client.endpoint, String.toList_append, List.append_assoc]

/-- The addresses of tables start as the addresses of the web do if their base
    does. A scheme without its slashes gets them from no table. -/
theorem startsHttp_endpoint_iff {config : Config}
    (h : StartsHttp config.baseUrl ∨ config.baseUrl ∈ ["http:", "https:"]) (table : String) :
    StartsHttp (Client.endpoint config table) ↔ StartsHttp config.baseUrl := by
  rcases h with hstart | hscheme
  · refine iff_of_true ?_ hstart
    rw [StartsHttp, toList_endpoint]
    exact hstart.imp (fun h => h.trans (List.prefix_append _ _))
      (fun h => h.trans (List.prefix_append _ _))
  · refine iff_of_false ?_ (not_startsHttp_scheme hscheme)
    -- Behind the colon stands a slash, and behind that a letter.
    rw [StartsHttp, toList_endpoint]
    simp only [List.mem_cons, List.not_mem_nil, or_false] at hscheme
    rcases hscheme with hscheme | hscheme <;> rw [hscheme] <;> simp

end Config

end TableClient
