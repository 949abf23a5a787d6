import TableClient.Proofs.Url.Segments
import TableClient.Url.Address

/-!
# Addresses on a Site

What a path adds to an address that names a host.

In front of a path stand a scheme, two slashes and a host, perhaps with the
number of a port behind it. All of that is read up to the first slash of the
path, and nothing in the path is looked at. So an address with a path can be
read if and only if the address without it can, and then the two differ in their
paths alone: `ofText?_append`. The path is that of the segments in the text,
their dots removed.

## Main definitions

* `NamesHost`: A text that can stand between two slashes and a path.

## Theorems

* `pathOf_segments`: The path that the text of segments spells.
* `cutBehindHost_append`: Cutting a text behind its host loses nothing.
* `ofAuthority?_append`, `ofText?_append`: A path in segments changes nothing but
  the path of an address.
-/

namespace TableClient

namespace Url

/-- A text that can stand between the two slashes of an address and its path, and
    that names no user. -/
structure NamesHost (host : List Char) : Prop where
  ne_nil : host ≠ []
  clean : Clean host
  no_user : '@' ∉ host

namespace Address

/-! ### Where the parts of an address end -/

/-- Nothing in a text that may stand as it is ends the front of an address. -/
theorem endsAuthority_eq_false {text : List Char} (h : Clean text) :
    ∀ c ∈ text, endsAuthority .web c = false := by
  intro c hc
  have hend := (h c hc).2
  simp only [List.mem_cons, List.not_mem_nil, or_false, not_or] at hend
  simp [endsAuthority, isSlash, hend]

theorem isSlash_eq_false {text : List Char} (h : Clean text) :
    ∀ c ∈ text, isSlash .web c = false := by
  intro c hc
  have hend := endsAuthority_eq_false h c hc
  simp only [endsAuthority, Bool.or_eq_false_iff] at hend
  exact hend.1.1

/-- Nothing in the segments of a text ends its path. -/
theorem endsPath_eq_false {segments : List (List Char)} (h : ∀ segment ∈ segments, Clean segment) :
    ∀ c ∈ (Path.segments segments).text, endsPath c = false := by
  intro c hc
  obtain ⟨segment, hsegment, hc⟩ := List.mem_flatMap.1 hc
  rcases List.mem_cons.1 hc with rfl | hc
  · rfl
  · have hend := (h segment hsegment c hc).2
    simp only [List.mem_cons, List.not_mem_nil, or_false, not_or] at hend
    simp [endsPath, hend]

/-- Everything in the text of segments counts. -/
theorem visible_of_mem_text {segments : List (List Char)}
    (h : ∀ segment ∈ segments, Clean segment) :
    ∀ c ∈ (Path.segments segments).text, 0x20 < c.toNat := by
  intro c hc
  obtain ⟨segment, hsegment, hc⟩ := List.mem_flatMap.1 hc
  rcases List.mem_cons.1 hc with rfl | hc
  · decide
  · exact (h segment hsegment c hc).1

/-- The path that the text of segments spells has these segments, without the
    dot segments among them. -/
theorem pathOf_segments {segments : List (List Char)} (hne : segments ≠ [])
    (h : ∀ segment ∈ segments, Clean segment) :
    pathOf .web (Path.segments segments).text
      = .segments ((removeDots segments).map encodeSegment) := by
  obtain ⟨first, rest, rfl⟩ := List.exists_cons_of_ne_nil hne
  have hmark : isSlash .web '/' = true := rfl
  have hpieces : ∀ piece ∈ first :: rest, ∀ c ∈ piece, isSlash .web c = false :=
    fun piece hpiece => isSlash_eq_false (h piece hpiece)
  rw [Path.text_cons, pathOf, if_pos hmark, Path.ofSegments, split_segments hmark hpieces]

/-! ### The front of an address -/

/-- A text without the sign that ends a user has none. -/
theorem cutAtUser_eq_none {text : List Char} (h : '@' ∉ text) : cutAtUser text = none := by
  have hback : text.reverse.dropWhile (· != '@') = [] := by
    rw [List.dropWhile_eq_nil_iff]
    intro c hc
    exact bne_iff_ne.2 fun heq => h (List.mem_reverse.1 (heq ▸ hc))
  rw [cutAtUser, hback]

/-- Cutting a text behind its host loses nothing of it. -/
theorem cutBehindHost_append (inBrackets : Bool) (text : List Char) :
    (cutBehindHost inBrackets text).1 ++ (cutBehindHost inBrackets text).2 = text := by
  induction text generalizing inBrackets with
  | nil => rfl
  | cons c rest ih =>
      rw [cutBehindHost]
      split
      · rfl
      · exact congrArg (c :: ·) (ih _)

/-- Nothing but a backslash can follow the number of a port. -/
theorem portNumber?_rest {usual number : Option Nat} {text rest : List Char}
    (h : portNumber? usual text = some (number, rest)) (hback : '\\' ∉ text) : rest = [] := by
  cases text with
  | nil =>
      rw [portNumber?, Option.some.injEq, Prod.mk.injEq] at h
      exact h.2.symm
  | cons c text =>
      rw [portNumber?] at h
      obtain ⟨value, -, h⟩ := Option.bind_eq_some_iff.1 h
      split at h
      · cases h
      · next haccepted =>
          rw [Option.some.injEq, Prod.mk.injEq] at h
          by_contra hne
          obtain ⟨d, behind, hbehind⟩ := List.exists_cons_of_ne_nil (h.2 ▸ hne)
          have hd : d ∈ text :=
            (List.dropWhile_sublist _).mem (hbehind ▸ List.mem_cons_self)
          have hmark : d = '\\' := by
            simp only [hbehind, List.head?_cons, Option.all_some, Bool.or_eq_true,
              Bool.not_eq_true', not_or, Bool.not_eq_false, beq_iff_eq] at haccepted
            exact haccepted.2
          exact hback (List.mem_cons_of_mem c (hmark ▸ hd))

/-- What stands behind a host changes the path of an address only. -/
theorem ofAuthority?_append {host : List Char} (hhost : NamesHost host)
    {segments : List (List Char)} (h : ∀ segment ∈ segments, Clean segment) :
    ofAuthority? "https" (host ++ (Path.segments segments).text)
      = (ofAuthority? "https" host).map fun site =>
          { site with path := pathOf .web (Path.segments segments).text } := by
  have hfront : ∀ c ∈ host, (!endsAuthority .web c) = true := by
    intro c hc
    rw [endsAuthority_eq_false hhost.clean c hc, Bool.not_false]
  have hpath : ∀ c ∈ (Path.segments segments).text, (!endsPath c) = true := by
    intro c hc
    rw [endsPath_eq_false h c hc, Bool.not_false]
  have hat : (host == ['@']) = false := by
    rw [beq_eq_false_iff_ne]
    rintro rfl
    exact hhost.no_user (by decide)
  have hback : '\\' ∉ (cutBehindHost false host).2 := by
    intro hmem
    rw [← cutBehindHost_append false host] at hhost
    exact (hhost.clean '\\' (List.mem_append_right _ hmem)).2 (by decide)
  have hkind : schemeKind "https" = .web := rfl
  have hnobody : (User.ofText [] == User.nobody) = true := by decide
  -- The front is the host, with a path behind it and without one.
  unfold ofAuthority?
  simp only [hkind, takeWhile_append_segments rfl hfront, dropWhile_append_segments rfl hfront,
    List.takeWhile_eq_self_iff.2 hfront, List.dropWhile_eq_nil_iff.2 hfront,
    List.takeWhile_eq_self_iff.2 hpath, List.dropWhile_eq_nil_iff.2 hpath,
    cutAtUser_eq_none hhost.no_user, Option.getD_none, hat, hnobody, Bool.false_and,
    Bool.true_and, beq_self_eq_true, if_true, Bool.false_eq_true, if_false, List.takeWhile_nil,
    List.dropWhile_nil]
  cases Host.ofName? (cutBehindHost false host).1 with
  | none => rfl
  | some named =>
      by_cases hnameless : ((cutBehindHost false host).1.isEmpty
          && !(cutBehindHost false host).2.isEmpty) = true
      · simp [hnameless]
      · cases hport : portNumber? (usualPortNumber? "https") (cutBehindHost false host).2 with
        | none => simp [hnameless]
        | some found =>
            -- Nothing is left of the front behind the port, so the path is all.
            obtain ⟨number, behind⟩ := found
            obtain rfl := portNumber?_rest hport hback
            simp [hnameless]

/-! ### Whole addresses -/

/-- A text without blanks counts as it is. -/
theorem core_eq_self {text : List Char} (h : ∀ c ∈ text, 0x20 < c.toNat) : core text = text := by
  have hedge : ∀ text : List Char, (∀ c ∈ text, 0x20 < c.toNat) →
      text.dropWhile (fun c => decide (c.toNat ≤ 0x20)) = text := by
    intro text hvisible
    cases text with
    | nil => rfl
    | cons c rest =>
        have hc := hvisible c List.mem_cons_self
        rw [List.dropWhile_cons_of_neg]
        simpa using hc
  have hback : ∀ c ∈ text.reverse, 0x20 < c.toNat := fun c hc => h c (List.mem_reverse.1 hc)
  rw [core, hedge text h, hedge text.reverse hback, List.reverse_reverse]

/-- An address of the web is read behind its slashes. -/
theorem ofText?_https {behind : List Char} (h : ∀ c ∈ behind, 0x20 < c.toNat)
    (hfirst : ∀ c ∈ behind.head?, isSlash .web c = false) :
    ofText? (.ofList ("https://".toList ++ behind)) = ofAuthority? "https" behind := by
  have hvisible : ∀ c ∈ "https://".toList ++ behind, 0x20 < c.toNat := by
    intro c hc
    rcases List.mem_append.1 hc with hscheme | hc
    · have hclean : ("https://".toList.all fun c => 0x20 < c.toNat) = true := by decide
      exact of_decide_eq_true (List.all_eq_true.1 hclean c hscheme)
    · exact h c hc
  have hscheme : scheme? ("https://".toList ++ behind) = some ("https", "//".toList ++ behind) := by
    rfl
  have hkind : schemeKind "https" = .web := rfl
  have hslashes : ("//".toList ++ behind).dropWhile (isSlash .web) = behind := by
    have htext : "//".toList ++ behind = '/' :: '/' :: behind := rfl
    rw [htext, List.dropWhile_cons_of_pos rfl, List.dropWhile_cons_of_pos rfl]
    cases behind with
    | nil => rfl
    | cons c rest =>
        have hc := hfirst c rfl
        rw [List.dropWhile_cons_of_neg]
        rw [hc]
        decide
  rw [ofText?, String.toList_ofList, core_eq_self hvisible, unbroken_eq_self hvisible, hscheme]
  simp only [Option.bind_eq_bind, Option.bind_some, hkind, hslashes]

/-- A path in segments changes the path of an address only. -/
theorem ofText?_append {host : List Char} (hhost : NamesHost host)
    {segments : List (List Char)} (h : ∀ segment ∈ segments, Clean segment) :
    ofText? (.ofList ("https://".toList ++ (host ++ (Path.segments segments).text)))
      = (ofText? (.ofList ("https://".toList ++ host))).map fun site =>
          { site with path := pathOf .web (Path.segments segments).text } := by
  have hvisible : ∀ c ∈ host, 0x20 < c.toNat := fun c hc => (hhost.clean c hc).1
  have hwhole : ∀ c ∈ host ++ (Path.segments segments).text, 0x20 < c.toNat := by
    intro c hc
    exact (List.mem_append.1 hc).elim (hvisible c) (visible_of_mem_text h c)
  have hfirst : ∀ c ∈ host.head?, isSlash .web c = false := fun c hc =>
    isSlash_eq_false hhost.clean c (List.mem_of_mem_head? hc)
  have hbehind : ∀ c ∈ (host ++ (Path.segments segments).text).head?, isSlash .web c = false := by
    rw [List.head?_append_of_ne_nil _ hhost.ne_nil]
    exact hfirst
  rw [ofText?_https hwhole hbehind, ofText?_https hvisible hfirst, ofAuthority?_append hhost h]

end Address

/-! ### Paths as they are written -/

/-- The path of an address as it is written: what stands behind the two slashes and
    the host, up to a question mark or a number sign. -/
def writtenPath (url : String) : List Char :=
  (((url.toList.dropWhile (· != ':')).drop "://".length).dropWhile (· != '/')).takeWhile
    fun c => !Address.endsPath c

/-- The path that is written behind a host is what stands there. -/
theorem writtenPath_append {host : List Char} (hhost : NamesHost host)
    {segments : List (List Char)} (h : ∀ segment ∈ segments, Clean segment) :
    writtenPath (.ofList ("https://".toList ++ (host ++ (Path.segments segments).text)))
      = (Path.segments segments).text := by
  have hbehind : ∀ text : List Char,
      (("https://".toList ++ text).dropWhile (· != ':')).drop "://".length = text := fun _ => rfl
  have hpath : ∀ c ∈ (Path.segments segments).text, (!Address.endsPath c) = true := by
    intro c hc
    rw [Address.endsPath_eq_false h c hc, Bool.not_false]
  rw [writtenPath, String.toList_ofList, hbehind,
    dropWhile_append_segments rfl (ne_slash hhost.clean.slash_not_mem),
    List.takeWhile_eq_self_iff.2 hpath]

end Url

end TableClient
