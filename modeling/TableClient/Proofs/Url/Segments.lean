import Mathlib.Data.List.TakeWhile
import TableClient.Proofs.Url.Percent

/-!
# Dot Segments

Dot segments worked out on the text of a path, and on its segments.

`removeDotSegments` goes through the text of a path from its front. It moves one
segment after the other behind those it has moved before, with the slash in
front of it; a segment of one dot it drops, and for a segment of two dots it
takes the last segment back that it moved. It looks at nothing but dots that are
written as such. `removeDots` is how an address is read: it has the segments cut
apart already, takes escaped dots for dots, and leaves drives and their breaks
alone.

Both are told here by what one segment does, and from that by what a run of
segments does that nothing is special about: they go through as they are, and
what follows them is worked out behind them.

## Main definitions

* `removeDotSegments`: The text of a path without dot segments.
* `Clean`, `Plain`: Segments that can be told in an address, and those among
  them that are kept.

## Theorems

* `removeDotSegmentsFrom_cons`: What one segment does to a text.
* `removeDotSegmentsFrom_append`: Segments without dots stay in a text.
* `removeDotsFrom_append`: Plain segments stay when an address is read.
* `removeDotSegmentsFrom_dot`, `removeDotSegmentsFrom_doubleDot`,
  `removeDotsFrom_dot`, `removeDotsFrom_doubleDot`: What dot segments do.
* `split_segments`: The text of segments is cut into these segments.
* `plain_encode`: Encoded texts are plain, but for the texts of dots.
-/

namespace TableClient

namespace Url

/-! ### Dot segments in a text -/

/-- A text up to its first slash. -/
def firstSegment (text : List Char) : List Char :=
  text.takeWhile (· != '/')

/-- A text from its first slash on. -/
def behindFirst (text : List Char) : List Char :=
  text.dropWhile (· != '/')

/-- A text without its last slash and what follows it. -/
def withoutLast (text : List Char) : List Char :=
  (text.reverse.dropWhile (· != '/')).tail.reverse

/-- What is left of a path where a segment was dropped in front of a text. At the
    end of the path it is a slash. -/
def closed (text : List Char) : List Char :=
  if text = [] then ['/'] else text

theorem length_behindFirst_le (text : List Char) : (behindFirst text).length ≤ text.length :=
  (List.dropWhile_sublist _).length_le

theorem length_closed_behindFirst_le {text : List Char} {c : Char} {rest : List Char}
    (h : firstSegment text = c :: rest) : (closed (behindFirst text)).length ≤ text.length := by
  unfold closed
  split
  · cases text with
    | nil => cases h
    | cons _ _ => simp
  · exact length_behindFirst_le text

/-- The text of a path without dot segments, behind what was moved from its front
    so far. A path that starts without a slash loses the dot segments it starts
    with. -/
def removeDotSegmentsFrom (moved : List Char) : List Char → List Char
  | [] => moved
  | '/' :: text =>
    if firstSegment text = ['.'] then removeDotSegmentsFrom moved (closed (behindFirst text))
    else if firstSegment text = ['.', '.'] then
      removeDotSegmentsFrom (withoutLast moved) (closed (behindFirst text))
    else removeDotSegmentsFrom (moved ++ '/' :: firstSegment text) (behindFirst text)
  | c :: text =>
    -- Only the front of a whole path can be without a slash.
    if c :: firstSegment text = ['.'] ∨ c :: firstSegment text = ['.', '.'] then
      removeDotSegmentsFrom moved ((behindFirst text).drop 1)
    else removeDotSegmentsFrom (moved ++ c :: firstSegment text) (behindFirst text)
termination_by text => text.length
decreasing_by
  · have hle := length_closed_behindFirst_le ‹firstSegment text = ['.']›
    exact Nat.lt_succ_of_le hle
  · have hle := length_closed_behindFirst_le ‹firstSegment text = ['.', '.']›
    exact Nat.lt_succ_of_le hle
  · exact Nat.lt_succ_of_le (length_behindFirst_le text)
  · have hle := length_behindFirst_le text
    rw [List.length_drop, List.length_cons]
    omega
  · exact Nat.lt_succ_of_le (length_behindFirst_le text)

/-- The text of a path without dot segments. -/
def removeDotSegments (text : List Char) : List Char :=
  removeDotSegmentsFrom [] text

/-! ### Segments of a text -/

/-- The text of segments has a slash where what stands in front of it ends. -/
theorem takeWhile_append_segments {p : Char → Bool} (hslash : p '/' = false) {front : List Char}
    (h : ∀ c ∈ front, p c = true) (rest : List (List Char)) :
    (front ++ (Path.segments rest).text).takeWhile p = front := by
  rw [List.takeWhile_append_of_pos h]
  cases rest <;> simp [Path.text, hslash]

theorem dropWhile_append_segments {p : Char → Bool} (hslash : p '/' = false) {front : List Char}
    (h : ∀ c ∈ front, p c = true) (rest : List (List Char)) :
    (front ++ (Path.segments rest).text).dropWhile p = (Path.segments rest).text := by
  rw [List.dropWhile_append_of_pos h]
  cases rest <;> simp [Path.text, hslash]

theorem ne_slash {segment : List Char} (h : '/' ∉ segment) :
    ∀ c ∈ segment, (c != '/') = true := by
  intro c hc
  exact bne_iff_ne.2 fun heq => h (heq ▸ hc)

/-- The last segment of a text is the one it was put behind. -/
theorem withoutLast_append {segment : List Char} (h : '/' ∉ segment) (text : List Char) :
    withoutLast (text ++ '/' :: segment) = text := by
  have hback : '/' ∉ segment.reverse := mt List.mem_reverse.1 h
  rw [withoutLast, List.reverse_append, List.reverse_cons, List.append_assoc,
    List.dropWhile_append_of_pos (ne_slash hback)]
  simp

/-- What one segment does to the text of a path. -/
theorem removeDotSegmentsFrom_cons {segment : List Char} (h : '/' ∉ segment)
    (moved : List Char) (rest : List (List Char)) :
    removeDotSegmentsFrom moved (Path.segments (segment :: rest)).text
      = if segment = ['.'] then removeDotSegmentsFrom moved (closed (Path.segments rest).text)
        else if segment = ['.', '.'] then
          removeDotSegmentsFrom (withoutLast moved) (closed (Path.segments rest).text)
        else removeDotSegmentsFrom (moved ++ '/' :: segment) (Path.segments rest).text := by
  have hfirst : firstSegment (segment ++ (Path.segments rest).text) = segment :=
    takeWhile_append_segments rfl (ne_slash h) rest
  have hbehind : behindFirst (segment ++ (Path.segments rest).text) = (Path.segments rest).text :=
    dropWhile_append_segments rfl (ne_slash h) rest
  rw [Path.text_cons, removeDotSegmentsFrom, hfirst, hbehind]

/-- A segment that is no dot segment of a text. -/
def Written (segment : List Char) : Prop :=
  '/' ∉ segment ∧ segment ≠ ['.'] ∧ segment ≠ ['.', '.']

/-- A segment without dots is moved as it is. -/
theorem removeDotSegmentsFrom_written {segment : List Char} (h : Written segment)
    (moved : List Char) (rest : List (List Char)) :
    removeDotSegmentsFrom moved (Path.segments (segment :: rest)).text
      = removeDotSegmentsFrom (moved ++ '/' :: segment) (Path.segments rest).text := by
  obtain ⟨hslash, hdot, hdoubleDot⟩ := h
  rw [removeDotSegmentsFrom_cons hslash, if_neg hdot, if_neg hdoubleDot]

/-- Segments without dots stay as they are, and what follows them is worked out
    behind them. -/
theorem removeDotSegmentsFrom_append {segments : List (List Char)}
    (h : ∀ segment ∈ segments, Written segment) (moved : List Char) (rest : List (List Char)) :
    removeDotSegmentsFrom moved (Path.segments (segments ++ rest)).text
      = removeDotSegmentsFrom (moved ++ (Path.segments segments).text)
          (Path.segments rest).text := by
  induction segments generalizing moved with
  | nil => rw [List.nil_append, Path.text_nil, List.append_nil]
  | cons segment behind ih =>
      obtain ⟨hwritten, hbehind⟩ := List.forall_mem_cons.1 h
      rw [List.cons_append, removeDotSegmentsFrom_written hwritten, ih hbehind, Path.text_cons,
        List.append_assoc, List.cons_append]

/-- A path without dot segments stays as it is. -/
theorem removeDotSegmentsFrom_eq_append {segments : List (List Char)}
    (h : ∀ segment ∈ segments, Written segment) (moved : List Char) :
    removeDotSegmentsFrom moved (Path.segments segments).text
      = moved ++ (Path.segments segments).text := by
  have hend : ∀ moved, removeDotSegmentsFrom moved (Path.segments []).text = moved := by
    intro moved
    rw [Path.text_nil, removeDotSegmentsFrom]
  have hall := removeDotSegmentsFrom_append h moved []
  rwa [List.append_nil, hend] at hall

example : removeDotSegments "/a/b/c/./../../g".toList = "/a/g".toList := by cbv

/-- A segment of one dot goes, if it is not the last one. -/
theorem removeDotSegmentsFrom_dot (moved : List Char) (segment : List Char)
    (rest : List (List Char)) :
    removeDotSegmentsFrom moved (Path.segments (['.'] :: segment :: rest)).text
      = removeDotSegmentsFrom moved (Path.segments (segment :: rest)).text := by
  have hslash : '/' ∉ ['.'] := by decide
  rw [removeDotSegmentsFrom_cons hslash, if_pos rfl]
  rfl

/-- A segment of two dots goes, if it is not the last one, and takes the segment in
    front of it along. -/
theorem removeDotSegmentsFrom_doubleDot (moved : List Char) {last : List Char}
    (hlast : '/' ∉ last) (segment : List Char) (rest : List (List Char)) :
    removeDotSegmentsFrom (moved ++ '/' :: last)
        (Path.segments (['.', '.'] :: segment :: rest)).text
      = removeDotSegmentsFrom moved (Path.segments (segment :: rest)).text := by
  have hslash : '/' ∉ ['.', '.'] := by decide
  have hdots : ¬['.', '.'] = ['.'] := by decide
  -- A segment follows, so nothing is closed.
  rw [removeDotSegmentsFrom_cons hslash, if_neg hdots, if_pos rfl, withoutLast_append hlast]
  rfl

/-! ### Segments of an address -/

/-- A text that may stand in a segment of an address as it is: there is nothing
    in it that ends a segment or a path, or that does not count. -/
def Clean (segment : List Char) : Prop :=
  ∀ c ∈ segment, 0x20 < c.toNat ∧ c ∉ ['/', '\\', '?', '#']

instance (segment : List Char) : Decidable (Clean segment) :=
  List.decidableBAll (fun c : Char => 0x20 < c.toNat ∧ c ∉ ['/', '\\', '?', '#']) segment

/-- A segment that stands for itself. -/
structure Plain (segment : List Char) : Prop where
  clean : Clean segment
  not_dot : isDot segment = false
  not_doubleDot : isDoubleDot segment = false

theorem Clean.slash_not_mem {segment : List Char} (h : Clean segment) : '/' ∉ segment :=
  fun hc => (h '/' hc).2 (by decide)

theorem isBreak_eq_false {c : Char} (h : 0x20 < c.toNat) : isBreak c = false := by
  simp only [isBreak, Bool.or_eq_false_iff, beq_eq_false_iff_ne]
  refine ⟨⟨?_, ?_⟩, ?_⟩ <;> rintro rfl <;> exact absurd h (by decide)

/-- A text without blanks has no breaks to lose. -/
theorem unbroken_eq_self {text : List Char} (h : ∀ c ∈ text, 0x20 < c.toNat) :
    unbroken text = text := by
  rw [unbroken, List.filter_eq_self]
  intro c hc
  rw [isBreak_eq_false (h c hc), Bool.not_false]

theorem Clean.brokenDrive?_eq_none {segment : List Char} (h : Clean segment) :
    brokenDrive? segment = none := by
  unfold brokenDrive?
  split
  · have hbreak := isBreak_eq_false (h '\n' (by simp)).1
    exact absurd hbreak (by decide)
  · rfl

/-- A plain segment is one segment of a text, and no dot segment. -/
theorem Plain.written {segment : List Char} (h : Plain segment) : Written segment := by
  refine ⟨h.clean.slash_not_mem, ?_, ?_⟩
  · rintro rfl
    exact absurd h.not_dot (by decide)
  · rintro rfl
    exact absurd h.not_doubleDot (by decide)

/-- A plain segment stays when an address is read. -/
theorem removeDotsFrom_cons {segment : List Char} (h : Plain segment)
    (kept rest : List (List Char)) :
    removeDotsFrom kept (segment :: rest) = removeDotsFrom (segment :: kept) rest := by
  -- A drive that ends at a break would need the break.
  have hdrive : (if kept.isEmpty then brokenDrive? segment else none) = none := by
    rw [h.clean.brokenDrive?_eq_none, ite_self]
  rw [removeDotsFrom, if_neg (by rw [h.not_doubleDot]; decide),
    if_neg (by rw [h.not_dot]; decide)]
  simp only [hdrive, Option.getD_none, unbroken_eq_self fun c hc => (h.clean c hc).1]

/-- Plain segments stay when an address is read, and what follows them is worked
    out behind them. -/
theorem removeDotsFrom_append {segments : List (List Char)}
    (h : ∀ segment ∈ segments, Plain segment) (kept rest : List (List Char)) :
    removeDotsFrom kept (segments ++ rest) = removeDotsFrom (segments.reverse ++ kept) rest := by
  induction segments generalizing kept with
  | nil => rfl
  | cons segment behind ih =>
      obtain ⟨hplain, hbehind⟩ := List.forall_mem_cons.1 h
      rw [List.cons_append, removeDotsFrom_cons hplain, ih hbehind, List.reverse_cons,
        List.append_assoc, List.singleton_append]

/-- Plain segments are kept as they are. -/
theorem removeDotsFrom_eq_append {segments : List (List Char)}
    (h : ∀ segment ∈ segments, Plain segment) (kept : List (List Char)) :
    removeDotsFrom kept segments = kept.reverse ++ segments := by
  have hall := removeDotsFrom_append h kept []
  rwa [List.append_nil, removeDotsFrom, List.reverse_append, List.reverse_reverse] at hall

/-- A segment of one dot goes, if it is not the last one. -/
theorem removeDotsFrom_dot (kept : List (List Char)) (segment : List Char)
    (rest : List (List Char)) :
    removeDotsFrom kept (['.'] :: segment :: rest) = removeDotsFrom kept (segment :: rest) := by
  have hdot : isDoubleDot ['.'] = false ∧ isDot ['.'] = true := by decide
  rw [removeDotsFrom.eq_2 kept ['.']]
  simp [hdot]

/-- A segment of two dots goes, if it is not the last one, and takes the segment in
    front of it along, if that is no drive. -/
theorem removeDotsFrom_doubleDot (kept : List (List Char)) {last : List Char}
    (hdrive : startsWithDrive last = false) (segment : List Char) (rest : List (List Char)) :
    removeDotsFrom (last :: kept) (['.', '.'] :: segment :: rest)
      = removeDotsFrom kept (segment :: rest) := by
  have hdots : isDoubleDot ['.', '.'] = true := by decide
  rw [removeDotsFrom.eq_2 (last :: kept) ['.', '.']]
  simp [above, hdots, hdrive]

/-- The text of segments is cut into these segments. -/
theorem split_segments {isMark : Char → Bool} (hmark : isMark '/' = true)
    {segment : List Char} {rest : List (List Char)}
    (h : ∀ piece ∈ segment :: rest, ∀ c ∈ piece, isMark c = false) :
    Text.split isMark (segment ++ (Path.segments rest).text) = segment :: rest := by
  induction rest generalizing segment with
  | nil => rw [Path.text_nil, List.append_nil, Text.split_eq_singleton (h segment List.mem_cons_self)]
  | cons second rest ih =>
      obtain ⟨hfirst, hbehind⟩ := List.forall_mem_cons.1 h
      rw [Path.text_cons, Text.split_append_cons hfirst hmark, ih hbehind]

/-- Nothing in an encoded text ends a segment or a path. -/
theorem clean_encode (text : String) : Clean (encode text).toList := by
  intro c hc
  exact ⟨(visible_of_mem_encode hc).1, not_mem_marks (by decide) hc⟩

/-- An encoded text is plain, unless it is a text of dots. -/
theorem plain_encode {text : String} (hdot : text ≠ ".") (hdots : text ≠ "..") :
    Plain (encode text).toList where
  clean := clean_encode text
  not_dot := Bool.eq_false_iff.2 (mt isDot_encode_iff.1 hdot)
  not_doubleDot := Bool.eq_false_iff.2 (mt isDoubleDot_encode_iff.1 hdots)

/-- A text of characters that mean themselves is plain as it is, unless it is a text
    of dots. -/
theorem plain_of_literal {text : String} (h : Literal text.toList)
    (hdot : text ≠ ".") (hdoubleDot : text ≠ "..") : Plain text.toList := by
  have hplain := plain_encode hdot hdoubleDot
  rwa [encode_eq_self h] at hplain

end Url

end TableClient
