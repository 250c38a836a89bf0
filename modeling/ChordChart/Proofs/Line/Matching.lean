/-
  File:      ChordChart/Proofs/Line/Matching.lean
  Subject:   A line searched for chords.

  A search needs a place where a word begins or ends; a reader needs one where no word is going on.
  Where a root letter stands this is the same, and nowhere else does a chord begin.

  * `Grammar.matchAt?`: the search at one place of a line.
  * **`Grammar.matchAt?_longest`**: what it takes at a root letter is the longest text of the
    grammar, and what one pass takes that gives nothing back.
  * **`Line.searched_eq_spans`**: the line searched from left to right, a match that runs on into a
    word left out, has the spans of the line.
-/
import ChordChart.Proofs.Chord.Searching
import ChordChart.Proofs.Line.Places
import ChordChart.Proofs.Text.Layouts

namespace ChordChart

/-! ## 1. At one place -/

/-- Whether a word begins or ends between two texts. -/
def Text.isBoundary (front back : List Char) : Bool :=
  front.getLast?.any isWordChar != back.head?.any isWordChar

theorem Letter.isWordChar_of_ofChar? {c : Char} (hc : (Letter.ofChar? c).isSome) :
    Text.isWordChar c = true := by
  obtain ⟨letter, hletter⟩ := Option.isSome_iff_exists.mp hc
  rw [← Letter.char_of_ofChar? hletter]
  cases letter <;> decide

namespace Grammar

/-- What a match at the head of `text` leaves of it, in a line in which `front` stands before. -/
def matchAt? (front text : List Char) : Option (List Char) :=
  if Text.isBoundary front text then chord.search text else none

/-- **A match begins where a chord can be read and no word leads up to it.** -/
theorem matchAt?_eq (front text : List Char) :
    matchAt? front text
      = if Line.endsInWord front then none else (Chord.read? text).map Prod.snd := by
  rw [matchAt?, search_chord]
  cases hread : Chord.read? text with
  | none => simp
  | some found =>
    cases text with
    | nil => cases hread
    | cons c tail =>
      have hletter : (Letter.ofChar? c).isSome := by
        rw [Option.isSome_iff_ne_none]
        intro hc
        rw [Chord.read?_eq_none_iff.mpr hc] at hread
        cases hread
      have hboundary : Text.isBoundary front (c :: tail) = !Line.endsInWord front := by
        simp [Text.isBoundary, Line.endsInWord, Letter.isWordChar_of_ofChar? hletter]
      rw [hboundary]
      cases Line.endsInWord front <;> rfl

/-- **At a root letter before which a word begins, the search takes the longest text of the
    grammar.**  It is what the scan takes that keeps to its first choices, and what is read. -/
theorem matchAt?_longest {front tail : List Char} {c : Char}
    (hletter : ('A' ≤ c && c ≤ 'G') = true)
    (hboundary : Text.isBoundary front (c :: tail) = true) :
    ∃ symbol rest, matchAt? front (c :: tail) = some rest ∧ c :: tail = symbol ++ rest ∧
      chord.Matches symbol ∧
      (∀ longer, longer <+: c :: tail → chord.Matches longer → longer.length ≤ symbol.length) ∧
      chord.commit (c :: tail) = some rest ∧
      (Chord.read? (c :: tail)).map (fun r => (r.1.text, r.2)) = some (symbol, rest) := by
  rw [← Letter.isSome_ofChar?] at hletter
  cases hread : Chord.read? (c :: tail) with
  | none =>
    rw [Chord.read?_eq_none_iff.mp hread] at hletter
    cases hletter
  | some found =>
    obtain ⟨symbol, rest⟩ := found
    refine ⟨symbol.text, rest, ?_, (Chord.text_append_of_read? hread).symm,
      Chord.matches_of_read? hread, ?_, ?_, rfl⟩
    · rw [matchAt?, if_pos hboundary, search_chord, hread]
      rfl
    · intro longer hprefix hmatches
      exact (Chord.prefix_of_read? hread hmatches hprefix).length_le
    · rw [commit_chord, hread]
      rfl

/-- What stands behind the root letter of a chord with every group, up to the end of a line. -/
def allGroups : List Char := "bmaj7sus4add9b5#11/F#m7、é".toList

theorem matchAt?_longest_allGroups :
    ('A' ≤ 'B' && 'B' ≤ 'G') = true ∧
    Text.isBoundary "été ♪".toList ('B' :: allGroups) = true ∧
    ∃ symbol rest, matchAt? "été ♪".toList ('B' :: allGroups) = some rest ∧
      'B' :: allGroups = symbol ++ rest ∧ chord.Matches symbol ∧
      (∀ longer, longer <+: 'B' :: allGroups → chord.Matches longer →
        longer.length ≤ symbol.length) ∧
      chord.commit ('B' :: allGroups) = some rest ∧
      (Chord.read? ('B' :: allGroups)).map (fun r => (r.1.text, r.2)) = some (symbol, rest) :=
  have hletter : ('A' ≤ 'B' && 'B' ≤ 'G') = true := by decide
  have hboundary : Text.isBoundary "été ♪".toList ('B' :: allGroups) = true := by decide +kernel
  ⟨hletter, hboundary, matchAt?_longest hletter hboundary⟩

theorem length_lt_of_matchAt? {front text rest : List Char} (h : matchAt? front text = some rest) :
    rest.length < text.length := by
  rw [matchAt?_eq] at h
  split at h
  · cases h
  · obtain ⟨⟨symbol, rest⟩, hread, rfl⟩ := Option.map_eq_some_iff.mp h
    exact Chord.length_lt_of_read? hread

end Grammar

/-! ## 2. From left to right -/

namespace Line

/-- The spans of a text behind `front`, searched from left to right: a match counts if no word goes
    on behind it, and the search goes on at its end. -/
def searched (front text : List Char) : List Span :=
  match text with
  | [] => []
  | c :: rest =>
    match h : Grammar.matchAt? front (c :: rest) with
    | none => searched (front ++ [c]) rest
    | some after =>
      have : after.length < rest.length + 1 := Grammar.length_lt_of_matchAt? h
      let found := Text.taken (c :: rest) after
      (if runsOn after then [] else [Span.ofText found (Text.byteSize front)])
        ++ searched (front ++ found) after
termination_by text.length

theorem searched_of_none {front rest : List Char} {c : Char}
    (h : Grammar.matchAt? front (c :: rest) = none) :
    searched front (c :: rest) = searched (front ++ [c]) rest := by
  rw [searched]
  split
  · rfl
  · next after hsome =>
    rw [h] at hsome
    cases hsome

theorem searched_of_read? {front text after : List Char} {symbol : Chord}
    (hfront : endsInWord front = false) (h : Chord.read? text = some (symbol, after)) :
    searched front text
      = (if runsOn after then [] else [Span.ofText symbol.text (Text.byteSize front)])
        ++ searched (front ++ symbol.text) after := by
  have hmatch : Grammar.matchAt? front text = some after := by
    rw [Grammar.matchAt?_eq, hfront, h]
    rfl
  have hfound : Text.taken text after = symbol.text := by
    rw [← Chord.text_append_of_read? h, Text.taken_append]
  cases text with
  | nil => cases h
  | cons c rest =>
    rw [searched]
    split
    · next hnone =>
      rw [hmatch] at hnone
      cases hnone
    · next after' hsome =>
      rw [hmatch] at hsome
      cases hsome
      rw [hfound]

theorem endsInWord_append {s : List Char} (h : s ≠ []) (front : List Char) :
    endsInWord (front ++ s) = endsInWord s := by
  rw [endsInWord, endsInWord, List.getLast?_append_of_ne_nil front h]

/-- The search goes on where the cut goes on. -/
theorem searched_eq_spansFrom (front text : List Char) :
    searched front text = spansFrom (Text.byteSize front) (cut (endsInWord front) text) := by
  generalize hword : endsInWord front = inWord
  fun_induction cut inWord text generalizing front with
  | case1 => rw [searched, spansFrom]
  | case2 c rest ih =>
    have hnone : Grammar.matchAt? front (c :: rest) = none := by
      rw [Grammar.matchAt?_eq, hword, if_pos rfl]
    rw [searched_of_none hnone, ih (front ++ [c]) (by simp [endsInWord]), spansFrom,
      Text.byteSize_append]
  | case3 inWord c rest _ hread ih =>
    have hnone : Grammar.matchAt? front (c :: rest) = none := by
      rw [Grammar.matchAt?_eq, hread, Option.map_none, ite_self]
    rw [searched_of_none hnone, ih (front ++ [c]) (by simp [endsInWord]), spansFrom,
      Text.byteSize_append]
  | case4 inWord c rest hnot symbol after hread _ ih =>
    rw [searched_of_read? (hword.trans (Bool.eq_false_iff.mpr hnot)) hread,
      ih (front ++ symbol.text) (endsInWord_append symbol.text_ne_nil front), Text.byteSize_append]
    split <;> rfl

/-- **The spans of a line are what the search finds from left to right.** -/
theorem searched_eq_spans (line : List Char) : searched [] line = spans line :=
  searched_eq_spansFrom [] line

end Line

end ChordChart
