/-
  File:      ChordChart/Proofs/Chord/Searching.lean
  Subject:   The search for a chord takes what the reader takes.

  The pattern of a chord leaves the search many choices -- a sign for the root or for an alteration,
  digits with a fragment or by themselves, a slash with or without a bass -- but none that it could
  regret (`Grammar.isCommitted_chord`).  So each group of the pattern leaves what its reader leaves.

  * `Grammar.commit_root`, `Grammar.commit_quality`, `Grammar.commit_part`, `Grammar.commit_chord`:
    the groups, from the sign of the root to the whole chord.
  * **`Grammar.search_chord`**: the search for a chord leaves what the reader leaves.
-/
import ChordChart.Proofs.Chord.Longest
import ChordChart.Proofs.Text.Searching
import ChordChart.Text.Word

namespace ChordChart

open Text (Pattern)
open Text.Pattern

/-! ## 1. Roots -/

/-- The letters of the grammar are those of the reader. -/
theorem Letter.isSome_ofChar? (c : Char) : (Letter.ofChar? c).isSome = ('A' ≤ c && c ≤ 'G') := by
  cases hc : Letter.ofChar? c with
  | some letter =>
    rw [← Letter.char_of_ofChar? hc, letter.accepts_char]
    rfl
  | none =>
    refine (Bool.eq_false_iff.mpr fun haccepts => ?_).symm
    obtain ⟨letter, rfl⟩ := Letter.exists_of_accepts haccepts
    rw [Letter.ofChar?_char] at hc
    cases hc

theorem Accidental.isSome_ofChar? (c : Char) :
    (Accidental.ofChar? c).isSome = Quality.isSign c := by
  cases hc : Accidental.ofChar? c with
  | none => exact (Accidental.isSign_of_ofChar? hc).symm
  | some accidental =>
    refine (eq_true_of_ne_false fun hsign => ?_).symm
    rw [Accidental.ofChar?_eq_none hsign] at hc
    cases hc

/-- What a note leaves: the sign behind the letter goes with it. -/
theorem Note.rest_of_read? {c : Char} (hc : (Letter.ofChar? c).isSome) (s : Char)
    (rest : List Char) :
    (Note.read? (c :: s :: rest)).map Prod.snd
      = some (if Quality.isSign s then rest else s :: rest) := by
  obtain ⟨letter, hletter⟩ := Option.isSome_iff_exists.mp hc
  rw [← Accidental.isSome_ofChar?]
  cases hs : Accidental.ofChar? s <;> simp [Note.read?, hletter, hs]

namespace Grammar

theorem contains_sign (c : Char) : ['b', '#'].contains c = Quality.isSign c := by
  rw [Bool.eq_iff_iff, Quality.isSign_iff, List.contains_iff_mem]
  simp [or_comm]

/-- **The root that the search takes is the one that is read.** -/
theorem commit_root (text : List Char) : root.commit text = (Note.read? text).map Prod.snd := by
  cases text with
  | nil => rfl
  | cons c rest =>
    rw [root, commit, commit, ← Letter.isSome_ofChar?]
    cases hc : Letter.ofChar? c with
    | none => simp [Note.read?, hc]
    | some letter =>
      have hsome : (Letter.ofChar? c).isSome = true := by rw [hc]; rfl
      show (Pattern.optional sign).commit rest = _
      cases rest with
      | nil => simp [Note.read?, hc, commit, sign, oneOf]
      | cons s rest =>
        rw [sign, oneOf, commit_optional_char, contains_sign, Note.rest_of_read? hsome]

/-! ## 2. Qualities -/

theorem commit_marker (text : List Char) :
    (Pattern.optional (oneOf ['m', 'M'])).commit text = some (Quality.takeMarker text).2 := by
  fun_cases Quality.takeMarker text with
  | case1 rest => rfl
  | case2 rest => rfl
  | case3 _ hm hM =>
    cases text with
    | nil => rfl
    | cons c rest =>
      have hnot : ¬ ['m', 'M'].contains c = true := by
        simp only [List.contains_iff_mem, List.mem_cons, List.not_mem_nil, or_false, not_or]
        exact ⟨fun h => hm rest (h ▸ rfl), fun h => hM rest (h ▸ rfl)⟩
      rw [oneOf, commit_optional_char, if_neg hnot]

theorem commit_fragments (text : List Char) :
    (Pattern.many fragment).commit text = some (Quality.takeFragments text).2 := by
  refine commit_many rfl rfl Quality.takeFragments_append Quality.matches_takeFragments ?_ text
  intro text rest h
  rw [← search_eq_commit rfl] at h
  obtain ⟨s, rfl, hs⟩ := eq_append_of_search h
  rw [Quality.takeFragments_of_fragment hs]
  rfl

/-- Where no digit stands it does not matter whether an alteration was begun. -/
theorem takeAlterations_of_no_digit {text : List Char} (h : digit.commit text = none)
    (inside : Bool) : Quality.takeAlterations inside text = Quality.takeAlterations false text := by
  cases text with
  | nil => rfl
  | cons c rest =>
    have hc : c.isDigit = false := by
      refine Bool.eq_false_iff.mpr fun hdigit => ?_
      rw [digit, commit, if_pos hdigit] at h
      cases h
    cases rest <;> simp [Quality.takeAlterations, hc]

theorem matches_takeAlterations (text : List Char) :
    (Pattern.many alteration).Matches (Quality.takeAlterations false text).1 := by
  obtain ⟨digits, others, heq, -, hothers, hdigits⟩ := Quality.matches_takeAlterations false text
  rw [heq, hdigits rfl]
  exact hothers

/-- All digits of an alteration are taken. -/
theorem commit_digit_of_alteration {text rest : List Char}
    (h : alteration.commit text = some rest) : digit.commit rest = none := by
  obtain ⟨_, -, hnumber⟩ := Option.bind_eq_some_iff.mp h
  obtain ⟨_, -, hdigits⟩ := Option.bind_eq_some_iff.mp hnumber
  exact commit_eq_none_of_many rfl rfl hdigits

theorem commit_alterations (text : List Char) :
    (Pattern.many alteration).commit text = some (Quality.takeAlterations false text).2 := by
  refine commit_many rfl rfl (Quality.takeAlterations_append false) matches_takeAlterations ?_ text
  intro text rest h
  have hstop := commit_digit_of_alteration h
  rw [← search_eq_commit rfl] at h
  obtain ⟨s, rfl, hs⟩ := eq_append_of_search h
  rw [Quality.takeAlterations_of_alteration hs, takeAlterations_of_no_digit hstop]
  rfl

/-- **The quality that the search takes is the one that is read.** -/
theorem commit_quality (text : List Char) :
    quality.commit text = some (Quality.take text).2 := by
  rw [quality, commit, commit_marker, Option.bind_some, commit, commit_fragments,
    Option.bind_some, commit_alterations]
  rfl

/-! ## 3. Parts and chords -/

theorem commit_part (text : List Char) : part.commit text = (Part.read? text).map Prod.snd := by
  have hquality : quality.commit = fun text => some (Quality.take text).2 := funext commit_quality
  rw [part, commit, commit_root, hquality, Part.read?]
  cases Note.read? text <;> rfl

theorem commit_bass (text : List Char) :
    (Pattern.seq (.word ['/']) part).commit text = (Part.readBass? text).map Prod.snd := by
  unfold Part.readBass?
  split
  · next rest => exact commit_part rest
  · next hslash =>
    have hnot : ¬ ['/'].isPrefixOf text = true := by
      rw [List.isPrefixOf_iff_prefix]
      rintro ⟨rest, rfl⟩
      exact hslash rest rfl
    rw [commit, commit, if_neg hnot]
    rfl

/-- **The chord that the search takes is the one that is read.** -/
theorem commit_chord (text : List Char) : chord.commit text = (Chord.read? text).map Prod.snd := by
  rw [chord, commit, commit_part, Chord.read?]
  cases Part.read? text with
  | none => rfl
  | some found =>
    obtain ⟨main, rest⟩ := found
    show (Pattern.optional (.seq (.word ['/']) part)).commit rest = _
    rw [commit, commit_bass]
    cases hbass : Part.readBass? rest <;> simp [hbass]

theorem isCommitted_chord : chord.isCommitted = true := rfl

/-- **The search for a chord takes what is read**, since no choice in the grammar can be
    regretted. -/
theorem search_chord (text : List Char) : chord.search text = (Chord.read? text).map Prod.snd := by
  rw [search_eq_commit isCommitted_chord, commit_chord]

end Grammar

end ChordChart
