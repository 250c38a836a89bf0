/-
  File:      ChordChart/Proofs/Chord/Longest.lean
  Subject:   The reader takes the longest chord of the grammar.

  The reader never gives anything back, and the grammar leaves it choices: a sign belongs to the
  root or opens an alteration, digits belong to a fragment or stand by themselves.

  * `Chord.matches_of_read?`: what the reader takes is a chord of the grammar.
  * `Part.exists_read?_of_matches`, `Chord.exists_read?_of_matches`: where a text of the grammar
    stands, the reader takes at least that text, whatever follows it.
  * `Part.read?_of_matches`, `Chord.read?_of_matches`: and exactly that text, if what follows does
    not go on.
  * **`Chord.prefix_of_read?`**: so no longer text of the grammar stands where a chord was read,
    and `Chord.read?_of_append`: what is read in front of a text is read without it.
-/
import ChordChart.Chord.Grammar
import ChordChart.Proofs.Chord.Splitting
import ChordChart.Proofs.Text.Languages

namespace ChordChart

open Text (Pattern)
open Text.Pattern

/-! ## 1. What the reader takes is in the grammar -/

theorem Grammar.matches_oneOf_pair_iff {a b : Char} {s : List Char} :
    (oneOf [a, b]).Matches s ↔ s = [a] ∨ s = [b] := by
  rw [oneOf, matches_char_iff]
  constructor
  · rintro ⟨c, hc, rfl⟩
    simpa using hc
  · rintro (rfl | rfl)
    · exact ⟨a, by simp, rfl⟩
    · exact ⟨b, by simp, rfl⟩

namespace Quality

theorem isSign_iff {c : Char} : isSign c = true ↔ c = '#' ∨ c = 'b' := by
  rw [isSign, Bool.or_eq_true, beq_iff_eq, beq_iff_eq]

/-- What is a sign for the reader is one for the grammar. -/
theorem matches_sign_iff {s : List Char} :
    Grammar.sign.Matches s ↔ ∃ c, s = [c] ∧ isSign c = true := by
  rw [Grammar.sign, Grammar.matches_oneOf_pair_iff]
  constructor
  · rintro (rfl | rfl) <;> exact ⟨_, rfl, rfl⟩
  · rintro ⟨c, rfl, hc⟩
    rcases isSign_iff.mp hc with rfl | rfl
    · exact Or.inr rfl
    · exact Or.inl rfl

theorem matches_takeMarker (text : List Char) :
    (Pattern.optional (Grammar.oneOf ['m', 'M'])).Matches (takeMarker text).1 := by
  unfold takeMarker
  split
  · exact .present (.char rfl)
  · exact .present (.char rfl)
  · exact .absent _

theorem matches_stem {stem : List Char} (h : stem ∈ stems) : Grammar.stem.Matches stem := by
  simp only [stems, List.mem_cons, List.not_mem_nil, or_false] at h
  rcases h with rfl | rfl | rfl | rfl | rfl | rfl
  · exact .preferred (.word _)
  · exact .other (.preferred (.word _))
  · exact .other (.other (.preferred (.seq (.word ['s', 'u', 's']) (.absent _))))
  · exact .other (.other (.other (.preferred (.word _))))
  · exact .other (.other (.other (.other (.preferred (.word _)))))
  · exact .other (.other (.other (.other (.other (.word _)))))

theorem matches_fragment_of_stem {stem : List Char} (h : stem ∈ stems) :
    Grammar.fragment.Matches stem := by
  have hstem := Matches.seq (matches_stem h) (.none Grammar.digit)
  rw [List.append_nil] at hstem
  exact .preferred hstem

theorem matches_fragment_of_isDigit {c : Char} (hc : c.isDigit = true) :
    Grammar.fragment.Matches [c] :=
  .other (.seq (.char hc) (.none Grammar.digit))

theorem matches_takeFragments (text : List Char) :
    (Pattern.many Grammar.fragment).Matches (takeFragments text).1 := by
  fun_induction takeFragments text with
  | case7 c rest _ _ _ _ _ _ hc ih => exact .more (matches_fragment_of_isDigit hc) ih
  | case8 => exact .none _
  | case9 => exact .none _
  | case1 rest ih | case2 rest ih | case3 rest ih | case4 rest ih | case5 rest ih
  | case6 rest ih => exact .more (matches_fragment_of_stem (by decide)) ih

/-- Alterations are taken one after the other; digits come first if one of them was begun
    before. -/
theorem matches_takeAlterations (inside : Bool) (text : List Char) :
    ∃ digits others, (takeAlterations inside text).1 = digits ++ others ∧
      (Pattern.many Grammar.digit).Matches digits ∧
      (Pattern.many Grammar.alteration).Matches others ∧ (inside = false → digits = []) := by
  fun_induction takeAlterations inside text with
  | case1 => exact ⟨[], [], rfl, .none _, .none _, fun _ => rfl⟩
  | case2 inside c hc =>
    obtain ⟨rfl, hc⟩ := Bool.and_eq_true_iff.mp hc
    exact ⟨[c], [], rfl, Matches.once (.char hc), .none _, fun h => by cases h⟩
  | case3 => exact ⟨[], [], rfl, .none _, .none _, fun _ => rfl⟩
  | case4 inside c d rest hc ih =>
    obtain ⟨rfl, hc⟩ := Bool.and_eq_true_iff.mp hc
    obtain ⟨digits, others, heq, hdigits, hothers, -⟩ := ih
    refine ⟨c :: digits, others, ?_, .more (.char hc) hdigits, hothers, fun h => by cases h⟩
    exact congrArg (c :: ·) heq
  | case5 inside c d rest _ hsign ih =>
    obtain ⟨hc, hd⟩ := Bool.and_eq_true_iff.mp hsign
    obtain ⟨digits, others, heq, hdigits, hothers, -⟩ := ih
    have halteration : Grammar.alteration.Matches (c :: d :: digits) :=
      .seq (matches_sign_iff.mpr ⟨c, rfl, hc⟩) (.seq (.char hd) hdigits)
    refine ⟨[], c :: d :: digits ++ others, ?_, .none _, .more halteration hothers, fun _ => rfl⟩
    exact congrArg (c :: d :: ·) heq
  | case6 => exact ⟨[], [], rfl, .none _, .none _, fun _ => rfl⟩

/-- **A quality that is taken is one of the grammar.** -/
theorem matches_take (text : List Char) : Grammar.quality.Matches (take text).1 := by
  obtain ⟨digits, others, heq, -, hothers, hdigits⟩ :=
    matches_takeAlterations false (takeFragments (takeMarker text).2).2
  rw [hdigits rfl, List.nil_append] at heq
  have halterations := hothers
  rw [← heq] at halterations
  have hquality := Matches.seq (matches_takeMarker text)
    (Matches.seq (matches_takeFragments (takeMarker text).2) halterations)
  rw [← List.append_assoc] at hquality
  exact hquality

end Quality

theorem Letter.accepts_char (letter : Letter) :
    ('A' ≤ letter.char && letter.char ≤ 'G') = true := by
  cases letter <;> decide

theorem Note.matches_text (n : Note) : Grammar.root.Matches n.text := by
  have hletter : (Pattern.char fun c => 'A' ≤ c && c ≤ 'G').Matches [n.letter.char] :=
    .char n.letter.accepts_char
  refine Matches.seq hletter ?_
  cases n.accidental with
  | natural => exact .absent _
  | sharp => exact .present (.char rfl)
  | flat => exact .present (.char rfl)

theorem Part.matches_of_read? {text rest : List Char} {p : Part}
    (h : Part.read? text = some (p, rest)) : Grammar.part.Matches p.text := by
  have hquality := Quality.matches_take (p.quality ++ rest)
  rw [(Part.read?_cases h).2] at hquality
  exact .seq p.root.matches_text hquality

theorem Part.slash_notMem_text_of_read? {text rest : List Char} {p : Part}
    (h : Part.read? text = some (p, rest)) : '/' ∉ p.text :=
  (Part.matches_of_read? h).notMem rfl

/-- **A chord that is read is one of the grammar.** -/
theorem Chord.matches_of_read? {text rest : List Char} {c : Chord}
    (h : Chord.read? text = some (c, rest)) : Grammar.chord.Matches c.text := by
  rcases Chord.read?_cases h with ⟨p, rfl, hmain, -⟩ | ⟨p, b, rfl, hmain, hbass⟩
  · have hchord := Matches.seq (Part.matches_of_read? hmain)
      (.absent (Pattern.seq (.word ['/']) Grammar.part))
    rw [List.append_nil] at hchord
    exact hchord
  · exact .seq (Part.matches_of_read? hmain)
      (.present (.seq (.word ['/']) (Part.matches_of_read? hbass)))

/-! ## 2. What the grammar describes is taken -/

namespace Quality

theorem taking_append (s t : List Char) (split : List Char × List Char) :
    taking (s ++ t) split = taking s (taking t split) :=
  Prod.ext (List.append_assoc s t split.1) rfl

theorem takeFragments_stem {stem : List Char} (h : stem ∈ stems) (rest : List Char) :
    takeFragments (stem ++ rest) = taking stem (takeFragments rest) := by
  simp only [stems, List.mem_cons, List.not_mem_nil, or_false] at h
  rcases h with rfl | rfl | rfl | rfl | rfl | rfl <;> rfl

/-! Digits, fragments and alterations are taken whatever follows them. -/

theorem takeFragments_of_digits {digits : List Char}
    (h : (Pattern.many Grammar.digit).Matches digits) (rest : List Char) :
    takeFragments (digits ++ rest) = taking digits (takeFragments rest) := by
  induction h using many_induction with
  | none => rfl
  | more hfirst _ ih =>
    obtain ⟨c, hc, rfl⟩ := matches_char_iff.mp hfirst
    rw [List.append_assoc, taking_append, ← ih]
    exact takeFragments_digit hc _

theorem takeAlterations_of_digits {digits : List Char}
    (h : (Pattern.many Grammar.digit).Matches digits) (rest : List Char) :
    takeAlterations true (digits ++ rest) = taking digits (takeAlterations true rest) := by
  induction h using many_induction with
  | none => rfl
  | more hfirst _ ih =>
    obtain ⟨c, hc, rfl⟩ := matches_char_iff.mp hfirst
    rw [List.append_assoc, taking_append, ← ih]
    exact takeAlterations_digit hc _

theorem many_digit_of_number {s : List Char} (h : Grammar.number.Matches s) :
    (Pattern.many Grammar.digit).Matches s := by
  obtain ⟨first, others, rfl, hfirst, hothers⟩ := matches_seq_iff.mp h
  exact .more hfirst hothers

/-- The letters of a fragment; those of `sus` may bring a digit. -/
theorem stem_cases {s : List Char} (h : Grammar.stem.Matches s) :
    ∃ stem digits, s = stem ++ digits ∧ stem ∈ stems ∧
      (Pattern.many Grammar.digit).Matches digits := by
  have hfixed : ∀ stem, stem ∈ stems → s = stem → ∃ stem digits, s = stem ++ digits ∧
      stem ∈ stems ∧ (Pattern.many Grammar.digit).Matches digits := by
    rintro stem hstem rfl
    exact ⟨s, [], (List.append_nil s).symm, hstem, .none _⟩
  simp only [Grammar.stem, matches_either_iff, matches_word_iff] at h
  rcases h with h | h | h | h | h | h
  · exact hfixed _ (by decide) h
  · exact hfixed _ (by decide) h
  · obtain ⟨front, back, rfl, hfront, hback⟩ := matches_seq_iff.mp h
    rw [matches_word_iff] at hfront
    refine ⟨front, back, rfl, by rw [hfront]; decide, ?_⟩
    rcases matches_optional_iff.mp hback with rfl | hback
    · exact .none _
    · rcases Grammar.matches_oneOf_pair_iff.mp hback with rfl | rfl
      · exact Matches.once (.char rfl)
      · exact Matches.once (.char rfl)
  · exact hfixed _ (by decide) h
  · exact hfixed _ (by decide) h
  · exact hfixed _ (by decide) h

theorem takeFragments_of_fragment {s : List Char} (h : Grammar.fragment.Matches s)
    (rest : List Char) : takeFragments (s ++ rest) = taking s (takeFragments rest) := by
  rcases matches_either_iff.mp h with h | h
  · obtain ⟨front, others, rfl, hfront, hothers⟩ := matches_seq_iff.mp h
    obtain ⟨stem, digits, rfl, hstem, hdigits⟩ := stem_cases hfront
    rw [List.append_assoc, List.append_assoc, takeFragments_stem hstem,
      takeFragments_of_digits hdigits, takeFragments_of_digits hothers, taking_append,
      taking_append]
  · exact takeFragments_of_digits (many_digit_of_number h) rest

theorem takeFragments_of_matches {s : List Char} (h : (Pattern.many Grammar.fragment).Matches s)
    (rest : List Char) : takeFragments (s ++ rest) = taking s (takeFragments rest) := by
  induction h using many_induction with
  | none => rfl
  | more hfirst _ ih =>
    rw [List.append_assoc, takeFragments_of_fragment hfirst, ih, taking_append]

theorem not_isDigit_of_isSign {c : Char} (h : isSign c = true) : c.isDigit = false := by
  rcases isSign_iff.mp h with rfl | rfl <;> rfl

/-- An alteration: a sign and its digits. -/
theorem alteration_cases {s : List Char} (h : Grammar.alteration.Matches s) :
    ∃ c d digits, s = c :: d :: digits ∧ isSign c = true ∧ d.isDigit = true ∧
      (Pattern.many Grammar.digit).Matches digits := by
  obtain ⟨front, back, rfl, hfront, hback⟩ := matches_seq_iff.mp h
  obtain ⟨c, rfl, hc⟩ := matches_sign_iff.mp hfront
  obtain ⟨first, digits, rfl, hfirst, hdigits⟩ := matches_seq_iff.mp hback
  obtain ⟨d, hd, rfl⟩ := matches_char_iff.mp hfirst
  exact ⟨c, d, digits, rfl, hc, hd, hdigits⟩

theorem takeAlterations_of_alteration {s : List Char} (h : Grammar.alteration.Matches s)
    (inside : Bool) (rest : List Char) :
    takeAlterations inside (s ++ rest) = taking s (takeAlterations true rest) := by
  obtain ⟨c, d, digits, rfl, hc, hd, hdigits⟩ := alteration_cases h
  have hdigit : ¬ (inside && c.isDigit) = true := by
    rw [not_isDigit_of_isSign hc, Bool.and_false]
    exact Bool.false_ne_true
  have hsign : (isSign c && d.isDigit) = true := Bool.and_eq_true_iff.mpr ⟨hc, hd⟩
  show takeAlterations inside (c :: d :: (digits ++ rest)) = _
  rw [takeAlterations, if_neg hdigit, if_pos hsign, takeAlterations_of_digits hdigits]
  exact (taking_append [c, d] digits _).symm

theorem takeAlterations_of_matches {s : List Char}
    (h : (Pattern.many Grammar.alteration).Matches s) (inside : Bool) (rest : List Char) :
    takeAlterations inside (s ++ rest)
      = taking s (takeAlterations (inside || !s.isEmpty) rest) := by
  induction h using many_induction generalizing inside with
  | none => rw [List.isEmpty_nil, Bool.not_true, Bool.or_false]; rfl
  | more hfirst _ ih =>
    rw [List.append_assoc, takeAlterations_of_alteration hfirst, ih, taking_append]
    obtain ⟨c, d, digits, rfl, -⟩ := alteration_cases hfirst
    rw [Bool.true_or, List.cons_append, List.isEmpty_cons, Bool.not_false, Bool.or_true]

/-! What stands at the head of a text settles which group goes on there. -/

theorem opensFragment_of_matches {s : List Char} (h : (Pattern.many Grammar.fragment).Matches s)
    (hs : s ≠ []) (rest : List Char) : opensFragment (s ++ rest) = true := by
  cases hopens : opensFragment (s ++ rest) with
  | true => rfl
  | false =>
    have hnil := (takeFragments_eq_nil_iff _).mpr hopens
    rw [takeFragments_of_matches h] at hnil
    exact absurd (List.append_eq_nil_iff.mp hnil).1 hs

theorem opensAlteration_of_matches {s : List Char}
    (h : (Pattern.many Grammar.alteration).Matches s) (hs : s ≠ []) (rest : List Char) :
    opensAlteration false (s ++ rest) = true := by
  cases hopens : opensAlteration false (s ++ rest) with
  | true => rfl
  | false =>
    have hnil := (takeAlterations_eq_nil_iff false _).mpr hopens
    rw [takeAlterations_of_matches h] at hnil
    exact absurd (List.append_eq_nil_iff.mp hnil).1 hs

theorem opensFragment_of_isSign {c : Char} (hc : isSign c = true) (rest : List Char) :
    opensFragment (c :: rest) = false := by
  rcases isSign_iff.mp hc with rfl | rfl <;> rfl

theorem opensFragment_of_opensAlteration {text : List Char}
    (h : opensAlteration false text = true) : opensFragment text = false := by
  match text, h with
  | c :: d :: rest, h => exact opensFragment_of_isSign (Bool.and_eq_true_iff.mp h).1 _

theorem takeMarker_of_opens {text : List Char}
    (h : opensFragment text = true ∨ opensAlteration false text = true) :
    takeMarker text = ([], text) := by
  unfold takeMarker
  split
  · next rest =>
    rcases h with h | h
    · cases h
    · cases rest <;> cases h
  · next rest =>
    rcases h with h | h
    · cases h
    · cases rest <;> cases h
  · rfl

/-- The marker of a quality is taken, and none if it has other groups only. -/
theorem takeMarker_of_matches {marker fragments alterations : List Char}
    (hmarker : (Pattern.optional (Grammar.oneOf ['m', 'M'])).Matches marker)
    (hfragments : (Pattern.many Grammar.fragment).Matches fragments)
    (halterations : (Pattern.many Grammar.alteration).Matches alterations)
    (hne : marker ++ (fragments ++ alterations) ≠ []) (rest : List Char) :
    takeMarker (marker ++ (fragments ++ (alterations ++ rest)))
      = (marker, fragments ++ (alterations ++ rest)) := by
  rcases matches_optional_iff.mp hmarker with rfl | hmarker
  · refine takeMarker_of_opens ?_
    by_cases hnil : fragments = []
    · subst hnil
      exact Or.inr (opensAlteration_of_matches halterations hne rest)
    · exact Or.inl (opensFragment_of_matches hfragments hnil _)
  · rcases Grammar.matches_oneOf_pair_iff.mp hmarker with rfl | rfl <;> rfl

/-- **At least a quality of the grammar is taken where one stands.** -/
theorem prefix_take_of_matches {s : List Char} (h : Grammar.quality.Matches s)
    (rest : List Char) : s <+: (take (s ++ rest)).1 := by
  obtain ⟨marker, others, rfl, hmarker, hothers⟩ := matches_seq_iff.mp h
  obtain ⟨fragments, alterations, rfl, hfragments, halterations⟩ := matches_seq_iff.mp hothers
  by_cases hnil : marker ++ (fragments ++ alterations) = []
  · rw [hnil]
    exact List.nil_prefix
  rw [List.append_assoc, List.append_assoc, take,
    takeMarker_of_matches hmarker hfragments halterations hnil,
    takeFragments_of_matches hfragments]
  by_cases ha : alterations = []
  · subst ha
    rw [List.append_nil]
    refine List.IsPrefix.trans ?_ (List.prefix_append _ _)
    exact (List.prefix_append_right_inj marker).mpr (List.prefix_append _ _)
  · -- a sign stands behind the fragments, so nothing more is taken for one
    have hopens := opensAlteration_of_matches halterations ha rest
    have hstop : takeFragments (alterations ++ rest) = ([], alterations ++ rest) :=
      takeFragments_stop (AgreeToRoot.refl _)
        ((takeFragments_eq_nil_iff _).mpr (opensFragment_of_opensAlteration hopens))
    rw [hstop]
    simp only [taking, List.append_nil]
    rw [takeAlterations_of_matches halterations, ← List.append_assoc marker]
    exact (List.prefix_append_right_inj _).mpr (List.prefix_append _ _)

/-- A sign that opens a quality may be given to the root: its digits are then a fragment. -/
theorem matches_of_isSign {c : Char} {s : List Char} (h : Grammar.quality.Matches (c :: s))
    (hc : isSign c = true) : Grammar.quality.Matches s := by
  obtain ⟨marker, others, hcs, hmarker, hothers⟩ := matches_seq_iff.mp h
  obtain ⟨fragments, alterations, rfl, hfragments, halterations⟩ := matches_seq_iff.mp hothers
  have hmarker : marker = [] := by
    rcases matches_optional_iff.mp hmarker with hnil | hmarker
    · exact hnil
    · rcases Grammar.matches_oneOf_pair_iff.mp hmarker with rfl | rfl
      · obtain ⟨rfl, -⟩ := List.cons.inj hcs
        cases hc
      · obtain ⟨rfl, -⟩ := List.cons.inj hcs
        cases hc
  subst hmarker
  have hfragments : fragments = [] := by
    by_cases hne : fragments = []
    · exact hne
    · have hopens := opensFragment_of_matches hfragments hne alterations
      rw [List.nil_append] at hcs
      rw [← hcs, opensFragment_of_isSign hc] at hopens
      cases hopens
  subst hfragments
  rcases matches_many_iff.mp halterations with rfl | ⟨first, more, rfl, hfirst, hmore⟩
  · cases hcs
  · obtain ⟨d, e, digits, rfl, -, he, hdigits⟩ := alteration_cases hfirst
    obtain ⟨rfl, rfl⟩ := List.cons.inj hcs
    have hnumber : Grammar.fragment.Matches (e :: digits) := .other (.seq (.char he) hdigits)
    have hquality := Matches.seq (.absent (Grammar.oneOf ['m', 'M']))
      (Matches.seq hnumber.once hmore)
    exact hquality

end Quality

/-! ## 3. Parts and chords are taken whole -/

theorem Letter.exists_of_accepts {c : Char} (h : ('A' ≤ c && c ≤ 'G') = true) :
    ∃ letter : Letter, letter.char = c := by
  obtain ⟨hlow, hhigh⟩ := Bool.and_eq_true_iff.mp h
  have hlow : 65 ≤ c.toNat := of_decide_eq_true hlow
  have hhigh : c.toNat ≤ 71 := of_decide_eq_true hhigh
  have hcode : c.toNat = 65 ∨ c.toNat = 66 ∨ c.toNat = 67 ∨ c.toNat = 68 ∨ c.toNat = 69 ∨
      c.toNat = 70 ∨ c.toNat = 71 := by omega
  rcases hcode with h | h | h | h | h | h | h
  · exact ⟨.a, Char.toNat_inj.mp h.symm⟩
  · exact ⟨.b, Char.toNat_inj.mp h.symm⟩
  · exact ⟨.c, Char.toNat_inj.mp h.symm⟩
  · exact ⟨.d, Char.toNat_inj.mp h.symm⟩
  · exact ⟨.e, Char.toNat_inj.mp h.symm⟩
  · exact ⟨.f, Char.toNat_inj.mp h.symm⟩
  · exact ⟨.g, Char.toNat_inj.mp h.symm⟩

theorem Accidental.exists_of_isSign {c : Char} (h : Quality.isSign c = true) :
    ∃ accidental : Accidental, accidental.sign = [c] ∧ accidental ≠ .natural := by
  cases hc : Accidental.ofChar? c with
  | none =>
    rw [Accidental.isSign_of_ofChar? hc] at h
    cases h
  | some accidental =>
    have hsign := Accidental.sign_of_ofChar? hc
    refine ⟨accidental, hsign, ?_⟩
    rintro rfl
    cases hsign

/-- A part of the grammar as the reader sees it: the root takes a sign that follows its letter. -/
theorem Part.matches_cases {s : List Char} (h : Grammar.part.Matches s) :
    ∃ (n : Note) (quality : List Char), s = n.text ++ quality ∧ Grammar.quality.Matches quality ∧
      (n.accidental = .natural → Quality.opensWithSign quality = false) := by
  obtain ⟨root, quality, rfl, hroot, hquality⟩ := matches_seq_iff.mp h
  obtain ⟨first, sign, rfl, hfirst, hsign⟩ := matches_seq_iff.mp hroot
  obtain ⟨c, hc, rfl⟩ := matches_char_iff.mp hfirst
  obtain ⟨letter, rfl⟩ := Letter.exists_of_accepts hc
  rcases matches_optional_iff.mp hsign with rfl | hsign
  · cases quality with
    | nil => exact ⟨⟨letter, .natural⟩, [], rfl, hquality, fun _ => rfl⟩
    | cons d quality =>
      cases hd : Quality.isSign d with
      | false => exact ⟨⟨letter, .natural⟩, d :: quality, rfl, hquality, fun _ => hd⟩
      | true =>
        obtain ⟨accidental, htext, hne⟩ := Accidental.exists_of_isSign hd
        refine ⟨⟨letter, accidental⟩, quality, ?_, Quality.matches_of_isSign hquality hd,
          fun hn => absurd hn hne⟩
        simp [Note.text, htext]
  · obtain ⟨d, rfl, hd⟩ := Quality.matches_sign_iff.mp hsign
    obtain ⟨accidental, htext, hne⟩ := Accidental.exists_of_isSign hd
    refine ⟨⟨letter, accidental⟩, quality, ?_, hquality, fun hn => absurd hn hne⟩
    simp [Note.text, htext]

/-- **Where a part of the grammar stands, at least that part is read.** -/
theorem Part.exists_read?_of_matches {s : List Char} (h : Grammar.part.Matches s)
    (rest : List Char) : ∃ p after, Part.read? (s ++ rest) = some (p, after) ∧ s <+: p.text := by
  obtain ⟨n, quality, rfl, hquality, hnatural⟩ := Part.matches_cases h
  by_cases hsign : n.accidental = .natural → Quality.opensWithSign (quality ++ rest) = false
  · have hnote : Note.read? (n.text ++ (quality ++ rest)) = some (n, quality ++ rest) :=
      Note.read?_text_append n _ hsign
    have hstarts := Quality.prefix_take_of_matches hquality rest
    refine ⟨⟨n, (Quality.take (quality ++ rest)).1⟩, (Quality.take (quality ++ rest)).2, ?_,
      (List.prefix_append_right_inj n.text).mpr hstarts⟩
    rw [Part.read?, List.append_assoc, hnote, Option.map_some]
  · -- a bare letter before a sign that is not its own: the sign goes to the root
    obtain ⟨letter, accidental⟩ := n
    obtain ⟨hn, hopens⟩ := Classical.not_imp.mp hsign
    obtain rfl : accidental = .natural := hn
    have hnil : quality = [] := by
      cases quality with
      | nil => rfl
      | cons c quality => exact absurd (hnatural rfl) hopens
    subst hnil
    cases hread : Part.read? (letter.char :: rest) with
    | none =>
      rw [Part.read?_eq_none_iff, Letter.ofChar?_char] at hread
      cases hread
    | some found =>
      obtain ⟨p, after⟩ := found
      refine ⟨p, after, hread, ?_⟩
      have htext := Part.text_append_of_read? hread
      obtain ⟨hchar, -⟩ := List.cons.inj htext
      show [letter.char] <+: p.root.letter.char :: (p.root.accidental.sign ++ p.quality)
      rw [hchar]
      exact ⟨_, rfl⟩

/-- Two ways to cut a text in two are the same if one front is a prefix of the other, which does
    not hold the character that comes next. -/
theorem eq_of_prefix_of_notMem {s rest t after : List Char} (htext : t ++ after = s ++ rest)
    (hstarts : s <+: t) (hrest : ∀ x ∈ rest.head?, x ∉ t) : t = s ∧ after = rest := by
  obtain ⟨extra, rfl⟩ := hstarts
  rw [List.append_assoc, List.append_cancel_left_eq] at htext
  subst htext
  cases extra with
  | nil => exact ⟨List.append_nil s, rfl⟩
  | cons x extra => exact absurd (List.mem_append_right s List.mem_cons_self) (hrest x rfl)

/-- **A part of the grammar is read exactly at the end of a text and before a slash**, and both
    times it is the same part. -/
theorem Part.read?_of_matches {s : List Char} (h : Grammar.part.Matches s) :
    ∃ p : Part, p.text = s ∧
      ∀ rest, (∀ x ∈ rest.head?, x = '/') → Part.read? (s ++ rest) = some (p, rest) := by
  obtain ⟨n, quality, rfl, hquality, hnatural⟩ := Part.matches_cases h
  refine ⟨⟨n, quality⟩, rfl, fun rest hrest => ?_⟩
  have hopens : Quality.opensWithSign rest = false := by
    cases rest with
    | nil => rfl
    | cons x rest =>
      obtain rfl := hrest x rfl
      rfl
  have hnote : Note.read? (n.text ++ (quality ++ rest)) = some (n, quality ++ rest) :=
    Note.read?_text_append n _ fun hn => Quality.opensWithSign_append (hnatural hn) hopens
  obtain ⟨htake, hafter⟩ := eq_of_prefix_of_notMem (Quality.take_append (quality ++ rest))
    (Quality.prefix_take_of_matches hquality rest)
    fun x hx => hrest x hx ▸ Quality.slash_notMem_take _
  rw [Part.read?, List.append_assoc, hnote, Option.map_some]
  dsimp only
  rw [htake, hafter]

/-- A chord of the grammar: a part, or two with a slash between them. -/
theorem Chord.matches_cases {s : List Char} (h : Grammar.chord.Matches s) :
    Grammar.part.Matches s ∨
      ∃ main bass, s = main ++ '/' :: bass ∧ Grammar.part.Matches main ∧
        Grammar.part.Matches bass := by
  obtain ⟨main, behind, rfl, hmain, hbehind⟩ := matches_seq_iff.mp h
  rcases matches_optional_iff.mp hbehind with rfl | hbehind
  · rw [List.append_nil]
    exact Or.inl hmain
  · obtain ⟨slash, bass, rfl, hslash, hbass⟩ := matches_seq_iff.mp hbehind
    rw [matches_word_iff] at hslash
    subst hslash
    exact Or.inr ⟨main, bass, rfl, hmain, hbass⟩

/-- **Where a chord of the grammar stands, at least that chord is read.** -/
theorem Chord.exists_read?_of_matches {s : List Char} (h : Grammar.chord.Matches s)
    (rest : List Char) :
    ∃ c after, Chord.read? (s ++ rest) = some (c, after) ∧ s <+: c.text := by
  rcases Chord.matches_cases h with hpart | ⟨main, bass, rfl, hmain, hbass⟩
  · obtain ⟨p, after, hread, hstarts⟩ := Part.exists_read?_of_matches hpart rest
    cases hbass : Part.readBass? after with
    | none => exact ⟨⟨p, none⟩, after, Chord.read?_plain hread hbass, hstarts⟩
    | some found =>
      obtain ⟨b, behind⟩ := found
      refine ⟨⟨p, some b⟩, behind, ?_, hstarts.trans (List.prefix_append _ _)⟩
      simp only [Chord.read?, hread, hbass, Option.map_some]
  · obtain ⟨p, hp, hread⟩ := Part.read?_of_matches hmain
    obtain ⟨b, after, hreadBass, extra, hextra⟩ := Part.exists_read?_of_matches hbass rest
    refine ⟨⟨p, some b⟩, after, ?_, extra, ?_⟩
    · rw [List.append_assoc, List.cons_append]
      exact Chord.read?_slash (hread _ fun x hx => (Option.some.inj hx).symm) hreadBass
    · simp [Chord.text, hp, ← hextra]

/-! ## 4. The longest chord -/

/-- **No chord of the grammar that stands where a chord was read reaches behind it.** -/
theorem Chord.prefix_of_read? {text rest s : List Char} {c : Chord}
    (h : Chord.read? text = some (c, rest)) (hs : Grammar.chord.Matches s) (hstarts : s <+: text) :
    s <+: c.text := by
  obtain ⟨behind, rfl⟩ := hstarts
  obtain ⟨d, after, hread, hd⟩ := Chord.exists_read?_of_matches hs behind
  rw [h] at hread
  cases hread
  exact hd

/-- **What is read in front of a text is read without it.** -/
theorem Chord.read?_of_append {front rest back : List Char} {c : Chord}
    (h : Chord.read? (front ++ back) = some (c, rest ++ back)) :
    Chord.read? front = some (c, rest) := by
  have htext := Chord.text_append_of_read? h
  rw [← List.append_assoc, List.append_cancel_right_eq] at htext
  subst htext
  obtain ⟨d, after, hread, hstarts⟩ :=
    Chord.exists_read?_of_matches (Chord.matches_of_read? h) rest
  have hafter := Chord.text_append_of_read? hread
  have hback : d.text <+: c.text := by
    refine Chord.prefix_of_read? h (Chord.matches_of_read? hread) ?_
    rw [← hafter, List.append_assoc]
    exact List.prefix_append _ _
  have hsame : d.text = c.text := hback.eq_of_length_le hstarts.length_le
  have hchord : d = c := by
    have hsplit := Chord.split?_text_of_read? hread
    rw [hsame, Chord.split?_text_of_read? h] at hsplit
    cases hsplit
    rfl
  subst hchord
  rw [List.append_cancel_left_eq] at hafter
  rw [hread, hafter]

/-- **A chord of the grammar is read exactly in front of a character that no chord has.** -/
theorem Chord.read?_of_matches {s rest : List Char} (h : Grammar.chord.Matches s)
    (hrest : ∀ x ∈ rest.head?, Grammar.chord.admits x = false) :
    ∃ c, Chord.read? (s ++ rest) = some (c, rest) ∧ c.text = s := by
  obtain ⟨c, after, hread, hstarts⟩ := Chord.exists_read?_of_matches h rest
  obtain ⟨hc, rfl⟩ := eq_of_prefix_of_notMem (Chord.text_append_of_read? hread) hstarts
    fun x hx => (Chord.matches_of_read? hread).notMem (hrest x hx)
  exact ⟨c, hread, hc⟩

end ChordChart
