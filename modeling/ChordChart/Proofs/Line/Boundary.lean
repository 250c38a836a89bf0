/-
  File:      ChordChart/Proofs/Line/Boundary.lean
  Subject:   Where a line may be cut in two.

  A line made of two texts has the pieces of the first and then those of the second, if no chord
  that begins in the first reaches into the second (`Line.Apart`).  One thing still gets across:
  what the second text begins with decides whether a candidate at the end of the first counts.

  * `Grammar.isAlphanumeric_of_admits`: which characters a chord can have.
  * `Line.Apart.read?`: in front of the second text the first is read as it is by itself.
  * **`Line.cut_append`**: the pieces of the whole, by induction on the cut of the first text.
  * `Line.apart_of_letter`, `Line.apart_of_admits`: two ways to keep texts apart.  A chord reaches
    over a root letter only from behind a slash, and never over a character that no chord has.
-/
import ChordChart.Proofs.Chord.Longest
import ChordChart.Proofs.Line.Replacement
import Mathlib.Data.List.Chain

namespace ChordChart

/-! ## 1. The characters of a chord -/

theorem Text.isAlphanumeric_of_isDigit {c : Char} (h : c.isDigit = true) :
    isAlphanumeric c = true := by
  obtain ⟨hlow, hhigh⟩ := Bool.and_eq_true_iff.mp h
  have hlow : 48 ≤ c.toNat := of_decide_eq_true hlow
  have hhigh : c.toNat ≤ 57 := of_decide_eq_true hhigh
  have hdigit : isDecimalDigit c = true := by
    have hnot : ¬ c.toNat < 48 := by omega
    simp [isDecimalDigit, decimalDigitRanges, CodeRange.covers, hnot, hhigh]
  simp [isAlphanumeric, hdigit]

/-- The letters of markers, fragments and flats. -/
def Grammar.letters : List Char := ['m', 'M', 'a', 'j', 'i', 'n', 's', 'u', 'g', 'd', 'b']

theorem Grammar.admits_part_cases {c : Char} (h : part.admits c = true) :
    ('A' ≤ c && c ≤ 'G') = true ∨ c.isDigit = true ∨ c ∈ letters ∨ c = '#' := by
  have hdigit : c = '2' ∨ c = '4' → c.isDigit = true := by
    rintro (rfl | rfl) <;> rfl
  simp only [part, root, quality, fragment, stem, alteration, number, digit, sign, oneOf,
    Text.Pattern.admits, Bool.or_eq_true, List.contains_iff_mem, List.mem_cons, List.not_mem_nil,
    or_false] at h
  simp only [letters, List.mem_cons, List.not_mem_nil, or_false]
  grind

/-- **A chord is written with letters, digits, sharps and slashes.** -/
theorem Grammar.isAlphanumeric_of_admits {c : Char} (h : chord.admits c = true) :
    Text.isAlphanumeric c = true ∨ c = '#' ∨ c = '/' := by
  have hpart (hc : part.admits c = true) : Text.isAlphanumeric c = true ∨ c = '#' ∨ c = '/' := by
    rcases admits_part_cases hc with hletter | hdigit | hmem | hsharp
    · obtain ⟨letter, rfl⟩ := Letter.exists_of_accepts hletter
      exact Or.inl (Line.isAlphanumeric_of_ofChar? (Letter.ofChar?_char letter))
    · exact Or.inl (Text.isAlphanumeric_of_isDigit hdigit)
    · have hall : letters.all Text.isAlphanumeric = true := by decide
      exact Or.inl (List.all_eq_true.mp hall c hmem)
    · exact Or.inr (Or.inl hsharp)
  rcases Bool.or_eq_true_iff.mp h with hmain | hbehind
  · exact hpart hmain
  · rcases Bool.or_eq_true_iff.mp hbehind with hslash | hbass
    · exact Or.inr (Or.inr (List.mem_singleton.mp (List.contains_iff_mem.mp hslash)))
    · exact hpart hbass

theorem Grammar.admits_eq_false {c : Char} (halpha : Text.isAlphanumeric c = false)
    (hsharp : c ≠ '#') (hslash : c ≠ '/') : chord.admits c = false := by
  refine Bool.eq_false_iff.mpr fun hadmits => ?_
  rcases isAlphanumeric_of_admits hadmits with h | h | h
  · rw [halpha] at h
    cases h
  · exact hsharp h
  · exact hslash h

/-! ## 2. Root letters inside a chord -/

theorem Accidental.isSign_of_mem_sign {accidental : Accidental} {c : Char}
    (h : c ∈ accidental.sign) : Quality.isSign c = true := by
  cases accidental with
  | natural => cases h
  | sharp => rw [List.mem_singleton.mp h]; rfl
  | flat => rw [List.mem_singleton.mp h]; rfl

theorem Grammar.letter_notMem_quality {s : List Char} (h : quality.Matches s) :
    ∀ c ∈ s, Letter.ofChar? c = none := by
  intro c hc
  cases hletter : Letter.ofChar? c with
  | none => rfl
  | some letter =>
    rw [← Letter.char_of_ofChar? hletter] at hc
    exact absurd hc (h.notMem (by cases letter <;> decide))

/-- A root letter stands in a text only at the head or right behind a slash. -/
def LettersBehindSlash (text : List Char) : Prop :=
  text.IsChain fun before c => (Letter.ofChar? c).isSome → before = '/'

theorem lettersBehindSlash_cons (first : Char) {text : List Char}
    (h : ∀ c ∈ text, Letter.ofChar? c = none) : LettersBehindSlash (first :: text) := by
  induction text generalizing first with
  | nil => exact .singleton first
  | cons c text ih =>
    refine .cons_cons (fun hletter => ?_) (ih c fun d hd => h d (List.mem_cons_of_mem _ hd))
    rw [h c List.mem_cons_self] at hletter
    cases hletter

theorem Part.lettersBehindSlash_text {text rest : List Char} {p : Part}
    (h : Part.read? text = some (p, rest)) : LettersBehindSlash p.text := by
  refine lettersBehindSlash_cons _ fun c hc => ?_
  rcases List.mem_append.mp hc with hc | hc
  · exact Quality.ofChar?_of_isSign (Accidental.isSign_of_mem_sign hc)
  · have hquality := Quality.matches_take (p.quality ++ rest)
    rw [(Part.read?_cases h).2] at hquality
    exact Grammar.letter_notMem_quality hquality c hc

/-- **Behind its first letter a chord has a root letter only right behind its slash.** -/
theorem Chord.lettersBehindSlash_text {text rest : List Char} {c : Chord}
    (h : Chord.read? text = some (c, rest)) : LettersBehindSlash c.text := by
  rcases Chord.read?_cases h with ⟨p, rfl, hmain, -⟩ | ⟨p, b, rfl, hmain, hbass⟩
  · exact Part.lettersBehindSlash_text hmain
  · refine List.isChain_append.mpr ⟨Part.lettersBehindSlash_text hmain, ?_, ?_⟩
    · exact .cons_cons (fun _ => rfl) (Part.lettersBehindSlash_text hbass)
    · rintro _ _ c hc hletter
      cases hc
      cases hletter

namespace Line

/-! ## 3. Texts that are kept apart -/

/-- No chord that begins in the front text reaches into the back one. -/
def Apart (front back : List Char) : Prop :=
  ∀ mid, mid ≠ [] → mid <:+ front → ∀ c after, Chord.read? (mid ++ back) = some (c, after) →
    c.text <+: mid

theorem Apart.suffix {front front' back : List Char} (h : Apart front back)
    (hsuffix : front' <:+ front) : Apart front' back :=
  fun mid hmid hmid' => h mid hmid (hmid'.trans hsuffix)

/-- Texts are apart if no chord takes the first character of the back one. -/
theorem apart_cons {front back : List Char} {x : Char}
    (h : ∀ mid, mid ≠ [] → mid <:+ front → ∀ c after more,
      Chord.read? (mid ++ x :: back) = some (c, after) → c.text ≠ mid ++ x :: more) :
    Apart front (x :: back) := by
  intro mid hmid hsuffix c after hread
  have htext := Chord.text_append_of_read? hread
  rcases List.append_eq_append_iff.mp htext with ⟨rest, hrest, -⟩ | ⟨more, hmore, hback⟩
  · exact ⟨rest, hrest.symm⟩
  · cases more with
    | nil =>
      rw [List.append_nil] at hmore
      exact hmore ▸ List.prefix_refl _
    | cons y more =>
      obtain ⟨rfl, -⟩ := List.cons.inj hback
      exact absurd hmore (h mid hmid hsuffix c after more hread)

/-- A root letter keeps texts apart if no slash stands before it. -/
theorem apart_of_letter {front back : List Char} {x : Char} (hx : (Letter.ofChar? x).isSome)
    (hfront : front.getLast? ≠ some '/') : Apart front (x :: back) := by
  refine apart_cons fun mid hmid hsuffix c after more hread htext => ?_
  have hchain := Chord.lettersBehindSlash_text hread
  rw [htext] at hchain
  obtain ⟨-, -, hlast⟩ := List.isChain_append.mp hchain
  have hslash := hlast _ (List.getLast?_eq_some_getLast hmid) x rfl hx
  refine hfront ?_
  obtain ⟨before, rfl⟩ := hsuffix
  rw [List.getLast?_append, List.getLast?_eq_some_getLast hmid, hslash]
  rfl

/-- A character that no chord has keeps texts apart. -/
theorem apart_of_admits (front : List Char) {back : List Char} {x : Char}
    (hx : Grammar.chord.admits x = false) : Apart front (x :: back) := by
  refine apart_cons fun mid _ _ c after more hread htext => ?_
  refine (Chord.matches_of_read? hread).notMem hx ?_
  rw [htext]
  exact List.mem_append_right mid List.mem_cons_self

/-- **In front of a text that is kept apart, a text is read as it is by itself.** -/
theorem Apart.read? {front back rest : List Char} {c : Chord} (h : Apart front back)
    (hread : Chord.read? front = some (c, rest)) :
    Chord.read? (front ++ back) = some (c, rest ++ back) := by
  obtain ⟨first, tail, rfl⟩ : ∃ first tail, front = first :: tail := by
    cases front with
    | nil => cases hread
    | cons first tail => exact ⟨first, tail, rfl⟩
  cases hwhole : Chord.read? (first :: tail ++ back) with
  | none =>
    have hnone : Chord.read? (first :: tail) = none :=
      Chord.read?_eq_none_iff.mpr (Chord.read?_eq_none_iff.mp hwhole)
    rw [hnone] at hread
    cases hread
  | some found =>
    obtain ⟨d, after⟩ := found
    obtain ⟨rest', hrest'⟩ := h _ (List.cons_ne_nil first tail) (List.suffix_refl _) d after hwhole
    have hafter := Chord.text_append_of_read? hwhole
    rw [← hrest', List.append_assoc, List.append_cancel_left_eq] at hafter
    subst hafter
    have hfront := Chord.read?_of_append hwhole
    rw [hread] at hfront
    cases hfront
    rfl

/-! ## 4. Whether a word leads up to a place -/

/-- Whether a word leads up to what follows a text, where `inWord` tells it of the text itself. -/
def wordAfter (inWord : Bool) (text : List Char) : Bool :=
  text.foldl (fun _ c => Text.isWordChar c) inWord

theorem wordAfter_append (inWord : Bool) (s t : List Char) :
    wordAfter inWord (s ++ t) = wordAfter (wordAfter inWord s) t :=
  List.foldl_append

theorem wordAfter_of_ne_nil {text : List Char} (h : text ≠ []) (inWord : Bool) :
    wordAfter inWord text = endsInWord text := by
  rcases List.eq_nil_or_concat text with rfl | ⟨front, c, rfl⟩
  · exact absurd rfl h
  · simp [wordAfter, endsInWord]

/-- No word leads up to what follows a text if the last character of the text is in none. -/
theorem wordAfter_eq_false_iff {text : List Char} :
    wordAfter false text = false ↔ ∀ x ∈ text.getLast?, Text.isWordChar x = false := by
  by_cases hne : text = []
  · simp [hne, wordAfter]
  · rw [wordAfter_of_ne_nil hne, endsInWord, List.getLast?_eq_some_getLast hne]
    simp

theorem runsOn_append {s t : List Char} (h : runsOn t = false) : runsOn (s ++ t) = runsOn s := by
  cases s with
  | nil => exact h
  | cons c s => rfl

/-! ## 5. The pieces of two texts -/

/-- **Texts that are kept apart are cut one after the other.**  If no word goes on in the second,
    the first has the pieces that it has by itself. -/
theorem cut_append (inWord : Bool) {front back : List Char} (h : Apart front back) :
    ∃ ps, cut inWord (front ++ back) = ps ++ cut (wordAfter inWord front) back ∧
      ps.flatMap Piece.text = front ∧ (runsOn back = false → ps = cut inWord front) := by
  fun_induction cut inWord front with
  | case1 inWord => exact ⟨[], rfl, rfl, fun _ => rfl⟩
  | case2 c rest ih =>
    obtain ⟨ps, hcut, htext, hsame⟩ := ih (h.suffix (List.suffix_cons c rest))
    refine ⟨.copied [c] :: ps, ?_, congrArg (c :: ·) htext, fun hb => by rw [hsame hb]⟩
    rw [List.cons_append, cut_true, hcut]
    rfl
  | case3 inWord c rest _ hnone ih =>
    obtain ⟨ps, hcut, htext, hsame⟩ := ih (h.suffix (List.suffix_cons c rest))
    refine ⟨.copied [c] :: ps, ?_, congrArg (c :: ·) htext, fun hb => by rw [hsame hb]⟩
    rw [List.cons_append, cut_of_ofChar?_none _ _ (Chord.read?_eq_none_iff.mp hnone), hcut]
    rfl
  | case4 inWord c rest hword symbol after hread _ ih =>
    obtain rfl : inWord = false := Bool.eq_false_iff.mpr hword
    have happend := Chord.text_append_of_read? hread
    obtain ⟨ps, hcut, htext, hsame⟩ := ih (h.suffix (happend ▸ List.suffix_append _ _))
    have hafter : wordAfter false (c :: rest) = wordAfter (endsInWord symbol.text) after := by
      rw [← happend, wordAfter_append, wordAfter_of_ne_nil symbol.text_ne_nil]
    refine ⟨(if runsOn (after ++ back) then .copied symbol.text else .chord symbol) :: ps,
      ?_, ?_, fun hb => by rw [hsame hb, runsOn_append hb]⟩
    · rw [cut_of_read? (h.read? hread), hcut, hafter]
      rfl
    · rw [List.flatMap_cons, htext, ← happend]
      split <;> rfl

end Line

end ChordChart
