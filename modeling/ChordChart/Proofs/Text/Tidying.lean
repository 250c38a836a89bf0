/-
  File:      ChordChart/Proofs/Text/Tidying.lean
  Subject:   Trimming and case mapping, as they are done to a name before it is looked up.

  A name is written in a few ASCII characters, but it is compared after a case mapping of the whole
  of Unicode.  The mappings hardly ever lead into ASCII from outside.  To lower case only the Kelvin
  sign does, which becomes a `k`, and the dotted capital I, which becomes an `i` with a dot of its
  own.

  * `Text.trimmed_eq_nil_iff`, `Text.trimmed_eq_self`: what trimming leaves, and when it does
    nothing.
  * `Text.small`: only the letters A to Z made small, everything else kept.
  * `Text.apply_toLower`: what is blind to the case of these letters is blind to any.
  * **`Text.alike_lowercaseAfter`**: the lower case of a text and its small form have the same
    plain characters in the same order (`PlainAlike`), so they agree on every plain text that one
    of them is (`PlainAlike.eq_iff`) or ends in (`PlainAlike.suffix_iff`).
  * `Text.isSome_capital?_iff`: which characters have a capital that opens with a letter of the
    scale.
-/
import ChordChart.Pitch.Note
import ChordChart.Text.Blank
import ChordChart.Text.Lowercase
import ChordChart.Text.Uppercase
import Mathlib.Data.List.TakeWhile

namespace ChordChart.Text

/-! ## 1. Trimming -/

theorem isBlank_of_head?_dropWhile {text : List Char} {c : Char}
    (h : (text.dropWhile isBlank).head? = some c) : isBlank c = false := by
  have hnot := List.head?_dropWhile_not isBlank text
  rwa [h] at hnot

/-- Nothing is left exactly of a text that is all blanks. -/
theorem trimmed_eq_nil_iff {text : List Char} :
    trimmed text = [] ↔ ∀ c ∈ text, isBlank c = true := by
  rw [trimmed, List.reverse_eq_nil_iff, List.dropWhile_eq_nil_iff]
  constructor
  · intro h
    have hdrop : text.dropWhile isBlank = [] := by
      cases hdrop : text.dropWhile isBlank with
      | nil => rfl
      | cons c rest =>
        have hblank := h c (by simp [hdrop])
        rw [isBlank_of_head?_dropWhile (congrArg List.head? hdrop)] at hblank
        cases hblank
    exact List.dropWhile_eq_nil_iff.mp hdrop
  · intro h c hc
    rw [List.dropWhile_eq_nil_iff.mpr h] at hc
    cases hc

/-- What is left does not end in a blank. -/
theorem isBlank_of_getLast?_trimmed {text : List Char} {c : Char}
    (h : (trimmed text).getLast? = some c) : isBlank c = false := by
  rw [trimmed, List.getLast?_reverse] at h
  exact isBlank_of_head?_dropWhile h

theorem dropWhile_isBlank_eq_self {text : List Char}
    (h : ∀ c ∈ text.head?, isBlank c = false) : text.dropWhile isBlank = text := by
  cases text with
  | nil => rfl
  | cons c rest => rw [List.dropWhile_cons_of_neg (by simp [h c rfl])]

/-- A text without a blank at either end is left as it is. -/
theorem trimmed_eq_self {text : List Char} (hfirst : ∀ c ∈ text.head?, isBlank c = false)
    (hlast : ∀ c ∈ text.getLast?, isBlank c = false) : trimmed text = text := by
  rw [trimmed, dropWhile_isBlank_eq_self hfirst,
    dropWhile_isBlank_eq_self (by rwa [List.head?_reverse]), List.reverse_reverse]

/-! ## 2. The letters A to Z -/

/-- The text with its letters A to Z made small, and nothing else changed. -/
def small (text : List Char) : List Char := text.map Char.toLower

@[simp]
theorem small_nil : small [] = [] := rfl

@[simp]
theorem small_cons (c : Char) (text : List Char) : small (c :: text) = c.toLower :: small text :=
  rfl

@[simp]
theorem small_append (s t : List Char) : small (s ++ t) = small s ++ small t := List.map_append

/-- What holds of the first 128 characters one by one holds of every character below 128. -/
theorem forall_ascii {P : Char → Prop} (h : ∀ n < 128, P (Char.ofNat n)) {c : Char}
    (hc : c.toNat < 128) : P c := by
  have hchar := h c.toNat hc
  rwa [Char.ofNat_toNat] at hchar

/-- Outside ASCII every character is its own small form. -/
theorem toLower_of_le {c : Char} (h : 128 ≤ c.toNat) : c.toLower = c := by
  refine dif_neg fun hupper => ?_
  have hhigh : c.toNat ≤ 90 := hupper.2
  omega

/-- A character is its own small form, or one of the letters A to Z. -/
theorem toLower_cases (c : Char) :
    c.toLower = c ∨ ∃ i < 26, c = Char.ofNat (65 + i) ∧ c.toLower = Char.ofNat (97 + i) := by
  by_cases hc : c.toNat < 128
  · exact forall_ascii (P := fun c => c.toLower = c ∨
      ∃ i < 26, c = Char.ofNat (65 + i) ∧ c.toLower = Char.ofNat (97 + i)) (by decide) hc
  · exact .inl (toLower_of_le (by omega))

/-- A function that gives the capitals A to Z what it gives their small letters is blind to
    their case. -/
theorem apply_toLower {α : Type} {f : Char → α}
    (h : ∀ i < 26, f (Char.ofNat (97 + i)) = f (Char.ofNat (65 + i))) (c : Char) :
    f c.toLower = f c := by
  rcases toLower_cases c with hself | ⟨i, hi, hcapital, hsmall⟩
  · rw [hself]
  · rw [hsmall, h i hi, ← hcapital]

/-- A small letter comes of itself or of its capital. -/
theorem eq_of_toLower_eq {c d : Char} (h : c.toLower = d) : c = d ∨ c = d.toUpper := by
  rcases toLower_cases c with hself | ⟨i, hi, hcapital, hsmall⟩
  · exact .inl (hself.symm.trans h)
  · have hupper : ∀ i < 26, Char.ofNat (65 + i) = (Char.ofNat (97 + i)).toUpper := by decide
    rw [← h, hsmall, ← hupper i hi]
    exact .inr hcapital

@[simp]
theorem small_small (text : List Char) : small (small text) = small text := by
  have htwice : Char.toLower ∘ Char.toLower = Char.toLower := funext (apply_toLower (by decide))
  rw [small, small, List.map_map, htwice]

theorem isBlank_toLower (c : Char) : isBlank c.toLower = isBlank c :=
  apply_toLower (by decide) c

theorem dropWhile_isBlank_small (text : List Char) :
    (small text).dropWhile isBlank = small (text.dropWhile isBlank) := by
  have hblank : isBlank ∘ Char.toLower = isBlank := funext isBlank_toLower
  rw [small, List.dropWhile_map, hblank, small]

theorem reverse_small (text : List Char) : (small text).reverse = small text.reverse :=
  List.map_reverse.symm

/-- Trimming is blind to case. -/
theorem trimmed_small (text : List Char) : trimmed (small text) = small (trimmed text) := by
  rw [trimmed, dropWhile_isBlank_small, reverse_small, dropWhile_isBlank_small, reverse_small,
    trimmed]

/-! ## 3. Runs -/

theorem CaseRun.image_cases (runs : List CaseRun) (code : Nat) :
    image runs code = code ∨
      ∃ run ∈ runs, run.first ≤ code ∧ code ≤ run.last ∧
        image runs code = (code + run.distance).toNat := by
  fun_induction image runs code with
  | case1 => exact .inl rfl
  | case2 => exact .inl rfl
  | case3 run rest code hfirst hlast hstride =>
    exact .inr ⟨run, List.mem_cons_self, by omega, hlast, rfl⟩
  | case4 => exact .inl rfl
  | case5 run rest code hfirst hlast ih =>
    rcases ih with hself | ⟨other, hmem, hother⟩
    · exact .inl hself
    · exact .inr ⟨other, List.mem_cons_of_mem _ hmem, hother⟩

/-- A run that keeps the characters from 128 on there, but for a single one that goes to one of
    the exceptions. -/
def CaseRun.staysOut (exceptions : List Nat) (run : CaseRun) : Bool :=
  run.last < 128 || decide (128 ≤ run.first + run.distance) ||
    (run.first == run.last && exceptions.contains (run.first + run.distance).toNat)

/-- Runs that stay out of ASCII lead there only to their exceptions.  Zero is what a code point
    that is no character becomes. -/
theorem CaseRun.toNat_apply {runs : List CaseRun} {exceptions : List Nat}
    (h : runs.all (staysOut exceptions) = true) {c : Char} (hc : 128 ≤ c.toNat) :
    128 ≤ (apply runs c).toNat ∨ (apply runs c).toNat ∈ 0 :: exceptions := by
  have himage : 128 ≤ image runs c.toNat ∨ image runs c.toNat ∈ exceptions := by
    rcases image_cases runs c.toNat with hself | ⟨run, hmem, hfirst, hlast, himage⟩
    · exact .inl (by omega)
    · have hout := List.all_eq_true.mp h run hmem
      simp only [staysOut, Bool.or_eq_true, decide_eq_true_eq, Bool.and_eq_true, beq_iff_eq,
        List.contains_iff_mem] at hout
      rw [himage]
      rcases hout with (hascii | habove) | ⟨hsingle, hexception⟩
      · omega
      · exact .inl (by omega)
      · have hcode : c.toNat = run.first := by omega
        rw [hcode]
        exact .inr hexception
  rw [apply]
  by_cases hvalid : (image runs c.toNat).isValidChar
  · rw [Char.ofNat, dif_pos hvalid]
    exact himage.imp id (List.mem_cons_of_mem 0)
  · rw [Char.ofNat, dif_neg hvalid]
    exact .inr List.mem_cons_self

/-! ## 4. Lower case -/

/-- A visible character of ASCII, besides the `k`, which the Kelvin sign becomes as well. -/
def isPlain (c : Char) : Bool := 33 ≤ c.toNat && c.toNat ≤ 126 && c != 'k'

theorem isPlain_iff {c : Char} : isPlain c = true ↔ 33 ≤ c.toNat ∧ c.toNat ≤ 126 ∧ c ≠ 'k' := by
  simp [isPlain, and_assoc]

/-- A plain character is the lower case of nothing but itself and its capital. -/
theorem apply_lowercaseRuns_iff {c d : Char} (hd : isPlain d = true) :
    CaseRun.apply lowercaseRuns c = d ↔ c.toLower = d := by
  by_cases hc : c.toNat < 128
  · have hascii : ∀ n < 128,
        CaseRun.apply lowercaseRuns (Char.ofNat n) = (Char.ofNat n).toLower := by decide
    rw [forall_ascii (P := fun c => CaseRun.apply lowercaseRuns c = c.toLower) hascii hc]
  · have hout : lowercaseRuns.all (CaseRun.staysOut [107]) = true := by decide +kernel
    have hlowered := CaseRun.toNat_apply hout (c := c) (by omega)
    obtain ⟨hlow, hhigh, hk⟩ := isPlain_iff.mp hd
    have hcode : d.toNat ≠ 107 := fun heq => hk (Char.toNat_inj.mp heq)
    simp only [List.mem_cons, List.not_mem_nil, or_false] at hlowered
    rw [toLower_of_le (by omega)]
    constructor
    · rintro rfl
      omega
    · rintro rfl
      omega

/-- Texts with the same plain characters in the same order.  Where one has a character that is not
    plain, so has the other, and in the first an `i` may stand in front of it. -/
inductive PlainAlike : List Char → List Char → Prop where
  | nil : PlainAlike [] []
  | same (c : Char) {s t : List Char} (rest : PlainAlike s t) : PlainAlike (c :: s) (c :: t)
  | other {a b : Char} {s t : List Char} (ha : isPlain a = false) (hb : isPlain b = false)
      (rest : PlainAlike s t) : PlainAlike (a :: s) (b :: t)
  | dotted {a b : Char} {s t : List Char} (ha : isPlain a = false) (hb : isPlain b = false)
      (rest : PlainAlike s t) : PlainAlike ('i' :: a :: s) (b :: t)

/-- **Lower case and small letters give the same plain characters.** -/
theorem alike_lowercaseAfter (before text : List Char) :
    PlainAlike (lowercaseAfter before text) (small text) := by
  induction text generalizing before with
  | nil => exact .nil
  | cons c text ih =>
    have hrest := ih (c :: before)
    rw [lowercaseAfter, small_cons]
    by_cases hsigma : c = 'Σ'
    · subst hsigma
      rw [if_pos rfl]
      split
      · exact .other (by decide) (by decide) hrest
      · exact .other (by decide) (by decide) hrest
    · rw [if_neg hsigma, lowercaseChar]
      by_cases hdotted : c = 'İ'
      · subst hdotted
        rw [if_pos rfl]
        exact .dotted (by decide) (by decide) hrest
      · rw [if_neg hdotted]
        cases hlower : isPlain (CaseRun.apply lowercaseRuns c) with
        | true =>
          rw [(apply_lowercaseRuns_iff hlower).mp rfl]
          exact .same _ hrest
        | false =>
          cases hsmall : isPlain c.toLower with
          | true =>
            rw [(apply_lowercaseRuns_iff hsmall).mpr rfl]
            exact .same _ hrest
          | false => exact .other hlower hsmall hrest

/-- A plain text at the end does not reach back over a character that is not plain. -/
theorem suffix_cons_iff_of_not_plain {a : Char} {s word : List Char} (ha : isPlain a = false)
    (hword : word.all isPlain = true) : word <:+ a :: s ↔ word <:+ s := by
  rw [List.suffix_cons_iff]
  constructor
  · rintro (rfl | hsuffix)
    · simp [ha] at hword
    · exact hsuffix
  · exact .inr

namespace PlainAlike

variable {s t word : List Char}

/-- **Two such texts are the same plain text, or neither is.** -/
theorem eq_iff (h : PlainAlike s t) (hword : word.all isPlain = true) : s = word ↔ t = word := by
  induction h generalizing word with
  | nil => rfl
  | same c rest ih =>
    cases word with
    | nil => simp
    | cons d word =>
      rw [List.all_cons, Bool.and_eq_true] at hword
      rw [List.cons.injEq, List.cons.injEq, ih hword.2]
  | other ha hb rest ih =>
    constructor
    · rintro rfl
      simp [ha] at hword
    · rintro rfl
      simp [hb] at hword
  | dotted ha hb rest ih =>
    constructor
    · rintro rfl
      simp [ha] at hword
    · rintro rfl
      simp [hb] at hword

/-- **Two such texts end in the same plain texts.** -/
theorem suffix_iff (h : PlainAlike s t) (hword : word.all isPlain = true) :
    word <:+ s ↔ word <:+ t := by
  induction h with
  | nil => rfl
  | same c rest ih =>
    rw [List.suffix_cons_iff, List.suffix_cons_iff, ih, eq_comm, eq_iff (.same c rest) hword,
      eq_comm]
  | other ha hb rest ih =>
    rw [suffix_cons_iff_of_not_plain ha hword, suffix_cons_iff_of_not_plain hb hword, ih]
  | dotted ha hb rest ih =>
    rw [List.suffix_cons_iff, suffix_cons_iff_of_not_plain ha hword,
      suffix_cons_iff_of_not_plain hb hword, ih]
    constructor
    · rintro (rfl | hsuffix)
      · simp [ha] at hword
      · exact hsuffix
    · exact .inr

/-- Two such texts open with the same plain character, an `i` aside. -/
theorem head?_iff (h : PlainAlike s t) {d : Char} (hd : isPlain d = true) (hi : d ≠ 'i') :
    s.head? = some d ↔ t.head? = some d := by
  cases h with
  | nil => rfl
  | same c rest => rfl
  | other ha hb rest =>
    simp only [List.head?_cons, Option.some.injEq]
    constructor
    · rintro rfl
      exact absurd hd (by simp [ha])
    · rintro rfl
      exact absurd hd (by simp [hb])
  | dotted ha hb rest =>
    simp only [List.head?_cons, Option.some.injEq]
    constructor
    · rintro rfl
      exact absurd rfl hi
    · rintro rfl
      exact absurd hd (by simp [hb])

end PlainAlike

/-! ## 5. Capitals -/

/-- The letters of the scale in either case. -/
def scaleLetters : List Char := "ABCDEFGabcdefg".toList

/-- Characters that are no letter of the scale, but whose capital is one with more behind it: an
    `a` with a half ring, and the ligatures that begin with `f`. -/
def expandingLetters : List Char := ['ẚ', 'ﬀ', 'ﬁ', 'ﬂ', 'ﬃ', 'ﬄ']

/-- What stands behind the first letter in their capitals. -/
def expansionLetters : List Char := ['ʾ', 'F', 'I', 'L']

/-- The letter of the scale that the capital of a character opens with. -/
def capital? (c : Char) : Option Letter := (uppercaseChar c).head?.bind Letter.ofChar?

/-- No character of ASCII has a capital of several characters. -/
theorem lookup_uppercaseExpansions {code : Nat} (hcode : code < 128) :
    uppercaseExpansions.lookup code = none := by
  have hall : uppercaseExpansions.all (fun entry => 128 ≤ entry.1) = true := by decide
  rw [List.lookup_eq_none_iff]
  intro entry hentry
  have hentry := of_decide_eq_true (List.all_eq_true.mp hall entry hentry)
  exact bne_iff_ne.mpr (by omega)

theorem uppercaseChar_of_lt {c : Char} (hc : c.toNat < 128) : uppercaseChar c = [c.toUpper] := by
  have hascii : ∀ n < 128,
      CaseRun.apply uppercaseRuns (Char.ofNat n) = (Char.ofNat n).toUpper := by decide
  simp only [uppercaseChar, lookup_uppercaseExpansions hc]
  rw [forall_ascii (P := fun c => CaseRun.apply uppercaseRuns c = c.toUpper) hascii hc]

/-- The capital of a letter does not depend on its case. -/
theorem uppercaseChar_toLower (c : Char) : uppercaseChar c.toLower = uppercaseChar c :=
  apply_toLower (by decide) c

theorem uppercaseChar_of_scaleLetter {c : Char} (h : c ∈ scaleLetters) :
    uppercaseChar c = [c.toUpper] := by
  have hall : scaleLetters.all (fun c => c.toNat < 128) = true := by decide
  exact uppercaseChar_of_lt (of_decide_eq_true (List.all_eq_true.mp hall c h))

theorem char_mem_scaleLetters (letter : Letter) : letter.char ∈ scaleLetters := by
  cases letter <;> decide

theorem uppercaseChar_char (letter : Letter) : uppercaseChar letter.char = [letter.char] := by
  rw [uppercaseChar_of_scaleLetter (char_mem_scaleLetters letter)]
  cases letter <;> rfl

/-- The capital of a letter of the scale, or of one of the six characters, is a letter of the
    scale with little behind it. -/
theorem exists_capital {c : Char} (h : c ∈ scaleLetters ++ expandingLetters) :
    ∃ letter : Letter, ∃ extra, uppercaseChar c = letter.char :: extra ∧
      ∀ d ∈ extra, d ∈ expansionLetters := by
  have hall : (scaleLetters ++ expandingLetters).all (fun c => (capital? c).isSome
      && (uppercaseChar c).tail.all expansionLetters.contains) = true := by rfl
  obtain ⟨hsome, hextra⟩ := Bool.and_eq_true_iff.mp (List.all_eq_true.mp hall c h)
  obtain ⟨letter, hletter⟩ := Option.isSome_iff_exists.mp hsome
  obtain ⟨first, hfirst, hletter⟩ := Option.bind_eq_some_iff.mp hletter
  obtain ⟨extra, hcapital⟩ := List.head?_eq_some_iff.mp hfirst
  rw [hcapital, List.tail_cons] at hextra
  refine ⟨letter, extra, by rw [hcapital, Letter.char_of_ofChar? hletter], fun d hd => ?_⟩
  exact List.contains_iff_mem.mp (List.all_eq_true.mp hextra d hd)

theorem toNat_of_ofChar? {c : Char} (h : (Letter.ofChar? c).isSome = true) :
    65 ≤ c.toNat ∧ c.toNat ≤ 71 := by
  obtain ⟨letter, hletter⟩ := Option.isSome_iff_exists.mp h
  rw [← Letter.char_of_ofChar? hletter]
  cases letter <;> decide

/-- No other character outside ASCII has a capital that opens with a letter of the scale. -/
theorem mem_expandingLetters {c : Char} (hc : 128 ≤ c.toNat) (h : (capital? c).isSome = true) :
    c ∈ expandingLetters := by
  cases hlookup : uppercaseExpansions.lookup c.toNat with
  | some codes =>
    have hall : uppercaseExpansions.all (fun entry =>
        !((entry.2.map Char.ofNat).head?.bind Letter.ofChar?).isSome
          || expandingLetters.contains (Char.ofNat entry.1)) = true := by decide +kernel
    obtain ⟨before, after, hentry, -⟩ := List.lookup_eq_some_iff.mp hlookup
    have hmem : (c.toNat, codes) ∈ uppercaseExpansions := hentry ▸ by simp
    simp only [capital?, uppercaseChar, hlookup] at h
    rcases Bool.or_eq_true_iff.mp (List.all_eq_true.mp hall _ hmem) with hnone | hexpanding
    · rw [h] at hnone
      cases hnone
    · rw [Char.ofNat_toNat] at hexpanding
      exact List.contains_iff_mem.mp hexpanding
  | none =>
    have hout : uppercaseRuns.all (CaseRun.staysOut [73, 83]) = true := by decide +kernel
    have hraised := CaseRun.toNat_apply hout hc
    rw [capital?, uppercaseChar, hlookup] at h
    have hletter := toNat_of_ofChar? h
    simp only [List.mem_cons, List.not_mem_nil, or_false] at hraised
    omega

/-- **The capital of a character opens with a letter of the scale** exactly if the character is
    such a letter in either case, or one of six that expand to one. -/
theorem isSome_capital?_iff {c : Char} :
    (capital? c).isSome = true ↔ c ∈ scaleLetters ++ expandingLetters := by
  constructor
  · intro h
    by_cases hc : c.toNat < 128
    · have hascii : ∀ n < 128, (Letter.ofChar? (Char.ofNat n).toUpper).isSome = true →
          Char.ofNat n ∈ scaleLetters := by decide
      rw [capital?, uppercaseChar_of_lt hc] at h
      exact List.mem_append_left _ (forall_ascii
        (P := fun c => (Letter.ofChar? c.toUpper).isSome = true → c ∈ scaleLetters) hascii hc h)
    · exact List.mem_append_right _ (mem_expandingLetters (by omega) h)
  · intro h
    obtain ⟨letter, extra, hcapital, -⟩ := exists_capital h
    rw [capital?, hcapital, List.head?_cons, Option.bind_some, Letter.ofChar?_char]
    rfl

end ChordChart.Text
