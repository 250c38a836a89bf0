/-
  File:      ChordChart/Proofs/Key/Marker.lean
  Subject:   The minor marker of a key name.

  A name is minor if it ends in `m` or `min`, and a tidy name is read as minor if it ends in `m`.
  Between the two the first `min` of the name is cut down to `m`, wherever it stands, so a name
  that ends in `min` and holds another one before that stays major.

  * `Key.marker`, `Key.RepeatsMarker`: the long marker, and a text that ends in it for a second
    time.
  * `Key.singleton_suffix_shortenMarker`: when the text that is cut down ends in `m`.
  * **`Key.modeOfTidy_tidyName`**: so a name is minor exactly if it ends in `m`, or in the only
    `min` that it holds.
  * **`Key.mode_of_ofName`**: the same for names of keys; and the tidy form of such a name names
    the key with the same tonic, and with the same mode but for a repeated marker.
  * `Key.not_always_minor`: a name that ends in `min` and is major, unlike its tidy form.
-/
import ChordChart.Proofs.Key.Naming
import Mathlib.Data.List.Basic

namespace ChordChart

/-! ## 1. Plain texts behind others -/

namespace Text

variable {α : Type}

/-- What opens with a character does not reach back into a text without it. -/
theorem cons_suffix_append_iff {c : α} {word front text : List α} (h : c ∉ front) :
    c :: word <:+ front ++ text ↔ c :: word <:+ text := by
  induction front with
  | nil => rfl
  | cons d front ih =>
    obtain ⟨hd, hfront⟩ := not_or.mp fun hmem => h (List.mem_cons.mpr hmem)
    rw [List.cons_append, List.suffix_cons_iff, ih hfront, List.cons.injEq]
    simp [hd]

theorem cons_infix_append_iff {c : α} {word front text : List α} (h : c ∉ front) :
    c :: word <:+: front ++ text ↔ c :: word <:+: text := by
  induction front with
  | nil => rfl
  | cons d front ih =>
    obtain ⟨hd, hfront⟩ := not_or.mp fun hmem => h (List.mem_cons.mpr hmem)
    rw [List.cons_append, List.infix_cons_iff, ih hfront, List.cons_prefix_cons]
    simp [hd]

/-- A text that is not empty ends as it does behind any other. -/
theorem singleton_suffix_append_iff {c : α} {front text : List α} (hne : text ≠ []) :
    [c] <:+ front ++ text ↔ [c] <:+ text := by
  rw [List.singleton_suffix_iff_getLast?_eq_some, List.singleton_suffix_iff_getLast?_eq_some,
    List.getLast?_append_of_ne_nil front hne]

end Text

namespace Key

/-! ## 2. Markers -/

/-- The long form of the minor marker. -/
def marker : List Char := ['m', 'i', 'n']

/-- The text ends in a marker and holds another one before it. -/
def RepeatsMarker (text : List Char) : Prop :=
  ∃ front, text = front ++ marker ∧ marker <:+: front

theorem endsMinor_iff {text : List Char} :
    endsMinor text = true ↔ ['m'] <:+ text ∨ marker <:+ text := by
  rw [endsMinor, Bool.or_eq_true, List.isSuffixOf_iff_suffix, List.isSuffixOf_iff_suffix]
  rfl

theorem modeOfTidy_eq_minor_iff {tidy : List Char} :
    modeOfTidy tidy = .minor ↔ ['m'] <:+ tidy := by
  rw [modeOfTidy, ← List.isSuffixOf_iff_suffix]
  split <;> simp_all

/-- No text ends in both markers. -/
theorem not_singleton_suffix_of_marker {text : List Char} (h : marker <:+ text) :
    ¬ ['m'] <:+ text := by
  intro hm
  obtain ⟨front, rfl⟩ := h
  obtain ⟨front', heq⟩ := hm
  have hlast := congrArg List.getLast? heq
  simp [marker] at hlast

theorem repeatsMarker_append_iff {front text : List Char} (h : 'm' ∉ front) :
    RepeatsMarker (front ++ text) ↔ RepeatsMarker text := by
  constructor
  · intro ⟨whole, heq, hinfix⟩
    have hsuffix : marker <:+ front ++ text := ⟨whole, heq.symm⟩
    obtain ⟨before, rfl⟩ := (Text.cons_suffix_append_iff h).mp hsuffix
    rw [← List.append_assoc] at heq
    rw [← List.append_cancel_right heq] at hinfix
    exact ⟨before, rfl, (Text.cons_infix_append_iff h).mp hinfix⟩
  · intro ⟨before, heq, hinfix⟩
    exact ⟨front ++ before, by rw [heq, List.append_assoc],
      (Text.cons_infix_append_iff h).mpr hinfix⟩

/-- A marker that ends behind another one begins behind it. -/
theorem marker_suffix_of_behind {front back : List Char} (hne : back ≠ [])
    (h : marker <:+ front ++ marker ++ back) : marker <:+ back := by
  obtain ⟨whole, heq⟩ := h
  rcases List.append_eq_append_iff.mp heq with ⟨between, hwhole, hmarker⟩ | ⟨between, -, hback⟩
  · -- The end of the first marker would be a proper part of the second one.
    have hlast := congrArg List.getLast? hwhole
    match between, hmarker with
    | [], hmarker => exact ⟨[], hmarker⟩
    | ['m'], _ => simp [marker] at hlast
    | ['m', 'i'], _ => simp [marker] at hlast
    | ['m', 'i', 'n'], hmarker => exact absurd (List.self_eq_append_right.mp hmarker) hne
    | _ :: _ :: _ :: _ :: _, hmarker => cases hmarker
  · exact ⟨between, hback.symm⟩

/-! ## 3. The first marker cut down -/

/-- **What is cut down** is the first marker of the text, if it has one. -/
theorem shortenMarker_cases (text : List Char) :
    (¬ marker <:+: text ∧ shortenMarker text = text) ∨
      ∃ front back, text = front ++ marker ++ back ∧ ¬ marker <:+: front ∧
        shortenMarker text = front ++ 'm' :: back := by
  fun_induction shortenMarker text with
  | case1 => exact .inl ⟨by decide, rfl⟩
  | case2 rest => exact .inr ⟨[], rest, rfl, by decide, rfl⟩
  | case3 c rest hno ih =>
    have hprefix : ¬ marker <+: c :: rest := by
      rintro ⟨tail, heq⟩
      obtain ⟨rfl, rfl⟩ := List.cons.inj heq
      exact hno tail rfl rfl
    rcases ih with ⟨hnone, heq⟩ | ⟨front, back, rfl, hfront, heq⟩
    · exact .inl ⟨fun h => (List.infix_cons_iff.mp h).elim hprefix hnone, by rw [heq]⟩
    · refine .inr ⟨c :: front, back, rfl, fun h => ?_, by rw [heq, List.cons_append]⟩
      rcases List.infix_cons_iff.mp h with hhead | htail
      · refine hprefix (hhead.trans ?_)
        exact ⟨marker ++ back, by simp⟩
      · exact hfront htail

/-- The text that is left ends in `m` exactly if the old one did, or ended in the first marker. -/
theorem singleton_suffix_shortenMarker {text : List Char} :
    ['m'] <:+ shortenMarker text ↔ ['m'] <:+ text ∨ marker <:+ text ∧ ¬ RepeatsMarker text := by
  rcases shortenMarker_cases text with ⟨hnone, heq⟩ | ⟨front, back, rfl, hfront, heq⟩
  · rw [heq]
    exact ⟨.inl, fun h => h.resolve_right fun hends => hnone hends.1.isInfix⟩
  · rw [heq]
    by_cases hne : back = []
    · subst hne
      rw [List.append_nil]
      refine ⟨fun _ => .inr ⟨List.suffix_append front marker, ?_⟩, fun _ => ?_⟩
      · rintro ⟨front', hwhole, hinfix⟩
        exact hfront (List.append_cancel_right hwhole ▸ hinfix)
      · exact List.suffix_append front ['m']
    · rw [List.append_cons, Text.singleton_suffix_append_iff hne,
        Text.singleton_suffix_append_iff hne]
      refine ⟨.inl, fun h => h.resolve_right fun ⟨hends, hnot⟩ => hnot ?_⟩
      obtain ⟨between, rfl⟩ := marker_suffix_of_behind hne hends
      exact ⟨front ++ marker ++ between, by simp, ⟨front, between, rfl⟩⟩

/-- A text that ends in a marker still does when the first one is cut down. -/
theorem endsMinor_shortenMarker {text : List Char} (h : endsMinor text = true) :
    endsMinor (shortenMarker text) = true := by
  rw [endsMinor_iff] at h ⊢
  rcases shortenMarker_cases text with ⟨-, heq⟩ | ⟨front, back, rfl, -, heq⟩
  · rwa [heq]
  · rw [heq]
    by_cases hne : back = []
    · exact .inl (hne ▸ List.suffix_append front ['m'])
    · have hbehind : ∀ word, word <:+ back → word <:+ front ++ 'm' :: back := fun word hword =>
        hword.trans ((List.suffix_cons 'm' back).trans (List.suffix_append front _))
      refine h.imp (fun hm => hbehind _ ?_) (fun hends => hbehind _ ?_)
      · exact (Text.singleton_suffix_append_iff hne).mp hm
      · exact marker_suffix_of_behind hne hends

theorem shortenMarker_marker (rest : List Char) :
    shortenMarker (marker ++ rest) = 'm' :: rest := rfl

theorem shortenMarker_cons {c : Char} {rest : List Char} (h : ¬ marker <+: c :: rest) :
    shortenMarker (c :: rest) = c :: shortenMarker rest := by
  rw [shortenMarker]
  rintro tail rfl rfl
  exact h ⟨tail, rfl⟩

theorem shortenMarker_cons_of_not_plain {c : Char} (h : Text.isPlain c = false)
    (rest : List Char) : shortenMarker (c :: rest) = c :: shortenMarker rest := by
  refine shortenMarker_cons fun ⟨tail, heq⟩ => ?_
  obtain ⟨rfl, -⟩ := List.cons.inj heq
  exact absurd h (by decide)

theorem head?_shortenMarker (text : List Char) : (shortenMarker text).head? = text.head? := by
  fun_cases shortenMarker text <;> rfl

end Key

namespace Text.PlainAlike

variable {s t : List Char}

/-- Texts with the same plain characters open with a marker together. -/
theorem marker_prefix_left {back : List Char} (h : PlainAlike (Key.marker ++ back) t) :
    ∃ back', t = Key.marker ++ back' ∧ PlainAlike back back' := by
  cases h with
  | other ha => exact absurd ha (by decide)
  | same c rest =>
    cases rest with
    | other ha => exact absurd ha (by decide)
    | dotted ha => exact absurd ha (by decide)
    | same c rest =>
      cases rest with
      | other ha => exact absurd ha (by decide)
      | same c rest => exact ⟨_, rfl, rest⟩

theorem marker_prefix_right {back : List Char} (h : PlainAlike s (Key.marker ++ back)) :
    ∃ back', s = Key.marker ++ back' := by
  cases h with
  | other _ hb => exact absurd hb (by decide)
  | dotted _ hb => exact absurd hb (by decide)
  | same c rest =>
    cases rest with
    | other _ hb => exact absurd hb (by decide)
    | dotted _ hb => exact absurd hb (by decide)
    | same c rest =>
      cases rest with
      | other _ hb => exact absurd hb (by decide)
      | dotted _ hb => exact absurd hb (by decide)
      | same c rest => exact ⟨_, rfl⟩

/-- Cutting down the first marker keeps the plain characters alike. -/
theorem shortenMarker (h : PlainAlike s t) :
    PlainAlike (Key.shortenMarker s) (Key.shortenMarker t) := by
  induction h with
  | nil => exact .nil
  | @same c s t rest ih =>
    by_cases hmarker : Key.marker <+: c :: s
    · obtain ⟨back, heq⟩ := hmarker
      have hwhole : PlainAlike (c :: s) (c :: t) := .same c rest
      rw [← heq] at hwhole ⊢
      obtain ⟨back', heq', hback⟩ := marker_prefix_left hwhole
      rw [heq', Key.shortenMarker_marker, Key.shortenMarker_marker]
      exact .same 'm' hback
    · have hmarker' : ¬ Key.marker <+: c :: t := by
        rintro ⟨back, heq⟩
        have hwhole : PlainAlike (c :: s) (c :: t) := .same c rest
        rw [← heq] at hwhole
        obtain ⟨back', heq'⟩ := marker_prefix_right hwhole
        exact hmarker ⟨back', heq'.symm⟩
      rw [Key.shortenMarker_cons hmarker, Key.shortenMarker_cons hmarker']
      exact .same c ih
  | other ha hb rest ih =>
    rw [Key.shortenMarker_cons_of_not_plain ha, Key.shortenMarker_cons_of_not_plain hb]
    exact .other ha hb ih
  | @dotted a b s t ha hb rest ih =>
    have hno : ¬ Key.marker <+: 'i' :: a :: s := by
      rintro ⟨tail, heq⟩
      cases heq
    rw [Key.shortenMarker_cons hno, Key.shortenMarker_cons_of_not_plain ha,
      Key.shortenMarker_cons_of_not_plain hb]
    exact .dotted ha hb ih

end Text.PlainAlike

namespace Key

/-! ## 4. The mode of a name -/

/-- A word of plain characters ends the lower case of a text exactly if it ends its small form. -/
theorem endsMinor_lowercaseAfter (before text : List Char) :
    endsMinor (Text.lowercaseAfter before text) = endsMinor (Text.small text) := by
  have halike := Text.alike_lowercaseAfter before text
  rw [Bool.eq_iff_iff, endsMinor_iff, endsMinor_iff, halike.suffix_iff rfl,
    halike.suffix_iff rfl]

theorem endsMinor_append {front text : List Char} (h : 'm' ∉ front) :
    endsMinor (front ++ text) = endsMinor text := by
  rw [Bool.eq_iff_iff, endsMinor_iff, endsMinor_iff, Text.cons_suffix_append_iff h, marker,
    Text.cons_suffix_append_iff h]

/-- What opens the name of a key is no `m`. -/
theorem toLower_ne_of_opens {c : Char} (h : c ∈ Text.scaleLetters ++ Text.expandingLetters) :
    c.toLower ≠ 'm' := by
  have hall : (Text.scaleLetters ++ Text.expandingLetters).all (fun c => c.toLower != 'm')
      = true := by decide
  exact bne_iff_ne.mp (List.all_eq_true.mp hall c h)

/-- Its capital holds neither a blank nor an `m`. -/
theorem of_mem_uppercaseChar {c d : Char} (h : c ∈ Text.scaleLetters ++ Text.expandingLetters)
    (hd : d ∈ Text.uppercaseChar c) : Text.isBlank d = false ∧ d.toLower ≠ 'm' := by
  obtain ⟨letter, extra, hcapital, hextra⟩ := Text.exists_capital h
  rw [hcapital, List.mem_cons] at hd
  rcases hd with rfl | hd
  · cases letter <;> decide
  · have hall : Text.expansionLetters.all (fun d => !Text.isBlank d && d.toLower != 'm')
        = true := by decide
    have hfacts := List.all_eq_true.mp hall d (hextra d hd)
    simpa only [Bool.and_eq_true, Bool.not_eq_true', bne_iff_ne] using hfacts

/-- A name as its marker is compared: without blanks around it, and in small letters. -/
def folded (name : List Char) : List Char := Text.small (Text.trimmed name)

/-- Of the two markers only the long one can be a repeated one. -/
theorem suffix_marker_iff {text : List Char} :
    (['m'] <:+ text ∨ marker <:+ text ∧ ¬ RepeatsMarker text) ↔
      endsMinor text = true ∧ ¬ RepeatsMarker text := by
  rw [endsMinor_iff]
  constructor
  · rintro (hm | ⟨hends, hrepeats⟩)
    · refine ⟨.inl hm, fun ⟨front, heq, _⟩ => ?_⟩
      exact not_singleton_suffix_of_marker ⟨front, heq.symm⟩ hm
    · exact ⟨.inr hends, hrepeats⟩
  · rintro ⟨hm | hends, hrepeats⟩
    · exact .inl hm
    · exact .inr ⟨hends, hrepeats⟩

section Opened

variable {name rest : List Char} {first : Char} (h : Text.trimmed name = first :: rest)
  (hopens : first ∈ Text.scaleLetters ++ Text.expandingLetters)

include h hopens

theorem endsMinor_folded :
    endsMinor (folded name) = endsMinor (Text.small rest) := by
  rw [folded, h, Text.small_cons, ← List.singleton_append]
  exact endsMinor_append fun hm => toLower_ne_of_opens hopens (List.mem_singleton.mp hm).symm

theorem repeatsMarker_folded_iff :
    RepeatsMarker (folded name) ↔ RepeatsMarker (Text.small rest) := by
  rw [folded, h, Text.small_cons, ← List.singleton_append]
  exact repeatsMarker_append_iff fun hm =>
    toLower_ne_of_opens hopens (List.mem_singleton.mp hm).symm

/-- The two shapes of a tidy name: a minor one is small and has its first marker cut down, any
    other is kept. -/
theorem tidyRest_cases :
    (endsMinor (Text.small rest) = true ∧
        tidyRest first rest = shortenMarker (Text.lowercase rest)) ∨
      (endsMinor (Text.small rest) = false ∧ tidyRest first rest = rest) := by
  have hends : endsMinor (Text.lowercase (first :: rest)) = endsMinor (Text.small rest) := by
    rw [Text.lowercase, endsMinor_lowercaseAfter, ← h]
    exact endsMinor_folded h hopens
  rw [tidyRest, hends]
  cases endsMinor (Text.small rest) with
  | true => exact .inl ⟨rfl, rfl⟩
  | false => exact .inr ⟨rfl, rfl⟩

/-- **A name is read as minor exactly if it ends in `m`, or in the only `min` that it holds.** -/
theorem modeOfTidy_tidyName :
    modeOfTidy (tidyName name) = .minor ↔
      endsMinor (folded name) = true ∧ ¬ RepeatsMarker (folded name) := by
  have hupper : 'm' ∉ Text.uppercaseChar first := fun hm => (of_mem_uppercaseChar hopens hm).2 rfl
  rw [endsMinor_folded h hopens, repeatsMarker_folded_iff h hopens, modeOfTidy_eq_minor_iff,
    tidyName_of_trimmed h, Text.cons_suffix_append_iff hupper]
  rcases tidyRest_cases h hopens with ⟨-, heq⟩ | ⟨hmajor, heq⟩
  · have halike := (Text.alike_lowercaseAfter [] rest).shortenMarker
    rw [heq, Text.lowercase, halike.suffix_iff rfl, singleton_suffix_shortenMarker,
      suffix_marker_iff]
  · rw [heq, hmajor]
    refine ⟨fun hm => ?_, fun hminor => nomatch hminor.1⟩
    have hsmall : ['m'] <:+ Text.small rest := hm.map Char.toLower
    rw [endsMinor_iff.mpr (.inl hsmall)] at hmajor
    cases hmajor

end Opened

/-! ## 5. Tidying a tidy name -/

/-- What ends in a marker does not end in a blank. -/
theorem isBlank_of_endsMinor {text : List Char} (h : endsMinor text = true) {c : Char}
    (hc : text.getLast? = some c) : Text.isBlank c = false := by
  rcases endsMinor_iff.mp h with ⟨front, rfl⟩ | ⟨front, rfl⟩
  · rw [List.getLast?_append_of_ne_nil _ (by simp)] at hc
    cases hc
    decide
  · rw [List.getLast?_append_of_ne_nil _ (by decide)] at hc
    cases hc
    decide

/-- Behind the first character of a tidy name stands no capital B, if the name asks for minor. -/
theorem head?_tidyRest_ne (s : List Char) :
    (shortenMarker (Text.lowercase s)).head? ≠ some 'B' := by
  rw [head?_shortenMarker, ne_eq, Text.lowercase,
    (Text.alike_lowercaseAfter [] s).head?_iff (by decide) (by decide)]
  cases s with
  | nil => simp
  | cons c s =>
    intro h
    have hsmall : c.toLower = 'B' := Option.some.inj h
    have hcapital : c = 'B' := (Text.eq_of_toLower_eq hsmall).elim id id
    rw [hcapital] at hsmall
    exact absurd hsmall (by decide)

/-- A sign is kept when what stands behind a root is made small and its marker is cut down. -/
theorem ofSecond_shortenMarker (c : Char) (s : List Char) :
    Accidental.ofSecond (c :: shortenMarker (Text.lowercase s))
      = Accidental.ofSecond (c :: Text.small s) := by
  have halike := Text.alike_lowercaseAfter [] s
  simp only [Accidental.ofSecond_cons, head?_shortenMarker, Text.lowercase,
    halike.head?_iff (d := '#') (by decide) (by decide),
    halike.head?_iff (d := 'b') (by decide) (by decide)]

/-- Only a capital B becomes a sign that it was not. -/
theorem ofSecond_small (c : Char) {s : List Char} (h : s.head? ≠ some 'B') :
    Accidental.ofSecond (c :: Text.small s) = Accidental.ofSecond (c :: s) := by
  cases s with
  | nil => rfl
  | cons d s =>
    have hd : d ≠ 'B' := fun heq => h (congrArg some heq)
    have hsharp : d.toLower = '#' ↔ d = '#' :=
      ⟨fun heq => (Text.eq_of_toLower_eq heq).elim id id, fun heq => by rw [heq]; decide⟩
    have hflat : d.toLower = 'b' ↔ d = 'b' :=
      ⟨fun heq => (Text.eq_of_toLower_eq heq).resolve_right hd, fun heq => by rw [heq]; decide⟩
    simp only [Accidental.ofSecond_cons, Text.small_cons, List.head?_cons, Option.some.injEq,
      hsharp, hflat]

section Opened

variable {name rest : List Char} {first : Char} (h : Text.trimmed name = first :: rest)
  (hopens : first ∈ Text.scaleLetters ++ Text.expandingLetters)

include h hopens

/-- Nothing is trimmed off a tidy name. -/
theorem trimmed_tidyName :
    Text.trimmed (tidyName name) = tidyName name := by
  obtain ⟨capital, extra, hcapital⟩ := exists_uppercaseChar first
  have hblank := fun c hc => (of_mem_uppercaseChar (d := c) hopens hc).1
  rw [tidyName_of_trimmed h]
  refine Text.trimmed_eq_self (fun c hc => hblank c ?_) (fun c hc => ?_)
  · rw [hcapital, List.cons_append, List.head?_cons] at hc
    rw [hcapital, Option.some.inj hc]
    exact List.mem_cons_self
  · by_cases hne : tidyRest first rest = []
    · rw [hne, List.append_nil] at hc
      exact hblank c (List.mem_of_getLast? hc)
    · rw [List.getLast?_append_of_ne_nil _ hne] at hc
      rcases tidyRest_cases h hopens with ⟨hminor, heq⟩ | ⟨-, heq⟩
      · rw [heq] at hc
        rw [← endsMinor_lowercaseAfter []] at hminor
        exact isBlank_of_endsMinor (endsMinor_shortenMarker hminor) hc
      · rw [heq] at hc hne
        have hlast : (Text.trimmed name).getLast? = some c := by
          rw [h, ← List.singleton_append, List.getLast?_append_of_ne_nil _ hne, hc]
        exact Text.isBlank_of_getLast?_trimmed hlast

/-- A tidy name begins with a letter of the scale, and is left as it is by trimming. -/
theorem exists_trimmed_tidyName :
    ∃ letter : Letter, ∃ extra, Text.uppercaseChar first = letter.char :: extra ∧
      (∀ d ∈ extra, d ∈ Text.expansionLetters) ∧
      Text.trimmed (tidyName name) = letter.char :: (extra ++ tidyRest first rest) := by
  obtain ⟨letter, extra, hcapital, hextra⟩ := Text.exists_capital hopens
  refine ⟨letter, extra, hcapital, hextra, ?_⟩
  rw [trimmed_tidyName h hopens, tidyName_of_trimmed h, hcapital, List.cons_append]

/-- A tidy name keeps its sign when it is tidied again. -/
theorem ofSecond_tidyName_tidyName :
    Accidental.ofSecond (tidyName (tidyName name)) = Accidental.ofSecond (tidyName name) := by
  obtain ⟨letter, extra, hcapital, hextra, hagain⟩ := exists_trimmed_tidyName h hopens
  have hletter := List.mem_append_left Text.expandingLetters (Text.char_mem_scaleLetters letter)
  rw [tidyName_of_trimmed hagain, Text.uppercaseChar_char, List.singleton_append,
    tidyName_of_trimmed h, hcapital, List.cons_append]
  rcases tidyRest_cases hagain hletter with ⟨hminor, heq⟩ | ⟨-, heq⟩
  · rw [heq, ofSecond_shortenMarker]
    refine ofSecond_small _ ?_
    cases extra with
    | cons e extra =>
      intro hB
      have he := hextra e List.mem_cons_self
      rw [Option.some.inj hB] at he
      exact absurd he (by decide)
    | nil =>
      -- The name itself asks for minor, so it was made small before.
      rw [List.nil_append] at hminor ⊢
      rcases tidyRest_cases h hopens with ⟨-, hrest⟩ | ⟨hmajor, hrest⟩
      · rw [hrest]
        exact head?_tidyRest_ne rest
      · rw [hrest, hmajor] at hminor
        cases hminor
  · rw [heq]

/-- A tidy name ends in a marker exactly if the name does. -/
theorem endsMinor_folded_tidyName :
    endsMinor (folded (tidyName name)) = endsMinor (folded name) := by
  have hupper : 'm' ∉ Text.small (Text.uppercaseChar first) := by
    intro hm
    obtain ⟨d, hd, hlower⟩ := List.mem_map.mp hm
    exact (of_mem_uppercaseChar hopens hd).2 hlower
  rw [endsMinor_folded h hopens, folded, trimmed_tidyName h hopens, tidyName_of_trimmed h,
    Text.small_append, endsMinor_append hupper]
  rcases tidyRest_cases h hopens with ⟨hminor, heq⟩ | ⟨-, heq⟩
  · rw [heq, hminor]
    rw [← endsMinor_lowercaseAfter []] at hminor
    have hshort := endsMinor_iff.mp (endsMinor_shortenMarker hminor)
    exact endsMinor_iff.mpr (hshort.imp (fun hm => hm.map Char.toLower)
      (fun hends => hends.map Char.toLower))
  · rw [heq]

end Opened

/-- **A tidy name that is tidied again names a key on the same tonic.** -/
theorem named?_tidyName_tidyName {name : List Char} {key : Key}
    (hnamed : named? (tidyName name) = some key) :
    named? (tidyName (tidyName name))
      = some ⟨key.tonic, modeOfTidy (tidyName (tidyName name))⟩ := by
  obtain ⟨first, rest, h, hopens⟩ := exists_opener_of_named? hnamed
  obtain ⟨letter, extra, hcapital, -, hagain⟩ := exists_trimmed_tidyName h hopens
  rw [named?_tidyName h hcapital] at hnamed
  obtain ⟨tonic, htonic, rfl⟩ := Option.map_eq_some_iff.mp hnamed
  rw [named?_tidyName hagain (Text.uppercaseChar_char letter),
    ofSecond_tidyName_tidyName h hopens, htonic]
  rfl

/-! ## 6. Names of keys -/

theorem mode_of_named? {tidy : List Char} {key : Key} (h : named? tidy = some key) :
    key.mode = modeOfTidy tidy := by
  obtain ⟨found, -, rfl⟩ := Option.map_eq_some_iff.mp h
  rfl

theorem endsMinor_of_repeatsMarker {text : List Char} (h : RepeatsMarker text) :
    endsMinor text = true := by
  obtain ⟨front, rfl, -⟩ := h
  exact endsMinor_iff.mpr (.inr (List.suffix_append front marker))

theorem mode_eq_iff {a b : Mode} : a = b ↔ (a = .minor ↔ b = .minor) := by
  cases a <;> cases b <;> decide

/-- **A name of a key is minor exactly if it ends in `m` or `min`, and in no repeated `min`.**  Its
    tidy form names a key on the same tonic, and in the same mode exactly if both of them repeat
    their marker or neither does. -/
theorem mode_of_ofName {name : String} {key : Key} (h : ofName name = .ok key) :
    (key.mode = .minor ↔
      (['m'] <:+ folded name.toList ∨ marker <:+ folded name.toList)
        ∧ ¬ RepeatsMarker (folded name.toList)) ∧
    ∃ again, ofName (String.ofList (tidyName name.toList)) = .ok again ∧
      again.tonic = key.tonic ∧
      (again.mode = key.mode ↔
        (RepeatsMarker (folded (tidyName name.toList)) ↔ RepeatsMarker (folded name.toList))) := by
  have hnamed := ofName_eq_ok_iff.mp h
  obtain ⟨first, rest, htrimmed, hopens⟩ := exists_opener_of_named? hnamed
  have hmode := modeOfTidy_tidyName htrimmed hopens
  rw [← mode_of_named? hnamed] at hmode
  have hagain := named?_tidyName_tidyName hnamed
  obtain ⟨first', rest', htrimmed', hopens'⟩ := exists_opener_of_named? hagain
  have hmode' := modeOfTidy_tidyName htrimmed' hopens'
  rw [endsMinor_folded_tidyName htrimmed hopens] at hmode'
  refine ⟨by rw [hmode, endsMinor_iff],
    ⟨key.tonic, modeOfTidy (tidyName (tidyName name.toList))⟩, ofName_eq_ok_iff.mpr ?_, rfl, ?_⟩
  · rw [String.toList_ofList]
    exact hagain
  · rw [mode_eq_iff, hmode', hmode]
    cases hends : endsMinor (folded name.toList) with
    | true => simp only [true_and, not_iff_not]
    | false =>
      have hname : ¬ RepeatsMarker (folded name.toList) := fun hrepeats => by
        rw [endsMinor_of_repeatsMarker hrepeats] at hends
        cases hends
      have htidy : ¬ RepeatsMarker (folded (tidyName name.toList)) := fun hrepeats => by
        rw [← endsMinor_folded_tidyName htrimmed hopens, endsMinor_of_repeatsMarker hrepeats]
          at hends
        cases hends
      simp only [hname, htidy, Bool.false_eq_true, false_and]

/-- A name that holds the marker twice, the second time in capitals. -/
theorem mode_of_ofName_twoMarkers :
    ofName " g#minorMIN\u3000" = .ok ⟨.gSharp, .major⟩ ∧
    (Mode.major = .minor ↔
      (['m'] <:+ folded " g#minorMIN\u3000".toList ∨ marker <:+ folded " g#minorMIN\u3000".toList)
        ∧ ¬ RepeatsMarker (folded " g#minorMIN\u3000".toList)) ∧
    ∃ again, ofName (String.ofList (tidyName " g#minorMIN\u3000".toList)) = .ok again ∧
      again.tonic = .gSharp ∧
      (again.mode = .major ↔
        (RepeatsMarker (folded (tidyName " g#minorMIN\u3000".toList)) ↔
          RepeatsMarker (folded " g#minorMIN\u3000".toList))) := by
  have hkey : ofName " g#minorMIN\u3000" = .ok ⟨.gSharp, .major⟩ := by rfl
  exact ⟨hkey, mode_of_ofName hkey⟩

/-- **A name that ends in `min` can be major**, and its tidy form minor: the marker that is cut down
    is not the last one. -/
theorem not_always_minor :
    (¬ ∀ (name : String) (key : Key), ofName name = .ok key →
      (key.mode = .minor ↔
        ['m'] <:+ folded name.toList ∨ marker <:+ folded name.toList)) ∧
    ¬ ∀ (name : String) (key : Key), ofName name = .ok key →
      ofName (String.ofList (tidyName name.toList)) = .ok key := by
  have hmajor : ofName "Cminmin" = .ok ⟨.c, .major⟩ := by rfl
  refine ⟨fun h => ?_, fun h => ?_⟩
  · have hends : marker <:+ folded "Cminmin".toList := by decide
    exact absurd ((h _ _ hmajor).mpr (.inr hends)) (by decide)
  · have hminor : ofName (String.ofList (tidyName "Cminmin".toList)) = .ok ⟨.c, .minor⟩ := by
      rfl
    exact absurd (hminor.symm.trans (h _ _ hmajor)) (by decide)

end Key

end ChordChart
