/-
  File:      ChordChart/Proofs/Key/LetterCase.lean
  Subject:   The case in which a key name is typed.

  The first letter of a name is made a capital and a minor name is made small behind it, so the case
  in which these are typed does not matter.  A major name is kept behind its first letter, and there
  a capital B is no flat sign: `BB` is B major, while `Bb` and `bb` are B flat major.

  * `Key.flattenedLetters`: the letters that a flat makes a tonic of.
  * `Key.keepsCapitalB`: a major name with a capital B behind such a letter.
  * **`Key.named?_small_iff`**: exactly these names name another key when they are typed in small
    letters.
  * `Key.named?_eq_of_small_eq`: names that differ in their case alone, and keep a capital B both
    or neither, name one key.
-/
import ChordChart.Proofs.Key.Marker

namespace ChordChart.Key

/-! ## 1. Names in small letters -/

/-- The letters, in either case, that a flat makes another tonic of: all but F. -/
def flattenedLetters : List Char := "ABCDEGabcdeg".toList

/-- A major name in which a capital B stands where a small one would flatten the tonic. -/
def keepsCapitalB (name : List Char) : Bool :=
  match Text.trimmed name with
  | first :: second :: _ =>
    flattenedLetters.contains first && second == 'B' && !endsMinor (folded name)
  | _ => false

theorem folded_small (name : List Char) : folded (Text.small name) = folded name := by
  rw [folded, folded, Text.trimmed_small, Text.small_small]

theorem capital?_toLower (c : Char) : Text.capital? c.toLower = Text.capital? c := by
  rw [Text.capital?, Text.capital?, Text.uppercaseChar_toLower]

variable {name rest : List Char} {first : Char}

theorem trimmed_small_of_trimmed (h : Text.trimmed name = first :: rest) :
    Text.trimmed (Text.small name) = first.toLower :: Text.small rest := by
  rw [Text.trimmed_small, h, Text.small_cons]

theorem mem_openers_toLower (h : first ∈ Text.scaleLetters ++ Text.expandingLetters) :
    first.toLower ∈ Text.scaleLetters ++ Text.expandingLetters := by
  rw [← Text.isSome_capital?_iff] at h ⊢
  rwa [capital?_toLower]

/-- The mode of a name is blind to case. -/
theorem modeOfTidy_tidyName_small (h : Text.trimmed name = first :: rest)
    (hopens : first ∈ Text.scaleLetters ++ Text.expandingLetters) :
    modeOfTidy (tidyName (Text.small name)) = modeOfTidy (tidyName name) := by
  rw [mode_eq_iff, modeOfTidy_tidyName h hopens, modeOfTidy_tidyName (trimmed_small_of_trimmed h)
    (mem_openers_toLower hopens), folded_small]

theorem keepsCapitalB_of_trimmed (h : Text.trimmed name = first :: rest) :
    keepsCapitalB name = (flattenedLetters.contains first && rest.head? == some 'B'
      && !endsMinor (folded name)) := by
  cases rest with
  | nil => simp [keepsCapitalB, h]
  | cons second rest => simp only [keepsCapitalB, h, List.head?_cons, Option.some_beq_some]

/-! ## 2. The sign of the tonic -/

/-- What a character expands to besides its first letter does not begin with a sign. -/
theorem ofSecond_tidyName_expanded (h : Text.trimmed name = first :: rest)
    (hexpanding : first ∈ Text.expandingLetters) :
    Accidental.ofSecond (tidyName name) = .natural := by
  obtain ⟨letter, extra, hcapital, hextra⟩ :=
    Text.exists_capital (List.mem_append_right Text.scaleLetters hexpanding)
  rw [tidyName_of_trimmed h, hcapital]
  cases extra with
  | nil =>
    have hall : Text.expandingLetters.all (fun c => (Text.uppercaseChar c).length != 1) = true := by
      rfl
    have hlength := bne_iff_ne.mp (List.all_eq_true.mp hall first hexpanding)
    rw [hcapital] at hlength
    exact absurd rfl hlength
  | cons second extra =>
    have hall : Text.expansionLetters.all (fun d => (Accidental.ofChar? d).isNone) = true := by
      decide
    have hnone := List.all_eq_true.mp hall second (hextra second List.mem_cons_self)
    rw [List.cons_append, List.cons_append, Accidental.ofSecond,
      Option.isNone_iff_eq_none.mp hnone]
    rfl

/-- The sign that a name is read with is its own; a minor name is made small before. -/
theorem ofSecond_tidyName (h : Text.trimmed name = first :: rest)
    (hletter : first ∈ Text.scaleLetters) :
    Accidental.ofSecond (tidyName name)
      = if endsMinor (folded name) then Accidental.ofSecond (folded name)
        else Accidental.ofSecond (Text.trimmed name) := by
  have hopens := List.mem_append_left Text.expandingLetters hletter
  rw [endsMinor_folded h hopens, folded, h, Text.small_cons, tidyName_of_trimmed h,
    Text.uppercaseChar_of_scaleLetter hletter, List.singleton_append]
  rcases tidyRest_cases h hopens with ⟨hminor, heq⟩ | ⟨hmajor, heq⟩
  · rw [if_pos hminor, heq, ofSecond_shortenMarker, Accidental.ofSecond_cons,
      Accidental.ofSecond_cons]
  · rw [hmajor, heq, if_neg Bool.false_ne_true, Accidental.ofSecond_cons, Accidental.ofSecond_cons]

theorem mem_scaleLetters_toLower (h : first ∈ Text.scaleLetters) :
    first.toLower ∈ Text.scaleLetters := by
  have hall : Text.scaleLetters.all (fun c => Text.scaleLetters.contains c.toLower) = true := by
    decide
  exact List.contains_iff_mem.mp (List.all_eq_true.mp hall first h)

theorem toLower_of_expandingLetter (h : first ∈ Text.expandingLetters) : first.toLower = first := by
  have hall : Text.expandingLetters.all (fun c => c.toLower == c) = true := by decide
  exact beq_iff_eq.mp (List.all_eq_true.mp hall first h)

/-- The sign is read the same in small letters, but for a capital B of a major name. -/
theorem ofSecond_tidyName_small (h : Text.trimmed name = first :: rest)
    (hopens : first ∈ Text.scaleLetters ++ Text.expandingLetters)
    (hkept : rest.head? = some 'B' → first ∈ Text.scaleLetters →
      endsMinor (folded name) = true) :
    Accidental.ofSecond (tidyName (Text.small name)) = Accidental.ofSecond (tidyName name) := by
  have hsmall := trimmed_small_of_trimmed h
  rcases List.mem_append.mp hopens with hletter | hexpanding
  · rw [ofSecond_tidyName h hletter,
      ofSecond_tidyName hsmall (mem_scaleLetters_toLower hletter), folded_small]
    cases hminor : endsMinor (folded name) with
    | true => rfl
    | false =>
      have hB : rest.head? ≠ some 'B' := fun hB => by
        rw [hkept hB hletter] at hminor
        cases hminor
      simp only [if_neg Bool.false_ne_true]
      rw [hsmall, h, ofSecond_small first.toLower hB, Accidental.ofSecond_cons,
        Accidental.ofSecond_cons]
  · rw [ofSecond_tidyName_expanded h hexpanding, ofSecond_tidyName_expanded hsmall
      (by rwa [toLower_of_expandingLetter hexpanding])]

/-! ## 3. Names in another case -/

/-- A flat makes another tonic of each letter but F. -/
theorem opened?_flat_eq_iff {c : Char} (h : c ∈ Text.scaleLetters) :
    Tonic.opened? c.toUpper .flat = Tonic.opened? c.toUpper .natural ↔
      flattenedLetters.contains c = false := by
  have hall : Text.scaleLetters.all (fun c =>
      decide (Tonic.opened? c.toUpper .flat = Tonic.opened? c.toUpper .natural)
        == !flattenedLetters.contains c) = true := by decide
  have hc := beq_iff_eq.mp (List.all_eq_true.mp hall c h)
  rw [← Bool.not_eq_true', ← hc, decide_eq_true_iff]

theorem mem_scaleLetters_of_flattened {c : Char} (h : flattenedLetters.contains c = true) :
    c ∈ Text.scaleLetters := by
  have hall : flattenedLetters.all Text.scaleLetters.contains = true := by decide
  exact List.contains_iff_mem.mp (List.all_eq_true.mp hall c (List.contains_iff_mem.mp h))

/-- A name is read as one key in both cases if it is read with one sign. -/
theorem named?_small_of_ofSecond_eq (h : Text.trimmed name = first :: rest)
    (hopens : first ∈ Text.scaleLetters ++ Text.expandingLetters)
    (hsign : Accidental.ofSecond (tidyName (Text.small name))
      = Accidental.ofSecond (tidyName name)) :
    named? (tidyName (Text.small name)) = named? (tidyName name) := by
  obtain ⟨capital, extra, hcapital⟩ := exists_uppercaseChar first
  have hsmall : Text.uppercaseChar first.toLower = capital :: extra := by
    rw [Text.uppercaseChar_toLower, hcapital]
  rw [named?_tidyName h hcapital, named?_tidyName (trimmed_small_of_trimmed h) hsmall, hsign,
    modeOfTidy_tidyName_small h hopens]

theorem modeOfTidy_of_not_endsMinor (h : Text.trimmed name = first :: rest)
    (hletter : first ∈ Text.scaleLetters) (hmajor : endsMinor (folded name) = false) :
    modeOfTidy (tidyName name) = .major := by
  have hmode := modeOfTidy_tidyName h (List.mem_append_left Text.expandingLetters hletter)
  rw [hmajor] at hmode
  cases htidy : modeOfTidy (tidyName name) with
  | major => rfl
  | minor => exact nomatch (hmode.mp htidy).1

/-- A name that does not begin a key in one case does not begin one in the other. -/
theorem named?_small_of_not_mem (h : Text.trimmed name = first :: rest)
    (hopens : first ∉ Text.scaleLetters ++ Text.expandingLetters) :
    named? (tidyName (Text.small name)) = named? (tidyName name) := by
  rw [← Text.isSome_capital?_iff, Bool.not_eq_true] at hopens
  have hname := isSome_named?_of_trimmed h
  have hsmall := isSome_named?_of_trimmed (trimmed_small_of_trimmed h)
  rw [capital?_toLower, hopens] at hsmall
  rw [hopens] at hname
  rw [Option.isNone_iff_eq_none.mp (Option.isSome_eq_false_iff.mp hname),
    Option.isNone_iff_eq_none.mp (Option.isSome_eq_false_iff.mp hsmall)]

/-- A major name with a capital B behind a letter of the scale is natural. -/
theorem named?_of_capitalB (h : Text.trimmed name = first :: rest)
    (hletter : first ∈ Text.scaleLetters) (hB : rest.head? = some 'B')
    (hmajor : endsMinor (folded name) = false) :
    named? (tidyName name) = (Tonic.opened? first.toUpper .natural).map (⟨·, .major⟩) := by
  have hnatural : Accidental.ofSecond (tidyName name) = .natural := by
    rw [ofSecond_tidyName h hletter, hmajor, if_neg Bool.false_ne_true, h,
      Accidental.ofSecond_cons, hB]
    rfl
  rw [named?_tidyName h (Text.uppercaseChar_of_scaleLetter hletter), hnatural,
    modeOfTidy_of_not_endsMinor h hletter hmajor]

/-- In small letters it is flat. -/
theorem named?_small_of_capitalB (h : Text.trimmed name = first :: rest)
    (hletter : first ∈ Text.scaleLetters) (hB : rest.head? = some 'B')
    (hmajor : endsMinor (folded name) = false) :
    named? (tidyName (Text.small name))
      = (Tonic.opened? first.toUpper .flat).map (⟨·, .major⟩) := by
  have hsmall := trimmed_small_of_trimmed h
  have hsmallLetter := mem_scaleLetters_toLower hletter
  have hsmallMajor : endsMinor (folded (Text.small name)) = false := by rwa [folded_small]
  have hhead : (Text.small rest).head? = some 'b' := by
    rw [Text.small, List.head?_map, hB]
    rfl
  have hflat : Accidental.ofSecond (tidyName (Text.small name)) = .flat := by
    rw [ofSecond_tidyName hsmall hsmallLetter, hsmallMajor, if_neg Bool.false_ne_true, hsmall,
      Accidental.ofSecond_cons, hhead]
    rfl
  have hcapital : Text.uppercaseChar first.toLower = [first.toUpper] := by
    rw [Text.uppercaseChar_toLower, Text.uppercaseChar_of_scaleLetter hletter]
  rw [named?_tidyName hsmall hcapital, hflat,
    modeOfTidy_of_not_endsMinor hsmall hsmallLetter hsmallMajor]

/-- **A name names another key in small letters exactly if** it is a major name with a capital B
    behind a letter that a flat makes another tonic of. -/
theorem named?_small_iff (name : List Char) :
    named? (tidyName (Text.small name)) = named? (tidyName name) ↔
      keepsCapitalB name = false := by
  cases h : Text.trimmed name with
  | nil => simp [tidyName, Text.trimmed_small, h, keepsCapitalB]
  | cons first rest =>
    rw [keepsCapitalB_of_trimmed h]
    by_cases hcapitalB : rest.head? = some 'B' ∧ first ∈ Text.scaleLetters ∧
        endsMinor (folded name) = false
    · obtain ⟨hB, hletter, hmajor⟩ := hcapitalB
      have hinjective : Function.Injective fun tonic : Tonic => (⟨tonic, .major⟩ : Key) :=
        fun _ _ heq => congrArg Key.tonic heq
      rw [named?_small_of_capitalB h hletter hB hmajor, named?_of_capitalB h hletter hB hmajor,
        (Option.map_injective hinjective).eq_iff, opened?_flat_eq_iff hletter, hB, hmajor]
      simp only [beq_self_eq_true, Bool.not_false, Bool.and_true]
    · have hkept : rest.head? = some 'B' → first ∈ Text.scaleLetters →
          endsMinor (folded name) = true := fun hB hletter => by
        rw [← Bool.not_eq_false]
        exact fun hmajor => hcapitalB ⟨hB, hletter, hmajor⟩
      have hname : named? (tidyName (Text.small name)) = named? (tidyName name) := by
        by_cases hopens : first ∈ Text.scaleLetters ++ Text.expandingLetters
        · exact named?_small_of_ofSecond_eq h hopens (ofSecond_tidyName_small h hopens hkept)
        · exact named?_small_of_not_mem h hopens
      refine iff_of_true hname (Bool.eq_false_iff.mpr fun hkeeps => ?_)
      simp only [Bool.and_eq_true, beq_iff_eq, Bool.not_eq_true'] at hkeeps
      obtain ⟨⟨hflattened, hB⟩, hmajor⟩ := hkeeps
      exact hcapitalB ⟨hB, mem_scaleLetters_of_flattened hflattened, hmajor⟩

theorem keepsCapitalB_iff {name : List Char} :
    keepsCapitalB name = true ↔ ∃ first rest, Text.trimmed name = first :: rest ∧
      flattenedLetters.contains first = true ∧ rest.head? = some 'B' ∧
      endsMinor (folded name) = false := by
  cases h : Text.trimmed name with
  | nil => simp [keepsCapitalB, h]
  | cons first rest =>
    rw [keepsCapitalB_of_trimmed h]
    simp [and_assoc]

/-- **Two names that differ in their case alone name one key** if both of them keep a capital B or
    neither does. -/
theorem named?_eq_of_small_eq {name other : List Char} (h : Text.small name = Text.small other)
    (hkeeps : keepsCapitalB name = keepsCapitalB other) :
    named? (tidyName name) = named? (tidyName other) := by
  cases hname : keepsCapitalB name with
  | false =>
    rw [← (named?_small_iff name).mpr hname, h, (named?_small_iff other).mpr (hkeeps ▸ hname)]
  | true =>
    obtain ⟨first, rest, htrimmed, hletter, hB, hmajor⟩ := keepsCapitalB_iff.mp hname
    obtain ⟨first', rest', htrimmed', hletter', hB', hmajor'⟩ :=
      keepsCapitalB_iff.mp (hkeeps ▸ hname)
    have hscale := mem_scaleLetters_of_flattened hletter
    have hscale' := mem_scaleLetters_of_flattened hletter'
    have htrim := congrArg Text.trimmed h
    rw [trimmed_small_of_trimmed htrimmed, trimmed_small_of_trimmed htrimmed'] at htrim
    have hcapital : [first.toUpper] = [first'.toUpper] := by
      rw [← Text.uppercaseChar_of_scaleLetter hscale, ← Text.uppercaseChar_of_scaleLetter hscale',
        ← Text.uppercaseChar_toLower first, (List.cons.inj htrim).1, Text.uppercaseChar_toLower]
    rw [named?_of_capitalB htrimmed hscale hB hmajor,
      named?_of_capitalB htrimmed' hscale' hB' hmajor', (List.cons.inj hcapital).1]

end ChordChart.Key
