/-
  File:      ChordChart/Proofs/Key/Naming.lean
  Subject:   Which names are names of keys.

  * `Tonic.leading?_cons`: the tonic at the head of a text depends on its first character and on
    the sign in second place, and on nothing else (`Tonic.opened?`).
  * `Key.named?_tidyName`: so a tidy name is read from the first letter of its capital, its sign
    and its mode.
  * `Key.toOption_ofName`: a key is read from the tidy name alone (`Key.named?`); the name as it
    was typed is kept only for the error.
  * **`Key.ofName_outcome`**: a name of blanks is blank, a name that begins with a letter of the
    scale, or with one of the characters that expand to one, is that of a key, and every other
    name is refused as it was typed.
  * `Key.not_only_letters`: so a key is named without any of the fourteen letters.
-/
import ChordChart.Key.Name
import ChordChart.Proofs.Catalogue
import ChordChart.Proofs.Text.Tidying

namespace ChordChart

/-! ## 1. The tonic at the head of a text -/

theorem Accidental.ofSecond_cons (first : Char) (rest : List Char) :
    ofSecond (first :: rest) = if rest.head? = some '#' then .sharp
      else if rest.head? = some 'b' then .flat else .natural := by
  cases rest with
  | nil => rfl
  | cons second rest =>
    simp only [ofSecond, List.head?_cons, Option.some.injEq]
    unfold ofChar?
    split <;> simp_all

namespace Tonic

/-- The tonic that a first character and the sign behind it make, the longer one if there is a
    choice. -/
def opened? (first : Char) (sign : Accidental) : Option Tonic :=
  (ofSpelling? (first :: sign.sign)).or (ofSpelling? [first])

theorem isCatalogue_spelling : IsCatalogue all spelling := by
  intro t
  cases t <;> rfl

/-- A text spells a tonic exactly if it is the tonic's spelling. -/
theorem ofSpelling?_eq_some_iff {text : List Char} {t : Tonic} :
    ofSpelling? text = some t ↔ text = t.spelling :=
  isCatalogue_spelling.find?_eq_some_iff

theorem spelling_of_ofSpelling? {text : List Char} {t : Tonic} (h : ofSpelling? text = some t) :
    t.spelling = text :=
  (ofSpelling?_eq_some_iff.mp h).symm

/-- A tonic of two characters ends in a sign. -/
theorem ofSpelling?_eq_none_of_no_sign {first second : Char}
    (h : Accidental.ofChar? second = none) : ofSpelling? [first, second] = none := by
  cases htonic : ofSpelling? [first, second] with
  | none => rfl
  | some t =>
    have hspelling := spelling_of_ofSpelling? htonic
    have htail : t.note.accidental.sign = [second] := (List.cons.inj hspelling).2
    cases haccidental : t.note.accidental with
    | natural =>
      rw [haccidental] at htail
      cases htail
    | sharp =>
      rw [haccidental] at htail
      cases htail
      cases h
    | flat =>
      rw [haccidental] at htail
      cases htail
      cases h

/-- **The leading tonic depends on the first character and on the sign behind it.** -/
theorem leading?_cons (first : Char) (rest : List Char) :
    (leading? (first :: rest)).map Prod.fst
      = opened? first (Accidental.ofSecond (first :: rest)) := by
  cases rest with
  | nil =>
    cases htonic : ofSpelling? [first] <;>
      simp [leading?, opened?, Accidental.ofSecond, Accidental.sign, htonic]
  | cons second rest =>
    rw [leading?, opened?, Accidental.ofSecond]
    cases hsign : Accidental.ofChar? second with
    | none =>
      rw [ofSpelling?_eq_none_of_no_sign hsign]
      cases htonic : ofSpelling? [first] <;> simp [Accidental.sign, htonic]
    | some accidental =>
      rw [Option.getD_some, Accidental.sign_of_ofChar? hsign]
      cases ofSpelling? [first, second] <;> cases ofSpelling? [first] <;> rfl

/-- Every letter of the scale opens a tonic, with any sign behind it, and nothing else does. -/
theorem isSome_opened? (first : Char) (sign : Accidental) :
    (opened? first sign).isSome = (Letter.ofChar? first).isSome := by
  cases hletter : Letter.ofChar? first with
  | some letter =>
    rw [← Letter.char_of_ofChar? hletter]
    cases letter <;> cases sign <;> decide
  | none =>
    have hnone (tail : List Char) : ofSpelling? (first :: tail) = none := by
      cases htonic : ofSpelling? (first :: tail) with
      | none => rfl
      | some t =>
        have hhead : t.note.letter.char = first :=
          (List.cons.inj (spelling_of_ofSpelling? htonic)).1
        rw [← hhead] at hletter
        cases hl : t.note.letter <;> rw [hl] at hletter <;> cases hletter
    rw [opened?, hnone, hnone]
    rfl

end Tonic

/-! ## 2. Tidy names -/

namespace Key

/-- The key that a tidy name is read as. -/
def named? (tidy : List Char) : Option Key :=
  (Tonic.leading? tidy).map fun found => ⟨found.1, modeOfTidy tidy⟩

theorem named?_cons (first : Char) (rest : List Char) :
    named? (first :: rest)
      = (Tonic.opened? first (Accidental.ofSecond (first :: rest))).map
          (⟨·, modeOfTidy (first :: rest)⟩) := by
  rw [named?, ← Tonic.leading?_cons, Option.map_map]
  rfl

/-- What stands behind the first character of a tidy name. -/
def tidyRest (first : Char) (rest : List Char) : List Char :=
  if endsMinor (Text.lowercase (first :: rest)) then shortenMarker (Text.lowercase rest) else rest

theorem tidyName_of_trimmed {name rest : List Char} {first : Char}
    (h : Text.trimmed name = first :: rest) :
    tidyName name = Text.uppercaseChar first ++ tidyRest first rest := by
  rw [tidyName, h]
  rfl

/-- A capital is at least one character long. -/
theorem exists_uppercaseChar (c : Char) :
    ∃ first extra, Text.uppercaseChar c = first :: extra := by
  unfold Text.uppercaseChar
  split
  · next codes hlookup =>
    have hall : Text.uppercaseExpansions.all (fun entry => !entry.2.isEmpty) = true := by rfl
    obtain ⟨before, after, hentry, -⟩ := List.lookup_eq_some_iff.mp hlookup
    have hmem : (c.toNat, codes) ∈ Text.uppercaseExpansions := hentry ▸ by simp
    have hne := List.all_eq_true.mp hall _ hmem
    cases codes with
    | nil => cases hne
    | cons code codes => exact ⟨Char.ofNat code, codes.map Char.ofNat, rfl⟩
  · exact ⟨_, [], rfl⟩

/-- A name is read from the first letter of its capital, the sign of its tidy form and the mode of
    it. -/
theorem named?_tidyName {name rest extra : List Char} {first capital : Char}
    (h : Text.trimmed name = first :: rest)
    (hcapital : Text.uppercaseChar first = capital :: extra) :
    named? (tidyName name)
      = (Tonic.opened? capital (Accidental.ofSecond (tidyName name))).map
          (⟨·, modeOfTidy (tidyName name)⟩) := by
  have htidy : tidyName name = capital :: (extra ++ tidyRest first rest) := by
    rw [tidyName_of_trimmed h, hcapital, List.cons_append]
  rw [htidy, named?_cons]

theorem isSome_named?_of_trimmed {name rest : List Char} {first : Char}
    (h : Text.trimmed name = first :: rest) :
    (named? (tidyName name)).isSome = (Text.capital? first).isSome := by
  obtain ⟨capital, extra, hcapital⟩ := exists_uppercaseChar first
  rw [named?_tidyName h hcapital, Option.isSome_map, Tonic.isSome_opened?, Text.capital?, hcapital]
  rfl

/-- Only a name whose first character opens with a letter of the scale is that of a key. -/
theorem exists_opener_of_named? {name : List Char} {key : Key}
    (h : named? (tidyName name) = some key) :
    ∃ first rest, Text.trimmed name = first :: rest ∧
      first ∈ Text.scaleLetters ++ Text.expandingLetters := by
  cases htrimmed : Text.trimmed name with
  | nil =>
    rw [tidyName, htrimmed] at h
    cases h
  | cons first rest =>
    have hsome := isSome_named?_of_trimmed htrimmed
    rw [h] at hsome
    exact ⟨first, rest, rfl, Text.isSome_capital?_iff.mp hsome.symm⟩

/-! ## 3. Outcomes -/

theorem ofName_of_trimmed_nil {name : String} (h : Text.trimmed name.toList = []) :
    ofName name = .error .blank := by
  rw [ofName, tidyName, h]
  rfl

/-- A name that is not blank is read from its tidy form. -/
theorem ofName_of_trimmed {name : String} {rest : List Char} {first : Char}
    (h : Text.trimmed name.toList = first :: rest) :
    ofName name = match named? (tidyName name.toList) with
      | some key => .ok key
      | none => .error (.unknownTonic name) := by
  have hne : (tidyName name.toList).isEmpty = false := by
    obtain ⟨capital, extra, hcapital⟩ := exists_uppercaseChar first
    rw [tidyName_of_trimmed h, hcapital]
    rfl
  simp only [ofName, hne, named?]
  cases Tonic.leading? (tidyName name.toList) <;> rfl

/-- **The key of a name is that of its tidy form.** -/
theorem toOption_ofName (name : String) :
    (ofName name).toOption = named? (tidyName name.toList) := by
  cases h : Text.trimmed name.toList with
  | nil =>
    rw [ofName_of_trimmed_nil h, tidyName, h]
    rfl
  | cons first rest =>
    rw [ofName_of_trimmed h]
    cases named? (tidyName name.toList) <;> rfl

theorem ofName_eq_ok_iff {name : String} {key : Key} :
    ofName name = .ok key ↔ named? (tidyName name.toList) = some key := by
  rw [← toOption_ofName]
  cases ofName name <;> simp [Except.toOption]

/-- **What comes of a name.**  It is blank exactly if it holds nothing but blanks.  It names a key
    exactly if the first character behind the blanks is a letter of the scale, in either case, or
    one of the six characters that expand to one.  Every other name has no known tonic, and is
    handed back as it was typed. -/
theorem ofName_outcome (name : String) :
    (ofName name = .error .blank ↔ ∀ c ∈ name.toList, Text.isBlank c = true) ∧
    ((∃ key, ofName name = .ok key) ↔
      ∃ first ∈ (Text.trimmed name.toList).head?,
        first ∈ Text.scaleLetters ∨ first ∈ Text.expandingLetters) ∧
    ∀ text, ofName name = .error (.unknownTonic text) ↔
      text = name ∧ ∃ first ∈ (Text.trimmed name.toList).head?,
        first ∉ Text.scaleLetters ∧ first ∉ Text.expandingLetters := by
  rw [← Text.trimmed_eq_nil_iff]
  cases h : Text.trimmed name.toList with
  | nil => simp [ofName_of_trimmed_nil h]
  | cons first rest =>
    have hopens : (named? (tidyName name.toList)).isSome = true ↔
        first ∈ Text.scaleLetters ∨ first ∈ Text.expandingLetters := by
      rw [isSome_named?_of_trimmed h, Text.isSome_capital?_iff, List.mem_append]
    simp only [List.head?_cons, Option.mem_def, Option.some.injEq, exists_eq_left', ← not_or,
      ← hopens]
    rw [ofName_of_trimmed h]
    cases named? (tidyName name.toList) with
    | some key => simp
    | none => simp [eq_comm]

/-- **A key is named without a letter of the scale**, by a ligature whose capital begins with F. -/
theorem not_only_letters :
    ¬ ∀ name : String, (∃ key, ofName name = .ok key) ↔
      ∃ first ∈ (Text.trimmed name.toList).head?, first ∈ Text.scaleLetters := by
  intro h
  have hligature : ofName "ﬀ" = .ok ⟨.f, .major⟩ := by decide +kernel
  obtain ⟨first, hfirst, hletter⟩ := (h "ﬀ").mp ⟨_, hligature⟩
  have htrimmed : (Text.trimmed "ﬀ".toList).head? = some 'ﬀ' := by decide +kernel
  obtain rfl : first = 'ﬀ' := by
    rw [htrimmed] at hfirst
    exact (Option.some.inj hfirst).symm
  exact absurd hletter (by decide)

end Key

end ChordChart
