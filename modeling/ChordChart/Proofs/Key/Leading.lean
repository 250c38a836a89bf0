/-
  File:      ChordChart/Proofs/Key/Leading.lean
  Subject:   The longest tonic at the head of a text.

  * `Tonic.Leads`: a tonic stands at the head of a text and no longer one does.  There is at most
    one such tonic (`Tonic.Leads.unique`).
  * `Tonic.leading?_eq_some_iff`, `Tonic.leading?_eq_none_iff`: it is found if there is one, and
    nothing is found exactly if no tonic stands there.
  * **`Tonic.leadingSize?_longest`**: the bytes it takes are those of its spelling, and they end
    between two characters of the text.
-/
import ChordChart.Proofs.Key.Naming
import ChordChart.Proofs.Line.Places

namespace ChordChart.Tonic

/-! ## 1. The longest tonic -/

/-- The tonic stands at the head of the text, with the rest behind it, and no longer one does. -/
structure Leads (t : Tonic) (text rest : List Char) : Prop where
  text_eq : text = t.spelling ++ rest
  longest : ∀ u : Tonic, u.spelling <+: text → u.spelling.length ≤ t.spelling.length

theorem Leads.opens {t : Tonic} {text rest : List Char} (h : Leads t text rest) :
    t.spelling <+: text :=
  ⟨rest, h.text_eq.symm⟩

/-- Of two longest tonics each is a prefix of the other. -/
theorem Leads.unique {t u : Tonic} {text rest rest' : List Char} (ht : Leads t text rest)
    (hu : Leads u text rest') : t = u ∧ rest = rest' := by
  have hopens : t.spelling <+: u.spelling :=
    List.prefix_of_prefix_length_le ht.opens hu.opens (hu.longest t ht.opens)
  have hspelling : t.spelling = u.spelling :=
    hopens.eq_of_length_le (ht.longest u hu.opens)
  refine ⟨isCatalogue_spelling.name_injective hspelling, ?_⟩
  have htexts : t.spelling ++ rest = u.spelling ++ rest' := ht.text_eq.symm.trans hu.text_eq
  rw [hspelling] at htexts
  exact List.append_cancel_left htexts

theorem length_spelling_le (t : Tonic) : t.spelling.length ≤ 2 := by
  cases t <;> decide

/-- A tonic longer than one character is made of the first two. -/
theorem spelling_eq_of_longer {t : Tonic} {first second : Char} {rest : List Char}
    (hopens : t.spelling <+: first :: second :: rest) (hlonger : 1 < t.spelling.length) :
    t.spelling = [first, second] := by
  have hlength : t.spelling.length = 2 := Nat.le_antisymm (length_spelling_le t) hlonger
  rw [List.prefix_iff_eq_take.mp hopens, hlength]
  rfl

theorem leads_of_ofSpelling? {head rest : List Char} {t : Tonic} (h : ofSpelling? head = some t)
    (hlongest : ∀ u : Tonic, u.spelling <+: head ++ rest → u.spelling.length ≤ head.length) :
    Leads t (head ++ rest) rest := by
  rw [ofSpelling?_eq_some_iff.mp h] at hlongest ⊢
  exact ⟨rfl, hlongest⟩

/-- What is found is the longest: one character of one, two of more, or one of more because the
    first two make no tonic. -/
theorem leads_of_leading? {text rest : List Char} {t : Tonic}
    (h : leading? text = some (t, rest)) : Leads t text rest := by
  match text, h with
  | [first], h =>
    obtain ⟨u, hfirst, heq⟩ := Option.map_eq_some_iff.mp h
    cases heq
    exact leads_of_ofSpelling? hfirst fun other hopens => hopens.length_le
  | first :: second :: behind, h =>
    rw [leading?] at h
    cases hboth : ofSpelling? [first, second] with
    | some u =>
      rw [hboth] at h
      cases h
      exact leads_of_ofSpelling? hboth fun other _ => length_spelling_le other
    | none =>
      rw [hboth] at h
      obtain ⟨u, hfirst, heq⟩ := Option.map_eq_some_iff.mp h
      cases heq
      refine leads_of_ofSpelling? hfirst fun other hopens => ?_
      by_contra hlonger
      have hspelling := spelling_eq_of_longer hopens (Nat.lt_of_not_le hlonger)
      rw [ofSpelling?_eq_some_iff.mpr hspelling.symm] at hboth
      cases hboth

/-- Where a tonic stands, one is found: its letter alone opens one. -/
theorem isSome_leading?_of_opens {text : List Char} {t : Tonic} (h : t.spelling <+: text) :
    (leading? text).isSome = true := by
  obtain ⟨behind, rfl⟩ := h
  show (leading? (t.note.letter.char :: (t.note.accidental.sign ++ behind))).isSome = true
  rw [← Option.isSome_map (f := Prod.fst), leading?_cons, isSome_opened?, Letter.ofChar?_char]
  rfl

/-- **Nothing is found exactly if no tonic stands at the head of the text.** -/
theorem leading?_eq_none_iff {text : List Char} :
    leading? text = none ↔ ∀ t : Tonic, ¬ t.spelling <+: text := by
  constructor
  · intro h t hopens
    have hsome := isSome_leading?_of_opens hopens
    rw [h] at hsome
    cases hsome
  · intro h
    rw [Option.eq_none_iff_forall_ne_some]
    exact fun ⟨t, rest⟩ hfound => h t (leads_of_leading? hfound).opens

/-- **The longest tonic is found**, with what stands behind it. -/
theorem leading?_eq_some_iff {text rest : List Char} {t : Tonic} :
    leading? text = some (t, rest) ↔ Leads t text rest := by
  constructor
  · exact leads_of_leading?
  · intro h
    obtain ⟨⟨u, behind⟩, hfound⟩ :=
      Option.isSome_iff_exists.mp (isSome_leading?_of_opens h.opens)
    obtain ⟨rfl, rfl⟩ := h.unique (leads_of_leading? hfound)
    exact hfound

/-! ## 2. Its size -/

/-- What is taken from a text is as long as the spelling that is found. -/
theorem leadingSize?_eq_some_iff {text : List Char} {t : Tonic} {size : Nat} :
    leadingSize? text = some (t, size)
      ↔ size = Text.byteSize t.spelling ∧ ∃ rest, Leads t text rest := by
  have htaken {rest : List Char} (h : Leads t text rest) :
      Text.byteSize text - Text.byteSize rest = Text.byteSize t.spelling := by
    rw [h.text_eq, Text.byteSize_append, Nat.add_sub_cancel]
  constructor
  · intro h
    obtain ⟨⟨u, rest⟩, hfound, heq⟩ := Option.map_eq_some_iff.mp h
    obtain ⟨rfl, rfl⟩ := Prod.mk.inj heq
    have hleads := leading?_eq_some_iff.mp hfound
    exact ⟨htaken hleads, rest, hleads⟩
  · rintro ⟨rfl, rest, hleads⟩
    rw [leadingSize?, leading?_eq_some_iff.mpr hleads, Option.map_some, ← htaken hleads]

theorem leadingSize?_eq_none_iff {text : List Char} :
    leadingSize? text = none ↔ ∀ t : Tonic, ¬ t.spelling <+: text := by
  rw [leadingSize?, Option.map_eq_none_iff, leading?_eq_none_iff]

/-- **The tonic at the head of a text is the longest one there.**  A tonic is found with a size
    exactly if its spelling begins the text, the size is that of the spelling, and no longer tonic
    begins the text; nothing is found exactly if no tonic begins it.  What is taken is no larger
    than the text and ends between two characters, the spelling in front and the rest behind. -/
theorem leadingSize?_longest (text : List Char) :
    (∀ (t : Tonic) (size : Nat), leadingSize? text = some (t, size) ↔
      t.spelling <+: text ∧ size = Text.byteSize t.spelling ∧
        ∀ u : Tonic, t.spelling.length < u.spelling.length → ¬ u.spelling <+: text) ∧
    (leadingSize? text = none ↔ ∀ t : Tonic, ¬ t.spelling <+: text) ∧
    ∀ (t : Tonic) (size : Nat), leadingSize? text = some (t, size) →
      size ≤ Text.byteSize text ∧
        ∃ rest, Text.splitBytes? size text = some (t.spelling, rest) := by
  refine ⟨fun t size => ?_, leadingSize?_eq_none_iff, fun t size h => ?_⟩
  · rw [leadingSize?_eq_some_iff]
    constructor
    · intro ⟨hsize, rest, hleads⟩
      exact ⟨hleads.opens, hsize, fun u hlonger hopens =>
        Nat.not_le_of_lt hlonger (hleads.longest u hopens)⟩
    · intro ⟨⟨rest, htext⟩, hsize, hlongest⟩
      exact ⟨hsize, rest, htext.symm, fun u hopens =>
        Nat.le_of_not_lt fun hlonger => hlongest u hlonger hopens⟩
  · obtain ⟨hsize, rest, hleads⟩ := leadingSize?_eq_some_iff.mp h
    refine ⟨?_, rest, Text.splitBytes?_eq_some_iff.mpr ⟨hleads.text_eq, hsize⟩⟩
    rw [hsize, hleads.text_eq, Text.byteSize_append]
    exact Nat.le_add_right _ _

/-- A letter with a sharp of three bytes behind it, which is no sign here. -/
theorem leadingSize?_longest_musicalSharp :
    leadingSize? "C♯m".toList = some (c, 1) ∧ 1 ≤ Text.byteSize "C♯m".toList ∧
      ∃ rest, Text.splitBytes? 1 "C♯m".toList = some (c.spelling, rest) := by
  have hfound : leadingSize? "C♯m".toList = some (c, 1) := by decide
  exact ⟨hfound, (leadingSize?_longest _).2.2 c 1 hfound⟩

end ChordChart.Tonic
