/-
  File:      ChordChart/Proofs/Transposition/Names.lean
  Subject:   How the names in a request may be typed.

  * `Interval.ofName?_eq_some_iff`: an interval goes by its own name, in any case and with blanks
    around it, and by nothing else.
  * **`Transposition.interval_names`**: a request with such a name is one by the size of the
    interval, and a request with any other leaves the line as it was.
  * `Transposition.movedNote_keys_congr`: what a change of key does depends on the keys that are
    named, not on how they are typed.
  * **`Transposition.keys_in_any_case`**: so the case of the names does not matter, but for a
    capital B where a small one would be a flat sign (`Transposition.not_in_every_case`).
-/
import ChordChart.Proofs.Key.LetterCase
import ChordChart.Proofs.Transposition.Requests

namespace ChordChart

/-! ## 1. Names of intervals -/

namespace Interval

theorem isPlain_name (i : Interval) : i.name.toList.all Text.isPlain = true := by
  cases i <;> decide

theorem small_name (i : Interval) : Text.small i.name.toList = i.name.toList := by
  cases i <;> rfl

theorem isCatalogue_name : IsCatalogue all fun i => i.name.toList := by
  intro i
  cases i <;> rfl

/-- **A text names an interval exactly if** it is its name, blanks at the ends and the case of the
    letters A to Z aside. -/
theorem ofName?_eq_some_iff {name : String} {i : Interval} :
    ofName? name = some i ↔
      Text.small (Text.trimmed name.toList) = Text.small i.name.toList := by
  have halike := Text.alike_lowercaseAfter [] (Text.trimmed name.toList)
  rw [small_name, ← halike.eq_iff i.isPlain_name]
  exact isCatalogue_name.find?_eq_some_iff

end Interval

namespace Transposition

theorem resolve_interval_of_none {name : String} (h : Interval.ofName? name = none) :
    resolve (interval name) = .error (.unknownInterval name) := by
  simp only [resolve, h]

/-- **What a request by an interval does.**  The interval is the one whose name is typed, in any
    case and with blanks around it, and the line is moved by its size.  With any other text
    nothing is done. -/
theorem interval_names (name : String) :
    (∀ i, Interval.ofName? name = some i ↔
      Text.small (Text.trimmed name.toList) = Text.small i.name.toList) ∧
    (∀ i : Interval, Text.small (Text.trimmed name.toList) = Text.small i.name.toList →
      ∀ line, (apply (interval name) line).value = (apply (steps i.steps) line).value) ∧
    ((∀ i : Interval, Text.small (Text.trimmed name.toList) ≠ Text.small i.name.toList) →
      ∀ line, (apply (interval name) line).value = line) := by
  refine ⟨fun i => Interval.ofName?_eq_some_iff, fun i h line => ?_, fun h line => ?_⟩
  · exact value_apply_interval (Interval.ofName?_eq_some_iff.mpr h) line
  · have hnone : Interval.ofName? name = none := by
      rw [Option.eq_none_iff_forall_ne_some]
      exact fun i hi => h i (Interval.ofName?_eq_some_iff.mp hi)
    rw [apply_of_resolve_error (resolve_interval_of_none hnone)]

/-- A name in two cases between blanks, and one with a dotted capital that is no plain one. -/
theorem interval_names_sixth :
    (Text.small (Text.trimmed "\u2003MiNoR6Th\n".toList)
        = Text.small Interval.minorSixth.name.toList ∧
      ∀ line, (apply (interval "\u2003MiNoR6Th\n") line).value
        = (apply (steps Interval.minorSixth.steps) line).value) ∧
    (∀ i : Interval, Text.small (Text.trimmed "mİnor6th".toList) ≠ Text.small i.name.toList) ∧
      ∀ line, (apply (interval "mİnor6th") line).value = line := by
  have hsixth : Text.small (Text.trimmed "\u2003MiNoR6Th\n".toList)
      = Text.small Interval.minorSixth.name.toList := by decide
  have hdotted (i : Interval) :
      Text.small (Text.trimmed "mİnor6th".toList) ≠ Text.small i.name.toList := by
    cases i <;> decide
  exact ⟨⟨hsixth, (interval_names _).2.1 _ hsixth⟩, hdotted, (interval_names _).2.2 hdotted⟩

/-! ## 2. Names of keys -/

/-- A change of key moves notes between the keys that are named, if both are. -/
theorem movedNote_keys_eq (source target : String) :
    movedNote (keys source target)
      = ((Key.ofName source).toOption.bind fun s => (Key.ofName target).toOption.map fun t =>
          Note.moved (moveBetween s t)).getD id := by
  cases hs : Key.ofName source with
  | error cause =>
    have hresolve : resolve (keys source target) = .error (.unknownKey cause) := by
      simp only [resolve, key?, hs]
      rfl
    rw [movedNote_of_resolve_error hresolve]
    rfl
  | ok s =>
    cases ht : Key.ofName target with
    | error cause =>
      have hresolve : resolve (keys source target) = .error (.unknownKey cause) := by
        simp only [resolve, key?, hs, ht]
        rfl
      rw [movedNote_of_resolve_error hresolve]
      rfl
    | ok t =>
      rw [movedNote_keys hs ht]
      rfl

/-- It depends on the keys alone. -/
theorem movedNote_keys_congr {source source' target target' : String}
    (hsource : (Key.ofName source).toOption = (Key.ofName source').toOption)
    (htarget : (Key.ofName target).toOption = (Key.ofName target').toOption) :
    movedNote (keys source target) = movedNote (keys source' target') := by
  rw [movedNote_keys_eq, movedNote_keys_eq, hsource, htarget]

theorem toList_toLower (name : String) : name.toLower.toList = Text.small name.toList :=
  String.toList_map

theorem toOption_ofName_eq_of_toLower_eq {name other : String} (h : name.toLower = other.toLower)
    (hkeeps : Key.keepsCapitalB name.toList = Key.keepsCapitalB other.toList) :
    (Key.ofName name).toOption = (Key.ofName other).toOption := by
  have hsmall := congrArg String.toList h
  rw [toList_toLower, toList_toLower] at hsmall
  rw [Key.toOption_ofName, Key.toOption_ofName, Key.named?_eq_of_small_eq hsmall hkeeps]

/-- **The case of key names does not matter**, but for a capital B.  A name and its small form name
    one key, or none, exactly if the name is not a major one with a capital B in second place, where
    a small one would make another tonic.  Names that differ in their case, and not in keeping such
    a B, give the same text. -/
theorem keys_in_any_case :
    (∀ name : String, (Key.ofName name).toOption = (Key.ofName name.toLower).toOption ↔
      Key.keepsCapitalB name.toList = false) ∧
    ∀ source source' target target' : String,
      source.toLower = source'.toLower → target.toLower = target'.toLower →
      Key.keepsCapitalB source.toList = Key.keepsCapitalB source'.toList →
      Key.keepsCapitalB target.toList = Key.keepsCapitalB target'.toList →
      ∀ line, (apply (keys source target) line).value
        = (apply (keys source' target') line).value := by
  refine ⟨fun name => ?_, fun source source' target target' hs ht hsB htB line => ?_⟩
  · rw [Key.toOption_ofName, Key.toOption_ofName, toList_toLower, eq_comm, Key.named?_small_iff]
  · rw [value_apply, value_apply, movedNote_keys_congr (toOption_ofName_eq_of_toLower_eq hs hsB)
      (toOption_ofName_eq_of_toLower_eq ht htB)]

/-- From a minor key to a major one, with the signs and the markers in capitals. -/
theorem keys_in_any_case_minor :
    (" BBMIN".toLower = " bbmin".toLower ∧ "EBsus".toLower = "eBSUS".toLower ∧
      Key.keepsCapitalB " BBMIN".toList = Key.keepsCapitalB " bbmin".toList ∧
      Key.keepsCapitalB "EBsus".toList = Key.keepsCapitalB "eBSUS".toList) ∧
    ∀ line, (apply (keys " BBMIN" "EBsus") line).value
      = (apply (keys " bbmin" "eBSUS") line).value := by
  have hsource : " BBMIN".toLower = " bbmin".toLower := by
    rw [← String.toList_inj, toList_toLower, toList_toLower]
    decide
  have htarget : "EBsus".toLower = "eBSUS".toLower := by
    rw [← String.toList_inj, toList_toLower, toList_toLower]
    decide
  have hsourceB : Key.keepsCapitalB " BBMIN".toList = Key.keepsCapitalB " bbmin".toList := by
    decide
  have htargetB : Key.keepsCapitalB "EBsus".toList = Key.keepsCapitalB "eBSUS".toList := by
    decide
  exact ⟨⟨hsource, htarget, hsourceB, htargetB⟩,
    keys_in_any_case.2 _ _ _ _ hsource htarget hsourceB htargetB⟩

/-- **The case of a name can matter**: `BB` is B major, and `bb` is B flat major. -/
theorem not_in_every_case :
    ¬ ∀ name : String, (Key.ofName name).toOption = (Key.ofName name.toLower).toOption := by
  intro h
  have hnatural : (Key.ofName "BB").toOption = some ⟨.b, .major⟩ := by rfl
  have hflat : (Key.ofName "BB".toLower).toOption = some ⟨.bFlat, .major⟩ := by
    rw [Key.toOption_ofName, toList_toLower]
    rfl
  have hsame := (hnatural.symm.trans (h "BB")).trans hflat
  exact absurd hsame (by decide)

end Transposition

end ChordChart
