/-
  File:      ChordChart/Proofs/Json/Lossless.lean
  Subject:   The library's data in JSON: nothing is lost, and one shape is canonical.

  * `Forms.choice`, `Key.forms`, `Span.forms`: the JSON values that stand for a choice by its name,
    for a key and for a span.
  * `Json.pick?_eq_some_iff`: a choice is found by its name in all its forms.
  * **`Coded.lossless_and_canonical`**: tonics, modes, preferences, accidentals, intervals, keys and
    spans are read from their forms and from nothing else, and as they were written; whatever
    form was read, what is written then is canonical, stands for the same data and stays as it is.
-/
import ChordChart.Json.Music
import ChordChart.Proofs.Catalogue
import ChordChart.Proofs.Json.Forms

namespace ChordChart

/-! ## 1. Choices -/

/-- The forms of data that go by names; the name as a string is canonical. -/
def Forms.choice {α : Type} (name : α → String) : Forms α where
  Fits _ := True
  IsForm a := Json.IsChoice (name a)
  IsCanonical json := ∃ a, json = .str (name a)

/-- Among data that go by names, one is found in all forms of its name. -/
theorem Json.pick?_eq_some_iff {α : Type} {all : List α} {name : α → String}
    (hall : IsCatalogue all name) {json : Json} {a : α} :
    json.pick? all name = some a ↔ IsChoice (name a) json := by
  rw [← choice?_eq_some_iff, pick?, Option.bind_eq_some_iff]
  simp only [hall.find?_eq_some_iff, exists_eq_right]

theorem Coded.isLossless_choice {α : Type} [Coded α] {all : List α} {name : α → String}
    (hwrite : ∀ a : α, toJson a = .str (name a))
    (hread : ∀ json, (ofJson? json : Option α) = json.pick? all name)
    (hall : IsCatalogue all name) : IsLossless (Forms.choice name) := by
  refine isLossless_of (fun json a => ?_) (fun _ _ _ => trivial) (fun a _ => ?_) (fun json => ?_)
  · rw [hread]
    exact Json.pick?_eq_some_iff hall
  · rw [hwrite]
    exact .name
  · constructor
    · rintro ⟨a, rfl⟩
      exact ⟨a, trivial, hwrite a⟩
    · rintro ⟨a, -, rfl⟩
      exact ⟨a, hwrite a⟩

def Tonic.forms : Forms Tonic := .choice fun tonic => String.ofList tonic.spelling

def Mode.forms : Forms Mode := .choice Mode.name

def Preference.forms : Forms Preference := .choice Preference.name

def Accidental.forms : Forms Accidental := .choice Accidental.name

def Interval.forms : Forms Interval := .choice Interval.name

theorem Tonic.isLossless : Coded.IsLossless Tonic.forms :=
  Coded.isLossless_choice (fun _ => rfl) (fun _ => rfl) fun tonic => by cases tonic <;> rfl

theorem Mode.isLossless : Coded.IsLossless Mode.forms :=
  Coded.isLossless_choice (fun _ => rfl) (fun _ => rfl) fun mode => by cases mode <;> rfl

theorem Preference.isLossless : Coded.IsLossless Preference.forms :=
  Coded.isLossless_choice (fun _ => rfl) (fun _ => rfl) fun preference => by
    cases preference <;> rfl

theorem Accidental.isLossless : Coded.IsLossless Accidental.forms :=
  Coded.isLossless_choice (fun _ => rfl) (fun _ => rfl) fun accidental => by
    cases accidental <;> rfl

theorem Interval.isLossless : Coded.IsLossless Interval.forms :=
  Coded.isLossless_choice (fun _ => rfl) (fun _ => rfl) fun interval => by cases interval <;> rfl

/-! ## 2. Records -/

/-- The forms of a key: the record of its tonic and its mode.  Canonical is the object with just
    these fields in this order, each of them canonical. -/
def Key.forms : Forms Key where
  Fits _ := True
  IsForm key json := ∃ tonic mode, json.Holds ["tonic", "mode"] [tonic, mode] ∧
    Tonic.forms.IsForm key.tonic tonic ∧ Mode.forms.IsForm key.mode mode
  IsCanonical json := ∃ tonic mode, json = .obj [("tonic", tonic), ("mode", mode)] ∧
    Tonic.forms.IsCanonical tonic ∧ Mode.forms.IsCanonical mode

/-- The forms of a span: the record of its text and the two counts of bytes, which have 64 bits. -/
def Span.forms : Forms Span where
  Fits span := span.offset < UInt64.size ∧ span.length < UInt64.size
  IsForm span json := ∃ offset length,
    json.Holds ["text", "offset", "length"] [.str span.text, offset, length] ∧
      Json.IsWord span.offset offset ∧ Json.IsWord span.length length
  IsCanonical json := ∃ (text : String) (offset length : Nat),
    json = .obj [("text", .str text), ("offset", .int offset), ("length", .int length)] ∧
      offset < UInt64.size ∧ length < UInt64.size

/-- A key is read from the forms of its record and from nothing else. -/
theorem Key.ofJson?_eq_some_iff {json : Json} {key : Key} :
    Coded.ofJson? json = some key ↔ Key.forms.IsForm key json := by
  simp only [Key.forms, ← Json.record?_eq_some_iff, ← Tonic.isLossless.ofJson?_eq_some_iff,
    ← Mode.isLossless.ofJson?_eq_some_iff]
  constructor
  · intro h
    simp only [Coded.ofJson?] at h
    split at h
    · next tonic mode hrecord =>
      obtain ⟨t, htonic, h⟩ := Option.bind_eq_some_iff.mp h
      obtain ⟨m, hmode, h⟩ := Option.bind_eq_some_iff.mp h
      cases h
      exact ⟨tonic, mode, hrecord, htonic, hmode⟩
    · cases h
  · intro ⟨tonic, mode, hrecord, htonic, hmode⟩
    simp only [Coded.ofJson?] at htonic hmode ⊢
    simp only [hrecord, htonic, hmode]
    rfl

/-- A span is read from the forms of its record and from nothing else. -/
theorem Span.ofJson?_eq_some_iff {json : Json} {span : Span} :
    Coded.ofJson? json = some span ↔ Span.forms.IsForm span json := by
  simp only [Span.forms, ← Json.record?_eq_some_iff, ← Json.word?_eq_some_iff]
  constructor
  · intro h
    simp only [Coded.ofJson?] at h
    split at h
    · next text offset length hrecord =>
      obtain ⟨t, htext, h⟩ := Option.bind_eq_some_iff.mp h
      obtain ⟨o, hoffset, h⟩ := Option.bind_eq_some_iff.mp h
      obtain ⟨l, hlength, h⟩ := Option.bind_eq_some_iff.mp h
      cases h
      rw [Json.text?_eq_some_iff.mp htext] at hrecord
      exact ⟨offset, length, hrecord, hoffset, hlength⟩
    · cases h
  · intro ⟨offset, length, hrecord, hoffset, hlength⟩
    simp only [Coded.ofJson?, hrecord, Json.text?, hoffset, hlength]
    rfl

theorem Key.isLossless : Coded.IsLossless Key.forms := by
  refine Coded.isLossless_of (fun _ _ => ofJson?_eq_some_iff) (fun _ _ _ => trivial)
    (fun key _ => ?_) (fun json => ?_)
  · have hnames : ["tonic", "mode"].Nodup := by decide
    exact ⟨_, _, Json.holds_zip hnames rfl, .name, .name⟩
  · constructor
    · rintro ⟨_, _, rfl, ⟨tonic, rfl⟩, ⟨mode, rfl⟩⟩
      exact ⟨⟨tonic, mode⟩, trivial, rfl⟩
    · rintro ⟨key, -, rfl⟩
      exact ⟨_, _, rfl, ⟨key.tonic, rfl⟩, ⟨key.mode, rfl⟩⟩

theorem Span.isLossless : Coded.IsLossless Span.forms := by
  refine Coded.isLossless_of (fun _ _ => ofJson?_eq_some_iff) ?_ (fun span h => ?_)
    (fun json => ?_)
  · intro span json ⟨offset, length, _, hoffset, hlength⟩
    exact ⟨hoffset.1, hlength.1⟩
  · have hnames : ["text", "offset", "length"].Nodup := by decide
    exact ⟨_, _, Json.holds_zip hnames rfl, ⟨h.1, rfl⟩, ⟨h.2, rfl⟩⟩
  · constructor
    · rintro ⟨text, offset, length, rfl, hoffset, hlength⟩
      exact ⟨⟨text, offset, length⟩, ⟨hoffset, hlength⟩, rfl⟩
    · rintro ⟨span, h, rfl⟩
      exact ⟨span.text, span.offset, span.length, rfl, h.1, h.2⟩

/-! ## 3. All types -/

/-- **Nothing is lost in JSON, and one shape of it is canonical.**  For tonics, modes, preferences,
    accidentals, intervals, keys and spans: what is written is read as it was, whatever the text of
    a span and whatever its counts of 64 bits; data are read from their forms and from nothing
    else; and whatever form was read, what is written then is canonical, stands for the same data
    and is written so again. -/
theorem Coded.lossless_and_canonical :
    IsLossless Tonic.forms ∧ IsLossless Mode.forms ∧ IsLossless Preference.forms ∧
      IsLossless Accidental.forms ∧ IsLossless Interval.forms ∧ IsLossless Key.forms ∧
      IsLossless Span.forms :=
  ⟨Tonic.isLossless, Mode.isLossless, Preference.isLossless, Accidental.isLossless,
    Interval.isLossless, Key.isLossless, Span.isLossless⟩

/-- A key whose fields come in another order, with one too many and the mode as an object, and a
    span at the last place that 64 bits can count. -/
theorem Coded.lossless_and_canonical_minorKey :
    (recode? Key (.obj [("mode", .obj [("minor", .null)]), ("capo", .int 2), ("tonic", .str "F#")])
        = some (.obj [("tonic", .str "F#"), ("mode", .str "minor")]) ∧
      Key.forms.IsCanonical (.obj [("tonic", .str "F#"), ("mode", .str "minor")]) ∧
      (ofJson? (.obj [("tonic", .str "F#"), ("mode", .str "minor")]) : Option Key)
        = ofJson? (.obj [("mode", .obj [("minor", .null)]), ("capo", .int 2),
            ("tonic", .str "F#")]) ∧
      recode? Key (.obj [("tonic", .str "F#"), ("mode", .str "minor")])
        = some (.obj [("tonic", .str "F#"), ("mode", .str "minor")])) ∧
    ofJson? (toJson (⟨"F♯/\"é\"", UInt64.size - 1, 0⟩ : Span))
      = some (⟨"F♯/\"é\"", UInt64.size - 1, 0⟩ : Span) := by
  obtain ⟨-, -, -, -, -, hkey, hspan⟩ := lossless_and_canonical
  have hgiven : recode? Key
      (.obj [("mode", .obj [("minor", .null)]), ("capo", .int 2), ("tonic", .str "F#")])
        = some (.obj [("tonic", .str "F#"), ("mode", .str "minor")]) := by rfl
  exact ⟨⟨hgiven, hkey.of_recode? _ _ hgiven⟩, (hspan.ofJson?_toJson _).mpr ⟨by decide, by decide⟩⟩

end ChordChart
