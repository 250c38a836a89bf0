/-
  File:      ChordChart/Proofs/Json/Forms.lean
  Subject:   The JSON values that stand for data, told without the reader.

  * `Json.IsChoice`, `Json.IsWord`, `Json.Holds`: the forms of a choice, of a number of 64 bits and
    of a record with given values; the reader finds exactly these (`Json.choice?_eq_some_iff`,
    `Json.word?_eq_some_iff`, `Json.record?_eq_some_iff`).
  * `Forms`: what is laid down about the JSON of a type of data.
  * `Coded.IsLossless`: reading and writing agree with each other and with the forms; this follows
    from what is read and what is written alone (`Coded.isLossless_of`).
-/
import ChordChart.Json.Basic
import Mathlib.Data.List.Forall2
import Mathlib.Data.List.Nodup

namespace ChordChart

namespace Json

/-! ## 1. Texts, numbers and choices -/

/-- The form of a number: an integer without sign that fits 64 bits. -/
def IsWord (n : Nat) (json : Json) : Prop := n < UInt64.size ∧ json = .int n

/-- The forms of a choice: its name, or an object whose only field has the name and holds null. -/
inductive IsChoice (name : String) : Json → Prop
  | name : IsChoice name (.str name)
  | field : IsChoice name (.obj [(name, .null)])

theorem text?_eq_some_iff {json : Json} {text : String} :
    json.text? = some text ↔ json = .str text := by
  cases json <;> simp [text?]

theorem word?_eq_some_iff {json : Json} {n : Nat} : json.word? = some n ↔ IsWord n json := by
  unfold word? IsWord
  split
  · next value => split <;> grind
  · next hother =>
    constructor
    · intro h
      cases h
    · rintro ⟨-, rfl⟩
      exact absurd rfl (hother n)

theorem choice?_eq_some_iff {json : Json} {name : String} :
    json.choice? = some name ↔ IsChoice name json := by
  constructor
  · intro h
    unfold choice? at h
    split at h <;> cases h
    · exact .name
    · exact .field
  · intro h
    cases h <;> rfl

/-! ## 2. Records -/

/-- One field has the name, and it holds the value. -/
def IsOnlyField (fields : List (String × Json)) (name : String) (value : Json) : Prop :=
  ∃ before after, fields = before ++ (name, value) :: after ∧
    ∀ field ∈ before ++ after, field.1 ≠ name

/-- The forms of a record with given values: an object that has one field for each name, among any
    others and in any order, or the array of the values. -/
inductive Holds (names : List String) (values : List Json) : Json → Prop
  | object {fields : List (String × Json)} (h : List.Forall₂ (IsOnlyField fields) names values) :
      Holds names values (.obj fields)
  | array (h : values.length = names.length) : Holds names values (.arr values)

/-- In an object whose names differ, every field is the only one with its name. -/
theorem isOnlyField_iff_mem {fields : List (String × Json)} {name : String} {value : Json}
    (hnames : (fields.map Prod.fst).Nodup) :
    IsOnlyField fields name value ↔ (name, value) ∈ fields := by
  constructor
  · rintro ⟨before, after, rfl, -⟩
    exact List.mem_append_right before List.mem_cons_self
  · intro h
    obtain ⟨before, after, rfl⟩ := List.append_of_mem h
    rw [List.map_append, List.map_cons, List.nodup_middle, List.nodup_cons, ← List.map_append]
      at hnames
    exact ⟨before, after, rfl, fun field hfield hname =>
      hnames.1 (List.mem_map.mpr ⟨field, hfield, hname⟩)⟩

/-- The object that has just the fields of a record, in order, is one of its forms. -/
theorem holds_zip {names : List String} {values : List Json} (hnames : names.Nodup)
    (hlength : values.length = names.length) :
    Holds names values (.obj (names.zip values)) := by
  have hzip : ((names.zip values).map Prod.fst).Nodup := by
    rw [List.map_fst_zip (Nat.le_of_eq hlength.symm)]
    exact hnames
  exact .object (List.forall₂_iff_zip.mpr ⟨hlength.symm, fun h => (isOnlyField_iff_mem hzip).mpr h⟩)

theorem field?_eq_some_iff {fields : List (String × Json)} {name : String} {value : Json} :
    field? fields name = some value ↔ IsOnlyField fields name value := by
  have hfilter : field? fields name = some value ↔
      fields.filter (fun field => field.1 == name) = [(name, value)] := by
    unfold field?
    split
    · next other held heq =>
      have hmem : (other, held) ∈ fields.filter fun field => field.1 == name := by
        rw [heq]
        exact List.mem_singleton_self _
      have hname : other = name := beq_iff_eq.mp (List.mem_filter.mp hmem).2
      rw [heq, hname]
      simp
    · next hother =>
      constructor
      · intro h
        cases h
      · intro h
        exact absurd h (hother name value)
  rw [hfilter, List.filter_eq_cons_iff]
  simp only [List.filter_eq_nil_iff, IsOnlyField, List.forall_mem_append, beq_iff_eq]
  grind

/-- What is found for every name of a list. -/
theorem mapM_eq_some_iff {α β : Type} {f : α → Option β} {names : List α} {values : List β} :
    names.mapM f = some values ↔ List.Forall₂ (fun a b => f a = some b) names values := by
  induction names generalizing values with
  | nil => cases values <;> simp
  | cons name names ih =>
    simp only [List.mapM_cons, List.forall₂_cons_left_iff, ← ih]
    constructor
    · intro h
      obtain ⟨value, hvalue, h⟩ := Option.bind_eq_some_iff.mp h
      obtain ⟨rest, hrest, h⟩ := Option.bind_eq_some_iff.mp h
      cases h
      exact ⟨value, rest, hvalue, hrest, rfl⟩
    · rintro ⟨value, rest, hvalue, hrest, rfl⟩
      rw [hvalue, hrest]
      rfl

/-- **The values of a record are read from its forms and from nothing else.** -/
theorem record?_eq_some_iff {names : List String} {values : List Json} {json : Json} :
    json.record? names = some values ↔ Holds names values json := by
  constructor
  · intro h
    unfold record? at h
    split at h
    · next fields =>
      refine .object ((mapM_eq_some_iff.mp h).imp fun name value => ?_)
      exact field?_eq_some_iff.mp
    · next items =>
      split at h
      · next hlength =>
        cases h
        exact .array hlength
      · cases h
    · cases h
  · intro h
    cases h with
    | object h => exact mapM_eq_some_iff.mpr (h.imp fun name value => field?_eq_some_iff.mpr)
    | array h => exact if_pos h

end Json

/-! ## 3. Forms of data -/

/-- What is laid down about the JSON of a type of data. -/
structure Forms (α : Type) where
  /-- The data that can be held: a number may be too large. -/
  Fits : α → Prop
  /-- The JSON value stands for the data. -/
  IsForm : α → Json → Prop
  /-- The JSON value has the shape in which data are written. -/
  IsCanonical : Json → Prop

namespace Coded

variable {α : Type} [Coded α]

/-- Reading and writing agree with each other and with the forms that are laid down. -/
structure IsLossless (forms : Forms α) : Prop where
  /-- What is written is read as it was, if it can be held at all. -/
  ofJson?_toJson (a : α) : ofJson? (toJson a) = some a ↔ forms.Fits a
  /-- Data are read from their forms and from nothing else. -/
  ofJson?_eq_some_iff (json : Json) (a : α) : ofJson? json = some a ↔ forms.IsForm a json
  /-- What is read and written again is canonical, stands for the same, and is written so again. -/
  of_recode? (json written : Json) : recode? α json = some written →
    forms.IsCanonical written ∧ (ofJson? written : Option α) = ofJson? json ∧
      recode? α written = some written
  /-- Exactly what is canonical is written as it was read. -/
  recode?_eq_self_iff (json : Json) : recode? α json = some json ↔ forms.IsCanonical json

theorem recode?_eq_some_iff {json written : Json} :
    recode? α json = some written ↔ ∃ a : α, ofJson? json = some a ∧ toJson a = written :=
  Option.map_eq_some_iff

/-- **Nothing is lost** if data are read from their forms and the canonical values, those that are
    written, are among them. -/
theorem isLossless_of {forms : Forms α}
    (hread : ∀ (json : Json) (a : α), ofJson? json = some a ↔ forms.IsForm a json)
    (hfits : ∀ (a : α) (json : Json), forms.IsForm a json → forms.Fits a)
    (hwritten : ∀ a : α, forms.Fits a → forms.IsForm a (toJson a))
    (hcanonical : ∀ json, forms.IsCanonical json ↔ ∃ a, forms.Fits a ∧ toJson a = json) :
    IsLossless forms := by
  have hback (a : α) : ofJson? (toJson a) = some a ↔ forms.Fits a :=
    ⟨fun h => hfits a _ ((hread _ a).mp h), fun h => (hread _ a).mpr (hwritten a h)⟩
  have hself (json : Json) : recode? α json = some json ↔ forms.IsCanonical json := by
    rw [recode?_eq_some_iff, hcanonical]
    constructor
    · intro ⟨a, hjson, ha⟩
      exact ⟨a, hfits a json ((hread json a).mp hjson), ha⟩
    · rintro ⟨a, ha, rfl⟩
      exact ⟨a, (hback a).mpr ha, rfl⟩
  refine ⟨hback, hread, fun json written h => ?_, hself⟩
  obtain ⟨a, hjson, rfl⟩ := recode?_eq_some_iff.mp h
  have hfit : forms.Fits a := hfits a json ((hread json a).mp hjson)
  have hcan : forms.IsCanonical (toJson a) := (hcanonical _).mpr ⟨a, hfit, rfl⟩
  exact ⟨hcan, ((hback a).mpr hfit).trans hjson.symm, (hself _).mpr hcan⟩

end Coded

end ChordChart
