/-
  File:      ChordChart/Proofs/Catalogue.lean
  Subject:   Values that are looked up by their names.

  Tonics are looked up by their spellings, intervals by the names that users type, and all choices
  by their names in JSON.

  * `IsCatalogue`: every value is the first in the list that goes by its name.
  * `IsCatalogue.find?_eq_some_iff`: then exactly the value with a name is found by it, and no two
    values share a name (`IsCatalogue.name_injective`).
-/

namespace ChordChart

variable {α β : Type} [BEq β] [LawfulBEq β]

/-- Every value is the first in the list that goes by its name. -/
def IsCatalogue (all : List α) (name : α → β) : Prop :=
  ∀ a, all.find? (fun b => name b == name a) = some a

namespace IsCatalogue

variable {all : List α} {name : α → β} (h : IsCatalogue all name)

include h

/-- **What is found by a name is the value with the name.** -/
theorem find?_eq_some_iff {chosen : β} {a : α} :
    all.find? (fun b => name b == chosen) = some a ↔ chosen = name a := by
  constructor
  · intro hfound
    have hname := List.find?_some hfound
    exact (beq_iff_eq.mp hname).symm
  · rintro rfl
    exact h a

theorem name_injective : Function.Injective name := by
  intro a b hname
  have ha : all.find? (fun c => name c == name b) = some a := h.find?_eq_some_iff.mpr hname.symm
  exact Option.some.inj (ha.symm.trans (h b))

end IsCatalogue

end ChordChart
