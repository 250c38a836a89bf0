/-
  File:      ChordChart/Proofs/Text/Languages.lean
  Subject:   The languages of patterns, taken apart and put together.

  * `Pattern.matches_seq_iff` and its neighbours: the texts of each form of pattern.
  * `Pattern.many_induction`: what holds of nothing and is kept by one more repetition holds of
    every text of a repeated pattern.
  * `Pattern.Matches.admits`: a text of a pattern is made of characters that the pattern admits
    somewhere, so a character that it admits nowhere is in none of its texts.
-/
import ChordChart.Text.Pattern

namespace ChordChart.Text.Pattern

variable {p q : Pattern} {s t : List Char}

/-! ## 1. One form of pattern at a time -/

theorem matches_char_iff {accepts : Char → Bool} :
    Matches (.char accepts) s ↔ ∃ c, accepts c = true ∧ s = [c] := by
  constructor
  · rintro ⟨h⟩
    exact ⟨_, h, rfl⟩
  · rintro ⟨c, h, rfl⟩
    exact .char h

theorem matches_word_iff {text : List Char} : Matches (.word text) s ↔ s = text := by
  constructor
  · rintro ⟨⟩
    rfl
  · rintro rfl
    exact .word s

theorem matches_seq_iff :
    Matches (.seq p q) s ↔ ∃ front back, s = front ++ back ∧ Matches p front ∧ Matches q back := by
  constructor
  · intro h
    cases h with
    | seq front back => exact ⟨_, _, rfl, front, back⟩
  · rintro ⟨front, back, rfl, hfront, hback⟩
    exact .seq hfront hback

theorem matches_either_iff : Matches (.either p q) s ↔ Matches p s ∨ Matches q s := by
  constructor
  · intro h
    cases h with
    | preferred h => exact Or.inl h
    | other h => exact Or.inr h
  · rintro (h | h)
    · exact .preferred h
    · exact .other h

theorem matches_optional_iff : Matches (.optional p) s ↔ s = [] ∨ Matches p s := by
  constructor
  · intro h
    cases h with
    | absent => exact Or.inl rfl
    | present h => exact Or.inr h
  · rintro (rfl | h)
    · exact .absent p
    · exact .present h

/-! ## 2. Repetitions -/

theorem matches_many_iff :
    Matches (.many p) s ↔
      s = [] ∨
        ∃ first others, s = first ++ others ∧ Matches p first ∧ Matches (.many p) others := by
  constructor
  · intro h
    cases h with
    | none => exact Or.inl rfl
    | more first others => exact Or.inr ⟨_, _, rfl, first, others⟩
  · rintro (rfl | ⟨first, others, rfl, hfirst, hothers⟩)
    · exact .none p
    · exact .more hfirst hothers

/-- Induction on how often a pattern is repeated. -/
theorem many_induction {motive : (s : List Char) → Matches (.many p) s → Prop}
    (none : motive [] (.none p))
    (more : ∀ {first others : List Char} (hfirst : Matches p first)
      (hothers : Matches (.many p) others), motive others hothers →
        motive (first ++ others) (.more hfirst hothers))
    {s : List Char} (h : Matches (.many p) s) : motive s h := by
  have hall : ∀ {r t}, Matches r t → r = .many p → ∀ ht : Matches (.many p) t, motive t ht := by
    intro r t hrt
    induction hrt with
    | none =>
      intro _ _
      exact none
    | more hfirst hothers _ ih =>
      intro hr _
      cases hr
      exact more hfirst hothers (ih rfl hothers)
    | _ => exact fun hr => by cases hr
  exact hall h rfl h

theorem Matches.once (h : Matches p s) : Matches (.many p) s := by
  have hmore := Matches.more h (.none p)
  rwa [List.append_nil] at hmore

/-! ## 3. The characters of a language -/

/-- Whether a pattern admits a character at some place. -/
def admits : Pattern → Char → Bool
  | .char accepts, c => accepts c
  | .word text, c => text.contains c
  | .seq front back, c => admits front c || admits back c
  | .either preferred other, c => admits preferred c || admits other c
  | .optional body, c => admits body c
  | .many body, c => admits body c

/-- **The texts of a pattern hold only characters that it admits.** -/
theorem Matches.admits (h : Matches p s) {c : Char} (hc : c ∈ s) : p.admits c = true := by
  induction h with
  | char h => rwa [List.mem_singleton.mp hc]
  | word text => exact List.contains_iff_mem.mpr hc
  | seq _ _ ihFront ihBack =>
    rcases List.mem_append.mp hc with hc | hc
    · exact Bool.or_eq_true_iff.mpr (Or.inl (ihFront hc))
    · exact Bool.or_eq_true_iff.mpr (Or.inr (ihBack hc))
  | preferred _ ih => exact Bool.or_eq_true_iff.mpr (Or.inl (ih hc))
  | other _ ih => exact Bool.or_eq_true_iff.mpr (Or.inr (ih hc))
  | absent => cases hc
  | present _ ih => exact ih hc
  | none => cases hc
  | more _ _ ihFirst ihOthers =>
    rcases List.mem_append.mp hc with hc | hc
    · exact ihFirst hc
    · exact ihOthers hc

theorem Matches.notMem (h : Matches p s) {c : Char} (hc : p.admits c = false) : c ∉ s := by
  intro hmem
  rw [h.admits hmem] at hc
  cases hc

end ChordChart.Text.Pattern
