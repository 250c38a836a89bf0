/-
  File:      ChordChart/Proofs/Text/Searching.lean
  Subject:   The ordered search of a pattern, and patterns through which it never turns back.

  * `Pattern.mem_rests_iff`: the search tries all texts of the language that stand at the head,
    and no others.
  * `Pattern.commit`: a scan that takes the first way at every choice and gives nothing back.
  * **`Pattern.search_eq_commit`**: the search settles on what the scan takes, if nothing that
    comes behind a choice can fail (`Pattern.isCommitted`).
-/
import ChordChart.Proofs.Text.Languages

namespace ChordChart.Text.Pattern

variable {p q : Pattern} {s text rest : List Char}

/-! ## 1. What the search tries -/

theorem self_mem_repeated (step : List Char → List (List Char)) (bound : Nat) (text : List Char) :
    text ∈ repeated step bound text := by
  cases bound with
  | zero => exact List.mem_singleton_self text
  | succ bound => exact List.mem_append_right _ (List.mem_singleton_self text)

theorem matches_of_mem_repeated {step : List Char → List (List Char)}
    (hstep : ∀ {text rest}, rest ∈ step text → ∃ s, text = s ++ rest ∧ p.Matches s) {bound : Nat}
    (h : rest ∈ repeated step bound text) : ∃ s, text = s ++ rest ∧ (many p).Matches s := by
  induction bound generalizing text with
  | zero => exact ⟨[], (List.mem_singleton.mp h).symm, .none p⟩
  | succ bound ih =>
    rcases List.mem_append.mp h with h | h
    · obtain ⟨next, hnext, hrest⟩ := List.mem_flatMap.mp h
      obtain ⟨first, rfl, hfirst⟩ := hstep (List.mem_filter.mp hnext).1
      obtain ⟨others, rfl, hothers⟩ := ih hrest
      exact ⟨first ++ others, (List.append_assoc first others rest).symm, .more hfirst hothers⟩
    · exact ⟨[], (List.mem_singleton.mp h).symm, .none p⟩

theorem mem_repeated_of_matches {step : List Char → List (List Char)}
    (hstep : ∀ {s rest}, p.Matches s → rest ∈ step (s ++ rest)) (h : (many p).Matches s)
    {bound : Nat} (hbound : (s ++ rest).length ≤ bound) :
    rest ∈ repeated step bound (s ++ rest) := by
  induction h using many_induction generalizing bound with
  | none => exact self_mem_repeated step bound rest
  | @more first others hfirst _ ih =>
    -- a repetition that takes nothing is left out by the search
    by_cases hnil : first = []
    · subst hnil
      exact ih hbound
    have hpos : 0 < first.length := List.length_pos_iff.mpr hnil
    rw [List.append_assoc] at hbound ⊢
    rw [List.length_append] at hbound
    cases bound with
    | zero => omega
    | succ bound =>
      refine List.mem_append_left _ (List.mem_flatMap.mpr ⟨others ++ rest, ?_, ih (by omega)⟩)
      refine List.mem_filter.mpr ⟨hstep hfirst, decide_eq_true ?_⟩
      have hsize : (first ++ (others ++ rest)).length = first.length + (others ++ rest).length :=
        List.length_append
      omega

/-- **The search tries exactly the texts of the language** that stand at the head of a text. -/
theorem mem_rests_iff : rest ∈ p.rests text ↔ ∃ s, text = s ++ rest ∧ p.Matches s := by
  induction p generalizing text rest with
  | char accepts =>
    cases text with
    | nil => simp [rests, matches_char_iff]
    | cons c tail =>
      simp only [matches_char_iff]
      cases hc : accepts c with
      | false =>
        simp only [rests, hc, Bool.false_eq_true, if_false, List.not_mem_nil, false_iff]
        rintro ⟨_, htext, d, hd, rfl⟩
        obtain ⟨rfl, -⟩ := List.cons.inj htext
        rw [hc] at hd
        cases hd
      | true =>
        simp only [rests, hc, if_true, List.mem_singleton]
        constructor
        · rintro rfl
          exact ⟨[c], rfl, c, hc, rfl⟩
        · rintro ⟨_, htext, d, hd, rfl⟩
          exact (List.cons.inj htext).2.symm
  | word fixed =>
    simp only [matches_word_iff, exists_eq_right]
    by_cases hprefix : fixed <+: text
    · obtain ⟨tail, rfl⟩ := hprefix
      have hstarts : fixed.isPrefixOf (fixed ++ tail) = true :=
        List.isPrefixOf_iff_prefix.mpr (List.prefix_append fixed tail)
      rw [rests, if_pos hstarts, List.drop_left, List.mem_singleton, List.append_cancel_left_eq]
      exact eq_comm
    · have hnot : ¬ fixed.isPrefixOf text = true := mt List.isPrefixOf_iff_prefix.mp hprefix
      simp only [rests, if_neg hnot, List.not_mem_nil, false_iff]
      intro htext
      exact hprefix ⟨rest, htext.symm⟩
  | seq p q ihp ihq =>
    simp only [rests, List.mem_flatMap, ihp, ihq, matches_seq_iff]
    constructor
    · rintro ⟨_, ⟨front, rfl, hfront⟩, back, rfl, hback⟩
      exact ⟨front ++ back, (List.append_assoc front back rest).symm, front, back, rfl, hfront,
        hback⟩
    · rintro ⟨_, rfl, front, back, rfl, hfront, hback⟩
      exact ⟨back ++ rest, ⟨front, List.append_assoc front back rest, hfront⟩, back, rfl, hback⟩
  | either p q ihp ihq =>
    simp only [rests, List.mem_append, ihp, ihq, matches_either_iff, and_or_left, exists_or]
  | optional p ih =>
    simp only [rests, List.mem_append, List.mem_singleton, ih, matches_optional_iff, and_or_left,
      exists_or, exists_eq_right, List.nil_append]
    rw [or_comm, eq_comm]
  | many p ih =>
    constructor
    · exact matches_of_mem_repeated ih.mp
    · rintro ⟨s, rfl, hs⟩
      exact mem_repeated_of_matches (fun hs => ih.mpr ⟨_, rfl, hs⟩) hs (Nat.le_refl _)

theorem eq_append_of_search (h : p.search text = some rest) :
    ∃ s, text = s ++ rest ∧ p.Matches s :=
  mem_rests_iff.mp (List.mem_of_head? h)

theorem search_eq_none_iff : p.search text = none ↔ ∀ s, s <+: text → ¬ p.Matches s := by
  rw [search, List.head?_eq_none_iff, List.eq_nil_iff_forall_not_mem]
  constructor
  · rintro h s ⟨rest, rfl⟩ hs
    exact h rest (mem_rests_iff.mpr ⟨s, rfl, hs⟩)
  · intro h rest hrest
    obtain ⟨s, rfl, hs⟩ := mem_rests_iff.mp hrest
    exact h s (List.prefix_append s rest) hs

/-! ## 2. A scan that gives nothing back -/

/-- Repeats a step until it fails, at most `bound` times. -/
def repeatedly (step : List Char → Option (List Char)) : Nat → List Char → List Char
  | 0, text => text
  | bound + 1, text =>
    match step text with
    | none => text
    | some rest => repeatedly step bound rest

/-- What is left of a text by a scan that takes the first way at every choice and keeps to it. -/
def commit : Pattern → List Char → Option (List Char)
  | .char _, [] => none
  | .char accepts, c :: rest => if accepts c then some rest else none
  | .word fixed, text => if fixed.isPrefixOf text then some (text.drop fixed.length) else none
  | .seq p q, text => (commit p text).bind (commit q)
  | .either p q, text => (commit p text).or (commit q text)
  | .optional p, text => (commit p text).or (some text)
  | .many p, text => some (repeatedly (commit p) text.length text)

/-- Whether a pattern matches at the head of every text. -/
def isTotal : Pattern → Bool
  | .char _ => false
  | .word text => text.isEmpty
  | .seq p q => isTotal p && isTotal q
  | .either p q => isTotal p || isTotal q
  | .optional _ | .many _ => true

/-- Whether a pattern leaves no choice. -/
def isRigid : Pattern → Bool
  | .char _ | .word _ => true
  | .seq p q => isRigid p && isRigid q
  | .either _ _ | .optional _ | .many _ => false

/-- Whether a pattern takes at least one character. -/
def isProductive : Pattern → Bool
  | .char _ => true
  | .word text => !text.isEmpty
  | .seq p q => isProductive p || isProductive q
  | .either p q => isProductive p && isProductive q
  | .optional _ | .many _ => false

/-- Whether the search never turns back in a pattern: what comes behind a choice cannot fail, and
    what is repeated takes something each time. -/
def isCommitted : Pattern → Bool
  | .char _ | .word _ => true
  | .seq p q => isCommitted p && isCommitted q && (isRigid p || isTotal q)
  | .either p q => isCommitted p && isCommitted q
  | .optional p => isCommitted p
  | .many p => isCommitted p && isProductive p

theorem commit_optional_char (accepts : Char → Bool) (c : Char) (rest : List Char) :
    (optional (char accepts)).commit (c :: rest)
      = some (if accepts c then rest else c :: rest) := by
  rw [commit, commit]
  split <;> rfl

theorem search_isSome_of_isTotal (h : p.isTotal = true) (text : List Char) :
    (p.search text).isSome = true := by
  induction p generalizing text with
  | char => cases h
  | word fixed =>
    obtain rfl : fixed = [] := List.isEmpty_iff.mp h
    rfl
  | seq p q ihp ihq =>
    obtain ⟨hp, hq⟩ := Bool.and_eq_true_iff.mp h
    obtain ⟨middle, hmiddle⟩ := Option.isSome_iff_exists.mp (ihp hp text)
    obtain ⟨rest, hrest⟩ := Option.isSome_iff_exists.mp (ihq hq middle)
    exact List.isSome_head?.mpr (List.ne_nil_of_mem
      (List.mem_flatMap.mpr ⟨middle, List.mem_of_head? hmiddle, List.mem_of_head? hrest⟩))
  | either p q ihp ihq =>
    rw [search, rests, List.head?_append, Option.isSome_or, Bool.or_eq_true]
    exact (Bool.or_eq_true_iff.mp h).imp (ihp · text) (ihq · text)
  | optional p =>
    exact List.isSome_head?.mpr (List.append_ne_nil_of_right_ne_nil _ (List.cons_ne_nil text []))
  | many p => exact List.isSome_head?.mpr (List.ne_nil_of_mem (self_mem_repeated _ _ text))

theorem length_rests_of_isRigid (h : p.isRigid = true) (text : List Char) :
    (p.rests text).length ≤ 1 := by
  induction p generalizing text with
  | char accepts =>
    cases text with
    | nil => exact Nat.zero_le 1
    | cons c tail =>
      rw [rests]
      split <;> simp
  | word fixed =>
    rw [rests]
    split <;> simp
  | seq p q ihp ihq =>
    obtain ⟨hp, hq⟩ := Bool.and_eq_true_iff.mp h
    rw [rests]
    match hrests : p.rests text, ihp hp text with
    | [], _ => exact Nat.zero_le 1
    | [middle], _ => simpa using ihq hq middle
  | either | optional | many => cases h

theorem length_pos_of_isProductive (hp : p.isProductive = true) (hs : p.Matches s) :
    0 < s.length := by
  induction p generalizing s with
  | char =>
    obtain ⟨c, -, rfl⟩ := matches_char_iff.mp hs
    exact Nat.one_pos
  | word fixed =>
    rw [matches_word_iff.mp hs]
    exact List.length_pos_iff.mpr (by simpa [isProductive] using hp)
  | seq p q ihp ihq =>
    obtain ⟨front, back, rfl, hfront, hback⟩ := matches_seq_iff.mp hs
    rw [List.length_append]
    rcases Bool.or_eq_true_iff.mp hp with hp | hq
    · exact Nat.add_pos_left (ihp hp hfront) _
    · exact Nat.add_pos_right _ (ihq hq hback)
  | either p q ihp ihq =>
    obtain ⟨hp, hq⟩ := Bool.and_eq_true_iff.mp hp
    exact (matches_either_iff.mp hs).elim (ihp hp) (ihq hq)
  | optional | many => cases hp

/-! ## 3. When the search never turns back -/

theorem search_seq (p q : Pattern) (text : List Char) :
    (seq p q).search text = (p.rests text).findSome? q.search :=
  List.head?_flatMap

/-- The first success in a list is that of its head, if the head decides. -/
theorem findSome?_eq_bind {α β : Type} {f : α → Option β} {l : List α}
    (h : l.length ≤ 1 ∨ ∀ a, (f a).isSome = true) : l.findSome? f = l.head?.bind f := by
  match l, h with
  | [], _ => rfl
  | [a], _ => simp
  | a :: b :: l, h =>
    have hsome : ∀ a, (f a).isSome = true := h.resolve_left (by simp)
    obtain ⟨v, hv⟩ := Option.isSome_iff_exists.mp (hsome a)
    simp [hv]

theorem head?_repeated (hp : p.isProductive = true) (bound : Nat) (text : List Char) :
    (repeated p.rests bound text).head? = some (repeatedly p.search bound text) := by
  induction bound generalizing text with
  | zero => rfl
  | succ bound ih =>
    have hall : (p.rests text).filter (fun rest => rest.length < text.length) = p.rests text := by
      refine List.filter_eq_self.mpr fun rest hrest => decide_eq_true ?_
      obtain ⟨s, rfl, hs⟩ := mem_rests_iff.mp hrest
      have := length_pos_of_isProductive hp hs
      rw [List.length_append]
      omega
    rw [repeated, hall, List.head?_append, List.head?_flatMap, findSome?_eq_bind (Or.inr ?_)]
    · show ((p.search text).bind _).or (some text) = _
      rw [repeatedly]
      cases hfirst : p.search text with
      | none => rfl
      | some rest => simp [ih]
    · intro rest
      rw [ih]
      rfl

/-- **The search settles on what a scan takes that gives nothing back**, if nothing that comes
    behind a choice can fail. -/
theorem search_eq_commit (h : p.isCommitted = true) (text : List Char) :
    p.search text = p.commit text := by
  induction p generalizing text with
  | char accepts =>
    cases text with
    | nil => rfl
    | cons c tail =>
      rw [search, rests, commit]
      split <;> rfl
  | word fixed =>
    rw [search, rests, commit]
    split <;> rfl
  | seq p q ihp ihq =>
    obtain ⟨hpq, hdecides⟩ := Bool.and_eq_true_iff.mp h
    obtain ⟨hp, hq⟩ := Bool.and_eq_true_iff.mp hpq
    have hcommit : q.search = q.commit := funext (ihq hq)
    rw [search_seq, findSome?_eq_bind, commit, ← ihp hp, ← hcommit, search]
    exact (Bool.or_eq_true_iff.mp hdecides).imp (length_rests_of_isRigid · text)
      search_isSome_of_isTotal
  | either p q ihp ihq =>
    obtain ⟨hp, hq⟩ := Bool.and_eq_true_iff.mp h
    rw [commit, ← ihp hp, ← ihq hq]
    exact List.head?_append
  | optional p ih =>
    rw [commit, ← ih h]
    exact List.head?_append
  | many p ih =>
    obtain ⟨hp, hproductive⟩ := Bool.and_eq_true_iff.mp h
    have hcommit : p.search = p.commit := funext (ih hp)
    rw [commit, ← hcommit]
    exact head?_repeated hproductive text.length text

/-! ## 4. Repetitions of what never turns back -/

section Repetition

variable (hcommitted : p.isCommitted = true) (hproductive : p.isProductive = true)

include hcommitted hproductive

theorem length_lt_of_commit (h : p.commit text = some rest) : rest.length < text.length := by
  rw [← search_eq_commit hcommitted] at h
  obtain ⟨s, rfl, hs⟩ := eq_append_of_search h
  have := length_pos_of_isProductive hproductive hs
  rw [List.length_append]
  omega

theorem commit_repeatedly {bound : Nat} (hbound : text.length ≤ bound) :
    p.commit (repeatedly p.commit bound text) = none := by
  induction bound generalizing text with
  | zero =>
    obtain rfl := List.length_eq_zero_iff.mp (Nat.le_zero.mp hbound)
    exact Option.eq_none_iff_forall_ne_some.mpr fun rest h =>
      Nat.not_lt_zero _ (length_lt_of_commit hcommitted hproductive h)
  | succ bound ih =>
    rw [repeatedly]
    cases hstep : p.commit text with
    | none => exact hstep
    | some rest =>
      have := length_lt_of_commit hcommitted hproductive hstep
      exact ih (by omega)

/-- A repetition stops only where there is nothing more to take. -/
theorem commit_eq_none_of_many (h : (many p).commit text = some rest) : p.commit rest = none := by
  rw [← Option.some.inj h]
  exact commit_repeatedly hcommitted hproductive (Nat.le_refl _)

section Reader

variable {take : List Char → List Char × List Char}
  (happend : ∀ text, (take text).1 ++ (take text).2 = text)
  (hmatches : ∀ text, (many p).Matches (take text).1)
  (hstep : ∀ {text rest}, p.commit text = some rest → (take text).2 = (take rest).2)

include happend hmatches

omit hproductive in
theorem take_of_commit_eq_none (h : p.commit text = none) : (take text).2 = text := by
  rw [← search_eq_commit hcommitted, search_eq_none_iff] at h
  rcases matches_many_iff.mp (hmatches text) with hnil | ⟨first, others, htake, hfirst, -⟩
  · have htext := happend text
    rwa [hnil, List.nil_append] at htext
  · refine absurd hfirst (h first ⟨others ++ (take text).2, ?_⟩)
    rw [← List.append_assoc, ← htake, happend]

include hstep

theorem repeatedly_commit {bound : Nat} (hbound : text.length ≤ bound) :
    repeatedly p.commit bound text = (take text).2 := by
  induction bound generalizing text with
  | zero =>
    obtain rfl := List.length_eq_zero_iff.mp (Nat.le_zero.mp hbound)
    exact (List.append_eq_nil_iff.mp (happend [])).2.symm
  | succ bound ih =>
    rw [repeatedly]
    cases hfirst : p.commit text with
    | none => exact (take_of_commit_eq_none hcommitted happend hmatches hfirst).symm
    | some rest =>
      have := length_lt_of_commit hcommitted hproductive hfirst
      exact (ih (by omega)).trans (hstep hfirst).symm

/-- **A reader that takes repetitions one by one leaves what the repeated pattern leaves**: it
    takes a text of the repetition, and leaves the same after one step as before. -/
theorem commit_many (text : List Char) : (many p).commit text = some (take text).2 :=
  congrArg some
    (repeatedly_commit hcommitted hproductive happend hmatches hstep (Nat.le_refl text.length))

end Reader

end Repetition

end ChordChart.Text.Pattern
