/-
  File:      ChordChart/Proofs/Chord/Reading.lean
  Subject:   A chord is read again when its roots are replaced.

  A reader looks past the end of what it takes only to see whether that
  goes on, and a root letter never makes it go on, whichever letter it is.
  So what stands behind a chord may be exchanged from its first root
  letter on (`AgreeToRoot`), and so may the roots of the chord itself.

  * `Quality.take_agree`: the same quality is taken in front of such a text.
  * `Chord.read?_of_replaces`: the chord with other roots is read where the
    chord was.  A root may lose its sign only if no sign stands right
    behind it, which would then be taken for its own (`Part.Replaces`).
-/
import ChordChart.Chord.Reader

namespace ChordChart

/-! ## 1. Root letters and signs -/

/-- Whether a sharp or flat sign stands at the head of a text. -/
def Quality.opensWithSign : List Char → Bool
  | [] => false
  | c :: _ => isSign c

theorem Quality.opensWithSign_append {s t : List Char} (hs : opensWithSign s = false)
    (ht : opensWithSign t = false) : opensWithSign (s ++ t) = false := by
  cases s with
  | nil => exact ht
  | cons c s => exact hs

theorem Accidental.ofChar?_eq_none {c : Char} (h : Quality.isSign c = false) :
    Accidental.ofChar? c = none := by
  unfold Accidental.ofChar?
  split
  · cases h
  · cases h
  · rfl

theorem Accidental.isSign_of_ofChar? {c : Char} (h : Accidental.ofChar? c = none) :
    Quality.isSign c = false := by
  by_cases hsharp : c = '#'
  · subst hsharp; cases h
  · by_cases hflat : c = 'b'
    · subst hflat; cases h
    · simp [Quality.isSign, hsharp, hflat]

namespace Note

/-- A written note is read back unless it is a natural and a sign stands behind it. -/
theorem read?_text_append (n : Note) (rest : List Char)
    (h : n.accidental = .natural → Quality.opensWithSign rest = false) :
    read? (n.text ++ rest) = some (n, rest) := by
  obtain ⟨letter, accidental⟩ := n
  cases accidental with
  | natural =>
    cases rest with
    | nil => simp [text, Accidental.sign, read?, Letter.ofChar?_char]
    | cons s after =>
      have hs : Accidental.ofChar? s = none := Accidental.ofChar?_eq_none (h rfl)
      simp [text, Accidental.sign, read?, Letter.ofChar?_char, hs]
  | sharp => simp [text, Accidental.sign, read?, Letter.ofChar?_char, Accidental.ofChar?]
  | flat => simp [text, Accidental.sign, read?, Letter.ofChar?_char, Accidental.ofChar?]

/-- A natural is read only where no sign follows. -/
theorem opensWithSign_of_read? {text rest : List Char} {n : Note}
    (h : read? text = some (n, rest)) (hn : n.accidental = .natural) :
    Quality.opensWithSign rest = false := by
  match text, h with
  | c :: tail, h =>
    obtain ⟨letter, -, heq⟩ := Option.map_eq_some_iff.mp h
    match tail, heq with
    | [], heq => cases heq; rfl
    | s :: after, heq =>
      dsimp only at heq
      split at heq
      · next accidental hs =>
        cases heq
        have hsign := Accidental.sign_of_ofChar? hs
        rw [show accidental = .natural from hn] at hsign
        cases hsign
      · next hs =>
        cases heq
        exact Accidental.isSign_of_ofChar? hs

end Note

/-! ## 2. Texts that agree up to a root letter -/

/-- Two texts that are the same, or the same up to a place where both have a root letter. -/
inductive AgreeToRoot : List Char → List Char → Prop where
  | nil : AgreeToRoot [] []
  | same (c : Char) {s t : List Char} (rest : AgreeToRoot s t) : AgreeToRoot (c :: s) (c :: t)
  | root {c d : Char} (left : (Letter.ofChar? c).isSome) (right : (Letter.ofChar? d).isSome)
      (s t : List Char) : AgreeToRoot (c :: s) (d :: t)

namespace AgreeToRoot

theorem refl : (s : List Char) → AgreeToRoot s s
  | [] => .nil
  | c :: s => .same c (refl s)

theorem symm {s t : List Char} (h : AgreeToRoot s t) : AgreeToRoot t s := by
  induction h with
  | nil => exact .nil
  | same c _ ih => exact .same c ih
  | root left right s t => exact .root right left t s

theorem append_left {s t : List Char} (h : AgreeToRoot s t) :
    (front : List Char) → AgreeToRoot (front ++ s) (front ++ t)
  | [] => h
  | c :: front => .same c (h.append_left front)

/-- A character that is no root letter stands in both texts. -/
theorem of_cons {c : Char} {s t : List Char} (h : AgreeToRoot (c :: s) t)
    (hc : Letter.ofChar? c = none) : ∃ t', t = c :: t' ∧ AgreeToRoot s t' := by
  cases h with
  | same _ rest => exact ⟨_, rfl, rest⟩
  | root left => rw [hc] at left; cases left

/-- What is at the head of one text and is not a root letter is at the head of the other. -/
theorem of_append {front s t : List Char} (h : AgreeToRoot (front ++ s) t)
    (hfront : ∀ c ∈ front, Letter.ofChar? c = none) :
    ∃ t', t = front ++ t' ∧ AgreeToRoot s t' := by
  induction front generalizing t with
  | nil => exact ⟨t, rfl, h⟩
  | cons c front ih =>
    obtain ⟨t₁, rfl, h₁⟩ := h.of_cons (hfront c List.mem_cons_self)
    obtain ⟨t₂, rfl, h₂⟩ := ih h₁ fun d hd => hfront d (List.mem_cons_of_mem _ hd)
    exact ⟨t₂, rfl, h₂⟩

end AgreeToRoot

/-! ## 3. Qualities -/

namespace Quality

theorem ofChar?_of_isDigit {c : Char} (hc : c.isDigit = true) : Letter.ofChar? c = none := by
  unfold Letter.ofChar?
  split <;> first | rfl | cases hc

theorem ofChar?_of_isSign {c : Char} (hc : isSign c = true) : Letter.ofChar? c = none := by
  unfold Letter.ofChar?
  split <;> first | rfl | cases hc

/-- The letters of the fragments. -/
def stems : List (List Char) :=
  [['a', 'j'], ['i', 'n'], ['s', 'u', 's'], ['a', 'u', 'g'], ['d', 'i', 'm'], ['a', 'd', 'd']]

theorem ofChar?_of_mem_stem {stem : List Char} (hstem : stem ∈ stems) :
    ∀ c ∈ stem, Letter.ofChar? c = none := by
  intro c hc
  have hall : stems.all (·.all fun c => (Letter.ofChar? c).isNone) = true := by rfl
  have hstem := List.all_eq_true.mp hall stem hstem
  exact Option.isNone_iff_eq_none.mp (List.all_eq_true.mp hstem c hc)

/-- Whether fragments go on at the head of a text. -/
def opensFragment (text : List Char) : Bool :=
  stems.any (·.isPrefixOf text) || text.head?.any Char.isDigit

/-- Whether an alteration goes on or begins at the head of a text. -/
def opensAlteration (inside : Bool) (text : List Char) : Bool :=
  inside && text.head?.any Char.isDigit ||
    match text with
    | c :: d :: _ => isSign c && d.isDigit
    | _ => false

theorem takeFragments_eq_nil_iff (text : List Char) :
    (takeFragments text).1 = [] ↔ opensFragment text = false := by
  unfold takeFragments
  split
  case h_7 c rest h₁ h₂ h₃ h₄ h₅ h₆ =>
    have hstem : stems.any (·.isPrefixOf (c :: rest)) = false := by
      simp only [List.any_eq_false, List.isPrefixOf_iff_prefix]
      intro stem hstem hprefix
      obtain ⟨after, hafter⟩ := hprefix
      simp only [stems, List.mem_cons, List.not_mem_nil, or_false] at hstem
      rcases hstem with rfl | rfl | rfl | rfl | rfl | rfl <;> cases hafter <;> simp_all
    cases hc : c.isDigit <;> simp [taking, opensFragment, hstem, hc]
  all_goals simp [taking, opensFragment, stems]

theorem takeAlterations_eq_nil_iff (inside : Bool) (text : List Char) :
    (takeAlterations inside text).1 = [] ↔ opensAlteration inside text = false := by
  unfold takeAlterations
  split
  · simp [opensAlteration]
  · next c => cases inside <;> cases hc : c.isDigit <;> simp [opensAlteration, hc]
  · next c d rest =>
    simp only [opensAlteration, List.head?_cons, Option.any_some, Bool.or_eq_false_iff]
    split
    · next h => simp [taking, h]
    · next h =>
      have h := Bool.eq_false_iff.mpr h
      split
      · next hsign => simp [taking, hsign]
      · next hsign => exact ⟨fun _ => ⟨h, Bool.eq_false_iff.mpr hsign⟩, fun _ => rfl⟩

theorem opensFragment_agree {s t : List Char} (h : AgreeToRoot s t)
    (ht : opensFragment t = true) : opensFragment s = true := by
  simp only [opensFragment, Bool.or_eq_true, List.any_eq_true] at ht ⊢
  rcases ht with ⟨stem, hstem, hprefix⟩ | hdigit
  · obtain ⟨t', rfl⟩ := List.isPrefixOf_iff_prefix.mp hprefix
    obtain ⟨s', rfl, -⟩ := h.symm.of_append (ofChar?_of_mem_stem hstem)
    exact Or.inl ⟨stem, hstem, List.isPrefixOf_iff_prefix.mpr ⟨s', rfl⟩⟩
  · right
    cases t with
    | nil => cases hdigit
    | cons c t =>
      obtain ⟨s', rfl, -⟩ := h.symm.of_cons (ofChar?_of_isDigit hdigit)
      exact hdigit

theorem opensAlteration_agree {inside : Bool} {s t : List Char} (h : AgreeToRoot s t)
    (ht : opensAlteration inside t = true) : opensAlteration inside s = true := by
  simp only [opensAlteration, Bool.or_eq_true, Bool.and_eq_true] at ht ⊢
  rcases ht with ⟨hinside, hdigit⟩ | hsign
  · left
    cases t with
    | nil => cases hdigit
    | cons c t =>
      obtain ⟨s', rfl, -⟩ := h.symm.of_cons (ofChar?_of_isDigit hdigit)
      exact ⟨hinside, hdigit⟩
  · right
    match t, hsign with
    | c :: d :: t, hsign =>
      obtain ⟨hc, hd⟩ := Bool.and_eq_true_iff.mp hsign
      obtain ⟨s₁, rfl, h₁⟩ := h.symm.of_cons (ofChar?_of_isSign hc)
      obtain ⟨s₂, rfl, -⟩ := h₁.of_cons (ofChar?_of_isDigit hd)
      exact hsign

theorem takeMarker_agree {s t : List Char} (h : AgreeToRoot (takeMarker s).2 t) :
    takeMarker ((takeMarker s).1 ++ t) = ((takeMarker s).1, t) := by
  revert h
  fun_cases takeMarker s with
  | case1 rest => exact fun _ => rfl
  | case2 rest => exact fun _ => rfl
  | case3 _ hm hM =>
    intro h
    have h : AgreeToRoot s t := h
    rw [List.nil_append]
    unfold takeMarker
    split
    · obtain ⟨s', hs, -⟩ := h.symm.of_cons rfl
      exact (hm s' hs).elim
    · obtain ⟨s', hs, -⟩ := h.symm.of_cons rfl
      exact (hM s' hs).elim
    · rfl

/-- A group that takes nothing from a text takes nothing from one that agrees with it, if it
    looks only at characters that are no root letters. -/
theorem stop_of_agree {group : List Char → List Char × List Char} {opens : List Char → Bool}
    (happend : ∀ text, (group text).1 ++ (group text).2 = text)
    (hiff : ∀ text, (group text).1 = [] ↔ opens text = false)
    (hopens : ∀ {s t : List Char}, AgreeToRoot s t → opens t = true → opens s = true)
    {s t : List Char} (h : AgreeToRoot s t) (hs : (group s).1 = []) : group t = ([], t) := by
  have hclosed : opens t = false := by
    refine Bool.eq_false_iff.mpr fun ht => ?_
    have hs' := hopens h ht
    rw [(hiff s).mp hs] at hs'
    cases hs'
  have hnil : (group t).1 = [] := (hiff t).mpr hclosed
  have htext := happend t
  rw [hnil, List.nil_append] at htext
  exact Prod.ext hnil htext

theorem takeFragments_stop {s t : List Char} (h : AgreeToRoot s t)
    (hs : (takeFragments s).1 = []) : takeFragments t = ([], t) :=
  stop_of_agree takeFragments_append takeFragments_eq_nil_iff opensFragment_agree h hs

theorem takeAlterations_stop {inside : Bool} {s t : List Char} (h : AgreeToRoot s t)
    (hs : (takeAlterations inside s).1 = []) : takeAlterations inside t = ([], t) :=
  stop_of_agree (takeAlterations_append inside) (takeAlterations_eq_nil_iff inside)
    opensAlteration_agree h hs

theorem takeFragments_digit {c : Char} (hc : c.isDigit = true) (text : List Char) :
    takeFragments (c :: text) = taking [c] (takeFragments text) := by
  rw [takeFragments]
  · simp [hc]
  all_goals rintro rest rfl; cases hc

theorem takeAlterations_digit {c : Char} (hc : c.isDigit = true) (text : List Char) :
    takeAlterations true (c :: text) = taking [c] (takeAlterations true text) := by
  cases text <;> simp [takeAlterations, taking, hc]

theorem takeFragments_agree {s t : List Char} (h : AgreeToRoot (takeFragments s).2 t) :
    takeFragments ((takeFragments s).1 ++ t) = ((takeFragments s).1, t) := by
  fun_induction takeFragments s with
  | case7 c rest _ _ _ _ _ _ hc ih =>
    exact (takeFragments_digit hc _).trans (congrArg (taking [c]) (ih h))
  | case8 c rest _ _ _ _ _ _ hc =>
    have hnil : (takeFragments (c :: rest)).1 = [] := by
      rw [takeFragments] <;> simp_all
    exact takeFragments_stop h hnil
  | case9 => exact takeFragments_stop h rfl
  | case1 rest ih | case2 rest ih | case3 rest ih | case4 rest ih | case5 rest ih
  | case6 rest ih => exact congrArg (taking _) (ih h)

theorem takeAlterations_agree {inside : Bool} {s t : List Char}
    (h : AgreeToRoot (takeAlterations inside s).2 t) :
    takeAlterations inside ((takeAlterations inside s).1 ++ t)
      = ((takeAlterations inside s).1, t) := by
  fun_induction takeAlterations inside s with
  | case1 => exact takeAlterations_stop h rfl
  | case2 inside c hc =>
    cases h
    simp [takeAlterations, hc]
  | case3 inside c hc =>
    have hnil : (takeAlterations inside [c]).1 = [] := by rw [takeAlterations, if_neg hc]
    exact takeAlterations_stop h hnil
  | case4 inside c d rest hc ih =>
    obtain ⟨rfl, hc⟩ := Bool.and_eq_true_iff.mp hc
    exact (takeAlterations_digit hc _).trans (congrArg (taking [c]) (ih h))
  | case5 inside c d rest hc hsign ih =>
    have htake (text : List Char) :
        takeAlterations inside (c :: d :: text) = taking [c, d] (takeAlterations true text) := by
      rw [takeAlterations, if_neg hc, if_pos hsign]
    exact (htake _).trans (congrArg (taking [c, d]) (ih h))
  | case6 inside c d rest hc hsign =>
    have hnil : (takeAlterations inside (c :: d :: rest)).1 = [] := by
      rw [takeAlterations, if_neg hc, if_neg hsign]
    exact takeAlterations_stop h hnil

/-- **The same quality is taken in front of a text that agrees up to a root letter.** -/
theorem take_agree {s t : List Char} (h : AgreeToRoot (take s).2 t) :
    take ((take s).1 ++ t) = ((take s).1, t) := by
  have happend := takeAlterations_append false (takeFragments (takeMarker s).2).2
  have hfragments : AgreeToRoot (takeFragments (takeMarker s).2).2
      ((takeAlterations false (takeFragments (takeMarker s).2).2).1 ++ t) := by
    have := AgreeToRoot.append_left h (takeAlterations false (takeFragments (takeMarker s).2).2).1
    rwa [take, happend] at this
  have hmarker := AgreeToRoot.append_left hfragments (takeFragments (takeMarker s).2).1
  rw [takeFragments_append] at hmarker
  simp only [take, List.append_assoc]
  rw [takeMarker_agree hmarker, takeFragments_agree hfragments, takeAlterations_agree h]

theorem slash_ne_of_isDigit {c : Char} (hc : c.isDigit = true) : '/' ≠ c := by
  intro h
  rw [← h] at hc
  cases hc

theorem slash_ne_of_isSign {c : Char} (hc : isSign c = true) : '/' ≠ c := by
  intro h
  rw [← h] at hc
  cases hc

theorem slash_notMem_takeMarker (text : List Char) : '/' ∉ (takeMarker text).1 := by
  unfold takeMarker
  split <;> simp

theorem slash_notMem_takeFragments (text : List Char) : '/' ∉ (takeFragments text).1 := by
  fun_induction takeFragments text with
  | case7 c rest _ _ _ _ _ _ hc ih => simp [taking, ih, slash_ne_of_isDigit hc]
  | _ => simp_all [taking]

theorem slash_notMem_takeAlterations (inside : Bool) (text : List Char) :
    '/' ∉ (takeAlterations inside text).1 := by
  fun_induction takeAlterations inside text with
  | case1 | case3 | case6 => simp
  | case2 inside c hc => simp [slash_ne_of_isDigit (Bool.and_eq_true_iff.mp hc).2]
  | case4 inside c d rest hc ih =>
    simp [taking, ih, slash_ne_of_isDigit (Bool.and_eq_true_iff.mp hc).2]
  | case5 inside c d rest _ hsign ih =>
    obtain ⟨hc, hd⟩ := Bool.and_eq_true_iff.mp hsign
    simp [taking, ih, slash_ne_of_isSign hc, slash_ne_of_isDigit hd]

/-- No slash is ever taken. -/
theorem slash_notMem_take (text : List Char) : '/' ∉ (take text).1 := by
  simp only [take, List.mem_append, not_or]
  exact ⟨⟨slash_notMem_takeMarker _, slash_notMem_takeFragments _⟩,
    slash_notMem_takeAlterations _ _⟩

end Quality

theorem AgreeToRoot.opensWithSign_eq {s t : List Char} (h : AgreeToRoot s t) :
    Quality.opensWithSign s = Quality.opensWithSign t := by
  have hletter : ∀ c, (Letter.ofChar? c).isSome → Quality.isSign c = false := by
    intro c hc
    refine Bool.eq_false_iff.mpr fun hsign => ?_
    rw [Quality.ofChar?_of_isSign hsign] at hc
    cases hc
  cases h with
  | nil => rfl
  | same c => rfl
  | root left right => exact (hletter _ left).trans (hletter _ right).symm

/-! ## 4. Parts and chords -/

/-- Parts begin with root letters, so any two of them agree up to one. -/
theorem Part.agree_text (p q : Part) (s t : List Char) :
    AgreeToRoot (p.text ++ s) (q.text ++ t) :=
  .root (by rw [Letter.ofChar?_char]; rfl) (by rw [Letter.ofChar?_char]; rfl) _ _

theorem Chord.agree_text (c d : Chord) (s t : List Char) :
    AgreeToRoot (c.text ++ s) (d.text ++ t) := by
  obtain ⟨p, b⟩ := c
  obtain ⟨q, e⟩ := d
  cases b <;> cases e <;> simp only [Chord.text, List.append_assoc] <;>
    exact p.agree_text q _ _

/-- A chord begins with the letter of its root. -/
theorem Chord.exists_text_eq (c : Chord) :
    ∃ tail, c.text = c.main.root.letter.char :: tail := by
  obtain ⟨p, bass⟩ := c
  cases bass with
  | none => exact ⟨_, rfl⟩
  | some b => exact ⟨_, rfl⟩

theorem Chord.text_ne_nil (c : Chord) : c.text ≠ [] := by
  obtain ⟨tail, htext⟩ := c.exists_text_eq
  rw [htext]
  exact List.cons_ne_nil _ tail

/-- A part may stand where another was read: its quality is the same, and if its root is a
    natural then a natural stood there before or no sign stands behind it. -/
structure Part.Replaces (behind : List Char) (q p : Part) : Prop where
  quality : q.quality = p.quality
  root : q.root.accidental = .natural →
    p.root.accidental = .natural ∨ Quality.opensWithSign (p.quality ++ behind) = false

/-- A chord may stand where another was read. -/
inductive Chord.Replaces (behind : List Char) : Chord → Chord → Prop where
  | plain {q p : Part} (main : q.Replaces behind p) : Chord.Replaces behind ⟨q, none⟩ ⟨p, none⟩
  | slash {q p e b : Part} (main : q.Replaces ('/' :: (b.text ++ behind)) p)
      (bass : e.Replaces behind b) : Chord.Replaces behind ⟨q, some e⟩ ⟨p, some b⟩

theorem Part.Replaces.refl (behind : List Char) (p : Part) : p.Replaces behind p :=
  ⟨rfl, Or.inl⟩

theorem Chord.Replaces.refl (behind : List Char) : (c : Chord) → c.Replaces behind c
  | ⟨p, none⟩ => .plain (Part.Replaces.refl _ p)
  | ⟨p, some b⟩ => .slash (Part.Replaces.refl _ p) (Part.Replaces.refl _ b)

/-- The parts of what is read: a root, and the quality that is taken behind it. -/
theorem Part.read?_cases {text rest : List Char} {p : Part}
    (h : Part.read? text = some (p, rest)) :
    Note.read? text = some (p.root, p.quality ++ rest) ∧
      Quality.take (p.quality ++ rest) = (p.quality, rest) := by
  obtain ⟨⟨root, tail⟩, hroot, heq⟩ := Option.map_eq_some_iff.mp h
  cases heq
  dsimp only
  rw [Quality.take_append]
  exact ⟨hroot, rfl⟩

theorem Part.read?_of_replaces {text rest rest' : List Char} {p q : Part}
    (hread : Part.read? text = some (p, rest)) (hq : q.Replaces rest p)
    (hrest : AgreeToRoot rest rest') : Part.read? (q.text ++ rest') = some (q, rest') := by
  obtain ⟨hroot, htake⟩ := Part.read?_cases hread
  have hagree := AgreeToRoot.append_left hrest p.quality
  have htake' : Quality.take (p.quality ++ rest') = (p.quality, rest') := by
    have hsnd : AgreeToRoot (Quality.take (p.quality ++ rest)).2 rest' := by rwa [htake]
    have := Quality.take_agree hsnd
    rwa [htake] at this
  obtain ⟨moved, quality⟩ := q
  obtain ⟨rfl, hnatural⟩ := hq
  have hnote : Note.read? (moved.text ++ (p.quality ++ rest'))
      = some (moved, p.quality ++ rest') := by
    refine Note.read?_text_append _ _ fun hmoved => ?_
    rw [← hagree.opensWithSign_eq]
    rcases hnatural hmoved with hn | hsign
    · exact Note.opensWithSign_of_read? hroot hn
    · exact hsign
  rw [Part.text, List.append_assoc, Part.read?, hnote, Option.map_some]
  dsimp only
  rw [htake']

theorem Part.read?_eq_none_iff {c : Char} {rest : List Char} :
    Part.read? (c :: rest) = none ↔ Letter.ofChar? c = none := by
  simp [Part.read?, Note.read?]

theorem Part.readBass?_agree {s t : List Char} (h : AgreeToRoot s t)
    (hs : Part.readBass? s = none) : Part.readBass? t = none := by
  unfold Part.readBass?
  split
  · next t' =>
    obtain ⟨s', rfl, h'⟩ := h.symm.of_cons rfl
    have hs : Part.read? s' = none := hs
    cases h'.symm with
    | nil => rfl
    | same c => exact Part.read?_eq_none_iff.mpr (Part.read?_eq_none_iff.mp hs)
    | root left =>
      rw [Part.read?_eq_none_iff.mp hs] at left
      cases left
  · rfl

theorem Chord.read?_eq_none_iff {c : Char} {rest : List Char} :
    Chord.read? (c :: rest) = none ↔ Letter.ofChar? c = none :=
  Option.map_eq_none_iff.trans Part.read?_eq_none_iff

/-- What is read when no bass follows the main part. -/
theorem Chord.read?_plain {text rest : List Char} {p : Part}
    (hmain : Part.read? text = some (p, rest)) (hbass : Part.readBass? rest = none) :
    Chord.read? text = some (⟨p, none⟩, rest) := by
  simp only [Chord.read?, hmain, hbass, Option.map_some]

/-- What is read when a bass follows the main part. -/
theorem Chord.read?_slash {text behind rest : List Char} {p b : Part}
    (hmain : Part.read? text = some (p, '/' :: behind))
    (hbass : Part.read? behind = some (b, rest)) :
    Chord.read? text = some (⟨p, some b⟩, rest) := by
  have hbass : Part.readBass? ('/' :: behind) = some (b, rest) := hbass
  simp only [Chord.read?, hmain, hbass, Option.map_some]

/-- A chord is read from a text in one of the two ways. -/
theorem Chord.read?_cases {text rest : List Char} {c : Chord}
    (h : Chord.read? text = some (c, rest)) :
    (∃ p, c = ⟨p, none⟩ ∧ Part.read? text = some (p, rest) ∧ Part.readBass? rest = none) ∨
    (∃ p b, c = ⟨p, some b⟩ ∧ Part.read? text = some (p, '/' :: (b.text ++ rest)) ∧
      Part.read? (b.text ++ rest) = some (b, rest)) := by
  obtain ⟨⟨p, behind⟩, hmain, heq⟩ := Option.map_eq_some_iff.mp h
  dsimp only at heq
  split at heq
  · next b after hbass =>
    cases heq
    have happend := Part.slash_text_append_of_readBass? hbass
    rw [← happend] at hmain hbass
    exact Or.inr ⟨p, b, rfl, hmain, hbass⟩
  · next hbass =>
    cases heq
    exact Or.inl ⟨p, rfl, hmain, hbass⟩

/-- **A chord with other roots is read where the chord was read**, in front of any text that
    agrees with the old one up to a root letter. -/
theorem Chord.read?_of_replaces {text rest rest' : List Char} {c d : Chord}
    (hread : Chord.read? text = some (c, rest)) (hd : d.Replaces rest c)
    (hrest : AgreeToRoot rest rest') : Chord.read? (d.text ++ rest') = some (d, rest') := by
  rcases Chord.read?_cases hread with ⟨p, rfl, hmain, hbass⟩ | ⟨p, b, rfl, hmain, hbass⟩
  · cases hd with
    | plain hq =>
      exact Chord.read?_plain (Part.read?_of_replaces hmain hq hrest)
        (Part.readBass?_agree hrest hbass)
  · cases hd with
    | @slash q _ e _ hq he =>
      have hbehind : AgreeToRoot ('/' :: (b.text ++ rest)) ('/' :: (e.text ++ rest')) :=
        .same '/' (b.agree_text e rest rest')
      have hmain' := Part.read?_of_replaces hmain hq hbehind
      have hbass' := Part.read?_of_replaces hbass he hrest
      have htext : (⟨q, some e⟩ : Chord).text ++ rest' = q.text ++ '/' :: (e.text ++ rest') := by
        simp [Chord.text]
      rw [htext]
      exact Chord.read?_slash hmain' hbass'

end ChordChart
