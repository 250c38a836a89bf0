/-
  File:      ChordChart/Proofs/Line/Replacement.lean
  Subject:   A line is cut at the same places when the roots of its chords are replaced.

  * `Line.read?_of_mem_occurrences`: each chord of a line is the one that is read where it
    stands, and no word goes on behind it.
  * `Line.cut_of_replaced`: pieces in which every chord may stand where the old one stood are
    the pieces of the text they make up.  What was passed over is passed over again, since a
    candidate that was dropped looks only at root letters to come.
  * `Line.pieces_withRoots`: so it is when one function replaces all roots and no root loses its
    sign in front of another sign.
  * `Line.gapsFrom_mapRoots`: the text around the chords stays.
-/
import ChordChart.Line.Spans
import ChordChart.Proofs.Chord.Reading

namespace ChordChart

/-! ## 1. Replacing all roots -/

/-- The parts of a chord: the main one, then the bass if there is one. -/
def Chord.parts (c : Chord) : List Part := c.main :: c.bass.toList

/-- A part with another root. -/
def Part.mapRoot (f : Note → Note) (p : Part) : Part := ⟨f p.root, p.quality⟩

/-- A chord with other roots. -/
def Chord.mapRoots (f : Note → Note) (c : Chord) : Chord :=
  ⟨c.main.mapRoot f, c.bass.map (Part.mapRoot f)⟩

/-- A piece with other roots, if it is a chord. -/
def Piece.mapRoots (f : Note → Note) : Piece → Piece
  | .copied copy => .copied copy
  | .chord symbol => .chord (symbol.mapRoots f)

theorem Chord.mapRoots_comp (g f : Note → Note) (c : Chord) :
    (c.mapRoots f).mapRoots g = c.mapRoots (g ∘ f) := by
  obtain ⟨main, bass⟩ := c
  cases bass <;> rfl

theorem Piece.mapRoots_comp (g f : Note → Note) (p : Piece) :
    (p.mapRoots f).mapRoots g = p.mapRoots (g ∘ f) := by
  cases p with
  | copied copy => rfl
  | chord symbol => exact congrArg Piece.chord (symbol.mapRoots_comp g f)

theorem Chord.mapRoots_id (c : Chord) : c.mapRoots id = c := by
  obtain ⟨main, bass⟩ := c
  cases bass <;> rfl

theorem Piece.mapRoots_id (p : Piece) : p.mapRoots id = p := by
  cases p with
  | copied copy => rfl
  | chord symbol => exact congrArg Piece.chord symbol.mapRoots_id

theorem Chord.mapRoots_congr {f g : Note → Note} {c : Chord}
    (h : ∀ p ∈ c.parts, f p.root = g p.root) : c.mapRoots f = c.mapRoots g := by
  obtain ⟨main, bass⟩ := c
  have hmain := h main List.mem_cons_self
  cases bass with
  | none => simp only [mapRoots, Part.mapRoot, hmain, Option.map_none]
  | some bass =>
    have hbass := h bass (List.mem_cons_of_mem _ List.mem_cons_self)
    simp only [mapRoots, Part.mapRoot, hmain, hbass, Option.map_some]

namespace Line

/-! ## 2. Chords with what stands behind them -/

/-- The chords among pieces, each with the text behind it. -/
def occurrences : List Piece → List (Chord × List Char)
  | [] => []
  | .copied _ :: rest => occurrences rest
  | .chord symbol :: rest => (symbol, rest.flatMap Piece.text) :: occurrences rest

/-- The parts of all chords of a line. -/
def parts (line : List Char) : List Part := (chords line).flatMap Chord.parts

theorem map_fst_occurrences (ps : List Piece) :
    (occurrences ps).map Prod.fst = ps.filterMap Piece.chord? := by
  induction ps with
  | nil => rfl
  | cons p ps ih =>
    cases p with
    | copied copy => exact ih
    | chord symbol => exact congrArg (symbol :: ·) ih

theorem occurrences_append (ps qs : List Piece) :
    occurrences (ps ++ qs)
      = (occurrences ps).map (fun o => (o.1, o.2 ++ qs.flatMap Piece.text)) ++ occurrences qs := by
  induction ps with
  | nil => rfl
  | cons p ps ih =>
    cases p with
    | copied copy => exact ih
    | chord symbol =>
      rw [List.cons_append, occurrences, occurrences, List.flatMap_append, ih]
      rfl

theorem mem_chords_iff {line : List Char} {c : Chord} :
    c ∈ chords line ↔ ∃ behind, (c, behind) ∈ occurrences (pieces line) := by
  rw [chords, ← map_fst_occurrences, List.mem_map]
  constructor
  · intro ⟨⟨_, behind⟩, h, hc⟩
    cases hc
    exact ⟨behind, h⟩
  · intro ⟨behind, h⟩
    exact ⟨(c, behind), h, rfl⟩

theorem mem_chords_of_mem_pieces {line : List Char} {c : Chord} (h : Piece.chord c ∈ pieces line) :
    c ∈ chords line :=
  List.mem_filterMap.mpr ⟨.chord c, h, rfl⟩

theorem mem_parts_of_mem_occurrences {line : List Char} {o : Chord × List Char}
    (ho : o ∈ occurrences (pieces line)) {p : Part} (hp : p ∈ o.1.parts) : p ∈ parts line :=
  List.mem_flatMap.mpr ⟨o.1, mem_chords_iff.mpr ⟨o.2, ho⟩, hp⟩

/-! ## 3. One step of the cut -/

theorem isAlphanumeric_of_ofChar? {c : Char} {letter : Letter}
    (h : Letter.ofChar? c = some letter) : Text.isAlphanumeric c = true := by
  rw [← Letter.char_of_ofChar? h]
  cases letter <;> decide

/-- A chord is a word that goes on. -/
theorem runsOn_text_append (c : Chord) (rest : List Char) : runsOn (c.text ++ rest) = true := by
  obtain ⟨tail, htext⟩ := c.exists_text_eq
  rw [htext]
  simp [runsOn, isAlphanumeric_of_ofChar? (Letter.ofChar?_char _)]

theorem ofChar?_of_not_runsOn {c : Char} {rest : List Char} (h : runsOn (c :: rest) = false) :
    Letter.ofChar? c = none := by
  cases hc : Letter.ofChar? c with
  | none => rfl
  | some letter =>
    have halpha := isAlphanumeric_of_ofChar? hc
    simp [runsOn, halpha] at h

theorem runsOn_agree {s t : List Char} (h : AgreeToRoot s t) : runsOn s = runsOn t := by
  have hletter : ∀ c rest, (Letter.ofChar? c).isSome → runsOn (c :: rest) = true := by
    intro c rest hc
    obtain ⟨letter, hletter⟩ := Option.isSome_iff_exists.mp hc
    simp [runsOn, isAlphanumeric_of_ofChar? hletter]
  cases h with
  | nil => rfl
  | same c => rfl
  | root left right => rw [hletter _ _ left, hletter _ _ right]

theorem cut_true (c : Char) (rest : List Char) :
    cut true (c :: rest) = .copied [c] :: cut (Text.isWordChar c) rest := by
  rw [cut, if_pos rfl]

theorem cut_of_ofChar?_none (inWord : Bool) {c : Char} (rest : List Char)
    (hc : Letter.ofChar? c = none) :
    cut inWord (c :: rest) = .copied [c] :: cut (Text.isWordChar c) rest := by
  rw [cut]
  split
  · rfl
  · split
    · rfl
    · next chord after h =>
      rw [Chord.read?_eq_none_iff.mpr hc] at h
      cases h

theorem cut_of_read? {text after : List Char} {c : Chord}
    (h : Chord.read? text = some (c, after)) :
    cut false text = (if runsOn after then .copied c.text else .chord c)
      :: cut (endsInWord c.text) after := by
  cases text with
  | nil => cases h
  | cons first rest =>
    rw [cut, if_neg Bool.false_ne_true]
    split
    · next hnone =>
      rw [h] at hnone
      cases hnone
    · next chord tail hsome =>
      rw [h] at hsome
      cases hsome
      rfl

/-- Where no word goes on it does not matter whether one led up to the place. -/
theorem cut_of_not_runsOn {text : List Char} (h : runsOn text = false) (b b' : Bool) :
    cut b text = cut b' text := by
  cases text with
  | nil => rw [cut, cut]
  | cons c rest =>
    have hc := ofChar?_of_not_runsOn h
    rw [cut_of_ofChar?_none b rest hc, cut_of_ofChar?_none b' rest hc]

/-! ## 4. Chords of a line -/

/-- **Each chord of a line is what is read where it stands, and no word goes on behind it.** -/
theorem read?_of_mem_occurrences {inWord : Bool} {text : List Char} {o : Chord × List Char}
    (ho : o ∈ occurrences (cut inWord text)) :
    Chord.read? (o.1.text ++ o.2) = some o ∧ runsOn o.2 = false := by
  fun_induction cut inWord text with
  | case1 => cases ho
  | case2 c rest ih => exact ih ho
  | case3 _ c rest _ h ih => exact ih ho
  | case4 _ c rest _ symbol after h _ ih =>
    by_cases hruns : runsOn after = true
    · rw [if_pos hruns] at ho
      exact ih ho
    · rw [if_neg hruns] at ho
      rcases List.mem_cons.mp ho with rfl | ho
      · rw [flatMap_text_cut, Chord.text_append_of_read? h]
        exact ⟨h, Bool.eq_false_iff.mpr hruns⟩
      · exact ih ho

/-! ## 5. Cutting again -/

/-- Pieces that differ in the roots of chords, each of which may stand where the old one stood. -/
inductive Replaced : List Piece → List Piece → Prop where
  | nil : Replaced [] []
  | copied (copy : List Char) {ps qs : List Piece} (rest : Replaced ps qs) :
      Replaced (.copied copy :: ps) (.copied copy :: qs)
  | chord {c d : Chord} {ps qs : List Piece} (symbol : d.Replaces (ps.flatMap Piece.text) c)
      (rest : Replaced ps qs) : Replaced (.chord c :: ps) (.chord d :: qs)

theorem Replaced.agree {ps qs : List Piece} (h : Replaced ps qs) :
    AgreeToRoot (ps.flatMap Piece.text) (qs.flatMap Piece.text) := by
  induction h with
  | nil => exact .nil
  | copied copy _ ih => exact ih.append_left copy
  | @chord c d _ _ _ _ _ => exact c.agree_text d _ _

/-- **The replaced pieces are the pieces of the text they make up.** -/
theorem cut_of_replaced {inWord : Bool} {text : List Char} {qs : List Piece}
    (h : Replaced (cut inWord text) qs) : cut inWord (qs.flatMap Piece.text) = qs := by
  fun_induction cut inWord text generalizing qs with
  | case1 =>
    cases h
    rw [List.flatMap_nil, cut]
  | case2 c rest ih =>
    cases h with
    | @copied _ _ qs h =>
      show cut true (c :: qs.flatMap Piece.text) = _
      rw [cut_true, ih h]
  | case3 _ c rest _ hnone ih =>
    cases h with
    | @copied _ _ qs h =>
      show cut _ (c :: qs.flatMap Piece.text) = _
      rw [cut_of_ofChar?_none _ _ (Chord.read?_eq_none_iff.mp hnone), ih h]
  | case4 inWord c rest hword symbol after hsome _ ih =>
    obtain rfl : inWord = false := Bool.eq_false_iff.mpr hword
    by_cases hruns : runsOn after = true
    · rw [if_pos hruns] at h
      cases h with
      | @copied _ _ qs h =>
        have hagree := h.agree
        rw [flatMap_text_cut] at hagree
        have hread := Chord.read?_of_replaces hsome (Chord.Replaces.refl after symbol) hagree
        show cut false (symbol.text ++ qs.flatMap Piece.text) = _
        rw [cut_of_read? hread, ← runsOn_agree hagree, if_pos hruns, ih h]
    · rw [if_neg hruns] at h
      cases h with
      | @chord _ d _ qs hd h =>
        have hagree := h.agree
        rw [flatMap_text_cut] at hagree hd
        have hread := Chord.read?_of_replaces hsome hd hagree
        have hruns' : runsOn (qs.flatMap Piece.text) = false := by
          rw [← runsOn_agree hagree]
          exact Bool.eq_false_iff.mpr hruns
        show cut false (d.text ++ qs.flatMap Piece.text) = _
        -- the new root may end in a sign where the old one did not, or the other way round
        rw [cut_of_read? hread, cut_of_not_runsOn hruns' _ (endsInWord symbol.text), ih h, hruns']
        rfl

/-! ## 6. One function for all roots -/

theorem replaced_mapRoots {f : Note → Note} : {ps : List Piece} →
    (∀ o ∈ occurrences ps, (o.1.mapRoots f).Replaces o.2 o.1) →
      Replaced ps (ps.map (Piece.mapRoots f))
  | [], _ => .nil
  | .copied copy :: _, h => .copied copy (replaced_mapRoots h)
  | .chord _ :: _, h =>
    .chord (h _ List.mem_cons_self) (replaced_mapRoots fun o ho => h o (List.mem_cons_of_mem _ ho))

/-- Behind a chord only a sharp could be taken for a sign: a flat would go on as a word. -/
theorem opensWithSign_of_not_runsOn {text : List Char} (h : runsOn text = false)
    (hsharp : text.head? ≠ some '#') : Quality.opensWithSign text = false := by
  cases text with
  | nil => rfl
  | cons c rest =>
    have hc : c ≠ '#' := fun e => hsharp (e ▸ rfl)
    have hb : c ≠ 'b' := by
      rintro rfl
      have halpha : Text.isAlphanumeric 'b' = true := by decide
      simp [runsOn, halpha] at h
    simp [Quality.opensWithSign, Quality.isSign, hc, hb]

/-- A line with other roots in its chords. -/
def withRoots (f : Note → Note) (line : List Char) : List Char :=
  ((pieces line).map (Piece.mapRoots f)).flatMap Piece.text

theorem withRoots_id (line : List Char) : withRoots id line = line := by
  have hid : Piece.mapRoots id = id := funext Piece.mapRoots_id
  rw [withRoots, hid, List.map_id, flatMap_text_pieces]

theorem withRoots_congr {line : List Char} {f g : Note → Note}
    (h : ∀ p ∈ parts line, f p.root = g p.root) : withRoots f line = withRoots g line := by
  refine congrArg (List.flatMap Piece.text) (List.map_congr_left fun piece hpiece => ?_)
  cases piece with
  | copied copy => rfl
  | chord symbol =>
    refine congrArg Piece.chord (Chord.mapRoots_congr fun p hp => h p ?_)
    exact List.mem_flatMap.mpr ⟨symbol, mem_chords_of_mem_pieces hpiece, hp⟩

/-- **The pieces of a line with other roots are its pieces with those roots**, if no chord stands
    before a sharp and no root loses its sign before a quality that begins with one. -/
theorem pieces_withRoots {line : List Char} {f : Note → Note}
    (hsharp : ∀ o ∈ occurrences (pieces line), o.2.head? ≠ some '#')
    (hparts : ∀ p ∈ parts line, (f p.root).accidental = .natural →
      p.root.accidental = .natural ∨ Quality.opensWithSign p.quality = false) :
    pieces (withRoots f line) = (pieces line).map (Piece.mapRoots f) := by
  refine cut_of_replaced (replaced_mapRoots fun o ho => ?_)
  have hbehind := opensWithSign_of_not_runsOn (read?_of_mem_occurrences ho).2 (hsharp o ho)
  have hpart : ∀ p ∈ o.1.parts, ∀ behind, Quality.opensWithSign behind = false →
      (p.mapRoot f).Replaces behind p := by
    intro p hp behind hb
    refine ⟨rfl, fun hn => ?_⟩
    rcases hparts p (mem_parts_of_mem_occurrences ho hp) hn with hnatural | hquality
    · exact Or.inl hnatural
    · exact Or.inr (Quality.opensWithSign_append hquality hb)
  obtain ⟨⟨p, bass⟩, behind⟩ := o
  cases bass with
  | none => exact .plain (hpart p List.mem_cons_self behind hbehind)
  | some b =>
    exact .slash (hpart p List.mem_cons_self _ rfl)
      (hpart b (List.mem_cons_of_mem _ List.mem_cons_self) behind hbehind)

/-! ## 7. The text around the chords -/

/-- The texts before, between and behind the chords among pieces; `front` stands before them. -/
def gapsFrom (front : List Char) : List Piece → List (List Char)
  | [] => [front]
  | .copied copy :: rest => gapsFrom (front ++ copy) rest
  | .chord _ :: rest => front :: gapsFrom [] rest

/-- The text before the first chord of a line, the texts between two, and the text behind the
    last. -/
def gaps (line : List Char) : List (List Char) := gapsFrom [] (pieces line)

/-- Gaps and the texts between them in turn; a gap comes first. -/
def interleave : List (List Char) → List (List Char) → List Char
  | gap :: gaps, text :: texts => gap ++ (text ++ interleave gaps texts)
  | gaps, _ => gaps.flatten

theorem interleave_gapsFrom (front : List Char) (ps : List Piece) :
    interleave (gapsFrom front ps) ((ps.filterMap Piece.chord?).map Chord.text)
      = front ++ ps.flatMap Piece.text := by
  induction ps generalizing front with
  | nil => simp [gapsFrom, interleave]
  | cons p ps ih =>
    cases p with
    | copied copy =>
      show interleave (gapsFrom (front ++ copy) ps) ((ps.filterMap Piece.chord?).map Chord.text) = _
      rw [ih, List.append_assoc]
      rfl
    | chord symbol =>
      show front ++ (symbol.text ++ interleave (gapsFrom [] ps)
        ((ps.filterMap Piece.chord?).map Chord.text)) = _
      rw [ih]
      rfl

/-- **A line is its gaps with its chords in between.** -/
theorem interleave_gaps (line : List Char) :
    interleave (gaps line) ((chords line).map Chord.text) = line := by
  rw [gaps, chords, interleave_gapsFrom, flatMap_text_pieces, List.nil_append]

theorem gapsFrom_mapRoots (f : Note → Note) (front : List Char) (ps : List Piece) :
    gapsFrom front (ps.map (Piece.mapRoots f)) = gapsFrom front ps := by
  induction ps generalizing front with
  | nil => rfl
  | cons p ps ih =>
    cases p with
    | copied copy => exact ih (front ++ copy)
    | chord symbol => exact congrArg (front :: ·) (ih [])

theorem chords_mapRoots (f : Note → Note) (ps : List Piece) :
    (ps.map (Piece.mapRoots f)).filterMap Piece.chord?
      = (ps.filterMap Piece.chord?).map (Chord.mapRoots f) := by
  induction ps with
  | nil => rfl
  | cons p ps ih =>
    cases p with
    | copied copy => exact ih
    | chord symbol => exact congrArg (symbol.mapRoots f :: ·) ih

end Line

end ChordChart
