/-
  File:      ChordChart/Proofs/Line/Places.lean
  Subject:   The places of chords in a line, counted in bytes.

  * `Line.spansFrom_append`, `Line.spansFrom_add`, `Line.mem_spansFrom_iff`: the spans of pieces
    one after the other, of pieces that stand further behind, and which spans there are.
  * `Text.slice?`: the text between two byte places, which is there only if the places are in
    order, inside the text and not inside a character (`Text.slice?_eq_some_iff`).
  * **`Line.slices?_eq_gaps`**: the slices from the end of each span to the beginning of the next
    are all there, and they are the gaps of the line.
-/
import ChordChart.Proofs.Line.Replacement

namespace ChordChart

/-! ## 1. Spans -/

/-- Where a span begins and how long it is. -/
def Span.place (s : Span) : Nat × Nat := (s.offset, s.length)

/-- A span that stands so many bytes further behind. -/
def Span.later (n : Nat) (s : Span) : Span := { s with offset := s.offset + n }

namespace Line

theorem spansFrom_append (offset : Nat) (ps qs : List Piece) :
    spansFrom offset (ps ++ qs)
      = spansFrom offset ps ++ spansFrom (offset + Text.byteSize (ps.flatMap Piece.text)) qs := by
  induction ps generalizing offset with
  | nil => rfl
  | cons p ps ih =>
    rw [List.flatMap_cons, Text.byteSize_append, ← Nat.add_assoc]
    cases p with
    | copied copy => exact ih _
    | chord symbol => exact congrArg (_ :: ·) (ih _)

theorem spansFrom_add (n offset : Nat) (ps : List Piece) :
    spansFrom (offset + n) ps = (spansFrom offset ps).map (Span.later n) := by
  induction ps generalizing offset with
  | nil => rfl
  | cons p ps ih =>
    cases p with
    | copied copy =>
      show spansFrom (offset + n + Text.byteSize copy) ps = _
      rw [Nat.add_right_comm]
      exact ih _
    | chord symbol =>
      show _ :: spansFrom (offset + n + Text.byteSize symbol.text) ps = _
      rw [Nat.add_right_comm, ih]
      rfl

/-- **A span among those of pieces** is that of a chord with the pieces before and behind it. -/
theorem mem_spansFrom_iff {offset : Nat} {ps : List Piece} {s : Span} :
    s ∈ spansFrom offset ps ↔ ∃ before c after, ps = before ++ .chord c :: after ∧
      s = Span.ofText c.text (offset + Text.byteSize (before.flatMap Piece.text)) := by
  constructor
  · intro h
    induction ps generalizing offset with
    | nil => cases h
    | cons p ps ih =>
      cases p with
      | copied copy =>
        obtain ⟨before, c, after, rfl, rfl⟩ := ih h
        refine ⟨.copied copy :: before, c, after, rfl, ?_⟩
        rw [List.flatMap_cons, Text.byteSize_append, ← Nat.add_assoc]
        rfl
      | chord symbol =>
        rcases List.mem_cons.mp h with hs | h
        · exact ⟨[], symbol, ps, rfl, hs⟩
        · obtain ⟨before, c, after, rfl, rfl⟩ := ih h
          refine ⟨.chord symbol :: before, c, after, rfl, ?_⟩
          rw [List.flatMap_cons, Text.byteSize_append, ← Nat.add_assoc]
          rfl
  · intro ⟨before, c, after, hps, hs⟩
    rw [hps, hs, spansFrom_append]
    exact List.mem_append_right _ List.mem_cons_self

theorem map_text_spansFrom (offset : Nat) (ps : List Piece) :
    (spansFrom offset ps).map (fun s => s.text.toList)
      = (ps.filterMap Piece.chord?).map Chord.text := by
  induction ps generalizing offset with
  | nil => rfl
  | cons p ps ih =>
    cases p with
    | copied copy => exact ih _
    | chord symbol =>
      show (String.ofList symbol.text).toList :: _ = symbol.text :: _
      rw [String.toList_ofList]
      exact congrArg (symbol.text :: ·) (ih _)

/-- The texts of the spans of a line are those of its chords. -/
theorem map_text_spans (line : List Char) :
    (spans line).map (fun s => s.text.toList) = (chords line).map Chord.text :=
  map_text_spansFrom 0 (pieces line)

end Line

/-! ## 2. Slices -/

namespace Text

theorem byteSize_pos {text : List Char} (h : text ≠ []) : 0 < byteSize text := by
  cases text with
  | nil => exact absurd rfl h
  | cons c rest => exact Nat.add_pos_left c.utf8Size_pos _

/-- A text cut in two behind its first `n` bytes, `none` if no character ends there. -/
def splitBytes? : Nat → List Char → Option (List Char × List Char)
  | 0, text => some ([], text)
  | _ + 1, [] => none
  | n + 1, c :: rest =>
    if c.utf8Size ≤ n + 1 then
      (splitBytes? (n + 1 - c.utf8Size) rest).map fun (front, back) => (c :: front, back)
    else none

/-- The text from one byte place to another, `none` if there is no such text. -/
def slice? (text : List Char) (start stop : Nat) : Option (List Char) :=
  if start ≤ stop then do
    let (_, behind) ← splitBytes? start text
    let (middle, _) ← splitBytes? (stop - start) behind
    return middle
  else none

theorem splitBytes?_eq_some_iff {n : Nat} {text front back : List Char} :
    splitBytes? n text = some (front, back) ↔ text = front ++ back ∧ n = byteSize front := by
  fun_induction splitBytes? n text generalizing front with
  | case1 text =>
    constructor
    · intro h
      cases h
      exact ⟨rfl, rfl⟩
    · rintro ⟨rfl, hsize⟩
      cases front with
      | nil => rfl
      | cons c front =>
        have hpos := c.utf8Size_pos
        rw [byteSize] at hsize
        omega
  | case2 n =>
    constructor
    · intro h
      cases h
    · rintro ⟨htext, hsize⟩
      obtain ⟨rfl, -⟩ := List.append_eq_nil_iff.mp htext.symm
      cases hsize
  | case3 n c rest hle ih =>
    constructor
    · intro h
      obtain ⟨⟨front', back'⟩, hsplit, heq⟩ := Option.map_eq_some_iff.mp h
      cases heq
      obtain ⟨rfl, hsize⟩ := ih.mp hsplit
      refine ⟨rfl, ?_⟩
      rw [byteSize]
      omega
    · rintro ⟨htext, hsize⟩
      cases front with
      | nil => cases hsize
      | cons d front =>
        obtain ⟨rfl, hrest⟩ := List.cons.inj htext
        rw [byteSize] at hsize
        have hsplit := ih.mpr ⟨hrest, show n + 1 - c.utf8Size = byteSize front by omega⟩
        rw [hsplit, Option.map_some]
  | case4 n c rest hle =>
    constructor
    · intro h
      cases h
    · rintro ⟨htext, hsize⟩
      cases front with
      | nil => cases hsize
      | cons d front =>
        obtain ⟨rfl, -⟩ := List.cons.inj htext
        rw [byteSize] at hsize
        omega

/-- **A slice is there exactly if both places lie between characters, in this order.** -/
theorem slice?_eq_some_iff {text middle : List Char} {start stop : Nat} :
    slice? text start stop = some middle ↔
      ∃ front back, text = front ++ (middle ++ back) ∧ start = byteSize front ∧
        stop = start + byteSize middle := by
  unfold slice?
  constructor
  · intro h
    split at h
    · next hle =>
      obtain ⟨⟨front, behind⟩, hfront, h⟩ := Option.bind_eq_some_iff.mp h
      obtain ⟨⟨_, back⟩, hmiddle, h⟩ := Option.bind_eq_some_iff.mp h
      cases h
      obtain ⟨rfl, hstart⟩ := splitBytes?_eq_some_iff.mp hfront
      obtain ⟨rfl, hstop⟩ := splitBytes?_eq_some_iff.mp hmiddle
      exact ⟨front, back, rfl, hstart, by omega⟩
    · cases h
  · rintro ⟨front, back, rfl, rfl, rfl⟩
    have hfront : splitBytes? (byteSize front) (front ++ (middle ++ back))
        = some (front, middle ++ back) := splitBytes?_eq_some_iff.mpr ⟨rfl, rfl⟩
    have hmiddle : splitBytes? (byteSize front + byteSize middle - byteSize front) (middle ++ back)
        = some (middle, back) := splitBytes?_eq_some_iff.mpr ⟨rfl, by omega⟩
    rw [if_pos (Nat.le_add_right _ _), hfront]
    show (splitBytes? _ _).bind _ = _
    rw [hmiddle]
    rfl

/-- The text behind a stretch of a line. -/
theorem slice?_behind {line front middle back : List Char} (h : line = front ++ (middle ++ back)) :
    slice? line (byteSize front + byteSize middle) (byteSize line) = some back := by
  refine slice?_eq_some_iff.mpr ⟨front ++ middle, [], ?_, ?_, ?_⟩
  · rw [h, List.append_nil, List.append_assoc]
  · rw [byteSize_append]
  · rw [h, byteSize_append, byteSize_append, ← Nat.add_assoc]

end Text

/-! ## 3. The slices around the spans of a line -/

namespace Line

/-- The slices around spans: from `cursor` to the first, from the end of each to the next, and
    from the end of the last to the end of the line; `none` if one of them is not there. -/
def slicesFrom? (line : List Char) (cursor : Nat) : List Span → Option (List (List Char))
  | [] => (Text.slice? line cursor (Text.byteSize line)).map ([·])
  | s :: rest => do
    let gap ← Text.slice? line cursor s.offset
    let gaps ← slicesFrom? line s.stop rest
    return gap :: gaps

/-- The slices around the spans of a line. -/
def slices? (line : List Char) : Option (List (List Char)) := slicesFrom? line 0 (spans line)

theorem slicesFrom?_cons {line gap : List Char} {gaps : List (List Char)} {cursor : Nat}
    {s : Span} {rest : List Span} (hgap : Text.slice? line cursor s.offset = some gap)
    (hgaps : slicesFrom? line s.stop rest = some gaps) :
    slicesFrom? line cursor (s :: rest) = some (gap :: gaps) := by
  rw [slicesFrom?, hgap]
  show (slicesFrom? line s.stop rest).bind _ = _
  rw [hgaps]
  rfl

/-- The invariant of the cursor: it stands behind the text that is done, and what is pending up to
    the next piece is cut out with the gap that the piece belongs to or ends. -/
theorem slicesFrom?_spansFrom {line done pending : List Char} {ps : List Piece}
    (h : line = done ++ (pending ++ ps.flatMap Piece.text)) :
    slicesFrom? line (Text.byteSize done) (spansFrom (Text.byteSize (done ++ pending)) ps)
      = some (gapsFrom pending ps) := by
  induction ps generalizing done pending with
  | nil =>
    rw [List.flatMap_nil, List.append_nil] at h
    have hslice : Text.slice? line (Text.byteSize done) (Text.byteSize line) = some pending := by
      refine Text.slice?_eq_some_iff.mpr ⟨done, [], ?_, rfl, ?_⟩
      · rw [List.append_nil, h]
      · rw [h, Text.byteSize_append]
    rw [spansFrom, slicesFrom?, hslice]
    rfl
  | cons p ps ih =>
    cases p with
    | copied copy =>
      have hline : line = done ++ ((pending ++ copy) ++ ps.flatMap Piece.text) := by
        rw [h, List.flatMap_cons, List.append_assoc]
        rfl
      have := ih hline
      rwa [← List.append_assoc, Text.byteSize_append] at this
    | chord symbol =>
      have hslice : Text.slice? line (Text.byteSize done) (Text.byteSize (done ++ pending))
          = some pending := by
        refine Text.slice?_eq_some_iff.mpr ⟨done, (Piece.chord symbol :: ps).flatMap Piece.text,
          h, rfl, ?_⟩
        rw [Text.byteSize_append]
      have hline : line = (done ++ pending ++ symbol.text) ++ ([] ++ ps.flatMap Piece.text) := by
        rw [h, List.flatMap_cons, List.nil_append, List.append_assoc, List.append_assoc]
        rfl
      have hrest := ih hline
      rw [List.append_nil, Text.byteSize_append (done ++ pending)] at hrest
      exact slicesFrom?_cons hslice hrest

/-- **Every slice around the spans of a line is there, and they are its gaps.** -/
theorem slices?_eq_gaps (line : List Char) : slices? line = some (gaps line) :=
  slicesFrom?_spansFrom (show line = [] ++ ([] ++ (pieces line).flatMap Piece.text) from
    (flatMap_text_pieces line).symm)

end Line

end ChordChart
