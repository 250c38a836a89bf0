/-
  File:      ChordChart/Proofs/Transposition/Journal.lean
  Subject:   The journal of a transposition against the line it gives.

  The journal tells of a line part by part.  A part is named as far as it is moved by itself, so a
  bass is named without its quality (`Chord.named`).

  * `Part.record`: what the journal says of a named part.
  * `Line.frames`: what stands around the named parts of a line.
  * `Line.Accounts`: the journal has one record for each named part, in their order, and the line
    that was made is the old one with the parts put in that the records tell of.
  * **`Transposition.accounts_apply`**: so it is by steps, and between keys behind one record for
    the line; a key that is not known is told in a single record.
-/
import ChordChart.Proofs.Chord.Longest
import ChordChart.Proofs.Transposition.Frame

namespace ChordChart

/-! ## 1. Records -/

/-- An event as it is written. -/
def Event.record (e : Event) : Level × String := (e.level, e.message)

/-- What the journal says of a part: how it was moved, or that its root is not a note. -/
def Part.record (m : Move) (p : Part) : Level × String :=
  if p.root.pitchClass?.isSome then
    (.debug, String.ofList p.text ++ " " ++ m.steps.signed ++ " → "
      ++ String.ofList (p.mapRoot (Note.moved m)).text)
  else
    (.warn, "Leaving token unchanged: Unrecognized chord root in '" ++ String.ofList p.text ++ "'")

/-- The parts by which the journal names a chord: of a bass only the root. -/
def Chord.named (c : Chord) : List Part := c.main :: c.bass.toList.map fun b => ⟨b.root, []⟩

theorem Part.records_transposed (m : Move) (p : Part) :
    (p.transposed m).events.map Event.record = [p.record m] := by
  cases hp : p.root.pitchClass? with
  | none =>
    have hmoved : p.root.transposed? m = none := by rw [Note.transposed?, hp]; rfl
    simp only [transposed, transposed?, hmoved, record, hp]
    rfl
  | some pc =>
    have hmoved : p.root.transposed? m = some (p.root.moved m) := by
      rw [Note.moved_of_canonical m hp, Note.transposed?, hp]
      rfl
    simp only [transposed, transposed?, hmoved, record, hp]
    rfl

/-- **The events of a chord are those of its named parts**, whichever of them cannot be moved. -/
theorem Token.events_transposed (m : Move) {token : List Char} {c : Chord}
    (h : Chord.split? token = some c) :
    (Token.transposed m token).events = c.named.flatMap fun p => (p.transposed m).events := by
  obtain ⟨main, bass⟩ := c
  cases bass with
  | none =>
    cases hmain : main.transposed? m <;>
      simp [Token.transposed, Token.transposed?, h, Chord.transposed?, hmain, Except.map,
        Chord.named, Part.transposed]
  | some b =>
    simp [Token.transposed, Token.transposed?, h, Chord.transposed?, Except.map, Chord.named]

namespace Line

/-- The parts that the journal names in a line. -/
def named (line : List Char) : List Part := (chords line).flatMap Chord.named

/-- **The events of a line are those of its named parts.** -/
theorem events_transposed (m : Move) (line : List Char) :
    (Line.transposed m line).events = (named line).flatMap fun p => (p.transposed m).events := by
  have hpiece : ∀ p ∈ pieces line, (p.transposed m).events
      = p.chord?.toList.flatMap fun c => c.named.flatMap fun p => (p.transposed m).events := by
    intro p hp
    cases p with
    | copied copy => rfl
    | chord symbol =>
      have hsplit := split?_text_of_mem (mem_chords_of_mem_pieces hp)
      rw [Piece.transposed, Token.events_transposed m hsplit]
      simp [Piece.chord?]
  rw [Line.transposed, Logged.events_flatMap, named, List.flatMap_assoc, chords,
    List.filterMap_eq_flatMap_toList, List.flatMap_assoc]
  exact List.flatMap_congr hpiece

theorem records_transposed (m : Move) (line : List Char) :
    (Line.transposed m line).events.map Event.record = (named line).map (Part.record m) := by
  rw [events_transposed, List.map_flatMap]
  simp only [Part.records_transposed]
  exact List.map_eq_flatMap.symm

/-! ## 2. What stands around the named parts -/

/-- The texts before, between and behind the named parts among pieces; `front` stands before
    them. -/
def framesFrom (front : List Char) : List Piece → List (List Char)
  | [] => [front]
  | .copied copy :: rest => framesFrom (front ++ copy) rest
  | .chord ⟨_, none⟩ :: rest => front :: framesFrom [] rest
  | .chord ⟨_, some bass⟩ :: rest => front :: ['/'] :: framesFrom bass.quality rest

/-- The texts around the named parts of a line. -/
def frames (line : List Char) : List (List Char) := framesFrom [] (pieces line)

theorem length_framesFrom (front : List Char) (ps : List Piece) :
    (framesFrom front ps).length
      = ((ps.filterMap Piece.chord?).flatMap Chord.named).length + 1 := by
  fun_induction framesFrom front ps with
  | case1 => rfl
  | case2 front copy rest ih => exact ih
  | case3 front main rest ih => simpa [Piece.chord?, Chord.named] using ih
  | case4 front main bass rest ih => simpa [Piece.chord?, Chord.named] using ih

/-- The frames with the moved parts in between are the pieces with their roots moved. -/
theorem interleave_framesFrom (f : Note → Note) (front : List Char) (ps : List Piece) :
    interleave (framesFrom front ps)
        (((ps.filterMap Piece.chord?).flatMap Chord.named).map fun p => (p.mapRoot f).text)
      = front ++ (ps.map (Piece.mapRoots f)).flatMap Piece.text := by
  fun_induction framesFrom front ps with
  | case1 front => simp [interleave]
  | case2 front copy rest ih =>
    show interleave (framesFrom (front ++ copy) rest)
      (((rest.filterMap Piece.chord?).flatMap Chord.named).map fun p => (p.mapRoot f).text) = _
    rw [ih, List.append_assoc]
    rfl
  | case3 front main rest ih =>
    simp [Piece.chord?, Chord.named, interleave, ih, Piece.mapRoots, Piece.text, Chord.mapRoots,
      Chord.text]
  | case4 front main bass rest ih =>
    -- the quality of the bass opens the next frame
    have hbass : (bass.mapRoot f).text
        = ((⟨bass.root, []⟩ : Part).mapRoot f).text ++ bass.quality := by
      simp [Part.mapRoot, Part.text]
    simp [Piece.chord?, Chord.named, interleave, ih, Piece.mapRoots, Piece.text, Chord.mapRoots,
      Chord.text, hbass]

/-! ## 3. The account of a line -/

/-- The journal of a moved line, behind the records of `header`, tells all of what was done and
    nothing else: part by part, and each part as it stands in the line and in the moved line. -/
structure Accounts (line : List Char) (m : Move) (header : List Event)
    (moved : Logged (List Char)) : Prop where
  /-- One record for each named part, in the order of the line. -/
  records : moved.events.map Event.record
    = header.map Event.record ++ (named line).map (Part.record m)
  /-- The named parts are those of the chords that are found. -/
  tokens : (spans line).map (fun s => s.text.toList) = (chords line).map Chord.text
  /-- A chord without a slash is named as a whole, and one with a slash by what stands before it
      and by the root that is read behind it. -/
  parts : ∀ c ∈ chords line,
    '/' ∉ c.main.text ∧ Note.read? c.main.text = some (c.main.root, c.main.quality) ∧
      ((c.text = c.main.text ∧ c.named = [c.main]) ∨
        ∃ behind root quality, c.text = c.main.text ++ '/' :: behind ∧
          Note.read? behind = some (root, quality) ∧ c.named = [c.main, ⟨root, []⟩])
  /-- The line is its frames with the named parts in between. -/
  before : interleave (frames line) ((named line).map Part.text) = line
  /-- The moved line is the same frames with what the records say in between. -/
  after : interleave (frames line) ((named line).map fun p => (p.mapRoot (Note.moved m)).text)
    = moved.value
  /-- Every frame and every part is used. -/
  length : (frames line).length = (named line).length + 1
  /-- A part whose root is not a note stays as it was. -/
  kept : ∀ p ∈ named line, p.root.pitchClass? = none → p.mapRoot (Note.moved m) = p

theorem accounts_transposed (line : List Char) (m : Move) :
    Accounts line m [] (Line.transposed m line) where
  records := records_transposed m line
  tokens := map_text_spans line
  parts c hc := by
    obtain ⟨behind, ho⟩ := mem_chords_iff.mp hc
    rcases Chord.read?_cases (read?_of_mem_occurrences ho).1 with
      ⟨p, rfl, hmain, -⟩ | ⟨p, b, rfl, hmain, hbass⟩
    · exact ⟨Part.slash_notMem_text_of_read? hmain, Part.read?_text_of_read? hmain,
        Or.inl ⟨rfl, rfl⟩⟩
    · exact ⟨Part.slash_notMem_text_of_read? hmain, Part.read?_text_of_read? hmain,
        Or.inr ⟨b.text, b.root, b.quality, rfl, Part.read?_text_of_read? hbass, rfl⟩⟩
  before := by
    have hframes := interleave_framesFrom id [] (pieces line)
    rw [List.nil_append] at hframes
    exact hframes.trans (withRoots_id line)
  after := by
    rw [value_transposed]
    exact interleave_framesFrom (Note.moved m) [] (pieces line)
  length := length_framesFrom [] (pieces line)
  kept p _ hp := by
    rw [Part.mapRoot, Note.moved_of_foreign m hp]

theorem Accounts.behind {line : List Char} {m : Move} {moved : Logged (List Char)}
    (h : Accounts line m [] moved) (header : List Event) :
    Accounts line m header ⟨moved.value, header ++ moved.events⟩ where
  records := by rw [List.map_append, h.records, List.map_nil, List.nil_append]
  tokens := h.tokens
  parts := h.parts
  before := h.before
  after := h.after
  length := h.length
  kept := h.kept

end Line

namespace Transposition

/-- **The journal of a transposition is a complete account of it.**  By steps it tells of the line
    part by part with the nearest distance.  Between keys it does so with the distance as it is,
    behind one record for the line; and where a key is not known, the line stays as it is and a
    single record says so. -/
theorem accounts_apply (line : List Char) :
    (∀ count : Steps, Line.Accounts line (moveBy count) [] ((steps count).apply line)) ∧
    ∀ source target : String,
      match Key.ofName source, Key.ofName target with
      | .ok s, .ok t =>
        Line.Accounts line (moveBetween s t) [.changingKey s t (s.stepsTo t)]
          ((keys source target).apply line)
      | .error cause, _ | .ok _, .error cause =>
        (keys source target).apply line = ⟨line, [.lineKept (.unknownKey cause)]⟩ := by
  constructor
  · intro count
    exact Line.accounts_transposed line (moveBy count)
  · intro source target
    cases hs : Key.ofName source with
    | error cause =>
      refine apply_of_resolve_error ?_ line
      rw [resolve, key?, hs]
      rfl
    | ok s =>
      cases ht : Key.ofName target with
      | error cause =>
        refine apply_of_resolve_error ?_ line
        rw [resolve, key?, key?, hs, ht]
        rfl
      | ok t =>
        rw [apply_of_resolve_ok (resolve_keys hs ht) line]
        exact (Line.accounts_transposed line (moveBetween s t)).behind _

/-- A chord of which one half cannot be moved, and a chord by itself, up a whole tone. -/
example :
    ((steps 14).apply "♪ Cb/Em, Am7".toList).events.map Event.record =
      [(.warn, "Leaving token unchanged: Unrecognized chord root in 'Cb'"),
        (.debug, "E +2 → F#"), (.debug, "Am7 +2 → Bm7")] := by
  decide +kernel

end Transposition

end ChordChart
