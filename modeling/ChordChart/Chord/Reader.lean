/-
  File:      ChordChart/Chord/Reader.lean
  Subject:   The longest chord symbol at the head of a text.

  The reader takes the root, then in one pass and without giving anything
  back
    1. a marker `m` or `M`,
    2. the fragments `aj`, `in`, `sus`, `aug`, `dim`, `add` and digits, in
       any number and order,
    3. alterations, each a sign followed by at least one digit.
  A slash is taken only with a root behind it, and then the bass is read
  in the same way.  Each step splits its text in two, what it takes and
  what it leaves.
-/
import ChordChart.Chord.Basic

namespace ChordChart

namespace Quality

/-! ## 1. The three groups of a quality -/

/-- Puts what was taken before in front of what a later step took. -/
def taking (front : List Char) (split : List Char × List Char) : List Char × List Char :=
  (front ++ split.1, split.2)

/-- Takes a marker. -/
def takeMarker : List Char → List Char × List Char
  | 'm' :: rest => (['m'], rest)
  | 'M' :: rest => (['M'], rest)
  | text => ([], text)

/-- Takes fragments and digits as long as they go on. -/
def takeFragments : List Char → List Char × List Char
  | 'a' :: 'j' :: rest => taking ['a', 'j'] (takeFragments rest)
  | 'i' :: 'n' :: rest => taking ['i', 'n'] (takeFragments rest)
  | 's' :: 'u' :: 's' :: rest => taking ['s', 'u', 's'] (takeFragments rest)
  | 'a' :: 'u' :: 'g' :: rest => taking ['a', 'u', 'g'] (takeFragments rest)
  | 'd' :: 'i' :: 'm' :: rest => taking ['d', 'i', 'm'] (takeFragments rest)
  | 'a' :: 'd' :: 'd' :: rest => taking ['a', 'd', 'd'] (takeFragments rest)
  | c :: rest => if c.isDigit then taking [c] (takeFragments rest) else ([], c :: rest)
  | [] => ([], [])

/-- A sign that can open an alteration. -/
def isSign (c : Char) : Bool := c == '#' || c == 'b'

/-- Takes alterations as long as they go on; `inside` tells that the last one may still grow. -/
def takeAlterations (inside : Bool) : List Char → List Char × List Char
  | [] => ([], [])
  | [c] => if inside && c.isDigit then ([c], []) else ([], [c])
  | c :: d :: rest =>
    if inside && c.isDigit then taking [c] (takeAlterations true (d :: rest))
    else if isSign c && d.isDigit then taking [c, d] (takeAlterations true rest)
    else ([], c :: d :: rest)

/-- Takes a whole quality: marker, fragments, alterations. -/
def take (text : List Char) : List Char × List Char :=
  let marker := takeMarker text
  let fragments := takeFragments marker.2
  let alterations := takeAlterations false fragments.2
  (marker.1 ++ fragments.1 ++ alterations.1, alterations.2)

end Quality

/-! ## 2. Parts and chords -/

/-- The part at the head of a text, with what follows it. -/
def Part.read? (text : List Char) : Option (Part × List Char) :=
  (Note.read? text).map fun (root, rest) =>
    let split := Quality.take rest
    (⟨root, split.1⟩, split.2)

/-- The bass at the head of a text, which has to begin with a slash. -/
def Part.readBass? : List Char → Option (Part × List Char)
  | '/' :: rest => Part.read? rest
  | _ => none

/-- The chord at the head of a text, with what follows it. -/
def Chord.read? (text : List Char) : Option (Chord × List Char) :=
  (Part.read? text).map fun (main, rest) =>
    match Part.readBass? rest with
    | some (bass, after) => (⟨main, some bass⟩, after)
    | none => (⟨main, none⟩, rest)

/-! ## 3. Nothing is lost or added -/

namespace Quality

theorem takeMarker_append (text : List Char) :
    (takeMarker text).1 ++ (takeMarker text).2 = text := by
  unfold takeMarker; split <;> rfl

theorem takeFragments_append (text : List Char) :
    (takeFragments text).1 ++ (takeFragments text).2 = text := by
  fun_induction takeFragments text <;> simp_all [taking]

theorem takeAlterations_append (inside : Bool) (text : List Char) :
    (takeAlterations inside text).1 ++ (takeAlterations inside text).2 = text := by
  fun_induction takeAlterations inside text <;> simp_all [taking]

theorem take_append (text : List Char) : (take text).1 ++ (take text).2 = text := by
  simp only [take, List.append_assoc, takeAlterations_append, takeFragments_append,
    takeMarker_append]

end Quality

/-- A part read from a text and what follows it make up the text. -/
theorem Part.text_append_of_read? {text rest : List Char} {part : Part}
    (h : Part.read? text = some (part, rest)) : part.text ++ rest = text := by
  obtain ⟨⟨root, tail⟩, hroot, heq⟩ := Option.map_eq_some_iff.mp h
  obtain ⟨rfl, rfl⟩ := Prod.mk.inj heq
  rw [← Note.text_append_of_read? hroot, Part.text, List.append_assoc, Quality.take_append]

/-- A bass read from a text stands behind its slash. -/
theorem Part.slash_text_append_of_readBass? {text rest : List Char} {bass : Part}
    (h : Part.readBass? text = some (bass, rest)) : '/' :: (bass.text ++ rest) = text := by
  unfold Part.readBass? at h
  split at h
  · rw [Part.text_append_of_read? h]
  · cases h

/-- A chord read from a text and what follows it make up the text. -/
theorem Chord.text_append_of_read? {text rest : List Char} {chord : Chord}
    (h : Chord.read? text = some (chord, rest)) : chord.text ++ rest = text := by
  obtain ⟨⟨main, tail⟩, hmain, heq⟩ := Option.map_eq_some_iff.mp h
  rw [← Part.text_append_of_read? hmain]
  dsimp only at heq
  split at heq
  · next bass after hbass =>
    obtain ⟨rfl, rfl⟩ := Prod.mk.inj heq
    rw [← Part.slash_text_append_of_readBass? hbass]
    simp [Chord.text]
  · obtain ⟨rfl, rfl⟩ := Prod.mk.inj heq
    rfl

/-- A chord takes at least its root letter. -/
theorem Chord.length_lt_of_read? {text rest : List Char} {chord : Chord}
    (h : Chord.read? text = some (chord, rest)) : rest.length < text.length := by
  rw [← Chord.text_append_of_read? h, List.length_append]
  have : 0 < chord.text.length := by
    unfold Chord.text Part.text Note.text
    split <;> simp
  omega

end ChordChart
