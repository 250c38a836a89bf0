/-
  File:      ChordChart/Proofs/Line/Neighbours.lean
  Subject:   What may touch a chord.

  The two sides of a chord are kept by different classes of characters, and neither holds the
  other.  A number such as `²` may stand in front, where only decimal digits count, and a mark, a
  connector other than the underscore or a joiner may stand behind, where none of them counts.

  * `Text.isOfWord`: a character that belongs to a word in one of the two senses.
  * **`Line.isClear_iff`**: a chord is clear of words in both senses exactly if none of these
    characters touches it.
  * `Line.not_all_clear`: such chords are found.
-/
import ChordChart.Proofs.Line.Occurrence

namespace ChordChart

namespace Text

/-- A character of a word, looking back or looking ahead. -/
def isOfWord (c : Char) : Bool := isWordChar c || isAlphanumeric c

/-- The characters of a word that do not count behind a chord; the underscore does. -/
def isOverlooked (c : Char) : Bool := isMark c || isConnector c || isJoinControl c

theorem isOfWord_of_not_wordChar {c : Char} (h : isWordChar c = false) :
    isOfWord c = isOtherNumber c := by
  simp only [isWordChar, Bool.or_eq_false_iff] at h
  obtain ⟨⟨⟨⟨halphabetic, hmark⟩, hdigit⟩, hconnector⟩, hjoin⟩ := h
  simp [isOfWord, isWordChar, isAlphanumeric, halphabetic, hmark, hdigit, hconnector, hjoin]

theorem isOfWord_of_not_alphanumeric {c : Char} (h : isAlphanumeric c = false) :
    isOfWord c = isOverlooked c := by
  simp only [isAlphanumeric, Bool.or_eq_false_iff] at h
  obtain ⟨⟨halphabetic, hdigit⟩, hother⟩ := h
  simp [isOfWord, isOverlooked, isWordChar, isAlphanumeric, halphabetic, hdigit, hother]

end Text

/-- A span that no character of a word touches, in either sense. -/
structure Span.IsClear (line : List Char) (s : Span) : Prop where
  before : ∀ front, Text.slice? line 0 s.offset = some front →
    ∀ x ∈ front.getLast?, Text.isOfWord x = false
  behind : ∀ back, Text.slice? line s.stop (Text.byteSize line) = some back →
    ∀ x ∈ back.head?, Text.isOfWord x = false

namespace Line

/-- **A chord is clear of words in both senses exactly if** no number that is not decimal stands
    in front of it, and no mark, connector or joiner behind it. -/
theorem isClear_iff {line : List Char} {s : Span} (h : s ∈ spans line) :
    s.IsClear line ↔
      (∀ front, Text.slice? line 0 s.offset = some front →
        ∀ x ∈ front.getLast?, Text.isOtherNumber x = false) ∧
      ∀ back, Text.slice? line s.stop (Text.byteSize line) = some back →
        ∀ x ∈ back.head?, Text.isOverlooked x = false := by
  obtain ⟨before, c, after, hpieces, rfl⟩ := mem_spansFrom_iff.mp h
  have hstands := standsIn_of_pieces hpieces
  rw [Nat.zero_add]
  generalize Span.ofText c.text (Text.byteSize (before.flatMap Piece.text)) = s at *
  obtain ⟨front, hfront, hword⟩ := hstands.before
  obtain ⟨back, hback, hruns⟩ := hstands.behind
  have hbefore : (∀ front, Text.slice? line 0 s.offset = some front →
        ∀ x ∈ front.getLast?, Text.isOfWord x = false) ↔
      ∀ front, Text.slice? line 0 s.offset = some front →
        ∀ x ∈ front.getLast?, Text.isOtherNumber x = false := by
    simp only [hfront, Option.some.injEq, forall_eq']
    exact forall₂_congr fun x hx => by rw [Text.isOfWord_of_not_wordChar (hword x hx)]
  have hbehind : (∀ back, Text.slice? line s.stop (Text.byteSize line) = some back →
        ∀ x ∈ back.head?, Text.isOfWord x = false) ↔
      ∀ back, Text.slice? line s.stop (Text.byteSize line) = some back →
        ∀ x ∈ back.head?, Text.isOverlooked x = false := by
    simp only [hback, Option.some.injEq, forall_eq']
    exact forall₂_congr fun x hx => by rw [Text.isOfWord_of_not_alphanumeric (hruns x hx).1]
  rw [← hbefore, ← hbehind]
  exact ⟨fun h => ⟨h.before, h.behind⟩, fun h => ⟨h.1, h.2⟩⟩

/-- A slash chord in a line with candidates that words touch. -/
theorem isClear_iff_slashChord :
    (⟨"D/F#", 8, 4⟩ : Span) ∈ spans "éC Bb (D/F#、é".toList ∧
    ((⟨"D/F#", 8, 4⟩ : Span).IsClear "éC Bb (D/F#、é".toList ↔
      (∀ front, Text.slice? "éC Bb (D/F#、é".toList 0 8 = some front →
        ∀ x ∈ front.getLast?, Text.isOtherNumber x = false) ∧
      ∀ back, Text.slice? "éC Bb (D/F#、é".toList 12 (Text.byteSize "éC Bb (D/F#、é".toList)
          = some back → ∀ x ∈ back.head?, Text.isOverlooked x = false) :=
  have hspan : (⟨"D/F#", 8, 4⟩ : Span) ∈ spans "éC Bb (D/F#、é".toList := by decide +kernel
  ⟨hspan, isClear_iff hspan⟩

/-- **Chords are found that words touch**: the first letter of a word that is written with an
    accent of its own, and a letter behind an exponent. -/
theorem not_all_clear :
    ((⟨"C", 0, 1⟩ : Span) ∈ spans "C\u0301evapi".toList ∧
      ¬ (⟨"C", 0, 1⟩ : Span).IsClear "C\u0301evapi".toList) ∧
    (⟨"C", 3, 1⟩ : Span) ∈ spans "x²C".toList ∧ ¬ (⟨"C", 3, 1⟩ : Span).IsClear "x²C".toList := by
  refine ⟨⟨by decide +kernel, fun hclear => ?_⟩, by decide +kernel, fun hclear => ?_⟩
  · have haccent := hclear.behind "\u0301evapi".toList (by decide +kernel) '\u0301' rfl
    exact absurd haccent (by decide +kernel)
  · have hexponent := hclear.before "x²".toList (by decide +kernel) '²' (by decide)
    exact absurd hexponent (by decide +kernel)

end Line

end ChordChart
