/-
  File:      ChordChart/Proofs/Chord/Outline.lean
  Subject:   Where a split divides a text, said on its characters.

  A split reads a note, looks for a slash behind it and reads a second note there.  The places at
  which it divides a text can be told without reading anything:

  * `Token.rootText`: a root is the first letter, with a sign if one stands right behind it;
  * `Token.bassText?`: a bass is what stands behind the first slash of the text, if that opens with
    a root letter;
  * **`Chord.split?_of_bassText?`**, `Chord.split?_of_bassText?_none`, `Chord.split?_eq_none_iff`:
    a split finds these roots and what is left between and behind them, in every text.
-/
import ChordChart.Proofs.Chord.Searching

namespace ChordChart

/-! ## 1. The places -/

namespace Token

/-- Whether a text opens with a root letter. -/
def opensWithLetter : List Char → Bool
  | [] => false
  | c :: _ => 'A' ≤ c && c ≤ 'G'

/-- The first letter of a text, with the sign right behind it if one is there. -/
def rootText : List Char → List Char
  | c :: s :: _ => if s == '#' || s == 'b' then [c, s] else [c]
  | short => short

/-- What stands behind the root. -/
def behindRoot (text : List Char) : List Char := text.drop (rootText text).length

/-- What stands behind the first slash of a text that has one. -/
def behindSlash? (text : List Char) : Option (List Char) := (text.dropWhile (· != '/')).tail?

/-- The text from its bass on: what stands behind the first slash, if it opens with a letter. -/
def bassText? (text : List Char) : Option (List Char) := (behindSlash? text).filter opensWithLetter

/-- What stands between the root and the first slash. -/
def middle (text : List Char) : List Char :=
  (text.takeWhile (· != '/')).drop (rootText text).length

/-- The text with something else in place of its root, and of the root of its bass if it has
    one. -/
def withRootTexts (f : List Char → List Char) (text : List Char) : List Char :=
  match bassText? text with
  | some bass =>
    f (rootText text) ++ middle text ++ '/' :: (f (rootText bass) ++ behindRoot bass)
  | none => f (rootText text) ++ behindRoot text

/-! ## 2. Roots -/

theorem rootText_text_append (n : Note) {rest : List Char}
    (h : n.accidental = .natural → Quality.opensWithSign rest = false) :
    rootText (n.text ++ rest) = n.text := by
  obtain ⟨letter, accidental⟩ := n
  cases accidental with
  | sharp => rfl
  | flat => rfl
  | natural =>
    cases rest with
    | nil => rfl
    | cons s rest =>
      have hs : (s == '#' || s == 'b') = false := h rfl
      show (if s == '#' || s == 'b' then [letter.char, s] else [letter.char]) = [letter.char]
      rw [hs, if_neg Bool.false_ne_true]

end Token

theorem Note.isSome_read? (text : List Char) :
    (Note.read? text).isSome = Token.opensWithLetter text := by
  cases text with
  | nil => rfl
  | cons c rest =>
    rw [Note.read?, Option.isSome_map, Letter.isSome_ofChar?]
    rfl

/-- **The note that is read is the root of the text.** -/
theorem Note.exists_read? {text : List Char} (h : Token.opensWithLetter text = true) :
    ∃ n, Note.read? text = some (n, Token.behindRoot text) ∧ n.text = Token.rootText text := by
  rw [← Note.isSome_read?] at h
  obtain ⟨⟨n, rest⟩, hread⟩ := Option.isSome_iff_exists.mp h
  have htext := Note.text_append_of_read? hread
  have hroot : Token.rootText text = n.text := by
    rw [← htext]
    exact Token.rootText_text_append n (Note.opensWithSign_of_read? hread)
  refine ⟨n, ?_, hroot.symm⟩
  rw [hread, Token.behindRoot, hroot, ← htext, List.drop_left]

namespace Chord

/-! ## 3. Slashes -/

/-- The first slash is where the characters before it end that are no slashes. -/
theorem atSlash_eq (text : List Char) :
    atSlash text = (text.takeWhile (· != '/'), Token.behindSlash? text) := by
  unfold Token.behindSlash?
  induction text with
  | nil => rfl
  | cons c rest ih =>
    by_cases hc : c = '/'
    · subst hc
      rfl
    · rw [atSlash, if_neg hc, ih, List.takeWhile_cons_of_pos (by simp [hc]),
        List.dropWhile_cons_of_pos (by simp [hc])]

/-- A root has no slash, so the first one of the text stands behind it. -/
theorem atSlash_behindRoot {text : List Char} (h : Token.opensWithLetter text = true) :
    atSlash (Token.behindRoot text) = (Token.middle text, Token.behindSlash? text) := by
  obtain ⟨n, hread, hroot⟩ := Note.exists_read? h
  have hslash : '/' ∉ n.text := n.matches_text.notMem rfl
  have hfront := atSlash_append_front hslash (Token.behindRoot text)
  rw [Note.text_append_of_read? hread, atSlash_eq text] at hfront
  obtain ⟨hbefore, hbehind⟩ := Prod.mk.inj hfront
  refine Prod.ext ?_ hbehind.symm
  rw [Token.middle, hbefore, ← hroot, List.drop_left]

/-! ## 4. What a split finds -/

/-- A text is split if it opens with a root letter, and only then. -/
theorem split?_eq_none_iff {text : List Char} :
    split? text = none ↔ Token.opensWithLetter text = false := by
  rw [split?, Option.map_eq_none_iff, ← Note.isSome_read?, Option.isSome_eq_false_iff,
    Option.isNone_iff_eq_none]

section Outline

variable {text : List Char} (h : Token.opensWithLetter text = true)

include h

/-- **A text with a bass is split at its two roots.** -/
theorem split?_of_bassText? {behind : List Char} (hb : Token.bassText? text = some behind) :
    ∃ root bass : Note, root.text = Token.rootText text ∧ bass.text = Token.rootText behind ∧
      split? text
        = some ⟨⟨root, Token.middle text⟩, some ⟨bass, Token.behindRoot behind⟩⟩ := by
  obtain ⟨hbehind, hletter⟩ := Option.filter_eq_some_iff.mp hb
  obtain ⟨root, hread, hroot⟩ := Note.exists_read? h
  obtain ⟨bass, hreadBass, hbass⟩ := Note.exists_read? hletter
  refine ⟨root, bass, hroot, hbass, ?_⟩
  rw [split?, hread, Option.map_some]
  dsimp only
  rw [atSlash_behindRoot h, hbehind, Option.bind_some, hreadBass]

/-- A text without one is split behind its root only. -/
theorem split?_of_bassText?_none (hb : Token.bassText? text = none) :
    ∃ root : Note, root.text = Token.rootText text ∧
      split? text = some ⟨⟨root, Token.behindRoot text⟩, none⟩ := by
  obtain ⟨root, hread, hroot⟩ := Note.exists_read? h
  have hnone : (Token.behindSlash? text).bind Note.read? = none := by
    rw [Option.bind_eq_none_iff]
    intro behind hbehind
    rw [← Option.not_isSome_iff_eq_none, Note.isSome_read?]
    exact Option.filter_eq_none_iff.mp hb behind hbehind
  refine ⟨root, hroot, ?_⟩
  rw [split?, hread, Option.map_some]
  dsimp only
  rw [atSlash_behindRoot h, hnone]

end Outline

end Chord

end ChordChart
