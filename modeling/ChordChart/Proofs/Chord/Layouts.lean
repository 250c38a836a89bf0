/-
  File:      ChordChart/Proofs/Chord/Layouts.lean
  Subject:   How a chord is laid out where it is found, and how a text is when it is taken for one.

  Three layouts take a chord apart: one at the head of a text, with an optional bass, and two for a
  whole text, with a slash and without.  Each has its own idea of where a root ends.

  * `Grammar.first_chordLayout`: the first finds the parts that the reader finds.
  * `Grammar.first_rootLayout`, **`Grammar.first_slashLayout`**: the other two find what a split
    finds, on any text.  As little as possible is taken before the slash, but that makes no
    difference: a slash is never passed over, so only the first one can be met.
-/
import ChordChart.Proofs.Chord.Searching
import ChordChart.Proofs.Line.Replacement
import ChordChart.Proofs.Text.Layouts

namespace ChordChart

open Text (Pattern Layout taken taken_append)
open Text.Pattern Text.Layout

/-- The texts of a part by themselves: the root and what stands behind it. -/
def Part.groups (p : Part) : List (List Char) := [p.root.text, p.quality]

/-- The texts of the parts of a chord. -/
def Chord.groups (c : Chord) : List (List Char) := c.parts.flatMap Part.groups

namespace Grammar

/-! ## 1. The three layouts -/

/-- A root with its quality, both wanted. -/
def partLayout : Layout := .seq (.group (.plain root)) (.group (.plain quality))

/-- A chord at the head of a text. -/
def chordLayout : Layout := .seq partLayout (.optional (.seq (.plain (.word ['/'])) partLayout))

/-- A whole text as a root with whatever stands behind it. -/
def rootLayout : Layout := .seq (.group (.plain root)) .remainder

/-- What stands before a slash: a root, then as little as can be. -/
def mainLayout : Layout := .group (.seq (.plain root) (.lazily (· != '/')))

/-- A whole text as two halves with a slash between them, the second of which begins with a root. -/
def slashLayout : Layout := .seq mainLayout (.seq (.plain (.word ['/'])) rootLayout)

theorem isOf_partLayout : partLayout.IsOf part :=
  (isOf_plain root).group.seq (isOf_plain quality).group

/-- The layout of a chord is the pattern of a chord with groups. -/
theorem isOf_chordLayout : chordLayout.IsOf chord :=
  isOf_partLayout.seq ((isOf_plain _).seq isOf_partLayout).optional

/-! ## 2. Where a chord is found -/

theorem search_root (text : List Char) : root.search text = (Note.read? text).map Prod.snd := by
  rw [search_eq_commit rfl, commit_root]

theorem search_quality (text : List Char) : quality.search text = some (Quality.take text).2 := by
  rw [search_eq_commit rfl, commit_quality]

theorem first_quality (text : List Char) :
    (Layout.group (.plain quality)).first text
      = some ([(Quality.take text).1], (Quality.take text).2) := by
  have htaken := taken_append (Quality.take text).1 (Quality.take text).2
  rw [Quality.take_append] at htaken
  rw [first_group_plain (search_quality text), htaken]

/-- What a root in front of another layout gives, if that cannot fail. -/
theorem first_seq_root {back : Layout} (hback : ∀ rest, (back.first rest).isSome = true)
    (text : List Char) :
    (Layout.seq (.group (.plain root)) back).first text
      = (Note.read? text).bind fun r => (back.first r.2).map (Way.followedBy ([r.1.text], r.2)) := by
  rw [first_seq_eq_bind (Or.inr hback)]
  have hsearch := search_root text
  cases hread : Note.read? text with
  | none =>
    rw [hread] at hsearch
    rw [first_group_plain_of_eq_none hsearch]
    rfl
  | some found =>
    obtain ⟨n, rest⟩ := found
    rw [hread] at hsearch
    have htext := Note.text_append_of_read? hread
    rw [first_group_plain hsearch, ← htext, taken_append]
    rfl

theorem first_partLayout (text : List Char) :
    partLayout.first text = (Part.read? text).map fun r => (r.1.groups, r.2) := by
  have hquality (rest : List Char) :
      ((Layout.group (.plain quality)).first rest).isSome = true := by
    rw [first_quality]
    rfl
  rw [partLayout, first_seq_root hquality, Part.read?]
  cases Note.read? text with
  | none => rfl
  | some found =>
    rw [Option.bind_some, first_quality]
    rfl

/-- Behind a slash a layout goes on, and in front of anything else it does not begin. -/
theorem first_slash_cons (back : Layout) (rest : List Char) :
    (Layout.seq (.plain (.word ['/'])) back).first ('/' :: rest) = back.first rest := by
  rw [first_seq_eq_bind (Or.inl (length_ways_plain rfl _))]
  show (back.first rest).map (Way.followedBy ([], rest)) = back.first rest
  cases back.first rest <;> rfl

theorem first_slash_eq_none (back : Layout) {text : List Char}
    (h : ∀ rest, text = '/' :: rest → False) :
    (Layout.seq (.plain (.word ['/'])) back).first text = none := by
  have hslash : (Pattern.word ['/']).search text = none := by
    rw [search_eq_none_iff]
    rintro s ⟨rest, rfl⟩ hs
    rw [matches_word_iff] at hs
    subst hs
    exact h rest rfl
  rw [first_seq_eq_bind (Or.inl (length_ways_plain rfl text)), first_plain, hslash]
  rfl

theorem first_bass (text : List Char) :
    (Layout.seq (.plain (.word ['/'])) partLayout).first text
      = (Part.readBass? text).map fun r => (r.1.groups, r.2) := by
  unfold Part.readBass?
  split
  · next rest => rw [first_slash_cons, first_partLayout]
  · next hslash => exact first_slash_eq_none partLayout hslash

/-- **The groups of a chord where it is found are the parts that are read.** -/
theorem first_chordLayout (text : List Char) :
    chordLayout.first text = (Chord.read? text).map fun r => (r.1.groups, r.2) := by
  have hbass (rest : List Char) :
      ((Layout.optional (.seq (.plain (.word ['/'])) partLayout)).first rest).isSome = true := by
    rw [first_optional, Option.isSome_or]
    exact Bool.or_true _
  rw [chordLayout, first_seq_eq_bind (Or.inr hbass), first_partLayout, Chord.read?]
  cases Part.read? text with
  | none => rfl
  | some found =>
    obtain ⟨main, rest⟩ := found
    show ((Layout.optional _).first rest).map _ = _
    rw [first_optional, first_bass]
    cases hread : Part.readBass? rest <;> simp [hread, Way.followedBy, Chord.groups, Chord.parts]

/-! ## 3. A whole text -/

theorem first_rootLayout (text : List Char) :
    rootLayout.first text = (Note.read? text).map fun r => ([r.1.text, r.2], []) := by
  have hremainder (rest : List Char) : (remainder.first rest).isSome = true := by
    rw [first_remainder]
    rfl
  rw [rootLayout, first_seq_root hremainder]
  cases Note.read? text with
  | none => rfl
  | some found =>
    rw [Option.bind_some, first_remainder]
    rfl

/-- Whatever begins with a slash is met at the first one, since no other can be reached. -/
theorem findSome?_fewest {α : Type} {f : List Char → Option α}
    (hf : ∀ {text}, (∀ rest, text = '/' :: rest → False) → f text = none) (text : List Char) :
    (Text.fewest (· != '/') text).findSome? f
      = (Chord.atSlash text).2.bind fun behind => f ('/' :: behind) := by
  induction text with
  | nil =>
    rw [Text.fewest, List.findSome?_cons, hf (by simp)]
    rfl
  | cons c rest ih =>
    rw [Text.fewest, List.findSome?_cons, Chord.atSlash]
    by_cases hc : c = '/'
    · subst hc
      rw [if_pos rfl]
      cases hrest : f ('/' :: rest) <;> simp [hrest]
    · rw [hf (by simp [hc]), if_neg hc, if_pos (by simp [hc])]
      exact ih

/-- A root in front of a text does not change what stands behind its first slash. -/
theorem atSlash_of_mem_rests {text rest : List Char} (h : rest ∈ root.rests text) :
    (Chord.atSlash rest).2 = (Chord.atSlash text).2 := by
  obtain ⟨s, rfl, hs⟩ := mem_rests_iff.mp h
  have hslash : '/' ∉ s := hs.notMem rfl
  rw [Chord.atSlash_append_front hslash]

/-- The first success behind what stands before a slash, of something that begins with one. -/
theorem findSome?_mainLayout {α : Type} {f : Way → Option α}
    (hf : ∀ {w}, (∀ rest, w.2 = '/' :: rest → False) → f w = none) (text : List Char) :
    (mainLayout.ways text).findSome? f
      = (Note.read? text).bind fun _ => (Chord.atSlash text).2.bind fun behind =>
          f ([(Chord.atSlash text).1], '/' :: behind) := by
  have hway : ∀ rest ∈ root.rests text,
      (((Layout.lazily (· != '/')).ways rest).findSome? fun v => f (taken text v.2 :: v.1, v.2))
        = (Chord.atSlash text).2.bind fun behind =>
            f ([(Chord.atSlash text).1], '/' :: behind) := by
    intro rest hrest
    rw [ways, List.findSome?_map]
    refine (findSome?_fewest (fun h => hf h) rest).trans ?_
    rw [atSlash_of_mem_rests hrest]
    cases hbehind : (Chord.atSlash text).2 with
    | none => rfl
    | some behind =>
      have htaken := taken_append (Chord.atSlash text).1 ('/' :: behind)
      rw [Chord.atSlash_some hbehind] at htaken
      rw [Option.bind_some, Option.bind_some, htaken]
  rw [mainLayout, ways, List.findSome?_map, findSome?_ways_seq, ways, List.findSome?_map]
  refine (findSome?_eq_bind_of_forall hway).trans ?_
  show (root.search text).bind _ = _
  rw [search_root, Option.bind_map]
  rfl

/-- **A whole text laid out with a slash is what a split finds with a bass.** -/
theorem first_slashLayout (text : List Char) :
    slashLayout.first text = (Chord.split? text).bind fun c =>
      c.bass.map fun b => ([c.main.text, b.root.text, b.quality], []) := by
  rw [slashLayout, first_seq, findSome?_mainLayout]
  · simp only [first_slash_cons, first_rootLayout, Chord.split?]
    cases hread : Note.read? text with
    | none => rfl
    | some found =>
      obtain ⟨n, rest⟩ := found
      have hslash : '/' ∉ n.text := n.matches_text.notMem rfl
      rw [← Note.text_append_of_read? hread, Chord.atSlash_append_front hslash]
      dsimp only [Option.bind_some, Option.map_some]
      cases hbehind : (Chord.atSlash rest).2 with
      | none => rfl
      | some behind =>
        dsimp only [Option.bind_some]
        cases Note.read? behind <;> rfl
  · intro w hw
    rw [first_slash_eq_none _ hw]
    rfl

end Grammar

end ChordChart
