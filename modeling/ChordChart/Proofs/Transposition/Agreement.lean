/-
  File:      ChordChart/Proofs/Transposition/Agreement.lean
  Subject:   A chord is taken apart in one way, where it is found and when it is moved.

  Where a chord is found its layout is one for the head of a text; when it is moved it is a text of
  its own, laid out with a slash or without.

  * `Token.ReadAlike`: both ways find the same roots and the same qualities, and each half by
    itself is taken apart as it was in the whole.
  * `Note.pitchClass?_eq_none_iff`: the four notes that neither scale holds.
  * **`Line.tokens_read_alike`**: every chord of a line is read alike, so a move never meets a text
    that is no chord, and nothing but a root among the four keeps a part from being moved.
-/
import ChordChart.Proofs.Chord.Layouts
import ChordChart.Proofs.Line.Occurrence
import ChordChart.Proofs.Transposition.Journal

namespace ChordChart

open Grammar (chordLayout rootLayout slashLayout)

/-! ## 1. Roots that cannot be moved -/

/-- `Cb`, `Fb`, `E#` and `B#`, which neither scale holds. -/
def Note.foreign : List Note := [⟨.c, .flat⟩, ⟨.f, .flat⟩, ⟨.e, .sharp⟩, ⟨.b, .sharp⟩]

theorem Note.pitchClass?_eq_none_iff (n : Note) : n.pitchClass? = none ↔ n ∈ foreign := by
  obtain ⟨letter, accidental⟩ := n
  cases letter <;> cases accidental <;> decide

theorem Note.transposed?_eq_none_iff (m : Move) (n : Note) :
    n.transposed? m = none ↔ n ∈ foreign := by
  rw [transposed?, Option.map_eq_none_iff, pitchClass?_eq_none_iff]

theorem Part.eq_foreignRoot_of_tokenKept {m : Move} {p : Part} {cause : Failure}
    (h : .tokenKept cause ∈ (p.transposed m).events) :
    cause = .foreignRoot p.text ∧ p.root ∈ Note.foreign := by
  cases hp : p.root.transposed? m with
  | none =>
    have hcause : cause = .foreignRoot p.text := by
      simpa [transposed, transposed?, hp] using h
    exact ⟨hcause, (Note.transposed?_eq_none_iff m p.root).mp hp⟩
  | some root => simp [transposed, transposed?, hp] at h

/-! ## 2. Two ways to take a chord apart -/

namespace Token

/-- A text that is a root with its quality, and not two halves. -/
structure ReadsPlain (text : List Char) (root : Note) (quality : List Char) : Prop where
  slash : slashLayout.first text = none
  root : rootLayout.first text = some ([root.text, quality], [])

/-- A chord with the text behind it, taken apart where it stands and by itself. -/
inductive ReadAlike (token behind : List Char) : Prop where
  | plain {root : Note} {quality : List Char} (hslash : '/' ∉ token)
      (hfound : chordLayout.first (token ++ behind) = some ([root.text, quality], behind))
      (hwhole : ReadsPlain token root quality)
  | slash {root bass : Note} {quality bassQuality : List Char}
      (hfound : chordLayout.first (token ++ behind)
        = some ([root.text, quality, bass.text, bassQuality], behind))
      (hcount : token.count '/' = 1)
      (htext : token = (root.text ++ quality) ++ '/' :: (bass.text ++ bassQuality))
      (hwhole : slashLayout.first token
        = some ([root.text ++ quality, bass.text, bassQuality], []))
      (hmain : ReadsPlain (root.text ++ quality) root quality)
      (hbass : ReadsPlain bass.text bass [])

theorem readsPlain_text {p : Part} (hslash : '/' ∉ p.quality) (hread : p.reread = p) :
    ReadsPlain p.text p.root p.quality := by
  have hsplit : Chord.split? p.text = some ⟨p, none⟩ := by
    have hparts := Chord.split?_text (c := ⟨p, none⟩) hslash
    rwa [hread] at hparts
  have hroot := p.read?_text [] rfl
  rw [hread, List.append_nil, List.append_nil] at hroot
  constructor
  · rw [Grammar.first_slashLayout, hsplit]
    rfl
  · rw [Grammar.first_rootLayout, hroot]
    rfl

theorem readsPlain_of_read? {text rest : List Char} {p : Part}
    (h : Part.read? text = some (p, rest)) : ReadsPlain p.text p.root p.quality :=
  readsPlain_text (Part.slash_notMem_of_read? h) (Part.reread_of_read? h)

theorem readsPlain_bare (n : Note) : ReadsPlain n.text n [] := by
  have hplain := readsPlain_text (p := ⟨n, []⟩) List.not_mem_nil
    (Part.reread_eq_self fun _ => rfl)
  rwa [Part.text, List.append_nil] at hplain

/-- **What is read as a chord in front of a text is taken apart alike by itself.** -/
theorem readAlike_of_read? {behind : List Char} {c : Chord}
    (h : Chord.read? (c.text ++ behind) = some (c, behind)) : ReadAlike c.text behind := by
  have hfound := Grammar.first_chordLayout (c.text ++ behind)
  rw [h, Option.map_some] at hfound
  have hslash := Grammar.first_slashLayout c.text
  rw [Chord.split?_text_of_read? h, Option.bind_some] at hslash
  rcases Chord.read?_cases h with ⟨p, rfl, hmain, -⟩ | ⟨p, b, rfl, hmain, hbass⟩
  · exact .plain (Part.slash_notMem_text_of_read? hmain) hfound (readsPlain_of_read? hmain)
  · refine .slash hfound ?_ rfl hslash (readsPlain_of_read? hmain) (readsPlain_bare b.root)
    rw [Chord.text, List.count_append, List.count_cons_self,
      List.count_eq_zero.mpr (Part.slash_notMem_text_of_read? hmain),
      List.count_eq_zero.mpr (Part.slash_notMem_text_of_read? hbass)]

/-- A chord cannot be moved only if it has no bass and its root is not a note. -/
theorem eq_foreignRoot_of_transposed? {m : Move} {behind : List Char} {c : Chord} {cause : Failure}
    (hread : Chord.read? (c.text ++ behind) = some (c, behind))
    (h : transposed? m c.text = .error cause) :
    cause = .foreignRoot c.text ∧ c.main.root ∈ Note.foreign ∧
      ReadsPlain c.text c.main.root c.main.quality := by
  have hsplit := Chord.split?_text_of_read? hread
  rcases Chord.read?_cases hread with ⟨p, rfl, hmain, -⟩ | ⟨p, b, rfl, -, -⟩
  · cases hroot : p.root.transposed? m with
    | some root =>
      simp [transposed?, hsplit, Chord.transposed?, Part.transposed?, hroot, Except.map] at h
    | none =>
      have hcause : .foreignRoot p.text = cause := by
        simpa [transposed?, hsplit, Chord.transposed?, Part.transposed?, hroot, Except.map] using h
      exact ⟨hcause.symm, (Note.transposed?_eq_none_iff m p.root).mp hroot,
        readsPlain_of_read? hmain⟩
  · simp [transposed?, hsplit, Chord.transposed?, Except.map] at h

end Token

namespace Line

/-! ## 3. The chords of a line -/

/-- The chord of a span, as it is read where it stands. -/
theorem exists_read?_of_mem_spans {line : List Char} {s : Span} (h : s ∈ spans line) :
    ∃ c behind, s.text.toList = c.text ∧ Chord.read? (c.text ++ behind) = some (c, behind) ∧
      Text.slice? line s.stop (Text.byteSize line) = some behind := by
  obtain ⟨before, c, after, hpieces, rfl⟩ := mem_spansFrom_iff.mp h
  refine ⟨c, after.flatMap Piece.text, String.toList_ofList, (read?_of_cut hpieces).1, ?_⟩
  rw [Nat.zero_add]
  exact Text.slice?_behind (eq_append_of_pieces hpieces)

/-- **A chord is taken apart in one way**: where it is found and by itself it has the same roots
    and the same qualities.  So every chord that is moved is known for one, whatever the move, and
    a chord or a half of it stays as it was only if its root is not a note. -/
theorem tokens_read_alike (line : List Char) :
    (∀ s ∈ spans line, ∃ behind,
      Text.slice? line s.stop (Text.byteSize line) = some behind ∧
      Token.ReadAlike s.text.toList behind) ∧
    ∀ m : Move,
      (∀ token, .tokenKept (.notAChord token) ∉ (Line.transposed m line).events) ∧
      (∀ cause, .tokenKept cause ∈ (Line.transposed m line).events →
        ∃ p ∈ named line, cause = .foreignRoot p.text ∧ p.root ∈ Note.foreign) ∧
      ∀ s ∈ spans line, ∀ cause, Token.transposed? m s.text.toList = .error cause →
        cause = .foreignRoot s.text.toList ∧
        ∃ root ∈ Note.foreign, ∃ quality, Token.ReadsPlain s.text.toList root quality := by
  have hkept (m : Move) : ∀ cause, .tokenKept cause ∈ (Line.transposed m line).events →
      ∃ p ∈ named line, cause = .foreignRoot p.text ∧ p.root ∈ Note.foreign := by
    intro cause hcause
    rw [events_transposed] at hcause
    obtain ⟨p, hp, hcause⟩ := List.mem_flatMap.mp hcause
    exact ⟨p, hp, Part.eq_foreignRoot_of_tokenKept hcause⟩
  refine ⟨fun s hs => ?_, fun m => ⟨fun token hmem => ?_, hkept m, fun s hs cause hfail => ?_⟩⟩
  · obtain ⟨c, behind, htext, hread, hslice⟩ := exists_read?_of_mem_spans hs
    rw [htext]
    exact ⟨behind, hslice, Token.readAlike_of_read? hread⟩
  · obtain ⟨p, -, hcause, -⟩ := hkept m _ hmem
    cases hcause
  · obtain ⟨c, behind, htext, hread, -⟩ := exists_read?_of_mem_spans hs
    rw [htext] at hfail ⊢
    obtain ⟨hcause, hroot, hplain⟩ := Token.eq_foreignRoot_of_transposed? hread hfail
    exact ⟨hcause, c.main.root, hroot, c.main.quality, hplain⟩

/-- A slash chord with a foreign bass before a sharp that it does not take, and a foreign chord. -/
theorem tokens_read_alike_foreignBass :
    (⟨"Ab7b5/E#m", 4, 9⟩ : Span) ∈ spans "♪ Ab7b5/E#m# Cbm".toList ∧
    (⟨"Cbm", 15, 3⟩ : Span) ∈ spans "♪ Ab7b5/E#m# Cbm".toList ∧
    (∃ behind, Text.slice? "♪ Ab7b5/E#m# Cbm".toList 13
        (Text.byteSize "♪ Ab7b5/E#m# Cbm".toList) = some behind ∧
      Token.ReadAlike "Ab7b5/E#m".toList behind) ∧
    Token.transposed? ⟨3, none⟩ "Cbm".toList = .error (.foreignRoot "Cbm".toList) ∧
    ∃ root ∈ Note.foreign, ∃ quality, Token.ReadsPlain "Cbm".toList root quality := by
  have hslash : (⟨"Ab7b5/E#m", 4, 9⟩ : Span) ∈ spans "♪ Ab7b5/E#m# Cbm".toList := by
    decide +kernel
  have hplain : (⟨"Cbm", 15, 3⟩ : Span) ∈ spans "♪ Ab7b5/E#m# Cbm".toList := by decide +kernel
  have hfail : Token.transposed? ⟨3, none⟩ "Cbm".toList = .error (.foreignRoot "Cbm".toList) := by
    rfl
  obtain ⟨hread, hmove⟩ := tokens_read_alike "♪ Ab7b5/E#m# Cbm".toList
  obtain ⟨-, -, herror⟩ := hmove ⟨3, none⟩
  exact ⟨hslash, hplain, hread _ hslash, hfail, (herror _ hplain _ hfail).2⟩

end Line

end ChordChart
