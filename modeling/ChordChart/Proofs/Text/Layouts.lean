/-
  File:      ChordChart/Proofs/Text/Layouts.lean
  Subject:   Patterns some stretches of which are given out.

  A layout says what stands at the head of a text and which stretches of it are wanted.  It is
  tried in the order in which a pattern is searched, and the first way through it counts.

  * `Layout.first_seq`, `Layout.first_group`, `Layout.first_optional`, `Layout.first_plain`: the
    first way through each form of layout.
  * `Layout.IsOf`: a layout that is a pattern with groups.
  * `Layout.first_seq_eq_bind`: where the back cannot fail, or the front leaves no choice, the first
    way is the first through the front and then the first through the back.
-/
import ChordChart.Proofs.Text.Searching
import Mathlib.Data.List.Basic

namespace ChordChart.Text

/-- What was taken of a text of which `rest` is left. -/
def taken (text rest : List Char) : List Char := text.take (text.length - rest.length)

theorem taken_append (s rest : List Char) : taken (s ++ rest) rest = s := by
  rw [taken, List.length_append, Nat.add_sub_cancel]
  exact List.take_left

/-- What is left of a text behind characters of a class, as few as possible first. -/
def fewest (accepts : Char → Bool) : List Char → List (List Char)
  | [] => [[]]
  | c :: rest => (c :: rest) :: if accepts c then fewest accepts rest else []

/-- A pattern with groups, which are given out. -/
inductive Layout where
  /-- A pattern, as much as it can take first. -/
  | plain (p : Pattern)
  /-- Characters of a class, as few as possible first. -/
  | lazily (accepts : Char → Bool)
  /-- One layout after the other. -/
  | seq (front back : Layout)
  /-- A layout or nothing. -/
  | optional (body : Layout)
  /-- A layout of which the text is given out. -/
  | group (body : Layout)
  /-- The end of the text. -/
  | finish

namespace Layout

/-- A way through a layout: the texts of its groups from left to right, and what is left. -/
abbrev Way := List (List Char) × List Char

/-- A way that goes on with another. -/
def Way.followedBy (w v : Way) : Way := (w.1 ++ v.1, v.2)

/-- The ways through a layout at the head of a text, best first. -/
def ways : Layout → List Char → List Way
  | .plain p, text => (p.rests text).map ([], ·)
  | .lazily accepts, text => (fewest accepts text).map ([], ·)
  | .seq front back, text =>
    (ways front text).flatMap fun w => (ways back w.2).map w.followedBy
  | .optional body, text => ways body text ++ [([], text)]
  | .group body, text => (ways body text).map fun w => (taken text w.2 :: w.1, w.2)
  | .finish, text => if text.isEmpty then [([], text)] else []

/-- The best way through a layout, `none` if the text is not laid out so. -/
def first (l : Layout) (text : List Char) : Option Way := (l.ways text).head?

variable {front back body : Layout} {p : Pattern} {text rest : List Char}

/-! ## 1. One form of layout at a time -/

theorem first_plain (p : Pattern) (text : List Char) :
    (plain p).first text = (p.search text).map ([], ·) :=
  List.head?_map

theorem first_group (body : Layout) (text : List Char) :
    (group body).first text = (body.first text).map fun w => (taken text w.2 :: w.1, w.2) :=
  List.head?_map

theorem first_optional (body : Layout) (text : List Char) :
    (optional body).first text = (body.first text).or (some ([], text)) :=
  List.head?_append

theorem first_seq (front back : Layout) (text : List Char) :
    (seq front back).first text
      = (front.ways text).findSome? fun w => (back.first w.2).map w.followedBy := by
  rw [first, ways, List.head?_flatMap]
  exact congrArg (List.findSome? · _) (funext fun w => List.head?_map)

/-- **The first way through two layouts is the first through each**, where the front leaves no
    choice or the back cannot fail. -/
theorem first_seq_eq_bind
    (h : (front.ways text).length ≤ 1 ∨ ∀ rest, (back.first rest).isSome = true) :
    (seq front back).first text
      = (front.first text).bind fun w => (back.first w.2).map w.followedBy := by
  rw [first_seq, Pattern.findSome?_eq_bind, first]
  exact h.imp_right fun hback w => by rw [Option.isSome_map, hback]

/-- The first success among ways through two layouts. -/
theorem findSome?_ways_seq {α : Type} (f : Way → Option α) (front back : Layout)
    (text : List Char) :
    ((seq front back).ways text).findSome? f
      = (front.ways text).findSome? fun w =>
          (back.ways w.2).findSome? fun v => f (w.followedBy v) := by
  rw [ways]
  induction front.ways text with
  | nil => rfl
  | cons w others ih =>
    rw [List.flatMap_cons, List.findSome?_append, ih, List.findSome?_map, List.findSome?_cons]
    show (List.findSome? (fun v => f (w.followedBy v)) _).or _ = _
    cases (back.ways w.2).findSome? fun v => f (w.followedBy v) <;> rfl

/-- Where every way leads to the same, the first success is that of the first way. -/
theorem findSome?_eq_bind_of_forall {α β : Type} {f : α → Option β} {l : List α} {o : Option β}
    (h : ∀ a ∈ l, f a = o) : l.findSome? f = l.head?.bind fun _ => o := by
  induction l with
  | nil => rfl
  | cons a l ih =>
    rw [List.findSome?_cons, h a List.mem_cons_self]
    cases o with
    | none => rw [ih fun b hb => h b (List.mem_cons_of_mem a hb), Option.bind_fun_none]; rfl
    | some b => rfl

/-! ## 2. Groups that are patterns -/

theorem first_group_plain (h : p.search text = some rest) :
    (group (plain p)).first text = some ([taken text rest], rest) := by
  rw [first_group, first_plain, h]
  rfl

theorem first_group_plain_of_eq_none (h : p.search text = none) :
    (group (plain p)).first text = none := by
  rw [first_group, first_plain, h]
  rfl

theorem length_ways_plain (h : p.isRigid = true) (text : List Char) :
    ((plain p).ways text).length ≤ 1 := by
  rw [ways, List.length_map]
  exact Pattern.length_rests_of_isRigid h text

/-! ## 3. Layouts of a pattern -/

/-- The layout is the pattern with groups: it is tried in the same order and leaves the same. -/
def IsOf (l : Layout) (p : Pattern) : Prop :=
  ∀ text, (l.ways text).map Prod.snd = p.rests text

theorem isOf_plain (p : Pattern) : (plain p).IsOf p := by
  intro text
  rw [ways, List.map_map]
  exact List.map_id _

theorem IsOf.group (h : body.IsOf p) : (group body).IsOf p := by
  intro text
  rw [ways, List.map_map]
  exact h text

theorem IsOf.optional (h : body.IsOf p) : (optional body).IsOf (.optional p) := by
  intro text
  rw [ways, List.map_append, h]
  rfl

theorem IsOf.seq {q : Pattern} (hfront : front.IsOf p) (hback : back.IsOf q) :
    (seq front back).IsOf (.seq p q) := by
  intro text
  rw [ways, List.map_flatMap, Pattern.rests, ← hfront, List.flatMap_map]
  refine List.flatMap_congr fun w _ => ?_
  rw [List.map_map, ← hback]
  rfl

end Layout

/-! ## 4. Everything up to the end -/

namespace Pattern

/-- Any character. -/
def any : Pattern := .char fun _ => true

theorem search_many_any (text : List Char) : (many any).search text = some [] := by
  have hcommit : (many any).commit text = some (repeatedly any.commit text.length text) := rfl
  have hstop := commit_eq_none_of_many rfl rfl hcommit
  rw [search_eq_commit rfl, hcommit]
  cases hrest : repeatedly any.commit text.length text with
  | nil => rfl
  | cons c rest =>
    rw [hrest] at hstop
    cases hstop

end Pattern

/-- The whole of what is left. -/
def Layout.remainder : Layout := .seq (.group (.plain (.many .any))) .finish

theorem Layout.first_remainder (text : List Char) : remainder.first text = some ([text], []) := by
  have hgroup := first_group_plain (Pattern.search_many_any text)
  rw [first, List.head?_eq_some_iff] at hgroup
  obtain ⟨others, hways⟩ := hgroup
  have htaken := taken_append text []
  rw [List.append_nil] at htaken
  rw [remainder, first_seq, hways, htaken]
  rfl

end ChordChart.Text
