/-
  File:      ChordChart/Journal/Logged.lean
  Subject:   Values that come with the events of their making.

  Computations are sequenced so that the events of the first stand before
  those of the second.  The value never depends on the events.
-/
import ChordChart.Journal.Event

namespace ChordChart

/-- A value with the events of its making, oldest first. -/
structure Logged (α : Type) where
  value : α
  events : List Event

namespace Logged

variable {α β : Type}

instance : Monad Logged where
  pure a := ⟨a, []⟩
  bind x f :=
    let next := f x.value
    ⟨next.value, x.events ++ next.events⟩

/-- Runs a computation on each member of a list and joins the lists it gives. -/
def flatMap (f : α → Logged (List β)) : List α → Logged (List β)
  | [] => pure []
  | a :: rest =>
    let front := f a
    let others := flatMap f rest
    ⟨front.value ++ others.value, front.events ++ others.events⟩

/-! ## 1. The two components -/

@[simp]
theorem value_pure (a : α) : (pure a : Logged α).value = a := rfl

@[simp]
theorem events_pure (a : α) : (pure a : Logged α).events = [] := rfl

@[simp]
theorem value_bind (x : Logged α) (f : α → Logged β) : (x >>= f).value = (f x.value).value := rfl

@[simp]
theorem events_bind (x : Logged α) (f : α → Logged β) :
    (x >>= f).events = x.events ++ (f x.value).events := rfl

@[simp]
theorem value_map (f : α → β) (x : Logged α) : (f <$> x).value = f x.value := rfl

@[simp]
theorem events_map (f : α → β) (x : Logged α) : (f <$> x).events = x.events := by
  show x.events ++ [] = x.events
  simp

@[simp]
theorem value_flatMap (f : α → Logged (List β)) (l : List α) :
    (flatMap f l).value = l.flatMap fun a => (f a).value := by
  induction l with
  | nil => rfl
  | cons a l ih => simp [flatMap, ih]

@[simp]
theorem events_flatMap (f : α → Logged (List β)) (l : List α) :
    (flatMap f l).events = l.flatMap fun a => (f a).events := by
  induction l with
  | nil => rfl
  | cons a l ih => simp [flatMap, ih]

end Logged

end ChordChart
