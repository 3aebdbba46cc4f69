import NetRack.Session.Log
import Mathlib.Data.List.DropRight
import Mathlib.Data.List.Induction

/-!
# The latest events

A log with a bound above zero holds the latest of the events that were added since it was cleared last, as many as
its bound allows.  A bound of zero is no bound at all: such a log holds every event.
-/

namespace NetRack.Log

/-- A call that changes the events of a log. -/
inductive Call where
  | add (kind : String) (data : List (String × Json))
  | clear

/-- The event that a call adds. -/
def Call.event? : Call → Option Event
  | add kind data => some ⟨kind, data⟩
  | clear => none

/-- The log after a call. -/
def perform (l : Log) : Call → Log
  | .add kind data => l.add kind data
  | .clear => l.clear

/-- What an empty log with a bound has come to after some calls. -/
def run (bound : Int) (calls : List Call) : Log := calls.foldl perform { bound }

/-- The events that some calls have added since the last of them that clears. -/
def added (calls : List Call) : List Event :=
  (calls.rtakeWhile fun c => c.event?.isSome).filterMap Call.event?

/-- Some events are the last `n` of others, in the same order. -/
def AreLast (n : Nat) (all kept : List Event) : Prop := ∃ older, all = older ++ kept ∧ kept.length = n

variable {bound : Int} {calls : List Call}

theorem run_concat (bound : Int) (calls : List Call) (c : Call) :
    run bound (calls ++ [c]) = (run bound calls).perform c := List.foldl_concat ..

theorem added_add (calls : List Call) (kind : String) (data : List (String × Json)) :
    added (calls ++ [.add kind data]) = added calls ++ [⟨kind, data⟩] := by
  unfold added
  rw [List.rtakeWhile_concat_pos _ _ _ rfl, List.filterMap_append]
  rfl

theorem added_clear (calls : List Call) : added (calls ++ [.clear]) = [] := by
  unfold added
  rw [List.rtakeWhile_concat_neg _ _ _ (by decide)]
  rfl

theorem bound_run (bound : Int) (calls : List Call) : (run bound calls).bound = bound := by
  induction calls using List.reverseRecOn with
  | nil => rfl
  | append_singleton calls c ih =>
    rw [run_concat]
    cases c with
    | add kind data => exact ih
    | clear => exact ih

theorem events_add (l : Log) (kind : String) (data : List (String × Json)) :
    (l.add kind data).events = (l.events ++ [(⟨kind, data⟩ : Event)]).drop (excess l.bound (l.events.length + 1)) := by
  simp only [add, List.length_append, List.length_singleton]

/-- The latest of some events and one more are the latest of all of them, but for those in excess. -/
theorem drop_latest_concat {n : Nat} (some_room : 0 < n) (events : List Event) (e : Event) :
    (events.drop (events.length - n) ++ [e]).drop (excess n ((events.drop (events.length - n)).length + 1)) =
      (events ++ [e]).drop ((events ++ [e]).length - n) := by
  simp only [List.length_append, List.length_drop, List.length_singleton]
  by_cases room : events.length < n
  · have kept : excess n (events.length + 1) = 0 := by
      unfold excess
      rw [if_pos (by omega)]
    rw [show events.length - n = 0 by omega, show events.length + 1 - n = 0 by omega, Nat.sub_zero, kept]
    rfl
  · have oldest : excess n (events.length - (events.length - n) + 1) = 1 := by
      unfold excess
      rw [if_neg (by omega), if_pos (by omega)]
      omega
    have full : 1 ≤ (events.drop (events.length - n)).length := by
      rw [List.length_drop]
      omega
    rw [oldest, List.drop_append_of_le_length full, List.drop_drop, List.drop_append_of_le_length (by omega)]
    congr 2
    omega

theorem events_run {n : Nat} (some_room : 0 < n) (calls : List Call) :
    (run n calls).events = (added calls).drop ((added calls).length - n) := by
  induction calls using List.reverseRecOn with
  | nil => exact List.drop_nil.symm
  | append_singleton calls c ih =>
    rw [run_concat]
    cases c with
    | add kind data => rw [added_add, ← drop_latest_concat some_room, ← ih, perform, events_add, bound_run]
    | clear =>
      rw [added_clear, List.drop_nil]
      rfl

theorem events_run_zero (calls : List Call) : (run 0 calls).events = added calls := by
  induction calls using List.reverseRecOn with
  | nil => rfl
  | append_singleton calls c ih =>
    rw [run_concat]
    cases c with
    | add kind data =>
      have kept (count : Nat) : excess 0 count = 0 := by
        unfold excess
        simp
      rw [added_add, perform, events_add, bound_run, kept, ih, List.drop_zero]
    | clear =>
      rw [added_clear]
      rfl

/-- After any calls a log holds the latest events since it was cleared, as many as there are within its bound, unless
the bound is zero and events were added since.  With a bound of zero it holds all of them. -/
theorem run_latest_iff (bound : Nat) (calls : List Call) :
    (AreLast (min (added calls).length bound) (added calls) (run bound calls).events ↔
      (bound = 0 → added calls = [])) ∧ (bound = 0 → (run bound calls).events = added calls) := by
  rcases Nat.eq_zero_or_pos bound with rfl | some_room
  · have all := events_run_zero calls
    rw [Int.natCast_zero, all, Nat.min_zero]
    refine ⟨⟨?_, ?_⟩, fun _ => rfl⟩
    · rintro ⟨older, -, count⟩ -
      exact List.length_eq_zero_iff.1 count
    · intro empty
      exact ⟨[], rfl, List.length_eq_zero_iff.2 (empty rfl)⟩
  · refine ⟨⟨fun _ zero => by omega, fun _ => ?_⟩, fun zero => by omega⟩
    rw [events_run some_room]
    refine ⟨(added calls).take ((added calls).length - bound), (List.take_append_drop ..).symm, ?_⟩
    rw [List.length_drop]
    omega

end NetRack.Log
