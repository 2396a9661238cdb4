import FlowBlocks.Trace.Sink
import Mathlib.Data.List.DropRight
import Mathlib.Data.List.Rotate
/-!
Rings hold the latest events. Read round from the next slot on, the slots of a ring are its events in
order; keeping one more event is then an append that lets go what is beyond the capacity at the front, and
so is keeping any number of them.
-/
namespace FlowBlocks.Trace

/-- Of a list, what lies more than `n` from the end may go before or after more is appended. -/
theorem rtake_rtake_append {α : Type} (xs ys : List α) (n : Nat) :
    (xs.rtake n ++ ys).rtake n = (xs ++ ys).rtake n := by
  unfold List.rtake
  rw [← List.drop_append_of_le_length (Nat.sub_le _ _), List.drop_drop]
  congr 1
  simp only [List.length_drop, List.length_append]
  omega

theorem rtake_min {α : Type} (xs : List α) (n : Nat) : xs.rtake (min xs.length n) = xs.rtake n := by
  have hsub : xs.length - min xs.length n = xs.length - n := by omega
  rw [List.rtake, List.rtake, hsub]

theorem filterMap_getElem?_range {α : Type} (xs : List α) :
    (List.range xs.length).filterMap (fun i => xs[i]?) = xs := by
  induction xs with
  | nil => rfl
  | cons x xs ih => simp [List.range_succ_eq_map, List.filterMap_map, ih]

namespace Ring

theorem capacity_push (r : Ring) (e : Event) : (r.push e).capacity = r.capacity := by
  unfold push
  split <;> rfl

theorem level_push (r : Ring) (e : Event) : (r.push e).level = r.level := by
  unfold push
  split <;> rfl

/-- Slots are read from the oldest event on: from the next slot where all are filled, and else from the
first one, behind which the next slot comes last. -/
theorem events_eq (r : Ring) : r.events = r.slots.rotate r.next := by
  have hread : ∀ i < r.slots.length, r.slots[(r.oldest + i) % r.capacity]? = (r.slots.rotate r.next)[i]? := by
    intro i hi
    rw [List.getElem?_rotate hi]
    by_cases hroom : r.slots.length < r.capacity
    -- Before the first lap is over the oldest event is in the first slot and nothing wraps.
    · have hnext := r.next_eq hroom
      have holdest : r.oldest = 0 := by
        rw [oldest, hnext, Nat.add_sub_cancel_left, Nat.mod_self]
      rw [holdest, hnext, Nat.zero_add, Nat.add_mod_right, Nat.mod_eq_of_lt hi,
        Nat.mod_eq_of_lt (Nat.lt_trans hi hroom)]
    · have hfull : r.slots.length = r.capacity := Nat.le_antisymm r.slots_le (Nat.le_of_not_lt hroom)
      have holdest : r.oldest = r.next := by
        rw [oldest, hfull, Nat.add_sub_cancel, Nat.mod_eq_of_lt r.next_lt]
      rw [holdest, hfull, Nat.add_comm]
  calc r.events
      = (List.range r.slots.length).filterMap fun i => (r.slots.rotate r.next)[i]? :=
        List.filterMap_congr fun i hi => hread i (List.mem_range.mp hi)
    _ = (List.range (r.slots.rotate r.next).length).filterMap fun i => (r.slots.rotate r.next)[i]? := by
        rw [List.length_rotate]
    _ = r.slots.rotate r.next := filterMap_getElem?_range _

theorem mem_events {r : Ring} {e : Event} : e ∈ r.events ↔ e ∈ r.slots := by
  rw [events_eq, List.mem_rotate]

theorem length_events (r : Ring) : r.events.length = r.slots.length := by
  rw [events_eq, List.length_rotate]

theorem length_events_le (r : Ring) : r.events.length ≤ r.capacity := by
  rw [length_events]
  exact r.slots_le

/-- While slots are free, the new event stands behind the others. -/
theorem events_push_of_lt {r : Ring} (hroom : r.slots.length < r.capacity) (e : Event) :
    (r.push e).events = r.events ++ [e] ∧ (r.push e).dropped = r.dropped := by
  have hnext := r.next_eq hroom
  have hturn : (r.slots ++ [e]).rotate (r.follower r.next) = r.slots ++ [e] := by
    have hlength : (r.slots ++ [e]).length = r.slots.length + 1 := List.length_append
    have hle : (r.slots ++ [e]).length ≤ r.capacity := hlength ▸ hroom
    rw [follower, hnext, ← hlength]
    rcases Nat.eq_or_lt_of_le hle with hlast | hmore
    · rw [hlast, Nat.mod_self, List.rotate_zero]
    · rw [Nat.mod_eq_of_lt hmore, List.rotate_length]
  rw [events_eq, events_eq, hnext, List.rotate_length, push, dif_pos hroom]
  exact ⟨hturn, rfl⟩

/-- Once all slots are filled, the new event takes the place of the oldest. -/
theorem events_push_of_eq {r : Ring} (hfull : r.slots.length = r.capacity) (e : Event) :
    (r.push e).events = r.events.tail ++ [e] ∧ (r.push e).dropped = r.dropped + 1 := by
  have hlt : r.next < r.slots.length := hfull ▸ r.next_lt
  have hevents : r.events = r.slots[r.next] :: (r.slots.drop (r.next + 1) ++ r.slots.take r.next) := by
    rw [events_eq, List.rotate_eq_drop_append_take (Nat.le_of_lt hlt), List.drop_eq_getElem_cons hlt]
    rfl
  have hturn : (r.slots.set r.next e).rotate (r.follower r.next) =
      r.slots.drop (r.next + 1) ++ (r.slots.take r.next ++ [e]) := by
    rw [follower, ← hfull, ← List.length_set (i := r.next) (a := e), List.rotate_mod,
      List.rotate_eq_drop_append_take (by rw [List.length_set]; exact hlt)]
    rw [List.drop_set_of_lt (Nat.lt_succ_self _), List.take_add_one, List.take_set_of_le (Nat.le_refl _),
      List.getElem?_set_self hlt]
    rfl
  rw [hevents, List.tail_cons, List.append_assoc, ← hturn, events_eq, push, dif_neg (Nat.not_lt_of_ge hfull.ge)]
  exact ⟨rfl, rfl⟩

/-- Keeping an event: it comes last, and what is then beyond the capacity goes from the front. -/
theorem events_push (r : Ring) (e : Event) : (r.push e).events = (r.events ++ [e]).rtake r.capacity := by
  have hlength : (r.events ++ [e]).length = r.slots.length + 1 := by
    rw [List.length_append, length_events]
    rfl
  unfold List.rtake
  rw [hlength]
  rcases Nat.eq_or_lt_of_le r.slots_le with hfull | hroom
  · have hne : r.events ≠ [] := by
      rw [← List.length_pos_iff, length_events, hfull]
      exact Nat.zero_lt_of_lt r.next_lt
    rw [(events_push_of_eq hfull e).1, hfull, Nat.add_sub_cancel_left, List.drop_one,
      List.tail_append_of_ne_nil hne]
  · rw [(events_push_of_lt hroom e).1, Nat.sub_eq_zero_of_le hroom, List.drop_zero]

theorem dropped_push (r : Ring) (e : Event) :
    (r.push e).dropped = r.dropped + (r.events.length + 1 - r.capacity) := by
  rw [length_events]
  rcases Nat.eq_or_lt_of_le r.slots_le with hfull | hroom
  · rw [(events_push_of_eq hfull e).2, hfull, Nat.add_sub_cancel_left]
  · rw [(events_push_of_lt hroom e).2, Nat.sub_eq_zero_of_le hroom]
    rfl

theorem length_events_push (r : Ring) (e : Event) :
    (r.push e).events.length = min (r.events.length + 1) r.capacity := by
  rw [events_push, List.rtake, List.length_drop, List.length_append]
  have hlength : [e].length = 1 := rfl
  omega

theorem events_foldl (es : List Event) (r : Ring) :
    (es.foldl push r).events = (r.events ++ es).rtake r.capacity := by
  induction es generalizing r with
  | nil =>
      have hle := r.length_events_le
      rw [List.foldl_nil, List.append_nil, List.rtake, Nat.sub_eq_zero_of_le hle, List.drop_zero]
  | cons e es ih =>
      rw [List.foldl_cons, ih, capacity_push, events_push, rtake_rtake_append, List.append_assoc]
      rfl

theorem dropped_foldl (es : List Event) (r : Ring) :
    (es.foldl push r).dropped = r.dropped + (r.events.length + es.length - r.capacity) := by
  induction es generalizing r with
  | nil =>
      have hle := r.length_events_le
      rw [List.foldl_nil, List.length_nil, Nat.add_zero, Nat.sub_eq_zero_of_le hle, Nat.add_zero]
  | cons e es ih =>
      rw [List.foldl_cons, ih, capacity_push, dropped_push, length_events_push, List.length_cons]
      omega

/-- Where nothing was dropped, all is there. -/
theorem events_foldl_push {es : List Event} {ring : Ring}
    (h : (es.foldl push ring).dropped = ring.dropped) :
    (es.foldl push ring).events = ring.events ++ es := by
  rw [dropped_foldl] at h
  have hlength : (ring.events ++ es).length - ring.capacity = 0 := by
    rw [List.length_append]
    omega
  rw [events_foldl, List.rtake, hlength, List.drop_zero]

theorem events_make (capacity : Int) (l : Level) : (make capacity l).events = [] := rfl

end Ring

/-- A sink after events were handed to it one by one, each with the host as it was then. Nothing is said of
how the host came there, as others may take numbers in between. -/
def Sink.after (s : Sink) (calls : List (Event × Host)) : Sink :=
  calls.foldl (fun s call => (s.emit call.1 call.2).2.1) s

/-- The events that a level admits, each with its sequence number. -/
def Level.admitted (l : Level) (calls : List (Event × Host)) : List Event :=
  (calls.filter fun call => l.admits call.1).map fun call => (Sink.number call.1 call.2).1

theorem Sink.emit_ring_eq (r : Ring) (e : Event) (h : Host) :
    ((Sink.ring r).emit e h).2.1 = .ring ((r.level.admitted [(e, h)]).foldl Ring.push r) := by
  unfold emit Level.admitted
  cases hadmits : r.level.admits e <;> simp [hadmits]

theorem Ring.level_foldl (es : List Event) (r : Ring) : (es.foldl push r).level = r.level := by
  induction es generalizing r with
  | nil => rfl
  | cons e es ih => rw [List.foldl_cons, ih, level_push]

theorem Level.admitted_cons (l : Level) (call : Event × Host) (calls : List (Event × Host)) :
    l.admitted (call :: calls) = l.admitted [call] ++ l.admitted calls := by
  unfold admitted
  rw [← List.map_append, ← List.filter_append, List.singleton_append]

theorem Sink.after_ring (calls : List (Event × Host)) (r : Ring) :
    (Sink.ring r).after calls = .ring ((r.level.admitted calls).foldl Ring.push r) := by
  induction calls generalizing r with
  | nil => rfl
  | cons call calls ih =>
      have hfirst := emit_ring_eq r call.1 call.2
      change ((Sink.ring r).emit call.1 call.2).2.1.after calls = _
      rw [hfirst, ih, Ring.level_foldl, ← List.foldl_append, ← Level.admitted_cons]

/-- A ring keeps the latest events. Whatever events are handed to a ring of any capacity and level, it holds
the last of those that the level admits, as many as there are or as have room, oldest first; it counts the
others as dropped, and its failures are the failures among those it holds. -/
theorem ring_keeps_latest (capacity : Int) (l : Level) (calls : List (Event × Host)) :
    let kept := l.admitted calls
    let held := min kept.length (if capacity ≤ 0 then 4096 else capacity.toNat)
    ∃ ring : Ring, (Sink.ring (.make capacity l)).after calls = .ring ring ∧
      ring.events = kept.rtake held ∧ ring.dropped = kept.length - held ∧
      ring.failures = (kept.rtake held).filter (·.kind = .error) := by
  intro kept held
  have hevents : (kept.foldl Ring.push (.make capacity l)).events = kept.rtake held := by
    rw [Ring.events_foldl, Ring.events_make, List.nil_append, rtake_min]
    rfl
  have hdropped : (kept.foldl Ring.push (.make capacity l)).dropped = kept.length - held := by
    have hcount : (kept.foldl Ring.push (.make capacity l)).dropped =
        0 + (0 + kept.length - if capacity ≤ 0 then 4096 else capacity.toNat) := Ring.dropped_foldl kept _
    omega
  refine ⟨_, Sink.after_ring calls _, hevents, hdropped, ?_⟩
  exact congrArg (List.filter (·.kind = .error)) hevents

end FlowBlocks.Trace
