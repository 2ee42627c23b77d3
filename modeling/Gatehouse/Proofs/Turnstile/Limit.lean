import Gatehouse.Proofs.Turnstile.Moves

/-!
# The limit on histories

How many transitions of a turnstile are kept changes nothing but its history. A controller with a
limit does at every operation what the one that keeps everything does: `Controller.limited` cuts the
histories of the latter, and goes through every operation.
-/

namespace Gatehouse.Turnstile

theorem keepLast_append_keepLast {Item : Type} (capacity : Capacity) (items : List Item)
    (item : Item) :
    capacity.keepLast (capacity.keepLast items ++ [item]) =
      capacity.keepLast (items ++ [item]) := by
  cases capacity with
  | unlimited => rfl
  | atMost count =>
      simp only [Capacity.keepLast, List.length_append, List.length_drop, List.length_singleton]
      by_cases short : items.length ≤ count
      · rw [Nat.sub_eq_zero_of_le short, List.drop_zero, Nat.sub_zero]
      · have cut : items.drop (items.length - count) ++ [item] =
            (items ++ [item]).drop (items.length - count) :=
          (List.drop_append_of_le_length (by omega)).symm
        rw [cut, List.drop_drop]
        congr 1
        omega

namespace Ledger

/-- What a limit leaves of an entry. -/
def Entry.limited (capacity : Capacity) (entry : Entry) : Entry :=
  { entry with history := capacity.keepLast entry.history }

/-- The ledger with a limit on its histories. -/
def limited (ledger : Ledger) (capacity : Capacity) : Ledger :=
  { capacity := capacity
    entries := ledger.entries.map fun (device, entry) => (device, Entry.limited capacity entry) }

theorem known?_limited (ledger : Ledger) (capacity : Capacity) (device : Device) :
    (ledger.limited capacity).known? device =
      (ledger.known? device).map (Entry.limited capacity) := by
  simp only [known?, limited, List.find?_map, Option.map_map]
  rfl

theorem state_limited (ledger : Ledger) (capacity : Capacity) (device : Device) :
    (ledger.limited capacity).state device = ledger.state device := by
  simp only [Ledger.state, known?_limited, Option.map_map]
  rfl

theorem place_limited (capacity : Capacity) (device : Device) (entry : Entry)
    (entries : List (Device × Entry)) :
    place device (Entry.limited capacity entry)
        (entries.map fun (other, known) => (other, Entry.limited capacity known)) =
      (place device entry entries).map
        fun (other, known) => (other, Entry.limited capacity known) := by
  induction entries with
  | nil => rfl
  | cons head rest induction =>
      rcases head with ⟨other, known⟩
      unfold place
      simp only [List.map_cons]
      split
      · rfl
      · rw [induction, List.map_cons]

theorem put_limited (ledger : Ledger) (capacity : Capacity) (device : Device) (entry : Entry) :
    (ledger.limited capacity).put device (Entry.limited capacity entry) =
      (ledger.put device entry).limited capacity := by
  unfold put limited
  rw [place_limited]

theorem getD_fresh_limited (ledger : Ledger) (capacity : Capacity) (device : Device)
    (now : Time.Instant) :
    ((ledger.limited capacity).known? device).getD (fresh now) =
      Entry.limited capacity ((ledger.known? device).getD (fresh now)) := by
  rw [known?_limited]
  cases ledger.known? device with
  | none => cases capacity <;> simp [Entry.limited, fresh, Capacity.keepLast]
  | some entry => rfl

theorem after_limited (capacity : Capacity) (entry : Entry) (transition : Transition) :
    Entry.after capacity (Entry.limited capacity entry) transition =
      Entry.limited capacity (Entry.after .unlimited entry transition) :=
  congrArg
    (fun history => { Entry.after .unlimited entry transition with history := history })
    (keepLast_append_keepLast capacity entry.history transition)

theorem apply_limited {ledger : Ledger} (unlimited : ledger.capacity = .unlimited)
    (capacity : Capacity) (now : Time.Instant) (device : Device) (event : Event) :
    (ledger.limited capacity).apply now device event =
      ((ledger.apply now device event).1.limited capacity, (ledger.apply now device event).2) := by
  unfold apply
  simp only [getD_fresh_limited]
  have same : (Entry.limited capacity ((ledger.known? device).getD (fresh now))).state =
      ((ledger.known? device).getD (fresh now)).state := rfl
  rw [same]
  cases ((ledger.known? device).getD (fresh now)).state.next event with
  | none => simp only [put_limited]
  | some after =>
      have kept : (ledger.limited capacity).capacity = capacity := rfl
      simp only [kept, unlimited, after_limited, put_limited]

end Ledger

namespace Controller

/-- The controller with a limit on the histories of its ledger. -/
def limited (controller : Controller) (capacity : Capacity) : Controller :=
  { controller with ledger := controller.ledger.limited capacity }

variable {controller : Controller} (capacity : Capacity) (clock : Agenda.Clock) (device : Device)

theorem apply_limited (unlimited : controller.ledger.capacity = .unlimited) (event : Event) :
    (controller.limited capacity).apply clock device event =
      ((controller.apply clock device event).1.limited capacity,
        (controller.apply clock device event).2) := by
  unfold Controller.apply limited
  simp only [Ledger.apply_limited unlimited]

theorem unlimited_apply (unlimited : controller.ledger.capacity = .unlimited) (event : Event) :
    (controller.apply clock device event).1.ledger.capacity = .unlimited :=
  (controller.ledger.capacity_apply clock.instant device event).trans unlimited

theorem grant_limited (unlimited : controller.ledger.capacity = .unlimited) :
    (controller.limited capacity).grant clock device =
      ((controller.grant clock device).1.limited capacity, (controller.grant clock device).2) := by
  unfold grant
  rw [apply_limited capacity clock device unlimited]
  rcases controller.apply clock device .grant with ⟨opened, outcome | transition⟩ <;> rfl

theorem report_limited (unlimited : controller.ledger.capacity = .unlimited) (status : Status) :
    (controller.limited capacity).report clock device status =
      ((controller.report clock device status).1.limited capacity,
        (controller.report clock device status).2) := by
  have kept := unlimited_apply clock device unlimited status.event
  unfold report
  rw [apply_limited capacity clock device unlimited]
  generalize controller.apply clock device status.event = result at kept
  rcases result with ⟨moved, fault | transition⟩
  · rfl
  · have reset : ((moved.limited capacity).disarm device).apply clock device .reset =
        (((moved.disarm device).apply clock device .reset).1.limited capacity,
          ((moved.disarm device).apply clock device .reset).2) :=
      apply_limited capacity clock device (show (moved.disarm device).ledger.capacity = _ from kept)
        .reset
    cases status with
    | waiting => rfl
    | completed =>
        simp only [reset]
        rcases (moved.disarm device).apply clock device .reset with ⟨ended, outcome | step⟩ <;> rfl
    | timeout =>
        simp only [reset]
        rcases (moved.disarm device).apply clock device .reset with ⟨ended, outcome | step⟩ <;> rfl

theorem timeOut_limited (unlimited : controller.ledger.capacity = .unlimited) :
    (controller.limited capacity).timeOut clock device =
      (controller.timeOut clock device).limited capacity := by
  unfold timeOut
  rw [apply_limited capacity clock device unlimited]
  simp only
  rw [apply_limited capacity clock device (unlimited_apply clock device unlimited .timeout)]

theorem state_limited : (controller.limited capacity).state device = controller.state device :=
  controller.ledger.state_limited capacity device

theorem recoverStale_limited (unlimited : controller.ledger.capacity = .unlimited) :
    (controller.limited capacity).recoverStale clock device =
      ((controller.recoverStale clock device).1.limited capacity,
        (controller.recoverStale clock device).2) := by
  unfold recoverStale
  rw [state_limited]
  split
  · exact Prod.ext (timeOut_limited capacity clock device
      (show (controller.disarm device).ledger.capacity = _ from unlimited)) rfl
  · rfl

theorem ring_limited (unlimited : controller.ledger.capacity = .unlimited) :
    (controller.limited capacity).ring clock device =
      ((controller.ring clock device).1.limited capacity, (controller.ring clock device).2) := by
  have rung : ({ controller with alarms := controller.alarms.ring } : Controller).ledger.capacity =
      .unlimited := unlimited
  have moved := timeOut_limited capacity clock device rung
  have same := controller.ledger.state_limited capacity device
  unfold ring expire Controller.state limited
  simp only [same]
  split
  · exact Prod.ext moved rfl
  · rfl

theorem expire_limited (unlimited : controller.ledger.capacity = .unlimited) :
    (controller.limited capacity).expire clock device =
      ((controller.expire clock device).1.limited capacity,
        (controller.expire clock device).2) := by
  rw [expire, expire, state_limited]
  split
  · exact Prod.ext (timeOut_limited capacity clock device unlimited) rfl
  · rfl

theorem unlimited_expire (unlimited : controller.ledger.capacity = .unlimited) :
    (controller.expire clock device).1.ledger.capacity = .unlimited := by
  rw [expire]
  split
  · exact unlimited_apply clock device (unlimited_apply clock device unlimited .timeout) .reset
  · exact unlimited

theorem expireAll_limited (unlimited : controller.ledger.capacity = .unlimited) (stamp : Nat)
    (due : List (Agenda.Pending Device)) :
    ((controller.limited capacity).expireAll stamp due).1 =
      (controller.expireAll stamp due).1.limited capacity := by
  induction due generalizing controller with
  | nil => rfl
  | cons alarm rest induction =>
      have expired := expire_limited capacity ⟨alarm.due, stamp⟩ alarm.item unlimited
      simp only [expireAll, expired]
      exact induction (unlimited_expire ⟨alarm.due, stamp⟩ alarm.item unlimited)

theorem advance_limited (unlimited : controller.ledger.capacity = .unlimited) (target : Rat) :
    ((controller.limited capacity).advance clock target).1 =
      (controller.advance clock target).1.limited capacity := by
  have rung : ({ controller with
      alarms := (controller.alarms.goOff target).2 } : Controller).ledger.capacity = .unlimited :=
    unlimited
  exact expireAll_limited capacity rung clock.stamp (controller.alarms.goOff target).1

end Controller

end Gatehouse.Turnstile
