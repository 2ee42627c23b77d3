import Gatehouse.Proofs.Session.Books
import Gatehouse.Proofs.Traffic.Sessions

/-!
# The view of one session

What concerns a session is its state, the tasks that are steps of it, its requests that have not
left, and what it wrote. `Traffic.Spares` says that something leaves all of this alone, and this
module shows that of whatever happens to others.
-/

namespace Gatehouse

open Access

/-- The session that a task is a step of. Results are told by who asked. -/
def Task.session? (askers : List (RequestId × SessionId)) : Task → Option SessionId
  | .job (.handle session) | .job (.handled session _) => some session
  | .job (.answered request _) => askers.lookup request
  | _ => none

def Happening.wroteBy? (id : SessionId) : Happening → Option Bytes
  | .wrote session bytes => if session = id then some bytes else none
  | _ => none

namespace Traffic

/-- What a session wrote. -/
def writtenBy (traffic : Traffic) (id : SessionId) : List Bytes :=
  traffic.happenings.filterMap (Happening.wroteBy? id)

def stepsOf (traffic : Traffic) (id : SessionId) (tasks : List Task) : List Task :=
  Agenda.owned (Task.session? traffic.askers) id tasks

def asked? (traffic : Traffic) (id : SessionId) (request : RequestId) : Option Visit :=
  if traffic.askers.lookup request = some id then traffic.coordinator.visit? request else none

def Numbered (traffic : Traffic) : Prop :=
  ∀ request asker, traffic.askers.lookup request = some asker → request < traffic.requests

structure Spares (id : SessionId) (before after : Traffic) : Prop where
  session : after.session? id = before.session? id
  askers : ∀ request,
    after.askers.lookup request = some id ↔ before.askers.lookup request = some id
  asked : ∀ request, after.asked? id request = before.asked? id request
  written : after.writtenBy id = before.writtenBy id

section Happenings

variable (traffic : Traffic) (id other : SessionId)

theorem session?_putSession (session : Session) (effects : List SessionEffect) :
    (traffic.putSession id session effects).session? other =
      if other = id then (traffic.session? other).map fun _ => session
      else traffic.session? other :=
  Association.lookup_overwritten other id session traffic.sessions

theorem wroteBy?_happening (effect : SessionEffect) :
    (happening id effect).wroteBy? other = if id = other then effect.bytes? else none := by
  cases effect <;> simp [happening, Happening.wroteBy?, SessionEffect.bytes?]

theorem writtenBy_putSession (session : Session) (effects : List SessionEffect) :
    (traffic.putSession id session effects).writtenBy other =
      traffic.writtenBy other ++ if id = other then written effects else [] := by
  show (traffic.happenings ++ effects.map (happening id)).filterMap (Happening.wroteBy? other) = _
  rw [List.filterMap_append, List.filterMap_map]
  congr 1
  have same : Happening.wroteBy? other ∘ happening id =
      fun effect => if id = other then effect.bytes? else none := by
    funext effect
    exact wroteBy?_happening id other effect
  rw [same]
  split
  · rfl
  · exact List.filterMap_none effects

theorem writtenBy_note (notices : List Notice) :
    (traffic.note notices).writtenBy id = traffic.writtenBy id := by
  show (traffic.happenings ++ notices.map Happening.noted).filterMap _ = _
  rw [List.filterMap_append, List.filterMap_map]
  have none : Happening.wroteBy? id ∘ Happening.noted = fun _ => none := rfl
  rw [none, List.filterMap_none, List.append_nil]
  rfl

end Happenings

variable {traffic : Traffic} {id other : SessionId}

theorem stepsOf_append (first later : List Task) :
    traffic.stepsOf id (first ++ later) = traffic.stepsOf id first ++ traffic.stepsOf id later :=
  Agenda.owned_append first later

theorem stepsOf_cons_self {task : Task} (mine : Task.session? traffic.askers task = some id)
    (rest : List Task) : traffic.stepsOf id (task :: rest) = task :: traffic.stepsOf id rest :=
  Agenda.owned_cons_self mine rest

theorem stepsOf_cons_of_ne {task : Task} (another : Task.session? traffic.askers task ≠ some id)
    (rest : List Task) : traffic.stepsOf id (task :: rest) = traffic.stepsOf id rest :=
  Agenda.owned_cons_of_ne another rest

namespace Spares

theorem refl (id : SessionId) (traffic : Traffic) : Spares id traffic traffic :=
  ⟨rfl, fun _ => Iff.rfl, fun _ => rfl, rfl⟩

theorem of_same {before after : Traffic} (session : after.session? id = before.session? id)
    (askers : after.askers = before.askers)
    (visits : after.coordinator.visits = before.coordinator.visits)
    (written : after.writtenBy id = before.writtenBy id) : Spares id before after where
  session := session
  askers request := by rw [askers]
  asked request := by
    unfold asked? Coordinator.visit?
    rw [askers, visits]
  written := written

theorem putSession (different : id ≠ other) (session : Session) (effects : List SessionEffect) :
    Spares id traffic (traffic.putSession other session effects) := by
  apply of_same
  · rw [session?_putSession, if_neg different]
  · rfl
  · rfl
  · rw [writtenBy_putSession, if_neg fun same => different same.symm, List.append_nil]

theorem stepsOf {before after : Traffic} (spares : Spares id before after) {rest added : List Task}
    (others : ∀ task ∈ added, Task.session? after.askers task ≠ some id) :
    after.stepsOf id (rest ++ added) = before.stepsOf id rest := by
  unfold Traffic.stepsOf
  have none_added : Agenda.owned (Task.session? after.askers) id added = [] := by
    apply List.filter_eq_nil_iff.mpr
    intro task member mine
    exact others task member (of_decide_eq_true mine)
  rw [Agenda.owned_append, none_added, List.append_nil]
  apply List.filter_congr
  intro task _
  apply decide_eq_decide.mpr
  cases task with
  | verdict request => exact Iff.rfl
  | job job =>
      cases job with
      | answered request result => exact spares.askers request
      | _ => exact Iff.rfl

end Spares

end Traffic

end Gatehouse
