import Gatehouse.Proofs.Traffic.Attending

/-!
# Handling the next message

When a session handles its next message it is done with it at once, with or without an answer, or
it passes a request on and waits for the outcome. Either way the session goes on as it should:
`Attends.handle`.
-/

namespace Gatehouse

open Access

variable {terms : Terms} {id : SessionId} {chunks : List Bytes} {floor : Floor}
  {session : Session} {owed : List Message} {untold : List (Except Fault Decision)}

namespace Traffic

variable {traffic : Traffic}

theorem asked?_submitFor (numbered : traffic.Numbered)
    (fresh : traffic.coordinator.visit? traffic.requests = none) (visit : Visit)
    (request : RequestId) :
    (traffic.submitFor id visit).1.asked? id request =
      if request = traffic.requests then some visit else traffic.asked? id request := by
  have visits : (traffic.submitFor id visit).1.coordinator.visit? request =
      (traffic.coordinator.visit? request).or
        (if request = traffic.requests then some visit else none) :=
    Association.lookup_concat request traffic.requests visit _
  unfold asked?
  rw [lookup_submitFor, visits]
  by_cases new : request = traffic.requests
  · have nobody : traffic.askers.lookup traffic.requests = none := by
      cases found : traffic.askers.lookup traffic.requests with
      | none => rfl
      | some asker => exact absurd (numbered _ asker found) (Nat.lt_irrefl _)
    rw [new, nobody, fresh]
    simp
  · rw [if_neg new, if_neg new, if_neg new, Option.or_none, Option.or_none]

theorem stepsOf_submitFor {tasks : List Task}
    (old : ∀ request result, Task.job (.answered request result) ∈ tasks →
      request < traffic.requests) (visit : Visit) :
    (traffic.submitFor id visit).1.stepsOf id tasks = traffic.stepsOf id tasks := by
  apply List.filter_congr
  intro task member
  apply decide_eq_decide.mpr
  cases task with
  | verdict request => exact Iff.rfl
  | job job =>
      cases job with
      | answered request result =>
          have before := Nat.ne_of_lt (old request result member)
          show (traffic.submitFor id visit).1.askers.lookup request = some id ↔
            traffic.askers.lookup request = some id
          rw [lookup_submitFor, if_neg before, Option.or_none]
      | _ => exact Iff.rfl

theorem stepsOf_called (traffic : Traffic) (visit : Visit) :
    (traffic.submitFor id visit).1.stepsOf id
      ((traffic.submitFor id visit).2.map fun entry => Task.job entry.2) = [] := by
  show Traffic.stepsOf _ id (List.map _ (traffic.submit visit).2.2) = []
  rw [(traffic.submitted_submit visit).jobs]
  split
  · have another : Task.session? (traffic.submitFor id visit).1.askers
        (.job (.begin traffic.requests)) ≠ some id := by
      intro same
      cases same
    exact stepsOf_cons_of_ne another []
  · rfl

end Traffic

theorem Tidy.outcomesOf_submitFor (tidy : Tidy terms floor) {traffic : Traffic}
    (requests : traffic.requests = floor.traffic.requests)
    (askers : traffic.askers = floor.traffic.askers) (visit : Visit) (tasks : List Task) :
    (floor.put tasks (traffic.submitFor id visit)).outcomesOf id = floor.outcomesOf id := by
  refine Floor.outcomesOf_congr rfl fun entry member => ?_
  have before : entry.2.1 ≠ traffic.requests := requests ▸ Nat.ne_of_lt (tidy.came entry member)
  show (traffic.submitFor id visit).1.askers.lookup entry.2.1 = some id ↔ _
  rw [Traffic.lookup_submitFor, if_neg before, Option.or_none, askers]

namespace Attends

section

variable (clock : Agenda.Clock)

theorem session?_handling (attends : Attends terms id chunks floor session owed untold)
    (begun : Session) (message : Message) :
    (floor.traffic.handling clock id begun message).session? id =
      some (begun.handle clock floor.traffic.coordinator.turnstiles message).session := by
  refine (Traffic.session?_putSession _ id id _ _).trans ?_
  rw [if_pos rfl]
  show (floor.traffic.session? id).map _ = _
  rw [attends.known]
  rfl

theorem writtenBy_handling (floor : Floor) (id : SessionId) (begun : Session)
    (message : Message) :
    (floor.traffic.handling clock id begun message).writtenBy id =
      floor.traffic.writtenBy id ++
        written (begun.handle clock floor.traffic.coordinator.turnstiles message).effects := by
  refine (Traffic.writtenBy_putSession _ id id _ _).trans ?_
  rw [if_pos rfl]
  rfl

variable {message : Message} {rest : List Message}

theorem begun (attends : Attends terms id chunks floor session [] [])
    (inbox : session.inbox = message :: rest) (opened : session.closed = false) :
    Books terms chunks (session.begun message rest) (if message.asks then [message] else [])
      (floor.outcomesOf id) (floor.traffic.writtenBy id) := by
  rcases attends.books opened with ⟨told, all, books⟩
  rw [all, List.append_nil]
  exact books.begun inbox

/-- What is written by the time a message is handled, if nobody is asked about it. -/
theorem account (attends : Attends terms id chunks floor session [] [])
    (room : terms.codec.exceeds 64 = false) (idle : session.current = none)
    (inbox : session.inbox = message :: rest)
    (ends : ∀ request, ((session.begun message rest).handle clock
      floor.traffic.coordinator.turnstiles message).progress ≠ .asking request) :
    let handled :=
      (session.begun message rest).handle clock floor.traffic.coordinator.turnstiles message
    (session.begun message rest).Alike handled.session ∧
      (handled.session.closed = false →
        Books terms chunks handled.session [] (floor.outcomesOf id)
          (floor.traffic.writtenBy id ++ written handled.effects)) ∧
      Writes terms.codec session (floor.traffic.writtenBy id)
        (floor.traffic.writtenBy id ++ written handled.effects) := by
  intro handled
  have codec_eq : (session.begun message rest).codec = terms.codec := attends.codec_eq
  have books := attends.begun inbox
  by_cases asks : message.command = .accessRequest
  · have asking : message.asks = true := decide_eq_true asks
    have reliable : (session.begun message rest).failingWrites = [] := attends.reliable
    rw [asking, if_pos rfl] at books
    rw [← codec_eq] at room
    rcases Session.handle_replies clock floor.traffic.coordinator.turnstiles message reliable room
        asks with ⟨alike, ⟨request, _, asked, _⟩ | ⟨_, ⟨fault, unreadable⟩, denies⟩⟩
    · exact absurd asked (ends request)
    · have at_hand : session.HasAtHand message := .inr ⟨idle, congrArg List.head? inbox⟩
      have same : (session.begun message rest).closed = session.closed := rfl
      have replies : (session.begun message rest).Replies (terms.AnswersWith message [])
          (written handled.effects) :=
        denies.imp fun bytes denied => .unreadable unreadable (codec_eq ▸ denied)
      refine ⟨alike, fun opened => ?_, .of_replies replies same at_hand asking _⟩
      have account := (books (alike.closed.symm.trans opened)).replies replies alike opened
      rwa [List.append_nil] at account
  · have quiet : message.asks = false := decide_eq_false asks
    rcases (session.begun message rest).handle_quiet clock floor.traffic.coordinator.turnstiles
      message asks with ⟨same, silent, _⟩
    have unchanged : handled.session = session.begun message rest := same
    have nothing : written handled.effects = [] := silent
    rw [quiet] at books
    rw [unchanged, nothing, List.append_nil]
    exact ⟨.refl _, books, .silent⟩

end

theorem handle_ended (attends : Attends terms id chunks floor session [] [])
    (room : terms.codec.exceeds 64 = false) {front back : List Task} {message : Message}
    {rest : List Message} (clock : Agenda.Clock)
    (left : floor.traffic.stepsOf id (front ++ back) = []) (idle : session.current = none)
    (inbox : session.inbox = message :: rest)
    (nobody : ∀ request, floor.traffic.asked? id request = none)
    (ends : ∀ request, ((session.begun message rest).handle clock
      floor.traffic.coordinator.turnstiles message).progress ≠ .asking request)
    (fault : Option Fault) :
    ∃ next, Follows terms id chunks floor session
      (floor.put (front ++ back)
        (floor.traffic.handling clock id (session.begun message rest) message,
          [(Traffic.roundsToHandled, .handled id fault)])) next [] [] := by
  rcases attends.account clock room idle inbox ends with ⟨alike, books, writes⟩
  have known := attends.session?_handling clock (session.begun message rest) message
  have written := writtenBy_handling clock floor id (session.begun message rest) message
  rw [← written] at books writes
  refine ⟨_, ⟨known, alike.codec.trans attends.codec_eq, alike.failingWrites.trans attends.reliable,
    ?_, fun opened => ⟨_, (List.append_nil _).symm, books opened⟩⟩,
    fun shut => alike.closed.trans shut, writes⟩
  have steps : floor.traffic.stepsOf id ((front ++ back) ++ [.job (.handled id fault)]) =
      [.job (.handled id fault)] := stepsOf_last left rfl
  have phase : Phase terms id (floor.traffic.asked? id) floor.outcomesFor
      (session.begun message rest).current (session.begun message rest).inbox
      [.job (.handled id fault)] [] [] := .finishing nobody
  rw [← steps, ← alike.current, ← alike.inbox] at phase
  exact phase

theorem handle_asking (attends : Attends terms id chunks floor session [] [])
    (room : terms.codec.exceeds 64 = false) (orderly : Orderly floor) (tidy : Tidy terms floor)
    {front back : List Task} {message : Message} {rest : List Message} (clock : Agenda.Clock)
    (whole : floor.tasks = front ++ .job (.handle id) :: back)
    (left : floor.traffic.stepsOf id (front ++ back) = [])
    (inbox : session.inbox = message :: rest)
    (nobody : ∀ request, floor.traffic.asked? id request = none) {request : Request}
    (asks : ((session.begun message rest).handle clock floor.traffic.coordinator.turnstiles
      message).progress = .asking request) :
    ∃ next, Follows terms id chunks floor session
      (floor.put (front ++ back)
        ((floor.traffic.handling clock id (session.begun message rest) message).submitFor id
          { device := message.device, request := request, origin := .device })) next [message]
      [] := by
  have command : message.command = .accessRequest :=
    (Session.handle_asking _ clock floor.traffic.coordinator.turnstiles message asks).1
  have asking : message.asks = true := decide_eq_true command
  have codec_eq : (session.begun message rest).codec = terms.codec := attends.codec_eq
  have reliable : (session.begun message rest).failingWrites = [] := attends.reliable
  rw [← codec_eq] at room
  rcases Session.handle_replies clock floor.traffic.coordinator.turnstiles message reliable room
      command with ⟨alike, ⟨content, readable, passes, silent⟩ | ⟨ends, _⟩⟩
  · cases asks.symm.trans passes
    have known := attends.session?_handling clock (session.begun message rest) message
    have written := writtenBy_handling clock floor id (session.begun message rest) message
    rw [silent, List.append_nil] at written
    -- From here on the message is handled, and what is left is the request that it leads to.
    generalize handling : floor.traffic.handling clock id (session.begun message rest) message =
      traffic at known written ⊢
    have numbered : traffic.Numbered := handling ▸ tidy.numbered
    have fresh : traffic.coordinator.visit? traffic.requests = none :=
      handling ▸ orderly.queued.fresh.1
    have unasked : ∀ request, traffic.asked? id request = none := handling ▸ nobody
    have unready : traffic.stepsOf id (front ++ back) = [] := handling ▸ left
    have old : ∀ request result, Task.job (.answered request result) ∈ front ++ back →
        request < traffic.requests := by
      intro request result member
      have before := tidy.answered request result (Floor.mem_of_mem_rest whole _ member)
      rw [← handling]
      exact before
    have books := attends.begun inbox
    rw [asking, if_pos rfl, ← written] at books
    generalize visits : ({ device := message.device, request := request, origin := .device } :
      Visit) = visit
    have device : visit.device = message.device := visits ▸ rfl
    have content : Request.ofMessage message = .ok visit.request := visits ▸ readable
    have asked (other : RequestId) : (traffic.submitFor id visit).1.asked? id other =
        if other = traffic.requests then some visit else none := by
      rw [Traffic.asked?_submitFor numbered fresh, unasked]
    have steps : (traffic.submitFor id visit).1.stepsOf id ((front ++ back) ++
        (traffic.submitFor id visit).2.map fun entry => Task.job entry.2) = [] := by
      rw [Traffic.stepsOf_append, Traffic.stepsOf_submitFor old, unready,
        traffic.stepsOf_called visit]
      rfl
    -- The request is new, so nothing was decided about it, and no decision was about it before.
    have requests : traffic.requests = floor.traffic.requests := handling ▸ rfl
    have unknown : floor.outcomesFor traffic.requests = [] :=
      Floor.outcomesFor_eq_nil fun entry member =>
        requests ▸ Nat.ne_of_lt (tidy.came entry member)
    have phase : Phase terms id ((traffic.submitFor id visit).1.asked? id) floor.outcomesFor
        (session.begun message rest).current (session.begun message rest).inbox [] [message]
        (floor.outcomesFor traffic.requests) :=
      .asking asking ((asked _).trans (if_pos rfl)) device content
        fun other different => (asked other).trans (if_neg different)
    rw [unknown, ← steps, ← alike.current, ← alike.inbox] at phase
    have outcomes : (floor.put (front ++ back) (traffic.submitFor id visit)).outcomesOf id =
        floor.outcomesOf id :=
      tidy.outcomesOf_submitFor requests (handling ▸ rfl) visit (front ++ back)
    have account (opened : (Session.handle _ clock floor.traffic.coordinator.turnstiles
        message).session.closed = false) :=
      (books (alike.closed.symm.trans opened)).alike alike
    have silence : Writes terms.codec session (floor.traffic.writtenBy id)
        (traffic.writtenBy id) := by
      rw [written]
      exact .silent
    exact ⟨_, ⟨known, alike.codec.trans codec_eq, alike.failingWrites.trans reliable, phase,
      fun opened => ⟨_, outcomes.trans (List.append_nil _).symm, account opened⟩⟩,
      fun shut => alike.closed.trans shut, silence⟩
  · exact absurd asks (ends request)

theorem handle (attends : Attends terms id chunks floor session owed untold)
    (room : terms.codec.exceeds 64 = false) (orderly : Orderly floor) (tidy : Tidy terms floor)
    {front back : List Task} (clock : Agenda.Clock)
    (whole : floor.tasks = front ++ .job (.handle id) :: back) :
    ∃ next owed, Follows terms id chunks floor session
      (floor.put (front ++ back) (floor.traffic.handle clock id)) next owed [] := by
  have mine : Task.session? floor.traffic.askers (.job (.handle id)) = some id := rfl
  rcases attends.phase.of_handle (mem_stepsOf whole mine) with
    ⟨single, idle, rfl, rfl, ⟨message, rest, inbox⟩, nobody⟩
  have left := stepsOf_rest whole mine single
  rcases floor.traffic.handle_outcome clock attends.known (Session.next?_eq inbox) with
    ⟨ends, fault, ended⟩ | ⟨request, asks, passes⟩
  · rw [ended]
    rcases attends.handle_ended room clock left idle inbox nobody ends fault with ⟨next, follows⟩
    exact ⟨next, [], follows⟩
  · rw [passes]
    rcases attends.handle_asking room orderly tidy clock whole left inbox nobody asks with
      ⟨next, follows⟩
    exact ⟨next, [message], follows⟩

end Attends

end Gatehouse
