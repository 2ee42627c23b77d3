import Gatehouse.Proofs.Session.Chunks

/-!
# The course of a session

Bytes reach a session while it handles what came before. Handling leaves alone all that taking in
bytes counts on (`Aside`), so what a session has taken in is what a session that never answers would
have taken from the same chunks (`follows_playAll`), and therefore the same for every cut of the
stream (`intake_regardless_of_cuts`).
-/

namespace Gatehouse.Session

open Access Gatehouse.Frame

/-- What is done to a session: bytes come in, the next message is taken up, a message is handled,
the outcome of a request becomes known, a message has been handled. -/
inductive Act where
  | receive (chunk : Bytes)
  | begin
  | handle (clock : Agenda.Clock) (turnstiles : Turnstile.Controller) (message : Message)
  | answer (device : Device) (result : Except Fault Message)
  | finish (fault : Option Fault)

def Act.chunk? : Act → Option Bytes
  | .receive chunk => some chunk
  | _ => none

def chunksOf (acts : List Act) : List Bytes :=
  acts.filterMap Act.chunk?

/-- A session with the messages it has taken up and all that it has done. -/
structure Course where
  session : Session
  begun : List Message
  effects : List SessionEffect

/-- What a session has taken in: the messages in their order, and what was counted. -/
structure Intake where
  messages : List Message
  framesReceived : Nat
  protocolErrors : Nat
  skippedBytes : Nat
  closed : Bool
  deriving DecidableEq

namespace Course

def opening (first : Session) : Course :=
  { session := first, begun := [], effects := [] }

def intake (course : Course) : Intake :=
  { messages := course.begun ++ course.session.inbox
    framesReceived := course.session.stats.framesReceived
    protocolErrors := course.session.stats.protocolErrors
    skippedBytes := course.session.stats.skippedBytes
    closed := course.session.closed }

def goOn (course : Course) (session : Session) (effects : List SessionEffect) : Course :=
  { course with session := session, effects := course.effects ++ effects }

def play (course : Course) : Act → Course
  | .receive chunk =>
      course.goOn (course.session.receive chunk).1 (course.session.receive chunk).2
  | .begin =>
      match course.session.next? with
      | some (message, session) =>
          { course with session := session, begun := course.begun ++ [message] }
      | none => course
  | .handle clock turnstiles message =>
      let handled := course.session.handle clock turnstiles message
      course.goOn handled.session handled.effects
  | .answer device result =>
      let sent := course.session.answer device result
      course.goOn sent.session sent.effects
  | .finish fault => course.goOn (course.session.finish fault).1 (course.session.finish fault).2

def playAll (course : Course) (acts : List Act) : Course :=
  acts.foldl play course

end Course

structure Aside (before after : Session) (effects : List SessionEffect) : Prop where
  bare : ∀ begun, after.bare begun = before.bare begun
  buffer : after.buffer = before.buffer
  closings : closings effects = []

theorem Aside.refl (session : Session) : session.Aside session [] :=
  ⟨fun _ => rfl, rfl, rfl⟩

theorem Aside.trans {before middle after : Session} {first later : List SessionEffect}
    (aside : before.Aside middle first) (more : middle.Aside after later) :
    before.Aside after (first ++ later) where
  bare begun := (more.bare begun).trans (aside.bare begun)
  buffer := more.buffer.trans aside.buffer
  closings := by rw [closings_append, aside.closings, more.closings, List.append_nil]

theorem aside_send (session : Session) (message : Message) :
    session.Aside (session.send message).session (session.send message).effects := by
  simp only [send]
  split
  · exact .refl session
  · split
    · exact .refl session
    · split <;> exact ⟨fun _ => rfl, rfl, rfl⟩

theorem aside_sendDenial (session : Session) (device : Device) (reason : Denial) :
    session.Aside (session.sendDenial device reason).session
      (session.sendDenial device reason).effects :=
  session.aside_send _

theorem Aside.noting {before after : Session} {effects : List SessionEffect}
    (aside : before.Aside after effects) (notice : Notice) :
    before.Aside after (.note notice :: effects) :=
  ⟨aside.bare, aside.buffer, aside.closings⟩

theorem aside_answer (session : Session) (device : Device) (result : Except Fault Message) :
    session.Aside (session.answer device result).session
      (session.answer device result).effects := by
  simp only [answer]
  cases result with
  | error fault =>
      have denied := session.aside_sendDenial device .validationError
      exact denied.noting .requestFailed
  | ok response =>
      have sent := session.aside_send response
      split
      · exact sent
      · have denied := (session.send response).session.aside_sendDenial device .validationError
        exact sent.trans (denied.noting .requestFailed)

theorem aside_handle (session : Session) (clock : Agenda.Clock) (turnstiles : Turnstile.Controller)
    (message : Message) :
    session.Aside (session.handle clock turnstiles message).session
      (session.handle clock turnstiles message).effects := by
  have quiet := Aside.refl session
  simp only [handle]
  split
  · simp only [handleRequest]
    split
    · exact quiet
    · exact (session.aside_sendDenial _ _).noting .requestMalformed
  · split
    · exact (quiet.noting _).noting _
    · split
      · exact quiet.noting .managementReceived
      · exact quiet.noting .decisionIgnored

theorem aside_finish (session : Session) (fault : Option Fault) :
    session.Aside (session.finish fault).1 (session.finish fault).2 := by
  cases fault <;> exact ⟨fun _ => rfl, rfl, rfl⟩

def taken (first : Session) (chunks : List Bytes) : Session × List SessionEffect :=
  (first.bare []).takeAll (first.codec.drainEach first.buffer chunks).1

/-- What a chunk adds to what came before. -/
def found (first : Session) (chunks : List Bytes) (chunk : Bytes) : List Decoded :=
  (first.codec.drain ((first.codec.drainEach first.buffer chunks).2.append chunk)).1

theorem taken_concat (first : Session) (chunks : List Bytes) (chunk : Bytes) :
    first.taken (chunks ++ [chunk]) =
      (((first.taken chunks).1.takeAll (first.found chunks chunk)).1,
        (first.taken chunks).2 ++
          ((first.taken chunks).1.takeAll (first.found chunks chunk)).2) := by
  rw [taken, Codec.drainEach_concat, takeAll_append]
  rfl

theorem taken_of_closed {first : Session} {chunks : List Bytes}
    (shut : (first.taken chunks).1.closed = true) (more : List Bytes) :
    first.taken (chunks ++ more) = first.taken chunks := by
  induction more generalizing chunks with
  | nil => rw [List.append_nil]
  | cons chunk rest induction =>
      have still : first.taken (chunks ++ [chunk]) = first.taken chunks := by
        rw [taken_concat, takeAll_of_closed shut, List.append_nil]
      rw [← List.singleton_append, ← List.append_assoc, induction (by rwa [still]), still]

structure Follows (first : Session) (chunks : List Bytes) (course : Course) : Prop where
  bare : course.session.bare course.begun = (first.taken chunks).1
  closings : closings course.effects = closings (first.taken chunks).2
  buffer : course.session.closed = false →
    course.session.buffer = (first.codec.drainEach first.buffer chunks).2

namespace Follows

variable {first : Session} {chunks : List Bytes} {course : Course}

theorem opening (first : Session) : Follows first [] (.opening first) :=
  ⟨rfl, rfl, fun _ => rfl⟩

theorem closed_eq (follows : Follows first chunks course) :
    course.session.closed = (first.taken chunks).1.closed := by
  rw [← follows.bare]
  rfl

theorem codec_eq (follows : Follows first chunks course) : course.session.codec = first.codec := by
  have same : (first.taken chunks).1.codec = first.codec := (takeAll_spec _ _).1.codec
  rw [← same, ← follows.bare]
  rfl

theorem aside (follows : Follows first chunks course) {after : Session}
    {effects : List SessionEffect} (untouched : course.session.Aside after effects) :
    Follows first chunks (course.goOn after effects) where
  bare := (untouched.bare course.begun).trans follows.bare
  closings := by
    rw [Course.goOn, closings_append, untouched.closings, List.append_nil]
    exact follows.closings
  buffer opened := by
    have same : (after.bare []).closed = (course.session.bare []).closed := by
      rw [untouched.bare]
    exact untouched.buffer.trans (follows.buffer (same.symm.trans opened))

theorem begin (follows : Follows first chunks course) :
    Follows first chunks (course.play .begin) := by
  simp only [Course.play, next?]
  cases waiting : course.session.inbox with
  | nil => exact follows
  | cons message rest =>
      have same := follows.bare
      simp only [Session.bare, waiting] at same
      refine ⟨?_, follows.closings, follows.buffer⟩
      simpa [Session.bare] using same

theorem receive (follows : Follows first chunks course) (chunk : Bytes) :
    Follows first (chunks ++ [chunk]) (course.play (.receive chunk)) := by
  have concat := first.taken_concat chunks chunk
  simp only [Course.play, Course.goOn]
  cases shut : course.session.closed with
  | true =>
      have nothing : course.session.receive chunk = (course.session, []) := if_pos shut
      rw [takeAll_of_closed (follows.closed_eq.symm.trans shut), List.append_nil] at concat
      rw [nothing, List.append_nil]
      refine ⟨?_, ?_, fun opened => ?_⟩
      · rw [concat, ← follows.bare]
      · rw [concat, ← follows.closings]
      · exact absurd opened (by simp [shut])
  | false =>
      have cut := first.codec.drainEach_concat first.buffer chunks chunk
      have drained :
          first.codec.drain ((first.codec.drainEach first.buffer chunks).2.append chunk) =
          course.session.codec.drain (course.session.buffer.append chunk) := by
        rw [follows.codec_eq, follows.buffer shut]
      have erased := receive_bare shut course.begun chunk
      rw [follows.bare, ← drained, ← found] at erased
      refine ⟨?_, ?_, fun opened => ?_⟩
      · rw [concat, erased]
      · rw [concat, erased, closings_append, closings_append, follows.closings]
      · rw [cut, drained]
        exact (course.session.receive_spec chunk).1.buffer opened

theorem quiet (follows : Follows first chunks course) {act : Act} (quiet : act.chunk? = none) :
    Follows first chunks (course.play act) := by
  cases act with
  | receive chunk => cases quiet
  | begin => exact follows.begin
  | handle clock turnstiles message => exact follows.aside (aside_handle ..)
  | answer device result => exact follows.aside (aside_answer ..)
  | finish fault => exact follows.aside (aside_finish ..)

theorem playAll (follows : Follows first chunks course) (acts : List Act) :
    Follows first (chunks ++ chunksOf acts) (course.playAll acts) := by
  induction acts generalizing chunks course with
  | nil =>
      rw [chunksOf, List.filterMap_nil, List.append_nil]
      exact follows
  | cons act rest induction =>
      cases comes : act.chunk? with
      | none =>
          rw [chunksOf, List.filterMap_cons_none comes]
          exact induction (follows.quiet comes)
      | some chunk =>
          rw [chunksOf, List.filterMap_cons_some comes, ← List.singleton_append,
            ← List.append_assoc]
          cases act with
          | receive bytes =>
              cases comes
              exact induction (follows.receive chunk)
          | _ => cases comes

end Follows

/-- A session that has received nothing takes in the same wherever a stream within the limit is
cut. -/
theorem taken_start (codec : Codec) (maxErrors : Number) (failingWrites : List Nat)
    {chunks : List Bytes} (within : codec.KeepsWithin chunks.flatten) :
    ((start codec maxErrors failingWrites).taken chunks).1 =
      ((start codec maxErrors failingWrites).takeAll
        (codec.drain (Buffer.empty.append chunks.flatten)).1).1 := by
  cases chunks with
  | nil => rfl
  | cons chunk rest => exact takeAll_drainEach _ within

theorem Follows.intake_eq {first : Session} {chunks : List Bytes} {course : Course}
    (follows : Follows first chunks course) :
    course.intake = (Course.opening (first.taken chunks).1).intake := by
  rw [← follows.bare]
  rfl

theorem follows_opening (first : Session) (acts : List Act) :
    Follows first (chunksOf acts) ((Course.opening first).playAll acts) := by
  simpa using (Follows.opening first).playAll acts

/-- Wherever a stream within the limit is cut, and whatever is answered in between, a session takes
in the same messages in the same order and counts the same frames, errors and dropped bytes. It
closes itself, once, just where so many frames are refused in a row as it puts up with, and takes in
nothing after that. -/
theorem intake_regardless_of_cuts (codec : Codec) {maxErrors : Number}
    (positive : Number.le (.ofNat 1) maxErrors = true) (failingWrites : List Nat)
    {acts others : List Act} (within : codec.KeepsWithin (chunksOf acts).flatten)
    (same : (chunksOf others).flatten = (chunksOf acts).flatten) (more : List Act) :
    let fresh := Course.opening (start codec maxErrors failingWrites)
    (fresh.playAll others).intake = (fresh.playAll acts).intake ∧
      ((fresh.playAll acts).intake.closed = true ↔
        ∃ count, maxErrors.le (.ofNat count) = true ∧
          RefusesInARow (codec.drainEach .empty (chunksOf acts)).1 count) ∧
      closings (fresh.playAll acts).effects =
        (if (fresh.playAll acts).intake.closed then [closingReason] else []) ∧
      ((fresh.playAll acts).intake.closed = true →
        (fresh.playAll (acts ++ more)).intake = (fresh.playAll acts).intake ∧
          closings (fresh.playAll (acts ++ more)).effects = [closingReason]) := by
  intro fresh
  have follows (acts : List Act) := follows_opening (start codec maxErrors failingWrites) acts
  have below := Number.le_ofNat_zero positive
  have opened : (start codec maxErrors failingWrites).closed = false := rfl
  rcases takeAll_closes opened below (codec.drainEach .empty (chunksOf acts)).1 with
    ⟨closes, once⟩
  have shut : (fresh.playAll acts).intake.closed = maxErrors.le
      (.ofNat (longestRefusal 0 (codec.drainEach .empty (chunksOf acts)).1)) :=
    (follows acts).closed_eq.trans closes
  have closing : closings (fresh.playAll acts).effects =
      if (fresh.playAll acts).intake.closed then [closingReason] else [] := by
    rw [(follows acts).closings, (follows acts).intake_eq]
    exact once
  refine ⟨?regardless, ?exactly, closing, ?nothing⟩
  case regardless =>
    rw [(follows others).intake_eq, (follows acts).intake_eq, taken_start _ _ _ within,
      taken_start _ _ _ (same ▸ within), same]
  case exactly =>
    rw [shut]
    constructor
    · exact fun reached => ⟨_, reached, refusesInARow_longestRefusal _⟩
    · rintro ⟨count, reached, refuses⟩
      exact Number.le_ofNat_mono reached (le_longestRefusal refuses)
  case nothing =>
    intro closed
    have still : (start codec maxErrors failingWrites).taken (chunksOf (acts ++ more)) =
        (start codec maxErrors failingWrites).taken (chunksOf acts) := by
      rw [chunksOf, List.filterMap_append]
      exact taken_of_closed ((follows acts).closed_eq.symm.trans closed) _
    rw [(follows (acts ++ more)).intake_eq, (follows (acts ++ more)).closings, still,
      ← (follows acts).intake_eq, ← (follows acts).closings, closing, if_pos closed]
    exact ⟨rfl, rfl⟩

/-- What reader 5 sends when a rotation is completed: its address, the command and the check. -/
def completedFrame : Bytes :=
  [2, 48, 53, 43, 82, 69, 79, 78, 43, 48, 48, 48, 43, 56, 49, 48, 49, 3]

/-- A good frame comes between the first refused frame and the next two, which close the session.
The stream is cut in two ways. -/
theorem intake_regardless_of_cuts_two_refused :
    let codec : Codec := ⟨.xor8, defaultMaxSize⟩
    let acts : List Act := [.receive ([9, 2, 65, 3] ++ completedFrame.take 6),
      .receive (completedFrame.drop 6 ++ [2, 65, 3, 2]), .begin, .receive [65, 3]]
    let others : List Act :=
      [.receive [9, 2, 65], .receive ([3] ++ completedFrame), .receive [2, 65, 3, 2, 65, 3]]
    let fresh := Course.opening (start codec (.finite 2) [])
    let taken : Intake :=
      { messages := [⟨⟨5, by decide⟩, .rotationCompleted, []⟩], framesReceived := 1
        protocolErrors := 3, skippedBytes := 1, closed := true }
    (Number.le (.ofNat 1) (.finite 2) = true ∧ codec.KeepsWithin (chunksOf acts).flatten ∧
        (chunksOf others).flatten = (chunksOf acts).flatten) ∧
      (fresh.playAll acts).intake = taken ∧ (fresh.playAll others).intake = taken ∧
      closings (fresh.playAll (acts ++ [.receive completedFrame])).effects = [closingReason] := by
  intro codec acts others fresh taken
  have positive : Number.le (.ofNat 1) (.finite 2) = true := by decide +kernel
  have within : codec.KeepsWithin (chunksOf acts).flatten := by decide +kernel
  have found : (fresh.playAll acts).intake = taken := by decide +kernel
  have same : (chunksOf others).flatten = (chunksOf acts).flatten := by decide +kernel
  rcases intake_regardless_of_cuts codec positive [] within same [.receive completedFrame] with
    ⟨regardless, -, -, nothing⟩
  have closed : (fresh.playAll acts).intake.closed = true := by rw [found]
  exact ⟨⟨positive, within, same⟩, found, regardless.trans found, (nothing closed).2⟩

end Gatehouse.Session
