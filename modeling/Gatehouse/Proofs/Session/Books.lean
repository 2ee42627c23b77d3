import Gatehouse.Proofs.Frame.Drain
import Gatehouse.Proofs.Session.Answers
import Mathlib.Data.List.Forall2

/-!
# The books of a session

Bytes that come in are decoded, and the messages in them wait. `Session.Takes` says what becomes of
the session; nothing is written by it (`receive_spec`).

While a session is open, the requests in the bytes that came in are those that it has answered, one
frame each and in their order, followed by those that wait: `Books`. `Terms.Answered` says what the
frames are: a denial where a request could not be read, and the outcomes of the decisions about the
others, one after another. Taking bytes in, taking up the next message and answering keep the books.
-/

namespace Gatehouse

open Access

def Frame.Decoded.message? : Frame.Decoded → Option Message
  | .frame message _ _ => some message
  | _ => none

namespace Session

variable {session : Session}

/-- What a session becomes by taking messages in. A session that closes itself on the way leaves out
the rest. -/
structure Takes (before after : Session) (messages : List Message) : Prop where
  codec : after.codec = before.codec
  failingWrites : after.failingWrites = before.failingWrites
  current : after.current = before.current
  opened : after.closed = false → before.closed = false
  inbox : ∃ more, after.inbox = before.inbox ++ more ∧ (after.closed = false → more = messages)
  buffer : after.closed = false → after.buffer = before.buffer

theorem Takes.nothing (session : Session) : session.Takes session [] :=
  ⟨rfl, rfl, rfl, id, ⟨[], (List.append_nil _).symm, fun _ => rfl⟩, fun _ => rfl⟩

theorem Takes.trans {before middle after : Session} {first later : List Message}
    (taken : before.Takes middle first) (more : middle.Takes after later) :
    before.Takes after (first ++ later) := by
  rcases taken.inbox with ⟨some, inbox, whole⟩
  rcases more.inbox with ⟨others, last, rest⟩
  constructor
  case codec => exact more.codec.trans taken.codec
  case failingWrites => exact more.failingWrites.trans taken.failingWrites
  case current => exact more.current.trans taken.current
  case opened => exact fun opened => taken.opened (more.opened opened)
  case inbox =>
    refine ⟨some ++ others, ?_, fun opened => ?_⟩
    · rw [last, inbox, List.append_assoc]
    · rw [whole (more.opened opened), rest opened]
  case buffer => exact fun opened => (more.buffer opened).trans (taken.buffer (more.opened opened))

theorem take_spec (session : Session) (decoded : Frame.Decoded) :
    session.Takes (session.take decoded).1 decoded.message?.toList ∧
      written (session.take decoded).2 = [] := by
  have counted : ∃ stats notices, session.countSkipped decoded.skipped =
      ({ session with stats := stats }, notices) ∧ written notices = [] := by
    unfold countSkipped
    split
    · exact ⟨session.stats, [], rfl, rfl⟩
    · exact ⟨_, _, rfl, rfl⟩
  rcases counted with ⟨stats, notices, counted, quiet⟩
  have none_more : session.inbox = session.inbox ++ [] := (List.append_nil _).symm
  unfold take
  rw [counted]
  cases decoded with
  | pending skipped =>
      exact ⟨⟨rfl, rfl, rfl, id, ⟨[], none_more, fun _ => rfl⟩, fun _ => rfl⟩, quiet⟩
  | frame message size skipped =>
      exact ⟨⟨rfl, rfl, rfl, id, ⟨[message], rfl, fun _ => rfl⟩, fun _ => rfl⟩, quiet⟩
  | failed fault skipped =>
      dsimp only
      unfold countError
      dsimp only
      split
      · refine ⟨⟨rfl, rfl, rfl, ?_, ⟨[], none_more, fun _ => rfl⟩, ?_⟩, ?_⟩
        · intro opened
          cases opened
        · intro opened
          cases opened
        · rw [written_append, quiet]
          rfl
      · refine ⟨⟨rfl, rfl, rfl, id, ⟨[], none_more, fun _ => rfl⟩, fun _ => rfl⟩, ?_⟩
        rw [written_append, quiet]
        rfl

theorem takeAll_of_closed (shut : session.closed = true) (decoded : List Frame.Decoded) :
    session.takeAll decoded = (session, []) := by
  cases decoded with
  | nil => rfl
  | cons first rest => exact if_pos shut

theorem takeAll_of_open (opened : session.closed = false) (first : Frame.Decoded)
    (rest : List Frame.Decoded) :
    session.takeAll (first :: rest) =
      (((session.take first).1.takeAll rest).1,
        (session.take first).2 ++ ((session.take first).1.takeAll rest).2) := by
  apply if_neg
  rw [opened]
  exact Bool.false_ne_true

theorem Takes.of_closed (shut : session.closed = true) (left : Frame.Buffer)
    (messages : List Message) : Takes { session with buffer := left } session messages := by
  have closed (opened : session.closed = false) {conclusion : Prop} : conclusion := by
    rw [shut] at opened
    cases opened
  exact ⟨rfl, rfl, rfl, fun opened => closed opened,
    ⟨[], (List.append_nil _).symm, fun opened => closed opened⟩, fun opened => closed opened⟩

theorem takeAll_spec (session : Session) (decoded : List Frame.Decoded) :
    session.Takes (session.takeAll decoded).1 (decoded.filterMap Frame.Decoded.message?) ∧
      written (session.takeAll decoded).2 = [] := by
  induction decoded generalizing session with
  | nil => exact ⟨.nothing session, rfl⟩
  | cons first rest induction =>
      cases standing : session.closed with
      | true =>
          rw [takeAll_of_closed standing]
          exact ⟨.of_closed standing session.buffer _, rfl⟩
      | false =>
          rcases session.take_spec first with ⟨taking, quiet⟩
          rcases induction (session.take first).1 with ⟨later, still⟩
          have messages : (first :: rest).filterMap Frame.Decoded.message? =
              first.message?.toList ++ rest.filterMap Frame.Decoded.message? := by
            rw [List.filterMap_cons]
            cases first.message? <;> rfl
          rw [takeAll_of_open standing, messages]
          refine ⟨taking.trans later, ?_⟩
          rw [written_append, quiet, still]
          rfl

theorem receive_spec (session : Session) (chunk : Bytes) :
    Takes { session with buffer := (session.codec.drain (session.buffer.append chunk)).2 }
        (session.receive chunk).1
        ((session.codec.drain (session.buffer.append chunk)).1.filterMap
          Frame.Decoded.message?) ∧
      written (session.receive chunk).2 = [] := by
  unfold receive
  split
  · next shut => exact ⟨.of_closed shut _ _, rfl⟩
  · exact takeAll_spec _ _

end Session

def Message.asks (message : Message) : Bool :=
  message.command = .accessRequest

/-- The requests in the frames of a stream that comes in chunks. -/
def Frame.Codec.requests (codec : Frame.Codec) (chunks : List Bytes) : List Message :=
  ((codec.drainEach .empty chunks).1.filterMap Frame.Decoded.message?).filter Message.asks

/-- Bytes are an answer to a request. -/
def Frame.Codec.AnswersTo (codec : Frame.Codec) (request : Message) (bytes : Bytes) : Prop :=
  codec.Answers request.device bytes

/-- The decision that an outcome comes to: one that failed is a plain denial. -/
def Access.Decision.ofOutcome : Except Fault Decision → Decision
  | .ok decision => decision
  | .error _ => .failure .validationError

/-- The terms on which sessions answer: how frames are written, how long lines are shown, and
whether no announcement fails. -/
structure Terms where
  codec : Frame.Codec
  seconds : DisplaySeconds
  heard : Prop

namespace Terms

variable {terms : Terms} {message : Message} {outcomes : List (Except Fault Decision)}
  {bytes : Bytes}

/-- Bytes tell the outcome of a decision: they are the frame of its response, or of a plain denial
where that cannot be sent or an announcement may fail. -/
inductive Tells (terms : Terms) (device : Device) (outcome : Except Fault Decision)
    (bytes : Bytes) : Prop
  | response : terms.codec.encode
        ((Decision.ofOutcome outcome).response device terms.seconds) = .ok bytes →
      Tells terms device outcome bytes
  | denial : ((∃ fault, terms.codec.encode
        ((Decision.ofOutcome outcome).response device terms.seconds) = .error fault) ∨
          ¬terms.heard) →
      terms.codec.Denies .validationError device bytes → Tells terms device outcome bytes

/-- Bytes answer a request, which is denied if it cannot be read. Beside them stands the outcome
that they tell. -/
inductive AnswersWith (terms : Terms) (message : Message) :
    List (Except Fault Decision) → Bytes → Prop
  | unreadable {fault : Fault} {bytes : Bytes} : Request.ofMessage message = .error fault →
      terms.codec.Denies .malformedRequest message.device bytes →
      AnswersWith terms message [] bytes
  | told {request : Request} {outcome : Except Fault Decision} {bytes : Bytes} :
      Request.ofMessage message = .ok request → terms.Tells message.device outcome bytes →
      AnswersWith terms message [outcome] bytes

/-- Frames answer requests one after another, and tell outcomes one after another. -/
inductive Answered (terms : Terms) :
    List Message → List (Except Fault Decision) → List Bytes → Prop
  | none : Answered terms [] [] []
  | more {messages : List Message} {told : List (Except Fault Decision)} {frames : List Bytes}
      {message : Message} {outcomes : List (Except Fault Decision)} {bytes : Bytes} :
      Answered terms messages told frames → terms.AnswersWith message outcomes bytes →
      Answered terms (messages ++ [message]) (told ++ outcomes) (frames ++ [bytes])

theorem AnswersWith.answersTo (answers : terms.AnswersWith message outcomes bytes) :
    terms.codec.AnswersTo message bytes := by
  cases answers with
  | unreadable _ denies => exact ⟨_, Decision.decides_response .., denies⟩
  | told _ tells =>
      cases tells with
      | response fits => exact ⟨_, Decision.decides_response .., fits⟩
      | denial _ denies => exact ⟨_, Decision.decides_response .., denies⟩

theorem Answered.answersTo {messages : List Message} {told : List (Except Fault Decision)}
    {frames : List Bytes} (answered : terms.Answered messages told frames) :
    List.Forall₂ terms.codec.AnswersTo messages frames := by
  induction answered with
  | none => exact .nil
  | more _ answers before => exact List.rel_append before (.cons answers.answersTo .nil)

end Terms

/-- The account of an open session: all bytes are taken in, and the requests in them are those that
were answered, by which some outcomes were told, followed by those that were not. -/
structure Books (terms : Terms) (chunks : List Bytes) (session : Session) (owed : List Message)
    (told : List (Except Fault Decision)) (written : List Bytes) : Prop where
  buffer : session.buffer = (terms.codec.drainEach .empty chunks).2
  answered : ∃ answered,
    terms.codec.requests chunks = answered ++ (owed ++ session.inbox.filter Message.asks) ∧
      terms.Answered answered told written

def Session.HasAtHand (session : Session) (message : Message) : Prop :=
  session.current = some message ∨ session.current = none ∧ session.inbox.head? = some message

/-- What a session may write in one move: nothing, or when it is open the answer to the request at
hand. -/
inductive Writes (codec : Frame.Codec) (session : Session) (before : List Bytes) :
    List Bytes → Prop
  | silent : Writes codec session before before
  | answers {message : Message} {bytes : Bytes} : session.closed = false →
      session.HasAtHand message → message.asks = true → codec.AnswersTo message bytes →
      Writes codec session before (before ++ [bytes])

variable {terms : Terms} {chunks : List Bytes} {session : Session} {owed : List Message}
  {told : List (Except Fault Decision)} {written : List Bytes}

theorem Frame.Codec.requests_concat (codec : Frame.Codec) (chunks : List Bytes) (chunk : Bytes) :
    codec.requests (chunks ++ [chunk]) =
      codec.requests chunks ++
        ((codec.drain ((codec.drainEach .empty chunks).2.append chunk)).1.filterMap
          Frame.Decoded.message?).filter Message.asks := by
  unfold requests
  rw [drainEach_concat, List.filterMap_append, List.filter_append]

theorem Books.takes (books : Books terms chunks session owed told written)
    (codec_eq : session.codec = terms.codec) {chunk : Bytes} {next : Session}
    (takes : Session.Takes
      { session with buffer := (session.codec.drain (session.buffer.append chunk)).2 } next
      ((session.codec.drain (session.buffer.append chunk)).1.filterMap Frame.Decoded.message?))
    (opened : next.closed = false) :
    Books terms (chunks ++ [chunk]) next owed told written := by
  rcases books.answered with ⟨answered, requests, answers⟩
  rcases takes.inbox with ⟨more, inbox, whole⟩
  have messages := whole opened
  rw [codec_eq, books.buffer] at messages
  constructor
  case buffer =>
    rw [takes.buffer opened, Frame.Codec.drainEach_concat, codec_eq, books.buffer]
  case answered =>
    refine ⟨answered, ?_, answers⟩
    rw [terms.codec.requests_concat, requests, inbox, messages, List.filter_append]
    simp only [List.append_assoc]

section

variable {message : Message} {outcomes : List (Except Fault Decision)} {next : Session}

theorem Books.answers {bytes : Bytes}
    (books : Books terms chunks session [message] told written) (alike : session.Alike next)
    (answers : terms.AnswersWith message outcomes bytes) :
    Books terms chunks next [] (told ++ outcomes) (written ++ [bytes]) := by
  rcases books.answered with ⟨answered, requests, before⟩
  constructor
  case buffer => exact alike.buffer.trans books.buffer
  case answered =>
    refine ⟨answered ++ [message], ?_, before.more answers⟩
    rw [requests, alike.inbox, List.append_assoc, List.nil_append]

theorem Books.replies {bytes : List Bytes}
    (books : Books terms chunks session [message] told written)
    (replies : session.Replies (terms.AnswersWith message outcomes) bytes)
    (alike : session.Alike next) (opened : next.closed = false) :
    Books terms chunks next [] (told ++ outcomes) (written ++ bytes) := by
  rw [alike.closed] at opened
  cases replies with
  | silent shut =>
      rw [shut] at opened
      cases opened
  | answered still answers => exact books.answers alike answers

theorem Writes.of_replies {begun : Session} {bytes : List Bytes}
    (replies : begun.Replies (terms.AnswersWith message outcomes) bytes)
    (closed : begun.closed = session.closed) (at_hand : session.HasAtHand message)
    (asks : message.asks = true) (before : List Bytes) :
    Writes terms.codec session before (before ++ bytes) := by
  cases replies with
  | silent shut =>
      rw [List.append_nil]
      exact .silent
  | answered opened answers =>
      exact .answers (closed.symm.trans opened) at_hand asks answers.answersTo

end

/-- The session with its next message taken up. -/
def Session.begun (session : Session) (message : Message) (rest : List Message) : Session :=
  { session with inbox := rest, current := some message }

theorem Session.next?_eq {message : Message} {rest : List Message}
    (inbox : session.inbox = message :: rest) :
    session.next? = some (message, session.begun message rest) := by
  unfold Session.next?
  rw [inbox]
  rfl

theorem Books.begun {message : Message} {rest : List Message}
    (books : Books terms chunks session [] told written)
    (inbox : session.inbox = message :: rest) :
    Books terms chunks (session.begun message rest) (if message.asks then [message] else []) told
      written := by
  rcases books.answered with ⟨answered, requests, answers⟩
  refine ⟨books.buffer, answered, ?_, answers⟩
  rw [requests, inbox, List.filter_cons]
  split <;> rfl

theorem Books.alike {next : Session} (books : Books terms chunks session owed told written)
    (alike : session.Alike next) : Books terms chunks next owed told written := by
  rcases books.answered with ⟨answered, requests, answers⟩
  refine ⟨alike.buffer.trans books.buffer, answered, ?_, answers⟩
  rw [requests, alike.inbox]

end Gatehouse
