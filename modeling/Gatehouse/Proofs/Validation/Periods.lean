import Gatehouse.Proofs.Register.Seeded
import Gatehouse.Proofs.Validation.Affairs
import Gatehouse.Proofs.Validation.Requirements

/-!
# Nobody gets in outside of a period

A call that comes to the lock of its user has found the user, and the card if it was made with one,
within their periods at the moment when it began. So it is with every call that is granted, however
the calls follow each other: `Proceedings.inPeriod_of_granted`. With what a seed states of the
periods this gives `Proceedings.granted_within_stated`.
-/

namespace Gatehouse.Validation

open Gatehouse.Access Gatehouse.Register

namespace Offline

def CardInPeriod (memory : Memory) (request : Request) (started : Time.Instant) : Prop :=
  request.reader ≠ .keypad → ∃ card, cardOf? memory request = some card ∧
    isWithin card.validFrom card.validUntil started = true

/-- The user of a request is within the period, and so is the card if it comes with one. -/
structure InPeriod (memory : Memory) (request : Request) (started : Time.Instant) : Prop where
  user : ∃ user, userOf? memory request = some user ∧
    isWithin user.validFrom user.validUntil started = true
  card : CardInPeriod memory request started

def Stage.lookup? : Stage → Option Query
  | .code credential => some (.userByCode credential)
  | .card credential => some (.cardByNumber credential)
  | .holder _ view => some (.userByRegistration view.registration)
  | _ => none

section

variable (memory : Memory) (request : Request) (started : Time.Instant)

def Stage.Knows : Stage → Prop
  | .code credential => request.reader = .keypad ∧ credential = credentialOf request
  | .card credential => request.reader ≠ .keypad ∧ credential = credentialOf request
  | .holder _ view => request.reader ≠ .keypad ∧ ∃ card, cardOf? memory request = some card ∧
      view = card.view ∧ isWithin card.validFrom card.validUntil started = true
  | .checks _ view => CardInPeriod memory request started ∧
      ∃ user, userOf? memory request = some user ∧ view = user.view
  | .denying .. => True
  | .queued _ | .passback _ | .granting => InPeriod memory request started

/-- An outcome that is no grant, unless user and card are within their periods. -/
def Vouches (outcome : Except Fault Decision) : Prop :=
  ∀ decision, outcome = .ok decision → decision.isGrant = true → InPeriod memory request started

def Next.Knows : Next → Prop
  | .ask query stage => stage.Knows memory request started ∧
      ∀ lookup, stage.lookup? = some lookup → query = lookup
  | .rest stage | .acquire _ stage => stage.Knows memory request started
  | .finish outcome _ | .leave outcome _ => Vouches memory request started outcome

/-- A reply is what a register answers to the look-up of a stage, unless the look-up failed. -/
def Stage.Hears (stage : Stage) (reply : Reply) : Prop :=
  ∀ lookup, stage.lookup? = some lookup →
    reply = (memory.answer lookup).2 ∨ ∃ fault, reply = .failed fault

end

section Walks

variable {memory : Memory} {request : Request} {started : Time.Instant}

theorem vouches_fault (fault : Fault) : Vouches memory request started (.error fault) := by
  rintro decision ⟨⟩

theorem vouches_denial (reason : Denial) :
    Vouches memory request started (.ok (denial request reason)) := by
  rintro decision ⟨⟩ ⟨⟩

theorem knows_conclude {outcome : Except Fault Decision}
    (vouches : Vouches memory request started outcome) (phase : Phase) (more : Nat) :
    (conclude phase outcome more).Knows memory request started := by
  cases phase <;> exact vouches

variable (settings : Settings) (now : Time.Instant)

theorem knows_deny (subject : Subject) (reason : Denial) (phase : Phase) :
    (deny settings now request subject reason phase).Knows memory request started := by
  unfold deny
  split
  · exact ⟨trivial, by rintro lookup ⟨⟩⟩
  · exact knows_conclude (vouches_denial reason) phase 1

theorem knows_start : (start request).Knows memory request started := by
  cases reader : request.reader <;> simp only [start, reader]
  · exact ⟨⟨by simp [reader], by simp [credentialOf, reader]⟩, by rintro lookup ⟨⟩; rfl⟩
  · exact ⟨⟨by simp [reader], by simp [credentialOf, reader]⟩, by rintro lookup ⟨⟩; rfl⟩
  · exact ⟨⟨reader, by simp [credentialOf, reader]⟩, by rintro lookup ⟨⟩; rfl⟩

theorem knows_checkCard {card : Card} (shown : request.reader ≠ .keypad)
    (found : cardOf? memory request = some card) (credential : String) :
    (checkCard settings now started request credential card.view).Knows memory request started := by
  have within : liesWithin card.view.validFrom card.view.validUntil started =
      .ok (isWithin card.validFrom card.validUntil started) := liesWithin_ofOption ..
  unfold checkCard
  simp only [within]
  split
  · exact knows_deny ..
  · cases inside : isWithin card.validFrom card.validUntil started with
    | true => exact ⟨⟨shown, card, found, rfl, inside⟩, by rintro lookup ⟨⟩; rfl⟩
    | false => exact knows_deny ..

theorem knows_check {user : User} (card : CardInPeriod memory request started)
    (found : userOf? memory request = some user) (subject : Subject) :
    (check settings now started request subject user.view).Knows memory request started := by
  have within : liesWithin user.view.validFrom user.view.validUntil started =
      .ok (isWithin user.validFrom user.validUntil started) := liesWithin_ofOption ..
  unfold check
  simp only [within]
  split
  · exact knows_deny ..
  · cases inside : isWithin user.validFrom user.validUntil started with
    | true =>
        simp only
        split
        · exact ⟨⟨user, found, inside⟩, card⟩
        · exact knows_deny ..
    | false => exact knows_deny ..

theorem knows_recordGrant (inside : InPeriod memory request started) (subject : Subject) :
    (recordGrant now request subject).Knows memory request started :=
  ⟨inside, by rintro lookup ⟨⟩⟩

theorem knows_enter (inside : InPeriod memory request started) (subject : Subject) :
    (enter settings now request subject).Knows memory request started := by
  unfold enter
  split
  · exact ⟨inside, by rintro lookup ⟨⟩⟩
  · exact knows_recordGrant now inside subject

theorem userOf?_of_keypad (keypad : request.reader = .keypad) :
    userOf? memory request = memory.userByCode? (credentialOf request) := by
  simp only [userOf?, keypad]

theorem userOf?_of_card {card : Card} (shown : request.reader ≠ .keypad)
    (found : cardOf? memory request = some card) :
    userOf? memory request = memory.userByRegistration? card.registration := by
  cases reader : request.reader with
  | keypad => exact absurd reader shown
  | card => simp only [userOf?, reader, found, Option.bind_some]
  | biometric => simp only [userOf?, reader, found, Option.bind_some]

theorem knows_resume {stage : Stage} {reply : Reply} (knows : stage.Knows memory request started)
    (hears : stage.Hears memory reply) :
    (resume settings now started request stage reply).Knows memory request started := by
  cases stage with
  | code credential =>
      obtain ⟨keypad, rfl⟩ := knows
      rcases hears _ rfl with rfl | ⟨fault, rfl⟩
      · have same : userOf? memory request = _ := userOf?_of_keypad keypad
        simp only [Memory.answer]
        cases found : memory.userByCode? (credentialOf request) with
        | none => exact knows_deny ..
        | some user => exact ⟨fun shown => absurd keypad shown, user, same.trans found, rfl⟩
      · exact vouches_fault fault
  | card credential =>
      obtain ⟨shown, rfl⟩ := knows
      rcases hears _ rfl with rfl | ⟨fault, rfl⟩
      · simp only [Memory.answer]
        cases found : memory.card? (credentialOf request) with
        | none => exact knows_deny ..
        | some card => exact knows_checkCard settings now shown found _
      · exact vouches_fault fault
  | holder credential view =>
      obtain ⟨shown, card, card_found, rfl, inside⟩ := knows
      rcases hears _ rfl with rfl | ⟨fault, rfl⟩
      · have same := userOf?_of_card shown card_found
        have answer : (memory.answer (.userByRegistration card.view.registration)).2 =
            .user ((memory.userByRegistration? card.registration).map User.view) := rfl
        rw [answer]
        cases found : memory.userByRegistration? card.registration with
        | none => exact knows_deny ..
        | some user => exact ⟨fun _ => ⟨card, card_found, inside⟩, user, same.trans found, rfl⟩
      · exact vouches_fault fault
  | checks subject user => exact knows
  | denying reason phase =>
      cases reply with
      | failed fault => exact knows_conclude (vouches_fault fault) phase 0
      | _ => exact knows_conclude (vouches_denial reason) phase 0
  | queued subject => exact knows
  | passback subject =>
      cases reply with
      | failed fault => exact vouches_fault fault
      | recent found =>
          cases found with
          | true => exact knows_deny ..
          | false => exact knows_recordGrant now knows subject
      | _ => exact knows_recordGrant now knows subject
  | granting =>
      cases reply with
      | failed fault => exact vouches_fault fault
      | _ => exact fun _ _ _ => knows

end Walks

end Offline

def Brought (settings : Offline.Settings) (deeds : List Deed) (id : CallId) (request : Request)
    (started : Time.Instant) : Prop :=
  ∃ deed ∈ deeds, deed.call = id ∧ deed.request? = some request ∧ deed.time settings = started

theorem Brought.later {settings : Offline.Settings} {deeds : List Deed} {id : CallId}
    {request : Request} {started : Time.Instant}
    (brought : Brought settings deeds id request started) (more : List Deed) :
    Brought settings (deeds ++ more) id request started :=
  let ⟨deed, member, made⟩ := brought
  ⟨deed, List.mem_append_left _ member, made⟩

def Job.Knows (memory : Memory) (call : Call) : Job → Prop
  | .replied _ reply => ∀ stage, call.walk = some stage → stage.Hears memory reply
  | .leave _ result | .outcome _ result =>
      Offline.Vouches memory call.request call.started result
  | _ => True

structure Call.Knows (memory : Memory) (call : Call) (jobs : List Job) : Prop where
  stage : ∀ stage, call.walk = some stage → stage.Knows memory call.request call.started
  jobs : ∀ job ∈ jobs, job.Knows memory call

theorem Call.GoesOn.knows {settings : Offline.Settings} {now : Time.Instant} {id : CallId}
    {call : Call} {job : Job} {next : Offline.Next} {memory : Memory}
    (goesOn : call.GoesOn settings now id job next) (knows : call.Knows memory [job]) :
    next.Knows memory call.request call.started := by
  have tells := knows.jobs job List.mem_cons_self
  cases goesOn with
  | replied reply walk =>
      exact Offline.knows_resume settings now (knows.stage _ walk) (tells _ walk)
  | checks walk =>
      rcases knows.stage _ walk with ⟨card, user, found, rfl⟩
      exact Offline.knows_check settings now card found _
  | enters walk => exact Offline.knows_enter settings now (knows.stage _ walk) _

structure SameBooks (memory other : Memory) : Prop where
  users : other.users = memory.users
  cards : other.cards = memory.cards

namespace SameBooks

variable {memory other : Memory}

theorem answerUnless (same : SameBooks memory other) (outages : List (String × String))
    (query : Query) : SameBooks memory (other.answerUnless outages query).1 := by
  unfold Memory.answerUnless
  split
  · exact same
  · cases query with
    | recentGrant user direction since =>
        simp only [Memory.answer]
        split <;> exact same
    | _ => exact ⟨same.users, same.cards⟩

theorem hears (same : SameBooks memory other) (stage : Offline.Stage)
    (outages : List (String × String)) {query : Query}
    (asks : ∀ lookup, stage.lookup? = some lookup → query = lookup) :
    stage.Hears memory (other.answerUnless outages query).2 := by
  intro lookup looks
  obtain rfl := asks lookup looks
  unfold Memory.answerUnless
  split
  · exact .inr ⟨_, rfl⟩
  · left
    rcases same with ⟨users, cards⟩
    cases stage with
    | code credential =>
        cases looks
        simp only [Memory.answer, Memory.userByCode?, users]
    | card credential =>
        cases looks
        simp only [Memory.answer, Memory.card?, cards]
    | holder credential view =>
        cases looks
        have same_user : other.userByRegistration? = memory.userByRegistration? := by
          funext registration
          simp only [Memory.userByRegistration?, users]
        simp only [Memory.answer, same_user]
    | _ => cases looks

end SameBooks

namespace Board

structure Knows (settings : Offline.Settings) (memory : Memory) (deeds : List Deed)
    (board : Board) : Prop where
  books : SameBooks memory board.memory
  calls : ∀ id call, board.call? id = some call →
    Brought settings deeds id call.request call.started ∧ call.Knows memory (board.jobs id)
  outcomes : ∀ id decision report, (id, .ok decision, report) ∈ board.outcomes →
    decision.isGrant = true → ∃ request started,
      Brought settings deeds id request started ∧ Offline.InPeriod memory request started

variable {settings : Offline.Settings} {memory : Memory} {deeds : List Deed} {board : Board}
  {id : CallId} {call : Call}

theorem Knows.later (knows : board.Knows settings memory deeds) (more : List Deed) :
    board.Knows settings memory (deeds ++ more) where
  books := knows.books
  calls id call known := (knows.calls id call known).imp_left (·.later more)
  outcomes id decision report member grants :=
    let ⟨request, started, brought, inside⟩ := knows.outcomes id decision report member grants
    ⟨request, started, brought.later more, inside⟩

theorem Knows.proceed (knows : board.Knows settings memory deeds) (call : Call) {jobs : List Job}
    (brought : Brought settings deeds id call.request call.started)
    (mine : call.Knows memory jobs) :
    (board.proceed id call jobs).Knows settings memory deeds where
  books := knows.books
  calls other known found := by
    simp only [Board.proceed, Function.update_apply] at found ⊢
    split at found
    · next same =>
        cases found
        rw [if_pos same, same]
        exact ⟨brought, mine⟩
    · next different =>
        rw [if_neg different]
        exact knows.calls other known found
  outcomes := knows.outcomes

theorem Knows.finish (knows : board.Knows settings memory deeds)
    (known : board.call? id = some call) {job : Job} (tells : job.Knows memory call) :
    { board with jobs := Function.update board.jobs id [job] }.Knows settings memory deeds := by
  rcases knows.calls id call known with ⟨brought, mine⟩
  have same : { board with jobs := Function.update board.jobs id [job] } =
      board.proceed id call [job] := by
    rw [Board.proceed, ← known, Function.update_eq_self]
  rw [same]
  exact knows.proceed call brought ⟨mine.stage, fun other member => by
    rw [List.mem_singleton.mp member]
    exact tells⟩

theorem Knows.walk (knows : board.Knows settings memory deeds)
    (brought : Brought settings deeds id call.request call.started) {next : Offline.Next}
    (found : next.Knows memory call.request call.started)
    (known : next.outcome?.isSome → board.call? id = some call)
    (outages : List (String × String)) :
    (board.walk outages id call next).Knows settings memory deeds := by
  cases next with
  | ask query stage =>
      rcases found with ⟨stage_knows, asks⟩
      -- The register that answers may have a longer log, but it has the same users and cards.
      have mine : Call.Knows memory { call with walk := some stage }
          [.replied id (board.memory.answerUnless outages query).2] := by
        refine ⟨by rintro other ⟨⟩; exact stage_knows, fun job member => ?_⟩
        rw [List.mem_singleton.mp member]
        rintro other ⟨⟩
        exact knows.books.hears stage outages asks
      have after := knows.proceed { call with walk := some stage } brought mine
      exact ⟨knows.books.answerUnless outages query, after.calls, after.outcomes⟩
  | rest stage =>
      refine knows.proceed _ brought ⟨by rintro other ⟨⟩; exact found, fun job member => ?_⟩
      rw [List.mem_singleton.mp member]
      trivial
  | acquire user stage =>
      have mine : Call.Knows memory { call with walk := some stage, locked := user }
          (if (board.line user).isEmpty then [.enter id] else []) := by
        refine ⟨by rintro other ⟨⟩; exact found, fun job member => ?_⟩
        split at member
        · rw [List.mem_singleton.mp member]
          trivial
        · cases member
      have after := knows.proceed { call with walk := some stage, locked := user } brought mine
      exact ⟨knows.books, after.calls, after.outcomes⟩
  | finish outcome rounds => exact knows.finish (known rfl) found
  | leave outcome rounds => exact knows.finish (known rfl) found

theorem Knows.leave (knows : board.Knows settings memory deeds) (known : board.call? id = some call)
    {outcome : Except Fault Decision}
    (vouches : Offline.Vouches memory call.request call.started outcome) :
    (board.leave id call outcome).Knows settings memory deeds where
  books := knows.books
  calls other found_call found := by
    rcases knows.calls other found_call found with ⟨brought, mine⟩
    refine ⟨brought, mine.stage, fun job member => ?_⟩
    simp only [Board.leave] at member
    split at member
    · next same =>
        rw [same] at found
        cases known.symm.trans found
        rw [List.mem_singleton.mp member]
        exact vouches
    · -- The next one in the line may enter, which tells nothing of its outcome.
      rcases List.mem_append.mp member with old | follows
      · exact mine.jobs job old
      · split at follows
        · rw [List.mem_singleton.mp follows]
          trivial
        · cases follows
  outcomes := knows.outcomes

theorem Knows.close (knows : board.Knows settings memory deeds) (known : board.call? id = some call)
    {outcome : Except Fault Decision}
    (vouches : Offline.Vouches memory call.request call.started outcome) :
    (board.close id outcome).Knows settings memory deeds where
  books := knows.books
  calls other found_call found := by
    simp only [Board.close, Function.update_apply] at found ⊢
    split at found
    · cases found
    · next different =>
        rw [if_neg different]
        exact knows.calls other found_call found
  outcomes other decision report member grants := by
    rcases List.mem_append.mp member with old | new
    · exact knows.outcomes other decision report old grants
    · cases List.mem_singleton.mp new
      exact ⟨call.request, call.started, (knows.calls id call known).1, vouches decision rfl grants⟩

theorem Knows.step (knows : board.Knows settings memory deeds) {deed : Deed} {after : Board}
    (step : board.Step settings deed after) :
    after.Knows settings memory (deeds ++ [deed]) := by
  have earlier := knows.later [deed]
  cases step with
  | @begins request brings unknown idle =>
      have enrolled : (board.enroll deed.call request).Knows settings memory (deeds ++ [deed]) :=
        ⟨earlier.books, earlier.calls, earlier.outcomes⟩
      refine enrolled.walk ⟨deed, List.mem_append_right _ List.mem_cons_self, rfl, brings, rfl⟩
        Offline.knows_start (fun ends => ?_) deed.outages
      -- A walk begins with a question and not with an outcome.
      rcases Offline.start_eq_ask request with ⟨query, stage, asks, -⟩
      cases (congrArg (·.outcome?.isSome) asks).symm.trans ends
  | @walks call job next goes known single goesOn =>
      rcases earlier.calls _ _ known with ⟨brought, mine⟩
      rw [single] at mine
      exact earlier.walk brought (goesOn.knows mine) (fun _ => known) deed.outages
  | leaves goes known single line last =>
      have mine := (earlier.calls _ _ known).2.jobs
      rw [single] at mine
      exact earlier.leave known (mine _ List.mem_cons_self)
  | ends goes known single uninquired =>
      have mine := (earlier.calls _ _ known).2.jobs
      rw [single] at mine
      exact earlier.close known (mine _ List.mem_cons_self)

end Board

namespace Proceedings

variable {settings : Offline.Settings} {memory : Memory} {deeds : List Deed} {after : Proceedings}

theorem knows_of_doAll (run : (start settings memory).doAll? deeds = some after) :
    after.board.Knows settings memory deeds := by
  refine (induction_of_doAll (fun deeds after => after.board.Knows settings memory deeds) ?_ ?_
    run).2
  · exact ⟨⟨rfl, rfl⟩, by rintro id call ⟨⟩, by rintro id decision report ⟨⟩⟩
  · exact fun deeds deed before after orderly step knows => knows.step step

/-- Whoever is granted came with a user, and a card, that were within their periods. -/
theorem inPeriod_of_granted (run : (start settings memory).doAll? deeds = some after) {id : CallId}
    {decision : Decision} {report : Option Online.Report}
    (member : (id, .ok decision, report) ∈ after.desk.outcomes) (grants : decision.isGrant = true) :
    ∃ request started, Brought settings deeds id request started ∧
      Offline.InPeriod memory request started :=
  (knows_of_doAll run).outcomes id decision report member grants

end Proceedings

/-- A moment lies within the periods that a seed states for the user of a request, and for the card
if it comes with one. -/
structure Offline.WithinSeed (document : Json) (memory : Memory) (request : Request) (now : Int) :
    Prop where
  user : ∃ entry user, (entry, user) ∈ (document.elementsAt "users").zip memory.users ∧
    userOf? memory request = some user ∧ Seed.WithinStated entry now
  card : request.reader ≠ .keypad →
    ∃ entry card, (entry, card) ∈ (document.elementsAt "cards").zip memory.cards ∧
      cardOf? memory request = some card ∧ Seed.WithinStated entry now

theorem exists_entry {Record : Type} {meets : Json → Record → Prop} {entries : List Json}
    {records : List Record} (all : List.Forall₂ meets entries records) {record : Record}
    (member : record ∈ records) :
    ∃ entry, (entry, record) ∈ entries.zip records ∧ meets entry record := by
  induction all with
  | nil => cases member
  | @cons entry first entries records here rest induction =>
      rcases List.mem_cons.mp member with rfl | later
      · exact ⟨entry, List.mem_cons_self, here⟩
      · rcases induction later with ⟨other, paired, other_meets⟩
        exact ⟨other, List.mem_cons_of_mem _ paired, other_meets⟩

theorem Offline.mem_of_userOf? {memory : Memory} {request : Request} {user : User}
    (found : userOf? memory request = some user) : user ∈ memory.users := by
  unfold userOf? at found
  split at found
  · exact List.mem_of_find?_eq_some found
  all_goals
    rcases Option.bind_eq_some_iff.mp found with ⟨card, -, owner⟩
    exact List.mem_of_find?_eq_some owner

/-- What a seed states of the periods of users and cards holds of the register that is made of it,
and of all that are let in, as far as the offsets are real. -/
structure HoldsStated (document : Json) (settings : Offline.Settings) (memory : Memory)
    (deeds : List Deed) (after : Proceedings) : Prop where
  users : List.Forall₂ (fun entry user => Seed.Follows entry user.validFrom user.validUntil)
    (document.elementsAt "users") memory.users
  cards : List.Forall₂ (fun entry card => Seed.Follows entry card.validFrom card.validUntil)
    (document.elementsAt "cards") memory.cards
  granted : ∀ id decision report, (id, .ok decision, report) ∈ after.desk.outcomes →
    decision.isGrant = true → ∃ request started, Brought settings deeds id request started ∧
      ∀ now, started = .moment now → Offline.WithinSeed document memory request now

theorem stated_periods_hold {document : Json} {settings : Offline.Settings} {memory : Memory}
    {deeds : List Deed} {after : Proceedings} (accepted : Seed.register document = .ok memory)
    (run : (Proceedings.start settings memory).doAll? deeds = some after) :
    HoldsStated document settings memory deeds after := by
  have users := Seed.follows_users accepted
  have cards := Seed.follows_cards accepted
  refine ⟨users, cards, fun id decision report member grants => ?_⟩
  rcases Proceedings.inPeriod_of_granted run member grants with ⟨request, started, brought, inside⟩
  refine ⟨request, started, brought, ?_⟩
  rintro now rfl
  constructor
  case user =>
    rcases inside.user with ⟨user, found, within⟩
    rcases exists_entry users (Offline.mem_of_userOf? found) with ⟨entry, paired, follows⟩
    exact ⟨entry, user, paired, found, follows.within now within⟩
  case card =>
    intro shown
    rcases inside.card shown with ⟨card, found, within⟩
    rcases exists_entry cards (List.mem_of_find?_eq_some found) with ⟨entry, paired, follows⟩
    exact ⟨entry, card, paired, found, follows.within now within⟩

/-- A seed of one user and one card, which is valid up to some instant. -/
def seedUntil (stop : String) : Json :=
  .object [
    ("users", .array [.object [("registration", .text "T100")]]),
    ("cards", .array [.object [("cardNumber", .text "abc"), ("registration", .text "T100"),
      ("validUntil", .text stop)]])]

/-- The card is shown at noon on the tenth of May 2025, and its call goes on to its end. -/
def noonDeeds : List Deed :=
  let noon : Agenda.Clock := ⟨1746878400000, 0⟩
  let goes : Deed := ⟨1, noon, [], none⟩
  ⟨1, noon, [], some ⟨"ABC ", .invalid, .entry, .card⟩⟩ :: List.replicate 8 goes

def noonSettings : Offline.Settings :=
  { window := Offline.defaultWindow, logDenials := true, ahead := .finite 0 }

def noonGrant : Except Fault Decision :=
  .ok (.granted Display.granted .entry .card .offline)

theorem exists_granted_at_noon (stop : String)
    (granted : ((Seed.register (seedUntil stop)).toOption.bind fun memory =>
      ((Proceedings.start noonSettings memory).doAll? noonDeeds).map fun after =>
        after.desk.outcomes) = some [(1, noonGrant, none)]) :
    ∃ memory after, Seed.register (seedUntil stop) = .ok memory ∧
      (Proceedings.start noonSettings memory).doAll? noonDeeds = some after ∧
      after.desk.outcomes = [(1, noonGrant, none)] := by
  cases registered : Seed.register (seedUntil stop) with
  | error fault => simp [registered, Except.toOption] at granted
  | ok memory =>
      simp only [registered, Except.toOption, Option.bind_some, Option.map_eq_some_iff] at granted
      rcases granted with ⟨after, run, outcomes⟩
      exact ⟨memory, after, rfl, run, outcomes⟩

theorem stated_periods_hold_at_noon :
    ∃ memory after, Seed.register (seedUntil "2025-05-10T09:00:00.0-03:00") = .ok memory ∧
      (Proceedings.start noonSettings memory).doAll? noonDeeds = some after ∧
      after.desk.outcomes = [(1, noonGrant, none)] ∧
      HoldsStated (seedUntil "2025-05-10T09:00:00.0-03:00") noonSettings memory noonDeeds
        after := by
  rcases exists_granted_at_noon "2025-05-10T09:00:00.0-03:00" (by decide +kernel) with
    ⟨memory, after, accepted, run, outcomes⟩
  exact ⟨memory, after, accepted, run, outcomes, stated_periods_hold accepted run⟩

/-- A card lets somebody in years after the end that its seed states. The offset there is none, so
that an end is kept that no moment is beyond. -/
theorem granted_after_stated_end :
    let entry : Json := .object [("cardNumber", .text "abc"), ("registration", .text "T100"),
      ("validUntil", .text "2020-01-01T00:00:00+99:99")]
    let stop : Time.Spelling := ⟨⟨2020, 1, 1⟩, 0, 0, some (0, []), .offset true 99 99 true⟩
    ∃ memory after, Seed.register (seedUntil "2020-01-01T00:00:00+99:99") = .ok memory ∧
      (seedUntil "2020-01-01T00:00:00+99:99").elementsAt "cards" = [entry] ∧
      Seed.States entry "validUntil" stop ∧ stop.stated < 1746878400000 ∧
      memory.cards.map (fun card => (card.validFrom, card.validUntil)) = [(none, some .invalid)] ∧
      isWithin none (some .invalid) (.moment 1746878400000) = true ∧
      (Proceedings.start noonSettings memory).doAll? noonDeeds = some after ∧
      after.desk.outcomes = [(1, noonGrant, none)] := by
  intro entry stop
  rcases exists_granted_at_noon "2020-01-01T00:00:00+99:99" (by decide +kernel) with
    ⟨memory, after, accepted, run, outcomes⟩
  have periods : ((Seed.register (seedUntil "2020-01-01T00:00:00+99:99")).toOption.map fun memory =>
      memory.cards.map fun card => (card.validFrom, card.validUntil)) =
        some [(none, some .invalid)] := by decide +kernel
  rw [accepted] at periods
  have real : stop.IsReal := ⟨by decide, by decide, by rintro digit ⟨⟩, by decide, by decide⟩
  exact ⟨memory, after, accepted, rfl, ⟨real, _, rfl, by decide⟩, by decide +kernel,
    Option.some.inj periods, rfl, run, outcomes⟩

end Gatehouse.Validation
