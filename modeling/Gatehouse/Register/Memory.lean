import Gatehouse.Json.Members
import Gatehouse.Register.Record

/-!
# The register in memory

Records are kept in the order in which they were added and get consecutive numbers. Looking up
finds the earliest user or card, and the latest log record.
-/

namespace Gatehouse.Register

structure Memory where
  users : List User
  cards : List Card
  log : List LogRecord
  deriving DecidableEq

namespace Memory

def empty : Memory := { users := [], cards := [], log := [] }

def addUser (memory : Memory) (details : UserDetails) : Memory × User :=
  let user : User := { details with id := memory.users.length + 1 }
  ({ memory with users := memory.users ++ [user] }, user)

/-- Adds a card in normal form. Its holder is the given one, else the user with its registration,
else nobody, which is written zero. -/
def addCard (memory : Memory) (details : CardDetails) (holder : Option Reference) :
    Memory × Card :=
  let owner := memory.users.find? fun user => user.registration == details.registration
  let card : Card :=
    { details with
      cardNumber := normalizeCard details.cardNumber
      id := memory.cards.length + 1
      holder := (holder.orElse fun _ => owner.map fun user => .ofInt user.id).getD (.ofInt 0) }
  ({ memory with cards := memory.cards ++ [card] }, card)

def card? (memory : Memory) (number : String) : Option Card :=
  memory.cards.find? fun card => card.cardNumber == number

def userByRegistration? (memory : Memory) (registration : String) : Option User :=
  memory.users.find? fun user => user.registration == registration

def userByCode? (memory : Memory) (code : String) : Option User :=
  memory.users.find? fun user => user.code == some code

def isGrant (user : Reference) (direction : Access.Direction) (record : LogRecord) : Bool :=
  record.user == user && record.granted && record.direction == direction

/-- The first of some log records that is no earlier than an instant. The search ends with a fault
where it comes to a comparison that cannot be made. -/
def firstSince? (since : Option Time.Instant) :
    List LogRecord → Except Fault (Option LogRecord)
  | [] => .ok none
  | record :: rest =>
      match checkSince record.timestamp since with
      | .ok true => .ok (some record)
      | .ok false => firstSince? since rest
      | .error fault => .error fault

theorem firstSince?_of_timed (since : Time.Instant) (records : List LogRecord)
    (timed : ∀ record ∈ records, record.timestamp.isSome) :
    firstSince? (some since) records =
      .ok (records.find? fun record => record.timestamp.any (·.since since)) := by
  induction records with
  | nil => rfl
  | cons record rest found =>
      have later := found fun other member => timed other (List.mem_cons_of_mem _ member)
      rcases Option.isSome_iff_exists.mp (timed record List.mem_cons_self) with
        ⟨instant, at_instant⟩
      cases reached : instant.since since <;>
        simp [firstSince?, checkSince, at_instant, reached, later]

/-- The latest record of a grant to a user in a direction since an instant. -/
def recentGrant? (memory : Memory) (user : Reference) (direction : Access.Direction)
    (since : Option Time.Instant) : Except Fault (Option LogRecord) :=
  firstSince? since (memory.log.reverse.filter (isGrant user direction))

def append (memory : Memory) (entry : LogEntry) : Memory × LogRecord :=
  let record : LogRecord := { entry with id := memory.log.length + 1 }
  ({ memory with log := memory.log ++ [record] }, record)

end Memory

end Gatehouse.Register
