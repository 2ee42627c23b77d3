import Gatehouse.Lock.Mutex
import Gatehouse.Proofs.Association
import Mathlib.Data.List.Chain
import Mathlib.Data.List.Nodup

/-!
# The line behind a tail

The calls of a key that have not let go form a line, though none is kept: the tail of the key is the
last of them, each of them took the place of the one before it, and what the first one awaited has
resolved (`IsChained`). So a call joins its line at the end (`line_join`), and when the first one
lets go just the next one follows (`followers_first`).
-/

namespace Gatehouse.Lock.Mutex

variable {Key : Type}

def key? (mutex : Mutex Key) (ticket : Ticket) : Option Key :=
  mutex.calls[ticket]?.map Call.key

def previous? (mutex : Mutex Key) (ticket : Ticket) : Option Ticket :=
  mutex.calls[ticket]?.bind Call.previous

theorem lt_of_key? {mutex : Mutex Key} {ticket : Ticket} {key : Key}
    (known : mutex.key? ticket = some key) : ticket < mutex.calls.length := by
  rcases Option.map_eq_some_iff.mp known with ⟨call, found, -⟩
  exact (List.getElem?_eq_some_iff.mp found).1

theorem getElem?_calls_setStage (mutex : Mutex Key) (ticket other : Ticket) (stage : Stage) :
    (mutex.setStage ticket stage).calls[other]? =
      mutex.calls[other]?.map fun call =>
        if other = ticket then { call with stage := stage } else call := by
  rw [setStage, List.getElem?_modify]
  cases mutex.calls[other]? with
  | none => rfl
  | some call => by_cases same : ticket = other <;> simp [same, Ne.symm]

theorem key?_setStage (mutex : Mutex Key) (ticket other : Ticket) (stage : Stage) :
    (mutex.setStage ticket stage).key? other = mutex.key? other := by
  rw [key?, getElem?_calls_setStage, key?]
  cases mutex.calls[other]? with
  | none => rfl
  | some call => by_cases same : other = ticket <;> simp [same]

theorem keys_setStage (mutex : Mutex Key) (ticket : Ticket) (stage : Stage) :
    (mutex.setStage ticket stage).calls.map Call.key = mutex.calls.map Call.key := by
  apply List.ext_getElem?
  intro other
  rw [List.getElem?_map, List.getElem?_map]
  exact mutex.key?_setStage ticket other stage

theorem previous?_setStage (mutex : Mutex Key) (ticket other : Ticket) (stage : Stage) :
    (mutex.setStage ticket stage).previous? other = mutex.previous? other := by
  rw [previous?, getElem?_calls_setStage, previous?]
  cases mutex.calls[other]? with
  | none => rfl
  | some call => by_cases same : other = ticket <;> simp [same]

theorem stage?_setStage (mutex : Mutex Key) (ticket other : Ticket) (stage : Stage) :
    (mutex.setStage ticket stage).stage? other =
      if other = ticket then (mutex.stage? other).map fun _ => stage else mutex.stage? other := by
  rw [stage?, getElem?_calls_setStage, stage?]
  cases mutex.calls[other]? with
  | none => simp
  | some call => by_cases same : other = ticket <;> simp [same]

variable [DecidableEq Key]

/-- The calls of a key that have not let go, in the order in which they were made. -/
def line (mutex : Mutex Key) (key : Key) : List Ticket :=
  (List.range mutex.calls.length).filter fun ticket =>
    mutex.key? ticket = some key ∧ mutex.stage? ticket ≠ some .gone

variable {mutex : Mutex Key} {key other : Key} {ticket : Ticket}

theorem mem_line : ticket ∈ mutex.line key ↔
    mutex.key? ticket = some key ∧ mutex.stage? ticket ≠ some .gone := by
  simp only [line, List.mem_filter, List.mem_range, decide_eq_true_eq, and_iff_right_iff_imp]
  exact fun standing => lt_of_key? standing.1

theorem pairwise_line (mutex : Mutex Key) (key : Key) : (mutex.line key).Pairwise (· < ·) :=
  List.pairwise_lt_range.filter _

theorem nodup_line (mutex : Mutex Key) (key : Key) : (mutex.line key).Nodup :=
  List.nodup_range.filter _

theorem key_eq_of_mem_line (here : ticket ∈ mutex.line key) (there : ticket ∈ mutex.line other) :
    key = other :=
  Option.some.inj ((mem_line.mp here).1.symm.trans (mem_line.mp there).1)

/-! ### Calls that are made -/

theorem getElem?_calls_join (mutex : Mutex Key) (key : Key) (ticket : Ticket) :
    (mutex.join key).calls[ticket]? =
      if ticket = mutex.calls.length then
        some { key := key, previous := mutex.tails.lookup key, stage := .waiting }
      else mutex.calls[ticket]? := by
  rcases Nat.lt_trichotomy ticket mutex.calls.length with inside | rfl | beyond
  · rw [join, List.getElem?_append_left inside, if_neg (Nat.ne_of_lt inside)]
  · simp [join]
  · have outside : (mutex.join key).calls.length ≤ ticket := by
      simp only [join, List.length_append, List.length_singleton]
      omega
    rw [List.getElem?_eq_none outside, List.getElem?_eq_none (Nat.le_of_lt beyond),
      if_neg (Nat.ne_of_gt beyond)]

theorem key?_join (mutex : Mutex Key) (key : Key) (ticket : Ticket) :
    (mutex.join key).key? ticket =
      if ticket = mutex.calls.length then some key else mutex.key? ticket := by
  rw [key?, getElem?_calls_join]
  split <;> rfl

theorem stage?_join (mutex : Mutex Key) (key : Key) (ticket : Ticket) :
    (mutex.join key).stage? ticket =
      if ticket = mutex.calls.length then some .waiting else mutex.stage? ticket := by
  rw [stage?, getElem?_calls_join]
  split <;> rfl

theorem previous?_join (mutex : Mutex Key) (key : Key) (ticket : Ticket) :
    (mutex.join key).previous? ticket =
      if ticket = mutex.calls.length then mutex.tails.lookup key else mutex.previous? ticket := by
  rw [previous?, getElem?_calls_join]
  split <;> rfl

theorem line_join (mutex : Mutex Key) (key other : Key) :
    (mutex.join key).line other =
      mutex.line other ++ if other = key then [mutex.calls.length] else [] := by
  have size : (mutex.join key).calls.length = mutex.calls.length + 1 := by simp [join]
  simp only [line, size, List.range_succ, List.filter_append, key?_join, stage?_join]
  congr 1
  · apply List.filter_congr
    intro ticket member
    have inside : ticket ≠ mutex.calls.length := Nat.ne_of_lt (List.mem_range.mp member)
    simp [inside]
  · by_cases same : other = key
    · simp [same]
    · simp [same, Ne.symm same]

/-! ### Calls that go on -/

theorem line_setStage (standing : ticket ∈ mutex.line key) {stage : Stage} (stays : stage ≠ .gone)
    (other : Key) : (mutex.setStage ticket stage).line other = mutex.line other := by
  have size : (mutex.setStage ticket stage).calls.length = mutex.calls.length :=
    List.length_modify ..
  simp only [line, size, key?_setStage, stage?_setStage]
  apply List.filter_congr
  intro one member
  by_cases same : one = ticket
  · subst same
    have here := (mem_line.mp standing).2
    cases found : mutex.stage? one with
    | none => simp
    | some current =>
        have stands : current ≠ .gone := fun gone => here (by rw [found, gone])
        simp [stays, stands]
  · simp [same]

theorem calls_forget (mutex : Mutex Key) (ticket : Ticket) :
    (mutex.forget ticket).calls = mutex.calls := by
  rw [forget]
  split
  · split <;> rfl
  · rfl

theorem keys_letGo (mutex : Mutex Key) (ticket : Ticket) :
    (mutex.letGo ticket).calls.map Call.key = mutex.calls.map Call.key := by
  rw [letGo, calls_forget, keys_setStage]

theorem line_letGo (mutex : Mutex Key) (ticket : Ticket) (key : Key) :
    (mutex.letGo ticket).line key = (mutex.line key).filter (· ≠ ticket) := by
  have size : (mutex.setStage ticket .gone).calls.length = mutex.calls.length :=
    List.length_modify ..
  have forgotten : (mutex.letGo ticket).line key = (mutex.setStage ticket .gone).line key := by
    simp only [line, letGo, key?, stage?, calls_forget]
    rfl
  rw [forgotten]
  simp only [line, size, key?_setStage, stage?_setStage, List.filter_filter]
  apply List.filter_congr
  intro one member
  by_cases same : one = ticket
  · subst same
    cases found : mutex.stage? one with
    | none => simp [key?, stage?] at found ⊢; simp [found]
    | some stage => simp
  · simp [same]

/-- The calls of each key that have not let go form a chain, and the tail of the key is their
last. -/
structure IsChained (mutex : Mutex Key) : Prop where
  tails : ∀ key, mutex.tails.lookup key = (mutex.line key).getLast?
  single : (mutex.tails.map Prod.fst).Nodup
  linked : ∀ key, (mutex.line key).IsChain fun earlier next => mutex.previous? next = some earlier
  first : ∀ key ticket, (mutex.line key).head? = some ticket →
    (mutex.previous? ticket).all mutex.isResolved = true
  queued : ∀ key, ∀ ticket ∈ (mutex.line key).tail, mutex.stage? ticket = some .waiting

theorem isChained_free : IsChained (free : Mutex Key) where
  tails _ := rfl
  single := List.nodup_nil
  linked _ := .nil
  first _ _ none := nomatch none
  queued _ _ member := nomatch member

theorem isResolved_join (resolved : mutex.isResolved ticket = true) (key : Key) :
    (mutex.join key).isResolved ticket = true := by
  simp only [isResolved, decide_eq_true_eq] at resolved ⊢
  have inside : ticket ≠ mutex.calls.length := by
    rintro rfl
    simp [stage?] at resolved
  rw [stage?_join, if_neg inside, resolved]

theorem ne_length_of_mem_line (member : ticket ∈ mutex.line key) : ticket ≠ mutex.calls.length :=
  Nat.ne_of_lt (lt_of_key? (mem_line.mp member).1)

theorem IsChained.join (chained : mutex.IsChained) (key : Key) : (mutex.join key).IsChained := by
  constructor
  case tails =>
    intro other
    have replaced := Association.lookup_replaced other key mutex.calls.length mutex.tails
    rw [line_join, Mutex.join, replaced]
    by_cases same : other = key
    · simp [same]
    · simp [same, chained.tails]
  case single =>
    simp only [Mutex.join, List.map_append, List.map_cons, List.map_nil]
    refine List.Nodup.append ?_ (List.nodup_singleton key) ?_
    · exact (chained.single.sublist (List.filter_sublist.map Prod.fst))
    · simp [List.disjoint_singleton]
  case linked =>
    intro other
    have before : (mutex.line other).IsChain fun earlier next =>
        (mutex.join key).previous? next = some earlier :=
      (chained.linked other).imp_of_mem_imp fun earlier next _ member link => by
        rw [previous?_join, if_neg (ne_length_of_mem_line member), link]
    rw [line_join]
    by_cases same : other = key
    · subst same
      rw [if_pos rfl]
      refine before.append (.singleton _) fun last isLast next isNext => ?_
      cases isNext
      rw [previous?_join, if_pos rfl, chained.tails]
      exact isLast
    · rw [if_neg same, List.append_nil]
      exact before
  case first =>
    intro other ticket isFirst
    rw [line_join] at isFirst
    cases calls : mutex.line other with
    | cons first rest =>
        rw [calls] at isFirst
        cases isFirst
        have known : ticket ∈ mutex.line other := calls ▸ List.mem_cons_self
        rw [previous?_join, if_neg (ne_length_of_mem_line known), Option.all_eq_true]
        have resolved := chained.first other ticket (by rw [calls]; rfl)
        rw [Option.all_eq_true] at resolved
        exact fun earlier took => isResolved_join (resolved earlier took) key
    | nil =>
        rw [calls] at isFirst
        by_cases same : other = key
        · subst same
          simp only [List.nil_append, if_true, List.head?_cons, Option.some.injEq] at isFirst
          rw [previous?_join, if_pos isFirst.symm, chained.tails, calls]
          rfl
        · simp [same] at isFirst
  case queued =>
    intro other ticket member
    rw [line_join] at member
    rw [stage?_join]
    split
    · rfl
    · next old =>
        apply chained.queued other
        by_cases same : other = key
        · subst same
          cases calls : mutex.line other with
          | nil => simp [calls] at member
          | cons first rest => simpa [calls, old] using member
        · simpa [same] using member

theorem IsChained.all_isResolved (chained : mutex.IsChained) (key : Key) :
    (mutex.tails.lookup key).all mutex.isResolved = true ↔ mutex.line key = [] := by
  rw [chained.tails, Option.all_eq_true]
  constructor
  · intro resolved
    apply List.getLast?_eq_none_iff.mp
    cases isLast : (mutex.line key).getLast? with
    | none => rfl
    | some last =>
        have done := resolved last isLast
        rw [isResolved, decide_eq_true_eq] at done
        exact absurd done (mem_line.mp (List.mem_of_getLast? isLast)).2
  · intro empty
    simp [empty]

theorem isResolved_setStage {resolved : Ticket} (done : mutex.isResolved resolved = true)
    (standing : ticket ∈ mutex.line key) (stage : Stage) :
    (mutex.setStage ticket stage).isResolved resolved = true := by
  simp only [isResolved, decide_eq_true_eq] at done ⊢
  have apart : resolved ≠ ticket := by
    rintro rfl
    exact (mem_line.mp standing).2 done
  rw [stage?_setStage, if_neg apart, done]

theorem ne_first_of_mem_tail {rest : List Ticket} (calls : mutex.line key = ticket :: rest)
    {one : Ticket} (member : one ∈ (mutex.line other).tail) : one ≠ ticket := by
  rintro rfl
  have here : one ∈ mutex.line key := calls ▸ List.mem_cons_self
  cases key_eq_of_mem_line here (List.mem_of_mem_tail member)
  rw [calls] at member
  exact (List.nodup_cons.mp (calls ▸ nodup_line mutex key)).1 member

theorem IsChained.advance (chained : mutex.IsChained) {rest : List Ticket}
    (calls : mutex.line key = ticket :: rest) {stage : Stage} (stays : stage ≠ .gone) :
    (mutex.setStage ticket stage).IsChained := by
  have standing : ticket ∈ mutex.line key := calls ▸ List.mem_cons_self
  constructor
  case tails =>
    intro other
    rw [line_setStage standing stays, ← chained.tails]
    rfl
  case single => exact chained.single
  case linked =>
    intro other
    simp only [line_setStage standing stays, previous?_setStage]
    exact chained.linked other
  case first =>
    intro other one isOne
    rw [line_setStage standing stays] at isOne
    have resolved := chained.first other one isOne
    rw [Option.all_eq_true] at resolved
    rw [previous?_setStage, Option.all_eq_true]
    exact fun earlier took => isResolved_setStage (resolved earlier took) standing stage
  case queued =>
    intro other one member
    rw [line_setStage standing stays] at member
    rw [stage?_setStage, if_neg (ne_first_of_mem_tail calls member),
      chained.queued other one member]

/-! ### Calls that let go -/

theorem line_letGo_first {rest : List Ticket} (calls : mutex.line key = ticket :: rest)
    (other : Key) :
    (mutex.letGo ticket).line other = if other = key then rest else mutex.line other := by
  rw [line_letGo]
  split
  · next same =>
      subst same
      have apart := (List.nodup_cons.mp (calls ▸ nodup_line mutex other)).1
      rw [calls, List.filter_cons_of_neg (by simp), List.filter_eq_self]
      intro one member
      simpa using ne_of_mem_of_not_mem member apart
  · next different =>
      rw [List.filter_eq_self]
      intro one member
      have apart : one ≠ ticket := by
        rintro rfl
        exact different (key_eq_of_mem_line member (calls ▸ List.mem_cons_self))
      simpa using apart

theorem tails_letGo (chained : mutex.IsChained) {rest : List Ticket}
    (calls : mutex.line key = ticket :: rest) :
    (mutex.letGo ticket).tails =
      if rest = [] then mutex.tails.filter fun (known, _) => known != key else mutex.tails := by
  have standing : ticket ∈ mutex.line key := calls ▸ List.mem_cons_self
  have known : (mutex.setStage ticket .gone).key? ticket = some key := by
    rw [key?_setStage, (mem_line.mp standing).1]
  rcases Option.map_eq_some_iff.mp known with ⟨call, found, rfl⟩
  have tail := chained.tails call.key
  have same : (mutex.setStage ticket .gone).tails = mutex.tails := rfl
  rw [letGo, forget, found]
  simp only [same, tail, calls]
  cases rest with
  | nil => simp
  | cons next others =>
      have apart := (List.nodup_cons.mp (calls ▸ nodup_line mutex call.key)).1
      have last : (ticket :: next :: others).getLast? ≠ some ticket := by
        rw [List.getLast?_cons_cons]
        exact fun isLast => apart (List.mem_of_getLast? isLast)
      rw [if_neg last, if_neg (List.cons_ne_nil next others)]
      exact same

theorem previous?_letGo (mutex : Mutex Key) (ticket other : Ticket) :
    (mutex.letGo ticket).previous? other = mutex.previous? other := by
  rw [letGo, previous?, calls_forget, ← previous?, previous?_setStage]

theorem stage?_letGo (mutex : Mutex Key) (ticket other : Ticket) :
    (mutex.letGo ticket).stage? other =
      if other = ticket then (mutex.stage? other).map fun _ => .gone else mutex.stage? other := by
  rw [letGo, stage?, calls_forget, ← stage?, stage?_setStage]

theorem IsChained.letGo (chained : mutex.IsChained) {rest : List Ticket}
    (calls : mutex.line key = ticket :: rest) : (mutex.letGo ticket).IsChained := by
  have standing : ticket ∈ mutex.line key := calls ▸ List.mem_cons_self
  have resolves {resolved : Ticket} (done : mutex.isResolved resolved = true) :
      (mutex.letGo ticket).isResolved resolved = true := by
    have still := isResolved_setStage done standing .gone
    simp only [isResolved, decide_eq_true_eq, stage?_letGo, stage?_setStage] at still ⊢
    exact still
  constructor
  case tails =>
    intro other
    rw [line_letGo_first calls, tails_letGo chained calls]
    cases rest with
    | nil =>
        rw [if_pos rfl, Association.lookup_filter_ne]
        split
        · rfl
        · exact chained.tails other
    | cons next others =>
        rw [if_neg (List.cons_ne_nil next others), chained.tails]
        split
        · next same => rw [same, calls, List.getLast?_cons_cons]
        · rfl
  case single =>
    rw [tails_letGo chained calls]
    split
    · exact (chained.single.sublist (List.filter_sublist.map Prod.fst))
    · exact chained.single
  case linked =>
    intro other
    simp only [line_letGo_first calls, previous?_letGo]
    split
    · next same =>
        subst same
        have links := chained.linked other
        rw [calls] at links
        exact links.tail
    · exact chained.linked other
  case first =>
    intro other one isOne
    rw [line_letGo_first calls] at isOne
    rw [previous?_letGo, Option.all_eq_true]
    split at isOne
    · next same =>
        subst same
        rcases List.head?_eq_some_iff.mp isOne with ⟨others, rfl⟩
        have links := chained.linked other
        rw [calls, List.isChain_cons_cons] at links
        rintro earlier took
        cases links.1.symm.trans took
        have made := (mem_line.mp standing).1
        rcases Option.map_eq_some_iff.mp made with ⟨call, found, -⟩
        rw [isResolved, stage?_letGo, if_pos rfl, stage?, found]
        rfl
    · have resolved := chained.first other one isOne
      rw [Option.all_eq_true] at resolved
      exact fun earlier took => resolves (resolved earlier took)
  case queued =>
    intro other one member
    rw [line_letGo_first calls] at member
    have waits : one ∈ (mutex.line other).tail := by
      split at member
      · next same =>
          rw [same, calls]
          exact List.mem_of_mem_tail member
      · exact member
    rw [stage?_letGo, if_neg (ne_first_of_mem_tail calls waits), chained.queued other one waits]

theorem IsChained.in_front (chained : mutex.IsChained) (member : ticket ∈ (mutex.line key).tail) :
    ∃ front before back, mutex.line key = front ++ before :: ticket :: back ∧
      mutex.previous? ticket = some before := by
  cases calls : mutex.line key with
  | nil => simp [calls] at member
  | cons first others =>
      rw [calls] at member
      rcases List.append_of_mem member with ⟨between, back, whole⟩
      rcases List.eq_nil_or_concat (first :: between) with none | ⟨front, before, shape⟩
      · cases none
      · have split : first :: others = front ++ before :: ticket :: back := by
          rw [List.tail_cons] at whole
          rw [whole, ← List.cons_append, shape, List.concat_append]
        have links := chained.linked key
        rw [calls, split, List.isChain_append_cons_cons] at links
        exact ⟨front, before, back, split, links.2.1⟩

theorem IsChained.next_of_took (chained : mutex.IsChained) {rest : List Ticket}
    (calls : mutex.line key = ticket :: rest) {one : Ticket}
    (waits : mutex.stage? one = some .waiting) (took : mutex.previous? one = some ticket) :
    rest.head? = some one := by
  have standing : ticket ∈ mutex.line key := calls ▸ List.mem_cons_self
  rcases Option.map_eq_some_iff.mp waits with ⟨call, found, -⟩
  have stands : one ∈ mutex.line call.key :=
    mem_line.mpr ⟨by rw [key?, found]; rfl, by rw [waits]; simp⟩
  cases isFirst : decide ((mutex.line call.key).head? = some one) with
  | true =>
      -- The first of a line awaits nothing any more, but the call at hand has not let go.
      have resolved := chained.first call.key one (of_decide_eq_true isFirst)
      rw [took, Option.all_some, isResolved, decide_eq_true_eq] at resolved
      exact absurd resolved (mem_line.mp standing).2
  | false =>
      have behind : one ∈ (mutex.line call.key).tail := by
        cases others : mutex.line call.key with
        | nil => simp [others] at stands
        | cons first back =>
            rw [others] at stands isFirst
            simpa [show one ≠ first by rintro rfl; simp at isFirst] using stands
      rcases chained.in_front behind with ⟨front, before, back, whole, after⟩
      cases took.symm.trans after
      have here : ticket ∈ mutex.line call.key := by
        rw [whole]
        simp
      cases key_eq_of_mem_line here standing
      have apart := nodup_line mutex call.key
      rw [calls] at whole apart
      cases front with
      | nil =>
          cases whole
          rfl
      | cons first front =>
          cases whole
          simp at apart

omit [DecidableEq Key] in
theorem mem_followers {one : Ticket} : one ∈ mutex.followers ticket ↔
    mutex.previous? one = some ticket ∧ mutex.stage? one = some .waiting := by
  simp only [followers, List.mem_filter, List.mem_range, previous?, stage?]
  cases found : mutex.calls[one]? with
  | none => simp
  | some call =>
      have inside := (List.getElem?_eq_some_iff.mp found).1
      simp [inside]

theorem IsChained.followers_first (chained : mutex.IsChained) {rest : List Ticket}
    (calls : mutex.line key = ticket :: rest) : mutex.followers ticket = rest.head?.toList := by
  have distinct : (mutex.followers ticket).Nodup := List.nodup_range.filter _
  cases rest with
  | nil =>
      apply List.eq_nil_iff_forall_not_mem.mpr
      intro one member
      rcases mem_followers.mp member with ⟨took, waits⟩
      cases chained.next_of_took calls waits took
  | cons next others =>
      have links := chained.linked key
      rw [calls, List.isChain_cons_cons] at links
      have waits := chained.queued key next (by rw [calls]; exact List.mem_cons_self)
      apply List.perm_singleton.mp
      refine (List.perm_ext_iff_of_nodup distinct (List.nodup_singleton next)).mpr fun one => ?_
      rw [mem_followers, List.mem_singleton]
      constructor
      · rintro ⟨took, waiting⟩
        exact (Option.some.inj (chained.next_of_took calls waiting took)).symm
      · rintro rfl
        exact ⟨links.1, waits⟩

theorem IsChained.mem_keys (chained : mutex.IsChained) (key : Key) :
    key ∈ mutex.tails.map Prod.fst ↔ mutex.line key ≠ [] := by
  have tail := chained.tails key
  rw [Ne, ← List.getLast?_eq_none_iff, ← tail, List.lookup_eq_none_iff]
  simp

end Gatehouse.Lock.Mutex
