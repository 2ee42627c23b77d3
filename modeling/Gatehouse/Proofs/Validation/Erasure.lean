import Gatehouse.Proofs.Validation.Affairs

/-!
# A call that was never made

A board without a call is the board as it would be if the call had not been made: the lines are
those of the others, and who waits right behind the call may enter. What another call does is done
on that board as well (`Board.Sound.step_without`). What the call itself does shows there as
nothing, as long as it enters nothing in the log: `Board.Sound.without_own`.
-/

namespace Gatehouse.Validation

open Gatehouse.Access Gatehouse.Register

def Follows (line : Reference → List CallId) (holder id : CallId) : Prop :=
  ∃ key behind, line key = holder :: id :: behind

open Classical in
/-- What the next one in a line could do if the holder were not there. -/
noncomputable def follower (line : Reference → List CallId) (holder id : CallId) : List Job :=
  if Follows line holder id then [.enter id] else []

section

variable {line after : Reference → List CallId} {user : Reference} {holder id other : CallId}

theorem follower_of_follows (follows : Follows line holder id) :
    follower line holder id = [.enter id] :=
  if_pos follows

theorem follower_of_not (free : ¬Follows line holder id) : follower line holder id = [] :=
  if_neg free

theorem follower_congr (same : Follows after holder id ↔ Follows line holder id) :
    follower after holder id = follower line holder id := by
  by_cases follows : Follows line holder id
  · rw [follower_of_follows follows, follower_of_follows (same.mpr follows)]
  · rw [follower_of_not follows, follower_of_not (mt same.mp follows)]

theorem not_follows_of_not_mem (away : ∀ key, holder ∉ line key) (id : CallId) :
    ¬Follows line holder id := by
  rintro ⟨key, behind, line_is⟩
  exact away key (line_is ▸ List.mem_cons_self)

theorem not_follows_last (away : ∀ key, holder ∉ line key) (user : Reference) (id : CallId) :
    ¬Follows (Function.update line user (line user ++ [holder])) holder id := by
  rintro ⟨key, behind, line_is⟩
  rw [Function.update_apply] at line_is
  split at line_is
  · cases before : line user with
    | nil => simp [before] at line_is
    | cons first rest =>
        rw [before, List.cons_append] at line_is
        exact away user (before ▸ (List.cons.inj line_is).1 ▸ List.mem_cons_self)
  · exact away key (line_is ▸ List.mem_cons_self)

theorem follows_joined_iff (away : ∀ key, id ∉ line key) :
    Follows (Function.update line user (line user ++ [id])) holder id ↔ line user = [holder] := by
  constructor
  · rintro ⟨key, behind, line_is⟩
    rw [Function.update_apply] at line_is
    split at line_is
    · cases before : line user with
      | nil => simp [before] at line_is
      | cons first rest =>
          rw [before, List.cons_append] at line_is
          rcases List.cons.inj line_is with ⟨rfl, rest_is⟩
          cases rest with
          | nil => rfl
          | cons second others =>
              cases (List.cons.inj rest_is).1
              exact absurd (before ▸ List.mem_cons_of_mem _ List.mem_cons_self) (away user)
    · exact absurd (line_is ▸ List.mem_cons_of_mem holder List.mem_cons_self) (away key)
  · intro before
    exact ⟨user, [], by rw [Function.update_self, before]; rfl⟩

theorem follows_joined_iff_of_ne (different : other ≠ id) :
    Follows (Function.update line user (line user ++ [id])) holder other ↔
      Follows line holder other := by
  constructor
  · rintro ⟨key, behind, line_is⟩
    rw [Function.update_apply] at line_is
    split at line_is
    · cases before : line user with
      | nil => simp [before] at line_is
      | cons first rest =>
          rw [before, List.cons_append] at line_is
          rcases List.cons.inj line_is with ⟨rfl, rest_is⟩
          cases rest with
          | nil => exact absurd (List.cons.inj rest_is).1.symm different
          | cons second others =>
              cases (List.cons.inj rest_is).1
              exact ⟨user, others, before⟩
    · exact ⟨key, behind, line_is⟩
  · rintro ⟨key, behind, line_is⟩
    by_cases same : key = user
    · subst same
      exact ⟨key, behind ++ [id], by rw [Function.update_self, line_is]; rfl⟩
    · exact ⟨key, behind, by rw [Function.update_of_ne same, line_is]⟩

theorem isEmpty_filter_ne {line : List CallId} (single : line.Nodup) (erased : CallId) :
    (line.filter (· ≠ erased)).isEmpty = true ↔ line = [] ∨ line = [erased] := by
  cases line with
  | nil => simp
  | cons first rest =>
      rcases List.nodup_cons.mp single with ⟨fresh, -⟩
      cases rest with
      | nil => simp [List.filter_cons]
      | cons second others =>
          simp only [List.isEmpty_iff, List.filter_eq_nil_iff]
          constructor
          · intro same
            have first_is : first = erased := by simpa using same first List.mem_cons_self
            have second_is : second = erased := by simpa using same second (by simp)
            exact absurd (first_is.trans second_is.symm ▸ List.mem_cons_self) fresh
          · simp

/-- Who joins a line may enter at once without the erased call where nobody else stands in it. -/
theorem entering_without (away : ∀ key, id ∉ line key) (single : (line user).Nodup) :
    (if (line user).isEmpty then [.enter id] else [] : List Job) ++
        follower (Function.update line user (line user ++ [id])) holder id =
      if ((line user).filter (· ≠ holder)).isEmpty then [.enter id] else [] := by
  by_cases alone : line user = [holder]
  · rw [follower_of_follows ((follows_joined_iff away).mpr alone), alone]
    simp
  · have empty : ((line user).filter (· ≠ holder)).isEmpty = (line user).isEmpty := by
      rw [Bool.eq_iff_iff, isEmpty_filter_ne single, List.isEmpty_iff]
      simp [alone]
    rw [follower_of_not (mt (follows_joined_iff away).mp alone), List.append_nil, empty]

end

namespace Board

def forget (board : Board) (id : CallId) : Board :=
  { board with
    requests := board.requests.filter fun (other, _) => other ≠ id
    dealings := board.dealings.filter fun dealing => dealing.call ≠ id
    outcomes := board.outcomes.filter fun (other, _) => other ≠ id }

/-- The board as if a call had not been made. -/
noncomputable def without (board : Board) (erased : CallId) : Board :=
  { board.forget erased with
    line := fun key => (board.line key).filter (· ≠ erased)
    call? := Function.update board.call? erased none
    jobs := fun id =>
      if id = erased then []
      else board.jobs id ++ follower board.line erased id }

variable {settings : Offline.Settings} {deed : Deed} {board after : Board} {id erased : CallId}
  {call : Call}

theorem Sound.key_unique (sound : board.Sound) {key other : Reference}
    (member : id ∈ board.line key) (again : id ∈ board.line other) : key = other := by
  rcases sound.waiting key id member with ⟨call, known, locked⟩
  exact locked.symm.trans (sound.locked_eq known again)

theorem Sound.idle_of_follows (sound : board.Sound) {holder : CallId}
    (follows : Follows board.line holder id) : board.jobs id = [] := by
  rcases follows with ⟨key, behind, line⟩
  have distinct := sound.single key
  rw [line] at distinct
  have different : holder ≠ id := fun same =>
    (List.nodup_cons.mp distinct).1 (same ▸ List.mem_cons_self)
  have member : id ∈ board.line key := line ▸ List.mem_cons_of_mem holder List.mem_cons_self
  rcases sound.waiting key id member with ⟨call, known, locked⟩
  have walking := (sound.underway known).walking
  rw [locked, line] at walking
  exact walking.idle_of_waits different List.mem_cons_self

theorem Sound.not_follows_of_job (sound : board.Sound) {job : Job}
    (single : board.jobs id = [job]) (holder : CallId) : ¬Follows board.line holder id := by
  intro follows
  cases (sound.idle_of_follows follows).symm.trans single

theorem jobs_without_of_ne (different : id ≠ erased) (free : ¬Follows board.line erased id) :
    (board.without erased).jobs id = board.jobs id := by
  simp [without, different, follower_of_not free]

theorem call?_without_of_ne (different : id ≠ erased) :
    (board.without erased).call? id = board.call? id :=
  Function.update_of_ne different ..

/-- The jobs of a call that does not wait behind the erased one are as they are on the board. -/
theorem jobs_update_without (different : id ≠ erased) (free : ¬Follows board.line erased id)
    (jobs : List Job) :
    ({ board with jobs := Function.update board.jobs id jobs }.without erased).jobs =
      Function.update (board.without erased).jobs id jobs := by
  funext other
  by_cases same : other = id
  · subst same
    simp [without, different, follower_of_not free]
  · simp only [without, Function.update_of_ne same]

theorem call?_update_without (different : id ≠ erased) (call? : Option Call) :
    Function.update (Function.update board.call? id call?) erased none =
      Function.update (board.without erased).call? id call? :=
  Function.update_comm different ..

theorem without_proceed (different : id ≠ erased) (free : ¬Follows board.line erased id)
    (jobs : List Job) :
    (board.proceed id call jobs).without erased = (board.without erased).proceed id call jobs :=
  Board.ext rfl rfl (call?_update_without different _) (jobs_update_without different free jobs)
    rfl rfl rfl

theorem without_ask (different : id ≠ erased) (free : ¬Follows board.line erased id)
    (outages : List (String × String)) (query : Query) (stage : Offline.Stage) :
    (board.walk outages id call (.ask query stage)).without erased =
      (board.without erased).walk outages id call (.ask query stage) := by
  refine Board.ext rfl rfl (call?_update_without different _)
    (jobs_update_without different free _) rfl ?_ rfl
  simp [walk, without, forget, List.filter_append, different]

theorem Sound.without_acquire (sound : board.Sound) (different : id ≠ erased)
    (away : ∀ key, id ∉ board.line key) (outages : List (String × String)) (user : Reference)
    (stage : Offline.Stage) :
    (board.walk outages id call (.acquire user stage)).without erased =
      (board.without erased).walk outages id call (.acquire user stage) := by
  refine Board.ext rfl (funext fun key => ?_) (call?_update_without different _)
    (funext fun other => ?_) rfl rfl rfl
  · by_cases same : key = user
    · subst same
      simp [walk, without, List.filter_append, different]
    · simp [walk, without, Function.update_of_ne same]
  · by_cases same : other = id
    · subst same
      simp only [walk, proceed, without, Function.update_self, if_neg different]
      exact entering_without away (sound.single user)
    · simp only [walk, proceed, without, Function.update_of_ne same,
        follower_congr (follows_joined_iff_of_ne same)]

theorem Sound.without_walk (sound : board.Sound) (known : board.call? id = some call)
    (different : id ≠ erased) {job : Job} (single : board.jobs id = [job]) {now : Time.Instant}
    {next : Offline.Next} (goesOn : call.GoesOn settings now id job next)
    (outages : List (String × String)) :
    (board.walk outages id call next).without erased =
      (board.without erased).walk outages id call next := by
  have free := sound.not_follows_of_job single erased
  have live := sound.underway known
  have walking := live.walking
  rw [show (board.docket id).jobs = [job] from single] at walking
  have unchanged (job : Job) :
      ({ board with jobs := Function.update board.jobs id [job] } : Board).without erased =
        { board.without erased with
          jobs := Function.update (board.without erased).jobs id [job] } :=
    Board.ext rfl rfl rfl (jobs_update_without different free _) rfl rfl rfl
  cases goesOn.proceeds walking with
  | ask walking => exact without_ask different free outages _ _
  | rest walking => exact without_proceed different free _
  | acquire away =>
      exact sound.without_acquire different (sound.not_mem_line known away) outages _ _
  | finish rounds walking => exact unchanged _
  | leave rounds walking => exact unchanged _

theorem Sound.without_close (sound : board.Sound) (different : id ≠ erased) {job : Job}
    (single : board.jobs id = [job]) (outcome : Except Fault Decision) :
    (board.close id outcome).without erased = (board.without erased).close id outcome := by
  have free := sound.not_follows_of_job single erased
  refine Board.ext rfl rfl (call?_update_without different none)
    (jobs_update_without different free []) rfl rfl ?_
  simp [close, without, forget, List.filter_append, different]

/-- The erased call comes to hold a lock, and the one behind it would hold it instead. -/
theorem Sound.follows_of_left (sound : board.Sound) {key : Reference} {rest : List CallId}
    (line : board.line key = id :: erased :: rest) (other : CallId) :
    Follows (Function.update board.line key (erased :: rest)) erased other ↔
      rest.head? = some other := by
  have waits : erased ∈ board.line key := line ▸ List.mem_cons_of_mem id List.mem_cons_self
  constructor
  · rintro ⟨elsewhere, others, line_is⟩
    rw [Function.update_apply] at line_is
    split at line_is
    · rw [(List.cons.inj line_is).2]
      rfl
    · next away => exact absurd (sound.key_unique (line_is ▸ List.mem_cons_self) waits) away
  · intro first
    rcases List.head?_eq_some_iff.mp first with ⟨others, rfl⟩
    exact ⟨key, others, Function.update_self ..⟩

/-- Who is next to the erased call stays so when another call leaves a line in which the erased one
is not the next. -/
theorem follows_left_iff {key : Reference} {behind : List CallId} (different : id ≠ erased)
    (line : board.line key = id :: behind) (later : behind.head? ≠ some erased) (other : CallId) :
    Follows (Function.update board.line key behind) erased other ↔
      Follows board.line erased other := by
  constructor
  · rintro ⟨elsewhere, others, line_is⟩
    rw [Function.update_apply] at line_is
    split at line_is
    · exact absurd (congrArg List.head? line_is) later
    · exact ⟨elsewhere, others, line_is⟩
  · rintro ⟨elsewhere, others, line_is⟩
    have away : elsewhere ≠ key := fun same =>
      different (List.cons.inj (line.symm.trans (same ▸ line_is))).1
    exact ⟨elsewhere, others, (Function.update_of_ne away ..).trans line_is⟩

/-- Who may enter when the holder of a lock leaves, on the board without the erased call. -/
theorem Sound.next_without (sound : board.Sound) (different : id ≠ erased) {key : Reference}
    {behind : List CallId} (line : board.line key = id :: behind) {other : CallId}
    (elsewhere : other ≠ erased) :
    (if behind.head? = some other then [.enter other] else [] : List Job) ++
        follower (Function.update board.line key behind) erased other =
      follower board.line erased other ++
        if (behind.filter (· ≠ erased)).head? = some other then [.enter other] else [] := by
  by_cases next : behind.head? = some erased
  · rcases List.head?_eq_some_iff.mp next with ⟨rest, rfl⟩
    have after := sound.follows_of_left line other
    have distinct := sound.single key
    rw [line] at distinct
    have rest_same : (erased :: rest).filter (· ≠ erased) = rest := by
      have fresh := (List.nodup_cons.mp (List.nodup_cons.mp distinct).2).1
      rw [List.filter_cons_of_neg (by simp)]
      exact List.filter_eq_self.mpr fun other member => by
        simpa using fun same : other = erased => fresh (same ▸ member)
    have before : ¬Follows board.line erased other := by
      rintro ⟨key_of, others, line_is⟩
      cases sound.key_unique (line_is ▸ List.mem_cons_self : erased ∈ board.line key_of)
        (line ▸ List.mem_cons_of_mem id List.mem_cons_self : erased ∈ board.line key)
      exact different (List.cons.inj (line.symm.trans line_is)).1
    have not_erased : (erased :: rest).head? ≠ some other := by
      simpa using Ne.symm elsewhere
    rw [follower_of_not before, rest_same, if_neg not_erased, List.nil_append, List.nil_append]
    by_cases first : rest.head? = some other
    · rw [follower_of_follows (after.mpr first), if_pos first]
    · rw [follower_of_not (mt after.mp first), if_neg first]
  · -- Whoever comes to hold the lock is the same one with and without the erased call.
    have head_same : (behind.filter (· ≠ erased)).head? = behind.head? := by
      cases behind with
      | nil => rfl
      | cons first rest =>
          have kept : first ≠ erased := by simpa using next
          rw [List.filter_cons_of_pos (by simpa using kept)]
          rfl
    rw [follower_congr (follows_left_iff different line next other), head_same]
    by_cases follows : Follows board.line erased other
    · rw [follower_of_follows follows]
      split <;> rfl
    · rw [follower_of_not follows, List.append_nil, List.nil_append]

theorem Sound.without_leave (sound : board.Sound) (known : board.call? id = some call)
    (different : id ≠ erased) {behind : List CallId} (line : board.line call.locked = id :: behind)
    {outcome : Except Fault Decision} :
    (board.leave id call outcome).without erased =
      (board.without erased).leave id call outcome := by
  have distinct := sound.single call.locked
  rw [line] at distinct
  have last : id ∉ behind := (List.nodup_cons.mp distinct).1
  have without_line : (board.without erased).line call.locked =
      id :: behind.filter (· ≠ erased) := by
    simp [without, line, different]
  have gone : ¬Follows (Function.update board.line call.locked behind) erased id := by
    rintro ⟨key, others, line_is⟩
    have member : id ∈ Function.update board.line call.locked behind key :=
      line_is ▸ List.mem_cons_of_mem erased List.mem_cons_self
    rw [Function.update_apply] at member
    split at member
    · exact last member
    · next elsewhere => exact elsewhere (sound.locked_eq known member).symm
  refine Board.ext rfl (funext fun key => ?_) rfl (funext fun other => ?_) rfl rfl rfl
  · by_cases same : key = call.locked
    · subst same
      simp [leave, without, line, different]
    · simp [leave, without, Function.update_of_ne same]
  · simp only [leave, without_line, List.tail_cons]
    by_cases mine : other = id
    · subst mine
      simp [without, different, line, follower_of_not gone]
    · by_cases nobody : other = erased
      · subst nobody
        have not_next : (behind.filter (· ≠ other)).head? ≠ some other := fun next => by
          simpa using List.of_mem_filter (List.mem_of_head? next)
        rw [if_neg mine, if_neg not_next]
        simp [without]
      · have next := sound.next_without different line nobody
        simp only [without, line, List.tail_cons, if_neg mine, if_neg nobody, List.append_assoc,
          next]

theorem Sound.not_follows_of_away (sound : board.Sound) (away : board.call? id = none)
    (holder : CallId) : ¬Follows board.line holder id := by
  rintro ⟨key, behind, line⟩
  rcases sound.waiting key id (line ▸ List.mem_cons_of_mem holder List.mem_cons_self) with
    ⟨call, known, -⟩
  cases away.symm.trans known

/-- What another call does is done on the board without the erased one as well. -/
theorem Sound.step_without (sound : board.Sound) (step : board.Step settings deed after)
    (different : deed.call ≠ erased) :
    (board.without erased).Step settings deed (after.without erased) := by
  cases step with
  | @begins request brings fresh idle =>
      have unknown := sound.unknown fresh
      have free := sound.not_follows_of_away (congrArg Docket.call unknown) erased
      have fresh : deed.call ∉ (board.without erased).requests.map Prod.fst := fun member =>
        fresh ((List.filter_sublist.map Prod.fst).subset member)
      have enrolled : (board.enroll deed.call request).without erased =
          (board.without erased).enroll deed.call request := by
        refine Board.ext rfl rfl rfl rfl ?_ rfl rfl
        simp [enroll, without, forget, List.filter_append, different]
      rcases Offline.start_eq_ask request with ⟨query, stage, first, -⟩
      have free : ¬Follows (board.enroll deed.call request).line erased deed.call := free
      have walked : ((board.enroll deed.call request).walk deed.outages deed.call
          (.fresh request (deed.time settings)) (.ask query stage)).without erased = _ :=
        without_ask different free deed.outages query stage
      rw [enrolled, ← first] at walked
      rw [walked]
      exact .begins brings fresh ((jobs_without_of_ne different free).trans idle)
  | walks goes known single goesOn =>
      have free := sound.not_follows_of_job single erased
      rw [sound.without_walk known different single goesOn]
      exact .walks goes ((call?_without_of_ne different).trans known)
        ((jobs_without_of_ne different free).trans single) goesOn
  | @leaves call outcome behind goes known single line last =>
      have free := sound.not_follows_of_job single erased
      rw [sound.without_leave known different line]
      have line : (board.without erased).line call.locked =
          deed.call :: behind.filter (· ≠ erased) := by
        simp [without, line, different]
      exact .leaves goes ((call?_without_of_ne different).trans known)
        ((jobs_without_of_ne different free).trans single) line
        fun member => last (List.mem_of_mem_filter member)
  | ends goes known single uninquired =>
      have free := sound.not_follows_of_job single erased
      rw [sound.without_close different single]
      exact .ends goes ((call?_without_of_ne different).trans known)
        ((jobs_without_of_ne different free).trans single) uninquired

/-- What a call does to its own jobs and to itself does not show where it is erased. -/
theorem without_eq (id : CallId) (memory : after.memory = board.memory)
    (line : ∀ key, (after.line key).filter (· ≠ id) = (board.line key).filter (· ≠ id))
    (call? : Function.update after.call? id none = Function.update board.call? id none)
    (jobs : ∀ other, other ≠ id → after.jobs other ++ follower after.line id other =
      board.jobs other ++ follower board.line id other)
    (requests : (after.requests.filter fun (other, _) => other ≠ id) =
      board.requests.filter fun (other, _) => other ≠ id)
    (dealings : (after.dealings.filter fun dealing => dealing.call ≠ id) =
      board.dealings.filter fun dealing => dealing.call ≠ id)
    (outcomes : (after.outcomes.filter fun (other, _) => other ≠ id) =
      board.outcomes.filter fun (other, _) => other ≠ id) :
    after.without id = board.without id := by
  refine Board.ext memory (funext line) call? (funext fun other => ?_) requests dealings outcomes
  simp only [without]
  split
  · rfl
  · next different => exact jobs other different

/-- What the erased call itself does changes nothing there but what it enters in the log. -/
theorem Sound.without_own (sound : board.Sound) (step : board.Step settings deed after)
    (kept : after.memory = board.memory) :
    after.without deed.call = board.without deed.call := by
  cases step with
  | @begins request brings fresh idle =>
      rcases Offline.start_eq_ask request with ⟨query, stage, first, -⟩
      rw [first] at kept ⊢
      refine without_eq _ kept (fun _ => rfl) (Function.update_idem ..) (fun other different => ?_)
        ?_ ?_ rfl
      · simp [walk, proceed, enroll, Function.update_of_ne different]
      · simp [walk, proceed, enroll, List.filter_append]
      · simp [walk, enroll, List.filter_append]
  | @walks call job next goes known single goesOn =>
      have walking := (sound.underway known).walking
      rw [show (board.docket deed.call).jobs = [job] from single] at walking
      have elsewhere (jobs : List Job) {other : CallId} (different : other ≠ deed.call) :
          Function.update board.jobs deed.call jobs other = board.jobs other :=
        Function.update_of_ne different ..
      cases goesOn.proceeds walking with
      | ask walking =>
          refine without_eq _ kept (fun _ => rfl) (Function.update_idem ..)
            (fun other different => ?_) rfl ?_ rfl
          · simp only [walk, proceed, elsewhere _ different]
          · simp [walk, List.filter_append]
      | rest walking =>
          exact without_eq _ kept (fun _ => rfl) (Function.update_idem ..)
            (fun other different => by simp only [walk, proceed, elsewhere _ different]) rfl rfl rfl
      | @acquire subject away =>
          have nowhere := sound.not_mem_line known away
          refine without_eq _ kept (fun key => ?_) (Function.update_idem ..)
            (fun other different => ?_) rfl rfl rfl
          · simp only [walk, Function.update_apply]
            split
            · next same => simp [List.filter_append, same]
            · rfl
          · simp only [walk, proceed, elsewhere _ different]
            rw [follower_of_not (not_follows_last nowhere _ other),
              follower_of_not (not_follows_of_not_mem nowhere other)]
      | finish rounds walking =>
          exact without_eq _ kept (fun _ => rfl) rfl
            (fun other different => by simp only [walk, elsewhere _ different]) rfl rfl rfl
      | leave rounds walking =>
          exact without_eq _ kept (fun _ => rfl) rfl
            (fun other different => by simp only [walk, elsewhere _ different]) rfl rfl rfl
  | @leaves call outcome behind goes known single line last =>
      have gone (key : Reference) :
          deed.call ∉ Function.update board.line call.locked behind key := by
        rw [Function.update_apply]
        split
        · exact last
        · next elsewhere => exact fun member => elsewhere (sound.locked_eq known member).symm
      have next (other : CallId) :
          Follows board.line deed.call other ↔ behind.head? = some other := by
        constructor
        · rintro ⟨key, others, line_is⟩
          cases sound.locked_eq known (line_is ▸ List.mem_cons_self : deed.call ∈ board.line key)
          rw [(List.cons.inj (line.symm.trans line_is)).2]
          rfl
        · intro first
          rcases List.head?_eq_some_iff.mp first with ⟨others, rfl⟩
          exact ⟨_, _, line⟩
      refine without_eq _ kept (fun key => ?_) rfl (fun other different => ?_) rfl rfl rfl
      · simp only [leave, line, List.tail_cons, Function.update_apply]
        split
        · next same => simp [same, line]
        · rfl
      · simp only [leave, line, List.tail_cons, if_neg different, List.append_assoc]
        rw [follower_of_not (not_follows_of_not_mem gone other), List.append_nil]
        congr 1
        split
        · next first => rw [follower_of_follows ((next other).mpr first)]
        · next later => rw [follower_of_not (mt (next other).mp later)]
  | ends goes known single uninquired =>
      refine without_eq _ kept (fun _ => rfl) (Function.update_idem ..)
        (fun other different => ?_) rfl rfl ?_
      · simp only [close, Function.update_of_ne different]
      · simp [close, List.filter_append]

end Board

end Gatehouse.Validation
