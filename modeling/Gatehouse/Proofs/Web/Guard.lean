import Gatehouse.Web.Service

/-!
# The guard of the web interface

All that is served below the mount stands below the path of the guard
(`isAtOrBelow_of_isServed`). So a request that may not pass is answered at once, and its reply comes
from the mount and the request alone: neither the settings nor the time nor what has happened so far
has a part in it (`exists_reply`).
-/

namespace Gatehouse.Web

namespace Path

variable {path : List Char}

theorem eq_slash_of_toLower {character : Char} (same : character.toLower = '/') :
    character = '/' := by
  unfold Char.toLower at same
  split at same
  · next upper =>
      have code : character.val + ('a'.val - 'A'.val) = '/'.val := congrArg Char.val same
      obtain ⟨least, -⟩ := upper
      grind
  · exact same

theorem fold_append (front back : List Char) : fold (front ++ back) = fold front ++ fold back :=
  List.map_append

/-- A path that goes on below a route when letter case is left aside stands below it. -/
theorem isAtOrBelow_of_fold {base : String} (rest : List Char)
    (folded : fold path = fold base.toList ++ '/' :: rest) : isAtOrBelow base path = true := by
  have size : (fold base.toList).length = base.toList.length := List.length_map _
  have front : fold (path.take base.toList.length) = fold base.toList := by
    rw [fold, List.map_take, ← fold, folded, ← size, List.take_left]
  have behind : fold (path.drop base.toList.length) = '/' :: rest := by
    rw [fold, List.map_drop, ← fold, folded, ← size, List.drop_left]
  obtain ⟨first, others, split, slash, -⟩ := List.map_eq_cons_iff.mp behind
  obtain rfl := eq_slash_of_toLower slash
  simp [isAtOrBelow, front, split, isBoundary]

theorem isAtOrBelow_of_isRoute {base route : String}
    (below : (base.toList ++ ['/']).isPrefixOf route.toList = true)
    (matched : isRoute route path = true) : isAtOrBelow base path = true := by
  obtain ⟨rest, whole⟩ := List.isPrefixOf_iff_prefix.mp below
  simp only [isRoute, Bool.or_eq_true, beq_iff_eq, fold_append, ← whole] at matched
  rcases matched with same | same
  · exact isAtOrBelow_of_fold (fold rest) (by simpa [fold] using same)
  · exact isAtOrBelow_of_fold (fold (rest ++ ['/'])) (by simpa [fold] using same)

end Path

section Guard

variable {request : Request} {settings : Settings.Web} {now : Time.Instant} {path : List Char}

theorem isAtOrBelow_of_isServed (served : isServed path = true) :
    Path.isAtOrBelow guardedPath path = true := by
  obtain ⟨route, listed, matched⟩ := List.any_eq_true.mp served
  have below : ∀ route ∈ [turnstilesPath, historyPath, simulatePath],
      (guardedPath.toList ++ ['/']).isPrefixOf route.toList = true := by
    decide +kernel
  exact Path.isAtOrBelow_of_isRoute (below route listed) matched

theorem serve_of_not_served (unserved : isServed path = false) (method : Method)
    (document : Json) : serve now method path document = .reply .notFound := by
  obtain ⟨turnstiles, history, simulate⟩ : Path.isRoute turnstilesPath path = false ∧
      Path.isRoute historyPath path = false ∧ Path.isRoute simulatePath path = false := by
    simpa [isServed] using unserved
  cases method <;> simp [serve, turnstiles, history, simulate]

def replyBelow (request : Request) (path : List Char) : Reply :=
  match request.document with
  | .error flaw => .bare flaw.status
  | .ok _ => if Path.isAtOrBelow guardedPath path then .unauthenticated else .notFound

theorem routeBelow_of_kept_out (keptOut : request.mayPass settings = false) :
    routeBelow settings now request path = .reply (replyBelow request path) := by
  unfold routeBelow replyBelow
  cases request.document with
  | error flaw => rfl
  | ok document =>
      by_cases guarded : Path.isAtOrBelow guardedPath path = true
      · simp [guarded, keptOut]
      · have unserved : isServed path = false :=
          Bool.eq_false_iff.mpr fun served => guarded (isAtOrBelow_of_isServed served)
        simp [guarded, unserved, serve_of_not_served unserved]

theorem exists_replyMounted (mount : Mount) (request : Request) (path : List Char) :
    ∃ reply, ∀ settings now, request.mayPass settings = false →
      routeMounted mount settings now request path = .reply reply := by
  unfold routeMounted
  split
  · exact ⟨_, fun _ _ _ => rfl⟩
  · exact ⟨_, fun _ _ _ => rfl⟩
  · exact ⟨_, fun _ _ _ => rfl⟩
  · dsimp only
    split
    · exact ⟨_, fun _ _ _ => rfl⟩
    · exact ⟨_, fun _ _ keptOut => routeBelow_of_kept_out keptOut⟩

/-- A request that may not pass is answered at once, and in the same way whatever the settings are
and whenever it comes. -/
theorem exists_reply (mount : Mount) (request : Request) :
    ∃ reply, ∀ settings now, request.mayPass settings = false →
      route mount settings now request = .reply reply := by
  unfold route
  split
  · exact ⟨_, fun _ _ _ => rfl⟩
  · next path _ =>
      dsimp only
      split
      · exact ⟨_, fun _ _ _ => rfl⟩
      · obtain ⟨reply, same⟩ := exists_replyMounted mount request path
        exact ⟨_, fun settings now keptOut => by rw [same settings now keptOut]⟩

end Guard

end Gatehouse.Web
