import Gatehouse.Json.Members

/-!
# Binding to an address

What happens when a server binds to a host and a port, and when it lets them go. The surrounding
system decides: it may refuse either, and it may bind to something that has no port. Its answers
are read from documents, and endpoints are written as documents.
-/

namespace Gatehouse

structure Endpoint where
  host : String
  port : Number
  deriving DecidableEq

/-- What a server is bound to: what it asked for, nothing known, or something with a name only. -/
inductive Bound where
  | asked
  | unknown
  | named (text : String)
  deriving DecidableEq

/-- How the surrounding system answers: with a failure to bind or to let go, in its own words, and
otherwise with what the server is bound to. -/
structure Binding where
  refusal : Option String
  stuck : Option String
  bound : Bound
  deriving DecidableEq

namespace Binding

def free : Binding := { refusal := none, stuck := none, bound := .asked }

def freePort : Number := .finite 40000

def endpoint? (binding : Binding) (asked : Endpoint) : Option Endpoint :=
  match binding.bound with
  | .asked => some { asked with port := if asked.port = .finite 0 then freePort else asked.port }
  | .unknown | .named _ => none

end Binding

def Endpoint.document (endpoint : Endpoint) : Json :=
  .object [("address", .text endpoint.host), ("port", .ofNumber endpoint.port)]

def Bound.ofDocument (document : Json) : Bound :=
  match document.member? "address" with
  | none => .asked
  | some (.text text) => .named text
  | some _ => .unknown

def Binding.ofDocument (document : Json) : Binding :=
  { refusal := document.textAt? "listenError"
    stuck := document.textAt? "closeError"
    bound := .ofDocument document }

end Gatehouse
