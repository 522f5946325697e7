import ScopeGate.Http.Reference
import ScopeGate.Http.Reply
import ScopeGate.Introspection.Endpoint

/-!
# Exchanges with the provider

An inquiry goes to where the endpoint is, and the reply to it ends the exchange or sends it
elsewhere. What is sent there is the same again, or for some statuses a mere request to read; who
asks is not shown to another host or at another port. An exchange is not sent elsewhere for ever.

What comes of each inquiry is a `Delivery`, and `Exchange.next` says what follows from it. Every
step leaves an exchange fewer of them, see `left_lt_of_next`.
-/

namespace ScopeGate.Introspection

inductive Delivery where
  /-- What has arrived before the connection ended. -/
  | arrived (octets : Octets)
  /-- No reply came in time. -/
  | timedOut
  /-- The inquiry did not get there, for the reason given. -/
  | undelivered (reason : String)
  deriving DecidableEq, Repr

/-- An exchange with the provider, up to where an inquiry is to be sent. -/
structure Exchange where
  target : Http.Target
  inquiry : Inquiry
  /-- How many replies may still send it elsewhere. -/
  left : Nat
  deriving DecidableEq, Repr

inductive Progress where
  | ended (answer : Answer)
  | continued (e : Exchange)

namespace Exchange

def maxTurns : Nat := 9

/-- The exchange in which an endpoint is asked about a token, if its address can be understood. -/
def new? (endpoint : Endpoint) (token : String) : Option Exchange :=
  endpoint.target?.map fun target => ⟨target, endpoint.inquiry target token, maxTurns⟩

/-- Whether what is sent elsewhere is a mere request to read. -/
def isReadElsewhere (status : Nat) : Bool := [301, 302, 303].contains status

def leadsElsewhere (status : Nat) : Bool := isReadElsewhere status || [307, 308].contains status

def destination? (reply : Http.Reply) (e : Exchange) : Option Http.Destination := do
  let reference ← Http.firstValue? "location" reply.fields
  if leadsElsewhere reply.status then e.target.destination? (← Octets.text? reference) else none

def turned (status : Nat) (target : Http.Target) (e : Exchange) : Inquiry :=
  let i :=
    { e.inquiry with
      path := target.path
      authorization := e.inquiry.authorization.filter fun _ => target.isBeside e.target }
  if isReadElsewhere status then { i with method := "GET", contentType := none, body := "" } else i

def answerOf (reply : Http.Reply) : Answer :=
  if reply.status ≠ 200 then .error (.status reply.status)
  else
    match reply.body with
    | none => .error (.malformed "the body is not complete")
    | some body => answerOfBody body

def next (delivery : Delivery) (e : Exchange) : Progress :=
  match delivery with
  | .timedOut => .ended (.error .deadlineExceeded)
  | .undelivered reason => .ended (.error (.transport reason))
  | .arrived octets =>
    match Http.Reply.ofOctets? octets with
    | none => .ended (.error (.transport "not a reply"))
    | some reply =>
      match e.destination? reply, e.left with
      | none, _ => .ended (answerOf reply)
      | some (.target target), left + 1 =>
        .continued ⟨target, e.turned reply.status target, left⟩
      | some _, 0 => .ended (.error (.transport "sent elsewhere too often"))
      | some .elsewhere, _ => .ended (.error (.transport "sent where plain HTTP does not lead"))

/-- An exchange that goes on may be sent elsewhere less often. -/
theorem left_lt_of_next {delivery : Delivery} {e e' : Exchange}
    (h : e.next delivery = .continued e') : e'.left < e.left := by
  unfold next at h
  split at h
  · cases h
  · cases h
  · split at h
    · cases h
    · split at h
      · cases h
      · next heq =>
        cases h
        simp [heq]
      · cases h
      · cases h

end Exchange

end ScopeGate.Introspection
