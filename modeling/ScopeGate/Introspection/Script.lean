import ScopeGate.Http.Wire
import ScopeGate.Introspection.Exchange

/-!
# Scripted providers

A provider behind HTTP that replies from a script, one reply for each inquiry, and keeps what it was
asked. When the script is used up it replies that something is wrong with it. It is found at one
port of the only machine there is, to which every numeric address of version 4 leads and one name.
-/

namespace ScopeGate.Introspection

structure Script where
  port : Nat
  /-- The replies that are left. Where there is none the provider never replies. -/
  replies : List (Option Http.Response)
  /-- What it was asked, the last inquiry first. -/
  inquiries : List Inquiry
  deriving Repr

namespace Script

def new (port : Nat) (replies : List (Option Http.Response)) : Script := ⟨port, replies, []⟩

def asked (s : Script) : List Inquiry := s.inquiries.reverse

def isHere : Http.Host → Bool
  | .v4 _ => true
  | .name n => n == "localhost"
  | .v6 _ | .foreign _ => false

def take (i : Inquiry) (s : Script) : Script × Delivery :=
  let s := { s with inquiries := i :: s.inquiries }
  let reply := fun r => Delivery.arrived (Http.Wire.ofResponse i.method r)
  match s.replies with
  | [] => (s, reply (.bare 500))
  | r :: rest => ({ s with replies := rest }, (r.map reply).getD .timedOut)

def deliver (target : Http.Target) (i : Inquiry) (s : Script) : Script × Delivery :=
  if isHere target.host ∧ target.port = s.port then s.take i
  else (s, .undelivered "nothing found there")

def finish (e : Exchange) (s : Script) : Script × Answer :=
  let (s, delivery) := s.deliver e.target e.inquiry
  match h : e.next delivery with
  | .ended answer => (s, answer)
  | .continued e' =>
    have := Exchange.left_lt_of_next h
    finish e' s
termination_by e.left

def ask (e : Endpoint) (token : String) (s : Script) : Script × Answer :=
  match Exchange.new? e token with
  | none => (s, .error (.transport "no address"))
  | some exchange => s.finish exchange

def askAll (e : Endpoint) (tokens : List String) (s : Script) : Script × List Answer :=
  match tokens with
  | [] => (s, [])
  | token :: rest =>
    let (s, answer) := s.ask e token
    let (s, answers) := s.askAll e rest
    (s, answer :: answers)

end Script

end ScopeGate.Introspection
