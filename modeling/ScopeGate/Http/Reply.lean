import ScopeGate.Http.Chunks

/-!
# Replies

A reply begins with a head whose first line has the version of the protocol, the status and perhaps
some words, see `ScopeGate.Http.Head`. Replies with a status below 200 announce another reply, but
for the one that changes the protocol, and are passed over.

The head says how long the body is: it comes in chunks, or has a length that is told, or ends where
the connection does. A reply whose head breaks the rules of the protocol is none at all. One whose
body does not arrive in full has no body.
-/

namespace ScopeGate.Http

structure Reply where
  status : Nat
  fields : List Field
  /-- The body, if it has arrived in full. -/
  body : Option Octets
  deriving DecidableEq, Repr

namespace Reply

structure Start where
  /-- Whether the version is 1.1 and not the one before it. -/
  isCurrent : Bool
  status : Nat
  deriving DecidableEq, Repr

def isCurrent? (version : Octets) : Option Bool :=
  if version = Octets.ofString "HTTP/1.1" then some true
  else if version = Octets.ofString "HTTP/1.0" then some false
  else none

/-- Reads the first line. The status has three digits. -/
def start? (line : Octets) : Option Start := do
  let isCurrent ← isCurrent? (line.take 8)
  match line.drop 8 with
  | 0x20 :: hundreds :: tens :: ones :: words =>
    let status ← Head.length? [hundreds, tens, ones]
    if 100 ≤ status && (words.isEmpty || words.head? = some 0x20) && words.all Head.isInValue then
      some ⟨isCurrent, status⟩
    else none
  | _ => none

def announces (status : Nat) : Bool := status < 200 && status != 101

def isBodiless (status : Nat) : Bool := [101, 204, 304].contains status

def values (name : String) (fields : List Field) : List Octets :=
  (fields.filter fun f => sameName f.name name).map Field.value

def length? (values : List Octets) : Option Nat := do
  let told ← (values.flatMap (·.splitOn 0x2C)).mapM fun v =>
    Head.length? (Field.received "" v).value
  match told with
  | [] => none
  | n :: ns => if ns.all (· == n) && n ≤ Head.maxLength then some n else none

/-- The body in what follows the head of a reply, which may have arrived in part only, if the head
says properly how long it is. -/
def body? (start : Start) (fields : List Field) (rest : Octets) : Option (Option Octets) :=
  if isBodiless start.status then some (some [])
  else
    match (values "transfer-encoding" fields).getLast?, values "content-length" fields with
    | some codings, _ =>
      if !start.isCurrent then none
      else some (if Head.endsWithChunks codings then joinChunks? maxExtension rest else some rest)
    | none, [] => some (some rest)
    | none, told =>
      (length? told).map fun n => if n ≤ rest.length then some (rest.take n) else none

def ofOctets? (arrived : Octets) : Option Reply :=
  match h : Head.cut [] (Head.skipEmptyLines arrived) with
  | none => none
  | some (lines, rest) =>
    have : rest.length < arrived.length :=
      Nat.lt_of_lt_of_le (Head.length_lt_of_cut h) (Head.length_skipEmptyLines_le arrived)
    match lines.head?.bind start?, Head.fields Head.maxFields lines.tail with
    | some start, .ok fields =>
      if Head.maxOctets < arrived.length - rest.length || fields.any Head.hasLongName then none
      else if announces start.status then ofOctets? rest
      else (body? start fields rest).map (⟨start.status, fields, ·⟩)
    | _, _ => none
termination_by arrived.length

example : start? (.ofString "HTTP/1.1 200 OK") = some ⟨true, 200⟩ := by decide +kernel

example : start? (.ofString "HTTP/1.1 99 ") = none ∧ start? (.ofString "HTTP/2.0 200") = none := by
  decide +kernel

example : length? [.ofString "2, 2"] = some 2 := by decide +kernel

end Reply

end ScopeGate.Http
