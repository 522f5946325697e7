import ScopeGate.Http.Message

/-!
# Heads of messages

A message begins with its head: a first line, then the header fields, one to a line, and an empty
line. Lines end with a line feed, perhaps after a carriage return. The first line of a request has
the method, the target and the version of the protocol; for replies see `ScopeGate.Http.Reply`.

The head of a request that breaks the rules of the protocol or its limits is refused, and nothing
else is done about the request. The first fault counts: first the lines are read in order, then come
the limits on lengths, then the target, then what the fields say of the length of a body, again in
order.
-/

namespace ScopeGate.Http

inductive HeadFault where
  | malformed
  | targetTooLong
  | tooLarge
  deriving DecidableEq, Repr

def HeadFault.status : HeadFault → Nat
  | malformed => 400
  | targetTooLong => 414
  | tooLarge => 431

namespace Head

def maxFields : Nat := 100

def maxTarget : Nat := 65534

def maxName : Nat := 65535

def maxOctets : Nat := 417792

def maxLength : Nat := UInt64.size - 3

/-- A line without the carriage return at its end, from its octets in reverse. -/
def lineOfReverse : Octets → Octets
  | 0x0D :: os => os.reverse
  | os => os.reverse

/-- The lines of a head, and what follows it, where `line` holds the octets of the present line in
reverse. There is no head before an empty line. -/
def cut (line : Octets) : Octets → Option (List Octets × Octets)
  | [] => none
  | b :: rest =>
    if b = 0x0A then
      match lineOfReverse line with
      | [] => some ([], rest)
      | l => (cut [] rest).map fun r => (l :: r.1, r.2)
    else cut (b :: line) rest

theorem length_lt_of_cut {line os rest : Octets} {lines : List Octets}
    (h : cut line os = some (lines, rest)) : rest.length < os.length := by
  induction os generalizing line lines with
  | nil => cases h
  | cons b os ih =>
    rw [cut] at h
    split at h
    · split at h
      · cases h
        simp
      · obtain ⟨⟨ls, r⟩, hc, he⟩ := Option.map_eq_some_iff.mp h
        cases he
        exact Nat.lt_succ_of_lt (ih hc)
    · exact Nat.lt_succ_of_lt (ih h)

def skipEmptyLines : Octets → Octets
  | 0x0D :: 0x0A :: os => skipEmptyLines os
  | 0x0A :: os => skipEmptyLines os
  | os => os

theorem length_skipEmptyLines_le (os : Octets) : (skipEmptyLines os).length ≤ os.length := by
  fun_induction skipEmptyLines os with
  | case1 | case2 =>
    simp only [List.length_cons]
    omega
  | case3 => exact Nat.le_refl _

def latin (os : Octets) : String := String.ofList (os.map fun b => Char.ofNat b.toNat)

/-- Whether an octet may stand in a method or in the name of a field: it is the code of a letter, a
digit or one of fifteen marks. -/
def isInToken (b : UInt8) : Bool :=
  let c := Char.ofNat b.toNat
  c.isAlphanum || "!#$%&'*+-.^_\x60|~".toList.contains c

def isToken (os : Octets) : Bool := !os.isEmpty && os.all isInToken

/-- Whether an octet may stand in a target: it is no control character and no space. -/
def isInTarget (b : UInt8) : Bool := 0x20 < b && b != 0x7F

/-- Whether an octet may stand in the value of a field: it is no control character but the tab. -/
def isInValue (b : UInt8) : Bool := b == 0x09 || (0x20 ≤ b && b != 0x7F)

structure Start where
  method : String
  target : String
  /-- Whether the version is 1.1 and not the one before it. -/
  isCurrent : Bool
  deriving DecidableEq, Repr

def start (line : Octets) : Except HeadFault Start :=
  match line.splitOn 0x20 with
  | [method, target, version] =>
    let isCurrent := version == Octets.ofString "HTTP/1.1"
    if isToken method && !target.isEmpty && target.all isInTarget
        && (isCurrent || version == Octets.ofString "HTTP/1.0") then
      match Octets.text? target with
      | some text => .ok ⟨latin method, text, isCurrent⟩
      | none => .error .malformed
    else .error .malformed
  | _ => .error .malformed

def field (line : Octets) : Except HeadFault Field :=
  match line.span (· != 0x3A) with
  | (name, _ :: value) =>
    if isToken name && value.all isInValue then .ok (.received (latin name) value)
    else .error .malformed
  | _ => .error .malformed

def fields (room : Nat) : List Octets → Except HeadFault (List Field)
  | [] => .ok []
  | line :: lines =>
    match field line, room with
    | .error fault, _ => .error fault
    | .ok _, 0 => .error .tooLarge
    | .ok f, room + 1 => (fields room lines).map (f :: ·)

def hasLongName (f : Field) : Bool := maxName < f.name.length

def length? (value : Octets) : Option Nat :=
  if value.isEmpty then none
  else (Text.readDigits (UInt64.size - 1) 0 (latin value).toList).toOption

def endsWithChunks (value : Octets) : Bool :=
  let last := (value.reverse.takeWhile (· != 0x2C)).reverse
  value.all (· < 0x80) && sameName (latin (Field.received "" last).value) "chunked"

structure Framing where
  /-- Whether codings have been named, and whether the last one cuts the body into chunks. -/
  codings : Option Bool
  length : Option Nat
  deriving DecidableEq, Repr

/-- Takes notice of a field. Codings count from the current version on, and a length that comes
after them is passed over. Lengths may be told twice if they are the same. -/
def Framing.next (isCurrent : Bool) (f : Framing) (field : Field) : Except HeadFault Framing :=
  if sameName field.name "transfer-encoding" then
    if isCurrent then .ok { f with codings := some (endsWithChunks field.value) }
    else .error .malformed
  else if sameName field.name "content-length" && f.codings.isNone then
    match length? field.value, f.length with
    | none, _ => .error .malformed
    | some n, some m => if n = m then .ok f else .error .malformed
    | some n, none => if n ≤ maxLength then .ok { f with length := some n } else .error .tooLarge
  else .ok f

def checkBody (isCurrent : Bool) (fs : List Field) : Except HeadFault Unit := do
  let framing ← fs.foldlM (Framing.next isCurrent) ⟨none, none⟩
  if framing.codings = some false then .error .malformed else .ok ()

def request (octets : Nat) : List Octets → Except HeadFault Request
  | [] => .error .malformed
  | first :: lines => do
    let start ← start first
    let fs ← fields maxFields lines
    if maxOctets < octets then throw .tooLarge
    if maxTarget < start.target.utf8ByteSize then throw .targetTooLong
    if fs.any hasLongName then throw .tooLarge
    if (resourcePath? start.target.toList).isNone then throw .malformed
    checkBody start.isCurrent fs
    return ⟨start.method, start.target, fs, none⟩

def request? (arrived : Octets) : Option (Except HeadFault Request) :=
  (cut [] (skipEmptyLines arrived)).map fun r => request (arrived.length - r.2.length) r.1

example : cut [] (.ofString "GET / HTTP/1.1\r\na: b\r\n\r\nx")
    = some ([.ofString "GET / HTTP/1.1", .ofString "a: b"], .ofString "x") := by cbv

example : length? (.ofString "12") = some 12 ∧ length? (.ofString "+1") = none := by cbv

end Head

end ScopeGate.Http
