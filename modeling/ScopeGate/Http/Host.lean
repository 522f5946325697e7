import ScopeGate.Text.Folded
import ScopeGate.Text.Numeral
import ScopeGate.Text.Octets

/-!
# Hosts

The host in an address is a name, or the numeric address of a machine. What stands in its place is
read as web clients read it: percent signs are resolved, shapes of characters are folded, and a name
whose last part is a number is a numeric address of version 4. Such an address has one to four
parts, in base ten, in base eight after a zero or in base sixteen after `0x`; the last part fills
all the octets that the parts before it leave.
-/

namespace ScopeGate.Http

inductive Host where
  | name (text : String)
  /-- An address of version 4, by its value. -/
  | v4 (value : UInt32)
  /-- An address of version 6, as it is written. -/
  | v6 (text : String)
  /-- A name in another script than ASCII, of which only the characters in ASCII are kept. Such
  names are not looked up. -/
  | foreign (ascii : String)
  deriving DecidableEq, Repr

namespace Host

def isBarred (c : Char) : Bool :=
  c.toNat ≤ 0x20 || c.toNat == 0x7F || "#%/:<>?@[\\]^|".toList.contains c

def foldedName? (cs : List Char) : Option (List Char) := do
  let shapes ← (← Text.unpercented? cs).toList.mapM Text.folded?
  let name := shapes.flatten
  if name.isEmpty || name.any isBarred then none else some name

def number? : List Char → Option Nat
  | [] => none
  | '0' :: 'x' :: cs => Text.numeralIn? 16 cs
  | '0' :: c :: cs => Text.numeralIn? 8 (c :: cs)
  | cs => Text.numeralIn? 10 cs

/-- The parts of a name between dots. A dot at the end ends the last part. -/
def parts (name : List Char) : List (List Char) :=
  let ps := name.splitOn '.'
  if 1 < ps.length ∧ ps.getLast? = some [] then ps.dropLast else ps

/-- Whether a part shows that the name which it ends is meant as a numeric address. -/
def isNumeric (part : List Char) : Bool :=
  (!part.isEmpty && part.all fun c => (Text.digitValue? c).isSome) || (number? part).isSome

/-- The value of a numeric address, from the numbers of its parts, the last of them first. -/
def valueOfReverse? : List Nat → Option UInt32
  | [] => none
  | last :: before =>
    if 3 < before.length ∨ before.any (255 < ·) ∨ 1 <<< (8 * (4 - before.length)) ≤ last then none
    else
      let high := before.reverse.foldl (fun n d => 256 * n + d) 0
      some (UInt32.ofNat (high <<< (8 * (4 - before.length)) + last))

def ofName? (name : List Char) : Option Host :=
  let ps := parts name
  if (ps.getLast?.map isNumeric).getD false then do
    let numbers ← ps.mapM number?
    return .v4 (← valueOfReverse? numbers.reverse)
  else
    let ascii := name.filter fun c => c.toNat < 0x80
    some (if ascii.length = name.length then .name (String.ofList ascii)
      else .foreign (String.ofList ascii))

def isGroup (cs : List Char) : Bool :=
  !cs.isEmpty && cs.length ≤ 4 && cs.all fun c => (Text.hexDigit? c).isSome

/-- Whether a text is an address of version 4 as it may end one of version 6: four numbers of one
octet, without zeros in front. -/
def isDotted (cs : List Char) : Bool :=
  let isOctet := fun p : List Char =>
    !p.isEmpty && (p.length == 1 || p.head? != some '0') && (Text.readDigits 255 0 p).toBool
  let ps := cs.splitOn '.'
  ps.length == 4 && ps.all isOctet

def groupCount? (mayEndDotted : Bool) (cs : List Char) : Option Nat :=
  if cs.isEmpty then some 0
  else
    let ps := cs.splitOn ':'
    if ps.all isGroup then some ps.length
    else if mayEndDotted && ps.dropLast.all isGroup && (ps.getLast?.map isDotted).getD false then
      some (ps.length + 1)
    else none

def cutAtColons? : List Char → Option (List Char × List Char)
  | ':' :: ':' :: cs => some ([], cs)
  | c :: cs => (cutAtColons? cs).map fun (before, behind) => (c :: before, behind)
  | [] => none

/-- Whether a text is an address of version 6: eight groups, of which a run of one or more may be
left out. -/
def isV6 (cs : List Char) : Bool :=
  match cutAtColons? cs with
  | none => groupCount? true cs == some 8
  | some (before, behind) =>
    match groupCount? false before, groupCount? true behind with
    | some m, some n => m + n ≤ 7
    | _, _ => false

def ofText? (cs : List Char) : Option Host :=
  match cs with
  | '[' :: rest =>
    if rest.getLast? = some ']' && isV6 rest.dropLast then
      some (.v6 (String.ofList (rest.dropLast.map Char.toLower)))
    else none
  | _ => (foldedName? cs).bind ofName?

/-- The four octets of an address of version 4, in decimal digits with dots between them. -/
def dotted (value : UInt32) : String :=
  let octet := fun k => String.ofList (Text.digits (value.toNat >>> (8 * k) % 256))
  ".".intercalate [octet 3, octet 2, octet 1, octet 0]

/-- A host as it is looked up. Names in another script carry a mark. -/
def lookupText : Host → String
  | name t => t
  | v4 value => dotted value
  | v6 t => t
  | foreign ascii => "xn--" ++ ascii

def text (h : Host) : String :=
  match h with
  | v6 t => "[" ++ t ++ "]"
  | _ => h.lookupText

example : valueOfReverse? [1, 0, 127] = some 2130706433 := by decide

example : valueOfReverse? [1, 0, 0, 256] = none := by decide

example : dotted 2130706433 = "127.0.0.1" := by cbv

example : ofName? "0x7f.1".toList = some (.v4 2130706433) := by cbv

example : isV6 "::1".toList = true ∧ isV6 "1::2::3".toList = false := by cbv

example : ofName? "example.org".toList = some (.name "example.org") := by cbv

end Host

end ScopeGate.Http
