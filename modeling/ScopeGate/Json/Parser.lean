import ScopeGate.Json.Printer
import ScopeGate.Text.Numeral

/-!
# Reading JSON

`Value.parse?` reads a document: one value with blanks around it and nothing else. The grammar is
the strict one: no zeros in front of a number, no comma after the last item, no control octet in a
string, and values may lie in one another to any depth.

A string is read in two steps. `scanString` finds its end and takes the escapes apart, `spell` then
puts the octets together, joins the two halves of a pair, and fails on a half without its partner.
-/

namespace ScopeGate.Json

def isGap (b : UInt8) : Bool := b == 0x20 || b == 0x09 || b == 0x0A || b == 0x0D

def skipGaps (os : Octets) : Octets := os.dropWhile isGap

def decimal? (b : UInt8) : Option Nat :=
  if ascii '0' ≤ b ∧ b ≤ ascii '9' then some (b.toNat - 0x30) else none

/-- What a string consists of: octets that stand for themselves, and units of sixteen bits. -/
inductive Piece where
  | octet (b : UInt8)
  | unit (n : Nat)
  deriving DecidableEq, Repr

def letterEscape? (b : UInt8) : Option UInt8 :=
  if b = ascii '"' ∨ b = ascii '\\' ∨ b = ascii '/' then some b
  else if b = ascii 'b' then some 0x08
  else if b = ascii 'f' then some 0x0C
  else if b = ascii 'n' then some 0x0A
  else if b = ascii 'r' then some 0x0D
  else if b = ascii 't' then some 0x09
  else none

def unit? (h₁ h₂ h₃ h₄ : UInt8) : Option Nat :=
  Text.numeralIn? 16 ([h₁, h₂, h₃, h₄].map fun h => Char.ofNat h.toNat)

def scanString : Octets → Option (List Piece × Octets)
  | [] => none
  | b :: rest =>
    if b = ascii '"' then some ([], rest)
    else if b < 0x20 then none
    else if b = ascii '\\' then
      match rest with
      | [] => none
      | e :: rest =>
        match letterEscape? e with
        | some o => (scanString rest).map fun (ps, r) => (.octet o :: ps, r)
        | none =>
          if e = ascii 'u' then
            match rest with
            | h₁ :: h₂ :: h₃ :: h₄ :: rest =>
              match unit? h₁ h₂ h₃ h₄ with
              | some n => (scanString rest).map fun (ps, r) => (.unit n :: ps, r)
              | none => none
            | _ => none
          else none
    else (scanString rest).map fun (ps, r) => (.octet b :: ps, r)

def isHighHalf (n : Nat) : Bool := 0xD800 ≤ n && n ≤ 0xDBFF

def isLowHalf (n : Nat) : Bool := 0xDC00 ≤ n && n ≤ 0xDFFF

def joinHalves (high low : Nat) : Nat := 0x10000 + (high - 0xD800) * 0x400 + (low - 0xDC00)

def spell : List Piece → Option Octets
  | [] => some []
  | .octet b :: ps => (spell ps).map (b :: ·)
  | .unit n :: ps =>
    if isHighHalf n then
      match ps with
      | .unit m :: ps =>
        if isLowHalf m then (spell ps).map (Octets.ofChar (Char.ofNat (joinHalves n m)) ++ ·)
        else none
      | _ => none
    else if isLowHalf n then none
    else (spell ps).map (Octets.ofChar (Char.ofNat n) ++ ·)

def pieceText? (ps : List Piece) : Option String := (spell ps).bind Octets.text?

def spanDigits (os : Octets) : Octets × Octets := os.span fun b => (decimal? b).isSome

def digitsValue (ds : Octets) : Nat := ds.foldl (fun n b => 10 * n + (b.toNat - 0x30)) 0

/-- The digits of a whole number: a single zero, or digits that do not start with a zero. -/
def readWhole (os : Octets) : Option (Octets × Octets) :=
  match spanDigits os with
  | ([], _) => none
  | (d :: ds, rest) => if d = ascii '0' ∧ ds ≠ [] then none else some (d :: ds, rest)

def readFractionPart : Octets → Option (Octets × Octets)
  | [] => some ([], [])
  | b :: rest =>
    if b = ascii '.' then
      match spanDigits rest with
      | ([], _) => none
      | (ds, rest) => some (b :: ds, rest)
    else some ([], b :: rest)

def readSign : Octets → Octets × Octets
  | [] => ([], [])
  | b :: rest => if b = ascii '+' ∨ b = ascii '-' then ([b], rest) else ([], b :: rest)

def readExponent : Octets → Option (Octets × Octets)
  | [] => some ([], [])
  | b :: rest =>
    if b = ascii 'e' ∨ b = ascii 'E' then
      let (sign, rest) := readSign rest
      match spanDigits rest with
      | ([], _) => none
      | (ds, rest) => some (b :: sign ++ ds, rest)
    else some ([], b :: rest)

def readMagnitude (negative : Bool) (os : Octets) : Option (Number × Octets) := do
  let (whole, rest) ← readWhole os
  let (fraction, rest) ← readFractionPart rest
  let (exponent, rest) ← readExponent rest
  if fraction = [] ∧ exponent = [] then
    return (.integer negative (digitsValue whole), rest)
  else
    let sign := if negative then [ascii '-'] else []
    return (.real (sign ++ whole ++ fraction ++ exponent), rest)

def readNumber : Octets → Option (Number × Octets)
  | [] => none
  | b :: rest =>
    if b = ascii '-' then readMagnitude true rest else readMagnitude false (b :: rest)

def readWord (os : Octets) : Option (Value × Octets) :=
  match (asciis "null").isPrefixOf? os, (asciis "true").isPrefixOf? os,
      (asciis "false").isPrefixOf? os with
  | some rest, _, _ => some (.null, rest)
  | _, some rest, _ => some (.bool true, rest)
  | _, _, some rest => some (.bool false, rest)
  | _, _, _ => none

def readKey (os : Octets) : Option (Option String × Octets) :=
  match skipGaps os with
  | [] => none
  | b :: rest =>
    if b = ascii '"' then
      match scanString rest with
      | none => none
      | some (ps, rest) =>
        match skipGaps rest with
        | [] => none
        | c :: rest => if c = ascii ':' then some (pieceText? ps, rest) else none
    else none

mutual

def readValue : Nat → Octets → Option (Value × Octets)
  | 0, _ => none
  | fuel + 1, os =>
    match skipGaps os with
    | [] => none
    | b :: rest =>
      if b = ascii '"' then
        (scanString rest).map fun (ps, r) => (.string (pieceText? ps), r)
      else if b = ascii '[' then
        match skipGaps rest with
        | [] => none
        | c :: r =>
          if c = ascii ']' then some (.array [], r)
          else (readItems fuel (c :: r)).map fun (vs, r) => (.array vs, r)
      else if b = ascii '\x7b' then
        match skipGaps rest with
        | [] => none
        | c :: r =>
          if c = ascii '\x7d' then some (.object [], r)
          else (readMembers fuel (c :: r)).map fun (ms, r) => (.object ms, r)
      else if b = ascii '-' ∨ (decimal? b).isSome then
        (readNumber (b :: rest)).map fun (n, r) => (.number n, r)
      else readWord (b :: rest)

def readItems : Nat → Octets → Option (List Value × Octets)
  | 0, _ => none
  | fuel + 1, os =>
    match readValue fuel os with
    | none => none
    | some (v, rest) =>
      match skipGaps rest with
      | [] => none
      | c :: rest =>
        if c = ascii ']' then some ([v], rest)
        else if c = ascii ',' then (readItems fuel rest).map fun (vs, r) => (v :: vs, r)
        else none

def readMembers : Nat → Octets → Option (List (Option String × Value) × Octets)
  | 0, _ => none
  | fuel + 1, os =>
    match readKey os with
    | none => none
    | some (k, rest) =>
      match readValue fuel rest with
      | none => none
      | some (v, rest) =>
        match skipGaps rest with
        | [] => none
        | c :: rest =>
          if c = ascii '\x7d' then some ([(k, v)], rest)
          else if c = ascii ',' then (readMembers fuel rest).map fun (ms, r) => ((k, v) :: ms, r)
          else none

end

/-- The value of a document. Every second step takes an octet, which bounds the number of steps. -/
def Value.parse? (os : Octets) : Option Value :=
  match readValue (2 * os.length + 2) os with
  | some (v, rest) => if skipGaps rest = [] then some v else none
  | none => none

end ScopeGate.Json
