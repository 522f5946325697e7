import ScopeGate.Text.Blank
import ScopeGate.Text.Numeral
import ScopeGate.Time.Instant

/-!
# Timestamps

The written form of an instant: date and time of day in universal time with the letter T between
them, a fraction of none, three, six or nine digits, as few as are exact, and the offset from
universal time. A year outside the four digits carries a sign, and a leap second is the second 60.

The reader is laxer than the writer. It takes blanks before each part, a blank or a small `t`
between date and time, any number of digits in a fraction, of which nine count, and any offset below
a day. It refuses dates and times of day that do not exist and years that cannot be written.
-/

namespace ScopeGate

open Text

namespace Instant

inductive OffsetStyle where
  /-- The letter Z. -/
  | zulu
  /-- Hours and minutes with a sign. -/
  | numeric
  deriving DecidableEq, Repr

def OffsetStyle.zero : OffsetStyle → List Char
  | .zulu => ['Z']
  | .numeric => "+00:00".toList

def yearText (year : Int) : List Char :=
  if 0 ≤ year ∧ year ≤ 9999 then padded 4 year.toNat
  else if year < 0 then '-' :: padded 4 year.natAbs
  else '+' :: padded 4 year.natAbs

/-- A fraction of a second, in as few groups of three digits as are exact. -/
def fractionText (nanos : Nat) : List Char :=
  if nanos = 0 then []
  else if nanos % 1000000 = 0 then '.' :: padded 3 (nanos / 1000000)
  else if nanos % 1000 = 0 then '.' :: padded 6 (nanos / 1000)
  else '.' :: padded 9 nanos

def timestampChars (style : OffsetStyle) (t : Instant) : List Char :=
  let date := Date.ofDayNumber (t.seconds / secondsPerDay)
  let ofDay := (t.seconds % secondsPerDay).toNat
  let isLeapSecond := Duration.nanosPerSecond ≤ t.nanos
  let second := ofDay % 60 + (if isLeapSecond then 1 else 0)
  let nanos := if isLeapSecond then t.nanos - Duration.nanosPerSecond else t.nanos
  yearText date.year ++ '-' :: padded 2 date.month.toNat ++ '-' :: padded 2 date.day.toNat
    ++ 'T' :: padded 2 (ofDay / 3600) ++ ':' :: padded 2 (ofDay / 60 % 60)
    ++ ':' :: padded 2 second ++ fractionText nanos ++ style.zero

def timestamp (style : OffsetStyle) (t : Instant) : String :=
  String.ofList (timestampChars style t)

/-- Reads at most `most` further digits of a number of value `acc` and counts them. -/
def moreDigits : Nat → Nat → Nat → List Char → Nat × Nat × List Char
  | 0, acc, count, cs => (acc, count, cs)
  | _ + 1, acc, count, [] => (acc, count, [])
  | most + 1, acc, count, c :: cs =>
    match digitValue? c with
    | some d => moreDigits most (10 * acc + d) (count + 1) cs
    | none => (acc, count, c :: cs)

/-- Reads a number of one to `most` digits and gives their count and the rest. -/
def readNumber (most : Nat) (cs : List Char) : Option (Nat × Nat × List Char) :=
  match moreDigits most 0 0 cs with
  | (_, 0, _) => none
  | r => some r

def readField (cs : List Char) : Option (Nat × List Char) :=
  (readNumber 2 (trimLeft cs)).map fun (n, _, rest) => (n, rest)

def readMark (mark : Char) (cs : List Char) : Option (List Char) :=
  match trimLeft cs with
  | c :: rest => if c = mark then some rest else none
  | [] => none

/-- Reads a year, after blanks: of at most four digits, or of any number after a sign. -/
def readYear (cs : List Char) : Option (Int × List Char) :=
  match trimLeft cs with
  | '-' :: rest => (readNumber rest.length rest).map fun (n, _, r) => (-(n : Int), r)
  | '+' :: rest => (readNumber rest.length rest).map fun (n, _, r) => ((n : Int), r)
  | rest => (readNumber 4 rest).map fun (n, _, r) => ((n : Int), r)

/-- Reads what stands between date and time: the letter T or one space. -/
def readDivider : List Char → Option (List Char)
  | c :: rest => if c = 'T' ∨ c = 't' ∨ c = ' ' then some rest else none
  | [] => none

/-- Reads a fraction of a second, if there is one, as nanoseconds. -/
def readFraction : List Char → Option (Nat × List Char)
  | '.' :: cs =>
    (readNumber 9 cs).map fun (n, count, rest) =>
      (n * Nat.pow 10 (9 - count), rest.dropWhile fun c => (digitValue? c).isSome)
  | cs => some (0, cs)

/-- Reads hours and minutes of an offset, as seconds. The hours have two digits, the minutes two
digits below sixty, with any colons and blanks between them. -/
def readOffsetTime : List Char → Option (Int × List Char)
  | h₁ :: h₂ :: rest =>
    match rest.dropWhile fun c => c == ':' || isBlank c with
    | m₁ :: m₂ :: rest => do
      let hours := 10 * (← digitValue? h₁) + (← digitValue? h₂)
      let tens ← digitValue? m₁
      let minutes := 10 * tens + (← digitValue? m₂)
      if tens < 6 then some (((hours * 60 + minutes) * 60 : Nat), rest) else none
    | _ => none
  | _ => none

def readOffset (cs : List Char) : Option (Int × List Char) :=
  match trimLeft cs with
  | c₁ :: c₂ :: c₃ :: rest =>
    if [c₁, c₂, c₃].map Char.toUpper = "UTC".toList then some (0, rest)
    else if c₁ = 'Z' ∨ c₁ = 'z' then some (0, c₂ :: c₃ :: rest)
    else if c₁ = '+' then readOffsetTime (c₂ :: c₃ :: rest)
    else if c₁ = '-' ∨ c₁ = '\u2212' then
      (readOffsetTime (c₂ :: c₃ :: rest)).map fun (n, r) => (-n, r)
    else none
  | c :: rest => if c = 'Z' ∨ c = 'z' then some (0, rest) else none
  | [] => none

/-- The instant with the given date and time of day at an offset, if there is one. -/
def ofFields? (date : Date) (hour minute second nanos : Nat) (offset : Int) : Option Instant :=
  let isLeapSecond := second = 60
  let ofDay := (hour * 60 + minute) * 60 + (if isLeapSecond then 59 else second)
  let here := date.dayNumber * secondsPerDay + ofDay
  if date.isValid && hour ≤ 23 && minute ≤ 59 && second ≤ 60
      && -secondsPerDay < offset && offset < secondsPerDay
      && inRange here && inRange (here - offset) then
    some ⟨here - offset, nanos + (if isLeapSecond then Duration.nanosPerSecond else 0)⟩
  else
    none

def ofTimestampChars? (cs : List Char) : Option Instant := do
  let (year, cs) ← readYear cs
  let (month, cs) ← readField (← readMark '-' cs)
  let (day, cs) ← readField (← readMark '-' cs)
  let (hour, cs) ← readField (← readDivider cs)
  let (minute, cs) ← readField (← readMark ':' cs)
  let (second, cs) ← readField (← readMark ':' cs)
  let (nanos, cs) ← readFraction cs
  let (offset, cs) ← readOffset cs
  if trimLeft cs = [] then ofFields? ⟨year, month, day⟩ hour minute second nanos offset else none

def ofTimestamp? (text : String) : Option Instant := ofTimestampChars? text.toList

example : timestamp .zulu ⟨1699999979, 1500000000⟩ = "2023-11-14T22:12:60.500Z" := by cbv
example : timestamp .numeric ⟨-62167219201, 0⟩ = "-0001-12-31T23:59:59+00:00" := by cbv
example : ofTimestamp? "2023-11-14 22: 13:20.5-00:30" = some ⟨1700001800, 500000000⟩ := by
  decide +kernel
example : ofTimestamp? "2023-02-29T00:00:00Z" = none := by cbv

end Instant

end ScopeGate
