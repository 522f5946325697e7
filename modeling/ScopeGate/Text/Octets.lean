import ScopeGate.Text.Numeral

/-!
# Octets

What crosses the wire is a sequence of octets. A text is carried as the octets of its characters in
UTF-8, and a sequence of octets is read back as a text only where it is such an encoding.

Where an octet may not stand for itself it is spelt in ASCII, in one of three ways.
- As a percent sign and two digits in base sixteen, in upper case. `percentOctet` writes one octet
  so; `unpercent` puts the octets back, and leaves a percent sign without two digits as it is.
- In the fields of a form. Names and values are joined by equals signs, fields by ampersands. In a
  name or a value a space is written as a plus sign; letters, digits, the asterisk, the hyphen, the
  full stop and the low line stand for themselves, and every other octet takes a percent sign.
- As letters, three octets at a time as four letters of six bits each. A last group of one or two
  octets is filled up with zero bits, and an equals sign stands for each letter that holds none of
  its bits.
-/

namespace ScopeGate

abbrev Octets := List UInt8

namespace Octets

def ofChar (c : Char) : Octets := String.utf8EncodeChar c

def ofString (s : String) : Octets := s.toList.flatMap ofChar

def text? (os : Octets) : Option String := String.fromUTF8? os.toByteArray

theorem text?_ofString (s : String) : text? (ofString s) = some s := by
  have h : (ofString s).toByteArray = s.toByteArray := String.utf8Encode_toList
  have hv : s.toByteArray.IsValidUTF8 := s.isValidUTF8
  rw [text?, h]
  simp [String.fromUTF8?, hv, String.fromUTF8]

theorem ofString_injective {s t : String} (h : ofString s = ofString t) : s = t := by
  have hback := text?_ofString s
  rw [h, text?_ofString, Option.some.injEq] at hback
  exact hback.symm

end Octets

namespace Text

def percentOctet (b : UInt8) : List Char :=
  ['%', upperHexDigit (b.toNat / 16), upperHexDigit b.toNat]

def unpercent : Octets → Octets
  | [] => []
  | 0x25 :: h :: l :: rest =>
    match hexOctet? h, hexOctet? l with
    | some h, some l => UInt8.ofNat (16 * h + l) :: unpercent rest
    | _, _ => 0x25 :: unpercent (h :: l :: rest)
  | b :: rest => b :: unpercent rest

/-- The text whose octets in UTF-8 were written with percent signs, if they encode one. -/
def unpercented? (cs : List Char) : Option String :=
  Octets.text? (unpercent (.ofString (String.ofList cs)))

example : unpercent (.ofString "%41b%4%zz") = .ofString "Ab%4%zz" := by cbv

/-- Whether an octet is the code of a character that stands for itself in a form. -/
def isPlainInForm (b : UInt8) : Bool :=
  (0x30 ≤ b && b ≤ 0x39) || (0x41 ≤ b && b ≤ 0x5A) || (0x61 ≤ b && b ≤ 0x7A)
    || b == 0x2A || b == 0x2D || b == 0x2E || b == 0x5F

def formOctet (b : UInt8) : List Char :=
  if b = 0x20 then ['+']
  else if isPlainInForm b then [Char.ofNat b.toNat]
  else percentOctet b

def formText (s : String) : List Char := (Octets.ofString s).flatMap formOctet

def formField (field : String × String) : List Char := formText field.1 ++ '=' :: formText field.2

def form (fields : List (String × String)) : List Char :=
  ['&'].intercalate (fields.map formField)

example : form [("token", "a b&c")] = "token=a+b%26c".toList := by cbv

def base64Letters : List Char :=
  "ABCDEFGHIJKLMNOPQRSTUVWXYZabcdefghijklmnopqrstuvwxyz0123456789+/".toList

def base64Letter (n : Nat) : Char := base64Letters.getD (n % 64) 'A'

def base64 : Octets → List Char
  | [] => []
  | [a] =>
    let n := a.toNat * 0x10000
    [base64Letter (n / 0x40000), base64Letter (n / 0x1000), '=', '=']
  | [a, b] =>
    let n := a.toNat * 0x10000 + b.toNat * 0x100
    [base64Letter (n / 0x40000), base64Letter (n / 0x1000), base64Letter (n / 0x40), '=']
  | a :: b :: c :: rest =>
    let n := a.toNat * 0x10000 + b.toNat * 0x100 + c.toNat
    base64Letter (n / 0x40000) :: base64Letter (n / 0x1000) :: base64Letter (n / 0x40)
      :: base64Letter n :: base64 rest

example : base64 (Octets.ofString "client:secret") = "Y2xpZW50OnNlY3JldA==".toList := by cbv

end Text

end ScopeGate
