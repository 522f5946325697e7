import ScopeGate.Json.Basic
import ScopeGate.Text.Numeral

/-!
# The compact form of JSON

`Value.render` writes a value without blanks. In strings only the quote, the backslash and the
control octets are escaped, the common ones by a letter and the others by four digits; all else is
written as it is.
-/

namespace ScopeGate.Json

def ascii (c : Char) : UInt8 := c.toNat.toUInt8

def asciis (s : String) : Octets := s.toList.map ascii

def hexDigit (n : Nat) : UInt8 := ascii (Nat.digitChar n)

def escape (b : UInt8) : Octets :=
  if b = ascii '"' then asciis "\\\""
  else if b = ascii '\\' then asciis "\\\\"
  else if b = 0x08 then asciis "\\b"
  else if b = 0x09 then asciis "\\t"
  else if b = 0x0A then asciis "\\n"
  else if b = 0x0C then asciis "\\f"
  else if b = 0x0D then asciis "\\r"
  else if b < 0x20 then
    asciis "\\u00" ++ [hexDigit (b.toNat / 16), hexDigit (b.toNat % 16)]
  else [b]

/-- The form of a string: its escaped octets between quotes. A string that spells no text is written
as half of a pair. -/
def renderString : Option String → Octets
  | some s => ascii '"' :: (Octets.ofString s).flatMap escape ++ [ascii '"']
  | none => asciis "\"\\ud800\""

def Number.render : Number → Octets
  | .integer true n => ascii '-' :: (Text.digits n).map ascii
  | .integer false n => (Text.digits n).map ascii
  | .real spelling => spelling

namespace Value

mutual

def render : Value → Octets
  | .null => asciis "null"
  | .bool true => asciis "true"
  | .bool false => asciis "false"
  | .number n => n.render
  | .string s => renderString s
  | .array items => ascii '[' :: renderItems items
  | .object members => ascii '\x7b' :: renderMembers members

def renderItems : List Value → Octets
  | [] => [ascii ']']
  | [v] => render v ++ [ascii ']']
  | v :: vs => render v ++ ascii ',' :: renderItems vs

def renderMembers : List (Option String × Value) → Octets
  | [] => [ascii '\x7d']
  | [(k, v)] => renderString k ++ ascii ':' :: render v ++ [ascii '\x7d']
  | (k, v) :: ms => renderString k ++ ascii ':' :: render v ++ ascii ',' :: renderMembers ms

end

end Value

example : (Value.record [("a", .texts ["x", "\n"]), ("b", .bool true)]).render
    = Octets.ofString "\x7b\"a\":[\"x\",\"\\n\"],\"b\":true\x7d" := by cbv

end ScopeGate.Json
