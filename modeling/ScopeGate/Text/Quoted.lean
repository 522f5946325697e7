import ScopeGate.Text.Hidden
import ScopeGate.Text.Numeral

/-!
# Quoted text

Messages name a faulty value between double quotes, so that its blanks and its end can be seen. In
the quotes a quote and a backslash are written with a backslash before them, the tab, the line feed,
the carriage return and the null character by the letters `t`, `n`, `r` and `0`, and every other
hidden character by its code point in braces. A single quote stands for itself.

`quoted` writes one text, `quotedList` a list of texts in brackets.
-/

namespace ScopeGate.Text

def quotedChar (c : Char) : List Char :=
  if c = '\x00' then ['\\', '0']
  else if c = '\t' then ['\\', 't']
  else if c = '\r' then ['\\', 'r']
  else if c = '\n' then ['\\', 'n']
  else if c = '"' then ['\\', '"']
  else if c = '\\' then ['\\', '\\']
  else if isHidden c then ['\\', 'u', '\x7b'] ++ hexDigits c.toNat ++ ['\x7d']
  else [c]

def quoted (s : String) : String :=
  String.ofList ('"' :: s.toList.flatMap quotedChar ++ ['"'])

/-- The texts of a list between brackets, each quoted, with a comma and a space between them. -/
def quotedList (xs : List String) : String :=
  "[" ++ ", ".intercalate (xs.map quoted) ++ "]"

end ScopeGate.Text
