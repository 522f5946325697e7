/-!
# Blank characters

A character is blank when Unicode gives it the property `White_Space`: twenty-five code points, of
which six are ASCII. Claims that list scopes, and numbers read from the environment, are cut at
these and at no others, so that a zero-width space or an information separator stays part of the
text around it.

`trim` drops the blanks on both sides, `words` lists the maximal runs of what is not blank.
-/

namespace ScopeGate.Text

/-- The code points with the property `White_Space`, as closed ranges in increasing order. -/
def blankRanges : List (Nat × Nat) :=
  [(0x09, 0x0D), (0x20, 0x20), (0x85, 0x85), (0xA0, 0xA0), (0x1680, 0x1680), (0x2000, 0x200A),
    (0x2028, 0x2029), (0x202F, 0x202F), (0x205F, 0x205F), (0x3000, 0x3000)]

def inRanges (ranges : List (Nat × Nat)) (n : Nat) : Bool :=
  ranges.any fun r => r.1 ≤ n && n ≤ r.2

def isBlank (c : Char) : Bool := inRanges blankRanges c.toNat

def trimLeft (cs : List Char) : List Char := cs.dropWhile isBlank

def trimRight (cs : List Char) : List Char := (cs.reverse.dropWhile isBlank).reverse

def trim (cs : List Char) : List Char := trimRight (trimLeft cs)

/-- The maximal runs of characters that are not blank, in order. -/
def words (cs : List Char) : List (List Char) :=
  (cs.splitOnP isBlank).filter fun w => !w.isEmpty

@[simp] theorem words_nil : words [] = [] := rfl

theorem words_cons_of_isBlank {c : Char} (h : isBlank c = true) (cs : List Char) :
    words (c :: cs) = words cs := by
  simp [words, List.splitOnP_cons_eq_if_modifyHead, h]

example : isBlank '\u200b' = false ∧ isBlank '\x1c' = false ∧ isBlank '\u3000' = true := by decide

example : words " openid\tprofile\n".toList = ["openid".toList, "profile".toList] := by cbv

end ScopeGate.Text
