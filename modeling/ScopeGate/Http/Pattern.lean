/-!
# Patterns of paths

A pattern says under which paths a page stands. A colon and a name up to the next slash stand for
the segment in their place, an asterisk and a name for all that remains, and every other character
for itself. What stands for a part of a path needs something to stand for: the end of a path is
nothing, but between two slashes a segment may be empty.

A pattern without colons and asterisks fits one path, see `fits_pieces_iff`.
-/

namespace ScopeGate.Http

inductive Piece where
  | char (c : Char)
  /-- Whatever is left of a segment. -/
  | segment
  /-- Whatever is left. -/
  | rest
  deriving DecidableEq, Repr

abbrev Pattern := List Piece

namespace Pattern

/-- The pattern that a text spells, read from inside a name or from outside of one. -/
def pieces (inName : Bool) : List Char → Pattern
  | [] => []
  | c :: cs =>
    if inName then if c = '/' then .char c :: pieces false cs else pieces true cs
    else if c = ':' then .segment :: pieces true cs
    else if c = '*' then [.rest]
    else .char c :: pieces false cs

def ofString (s : String) : Pattern := pieces false s.toList

def fits : Pattern → List Char → Bool
  | [], cs => cs.isEmpty
  | .char _ :: _, [] => false
  | .char c :: ps, d :: cs => c == d && fits ps cs
  | .segment :: ps, cs => !cs.isEmpty && fits ps (cs.dropWhile (· != '/'))
  | .rest :: _, cs => !cs.isEmpty

/-- A pattern in which every character stands for itself fits the path that it spells and no other.
-/
theorem fits_pieces_iff {cs : List Char} (h : ∀ c ∈ cs, c ≠ ':' ∧ c ≠ '*') (ds : List Char) :
    fits (pieces false cs) ds = true ↔ ds = cs := by
  induction cs generalizing ds with
  | nil => simp [pieces, fits]
  | cons c cs ih =>
    have hc := h c List.mem_cons_self
    have ih := ih fun d hd => h d (List.mem_cons_of_mem _ hd)
    cases ds with
    | nil => simp [pieces, hc.1, hc.2, fits]
    | cons d ds => simp [pieces, hc.1, hc.2, fits, ih, @eq_comm _ c d]

example : (ofString "/v1/:id").fits "/v1/a".toList ∧ ¬ (ofString "/v1/:id").fits "/v1/".toList := by
  decide

example : (ofString "/a/:b/c").fits "/a//c".toList ∧ (ofString "/a/*b").fits "/a/b/c".toList := by
  decide

end Pattern

end ScopeGate.Http
