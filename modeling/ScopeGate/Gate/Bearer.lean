import ScopeGate.Http.Message
import ScopeGate.Text.Blank

/-!
# Bearer tokens

The credential of a request is the value of its first `Authorization` field: the word `bearer` in
any case, one space, and the token, perhaps between blanks. Only the first field counts, and each
way in which it can fall short has a fault of its own.
-/

namespace ScopeGate

inductive BearerFault where
  | missing
  /-- The value holds octets other than those of printing ASCII characters and the tab. -/
  | notAscii
  | missingType
  /-- The value starts with another word than `bearer`. -/
  | invalidType (scheme : String)
  | emptyToken
  deriving DecidableEq, Repr

def BearerFault.message : BearerFault → String
  | .missing => "no token provided in Authorization header"
  | .notAscii => "Authorization header is not valid ASCII"
  | .missingType => "token type missing in Authorization header"
  | .invalidType scheme => "invalid token type " ++ scheme
  | .emptyToken => "empty bearer token"

namespace Bearer

/-- Whether an octet is the code of a printing ASCII character or of the tab. -/
def isVisible (b : UInt8) : Bool := (0x20 ≤ b && b ≤ 0x7E) || b == 0x09

def chars? (value : Octets) : Option (List Char) :=
  if value.all isVisible then some (value.map fun b => Char.ofNat b.toNat) else none

def cutAtSpace : List Char → Option (List Char × List Char)
  | [] => none
  | ' ' :: rest => some ([], rest)
  | c :: rest => (cutAtSpace rest).map fun r => (c :: r.1, r.2)

def isScheme (cs : List Char) : Bool := cs.map Char.toLower == "bearer".toList

def ofValue (value : Octets) : Except BearerFault String :=
  match chars? value with
  | none => .error .notAscii
  | some [] => .error .missing
  | some cs =>
    match cutAtSpace cs with
    | none => .error .missingType
    | some (scheme, rest) =>
      if !isScheme scheme then .error (.invalidType (String.ofList scheme))
      else
        match Text.trim rest with
        | [] => .error .emptyToken
        | token => .ok (String.ofList token)

def ofFields (fields : List Http.Field) : Except BearerFault String :=
  match Http.firstValue? "authorization" fields with
  | none => .error .missing
  | some value => ofValue value

theorem eq_of_cutAtSpace {cs l r : List Char} (h : cutAtSpace cs = some (l, r)) :
    cs = l ++ ' ' :: r ∧ ' ' ∉ l := by
  fun_induction cutAtSpace cs generalizing l r with
  | case1 => cases h
  | case2 rest =>
    cases h
    simp
  | case3 c rest hc ih =>
    obtain ⟨⟨l', r'⟩, hr, he⟩ := Option.map_eq_some_iff.mp h
    cases he
    obtain ⟨rfl, hl⟩ := ih hr
    simp only [List.cons_append, List.mem_cons, not_or, true_and]
    exact ⟨fun e => hc e.symm, hl⟩

example : ofValue (.ofString "BEARER  t ") = .ok "t" := by cbv

end Bearer

end ScopeGate
