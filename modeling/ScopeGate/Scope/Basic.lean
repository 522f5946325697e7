/-!
# Scopes

A scope is any text. Two kinds of scope carry meaning. An alias is one of six literals. A structured
scope names a service, a permission and an action, written with two colons between them; its
permission is a path of segments with dots between them, the broadest first.

`Scope.parts?` takes a structured scope apart and `Parts.toScope` puts one together. The cut is made
at the leftmost two colons and then further right without overlap, so in three colons in a row the
third belongs to the part that follows. A scope that is neither an alias nor structured is
malformed: it stays a scope, since tokens may carry any text, but it takes part in no match.
-/

namespace ScopeGate

structure Scope where
  text : String
  deriving DecidableEq, Repr, Inhabited

namespace Scope

def separator : String := "::"

def segmentSeparator : Char := '.'

def aliasTexts : List String :=
  ["openid", "profile", "email", "offline_access", "client.ssc", "client.dotcom"]

def profile : Scope := ⟨"profile"⟩

def isAlias (s : Scope) : Bool := aliasTexts.contains s.text

/-- What a structured scope names. Parts put together by hand may hold any text. -/
structure Parts where
  service : String
  permission : String
  action : String
  deriving DecidableEq, Repr

namespace Parts

def segments (p : Parts) : List String :=
  (p.permission.toList.splitOn segmentSeparator).map String.ofList

def depth (p : Parts) : Nat := p.segments.length

def toScope (p : Parts) : Scope :=
  ⟨p.service ++ separator ++ p.permission ++ separator ++ p.action⟩

/-- Whether the permission of `p` is that of `q` or one that `q` narrows by further segments: what
is left of `q`'s permission after `p`'s is nothing or starts with a dot. Service and action play no
part. -/
def permissionCovers (p q : Parts) : Bool :=
  match p.permission.toList.isPrefixOf? q.permission.toList with
  | none => false
  | some [] => true
  | some (c :: _) => c == segmentSeparator

end Parts

/-- The pieces of a text between its pairs of colons, found from the left without overlap. -/
def pieces : List Char → List (List Char)
  | ':' :: ':' :: cs => [] :: pieces cs
  | c :: cs => (pieces cs).modifyHead (c :: ·)
  | [] => [[]]

/-- The parts of a structured scope: exactly three pieces, none of them empty, and no empty segment
in the permission. -/
def parts? (s : Scope) : Option Parts :=
  match pieces s.text.toList with
  | [service, permission, action] =>
    if service.isEmpty || action.isEmpty
        || (permission.splitOn segmentSeparator).any List.isEmpty then
      none
    else
      some ⟨String.ofList service, String.ofList permission, String.ofList action⟩
  | _ => none

def isMalformed (s : Scope) : Bool := !s.isAlias && s.parts?.isNone

/-- The structured scope that an alias grants besides itself. Only `profile` has one. -/
def aliasParts? (s : Scope) : Option Parts :=
  if s = profile then some ⟨"sams", "user.profile", "read"⟩ else none

def le (s t : Scope) : Bool := !decide (t.text < s.text)

def sortDistinct (scopes : List Scope) : List Scope :=
  (scopes.mergeSort le).foldr (fun s rest => if rest.head? = some s then rest else s :: rest) []

theorem pieces_nil : pieces [] = [[]] := by simp [pieces]

theorem pieces_separator (cs : List Char) : pieces (':' :: ':' :: cs) = [] :: pieces cs := by
  simp [pieces]

theorem pieces_ne_nil (cs : List Char) : pieces cs ≠ [] := by
  induction cs using pieces.induct with
  | case1 cs ih => simp [pieces]
  | case2 c cs h ih =>
    rw [pieces]
    · cases hp : pieces cs with
      | nil => exact absurd hp ih
      | cons p ps => simp
    · exact h
  | case3 => simp [pieces]

theorem parts?_eq_none_of_isAlias {s : Scope} (h : s.isAlias = true) : s.parts? = none := by
  obtain ⟨t⟩ := s
  simp only [isAlias, aliasTexts, List.contains_eq_mem, List.mem_cons, List.not_mem_nil, or_false,
    decide_eq_true_eq] at h
  rcases h with rfl | rfl | rfl | rfl | rfl | rfl <;> cbv

example : (Scope.mk "a:::b::c").parts? = some ⟨"a", ":b", "c"⟩ := by cbv
example : (Scope.mk "a::b::c::d").parts? = none := by cbv
example : (Scope.mk "a::b..c::d").parts? = none := by cbv

end Scope

end ScopeGate
