import ScopeGate.Http.Address

/-!
# Targets of requests

Where a request goes: a host, a port, and a path with perhaps a query. A target is read from the
address of something that speaks plain HTTP, see `ScopeGate.Http.Address`; a fragment at its end is
passed over. A user before the host, perhaps with a password, is who the request is sent for, and no
part of what the request names.
-/

namespace ScopeGate.Http

structure Target where
  host : Host
  port : Nat
  /-- The path, perhaps with a query after it. -/
  path : String
  /-- The user and the password with a colon between them, if the address names them. -/
  credentials : Option String
  deriving DecidableEq, Repr

namespace Target

/-- The user and the password that stand before the host, with a colon between them. A password that
is not a text is passed over, and so are both if the user is not one. -/
def credentials? (cs : List Char) : Option String := do
  let (user, rest) := cs.span (· != ':')
  let user ← Text.unpercented? user
  let password := if rest.length ≤ 1 then none else Text.unpercented? rest.tail
  if user.isEmpty && password.isNone then none else some (user ++ ":" ++ password.getD "")

def ofAddress (a : Address) : Target :=
  ⟨a.host, a.port, String.ofList a.resource, credentials? a.user⟩

/-- The address of a target without its user, with another resource and a fragment. -/
def address (resource fragment : List Char) (t : Target) : Address :=
  ⟨"http", [], t.host, t.port, resource, fragment⟩

def ofUrl? (url : String) : Option Target := do
  let (scheme, rest) ← Address.scheme? (Address.tidy url.toList)
  let a ← Address.ofPlace? scheme (rest.dropWhile Address.isSlash)
  let length := { a with user := [] }.text.length
  if scheme = "http" && length ≤ Address.maxLength then some (ofAddress a) else none

def isBeside (s t : Target) : Bool := s.host == t.host && s.port == t.port

example : credentials? "a:b:c".toList = some "a:b:c" ∧ credentials? "a".toList = some "a:" := by
  decide +kernel

example : credentials? [] = none ∧ credentials? [':'] = none := by decide +kernel

end Target

end ScopeGate.Http
