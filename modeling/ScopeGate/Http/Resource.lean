/-!
# Resources

The target of a request names a resource in one of four forms: by its path, perhaps with a query; by
an absolute address, which names an authority before the path; by an authority alone; or by an
asterisk, which means all of them. A fragment may follow and is passed over.

`resourcePath?` gives the path, if the target has one of the forms and holds no character that may
not stand where it stands. An authority alone has an empty path, and an absolute address without a
path has the path of the root.
-/

namespace ScopeGate.Http

def endsPath (c : Char) : Bool := c == '?' || c == '#'

def isInPath (c : Char) : Bool := 0x20 < c.toNat && !(c == '<' || c == '>' || c == '\x60')

def isInQuery (c : Char) : Bool := 0x20 < c.toNat && !(c == '"' || c == '<' || c == '>')

def pathAt? (cs : List Char) : Option (List Char) :=
  let path := cs.takeWhile fun c => !endsPath c
  let rest := cs.drop path.length
  let query := if rest.head? = some '?' then rest.tail.takeWhile (· != '#') else []
  if path.all isInPath && query.all isInQuery then some path else none

/-- Whether a character may stand in an authority: a letter, a digit or one of the marks. -/
def isInAuthority (c : Char) : Bool := c.isAlphanum || "!$%&'()*+,-.:;=@[]_~".toList.contains c

structure AuthorityState where
  /-- The colons since the last at sign or closing bracket. -/
  colons : Nat := 0
  isOpened : Bool := false
  isClosed : Bool := false
  /-- Whether a percent sign has come since the last at sign or closing bracket. -/
  hasPercent : Bool := false
  endsWithAt : Bool := false

/-- Reads one character of an authority. Percent signs may stand before an at sign and in brackets
only, there is one pair of brackets at most, and at most eight colons follow one another. -/
def AuthorityState.next (s : AuthorityState) (c : Char) : Option AuthorityState :=
  let s := { s with endsWithAt := c == '@' }
  if !isInAuthority c then none
  else if c = ':' then if s.colons < 8 then some { s with colons := s.colons + 1 } else none
  else if c = '[' then if s.hasPercent || s.isOpened then none else some { s with isOpened := true }
  else if c = ']' then
    if !s.isOpened || s.isClosed then none
    else some { s with isClosed := true, colons := 0, hasPercent := false }
  else if c = '@' then some { s with colons := 0, hasPercent := false }
  else if c = '%' then some { s with hasPercent := true }
  else some s

/-- Whether an authority may end as it is: with one colon at most after the user. -/
def AuthorityState.mayEnd (s : AuthorityState) : Bool :=
  s.isOpened == s.isClosed && s.colons ≤ 1 && !s.hasPercent && !s.endsWithAt

def isAuthority (cs : List Char) : Bool :=
  !cs.isEmpty && ((cs.foldlM AuthorityState.next {}).map AuthorityState.mayEnd).getD false

def isInScheme (c : Char) : Bool := c.isAlphanum || "+-.~".toList.contains c

/-- What follows the scheme of an absolute address and the two slashes after it. -/
def afterAnyScheme? (cs : List Char) : Option (List Char) :=
  let scheme := cs.takeWhile isInScheme
  match cs.drop scheme.length with
  | ':' :: '/' :: '/' :: rest => if scheme.length ≤ 64 then some rest else none
  | _ => none

def resourcePath? (target : List Char) : Option (List Char) :=
  if target = ['*'] then some target
  else if target.head? = some '/' then pathAt? target
  else
    match afterAnyScheme? target with
    | none => if isAuthority target then some [] else none
    | some rest =>
      let authority := rest.takeWhile fun c => !(c == '/' || endsPath c)
      if isAuthority authority then
        (pathAt? (rest.drop authority.length)).map fun path => if path.isEmpty then ['/'] else path
      else none

example : resourcePath? "/a?b#c".toList = some "/a".toList := by decide

example : resourcePath? "http://h:80/a".toList = some "/a".toList := by decide

example : resourcePath? "/<".toList = none ∧ resourcePath? "http:/a".toList = none := by decide

end ScopeGate.Http
