import ScopeGate.Http.Host
import ScopeGate.Http.Resource

/-!
# Addresses

An absolute address names a host, perhaps with a port and with who it is visited for, and a resource
of the host. The reader is as forgiving as those of web clients: blanks around an address and line
breaks in it are dropped, backslashes count as slashes, and the letters of the scheme and of the
host may be of either case. In the path, segments of dots are resolved and what may not stand there
is written with percent signs.

An address is sound if a request can be sent to what is written, see `isSound`.
-/

namespace ScopeGate.Http

structure Address where
  scheme : String
  /-- Who the host is visited for, as it stands in the address. -/
  user : List Char
  host : Host
  port : Nat
  /-- The path, perhaps with a query after it. -/
  resource : List Char
  fragment : List Char
  deriving DecidableEq, Repr

namespace Address

def isSlash (c : Char) : Bool := c == '/' || c == '\\'

def endsHost (c : Char) : Bool := isSlash c || endsPath c

/-- The address without the control characters and spaces around it and the line breaks and tabs in
it. -/
def tidy (cs : List Char) : List Char :=
  let isOuter := fun c : Char => c.toNat ≤ 0x20
  ((cs.dropWhile isOuter).reverse.dropWhile isOuter).reverse.filter fun c =>
    !(c == '\t' || c == '\n' || c == '\r')

def scheme? (cs : List Char) : Option (String × List Char) :=
  let scheme := cs.takeWhile fun c => c.isAlphanum || "+-.".toList.contains c
  match cs.drop scheme.length with
  | ':' :: rest =>
    if scheme.head?.any Char.isAlpha then some (String.ofList (scheme.map Char.toLower), rest)
    else none
  | _ => none

/-- The port that is meant where none is given, for the schemes whose addresses always name a host.
-/
def usualPort? (scheme : String) : Option Nat :=
  [("http", 80), ("https", 443), ("ws", 80), ("wss", 443), ("ftp", 21)].lookup scheme

def afterUser (cs : List Char) : List Char := (cs.reverse.takeWhile (· != '@')).reverse

def userPart (cs : List Char) : List Char := ((cs.reverse.dropWhile (· != '@')).drop 1).reverse

def cutPort? (cs : List Char) : Option (List Char × Option Nat) :=
  let length :=
    if cs.head? = some '[' then (cs.takeWhile (· != ']')).length + 1
    else (cs.takeWhile (· != ':')).length
  match cs.drop length with
  | [] | [':'] => some (cs.take length, none)
  | ':' :: digits =>
    match Text.readDigits 65535 0 digits with
    | .ok n => some (cs.take length, some n)
    | .error _ => none
  | _ => none

def isDot (segment : List Char) : Bool :=
  [".", "%2e"].any fun d => segment.map Char.toLower = d.toList

def isDoubleDot (segment : List Char) : Bool :=
  ["..", ".%2e", "%2e.", "%2e%2e"].any fun d => segment.map Char.toLower = d.toList

/-- Whether a segment names a drive: a letter, and a colon or a bar after it. -/
def isDrive : List Char → Bool
  | [c, d] => c.isAlpha && (d == ':' || d == '|')
  | _ => false

/-- The segments of the place above, the last one first. There is none above a drive. -/
def above : List (List Char) → List (List Char)
  | [] => []
  | s :: before => if isDrive s then s :: before else before

/-- Resolves the segments of dots, given the segments before them, the last one first. -/
def resolve (before : List (List Char)) : List (List Char) → List (List Char)
  | [] => before.reverse
  | [s] =>
    if isDoubleDot s then ([] :: above before).reverse
    else if isDot s then ([] :: before).reverse
    else (s :: before).reverse
  | s :: t :: rest =>
    if isDoubleDot s then resolve (above before) (t :: rest)
    else if isDot s then resolve before (t :: rest)
    else resolve (s :: before) (t :: rest)

def escape (forbidden : List Char) (cs : List Char) : List Char :=
  (Octets.ofString (String.ofList cs)).flatMap fun b =>
    if b ≤ 0x20 || 0x7E < b || forbidden.contains (Char.ofNat b.toNat) then Text.percentOctet b
    else [Char.ofNat b.toNat]

def notInPath : List Char := ['"', '<', '>', '\x60', '#', '?', '\x7b', '\x7d']

def pathOf (segments : List (List Char)) : List Char :=
  '/' :: ['/'].intercalate ((resolve [] segments).map (escape notInPath))

/-- The segments in what stands in the place of a path. A slash may come first. -/
def segments (cs : List Char) : List (List Char) :=
  (if cs.head?.any isSlash then cs.tail else cs).splitOnP isSlash

def queryOf : List Char → List Char
  | '?' :: query => '?' :: escape ['"', '<', '>', '#', '\''] query
  | _ => []

def fragmentOf : List Char → List Char
  | '#' :: fragment => '#' :: escape ['"', '<', '>', '\x60'] fragment
  | _ => []

def cutResource (cs : List Char) : List Char × List Char × List Char :=
  let resource := cs.takeWhile (· != '#')
  let path := resource.takeWhile (· != '?')
  (path, resource.drop path.length, cs.drop resource.length)

def ofPlace? (scheme : String) (cs : List Char) : Option Address := do
  let usual ← usualPort? scheme
  let place := cs.takeWhile fun c => !endsHost c
  let (name, port) ← cutPort? (afterUser place)
  let host ← Host.ofText? name
  let (path, query, fragment) := cutResource (cs.drop place.length)
  return {
    scheme
    user := userPart place
    host
    port := port.getD usual
    resource := pathOf (segments path) ++ queryOf query
    fragment := fragmentOf fragment }

def userText (cs : List Char) : List Char :=
  let notInUser := notInPath ++ "/:;=@[\\]^|".toList
  let user := cs.takeWhile (· != ':')
  let password := (cs.drop user.length).tail
  if user.isEmpty && password.isEmpty then []
  else
    escape notInUser user
      ++ (if password.isEmpty then [] else ':' :: escape notInUser password) ++ ['@']

def text (a : Address) : List Char :=
  a.scheme.toList ++ "://".toList ++ userText a.user ++ a.host.text.toList
    ++ (if usualPort? a.scheme = some a.port then [] else ':' :: Text.digits a.port)
    ++ a.resource ++ a.fragment

def maxLength : Nat := 65534

/-- Whether a request can be sent to what is written: it is not too long and names a resource. -/
def isSound (text : List Char) : Bool :=
  text.length ≤ maxLength && (resourcePath? text).isSome

example : resolve [] ["a".toList, "..".toList, "b".toList] = ["b".toList] := by decide

example : resolve [] ["C:".toList, "..".toList] = ["C:".toList, []] := by decide

end Address

end ScopeGate.Http
