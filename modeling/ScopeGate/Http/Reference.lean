import ScopeGate.Http.Target

/-!
# References

A reference says where something is, seen from a target: by an address, by what follows the scheme
of one, by a path from the root of the host or from the place of the target, by a query or by a
fragment alone. An empty one means the target itself.

Not all that a reference may lead to speaks plain HTTP. `destination?` tells the destinations that
are targets from the others, and gives none where no request can name what is meant.
-/

namespace ScopeGate.Http

inductive Destination where
  | target (t : Target)
  /-- Somewhere where plain HTTP does not lead. -/
  | elsewhere
  deriving DecidableEq, Repr

namespace Destination

def ofAddress? (a : Address) : Option Destination :=
  if !Address.isSound a.text then none
  else if a.scheme = "http" then some (.target (.ofAddress a))
  else some .elsewhere

/-- The destination that is written as no target is, if a request can be sent there. -/
def ofText? (text : List Char) : Option Destination :=
  if Address.isSound text then some .elsewhere else none

/-- Reads what follows the scheme of a file. It has to name a host, and another than this one. -/
def ofFile? : List Char → Option Destination
  | c :: d :: cs =>
    let place := cs.takeWhile fun c => !Address.endsHost c
    match Host.ofText? place with
    | some host =>
      if Address.isSlash c && Address.isSlash d && host != .name "localhost" then
        ofText? ("file://".toList ++ host.text.toList)
      else none
    | none => none
  | _ => none

/-- The part of an address that names a host and a port, as it is written for schemes without a
usual port. -/
def placeText? (place : List Char) : Option (List Char) := do
  let (name, port) ← Address.cutPort? (Address.afterUser place)
  let isName :=
    match name with
    | [] => false
    | '[' :: rest => rest.getLast? = some ']' && Host.isV6 rest.dropLast
    | _ => !(name.contains '[' || name.contains ']')
  let port := (port.map fun n => ':' :: Text.digits n).getD []
  if isName then some (Address.userText (Address.userPart place) ++ name ++ port) else none

def ofOther? (scheme : String) : List Char → Option Destination
  | '/' :: '/' :: cs => do
    let place := cs.takeWhile fun c => !(c == '/' || endsPath c)
    let rest := Address.escape ['"', '<', '>', '\x60', '\x7b', '\x7d'] (cs.drop place.length)
    ofText? (scheme.toList ++ "://".toList ++ (← placeText? place) ++ rest)
  | cs => ofText? (scheme.toList ++ ':' :: cs)

end Destination

namespace Target

/-- The resource that a reference without a host names, seen from a target, and the fragment. -/
def resource (reference : List Char) (t : Target) : List Char × List Char :=
  let (path, query, fragment) := Address.cutResource reference
  let own := Address.cutResource t.path.toList
  let resource :=
    if path.isEmpty then own.1 ++ if query.isEmpty then own.2.1 else Address.queryOf query
    else
      let before :=
        if path.head?.any Address.isSlash then [] else (Address.segments own.1).dropLast
      Address.pathOf (before ++ Address.segments path) ++ Address.queryOf query
  (resource, Address.fragmentOf fragment)

/-- Where a reference without a scheme leads. Two slashes in front stand before a host. -/
def follow? (reference : List Char) (t : Target) : Option Destination :=
  let slashes := (reference.takeWhile Address.isSlash).length
  if slashes < 2 then
    let (resource, fragment) := t.resource reference
    Destination.ofAddress? (t.address resource fragment)
  else
    let place := reference.drop (if reference.take 2 = ['/', '/'] then 2 else slashes)
    (Address.ofPlace? "http" place).bind Destination.ofAddress?

def destination? (reference : String) (t : Target) : Option Destination :=
  let cs := Address.tidy reference.toList
  match Address.scheme? cs with
  | none => t.follow? cs
  | some (scheme, rest) =>
    let slashes := (rest.takeWhile Address.isSlash).length
    if scheme = "http" && slashes < 2 then t.follow? rest
    else if (Address.usualPort? scheme).isSome then
      (Address.ofPlace? scheme (rest.drop slashes)).bind Destination.ofAddress?
    else if scheme = "file" then Destination.ofFile? rest
    else Destination.ofOther? scheme rest

example : (Target.mk (.name "h") 80 "/a/b?c" none).resource "d".toList = ("/a/d".toList, []) := by
  decide +kernel

example : (Target.mk (.name "h") 80 "/a/b?c" none).resource "?d".toList
    = ("/a/b?d".toList, []) := by decide +kernel

example : (Target.mk (.name "h") 80 "/a/b?c" none).resource [] = ("/a/b?c".toList, []) := by
  decide +kernel

end Target

end ScopeGate.Http
