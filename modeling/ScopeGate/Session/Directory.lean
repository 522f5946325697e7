import ScopeGate.Session.Basic

/-!
# The session directory

The remote service that keeps the sessions. It reads a session or takes its user away, and counts
how often it was asked for either. Signing out a session that does not exist, or that nobody is
signed in to, succeeds. A fault can be put in its way: the next request then fails and changes
nothing.
-/

namespace ScopeGate

structure Directory where
  /-- What is filed under each identifier. Nothing makes it a session of that identifier. -/
  sessions : String → Option Session
  nextFault : Option SessionFault
  /-- How often a session was asked for. -/
  gets : Nat
  /-- How often a session was to be signed out. -/
  signOuts : Nat

namespace Directory

def empty : Directory := ⟨fun _ => none, none, 0, 0⟩

/-- Files a session under an identifier, or nothing at all. -/
def put (id : String) (session : Option Session) (d : Directory) : Directory :=
  { d with sessions := fun i => if i = id then session else d.sessions i }

/-- A directory with sessions of the given users, of which the last one for an identifier counts. -/
def ofSessions (sessions : List (String × Option SessionUser)) : Directory :=
  sessions.foldl (fun d s => d.put s.1 (some ⟨s.1, s.2⟩)) empty

def contains (id : String) (d : Directory) : Bool := (d.sessions id).isSome

def get (id : String) (d : Directory) : Directory × Except SessionFault Session :=
  let asked := { d with gets := d.gets + 1 }
  match d.nextFault with
  | some fault => ({ asked with nextFault := none }, .error fault)
  | none =>
    match d.sessions id with
    | none => (asked, .error .notFound)
    | some session => (asked, .ok session)

def signOut (id userId : String) (d : Directory) : Directory × Except SessionFault Unit :=
  let asked := { d with signOuts := d.signOuts + 1 }
  match d.nextFault with
  | some fault => ({ asked with nextFault := none }, .error fault)
  | none =>
    match d.sessions id with
    | none => (asked, .ok ())
    | some session =>
      if session.user.any fun user => user.id != userId then (asked, .error .userMismatch)
      else (asked.put id (some { session with user := none }), .ok ())

end Directory

end ScopeGate
