import ScopeGate.InFlight
import ScopeGate.Session.Directory
import ScopeGate.Session.Service

/-!
# Schedules of session calls

The session service, the directory that it asks and the clock, driven by events. A call that reaches
the directory is served there at once and then waits, if it has a name, until it is released or its
caller goes away. A caller that has gone away before the call begins keeps it from reaching the
directory, and one that goes away while it waits is told so whatever the directory said.
-/

namespace ScopeGate.Sessions

inductive Waiting where
  /-- A lookup, the number of sign-outs when it asked, and what the directory gave. -/
  | get (id : String) (epoch : Nat) (answer : Except SessionFault Session)
  /-- A sign-out and what the directory said. -/
  | signOut (id : String) (answer : Except SessionFault Unit)

structure World where
  clock : Clock
  directory : Directory
  service : SessionService
  waiting : InFlight Waiting

inductive Event where
  /-- A lookup begins. With a name it waits under it for its answer. -/
  | get (id : String) (call : Option String) (canceled : Bool)
  /-- A sign-out begins. -/
  | signOut (id userId : String) (call : Option String) (canceled : Bool)
  /-- The answer for a call that waits arrives. -/
  | release (call : String)
  /-- The caller of a call that waits goes away. -/
  | cancel (call : String)
  /-- A session is filed under an identifier. -/
  | store (id : String) (session : Session)
  | delete (id : String)
  /-- The next request to the directory is to fail. -/
  | failNext (fault : SessionFault)
  | advance (d : Duration)

def Event.put (id : String) (user : Option SessionUser) : Event := .store id ⟨id, user⟩

inductive Reply where
  | got (result : Except SessionFault (Lookup Session))
  | signedOut (result : Except SessionFault Unit)
  /-- The call waits for its answer. -/
  | pending (call : String)
  | noSuchCall
  /-- The session was deleted, if it existed. -/
  | deleted (existed : Bool)
  | done

namespace World

def new (clock : Clock) (directory : Directory) (service : SessionService) : World :=
  ⟨clock, directory, service, {}⟩

def complete (w : World) : Waiting → World × Reply × List Signal
  | .get id epoch answer =>
    let (service, result) := w.service.completeGet w.clock epoch id answer
    ({ w with service }, .got result, [.record (SessionService.fetchedRecord answer)])
  | .signOut id answer =>
    let (service, logs) := w.service.completeSignOut id answer
    ({ w with service }, .signedOut answer,
      logs.map .log ++ [.record (SessionService.signOutRecord answer)])

def Waiting.canceled : Waiting → Waiting
  | .get id epoch _ => .get id epoch (.error .canceled)
  | .signOut id _ => .signOut id (.error .canceled)

/-- Lets a call wait under its name, if it has one, and ends it otherwise. -/
def await (w : World) (call : Option String) (l : Waiting) : World × Reply × List Signal :=
  match call with
  | none => w.complete l
  | some name => ({ w with waiting := w.waiting.hold name l }, .pending name, [])

def resume (w : World) (name : String) (change : Waiting → Waiting) :
    World × Reply × List Signal :=
  match w.waiting.find? name with
  | none => (w, .noSuchCall, [])
  | some l => { w with waiting := w.waiting.drop name }.complete (change l)

def step (w : World) : Event → World × Reply × List Signal
  | .get id call canceled =>
    match w.service.beginGet w.clock id with
    | (service, some session) =>
      ({ w with service }, .got (.ok ⟨session, true⟩), [.record SessionService.servedRecord])
    | (service, none) =>
      let w := { w with service }
      let epoch := service.signOuts
      if canceled then w.complete (.get id epoch (.error .canceled))
      else
        let (directory, answer) := w.directory.get id
        { w with directory }.await call (.get id epoch answer)
  | .signOut id userId call canceled =>
    if canceled then w.complete (.signOut id (.error .canceled))
    else
      let (directory, answer) := w.directory.signOut id userId
      { w with directory }.await call (.signOut id answer)
  | .release name => w.resume name id
  | .cancel name => w.resume name Waiting.canceled
  | .store id session =>
    ({ w with directory := w.directory.put id (some session) }, .done, [])
  | .delete id =>
    ({ w with directory := w.directory.put id none }, .deleted (w.directory.contains id), [])
  | .failNext fault =>
    ({ w with directory := { w.directory with nextFault := some fault } }, .done, [])
  | .advance d => ({ w with clock := w.clock.advance d }, .done, [])

def run (w : World) (events : List Event) : World := events.foldl (fun w e => (w.step e).1) w

@[simp] theorem run_nil (w : World) : w.run [] = w := rfl

@[simp] theorem run_cons (w : World) (e : Event) (es : List Event) :
    w.run (e :: es) = (w.step e).1.run es := rfl

end World

end ScopeGate.Sessions
