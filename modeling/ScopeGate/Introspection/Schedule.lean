import ScopeGate.InFlight
import ScopeGate.Introspection.Introspector
import ScopeGate.Introspection.Provider

/-!
# Schedules of lookups

An introspector, the provider that it asks and the clock, driven by events: lookups begin, those
that wait for the provider are released one by one, time passes, and the provider's answers change.
The provider answers at the moment it is asked, but the answer arrives when the lookup is released.
-/

namespace ScopeGate.Introspection

inductive Question where
  /-- The verdict alone. -/
  | verdict
  /-- The verdict and whether it was served from the cache. -/
  | lookup
  deriving DecidableEq, Repr

structure Waiting where
  question : Question
  token : String
  answer : Answer

structure World where
  clock : Clock
  provider : Provider
  introspector : Introspector
  waiting : InFlight Waiting

inductive Event where
  /-- A lookup begins. With a name it waits under it for its answer, otherwise it runs to its end.
  -/
  | look (question : Question) (token : String) (call : Option String)
  /-- The answer for a lookup that waits arrives. -/
  | release (call : String)
  | purge
  | setAnswer (token : String) (answer : Answer)
  | advance (d : Duration)

inductive Reply where
  | answered (question : Question) (result : Except IntrospectionFault (Lookup Verdict))
  /-- The lookup waits for its answer. -/
  | pending (call : String)
  | noSuchCall
  | purged (dropped : Nat)
  | done

namespace World

def new (clock : Clock) (provider : Provider) (introspector : Introspector) : World :=
  ⟨clock, provider, introspector, {}⟩

def complete (l : Waiting) (w : World) : World × Reply × List LogEvent :=
  let (introspector, logs, result) := w.introspector.complete w.clock l.token l.answer
  ({ w with introspector }, .answered l.question result, logs)

def step (w : World) : Event → World × Reply × List LogEvent
  | .look question token call =>
    match w.introspector.begin w.clock token with
    | (introspector, some v) =>
      ({ w with introspector }, .answered question (.ok ⟨v, true⟩), [])
    | (introspector, none) =>
      let (provider, answer) := w.provider.ask token
      let w := { w with introspector, provider }
      match call with
      | none => w.complete ⟨question, token, answer⟩
      | some name =>
        ({ w with waiting := w.waiting.hold name ⟨question, token, answer⟩ }, .pending name, [])
  | .release name =>
    match w.waiting.find? name with
    | none => (w, .noSuchCall, [])
    | some l => { w with waiting := w.waiting.drop name }.complete l
  | .purge =>
    let (introspector, dropped) := w.introspector.purge w.clock.elapsed
    ({ w with introspector }, .purged dropped, [])
  | .setAnswer token answer => ({ w with provider := w.provider.setAnswer token answer }, .done, [])
  | .advance d => ({ w with clock := w.clock.advance d }, .done, [])

def run (w : World) (events : List Event) : World := events.foldl (fun w e => (w.step e).1) w

@[simp] theorem run_nil (w : World) : w.run [] = w := rfl

@[simp] theorem run_cons (w : World) (e : Event) (es : List Event) :
    w.run (e :: es) = (w.step e).1.run es := rfl

end World

end ScopeGate.Introspection
