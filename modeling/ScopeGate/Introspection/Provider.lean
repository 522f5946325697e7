import ScopeGate.Introspection.Verdict
import ScopeGate.Text.Numeral

/-!
# The identity provider

The provider as its callers see it: it has an answer for every token, the answers change over time,
and it counts how often it was asked. A token that it does not know is not active. Where it fails to
give a verdict, or the caller goes away before it does, the answer is a fault.
-/

namespace ScopeGate

inductive IntrospectionFault where
  /-- The caller went away first. -/
  | canceled
  | deadlineExceeded
  /-- No reply came, for the reason given. -/
  | transport (reason : String)
  /-- The reply has a status other than success. -/
  | status (code : Nat)
  /-- The reply cannot be understood, for the reason given. -/
  | malformed (reason : String)
  deriving DecidableEq, Repr, Inhabited

namespace IntrospectionFault

def isCanceled : IntrospectionFault → Bool
  | canceled => true
  | _ => false

def message : IntrospectionFault → String
  | canceled => "introspection canceled"
  | deadlineExceeded => "introspection timed out"
  | transport reason => "introspection request failed: " ++ reason
  | status code => "unexpected introspection response status " ++ String.ofList (Text.digits code)
  | malformed reason => "malformed introspection response: " ++ reason

end IntrospectionFault

abbrev Answer := Except IntrospectionFault Verdict

structure Provider where
  answers : String → Answer
  /-- How often it was asked. -/
  calls : Nat

namespace Provider

def unknowing : Provider := ⟨fun _ => .ok .inactive, 0⟩

def setAnswer (token : String) (answer : Answer) (p : Provider) : Provider :=
  { p with answers := fun t => if t = token then answer else p.answers t }

/-- A provider with the given answers, of which the last one for a token counts. -/
def ofAnswers (answers : List (String × Answer)) : Provider :=
  answers.foldl (fun p a => p.setAnswer a.1 a.2) unknowing

def ask (token : String) (p : Provider) : Provider × Answer :=
  ({ p with calls := p.calls + 1 }, p.answers token)

end Provider

end ScopeGate
