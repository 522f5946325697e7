import ScopeGate.Scope.Basic

/-!
# Coverage

Whether what a credential was granted meets what an endpoint requires. A granted scope meets a
required one when the two are the same text, when it is the alias whose structured meaning is
exactly the required scope, or when both are structured, name the same service and action, and the
permission of the first covers that of the second. So a broad grant meets narrow requirements and
never the reverse. A malformed requirement is met by nothing, not even by itself.
-/

namespace ScopeGate

namespace Scope

/-- Whether the granted scope `g` meets the requirement `r`, which is known to be well-formed. -/
def meets (g r : Scope) : Bool :=
  if g = r then true
  else if g.isAlias then
    match g.aliasParts?, r.parts? with
    | some p, some q => p == q
    | _, _ => false
  else
    match g.parts?, r.parts? with
    | some p, some q => p.service == q.service && p.action == q.action && p.permissionCovers q
    | _, _ => false

def anyMeets (granted : List Scope) (r : Scope) : Bool :=
  if r.isMalformed then false else granted.any fun g => g.meets r

theorem anyMeets_eq_false_of_isMalformed {r : Scope} (h : r.isMalformed = true)
    (granted : List Scope) : anyMeets granted r = false := by
  simp [anyMeets, h]

@[simp] theorem anyMeets_nil (r : Scope) : anyMeets [] r = false := by
  simp [anyMeets]

end Scope

/-- The scopes granted to a credential, in the order in which they were granted. -/
structure Grants where
  scopes : List Scope
  deriving DecidableEq, Repr, Inhabited

namespace Grants

def ofTexts (texts : List String) : Grants := ⟨texts.map Scope.mk⟩

def texts (g : Grants) : List String := g.scopes.map Scope.text

def meet (g : Grants) (r : Scope) : Bool := Scope.anyMeets g.scopes r

def firstUnmet (g : Grants) (required : List Scope) : Option Scope :=
  required.find? fun r => !g.meet r

def meetAll (g : Grants) (required : List Scope) : Bool := (g.firstUnmet required).isNone

@[simp] theorem texts_ofTexts (texts : List String) : (ofTexts texts).texts = texts := by
  simp [ofTexts, Grants.texts, Function.comp_def]

theorem meetAll_iff (g : Grants) (required : List Scope) :
    g.meetAll required = true ↔ ∀ r ∈ required, g.meet r = true := by
  simp [meetAll, firstUnmet, List.find?_eq_none]

end Grants

end ScopeGate
