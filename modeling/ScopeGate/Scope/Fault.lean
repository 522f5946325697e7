import ScopeGate.Scope.Basic
import ScopeGate.Text.Quoted

/-!
# Faults of scopes

A scope is fit for registration when it is an alias, or when it is at most 255 bytes long and its
parts are names: a service and the segments of a permission consist of small letters, digits and
underscores, and the action is one of three words. `Scope.validate` reports the first fault in this
order: empty, too long, malformed, service, permission, action.
-/

namespace ScopeGate

inductive Action where
  | read
  | write
  | delete
  deriving DecidableEq, Repr

inductive ScopeFault where
  | empty
  /-- The length in bytes of a scope that is too long. -/
  | tooLong (bytes : Nat)
  | malformed (text : String)
  | service (text : String)
  | permission (text : String)
  | action (text : String)
  /-- A sound scope that no client may ask for. -/
  | notRegistered (text : String)
  /-- A permission outside the metadata of users. -/
  | notMetadata (text : String)
  deriving DecidableEq, Repr

def Scope.maxBytes : Nat := 255

def ScopeFault.message : ScopeFault → String
  | .empty => "scope cannot be empty"
  | .tooLong bytes =>
    s!"scope is {bytes} characters long, maximum is {Scope.maxBytes}"
  | .malformed text => "malformed scope: " ++ Text.quoted text
  | .service text => "invalid service " ++ Text.quoted text
  | .permission text => "invalid permission " ++ Text.quoted text
  | .action text => "invalid action " ++ Text.quoted text
  | .notRegistered text => "scope " ++ Text.quoted text ++ " is not allowed"
  | .notMetadata text => "permission " ++ Text.quoted text ++ " is not a metadata permission"

namespace Action

def all : List Action := [.read, .write, .delete]

def word : Action → String
  | .read => "read"
  | .write => "write"
  | .delete => "delete"

def ofWord (text : String) : Except ScopeFault Action :=
  match all.find? fun a => a.word == text with
  | some a => .ok a
  | none => .error (.action text)

theorem ofWord_word (a : Action) : ofWord a.word = .ok a := by cases a <;> cbv

end Action

def isNameChar (c : Char) : Bool :=
  ('a' ≤ c && c ≤ 'z') || ('0' ≤ c && c ≤ '9') || c == '_'

def isName (cs : List Char) : Bool := !cs.isEmpty && cs.all isNameChar

namespace Scope

/-- The first part that is not as names, paths of names and actions are. -/
def Parts.validate (p : Parts) : Except ScopeFault Unit :=
  if !isName p.service.toList then .error (.service p.service)
  else if !(p.permission.toList.splitOn segmentSeparator).all isName then
    .error (.permission p.permission)
  else if !Action.all.any (fun a => a.word == p.action) then .error (.action p.action)
  else .ok ()

def validate (s : Scope) : Except ScopeFault Unit :=
  if s.text.isEmpty then .error .empty
  else if maxBytes < s.text.utf8ByteSize then .error (.tooLong s.text.utf8ByteSize)
  else if s.isAlias then .ok ()
  else
    match s.parts? with
    | none => .error (.malformed s.text)
    | some p => p.validate

/-- The scope with a given service and permission, and an action that has a word. -/
def structured (service permission : String) (action : Action) : Scope :=
  Parts.toScope ⟨service, permission, action.word⟩

theorem validate_of_isAlias {s : Scope} (h : s.isAlias = true) : s.validate = .ok () := by
  obtain ⟨t⟩ := s
  simp only [isAlias, aliasTexts, List.contains_eq_mem, List.mem_cons, List.not_mem_nil, or_false,
    decide_eq_true_eq] at h
  rcases h with rfl | rfl | rfl | rfl | rfl | rfl <;> rfl

theorem isMalformed_eq_false_of_validate {s : Scope} (h : s.validate = .ok ()) :
    s.isMalformed = false := by
  simp only [validate] at h
  split at h
  · cases h
  · split at h
    · cases h
    · split at h
      · simp [isMalformed, *]
      · split at h
        · cases h
        · simp [isMalformed, *]

end Scope

end ScopeGate
