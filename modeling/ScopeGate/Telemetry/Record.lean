import ScopeGate.Text.Quoted

/-!
# Trace records

One traced operation is described by a record: a name, attributes in the order in which their keys
were first set, and a status. A key has one value, the last one set. Where an operation failed, the
full cause stands in an attribute and the status holds only what a caller may see.
-/

namespace ScopeGate

inductive AttributeValue where
  | bool (b : Bool)
  | string (s : String)
  | strings (xs : List String)
  deriving DecidableEq, Repr

inductive TraceStatus where
  | unset
  | ok
  /-- A failure, in words that a caller may see. -/
  | error (safeMessage : String)
  deriving DecidableEq, Repr

structure TraceRecord where
  name : String
  attributes : List (String × AttributeValue)
  status : TraceStatus
  deriving DecidableEq, Repr

/-! ## Keys of attributes -/

namespace Key

def clientId : String := "client_id"
def tokenExpiresAt : String := "token_expires_at"
def tokenScopes : String := "token_scopes"
def requiredScopes : String := "required_scopes"
def tokenFromCache : String := "token.from_cache"
def sessionFromCache : String := "sams.session.from_cache"
def transport : String := "transport"
def procedure : String := "procedure"
def fullError : String := "full_error"

end Key

def AttributeValue.inspect : AttributeValue → String
  | .bool b => "Bool(" ++ (if b then "true" else "false") ++ ")"
  | .string s => "String(" ++ Text.quoted s ++ ")"
  | .strings xs => "StringList(" ++ Text.quotedList xs ++ ")"

namespace TraceRecord

def new (name : String) : TraceRecord := ⟨name, [], .unset⟩

/-- Gives a key a value in a list of attributes, in its place if it has one and at the end
otherwise. -/
def setIn (key : String) (value : AttributeValue) :
    List (String × AttributeValue) → List (String × AttributeValue)
  | [] => [(key, value)]
  | a :: rest => if a.1 = key then (a.1, value) :: rest else a :: setIn key value rest

def set (key : String) (value : AttributeValue) (r : TraceRecord) : TraceRecord :=
  { r with attributes := setIn key value r.attributes }

def setBool (key : String) (b : Bool) (r : TraceRecord) : TraceRecord := r.set key (.bool b)

def setString (key : String) (s : String) (r : TraceRecord) : TraceRecord := r.set key (.string s)

def setStrings (key : String) (xs : List String) (r : TraceRecord) : TraceRecord :=
  r.set key (.strings xs)

def get? (key : String) (r : TraceRecord) : Option AttributeValue :=
  (r.attributes.find? fun a => a.1 = key).map Prod.snd

def bool? (key : String) (r : TraceRecord) : Option Bool :=
  match r.get? key with
  | some (.bool b) => some b
  | _ => none

def string? (key : String) (r : TraceRecord) : Option String :=
  match r.get? key with
  | some (.string s) => some s
  | _ => none

def markOk (r : TraceRecord) : TraceRecord := { r with status := .ok }

/-- Records a failure: the full cause as an attribute, the safe words as the status. -/
def markError (fullError safeMessage : String) (r : TraceRecord) : TraceRecord :=
  { r.setString Key.fullError fullError with status := .error safeMessage }

def inspectAttributes (r : TraceRecord) : String :=
  "[" ++ ", ".intercalate
    (r.attributes.map fun a => "(" ++ Text.quoted a.1 ++ ", " ++ a.2.inspect ++ ")") ++ "]"

theorem get?_set_self (key : String) (value : AttributeValue) (r : TraceRecord) :
    (r.set key value).get? key = some value := by
  obtain ⟨name, attributes, status⟩ := r
  induction attributes with
  | nil => simp [set, setIn, get?]
  | cons a rest ih =>
    by_cases h : a.1 = key
    · simp [set, setIn, get?, h]
    · simpa [set, setIn, get?, h] using ih

theorem get?_set_of_ne {key other : String} (value : AttributeValue) (r : TraceRecord)
    (hne : other ≠ key) : (r.set key value).get? other = r.get? other := by
  obtain ⟨name, attributes, status⟩ := r
  induction attributes with
  | nil => simp [set, setIn, get?, Ne.symm hne]
  | cons a rest ih =>
    by_cases h : a.1 = key
    · simp [set, setIn, get?, h, Ne.symm hne]
    · by_cases ho : a.1 = other
      · simp [set, setIn, get?, ho, hne]
      · simpa [set, setIn, get?, h, ho] using ih

end TraceRecord

end ScopeGate
