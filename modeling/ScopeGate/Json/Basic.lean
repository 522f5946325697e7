import ScopeGate.Text.Octets

/-!
# JSON values

The values of JSON as a document spells them. Two things are kept that a plain tree would lose. A
number is kept as an integer only if it is spelled as one, without a fraction or an exponent. A
string may spell no text, because its octets are not UTF-8 or an escape names half of a pair; such a
string is refused where it is read, and does no harm in a member that nobody reads.

A record has fields with fixed names. It is read from an object by name, where members of other
names are left alone and a field may be given once only, or from an array by position, where fields
may be left off at the end. `Value.fields?` gives what was found for each field; which fields may be
missing, and what they hold, is for the reader of the record to say.
-/

namespace ScopeGate.Json

inductive Number where
  | integer (negative : Bool) (magnitude : Nat)
  /-- A number with a fraction or an exponent, by its spelling. -/
  | real (spelling : Octets)
  deriving DecidableEq, Repr

/-- A value. A string that spells no text is `none`. -/
inductive Value where
  | null
  | bool (b : Bool)
  | number (n : Number)
  | string (s : Option String)
  | array (items : List Value)
  | object (members : List (Option String × Value))
  deriving Repr, Inhabited

namespace Value

def text (s : String) : Value := .string (some s)

def record (members : List (String × Value)) : Value :=
  .object (members.map fun m => (some m.1, m.2))

def texts (xs : List String) : Value := .array (xs.map text)

def nat (n : Nat) : Value := .number (.integer false n)

def bool? : Value → Option Bool
  | .bool b => some b
  | _ => none

def text? : Value → Option String
  | .string s => s
  | _ => none

def texts? : Value → Option (List String)
  | .array items => items.mapM text?
  | _ => none

/-- The integer of a number that is spelled as one. A zero with a minus sign is not an integer. -/
def int? : Value → Option Int
  | .number (.integer false n) => some n
  | .number (.integer true 0) => none
  | .number (.integer true n) => some (-n)
  | _ => none

@[simp] theorem text?_text (s : String) : (text s).text? = some s := rfl

@[simp] theorem bool?_bool (b : Bool) : (bool b).bool? = some b := rfl

@[simp] theorem texts?_texts (xs : List String) : (texts xs).texts? = some xs := by
  rw [texts, texts?]
  induction xs with
  | nil => rfl
  | cons x xs ih => simp [List.map_cons, List.mapM_cons, ih]

end Value

def member? (name : String) (members : List (Option String × Value)) : Option Value :=
  (members.find? fun m => m.1 = some name).map Prod.snd

/-- Whether every name of a member spells a text and each of the given names occurs at most once. -/
def namesAreSound (names : List String) (members : List (Option String × Value)) : Bool :=
  members.all (fun m => m.1.isSome)
    && names.all fun name => (members.countP fun m => m.1 = some name) ≤ 1

/-- What a value holds for each of the named fields, if it can be read as a record with them. -/
def Value.fields? (names : List String) : Value → Option (List (Option Value))
  | .object members =>
    if namesAreSound names members then some (names.map fun name => member? name members) else none
  | .array items =>
    if items.length ≤ names.length then
      some (items.map some ++ List.replicate (names.length - items.length) none)
    else none
  | _ => none

def optionalField? {α : Type} (read : Value → Option α) : Option Value → Option (Option α)
  | none => some none
  | some .null => some none
  | some v => (read v).map some

def fieldWithDefault? {α : Type} (read : Value → Option α) (default : α) :
    Option Value → Option α
  | none => some default
  | some v => read v

end ScopeGate.Json
