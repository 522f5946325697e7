import ScopeGate.Gate.Authorizer

/-!
# Records compared but for some values

Two runs may leave records that differ in the values of a few attributes only. `masked keys` puts
one and the same value in the place of whatever the keys hold, so that such records become equal.
The keys themselves, their order, the name and the status stay.

Masking goes through every way in which a check adds to its record: what is set under a masked key
no longer matters, and everything else is set as before.
-/

namespace ScopeGate.TraceRecord

/-- The record with the values of the keys blotted out. -/
def masked (keys : List String) (r : TraceRecord) : TraceRecord :=
  { r with
    attributes := r.attributes.map fun a => if a.1 ∈ keys then (a.1, .bool false) else a }

theorem masked_set (keys : List String) (key : String) (value : AttributeValue) (r : TraceRecord) :
    (r.set key value).masked keys =
      (r.masked keys).set key (if key ∈ keys then .bool false else value) := by
  obtain ⟨name, attributes, status⟩ := r
  simp only [masked, set, TraceRecord.mk.injEq, true_and, and_true]
  induction attributes with
  | nil => by_cases hk : key ∈ keys <;> simp [setIn, hk]
  | cons a rest ih =>
    by_cases ha : a.1 = key
    · subst ha
      by_cases hk : a.1 ∈ keys <;> simp [setIn, hk]
    · have hmasked : (if a.1 ∈ keys then (a.1, AttributeValue.bool false) else a).1 ≠ key := by
        split <;> exact ha
      simp only [setIn, if_neg ha, List.map_cons, if_neg hmasked, ih]

section

variable {keys : List String} {key : String} (r : TraceRecord)

theorem masked_setBool (h : key ∈ keys) (b : Bool) :
    (r.setBool key b).masked keys = (r.masked keys).setBool key false := by
  rw [setBool, masked_set, if_pos h, setBool]

theorem masked_setBool_of_notMem (h : key ∉ keys) (b : Bool) :
    (r.setBool key b).masked keys = (r.masked keys).setBool key b := by
  rw [setBool, masked_set, if_neg h, setBool]

theorem masked_setString_of_mem (h : key ∈ keys) (s : String) :
    (r.setString key s).masked keys = (r.masked keys).setBool key false := by
  rw [setString, masked_set, if_pos h, setBool]

theorem masked_setString (h : key ∉ keys) (s : String) :
    (r.setString key s).masked keys = (r.masked keys).setString key s := by
  rw [setString, masked_set, if_neg h, setString]

theorem masked_setStrings (h : key ∉ keys) (xs : List String) :
    (r.setStrings key xs).masked keys = (r.masked keys).setStrings key xs := by
  rw [setStrings, masked_set, if_neg h, setStrings]

theorem masked_setDecision (h : Key.fullError ∉ keys) (decision : Except Rejection ClientInfo) :
    (r.setDecision decision).masked keys = (r.masked keys).setDecision decision := by
  cases decision with
  | ok client => rfl
  | error rejection =>
    have hset := masked_setString r h rejection.message
    exact congrArg (fun s : TraceRecord => { s with status := .error rejection.safeMessage }) hset

def verdictKeys : List String :=
  [Key.tokenFromCache, Key.clientId, Key.tokenExpiresAt, Key.tokenScopes]

theorem masked_setVerdict_of_notMem (h : ∀ key ∈ verdictKeys, key ∉ keys) (l : Lookup Verdict) :
    (r.setVerdict l).masked keys = (r.masked keys).setVerdict l := by
  have hcache : Key.tokenFromCache ∉ keys := h _ (by decide)
  have hclient : Key.clientId ∉ keys := h _ (by decide)
  have hexpires : Key.tokenExpiresAt ∉ keys := h _ (by decide)
  have hscopes : Key.tokenScopes ∉ keys := h _ (by decide)
  rw [setVerdict, masked_setStrings _ hscopes, masked_setString _ hexpires,
    masked_setString _ hclient, masked_setBool_of_notMem _ hcache, setVerdict]

/-- Whether a verdict was from the cache is all that is blotted out of its attributes. -/
theorem masked_setVerdict (l : Lookup Verdict) :
    (r.setVerdict l).masked [Key.tokenFromCache] =
      (r.masked [Key.tokenFromCache]).setVerdict ⟨l.value, false⟩ := by
  have hclient : Key.clientId ∉ [Key.tokenFromCache] := by decide
  have hexpires : Key.tokenExpiresAt ∉ [Key.tokenFromCache] := by decide
  have hscopes : Key.tokenScopes ∉ [Key.tokenFromCache] := by decide
  rw [setVerdict, masked_setStrings _ hscopes, masked_setString _ hexpires,
    masked_setString _ hclient, masked_setBool _ List.mem_cons_self, setVerdict]

end

end ScopeGate.TraceRecord
