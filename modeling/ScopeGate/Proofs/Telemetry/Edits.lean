import Mathlib.Data.List.Induction
import Mathlib.Data.List.Nodup
import ScopeGate.Telemetry.Record

/-!
# What a record holds after edits

A record is written by edits: a value is set under a key, or the operation is marked as ended. What
an edit sets and what it marks are read off the edit alone (`setting?`, `mark?`); marking an error
does both, and its mark holds the safe words only.

The record holds of a sequence of edits what was set last under each key and what was marked last.
Its keys stand in the order in which they were set first, since a value that takes the place of
another one leaves the key where it is.
-/

namespace ScopeGate.TraceRecord

inductive Edit where
  | setBool (key : String) (b : Bool)
  | setString (key s : String)
  | setStrings (key : String) (xs : List String)
  | markOk
  | markError (fullError safeMessage : String)
  deriving DecidableEq, Repr

def edit (r : TraceRecord) : Edit → TraceRecord
  | .setBool key b => r.setBool key b
  | .setString key s => r.setString key s
  | .setStrings key xs => r.setStrings key xs
  | .markOk => r.markOk
  | .markError full safe => r.markError full safe

def edited (r : TraceRecord) (edits : List Edit) : TraceRecord := edits.foldl edit r

namespace Edit

def setting? : Edit → Option (String × AttributeValue)
  | setBool key b => some (key, .bool b)
  | setString key s => some (key, .string s)
  | setStrings key xs => some (key, .strings xs)
  | markOk => none
  | markError full _ => some (Key.fullError, .string full)

def mark? : Edit → Option TraceStatus
  | markOk => some .ok
  | markError _ safe => some (.error safe)
  | _ => none

end Edit

/-- What the edits set, in order. -/
def settings (edits : List Edit) : List (String × AttributeValue) := edits.filterMap Edit.setting?

/-- The value that the edits set last under a key. -/
def lastValue? (key : String) (edits : List Edit) : Option AttributeValue :=
  ((settings edits).filter fun a => a.1 = key).getLast?.map Prod.snd

/-- The status that the edits mark last. -/
def lastMark? (edits : List Edit) : Option TraceStatus := (edits.filterMap Edit.mark?).getLast?

def keys (r : TraceRecord) : List String := r.attributes.map Prod.fst

/-! ## One edit -/

theorem status_edit (r : TraceRecord) (e : Edit) : (r.edit e).status = e.mark?.getD r.status := by
  cases e <;> rfl

theorem name_edit (r : TraceRecord) (e : Edit) : (r.edit e).name = r.name := by
  cases e <;> rfl

/-- A key that is set keeps its place if it has one, and otherwise gets the last one. -/
theorem map_fst_setIn (key : String) (value : AttributeValue)
    (attributes : List (String × AttributeValue)) :
    (setIn key value attributes).map Prod.fst =
      if key ∈ attributes.map Prod.fst then attributes.map Prod.fst
      else attributes.map Prod.fst ++ [key] := by
  induction attributes with
  | nil => rfl
  | cons a rest ih =>
    by_cases h : a.1 = key
    · simp [setIn, h]
    · have hne : key ≠ a.1 := fun hkey => h hkey.symm
      simp only [setIn, if_neg h, List.map_cons, ih, List.mem_cons, hne, false_or]
      split <;> rfl

theorem keys_set (key : String) (value : AttributeValue) (r : TraceRecord) :
    (r.set key value).keys = if key ∈ r.keys then r.keys else r.keys ++ [key] :=
  map_fst_setIn key value r.attributes

theorem keys_edit (r : TraceRecord) (e : Edit) :
    (r.edit e).keys =
      match e.setting? with
      | none => r.keys
      | some (key, value) => (r.set key value).keys := by
  cases e <;> rfl

theorem get?_set (key other : String) (value : AttributeValue) (r : TraceRecord) :
    (r.set other value).get? key = if other = key then some value else r.get? key := by
  split
  · rename_i h
    rw [h, get?_set_self]
  · rename_i h
    exact get?_set_of_ne value r (Ne.symm h)

theorem get?_edit (key : String) (r : TraceRecord) (e : Edit) :
    (r.edit e).get? key =
      match e.setting? with
      | none => r.get? key
      | some (other, value) => if other = key then some value else r.get? key := by
  cases e with
  | markOk => rfl
  | setBool other b => exact get?_set key other _ r
  | setString other s => exact get?_set key other _ r
  | setStrings other xs => exact get?_set key other _ r
  | markError full safe => exact get?_set key Key.fullError _ r

/-! ## Sequences of edits -/

theorem edited_append_singleton (r : TraceRecord) (edits : List Edit) (e : Edit) :
    r.edited (edits ++ [e]) = (r.edited edits).edit e := by
  rw [edited, List.foldl_append]
  rfl

theorem settings_append_singleton (edits : List Edit) (e : Edit) :
    settings (edits ++ [e]) = settings edits ++ e.setting?.toList := by
  rw [settings, List.filterMap_append]
  cases h : e.setting? <;> simp [settings, h]

theorem lastMark?_append_singleton (edits : List Edit) (e : Edit) :
    lastMark? (edits ++ [e]) = e.mark?.or (lastMark? edits) := by
  rw [lastMark?, List.filterMap_append, List.getLast?_append]
  cases h : e.mark? <;> simp [lastMark?, h]

theorem lastValue?_append_singleton (key : String) (edits : List Edit) (e : Edit) :
    lastValue? key (edits ++ [e]) =
      match e.setting? with
      | none => lastValue? key edits
      | some (other, value) => if other = key then some value else lastValue? key edits := by
  rw [lastValue?, settings_append_singleton]
  cases h : e.setting? with
  | none => simp [lastValue?]
  | some a =>
    by_cases hkey : a.1 = key <;> simp [lastValue?, hkey]

/-- A further element takes the last place among the elements of a list, each in the place where it
stands first, unless it has one already. -/
theorem eraseDups_append_singleton {α : Type} [DecidableEq α] (xs : List α) (x : α) :
    (xs ++ [x]).eraseDups = if x ∈ xs then xs.eraseDups else xs.eraseDups ++ [x] := by
  rw [List.eraseDups_append]
  by_cases h : x ∈ xs <;> simp [List.removeAll, List.eraseDups_cons, h]

section

variable (name : String) (edits : List Edit)

theorem keys_edited :
    ((new name).edited edits).keys = ((settings edits).map Prod.fst).eraseDups := by
  induction edits using List.reverseRecOn with
  | nil => rfl
  | append_singleton edits e ih =>
    rw [edited_append_singleton, keys_edit, settings_append_singleton, List.map_append]
    cases e.setting? with
    | none => simpa using ih
    | some a =>
      rw [Option.toList_some, List.map_singleton, eraseDups_append_singleton]
      simp only [keys_set, ih, List.mem_eraseDups]

theorem nodup_keys_edited : ((new name).edited edits).keys.Nodup := by
  induction edits using List.reverseRecOn with
  | nil => exact List.nodup_nil
  | append_singleton edits e ih =>
    rw [edited_append_singleton, keys_edit]
    cases e.setting? with
    | none => exact ih
    | some a =>
      dsimp only
      rw [keys_set]
      split
      · exact ih
      · rename_i hnew
        rw [← List.concat_eq_append]
        exact ih.concat hnew

theorem get?_edited (key : String) : ((new name).edited edits).get? key = lastValue? key edits := by
  induction edits using List.reverseRecOn with
  | nil => rfl
  | append_singleton edits e ih =>
    rw [edited_append_singleton, get?_edit, lastValue?_append_singleton, ih]

theorem status_edited : ((new name).edited edits).status = (lastMark? edits).getD .unset := by
  induction edits using List.reverseRecOn with
  | nil => rfl
  | append_singleton edits e ih =>
    rw [edited_append_singleton, status_edit, lastMark?_append_singleton, ih]
    cases e.mark? <;> rfl

theorem name_edited : ((new name).edited edits).name = name := by
  induction edits using List.reverseRecOn with
  | nil => rfl
  | append_singleton edits e ih => rw [edited_append_singleton, name_edit, ih]

end

theorem bool?_eq_some_iff (key : String) (b : Bool) (r : TraceRecord) :
    r.bool? key = some b ↔ r.get? key = some (.bool b) := by
  unfold bool?
  cases r.get? key with
  | none => simp
  | some value => cases value <;> simp

theorem string?_eq_some_iff (key s : String) (r : TraceRecord) :
    r.string? key = some s ↔ r.get? key = some (.string s) := by
  unfold string?
  cases r.get? key with
  | none => simp
  | some value => cases value <;> simp

/-- After any edits of a new record its keys are distinct and stand in the order in which they were
set first, and each has the value that was set for it last; read as a truth value or as a text, it
is found if it is one. The status is the one that was marked last, and of an error it holds only
what a caller may see. -/
theorem edited_holds_last (name : String) (edits : List Edit) :
    let r := (new name).edited edits
    (r.keys.Nodup ∧ r.keys = ((settings edits).map Prod.fst).eraseDups)
      ∧ (∀ key, r.get? key = lastValue? key edits)
      ∧ (∀ key b, r.bool? key = some b ↔ lastValue? key edits = some (.bool b))
      ∧ (∀ key s, r.string? key = some s ↔ lastValue? key edits = some (.string s))
      ∧ r.status = (lastMark? edits).getD .unset
      ∧ r.name = name := by
  intro r
  have hget : ∀ key, r.get? key = lastValue? key edits := get?_edited name edits
  refine ⟨⟨nodup_keys_edited name edits, keys_edited name edits⟩, hget, ?_, ?_,
    status_edited name edits, name_edited name edits⟩
  · intro key b
    rw [bool?_eq_some_iff, hget]
  · intro key s
    rw [string?_eq_some_iff, hget]

example :
    (new "call").edited [.setBool "a" true, .markError "full" "safe", .setString "a" "x", .markOk]
      = ⟨"call", [("a", .string "x"), (Key.fullError, .string "full")], .ok⟩ := by decide

end ScopeGate.TraceRecord
