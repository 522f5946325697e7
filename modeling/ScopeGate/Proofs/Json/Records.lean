import ScopeGate.Introspection.Endpoint
import ScopeGate.Proofs.Json.Documents
import ScopeGate.Proofs.Time.Timestamps
import ScopeGate.Session.Basic

/-!
# Records read back

Verdicts, sessions and grants are read back from the documents that are written for them. A record
whose members have different names is read by name, so that a member left off in writing is found
absent in reading; an empty user of a verdict is a member like any other.
-/

namespace ScopeGate

namespace Json.Value

theorem numberless_text (s : String) : (text s).Numberless := .string _

theorem numberless_texts (xs : List String) : (texts xs).Numberless :=
  .array fun v hv => by
    obtain ⟨x, -, rfl⟩ := List.mem_map.mp hv
    exact numberless_text x

theorem numberless_record {members : List (String × Value)}
    (h : ∀ m ∈ members, m.2.Numberless) : (record members).Numberless :=
  .object fun m hm => by
    obtain ⟨m', hm', rfl⟩ := List.mem_map.mp hm
    exact h m' hm'

theorem member?_map (name : String) (members : List (String × Value)) :
    member? name (members.map fun m => (some m.1, m.2)) = members.lookup name := by
  induction members with
  | nil => rfl
  | cons m ms ih =>
    rw [member?] at ih ⊢
    rw [List.map_cons, List.find?_cons, List.lookup_cons]
    by_cases hname : name = m.1
    · simp [hname]
    · rw [beq_false_of_ne hname, ← ih]
      simp [Ne.symm hname]

theorem fields?_record {names : List String} {members : List (String × Value)}
    (h : (members.map Prod.fst).Nodup) :
    (record members).fields? names = some (names.map fun name => members.lookup name) := by
  have hsound : namesAreSound names (members.map fun m => (some m.1, m.2)) = true := by
    simp only [namesAreSound, Bool.and_eq_true, List.all_eq_true, decide_eq_true_eq]
    refine ⟨fun m hm => ?_, fun name _ => ?_⟩
    · obtain ⟨m', -, rfl⟩ := List.mem_map.mp hm
      rfl
    · have hcount := List.nodup_iff_count.mp h name
      rw [List.count_eq_countP, List.countP_map] at hcount
      rw [List.countP_map]
      refine Nat.le_trans (Nat.le_of_eq ?_) hcount
      exact List.countP_congr fun m _ => by simp
  rw [record, fields?, if_pos hsound]
  simp only [member?_map]

end Json.Value

open Json

theorem Grants.numberless_toJson (g : Grants) : g.toJson.Numberless :=
  Value.numberless_texts g.texts

theorem Verdict.numberless_toJson (v : Verdict) : v.toJson.Numberless := by
  refine Value.numberless_record fun m hm => ?_
  simp only [List.mem_append, List.mem_cons, List.not_mem_nil, or_false, Option.mem_toList,
    Option.map_eq_some_iff] at hm
  rcases hm with ((rfl | rfl | rfl) | ⟨id, -, rfl⟩) | rfl
  · exact .bool _
  · exact v.grants.numberless_toJson
  · exact Value.numberless_text _
  · exact Value.numberless_text _
  · exact Value.numberless_text _

theorem SessionUser.numberless_toJson (u : SessionUser) : u.toJson.Numberless := by
  refine Value.numberless_record fun m hm => ?_
  simp only [List.mem_cons, List.not_mem_nil, or_false] at hm
  rcases hm with rfl | rfl | rfl <;> exact Value.numberless_text _

theorem Session.numberless_toJson (s : Session) : s.toJson.Numberless := by
  refine Value.numberless_record fun m hm => ?_
  simp only [List.mem_cons, Option.mem_toList, Option.map_eq_some_iff] at hm
  rcases hm with rfl | ⟨u, -, rfl⟩
  · exact Value.numberless_text _
  · exact u.numberless_toJson

theorem optionalField?_some {α : Type} {read : Value → Option α} {v : Value} {x : α}
    (h : read v = some x) (hnull : v ≠ .null) : optionalField? read (some v) = some (some x) := by
  cases v with
  | null => contradiction
  | _ => rw [optionalField?, h, Option.map_some]; simp

theorem Verdict.ofJson?_toJson (v : Verdict) :
    ofJson? v.toJson = (Instant.ofTimestamp? (v.expiresAt.timestamp .zulu)).bind
      fun t => some { v with expiresAt := t } := by
  obtain ⟨active, grants, clientId, userId, expiresAt⟩ := v
  rw [toJson, ofJson?, Value.fields?_record]
  · cases userId with
    | none => simp [fieldNames, List.lookup_cons, optionalField?]
    | some id =>
      have huser := optionalField?_some (Value.text?_text id) (fun h => by cases h)
      simp [fieldNames, List.lookup_cons, huser]
  · cases userId <;> simp

theorem SessionUser.ofJson?_toJson (u : SessionUser) : ofJson? u.toJson = some u := by
  rw [toJson, ofJson?, Value.fields?_record]
  · simp [fieldNames, List.lookup_cons]
  · simp

theorem Session.ofJson?_toJson (s : Session) : ofJson? s.toJson = some s := by
  obtain ⟨id, user⟩ := s
  rw [toJson, ofJson?, Value.fields?_record]
  · cases user with
    | none => simp [fieldNames, List.lookup_cons, optionalField?]
    | some u =>
      have huser := optionalField?_some u.ofJson?_toJson (fun h => by cases h)
      simp [fieldNames, List.lookup_cons, huser]
  · cases user <;> simp

theorem Verdict.read_iff_isSound (v : Verdict) :
    (Value.parse? v.toJson.render).bind ofJson? = some v ↔ v.expiresAt.IsSound := by
  rw [v.numberless_toJson.parse?_render, Option.bind_some, ofJson?_toJson,
    ← Instant.ofTimestamp?_timestamp_iff v.expiresAt .zulu]
  obtain ⟨active, grants, clientId, userId, expiresAt⟩ := v
  cases Instant.ofTimestamp? (expiresAt.timestamp .zulu) <;> simp

/-- Sessions and grants are read back from their documents, and so is each verdict whose instant of
expiry is sound. No two of these verdicts have the same document, so that an absent user and an
empty one stay apart. -/
theorem documents_read_back :
    (∀ v : Verdict, (Value.parse? v.toJson.render).bind Verdict.ofJson? = some v
      ↔ v.expiresAt.IsSound)
    ∧ (∀ s : Session, (Value.parse? s.toJson.render).bind Session.ofJson? = some s)
    ∧ (∀ g : Grants, (Value.parse? g.toJson.render).bind Grants.ofJson? = some g)
    ∧ ∀ v w : Verdict, v.expiresAt.IsSound → w.expiresAt.IsSound →
      v.toJson.render = w.toJson.render → v = w := by
  refine ⟨Verdict.read_iff_isSound, fun s => ?_, fun g => ?_, fun v w hv hw hsame => ?_⟩
  · rw [s.numberless_toJson.parse?_render]
    exact s.ofJson?_toJson
  · rw [g.numberless_toJson.parse?_render]
    exact g.ofJson?_toJson
  · rw [← v.read_iff_isSound, hsame, w.read_iff_isSound.mpr hw] at hv
    exact (Option.some.inj hv).symm

/-- The last instant of the year minus one lies in a leap second. -/
theorem empty_user_read_back :
    let v : Verdict := ⟨true, ⟨[]⟩, "client", some "", ⟨-62167219201, 1999999999⟩⟩
    v.expiresAt.IsSound ∧ (Value.parse? v.toJson.render).bind Verdict.ofJson? = some v := by
  intro v
  have hsound : v.expiresAt.IsSound := ⟨by decide, by decide, fun _ => by decide⟩
  exact ⟨hsound, (documents_read_back.1 v).mpr hsound⟩

/-- A leap second off the end of a minute is written as the start of the second after it, and that
second is what its document reads back. -/
theorem leap_second_off_minute_not_read_back :
    let v : Verdict := ⟨true, ⟨[]⟩, "client", none, ⟨1699999999, 1500000000⟩⟩
    Instant.inRange v.expiresAt.seconds = true
    ∧ v.expiresAt.nanos < 2 * Duration.nanosPerSecond
    ∧ (Value.parse? v.toJson.render).bind Verdict.ofJson?
        = some { v with expiresAt := ⟨1700000000, 500000000⟩ }
    ∧ (Value.parse? v.toJson.render).bind Verdict.ofJson? ≠ some v := by
  intro v
  have htext : v.expiresAt.timestamp .zulu = "2023-11-14T22:13:20.500Z" := by cbv
  have hread : Instant.ofTimestamp? "2023-11-14T22:13:20.500Z" = some ⟨1700000000, 500000000⟩ := by
    decide +kernel
  have hback : (Value.parse? v.toJson.render).bind Verdict.ofJson?
      = some { v with expiresAt := ⟨1700000000, 500000000⟩ } := by
    rw [v.numberless_toJson.parse?_render, Option.bind_some, Verdict.ofJson?_toJson, htext, hread]
    rfl
  refine ⟨by decide, by decide, hback, fun hsame => ?_⟩
  rw [hback] at hsame
  simp [v] at hsame

theorem Introspection.read_of_answerOfBody {body : Octets} {v : Verdict}
    (h : answerOfBody body = .ok v) :
    (Value.parse? v.toJson.render).bind Verdict.ofJson? = some v := by
  unfold answerOfBody Response.toAnswer at h
  split at h
  · cases h
  · split at h
    · cases h
    · cases h
      exact (Verdict.read_iff_isSound _).mpr (Instant.isSound_of_ofSeconds? ‹_›)

end ScopeGate
