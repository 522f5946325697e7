import ScopeGate.Introspection.Response
import ScopeGate.Proofs.Text.Words

/-!
# What an answer grants

The scopes of an answer are the words of its claim, whatever blanks stand around and between them:
they are the runs of the claim, none of them is lost, joined or cut, and their order and repetitions
are kept. Of the rest of a response the verdict keeps the activity, the client and the second of
expiry as they are, and the user if the response names one. There is no verdict exactly when that
second lies outside the years that can be written.
-/

namespace ScopeGate

namespace Grants

theorem texts_ofClaim (claim : String) :
    (ofClaim claim).texts = (Text.words claim.toList).map String.ofList := by
  rw [ofClaim, texts_ofTexts]

theorem isWord_of_mem_texts_ofClaim {claim word : String} (h : word ∈ (ofClaim claim).texts) :
    Text.IsWord word.toList := by
  rw [texts_ofClaim] at h
  obtain ⟨w, hw, rfl⟩ := List.mem_map.mp h
  rw [String.toList_ofList]
  exact Text.isWord_of_mem_words hw

theorem exists_runs_of_claim (claim : String) :
    ∃ places : List Text.Place,
      places.map (fun p => String.ofList p.text) = (ofClaim claim).texts
        ∧ places.Pairwise (fun p q => p.before.length < q.before.length)
        ∧ ∀ p, p ∈ places ↔ p.IsRun claim.toList := by
  obtain ⟨places, htexts, hordered, hruns⟩ := Text.exists_runs claim.toList
  refine ⟨places, ?_, hordered, hruns⟩
  rw [texts_ofClaim, ← htexts, List.map_map]
  rfl

theorem texts_ofClaim_spaced {lead word trail : String} {items : List (String × String)}
    (hlead : Text.IsGap lead.toList) (hword : Text.IsWord word.toList)
    (hitems : ∀ item ∈ items,
      (Text.IsGap item.1.toList ∧ item.1 ≠ "") ∧ Text.IsWord item.2.toList)
    (htrail : Text.IsGap trail.toList) :
    (ofClaim (lead ++ word ++ String.join (items.map fun item => item.1 ++ item.2) ++ trail)).texts
      = word :: items.map Prod.snd := by
  have htoList : (lead ++ word ++ String.join (items.map fun item => item.1 ++ item.2)
      ++ trail).toList
      = lead.toList ++ word.toList
        ++ Text.spaced (items.map fun item => (item.1.toList, item.2.toList)) trail.toList := by
    simp [Text.spaced, String.toList_join, List.flatMap_map]
  rw [texts_ofClaim, htoList, Text.words_spaced hlead hword ?_ htrail]
  · simp [Function.comp_def]
  · intro item hitem
    obtain ⟨item', hitem', rfl⟩ := List.mem_map.mp hitem
    simpa using hitems item' hitem'

theorem texts_ofClaim_append {gap : String} (hgap : Text.IsGap gap.toList) (hne : gap ≠ "")
    (claim claim' : String) :
    (ofClaim (claim ++ gap ++ claim')).texts = (ofClaim claim).texts ++ (ofClaim claim').texts := by
  simp only [texts_ofClaim, String.toList_append, ← List.map_append]
  rw [Text.words_append_gap_append hgap (by simpa using hne)]

end Grants

/-- The seconds that an instant may start with: from the first of the year -262143 to the last of
the year 262142. -/
theorem Instant.ofSeconds?_eq_some_iff (n : Int) (t : Instant) :
    ofSeconds? n = some t ↔
      (-8334601228800 ≤ n ∧ n ≤ 8210266876799) ∧ t = ⟨n, 0⟩ := by
  have hfirst : firstSecond = -8334601228800 := by decide
  have hlast : lastSecond = 8210266876799 := by decide
  rw [ofSeconds?, inRange, hfirst, hlast, Option.ite_none_right_eq_some,
    Option.some.injEq, Bool.and_eq_true, decide_eq_true_eq, decide_eq_true_eq, eq_comm (a := t)]

theorem Json.optionalField?_text?_iff (field : Option Json.Value) (userId : Option String) :
    Json.optionalField? Json.Value.text? field = some userId ↔
      userId = none ∧ (field = none ∨ field = some .null)
        ∨ ∃ id, userId = some id ∧ field = some (.text id) := by
  cases field with
  | none => simp [Json.optionalField?, eq_comm]
  | some v =>
    cases v with
    | null => simp [Json.optionalField?, Json.Value.text, eq_comm]
    | string s => simp [Json.optionalField?, Json.Value.text?, Json.Value.text, and_comm, eq_comm]
    | _ => simp [Json.optionalField?, Json.Value.text?, Json.Value.text]

namespace Introspection.Response

/-- What a verdict keeps of a response. -/
structure Gives (r : Response) (v : Verdict) : Prop where
  active : v.active = r.active
  clientId : v.clientId = r.clientId
  grants : v.grants = .ofClaim r.claim
  expiresAt : v.expiresAt = ⟨r.expiry, 0⟩
  userId : ∀ id, v.userId = some id ↔ r.userId = some id ∧ id ≠ ""

/-- What the body of an answer holds for the user, where it holds something. -/
def userField? (body : Json.Value) : Option Json.Value :=
  match body.fields? fieldNames with
  | some [_, _, _, userId, _] => userId
  | _ => none

theorem gives_iff (r : Response) (v : Verdict) :
    r.Gives v ↔
      v = ⟨r.active, .ofClaim r.claim, r.clientId, r.userId.filter fun id => !id.isEmpty,
        ⟨r.expiry, 0⟩⟩ := by
  have hfilter : ∀ id, (r.userId.filter fun id => !id.isEmpty) = some id ↔
      r.userId = some id ∧ id ≠ "" := by
    intro id
    simp [Option.filter_eq_some_iff]
  constructor
  · rintro ⟨hactive, hclientId, hgrants, hexpiresAt, huserId⟩
    have huser : v.userId = r.userId.filter fun id => !id.isEmpty :=
      Option.ext fun id => (huserId id).trans (hfilter id).symm
    obtain ⟨active, grants, clientId, userId, expiresAt⟩ := v
    simp only at hactive hclientId hgrants hexpiresAt huser
    rw [hactive, hclientId, hgrants, hexpiresAt, huser]
  · rintro rfl
    exact ⟨rfl, rfl, rfl, rfl, hfilter⟩

theorem toAnswer_eq_ok_iff (r : Response) (v : Verdict) :
    r.toAnswer = .ok v ↔
      (-8334601228800 ≤ r.expiry ∧ r.expiry ≤ 8210266876799) ∧ r.Gives v := by
  rw [gives_iff, toAnswer]
  cases ht : Instant.ofSeconds? r.expiry with
  | none =>
    have hout : ¬ (-8334601228800 ≤ r.expiry ∧ r.expiry ≤ 8210266876799) := by
      intro hrange
      rw [(Instant.ofSeconds?_eq_some_iff _ _).mpr ⟨hrange, rfl⟩] at ht
      cases ht
    simp [hout]
  | some t =>
    obtain ⟨hrange, rfl⟩ := (Instant.ofSeconds?_eq_some_iff _ _).mp ht
    simp [hrange, eq_comm]

theorem toAnswer_eq_error_iff (r : Response) (f : IntrospectionFault) :
    r.toAnswer = .error f ↔
      ¬ (-8334601228800 ≤ r.expiry ∧ r.expiry ≤ 8210266876799)
        ∧ f = .malformed ("exp " ++ integerText r.expiry ++ " out of range") := by
  by_cases hrange : -8334601228800 ≤ r.expiry ∧ r.expiry ≤ 8210266876799
  · rw [(r.toAnswer_eq_ok_iff _).mpr ⟨hrange, (r.gives_iff _).mpr rfl⟩]
    simp [hrange]
  · have hnone : Instant.ofSeconds? r.expiry = none := by
      rw [Option.eq_none_iff_forall_ne_some]
      intro t ht
      exact hrange ((Instant.ofSeconds?_eq_some_iff _ _).mp ht).1
    simp only [toAnswer, hnone, Except.error.injEq, hrange, not_false_eq_true, true_and]
    exact eq_comm

theorem Gives.userId_eq_none_iff {r : Response} {v : Verdict} (h : r.Gives v) :
    v.userId = none ↔ r.userId = none ∨ r.userId = some "" := by
  simp only [Option.eq_none_iff_forall_ne_some, ne_eq, h.userId]
  cases r.userId with
  | none => simp
  | some id => simp

theorem Gives.isUserToken_iff {r : Response} {v : Verdict} (h : r.Gives v) :
    v.isUserToken = true ↔ ∃ id, r.userId = some id ∧ id ≠ "" := by
  simp only [← h.userId]
  cases huser : v.userId with
  | none => simp [Verdict.isUserToken, huser]
  | some id => simpa [Verdict.isUserToken, huser] using ((h.userId id).mp huser).2

/-! ## The user in the body -/

theorem userField?_of_ofJson? {body : Json.Value} {r : Response} (h : ofJson? body = some r) :
    r.userId = none ∧ (userField? body = none ∨ userField? body = some .null)
      ∨ ∃ id, r.userId = some id ∧ userField? body = some (.text id) := by
  rw [← Json.optionalField?_text?_iff]
  unfold ofJson? at h
  simp only [Option.bind_eq_bind, Option.bind_eq_some_iff] at h
  obtain ⟨fields, hfields, h⟩ := h
  split at h
  · simp only [Option.bind_eq_some_iff, Option.pure_def, Option.some.injEq] at h
    obtain ⟨active, -, claim, -, clientId, -, userId, huser, expiry, -, rfl⟩ := h
    simpa only [userField?, hfields] using huser
  · cases h

def NamesUser (body : Json.Value) : Prop := ∃ id, userField? body = some (.text id) ∧ id ≠ ""

variable {body : Json.Value} {r : Response} {v : Verdict}

theorem Gives.userId_eq_none_iff_of_body (h : r.Gives v) (hr : ofJson? body = some r) :
    v.userId = none ↔
      userField? body = none ∨ userField? body = some .null
        ∨ userField? body = some (.text "") := by
  rw [h.userId_eq_none_iff]
  rcases userField?_of_ofJson? hr with ⟨hnone, hfield | hfield⟩ | ⟨id, hsome, hfield⟩
  · simp [hnone, hfield]
  · simp [hnone, hfield]
  · simp [hsome, hfield, Json.Value.text]

theorem Gives.isUserToken_iff_namesUser (h : r.Gives v) (hr : ofJson? body = some r) :
    v.isUserToken = true ↔ NamesUser body := by
  rw [h.isUserToken_iff, NamesUser]
  rcases userField?_of_ofJson? hr with ⟨hnone, hfield | hfield⟩ | ⟨id, hsome, hfield⟩
  · simp [hnone, hfield]
  · simp [hnone, hfield, Json.Value.text]
  · simp [hsome, hfield, Json.Value.text]

end Introspection.Response

/-- The grants of a claim are its words, in order and as often as they occur, whatever gaps there
are; and an answer gives a verdict with the grants of its claim, unless its expiry cannot be
written. The verdict is on a user's token exactly when the answer names one. -/
theorem claims_and_answers_read :
    (∀ claim : String, ∃ places : List Text.Place,
        places.map (fun p => String.ofList p.text) = (Grants.ofClaim claim).texts
          ∧ places.Pairwise (fun p q => p.before.length < q.before.length)
          ∧ ∀ p, p ∈ places ↔ p.IsRun claim.toList)
      ∧ (∀ claim : String, ∀ word ∈ (Grants.ofClaim claim).texts, Text.IsWord word.toList)
      ∧ (∀ gap : String, Text.IsGap gap.toList → (Grants.ofClaim gap).texts = [])
      ∧ (∀ (lead word : String) (items : List (String × String)) (trail : String),
          Text.IsGap lead.toList → Text.IsWord word.toList →
          (∀ item ∈ items,
            (Text.IsGap item.1.toList ∧ item.1 ≠ "") ∧ Text.IsWord item.2.toList) →
          Text.IsGap trail.toList →
          (Grants.ofClaim (lead ++ word
            ++ String.join (items.map fun item => item.1 ++ item.2) ++ trail)).texts
              = word :: items.map Prod.snd)
      ∧ (∀ claim gap claim' : String, Text.IsGap gap.toList → gap ≠ "" →
          (Grants.ofClaim (claim ++ gap ++ claim')).texts
            = (Grants.ofClaim claim).texts ++ (Grants.ofClaim claim').texts)
      ∧ ∀ r : Introspection.Response,
          (∀ f, r.toAnswer = .error f ↔
            ¬ (-8334601228800 ≤ r.expiry ∧ r.expiry ≤ 8210266876799)
              ∧ f = .malformed ("exp " ++ Introspection.Response.integerText r.expiry
                ++ " out of range"))
          ∧ (∀ v, r.toAnswer = .ok v ↔
            (-8334601228800 ≤ r.expiry ∧ r.expiry ≤ 8210266876799) ∧ r.Gives v)
          ∧ ∀ v, r.toAnswer = .ok v →
            (v.userId = none ↔ r.userId = none ∨ r.userId = some "")
              ∧ (v.isUserToken = true ↔ ∃ id, r.userId = some id ∧ id ≠ "")
              ∧ ∀ body, Introspection.Response.ofJson? body = some r →
                (v.userId = none ↔
                    Introspection.Response.userField? body = none
                      ∨ Introspection.Response.userField? body = some .null
                      ∨ Introspection.Response.userField? body = some (.text ""))
                  ∧ (v.isUserToken = true ↔ Introspection.Response.NamesUser body) := by
  refine ⟨Grants.exists_runs_of_claim, fun _ _ => Grants.isWord_of_mem_texts_ofClaim, ?_, ?_, ?_,
    ?_⟩
  · intro gap hgap
    rw [Grants.texts_ofClaim, Text.words_of_isGap hgap, List.map_nil]
  · intro lead word items trail hlead hword hitems htrail
    exact Grants.texts_ofClaim_spaced hlead hword hitems htrail
  · intro claim gap claim' hgap hne
    exact Grants.texts_ofClaim_append hgap hne claim claim'
  · refine fun r => ⟨r.toAnswer_eq_error_iff, r.toAnswer_eq_ok_iff, fun v hv => ?_⟩
    have hgives := ((r.toAnswer_eq_ok_iff v).mp hv).2
    exact ⟨hgives.userId_eq_none_iff, hgives.isUserToken_iff, fun body hbody =>
      ⟨hgives.userId_eq_none_iff_of_body hbody, hgives.isUserToken_iff_namesUser hbody⟩⟩

end ScopeGate
