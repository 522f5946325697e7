import ScopeGate.Proofs.Cache.Entries
import ScopeGate.Proofs.Run.Calls
import ScopeGate.Session.Schedule

/-!
# What an event does to session calls

An event can look a session up in the cache, ask the directory, let a call wait and end a call, and
each of these has a function of its own here: `served?`, `asked?`, `held?` and `ended?`. A step is
read off them: what becomes of the service and of the calls that wait (`step_spec`), and which
replies there are (`reply_eq_signedOut_iff`, `reply_eq_got_iff`).
-/

namespace ScopeGate

namespace SessionService

def entries (s : SessionService) : List (Cache.Entry String Session) := Cache.entriesOf s.cache

theorem entries_mk_some (cache : Cache String Session) (n : Nat) :
    (⟨some cache, n⟩ : SessionService).entries = cache.entries := rfl

theorem signOuts_beginGet (clock : Clock) (id : String) (s : SessionService) :
    (s.beginGet clock id).1.signOuts = s.signOuts := by
  unfold beginGet
  split <;> rfl

theorem signOuts_keep (clock : Clock) (epoch : Nat) (id : String) (session : Session)
    (s : SessionService) : (s.keep clock epoch id session).signOuts = s.signOuts := by
  unfold keep
  split <;> rfl

theorem mem_of_mem_entries_beginGet {clock : Clock} {id : String} {s : SessionService}
    {x : Cache.Entry String Session} (h : x ∈ (s.beginGet clock id).1.entries) :
    x ∈ s.entries := by
  unfold beginGet at h
  split at h
  · exact h
  · rename_i cache hcache
    have hold : x ∈ cache.entries := Cache.mem_of_mem_get h
    rw [entries, hcache]
    exact hold

theorem exists_mem_of_beginGet_eq_some {clock : Clock} {id : String} {s : SessionService}
    {session : Session} (h : (s.beginGet clock id).2 = some session) :
    ∃ cache, s.cache = some cache ∧ ∃ x ∈ s.entries, x.key = id ∧ x.value = session
      ∧ x.isStale cache.config.ttl clock.elapsed = false := by
  unfold beginGet at h
  split at h
  · cases h
  · rename_i cache hcache
    refine ⟨cache, hcache, ?_⟩
    rw [entries, hcache]
    exact Cache.exists_mem_of_get_eq_some h

/-- What is kept is the new session, and only if nobody has been signed out since it was asked for.
-/
theorem mem_entries_keep {clock : Clock} {epoch : Nat} {id : String} {session : Session}
    {s : SessionService} {x : Cache.Entry String Session}
    (h : x ∈ (s.keep clock epoch id session).entries) :
    x ∈ s.entries ∨ (x = ⟨id, session, clock.elapsed⟩ ∧ s.signOuts = epoch) := by
  unfold keep at h
  split at h
  · exact .inl h
  · rename_i cache hcache
    rw [entries, hcache]
    dsimp only [entries_mk_some] at h
    split at h
    · rename_i hepoch
      rcases Cache.eq_or_mem_of_mem_insert h with hnew | hold
      · exact .inr ⟨hnew, hepoch⟩
      · exact .inl hold.1
    · obtain ⟨hmem, hkey⟩ := Cache.mem_erase_iff.mp h
      rcases Cache.eq_or_mem_of_mem_insert hmem with rfl | hold
      · exact absurd rfl hkey
      · exact .inl hold.1

theorem mem_entries_completeSignOut {id : String} {s : SessionService}
    {x : Cache.Entry String Session} (h : x ∈ (s.completeSignOut id (.ok ())).1.entries) :
    x ∈ s.entries ∧ x.key ≠ id := by
  unfold completeSignOut at h
  dsimp only at h
  cases hcache : s.cache with
  | none => simp [hcache, entries, Cache.entriesOf] at h
  | some cache =>
    rw [hcache] at h
    rw [entries, hcache]
    exact Cache.mem_erase_iff.mp h

theorem signOuts_completeSignOut (id : String) (s : SessionService) :
    (s.completeSignOut id (.ok ())).1.signOuts = s.signOuts + 1 := by
  unfold completeSignOut
  cases s.cache <;> rfl

/-- The cache has the settings, if there is one. No operation changes them. -/
def HasConfig (config : CacheConfig) (s : SessionService) : Prop :=
  Cache.Configured config s.cache

theorem HasConfig.beginGet {config : CacheConfig} {s : SessionService} (h : s.HasConfig config)
    (clock : Clock) (id : String) : (s.beginGet clock id).1.HasConfig config := by
  unfold SessionService.beginGet
  split
  · exact h
  · rename_i cache hcache
    exact .some ((Cache.config_get _ _ cache).trans (h cache hcache))

theorem HasConfig.keep {config : CacheConfig} {s : SessionService} (h : s.HasConfig config)
    (clock : Clock) (epoch : Nat) (id : String) (session : Session) :
    (s.keep clock epoch id session).HasConfig config := by
  unfold SessionService.keep
  split
  · exact h
  · rename_i cache hcache
    have hinsert := (Cache.config_insert clock.elapsed id session cache).trans (h cache hcache)
    refine .some ?_
    split
    · exact hinsert
    · exact (Cache.config_erase _ _).trans hinsert

theorem HasConfig.completeSignOut {config : CacheConfig} {s : SessionService}
    (h : s.HasConfig config) (id : String) :
    (s.completeSignOut id (.ok ())).1.HasConfig config := by
  unfold SessionService.completeSignOut
  cases hcache : s.cache with
  | none => simp [HasConfig, Cache.Configured]
  | some cache => exact .some ((Cache.config_erase _ _).trans (h cache hcache))

end SessionService

namespace Sessions

def Waiting.reply : Waiting → Reply
  | .get _ _ answer => .got (answer.map fun session => ⟨session, false⟩)
  | .signOut _ answer => .signedOut answer

def Waiting.isCanceled : Waiting → Bool
  | .get _ _ (.error .canceled) => true
  | .signOut _ (.error .canceled) => true
  | _ => false

def Waiting.settle (clock : Clock) (s : SessionService) : Waiting → SessionService
  | .get id epoch answer => (s.completeGet clock epoch id answer).1
  | .signOut id answer => (s.completeSignOut id answer).1

namespace World

def reply (w : World) (e : Event) : Reply := (w.step e).2.1

def served? (w : World) : Event → Option Session
  | .get id _ _ => (w.service.beginGet w.clock id).2
  | _ => none

def looked (w : World) : Event → SessionService
  | .get id _ _ => (w.service.beginGet w.clock id).1
  | _ => w.service

def asked? (w : World) (e : Event) : Option (Option String × Waiting) :=
  match w.served? e, e with
  | none, .get id call false =>
    some (call, .get id w.service.signOuts (w.directory.get id).2)
  | _, .signOut id userId call false => some (call, .signOut id (w.directory.signOut id userId).2)
  | _, _ => none

def held? (w : World) (e : Event) : Option (String × Waiting) :=
  match w.asked? e with
  | some (some name, l) => some (name, l)
  | _ => none

def freed? (w : World) : Event → Option String
  | .release name => (w.waiting.find? name).map fun _ => name
  | .cancel name => (w.waiting.find? name).map fun _ => name
  | _ => none

/-- The call that an event ends, with the answer that it ends with. A session from the cache ends no
call in this sense. -/
def ended? (w : World) (e : Event) : Option Waiting :=
  match w.served? e, e with
  | none, .get id _ true => some (.get id w.service.signOuts (.error .canceled))
  | _, .signOut id _ _ true => some (.signOut id (.error .canceled))
  | _, .release name => w.waiting.find? name
  | _, .cancel name => (w.waiting.find? name).map Waiting.canceled
  | _, _ =>
    match w.asked? e with
    | some (none, l) => some l
    | _ => none

/-- The service after an event has looked into the cache, and then taken the answer of the call that
it ends. -/
def settled (w : World) (e : Event) : SessionService :=
  match w.ended? e with
  | none => w.looked e
  | some l => l.settle w.clock (w.looked e)

/-- What an event comes to, by what it finds in the cache, which call it ends and which it lets
wait. -/
def outcome (w : World) (e : Event) : Reply :=
  match w.served? e, w.ended? e, w.held? e, e with
  | some session, _, _, _ => .got (.ok ⟨session, true⟩)
  | none, some l, _, _ => l.reply
  | none, none, some (name, _), _ => .pending name
  | none, none, none, .delete id => .deleted (w.directory.contains id)
  | none, none, none, .release _ => .noSuchCall
  | none, none, none, .cancel _ => .noSuchCall
  | none, none, none, _ => .done

theorem complete_eq (w : World) (l : Waiting) :
    (w.complete l).1 = { w with service := l.settle w.clock w.service }
      ∧ (w.complete l).2.1 = l.reply := by
  cases l with
  | get id epoch answer => cases answer <;> exact ⟨rfl, rfl⟩
  | signOut id answer => exact ⟨rfl, rfl⟩

end World

def traffic : Traffic World Event Waiting := ⟨World.waiting, World.held?, World.freed?⟩

namespace World

/-- A lookup ends with what the cache serves, and otherwise asks the directory unless its caller has
gone away. -/
theorem step_get (w : World) (id : String) (call : Option String) (canceled : Bool) :
    w.step (.get id call canceled) =
      match w.served? (.get id call canceled), canceled with
      | some session, _ =>
        ({ w with service := w.looked (.get id call canceled) }, .got (.ok ⟨session, true⟩),
          [.record SessionService.servedRecord])
      | none, true =>
        { w with service := w.looked (.get id call canceled) }.complete
          (.get id w.service.signOuts (.error .canceled))
      | none, false =>
        { w with
          service := w.looked (.get id call canceled)
          directory := (w.directory.get id).1 }.await call
          (.get id w.service.signOuts (w.directory.get id).2) := by
  have hsame := SessionService.signOuts_beginGet w.clock id w.service
  simp only [step, served?, looked]
  cases hb : w.service.beginGet w.clock id with
  | mk service found =>
    rw [hb] at hsame
    cases found with
    | some session => rfl
    | none =>
      simp only at hsame
      cases canceled <;> simp [hsame]

/-- A step changes the service and the calls that wait, and replies, as the functions above say. -/
theorem step_spec (w : World) (e : Event) :
    (w.step e).1.service = w.settled e ∧ (w.step e).1.waiting = traffic.after w e
      ∧ w.reply e = w.outcome e := by
  unfold reply
  cases e with
  | get id call canceled =>
    rw [step_get]
    cases hs : w.served? (.get id call canceled) with
    | some session =>
      cases canceled <;> cases call <;>
        simp [settled, outcome, traffic, Traffic.after, Traffic.left, ended?, held?, asked?, freed?,
          hs]
    | none =>
      cases canceled <;> cases call <;>
        simp [settled, outcome, traffic, Traffic.after, Traffic.left, ended?, held?, asked?, freed?,
          hs, await, complete_eq]
  | signOut id userId call canceled =>
    cases canceled <;> cases call <;>
      simp [step, settled, outcome, traffic, Traffic.after, Traffic.left, ended?, held?, asked?,
        freed?, served?, looked, await, complete_eq]
  | release name =>
    cases hf : w.waiting.find? name <;>
      simp [step, resume, settled, outcome, traffic, Traffic.after, Traffic.left, ended?, held?,
        asked?, freed?, served?, looked, hf, complete_eq]
  | cancel name =>
    cases hf : w.waiting.find? name <;>
      simp [step, resume, settled, outcome, traffic, Traffic.after, Traffic.left, ended?, held?,
        asked?, freed?, served?, looked, hf, complete_eq]
  | store id user => exact ⟨rfl, rfl, rfl⟩
  | delete id => exact ⟨rfl, rfl, rfl⟩
  | failNext fault => exact ⟨rfl, rfl, rfl⟩
  | advance d => exact ⟨rfl, rfl, rfl⟩

theorem signOuts_looked (w : World) (e : Event) : (w.looked e).signOuts = w.service.signOuts := by
  cases e with
  | get id call canceled => exact SessionService.signOuts_beginGet w.clock id w.service
  | _ => rfl

theorem mem_of_mem_entries_looked {w : World} {e : Event} {x : Cache.Entry String Session}
    (h : x ∈ (w.looked e).entries) : x ∈ w.service.entries := by
  cases e with
  | get id call canceled => exact SessionService.mem_of_mem_entries_beginGet h
  | _ => exact h

/-- What every operation of the service keeps is kept by every event. -/
theorem service_invariant {P : SessionService → Prop}
    (hget : ∀ s clock id, P s → P (s.beginGet clock id).1)
    (hkeep : ∀ s clock epoch id session, P s → P (s.keep clock epoch id session))
    (hsignOut : ∀ s id, P s → P (s.completeSignOut id (.ok ())).1) {w : World} (h : P w.service)
    (e : Event) : P (w.step e).1.service := by
  have hlooked : P (w.looked e) := by
    cases e with
    | get id call canceled => exact hget _ w.clock id h
    | _ => exact h
  rw [(step_spec w e).1, settled]
  split
  · exact hlooked
  · rename_i l _
    cases l with
    | signOut id answer =>
      cases answer with
      | error fault => exact hlooked
      | ok u => exact hsignOut _ id hlooked
    | get id epoch answer =>
      cases answer with
      | error fault => exact hlooked
      | ok session => exact hkeep _ w.clock epoch id session hlooked

theorem hasConfig_step {config : CacheConfig} {w : World} (h : w.service.HasConfig config)
    (e : Event) : (w.step e).1.service.HasConfig config :=
  service_invariant (fun _ clock id h => h.beginGet clock id)
    (fun _ clock epoch id session h => h.keep clock epoch id session)
    (fun _ id h => h.completeSignOut id) h e

theorem eq_get_of_served {w : World} {e : Event} {session : Session}
    (h : w.served? e = some session) : ∃ id call canceled, e = .get id call canceled := by
  cases e with
  | get id call canceled => exact ⟨id, call, canceled, rfl⟩
  | _ => cases h

theorem held?_eq_none_of_served {w : World} {e : Event} {session : Session}
    (h : w.served? e = some session) : w.held? e = none := by
  obtain ⟨id, call, canceled, rfl⟩ := eq_get_of_served h
  simp [held?, asked?, h]

theorem served?_eq_none_of_ended {w : World} {e : Event} {l : Waiting}
    (h : w.ended? e = some l) : w.served? e = none := by
  cases e with
  | get id call canceled =>
    cases hs : w.served? (.get id call canceled) with
    | none => rfl
    | some session => simp [ended?, asked?, hs] at h
  | _ => rfl

theorem reply_of_served {w : World} {e : Event} {session : Session}
    (h : w.served? e = some session) : w.reply e = .got (.ok ⟨session, true⟩) := by
  rw [(step_spec w e).2.2]
  simp only [outcome, h]

theorem reply_of_ended {w : World} {e : Event} {l : Waiting} (h : w.ended? e = some l) :
    w.reply e = l.reply := by
  rw [(step_spec w e).2.2]
  simp only [outcome, served?_eq_none_of_ended h, h]

/-- An event that neither serves a session nor ends a call gives no result of a call. -/
theorem reply_of_idle {w : World} {e : Event} (hs : w.served? e = none) (he : w.ended? e = none) :
    (∀ result, w.reply e ≠ .got result) ∧ ∀ result, w.reply e ≠ .signedOut result := by
  rw [(step_spec w e).2.2]
  unfold outcome
  rw [hs, he]
  constructor
  · intro result h
    split at h <;> simp_all
  · intro result h
    split at h <;> simp_all

/-- The result of a sign-out is what the directory has said to one that ends there. -/
theorem ended_of_signedOut {w : World} {e : Event} {result : Except SessionFault Unit}
    (h : w.reply e = .signedOut result) : ∃ id, w.ended? e = some (.signOut id result) := by
  cases hs : w.served? e with
  | some session =>
    rw [reply_of_served hs] at h
    cases h
  | none =>
    cases he : w.ended? e with
    | none => exact absurd h ((reply_of_idle hs he).2 _)
    | some l =>
      rw [reply_of_ended he] at h
      cases l with
      | get id epoch answer => cases h
      | signOut id answer =>
        cases h
        exact ⟨id, rfl⟩

theorem reply_eq_signedOut_iff (w : World) (e : Event) :
    w.reply e = .signedOut (.ok ()) ↔ ∃ id, w.ended? e = some (.signOut id (.ok ())) := by
  refine ⟨ended_of_signedOut, ?_⟩
  rintro ⟨id, h⟩
  rw [reply_of_ended h]
  rfl

/-- The result of a lookup is a session from the cache, or what the lookup that ends there was
given. -/
theorem served_or_ended_of_got {w : World} {e : Event}
    {result : Except SessionFault (Lookup Session)} (h : w.reply e = .got result) :
    (∃ session, w.served? e = some session ∧ result = .ok ⟨session, true⟩)
      ∨ ∃ id epoch answer, w.ended? e = some (.get id epoch answer)
        ∧ result = answer.map fun session => ⟨session, false⟩ := by
  cases hs : w.served? e with
  | some session =>
    rw [reply_of_served hs] at h
    cases h
    exact .inl ⟨session, rfl, rfl⟩
  | none =>
    cases he : w.ended? e with
    | none => exact absurd h ((reply_of_idle hs he).1 _)
    | some l =>
      rw [reply_of_ended he] at h
      cases l with
      | signOut id answer => cases h
      | get id epoch answer =>
        cases h
        exact .inr ⟨id, epoch, answer, rfl, rfl⟩

/-- A session is handed out from the cache, or where a lookup ends that the directory has answered.
-/
theorem reply_eq_got_iff (w : World) (e : Event) (found : Lookup Session) :
    w.reply e = .got (.ok found) ↔
      (found.fromCache = true ∧ w.served? e = some found.value)
        ∨ (found.fromCache = false
          ∧ ∃ id epoch, w.ended? e = some (.get id epoch (.ok found.value))) := by
  obtain ⟨session, fromCache⟩ := found
  constructor
  · intro h
    rcases served_or_ended_of_got h with ⟨served, hs, he⟩ | ⟨id, epoch, answer, hended, he⟩
    · cases he
      exact .inl ⟨rfl, hs⟩
    · cases answer with
      | error fault => cases he
      | ok given =>
        cases he
        exact .inr ⟨rfl, id, epoch, hended⟩
  · rintro (⟨hc, h⟩ | ⟨hc, id, epoch, h⟩)
    · obtain rfl : fromCache = true := hc
      exact reply_of_served h
    · obtain rfl : fromCache = false := hc
      exact reply_of_ended h

theorem signOuts_step_of_signedOut {w : World} {e : Event}
    (h : w.reply e = .signedOut (.ok ())) :
    (w.step e).1.service.signOuts = w.service.signOuts + 1 := by
  obtain ⟨id, he⟩ := (reply_eq_signedOut_iff w e).mp h
  rw [(step_spec w e).1, settled, he]
  exact (SessionService.signOuts_completeSignOut id _).trans (by rw [signOuts_looked])

theorem signOuts_step_of_ne {w : World} {e : Event} (h : w.reply e ≠ .signedOut (.ok ())) :
    (w.step e).1.service.signOuts = w.service.signOuts := by
  rw [(step_spec w e).1, settled]
  split
  · exact signOuts_looked w e
  · rename_i l he
    rw [← signOuts_looked w e]
    cases l with
    | get id epoch answer =>
      cases answer with
      | error fault => rfl
      | ok session => exact SessionService.signOuts_keep w.clock epoch id session _
    | signOut id answer =>
      cases answer with
      | error fault => rfl
      | ok u => exact absurd ((reply_eq_signedOut_iff w e).mpr ⟨id, he⟩) h

/-- An entry after an event was there before and no sign-out of its session has just succeeded, or
it is the session of a lookup that has just ended and that no sign-out has overlapped. -/
theorem mem_entries_step {w : World} {e : Event} {x : Cache.Entry String Session}
    (h : x ∈ (w.step e).1.service.entries) :
    (x ∈ w.service.entries ∧ w.ended? e ≠ some (.signOut x.key (.ok ())))
      ∨ (w.ended? e = some (.get x.key w.service.signOuts (.ok x.value))
        ∧ x.storedAt = w.clock.elapsed) := by
  rw [(step_spec w e).1, settled] at h
  cases he : w.ended? e with
  | none =>
    rw [he] at h
    exact .inl ⟨mem_of_mem_entries_looked h, by simp⟩
  | some l =>
    rw [he] at h
    cases l with
    | get id epoch answer =>
      cases answer with
      | error fault => exact .inl ⟨mem_of_mem_entries_looked h, by simp⟩
      | ok session =>
        rcases SessionService.mem_entries_keep h with hold | ⟨rfl, hepoch⟩
        · exact .inl ⟨mem_of_mem_entries_looked hold, by simp⟩
        · rw [signOuts_looked] at hepoch
          exact .inr ⟨by rw [hepoch], rfl⟩
    | signOut id answer =>
      cases answer with
      | error fault => exact .inl ⟨mem_of_mem_entries_looked h, by simp⟩
      | ok u =>
        obtain ⟨hold, hkey⟩ := SessionService.mem_entries_completeSignOut h
        refine .inl ⟨mem_of_mem_entries_looked hold, ?_⟩
        simpa using Ne.symm hkey

end World

end Sessions

end ScopeGate
