import ScopeGate.Proofs.Cache.Counters
import ScopeGate.Proofs.Session.Failures
import ScopeGate.Proofs.Telemetry.Readings

/-!
# The books of the session service

A lookup is entered in the counters of the cache as it begins, in those of the directory if it goes
on to ask, and in the trace records when it ends, which may be later or never. A sign-out is entered
in the records only. `Adds` says what one event adds to each of these books and `Counted` what they
show of a past. So the counters agree with the calls that have begun and the records with those that
have ended, whatever waits, fails or is given up in between.
-/

namespace ScopeGate

namespace SessionService

def counters (s : SessionService) : Cache.Counters := Cache.countersOf s.cache

theorem hits_beginGet (clock : Clock) (id : String) (s : SessionService) :
    (s.beginGet clock id).1.counters.hits
      = s.counters.hits + if (s.beginGet clock id).2.isSome then 1 else 0 := by
  unfold beginGet counters
  cases hcache : s.cache with
  | none => simp [hcache]
  | some cache => exact cache.hits_get clock.elapsed id

theorem lookups_beginGet {s : SessionService} (h : s.cache.isSome = true) (clock : Clock)
    (id : String) :
    (s.beginGet clock id).1.counters.lookups = s.counters.lookups + 1 := by
  obtain ⟨cache, hcache⟩ := Option.isSome_iff_exists.mp h
  unfold beginGet counters
  simp only [hcache]
  exact cache.lookups_get clock.elapsed id

theorem counted_keep (clock : Clock) (epoch : Nat) (id : String) (session : Session)
    (s : SessionService) :
    (s.keep clock epoch id session).counters.hits = s.counters.hits
      ∧ (s.keep clock epoch id session).counters.lookups = s.counters.lookups := by
  unfold keep counters
  cases hcache : s.cache with
  | none => simp [hcache]
  | some cache =>
    have hhits := cache.hits_insert clock.elapsed id session
    have hlookups := cache.lookups_insert clock.elapsed id session
    by_cases hepoch : s.signOuts = epoch
    · simpa only [hepoch, if_true] using ⟨hhits, hlookups⟩
    · simpa only [hepoch, if_false] using ⟨hhits, hlookups⟩

theorem counters_completeSignOut (id : String) (s : SessionService) :
    (s.completeSignOut id (.ok ())).1.counters = s.counters := by
  unfold completeSignOut counters
  cases s.cache <;> rfl

end SessionService

namespace Directory

theorem gets_get (id : String) (d : Directory) : (d.get id).1.gets = d.gets + 1 := by
  unfold get
  split
  · rfl
  · split <;> rfl

theorem gets_signOut (id userId : String) (d : Directory) :
    (d.signOut id userId).1.gets = d.gets := by
  unfold signOut
  split
  · rfl
  · split
    · rfl
    · dsimp only
      split <;> rfl

end Directory

namespace Sessions

inductive CallKind where
  | get
  | signOut
  deriving DecidableEq, Repr

def Event.kind? : Event → Option CallKind
  | .get _ _ _ => some .get
  | .signOut _ _ _ _ => some .signOut
  | _ => none

/-- The kind of the call whose result a reply is. -/
def Reply.kind? : Reply → Option CallKind
  | .got _ => some .get
  | .signedOut _ => some .signOut
  | _ => none

def Reply.isServed : Reply → Bool
  | .got (.ok found) => found.fromCache
  | _ => false

/-- The record tells of the call whose result the reply is: its kind, whether it succeeded and, of a
lookup, whether it was served from the cache. Of a sign-out it says nothing about the cache. -/
inductive Reply.IsToldBy : Reply → TraceRecord → Prop where
  | got {result : Except SessionFault (Lookup Session)} {r : TraceRecord}
      (name : r.name = SessionService.getSpan)
      (fromCache : r.get? Key.sessionFromCache = some (.bool (Reply.got result).isServed))
      (status : r.status = .ok ↔ ∃ found, result = .ok found) : IsToldBy (.got result) r
  | signedOut {result : Except SessionFault Unit} {r : TraceRecord}
      (name : r.name = SessionService.signOutSpan)
      (fromCache : r.get? Key.sessionFromCache = none)
      (status : r.status = .ok ↔ result = .ok ()) : IsToldBy (.signedOut result) r

def Waiting.kind : Waiting → CallKind
  | .get _ _ _ => .get
  | .signOut _ _ => .signOut

theorem Waiting.kind?_reply (l : Waiting) : l.reply.kind? = some l.kind := by
  cases l <;> rfl

def Waiting.record : Waiting → TraceRecord
  | .get _ _ answer => SessionService.fetchedRecord answer
  | .signOut _ answer => SessionService.signOutRecord answer

theorem isToldBy_servedRecord (session : Session) :
    (Reply.got (.ok ⟨session, true⟩)).IsToldBy SessionService.servedRecord :=
  .got rfl rfl ⟨fun _ => ⟨_, rfl⟩, fun _ => rfl⟩

theorem Waiting.isToldBy_record (l : Waiting) : l.reply.IsToldBy l.record := by
  cases l with
  | get id epoch answer =>
    cases answer with
    | ok session => exact .got rfl rfl ⟨fun _ => ⟨_, rfl⟩, fun _ => rfl⟩
    | error fault =>
      refine .got rfl rfl ⟨fun h => ?_, fun h => ?_⟩
      · cases h
      · obtain ⟨_, h⟩ := h
        cases h
  | signOut id answer =>
    cases answer with
    | ok u => exact .signedOut rfl rfl ⟨fun _ => rfl, fun _ => rfl⟩
    | error fault =>
      refine .signedOut rfl rfl ⟨fun h => ?_, fun h => ?_⟩
      · cases h
      · cases h

namespace World

theorem recordsOf_complete (w : World) (l : Waiting) :
    recordsOf (w.complete l).2.2 = [l.record] := by
  cases l with
  | get id epoch answer => rfl
  | signOut id answer =>
    simp only [complete, recordsOf_append, recordsOf_map_log]
    rfl

theorem signals_of_served {w : World} {e : Event} {session : Session}
    (h : w.served? e = some session) :
    (w.step e).2.2 = [.record SessionService.servedRecord] := by
  obtain ⟨id, call, canceled, rfl⟩ := eq_get_of_served h
  rw [step_get, h]

theorem exists_held_of_kind {w : World} {e : Event} {kind : CallKind} (hkind : e.kind? = some kind)
    (hs : w.served? e = none) (he : w.ended? e = none) : ∃ name l, w.held? e = some (name, l) := by
  cases e with
  | get id call canceled =>
    cases canceled with
    | true => simp [ended?, hs] at he
    | false =>
      cases call with
      | none => simp [ended?, asked?, hs] at he
      | some name => exact ⟨name, _, by simp only [held?, asked?, hs]; rfl⟩
  | signOut id userId call canceled =>
    cases canceled with
    | true => simp [ended?, served?] at he
    | false =>
      cases call with
      | none => simp [ended?, asked?, served?] at he
      | some name => exact ⟨name, _, rfl⟩
  | _ => cases hkind

theorem signals_of_idle {w : World} {e : Event} (hs : w.served? e = none)
    (he : w.ended? e = none) : (w.step e).2.2 = [] := by
  cases hkind : e.kind? with
  | some kind =>
    obtain ⟨name, l, hheld⟩ := exists_held_of_kind hkind hs he
    exact (waits_of_held hheld).signals
  | none =>
    cases e with
    | get id call canceled => cases hkind
    | signOut id userId call canceled => cases hkind
    | release name =>
      have hnone : w.waiting.find? name = none := he
      simp only [step, resume, hnone]
    | cancel name =>
      have hnone : w.waiting.find? name = none := Option.map_eq_none_iff.mp he
      simp only [step, resume, hnone]
    | _ => rfl

theorem kind?_reply_of_idle {w : World} {e : Event} (hs : w.served? e = none)
    (he : w.ended? e = none) : (w.reply e).kind? = none := by
  obtain ⟨hgot, hsignedOut⟩ := reply_of_idle hs he
  cases hreply : w.reply e with
  | got result => exact absurd hreply (hgot result)
  | signedOut result => exact absurd hreply (hsignedOut result)
  | _ => rfl

/-- The result of a call is told by the one record that is handed out with it, and where no call
ends there is none. -/
theorem told_or_silent (w : World) (e : Event) :
    ((w.reply e).kind?.isSome = true
        ∧ ∃ r, recordsOf (w.step e).2.2 = [r] ∧ (w.reply e).IsToldBy r)
      ∨ ((w.reply e).kind? = none ∧ recordsOf (w.step e).2.2 = []) := by
  cases hs : w.served? e with
  | some session =>
    rw [reply_of_served hs, signals_of_served hs]
    exact .inl ⟨rfl, _, rfl, isToldBy_servedRecord session⟩
  | none =>
    cases he : w.ended? e with
    | some l =>
      obtain ⟨v, hsignals⟩ := exists_signals_of_ended he
      rw [reply_of_ended he, hsignals, recordsOf_complete, l.kind?_reply]
      exact .inl ⟨rfl, _, rfl, l.isToldBy_record⟩
    | none =>
      exact .inr ⟨kind?_reply_of_idle hs he, by rw [signals_of_idle hs he]; rfl⟩

/-! ## The counters -/

theorem isServed_reply (w : World) (e : Event) : (w.reply e).isServed = (w.served? e).isSome := by
  cases hs : w.served? e with
  | some session =>
    rw [reply_of_served hs]
    rfl
  | none =>
    cases hr : w.reply e with
    | got result =>
      cases result with
      | error fault => rfl
      | ok found =>
        rcases (reply_eq_got_iff w e found).mp hr with ⟨_, hserved⟩ | ⟨hfetched, _⟩
        · rw [hs] at hserved
          cases hserved
        · exact hfetched
    | _ => rfl

theorem counters_settled (w : World) (e : Event) :
    (w.settled e).counters.hits = (w.looked e).counters.hits
      ∧ (w.settled e).counters.lookups = (w.looked e).counters.lookups := by
  unfold settled
  split
  · exact ⟨rfl, rfl⟩
  · rename_i l _
    cases l with
    | get id epoch answer =>
      cases answer with
      | ok session => exact SessionService.counted_keep w.clock epoch id session _
      | error fault => exact ⟨rfl, rfl⟩
    | signOut id answer =>
      cases answer with
      | ok u =>
        have hsame := SessionService.counters_completeSignOut id (w.looked e)
        exact ⟨congrArg _ hsame, congrArg _ hsame⟩
      | error fault => exact ⟨rfl, rfl⟩

theorem counters_looked {w : World} (h : w.service.cache.isSome = true) (e : Event) :
    (w.looked e).counters.hits
        = w.service.counters.hits + (if (w.served? e).isSome then 1 else 0)
      ∧ (w.looked e).counters.lookups
        = w.service.counters.lookups + if e.kind? = some .get then 1 else 0 := by
  cases e with
  | get id call canceled =>
    exact ⟨SessionService.hits_beginGet w.clock id w.service,
      SessionService.lookups_beginGet h w.clock id⟩
  | _ => exact ⟨rfl, rfl⟩

theorem gets_complete (w : World) (l : Waiting) :
    (w.complete l).1.directory.gets = w.directory.gets := by
  rw [(complete_eq w l).1]

theorem gets_await (w : World) (call : Option String) (l : Waiting) :
    (w.await call l).1.directory.gets = w.directory.gets :=
  congrArg Directory.gets (directory_await w call l)

theorem gets_resume (w : World) (name : String) (change : Waiting → Waiting) :
    (w.resume name change).1.directory.gets = w.directory.gets := by
  unfold resume
  split
  · rfl
  · rw [gets_complete]

end World

def begins (m : Moment World Event) : Bool := m.event.kind? = some .get

def serves (m : Moment World Event) : Bool := (m.state.reply m.event).isServed

/-- The moment begins a lookup whose caller has gone away before, and the cache does not serve it.
-/
def turnsAway (m : Moment World Event) : Bool :=
  match m.event with
  | .get _ _ canceled => canceled && !serves m
  | _ => false

/-- A lookup that begins is served from the cache, is turned away, or asks the directory. -/
theorem World.gets_step (w : World) (e : Event) :
    (w.step e).1.directory.gets + (if serves ⟨w, e⟩ then 1 else 0)
        + (if turnsAway ⟨w, e⟩ then 1 else 0)
      = w.directory.gets + if begins ⟨w, e⟩ then 1 else 0 := by
  have hserves : serves ⟨w, e⟩ = (w.served? e).isSome := w.isServed_reply e
  cases e with
  | get id call canceled =>
    simp only [turnsAway, begins, Event.kind?, hserves]
    rw [step_get]
    cases hs : w.served? (.get id call canceled) with
    | some session => simp
    | none =>
      cases canceled with
      | true => simp [gets_complete]
      | false => simp [gets_await, Directory.gets_get]
  | signOut id userId call canceled =>
    simp only [turnsAway, begins, Event.kind?, hserves, served?, step]
    cases canceled with
    | true => simp [gets_complete]
    | false => simp [gets_await, Directory.gets_signOut]
  | release name => simp [turnsAway, begins, Event.kind?, hserves, served?, step, gets_resume]
  | cancel name => simp [turnsAway, begins, Event.kind?, hserves, served?, step, gets_resume]
  | _ => simp [turnsAway, begins, Event.kind?, hserves, served?, step, Directory.put]

/-- What the cache and the directory have counted agrees with the past, given the requests that the
directory had counted before it. -/
structure Counted (before : Nat) (past : List (Moment World Event)) (w : World) : Prop where
  isCaching : w.service.cache.isSome = true
  hits : w.service.counters.hits = past.countP serves
  lookups : w.service.counters.lookups = past.countP begins
  gets : w.directory.gets + past.countP serves + past.countP turnsAway = before + past.countP begins

theorem Counted.next {before : Nat} {past : List (Moment World Event)} {w : World}
    (h : Counted before past w) (e : Event) : Counted before (past ++ [⟨w, e⟩]) (w.step e).1 := by
  obtain ⟨hcaching, hhits, hlookups, hgets⟩ := h
  have hsettled := w.counters_settled e
  have hlooked := World.counters_looked hcaching e
  have hserves : serves ⟨w, e⟩ = (w.served? e).isSome := w.isServed_reply e
  have hbegins : begins ⟨w, e⟩ = decide (e.kind? = some .get) := rfl
  have hasked := w.gets_step e
  refine ⟨World.isSome_cache_step hcaching e, ?_, ?_, ?_⟩
  · rw [(World.step_spec w e).1, hsettled.1, hlooked.1, hhits, List.countP_append,
      List.countP_singleton, hserves]
  · rw [(World.step_spec w e).1, hsettled.2, hlooked.2, hlookups, List.countP_append,
      List.countP_singleton, hbegins]
    simp only [decide_eq_true_eq]
  · simp only [List.countP_append, List.countP_singleton]
    omega

/-! ## Calls and their results -/

/-- The results of the calls that end in the moments, in order. -/
def results (ms : List (Moment World Event)) : List Reply :=
  (ms.map fun m => m.state.reply m.event).filter fun reply => reply.kind?.isSome

/-- The trace records that are handed out in the moments, in order. -/
def handedOut (ms : List (Moment World Event)) : List TraceRecord :=
  ms.flatMap fun m => recordsOf (m.state.step m.event).2.2

/-- The records of any moments tell of the results of these moments, one by one. -/
theorem forall₂_isToldBy (ms : List (Moment World Event)) :
    List.Forall₂ Reply.IsToldBy (results ms) (handedOut ms) := by
  induction ms with
  | nil => exact .nil
  | cons m ms ih =>
    unfold results handedOut at ih ⊢
    rw [List.map_cons, List.flatMap_cons]
    rcases m.state.told_or_silent m.event with ⟨hends, r, hrecord, htold⟩ | ⟨hwaits, hrecord⟩
    · simp only [List.filter_cons, hends, if_true, hrecord]
      exact .cons htold ih
    · simpa [List.filter_cons, hwaits, hrecord] using ih

/-- A call of the kind begins at the moment `i` and ends at the moment `j`. -/
def Ends (ms : List (Moment World Event)) (kind : CallKind) (i j : Nat) : Prop :=
  (∃ m, ms[i]? = some m ∧ m.event.kind? = some kind) ∧ traffic.Spans ms i j

namespace World

theorem freed?_eq_none_of_kind {w : World} {e : Event} {kind : CallKind}
    (h : e.kind? = some kind) : w.freed? e = none := by
  cases e with
  | release name => cases h
  | cancel name => cases h
  | _ => rfl

theorem kind_canceled (l : Waiting) : (Waiting.canceled l).kind = l.kind := by
  cases l <;> rfl

theorem kind?_of_asked {w : World} {e : Event} {call : Option String} {l : Waiting}
    (h : w.asked? e = some (call, l)) : e.kind? = some l.kind := by
  cases l with
  | get id epoch answer =>
    obtain ⟨rfl, -⟩ := eq_of_asked_get h
    rfl
  | signOut id answer =>
    obtain ⟨userId, rfl, -⟩ := eq_of_asked_signOut h
    rfl

/-- What an event ends it begins, or it has waited under the name that the event frees. -/
theorem kind_of_ended {w : World} {e : Event} {l : Waiting} (h : w.ended? e = some l) :
    (e.kind? = some l.kind ∧ w.held? e = none)
      ∨ ∃ name l', w.freed? e = some name ∧ w.waiting.find? name = some l' ∧ l'.kind = l.kind := by
  unfold ended? at h
  split at h
  · rename_i hserved
    cases h
    exact .inl ⟨rfl, by simp [held?, asked?, hserved]⟩
  · cases h
    exact .inl ⟨rfl, by simp [held?, asked?]⟩
  · rename_i name
    exact .inr ⟨name, l, by simp [freed?, h], h, rfl⟩
  · rename_i name
    obtain ⟨l', hl, rfl⟩ := Option.map_eq_some_iff.mp h
    exact .inr ⟨name, l', by simp [freed?, hl], hl, (kind_canceled l').symm⟩
  · split at h
    · rename_i hasked
      cases h
      exact .inl ⟨kind?_of_asked hasked, by simp [held?, hasked]⟩
    · cases h

theorem kind?_reply_of_atOnce {w : World} {e : Event} {kind : CallKind}
    (hkind : e.kind? = some kind) (hheld : w.held? e = none) : (w.reply e).kind? = some kind := by
  cases hs : w.served? e with
  | some session =>
    obtain ⟨id, call, canceled, rfl⟩ := eq_get_of_served hs
    rw [reply_of_served hs, ← hkind]
    rfl
  | none =>
    cases he : w.ended? e with
    | none =>
      obtain ⟨name, l, hwaits⟩ := exists_held_of_kind hkind hs he
      rw [hheld] at hwaits
      cases hwaits
    | some l =>
      rw [reply_of_ended he, l.kind?_reply]
      rcases kind_of_ended he with ⟨hown, -⟩ | ⟨name, l', hfreed, -, -⟩
      · rw [← hown, hkind]
      · rw [freed?_eq_none_of_kind hkind] at hfreed
        cases hfreed

end World

section

variable {ms : List (Moment World Event)} {j : Nat} {n : Moment World Event}
  (hn : ms[j]? = some n) (htracks : traffic.Tracks (ms.take j) n.state) {kind : CallKind}

include hn htracks

theorem exists_ends_of_kind (h : (n.state.reply n.event).kind? = some kind) :
    ∃ i, Ends ms kind i j := by
  cases hs : n.state.served? n.event with
  | some session =>
    rw [World.reply_of_served hs] at h
    cases h
    obtain ⟨id, call, canceled, hevent⟩ := World.eq_get_of_served hs
    exact ⟨j, ⟨n, hn, by rw [hevent]; rfl⟩, .atOnce hn (World.held?_eq_none_of_served hs)⟩
  | none =>
    cases he : n.state.ended? n.event with
    | none =>
      rw [World.kind?_reply_of_idle hs he] at h
      cases h
    | some l =>
      rw [World.reply_of_ended he, l.kind?_reply] at h
      cases h
      rcases World.kind_of_ended he with ⟨hkind, hheld⟩ | ⟨name, l', hfreed, hwaits, hkind⟩
      · exact ⟨j, ⟨n, hn, hkind⟩, .atOnce hn hheld⟩
      · obtain ⟨i, hsince⟩ := (htracks name l').mp hwaits
        obtain ⟨m, hm, hheld⟩ := hsince.held
        refine ⟨i, ⟨m, (getElem?_of_take_eq_some hm).2, ?_⟩, .waited hsince hn hfreed⟩
        rw [World.kind?_of_asked (World.asked_of_held hheld), hkind]

theorem Ends.kind?_reply {i : Nat} (h : Ends ms kind i j) :
    (n.state.reply n.event).kind? = some kind := by
  obtain ⟨⟨m, hm, hkind⟩, hspan⟩ := h
  cases hspan with
  | atOnce hm' hheld =>
    obtain rfl := Option.some.inj (hn.symm.trans hm)
    obtain rfl := Option.some.inj (hn.symm.trans hm')
    exact World.kind?_reply_of_atOnce hkind hheld
  | @waited _ name l n' hsince hn' hfreed =>
    obtain rfl := Option.some.inj (hn.symm.trans hn')
    have hown := World.kind?_of_asked (World.asked_of_held (hsince.held_eq hm).2)
    rw [hkind] at hown
    have hwaits := (htracks name l).mpr ⟨i, hsince⟩
    rcases World.ended_of_freed hfreed hwaits with hended | hended
    · rw [World.reply_of_ended hended, Waiting.kind?_reply, hown]
    · rw [World.reply_of_ended hended, Waiting.kind?_reply, World.kind_canceled, hown]

end

theorem Ends.unique {ms : List (Moment World Event)} {kind kind' : CallKind} {i i' j j' : Nat}
    (h : Ends ms kind i j) (h' : Ends ms kind' i' j') : i = i' ↔ j = j' := by
  have hbegins : ∀ {k : CallKind} {r : Nat}, (∃ m, ms[r]? = some m ∧ m.event.kind? = some k) →
      ∀ m, ms[r]? = some m → traffic.freed? m.state m.event = none := by
    rintro k r ⟨m, hm, hkind⟩ m' hm'
    obtain rfl := Option.some.inj (hm.symm.trans hm')
    exact World.freed?_eq_none_of_kind hkind
  constructor
  · rintro rfl
    exact h.2.end_unique h'.2
  · rintro rfl
    exact h.2.begin_unique h'.2 (hbegins h.1) (hbegins h'.1)

section

variable {config : CacheConfig} (henabled : config.isEnabled = true)

include henabled

theorem counted_run (clock : Clock) (directory : Directory) (es : List Event) :
    Counted directory.gets (history clock directory config es)
      ((World.new clock directory (.new config)).run es) := by
  refine run_induction ?_ (fun _ _ e h => h.next e) es
  have hnew : SessionService.new config = ⟨some ⟨config, [], {}⟩, 0⟩ := by
    simp [SessionService.new, Cache.new?, henabled]
  rw [World.new, hnew]
  exact ⟨rfl, rfl, rfl, rfl⟩

/-- After any run of a service with a cache, its books say this.
- The hits of the cache are the lookups that were served from it, and every lookup that has begun
  was counted once, as a hit or as a miss.
- The directory was asked for a session once for every miss, but for the lookups whose caller had
  gone away before they began.
- The records that were handed out tell, one by one and in order, of the results of the calls that
  have ended. A result stands where a call of its kind ends, and different calls end at different
  moments, each of them once. -/
theorem sessions_accounted_for (clock : Clock) (directory : Directory) (es : List Event) :
    let ms := history clock directory config es
    let w := (World.new clock directory (.new config)).run es
    (∃ s, w.service.stats = some s
        ∧ s.counters.hits = ms.countP serves
        ∧ s.counters.hits + s.counters.misses = ms.countP begins
        ∧ w.directory.gets + ms.countP turnsAway = directory.gets + s.counters.misses)
      ∧ List.Forall₂ Reply.IsToldBy (results ms) (handedOut ms)
      ∧ (∀ j n, ms[j]? = some n → ∀ kind,
        (n.state.reply n.event).kind? = some kind ↔ ∃ i, Ends ms kind i j)
      ∧ ∀ kind kind' i i' j j', Ends ms kind i j → Ends ms kind' i' j' → (i = i' ↔ j = j') := by
  intro ms w
  obtain ⟨hcaching, hhits, hlookups, hgets⟩ : Counted directory.gets ms w :=
    counted_run henabled clock directory es
  obtain ⟨cache, hcache⟩ := Option.isSome_iff_exists.mp hcaching
  have hcounters : w.service.counters = cache.counters := by
    rw [SessionService.counters, hcache, Cache.countersOf]
  rw [hcounters] at hhits hlookups
  refine ⟨⟨cache.stats, ?_, hhits, hlookups, ?_⟩, forall₂_isToldBy ms, ?_, ?_⟩
  · rw [SessionService.stats, hcache, Option.map_some]
  · change w.directory.gets + ms.countP turnsAway = directory.gets + cache.counters.misses
    rw [Cache.Counters.lookups] at hlookups
    omega
  · intro j n hn kind
    have htracks := (sound_history hn).tracks
    exact ⟨exists_ends_of_kind hn htracks, fun ⟨_, h⟩ => h.kind?_reply hn htracks⟩
  · intro kind kind' i i' j j' h h'
    exact h.unique h'

end

/-- A lookup is served, one is turned away, and one is given up while it waits. -/
def mixed : List Event :=
  [.get "s" none false, .get "s" none false, .get "t" none true, .get "t" (some "late") false,
    .signOut "s" "u" none false, .cancel "late"]

/-- Of four lookups one is a hit and two ask the directory, and with the sign-out they leave five
records. -/
theorem mixed_accounted_for :
    (CacheConfig.session 2).isEnabled = true
      ∧ ((World.new (.startingAt 0) signedIn (.new (.session 2))).run mixed).directory.gets = 2
      ∧ (handedOut (history (.startingAt 0) signedIn (.session 2) mixed)).length = 5
      ∧ ∃ s, ((World.new (.startingAt 0) signedIn (.new (.session 2))).run mixed).service.stats
          = some s
        ∧ s.counters.hits = 1 ∧ s.counters.misses = 3 := by
  obtain ⟨⟨s, hs, hhits, hlookups, hgets⟩, htold, -⟩ :=
    sessions_accounted_for (show (CacheConfig.session 2).isEnabled = true from rfl) (.startingAt 0)
      signedIn mixed
  have hserved : (history (.startingAt 0) signedIn (.session 2) mixed).countP serves = 1 := by
    decide +kernel
  have hbegun : (history (.startingAt 0) signedIn (.session 2) mixed).countP begins = 4 := by
    decide +kernel
  have hturned : (history (.startingAt 0) signedIn (.session 2) mixed).countP turnsAway = 1 := by
    decide +kernel
  have hended : (results (history (.startingAt 0) signedIn (.session 2) mixed)).length = 5 := by
    decide +kernel
  have hnever : signedIn.gets = 0 := rfl
  exact ⟨rfl, by omega, by rw [← htold.length_eq, hended], s, hs, by omega, by omega⟩

end Sessions

end ScopeGate
