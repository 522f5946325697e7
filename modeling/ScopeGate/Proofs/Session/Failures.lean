import ScopeGate.Proofs.Cache.Places
import ScopeGate.Proofs.Session.SignOut

/-!
# Session calls that fail

A call about a session fails when its caller goes away before it has ended, or when the directory
answers with a fault. At its end it changes nothing then, whatever other calls have done to the
service in the meantime, and tells of itself in one record. A sign-out has changed nothing before
that either. A lookup has looked into the cache as it began and has missed the session there.

So a sign-out that fails does not add to the number of sign-outs. A lookup finds that number as it
was, and keeps its session, unless a sign-out has succeeded since it asked.
-/

namespace ScopeGate

theorem Cache.exists_entries_insert {κ ν : Type} [DecidableEq κ] (now : Duration) (k : κ) (v : ν)
    (c : Cache κ ν) : ∃ rest, (c.insert now k v).entries = ⟨k, v, now⟩ :: rest := by
  unfold Cache.insert
  dsimp only
  split
  · exact ⟨_, rfl⟩
  · split <;> exact ⟨_, rfl⟩

namespace SessionService

def Ordered (s : SessionService) : Prop := Cache.Ordered s.cache

theorem ordered_new (config : CacheConfig) : (new config).Ordered := Cache.ordered_new? config

theorem Ordered.beginGet {s : SessionService} (h : s.Ordered) (clock : Clock) (id : String) :
    (s.beginGet clock id).1.Ordered := by
  unfold SessionService.beginGet
  split
  · exact h
  · rename_i cache hcache
    obtain ⟨hin, hpos⟩ := h cache hcache
    refine .some (hin.get clock.elapsed id) ?_
    rwa [Cache.config_get]

theorem Ordered.keep {s : SessionService} (h : s.Ordered) (clock : Clock) (epoch : Nat)
    (id : String) (session : Session) : (s.keep clock epoch id session).Ordered := by
  unfold SessionService.keep
  split
  · exact h
  · rename_i cache hcache
    obtain ⟨hin, hpos⟩ := h cache hcache
    have hkept := hin.insert hpos clock.elapsed id session
    have hconfig := Cache.config_insert clock.elapsed id session cache
    rw [← hconfig] at hpos
    dsimp only
    split
    · exact .some hkept hpos
    · exact .some (hkept.erase id) hpos

theorem Ordered.completeSignOut {s : SessionService} (h : s.Ordered) (id : String) :
    (s.completeSignOut id (.ok ())).1.Ordered := by
  unfold SessionService.completeSignOut
  cases hcache : s.cache with
  | none => simp [Ordered, Cache.Ordered]
  | some cache =>
    obtain ⟨hin, hpos⟩ := h cache hcache
    exact .some (hin.erase id) hpos

theorem isSome_cache_beginGet (clock : Clock) (id : String) (s : SessionService) :
    (s.beginGet clock id).1.cache.isSome = s.cache.isSome := by
  unfold beginGet
  split
  · rfl
  · rename_i cache hcache
    simp [hcache]

/-- What a lookup leaves of the service that finds nothing in the cache. -/
def missed (now : Duration) (id : String) (s : SessionService) : SessionService :=
  { s with cache := s.cache.map (Cache.missed now id) }

theorem beginGet_eq_missed {s : SessionService} (h : s.Ordered) {clock : Clock} {id : String}
    (hnone : (s.beginGet clock id).2 = none) :
    (s.beginGet clock id).1 = s.missed clock.elapsed id := by
  obtain ⟨c?, signOuts⟩ := s
  cases c? with
  | none => rfl
  | some cache =>
    have hget : (cache.get clock.elapsed id).1 = cache.missed clock.elapsed id :=
      (h cache rfl).1.get_eq_missed hnone
    simp only [beginGet, missed, hget, Option.map_some]

theorem exists_entries_keep {s : SessionService} (h : s.cache.isSome = true) (clock : Clock)
    (id : String) (session : Session) :
    ∃ rest,
      (s.keep clock s.signOuts id session).entries = ⟨id, session, clock.elapsed⟩ :: rest := by
  obtain ⟨cache, hcache⟩ := Option.isSome_iff_exists.mp h
  unfold keep
  simp only [hcache, if_true, entries_mk_some]
  exact Cache.exists_entries_insert clock.elapsed id session cache

end SessionService

namespace Sessions

/-- A call fails at the moment, and `left` is what it leaves of the service. -/
structure Fails (n : Moment World Event) (safeMessage : String) (fault : SessionFault)
    (left : SessionService) : Prop where
  service : (n.state.step n.event).1.service = left
  record : ∃ r, (n.state.step n.event).2.2 = [.record r] ∧ r.status = .error safeMessage
    ∧ r.get? Key.fullError = some (.string fault.message)

/-- A call waits from the moment on, and `left` is what it leaves of the service. -/
structure Waits (m : Moment World Event) (left : SessionService) : Prop where
  reply : ∃ name, m.state.reply m.event = .pending name
  service : (m.state.step m.event).1.service = left
  signals : (m.state.step m.event).2.2 = []

namespace World

variable {w : World} {e : Event}

/-- A call that ends hands out what it completes with, in whatever world it does. -/
theorem exists_signals_of_ended {l : Waiting} (h : w.ended? e = some l) :
    ∃ v : World, (w.step e).2.2 = (v.complete l).2.2 := by
  cases e with
  | get id call canceled =>
    have hserved := served?_eq_none_of_ended h
    rw [step_get, hserved]
    cases canceled with
    | true =>
      simp only [ended?, hserved, Option.some.injEq] at h
      subst h
      exact ⟨_, rfl⟩
    | false =>
      cases call with
      | some name => simp [ended?, asked?, hserved] at h
      | none =>
        simp only [ended?, asked?, hserved, Option.some.injEq] at h
        subst h
        exact ⟨_, rfl⟩
  | signOut id userId call canceled =>
    cases canceled with
    | true =>
      simp only [ended?, served?, Option.some.injEq] at h
      subst h
      exact ⟨_, rfl⟩
    | false =>
      cases call with
      | some name => simp [ended?, asked?, served?] at h
      | none =>
        simp only [ended?, asked?, served?, Option.some.injEq] at h
        subst h
        exact ⟨_, rfl⟩
  | release name =>
    have hl : w.waiting.find? name = some l := h
    simp only [step, resume, hl]
    exact ⟨_, rfl⟩
  | cancel name =>
    obtain ⟨l', hl, rfl⟩ := Option.map_eq_some_iff.mp h
    simp only [step, resume, hl]
    exact ⟨_, rfl⟩
  | _ => cases h

theorem fails_of_ended_get {id : String} {epoch : Nat} {fault : SessionFault}
    (h : w.ended? e = some (.get id epoch (.error fault))) :
    Fails ⟨w, e⟩ "unable to get session" fault (w.looked e) := by
  obtain ⟨v, hsignals⟩ := exists_signals_of_ended h
  refine ⟨?_, _, hsignals, rfl, TraceRecord.get?_set_self _ _ _⟩
  simp only [(step_spec w e).1, settled, h, Waiting.settle, SessionService.completeGet_error]

theorem fails_of_ended_signOut {id : String} {fault : SessionFault}
    (h : w.ended? e = some (.signOut id (.error fault))) :
    Fails ⟨w, e⟩ "unable to sign out session" fault (w.looked e) := by
  obtain ⟨v, hsignals⟩ := exists_signals_of_ended h
  refine ⟨?_, _, hsignals, rfl, TraceRecord.get?_set_self _ _ _⟩
  simp only [(step_spec w e).1, settled, h, Waiting.settle, SessionService.completeSignOut_error]

/-- A call that is let wait has asked the directory, and done nothing else since it looked into the
cache. -/
theorem waits_of_held {name : String} {l : Waiting} (h : w.held? e = some (name, l)) :
    Waits ⟨w, e⟩ (w.looked e) := by
  have hasked := asked_of_held h
  cases l with
  | get id epoch answer =>
    obtain ⟨rfl, hserved, rfl, rfl⟩ := eq_of_asked_get hasked
    have hstep := step_get w id (some name) false
    rw [hserved] at hstep
    exact ⟨⟨name, by rw [reply, hstep]; rfl⟩, by rw [hstep]; rfl, by rw [hstep]; rfl⟩
  | signOut id answer =>
    obtain ⟨userId, rfl, rfl⟩ := eq_of_asked_signOut hasked
    exact ⟨⟨name, rfl⟩, rfl, rfl⟩

/-- A caller that has gone away before its call begins keeps it from the directory. -/
theorem directory_of_canceled {m : Moment World Event}
    (h : (∃ id call, m.event = .get id call true)
      ∨ ∃ id userId call, m.event = .signOut id userId call true) :
    (m.state.step m.event).1.directory = m.state.directory := by
  rcases h with ⟨id, call, hevent⟩ | ⟨id, userId, call, hevent⟩
  · rw [hevent, step_get]
    cases m.state.served? (.get id call true) <;> rfl
  · rw [hevent]
    rfl

theorem ordered_step (h : w.service.Ordered) (e : Event) : (w.step e).1.service.Ordered :=
  service_invariant (fun _ clock id h => h.beginGet clock id)
    (fun _ clock epoch id session h => h.keep clock epoch id session)
    (fun _ id h => h.completeSignOut id) h e

theorem isSome_cache_step (h : w.service.cache.isSome = true) (e : Event) :
    (w.step e).1.service.cache.isSome = true := by
  refine service_invariant (P := fun s => s.cache.isSome = true) ?_ ?_ ?_ h e
  · intro s clock id h
    rwa [SessionService.isSome_cache_beginGet]
  · intro s clock epoch id session h
    unfold SessionService.keep
    split
    · exact h
    · rfl
  · intro s id h
    obtain ⟨cache, hcache⟩ := Option.isSome_iff_exists.mp h
    simp [SessionService.completeSignOut, hcache]

theorem isSome_cache_looked (w : World) (e : Event) :
    (w.looked e).cache.isSome = w.service.cache.isSome := by
  cases e with
  | get id call canceled => exact SessionService.isSome_cache_beginGet w.clock id w.service
  | _ => rfl

theorem looked_of_freed {name : String} (h : w.freed? e = some name) : w.looked e = w.service := by
  cases e with
  | get id call canceled => cases h
  | _ => rfl

end World

/-- A call ends as it begins, or it is let wait there and looks for nothing when it ends. -/
theorem looked_of_spans {ms : List (Moment World Event)} {i j : Nat} {m n : Moment World Event}
    (hspan : traffic.Spans ms i j) (hm : ms[i]? = some m) (hn : ms[j]? = some n) :
    (i = j ∧ m = n)
      ∨ (i < j ∧ Waits m (m.state.looked m.event) ∧ n.state.looked n.event = n.state.service) := by
  cases hspan with
  | atOnce _ _ =>
    rw [hm] at hn
    exact .inl ⟨rfl, Option.some.inj hn⟩
  | waited hheld hn' hfreed =>
    obtain rfl := Option.some.inj (hn.symm.trans hn')
    obtain ⟨hlt, hkept⟩ := hheld.held_eq hm
    exact .inr ⟨hlt, World.waits_of_held hkept, World.looked_of_freed hfreed⟩

theorem fails_of_signedOut {ms : List (Moment World Event)} {i j : Nat} {m n : Moment World Event}
    {fault : SessionFault} (hspan : traffic.Spans ms i j) (hm : ms[i]? = some m)
    (hevent : ∃ id userId call canceled, m.event = .signOut id userId call canceled)
    (hn : ms[j]? = some n) (hreply : n.state.reply n.event = .signedOut (.error fault)) :
    (i < j → Waits m m.state.service)
      ∧ Fails n "unable to sign out session" fault n.state.service := by
  obtain ⟨id, hended⟩ := World.ended_of_signedOut hreply
  have hfails := World.fails_of_ended_signOut hended
  have hlooked : m.state.looked m.event = m.state.service := by
    obtain ⟨_, _, _, _, he⟩ := hevent
    rw [he]
    rfl
  rcases looked_of_spans hspan hm hn with ⟨rfl, rfl⟩ | ⟨_, hwaits, hidle⟩
  · rw [hlooked] at hfails
    exact ⟨fun hlt => absurd hlt (Nat.lt_irrefl i), hfails⟩
  · rw [hlooked] at hwaits
    rw [hidle] at hfails
    exact ⟨fun _ => hwaits, hfails⟩

theorem fails_of_got {ms : List (Moment World Event)} {i j : Nat} {m n : Moment World Event}
    {id : String} {fault : SessionFault} (hspan : traffic.Spans ms i j) (hm : ms[i]? = some m)
    (hevent : ∃ call canceled, m.event = .get id call canceled)
    (hordered : m.state.service.Ordered) (hn : ms[j]? = some n)
    (hreply : n.state.reply n.event = .got (.error fault)) :
    let left := m.state.service.missed m.state.clock.elapsed id
    (i < j → Waits m left ∧ Fails n "unable to get session" fault n.state.service)
      ∧ (i = j → Fails n "unable to get session" fault left) := by
  intro left
  have hmissed : m.state.served? m.event = none → m.state.looked m.event = left := by
    obtain ⟨call, canceled, he⟩ := hevent
    rw [he]
    exact SessionService.beginGet_eq_missed hordered
  rcases World.served_or_ended_of_got hreply with ⟨_, _, he⟩ | ⟨other, epoch, answer, hended, he⟩
  · cases he
  obtain rfl : answer = .error fault := by
    cases answer with
    | ok session => cases he
    | error fault' =>
      cases he
      rfl
  have hfails := World.fails_of_ended_get hended
  rcases looked_of_spans hspan hm hn with ⟨rfl, rfl⟩ | ⟨hlt, hwaits, hidle⟩
  · rw [hmissed (World.served?_eq_none_of_ended hended)] at hfails
    exact ⟨fun hlt => absurd hlt (Nat.lt_irrefl i), fun _ => hfails⟩
  · have hserved : m.state.served? m.event = none := by
      cases hs : m.state.served? m.event with
      | none => rfl
      | some session =>
        obtain ⟨name, hpending⟩ := hwaits.reply
        rw [World.reply_of_served hs] at hpending
        cases hpending
    rw [hmissed hserved] at hwaits
    rw [hidle] at hfails
    exact ⟨fun _ => ⟨hwaits, hfails⟩, fun heq => absurd heq (Nat.ne_of_lt hlt)⟩

/-! ## Runs -/

section

variable {clock : Clock} {directory : Directory} {config : CacheConfig} {es : List Event}

theorem ordered_history {i : Nat} {m : Moment World Event}
    (hm : (history clock directory config es)[i]? = some m) : m.state.service.Ordered :=
  (moment_invariant (P := fun w : World => w.service.Ordered) (SessionService.ordered_new config)
    (fun _ e _ h => World.ordered_step h e) hm).1

theorem isSome_cache_history (henabled : config.isEnabled = true) {i : Nat}
    {m : Moment World Event} (hm : (history clock directory config es)[i]? = some m) :
    m.state.service.cache.isSome = true := by
  have hnew : (SessionService.new config).cache.isSome = true := by
    simp [SessionService.new, Cache.new?, henabled]
  exact (moment_invariant (P := fun w : World => w.service.cache.isSome = true) hnew
    (fun _ e _ h => World.isSome_cache_step h e) hm).1

theorem signOuts_eq_of_quiet {k l : Nat} {m n : Moment World Event} (hkl : k ≤ l)
    (hm : (history clock directory config es)[k]? = some m)
    (hn : (history clock directory config es)[l]? = some n)
    (hquiet : ∀ p q, k ≤ p → p < l → (history clock directory config es)[p]? = some q →
      q.state.reply q.event ≠ .signedOut (.ok ())) :
    n.state.service.signOuts = m.state.service.signOuts := by
  rcases Nat.eq_or_lt_of_le hkl with rfl | hlt
  · rw [Option.some.inj (hm.symm.trans hn)]
  · -- The number is that of the moment `k` as long as the past since then is quiet.
    have hnumber := moment_induction
      (P := fun past w => ∀ q, past[k]? = some q →
        (∀ p r, k ≤ p → past[p]? = some r → r.state.reply r.event ≠ .signedOut (.ok ())) →
          w.service.signOuts = q.state.service.signOuts) (by simp) ?_ hn
    · have hold : ((history clock directory config es).take l)[k]? = some m := by
        rw [List.getElem?_take_of_lt hlt, hm]
      refine hnumber m hold ?_
      intro p r hkp hr
      obtain ⟨hpl, hr⟩ := getElem?_of_take_eq_some hr
      exact hquiet p r hkp hpl hr
    · intro past w e ih q hq hpast
      have hk : k ≤ past.length := by
        have hlen := (List.getElem?_eq_some_iff.mp hq).1
        rw [List.length_append, List.length_singleton] at hlen
        omega
      rw [World.signOuts_step_of_ne (hpast past.length ⟨w, e⟩ hk List.getElem?_concat_length)]
      rcases (getElem?_append_singleton_iff _ _ _ _).mp hq with hold | ⟨_, rfl⟩
      · exact ih q hold fun p r hkp hr => hpast p r hkp (getElem?_append_of_eq_some hr _)
      · rfl

/-- A lookup keeps what it is given, if no sign-out has succeeded since it began. -/
theorem kept_of_quiet (henabled : config.isEnabled = true) {k l : Nat} {id : String}
    {session : Session} {n : Moment World Event}
    (hgets : Gets (history clock directory config es) k l id ⟨session, false⟩)
    (hn : (history clock directory config es)[l]? = some n)
    (hquiet : ∀ p q, k < p → p < l → (history clock directory config es)[p]? = some q →
      q.state.reply q.event ≠ .signedOut (.ok ())) :
    ∃ rest, (n.state.step n.event).1.service.entries
      = ⟨id, session, n.state.clock.elapsed⟩ :: rest := by
  obtain ⟨m, call, hm, hspan, -, hended⟩ := hgets.ended hn (sound_history hn).tracks
  have hnumber : n.state.service.signOuts = m.state.service.signOuts := by
    refine signOuts_eq_of_quiet hspan.le hm hn ?_
    intro p q hkp hpl hq hdone
    rcases Nat.eq_or_lt_of_le hkp with rfl | hlt
    · -- The lookup itself has been let wait at that moment.
      obtain rfl := Option.some.inj (hm.symm.trans hq)
      rcases looked_of_spans hspan hm hn with ⟨rfl, _⟩ | ⟨_, hwaits, _⟩
      · exact absurd hpl (Nat.lt_irrefl _)
      · obtain ⟨name, hpending⟩ := hwaits.reply
        rw [hdone] at hpending
        cases hpending
    · exact hquiet p q hlt hpl hq hdone
  have hcaching : (n.state.looked n.event).cache.isSome = true := by
    rw [World.isSome_cache_looked]
    exact isSome_cache_history henabled hn
  have hkeeps :=
    SessionService.exists_entries_keep hcaching n.state.clock id session
  rw [World.signOuts_looked, hnumber] at hkeeps
  rw [(World.step_spec n.state n.event).1, World.settled, hended]
  exact hkeeps

/-- Calls of a run that fail change nothing. A sign-out that fails leaves the service as it is when
it begins and when it ends, the cache as well as the number of sign-outs. A lookup that fails has
missed the session as it began, and leaves the service as it is when it ends. Either tells of itself
in one record, at its end. A call whose caller has gone away before does not reach the directory.

No sign-out but a successful one keeps a lookup that it overlaps from storing its session. -/
theorem failed_calls_change_nothing (clock : Clock) (directory : Directory) (config : CacheConfig)
    (es : List Event) :
    let ms := history clock directory config es
    (∀ i j m n fault, ms[i]? = some m →
        (∃ id userId call canceled, m.event = .signOut id userId call canceled) →
        traffic.Spans ms i j → ms[j]? = some n →
        n.state.reply n.event = .signedOut (.error fault) →
          (i < j → Waits m m.state.service)
            ∧ Fails n "unable to sign out session" fault n.state.service)
      ∧ (∀ i j m n id fault, ms[i]? = some m →
        (∃ call canceled, m.event = .get id call canceled) →
        traffic.Spans ms i j → ms[j]? = some n → n.state.reply n.event = .got (.error fault) →
          let left := m.state.service.missed m.state.clock.elapsed id
          (i < j → Waits m left ∧ Fails n "unable to get session" fault n.state.service)
            ∧ (i = j → Fails n "unable to get session" fault left))
      ∧ (∀ (i : Nat) m, ms[i]? = some m →
        (∃ id call, m.event = .get id call true)
          ∨ (∃ id userId call, m.event = .signOut id userId call true) →
        (m.state.step m.event).1.directory = m.state.directory)
      ∧ (config.isEnabled = true → ∀ k l id session n, Gets ms k l id ⟨session, false⟩ →
        ms[l]? = some n →
        (∀ p q, k < p → p < l → ms[p]? = some q →
          q.state.reply q.event ≠ .signedOut (.ok ())) →
        ∃ rest, (n.state.step n.event).1.service.entries
          = ⟨id, session, n.state.clock.elapsed⟩ :: rest) := by
  intro ms
  refine ⟨?_, ?_, ?_, ?_⟩
  · intro i j m n fault hm hevent hspan hn hreply
    exact fails_of_signedOut hspan hm hevent hn hreply
  · intro i j m n id fault hm hevent hspan hn hreply
    exact fails_of_got hspan hm hevent (ordered_history hm) hn hreply
  · intro i m _ hevent
    exact World.directory_of_canceled hevent
  · intro henabled k l id session n hgets hn hquiet
    exact kept_of_quiet henabled hgets hn hquiet

end

/-- A lookup is overlapped by a sign-out whose caller goes away. -/
def abandoned : List (Moment World Event) :=
  history (.startingAt 0) signedIn (.session 1)
    [.get "s" (some "early") false, .signOut "s" "u" (some "out") false, .cancel "out",
      .release "early"]

theorem abandoned_lookup_waits :
    ∃ l, traffic.HeldSince (abandoned.take 3) 0 "early" l := by
  refine ⟨_, ⟨_, rfl, rfl⟩, ?_⟩
  intro j m hj hm
  obtain ⟨hlt, hm⟩ := getElem?_of_take_eq_some hm
  obtain rfl | rfl : j = 1 ∨ j = 2 := by omega
  · obtain rfl := Option.some.inj hm
    refine ⟨fun call h => ?_, fun h => ?_⟩
    · have hname : some "out" = some "early" := congrArg (Option.map Prod.fst) h
      simp at hname
    · cases h
  · obtain rfl := Option.some.inj hm
    refine ⟨fun call h => ?_, fun h => ?_⟩
    · cases h
    · have hname : some "out" = some "early" := h
      simp at hname

theorem abandoned_sign_out_waits :
    ∃ l, traffic.HeldSince (abandoned.take 2) 1 "out" l := by
  refine ⟨_, ⟨_, rfl, rfl⟩, ?_⟩
  intro j m hj hm
  have hlt := (getElem?_of_take_eq_some hm).1
  omega

/-- The sign-out fails, although the directory has agreed to it, and the lookup keeps the session
that it was given. -/
theorem abandoned_sign_out_changes_nothing :
    ∃ m n p, abandoned[1]? = some m ∧ abandoned[2]? = some n ∧ abandoned[3]? = some p
      ∧ TakesEffect m "s" "u" ∧ Waits m m.state.service
      ∧ Fails n "unable to sign out session" .canceled n.state.service
      ∧ ∃ rest, (p.state.step p.event).1.service.entries
        = ⟨"s", ⟨"s", some ⟨"u", "", ""⟩⟩, p.state.clock.elapsed⟩ :: rest := by
  obtain ⟨l, hleaves⟩ := abandoned_sign_out_waits
  obtain ⟨l', hstays⟩ := abandoned_lookup_waits
  obtain ⟨m, hm, hagreed, hbegins⟩ : ∃ m, abandoned[1]? = some m ∧ TakesEffect m "s" "u"
      ∧ m.event = .signOut "s" "u" (some "out") false :=
    ⟨_, rfl, ⟨⟨_, _, rfl⟩, rfl, rfl⟩, rfl⟩
  obtain ⟨n, hn, hleft, hcanceled⟩ : ∃ n, abandoned[2]? = some n
      ∧ traffic.freed? n.state n.event = some "out"
      ∧ n.state.reply n.event = .signedOut (.error .canceled) :=
    ⟨_, rfl, rfl, rfl⟩
  obtain ⟨p, hp, hback, hgot⟩ : ∃ p, abandoned[3]? = some p
      ∧ traffic.freed? p.state p.event = some "early"
      ∧ p.state.reply p.event = .got (.ok ⟨⟨"s", some ⟨"u", "", ""⟩⟩, false⟩) :=
    ⟨_, rfl, rfl, rfl⟩
  have hgets : Gets abandoned 0 3 "s" ⟨⟨"s", some ⟨"u", "", ""⟩⟩, false⟩ :=
    ⟨_, p, rfl, ⟨_, _, rfl⟩, .waited hstays hp hback, hp, hgot⟩
  have hquiet : ∀ k q, 0 < k → k < 3 → abandoned[k]? = some q →
      q.state.reply q.event ≠ .signedOut (.ok ()) := by
    intro k q hk hlt hq hdone
    obtain rfl | rfl : k = 1 ∨ k = 2 := by omega
    · obtain rfl := Option.some.inj hq
      cases hdone
    · obtain rfl := Option.some.inj hq
      cases hdone
  obtain ⟨hsignOut, -, -, hkept⟩ := failed_calls_change_nothing (.startingAt 0) signedIn
    (.session 1) _
  obtain ⟨hwaits, hfails⟩ :=
    hsignOut 1 2 m n .canceled hm ⟨_, _, _, _, hbegins⟩ (.waited hleaves hn hleft) hn hcanceled
  exact ⟨m, n, p, hm, hn, hp, hagreed, hwaits (by decide), hfails,
    hkept rfl 0 3 _ _ p hgets hp hquiet⟩

end Sessions

end ScopeGate
