import ScopeGate.Proofs.Session.Calls

/-!
# Signed-out sessions

Once a sign-out has succeeded, no lookup that begins later hands out a session that the directory
gave before the sign-out took effect there. Lookups may overlap the sign-out in any way: one of them
may have been given the session before and come back after the sign-out has emptied the cache.

What rules this out is the number of sign-outs. `Sound` says of the past that every lookup that
waits with the present number asked after all sign-outs that have succeeded (`epochs`), and that
every entry of the cache was given to a lookup that asked after all successful sign-outs of its
session took effect (`kept`). A lookup that has been overlapped holds an older number, and nothing
is kept of it.
-/

namespace ScopeGate.Sessions

/-- The directory is asked for a session at the moment, and gives it. -/
structure ReadsOut (m : Moment World Event) (id : String) (session : Session) : Prop where
  event : ∃ call canceled, m.event = .get id call canceled
  asked : (m.state.step m.event).1.directory = (m.state.directory.get id).1
  given : (m.state.directory.get id).2 = .ok session

/-- A user is signed out of a session in the directory at the moment. -/
structure TakesEffect (m : Moment World Event) (id userId : String) : Prop where
  event : ∃ call canceled, m.event = .signOut id userId call canceled
  asked : (m.state.step m.event).1.directory = (m.state.directory.signOut id userId).1
  agreed : (m.state.directory.signOut id userId).2 = .ok ()

/-- A sign-out begins at the moment `i` and ends with success at the moment `j`. -/
def SignsOut (ms : List (Moment World Event)) (i j : Nat) (id userId : String) : Prop :=
  ∃ m n, ms[i]? = some m ∧ (∃ call canceled, m.event = .signOut id userId call canceled)
    ∧ traffic.Spans ms i j ∧ ms[j]? = some n ∧ n.state.reply n.event = .signedOut (.ok ())

/-- A lookup begins at the moment `i` and hands out a session at the moment `j`. -/
def Gets (ms : List (Moment World Event)) (i j : Nat) (id : String) (found : Lookup Session) :
    Prop :=
  ∃ m n, ms[i]? = some m ∧ (∃ call canceled, m.event = .get id call canceled)
    ∧ traffic.Spans ms i j ∧ ms[j]? = some n ∧ n.state.reply n.event = .got (.ok found)

namespace World

theorem eq_of_asked_get {w : World} {e : Event} {call : Option String} {id : String} {epoch : Nat}
    {answer : Except SessionFault Session} (h : w.asked? e = some (call, .get id epoch answer)) :
    e = .get id call false ∧ w.served? e = none ∧ epoch = w.service.signOuts
      ∧ (w.directory.get id).2 = answer := by
  unfold asked? at h
  split at h
  · rename_i hserved
    simp only [Option.some.injEq, Prod.mk.injEq, Waiting.get.injEq] at h
    obtain ⟨rfl, rfl, rfl, rfl⟩ := h
    exact ⟨rfl, hserved, rfl, rfl⟩
  · simp at h
  · cases h

theorem eq_of_asked_signOut {w : World} {e : Event} {call : Option String} {id : String}
    {answer : Except SessionFault Unit} (h : w.asked? e = some (call, .signOut id answer)) :
    ∃ userId, e = .signOut id userId call false ∧ (w.directory.signOut id userId).2 = answer := by
  unfold asked? at h
  split at h
  · simp at h
  · rename_i userId _ _
    simp only [Option.some.injEq, Prod.mk.injEq, Waiting.signOut.injEq] at h
    obtain ⟨rfl, rfl, rfl⟩ := h
    exact ⟨_, rfl, rfl⟩
  · cases h

theorem asked_of_held {w : World} {e : Event} {name : String} {l : Waiting}
    (h : w.held? e = some (name, l)) : w.asked? e = some (some name, l) := by
  unfold held? at h
  split at h
  · rename_i hasked
    cases h
    exact hasked
  · cases h

theorem isCanceled_canceled (l : Waiting) : (Waiting.canceled l).isCanceled = true := by
  cases l <;> rfl

theorem directory_await (w : World) (call : Option String) (l : Waiting) :
    (w.await call l).1.directory = w.directory := by
  cases call with
  | none => rw [await, (complete_eq w l).1]
  | some name => rfl

theorem readsOut_of_asked {w : World} {e : Event} {call : Option String} {id : String}
    {epoch : Nat} {session : Session}
    (h : w.asked? e = some (call, .get id epoch (.ok session))) : ReadsOut ⟨w, e⟩ id session := by
  obtain ⟨rfl, hserved, -, hgiven⟩ := eq_of_asked_get h
  refine ⟨⟨call, false, rfl⟩, ?_, hgiven⟩
  rw [step_get, hserved]
  exact directory_await _ _ _

theorem takesEffect_of_asked {w : World} {e : Event} {call : Option String} {id userId : String}
    (h : w.asked? e = some (call, .signOut id (.ok ())))
    (he : ∃ call canceled, e = .signOut id userId call canceled) :
    TakesEffect ⟨w, e⟩ id userId := by
  obtain ⟨user, rfl, hagreed⟩ := eq_of_asked_signOut h
  obtain ⟨_, _, he⟩ := he
  injection he with _ huser _ _
  subst huser
  refine ⟨⟨call, false, rfl⟩, ?_, hagreed⟩
  exact directory_await _ _ _

/-- A call that ends with an answer of the directory asks at that event, or has waited for it. -/
theorem asked_or_waiting_of_ended {w : World} {e : Event} {l : Waiting}
    (h : w.ended? e = some l) (hl : l.isCanceled = false) :
    w.asked? e = some (none, l)
      ∨ ∃ name, w.freed? e = some name ∧ w.waiting.find? name = some l := by
  unfold ended? at h
  split at h
  · cases h
    cases hl
  · cases h
    cases hl
  · rename_i name
    exact .inr ⟨name, by simp [freed?, h], h⟩
  · obtain ⟨l₀, -, rfl⟩ := Option.map_eq_some_iff.mp h
    rw [isCanceled_canceled] at hl
    cases hl
  · split at h
    · rename_i hasked
      cases h
      exact .inl hasked
    · cases h

theorem ended_of_freed {w : World} {e : Event} {name : String} {l : Waiting}
    (h : w.freed? e = some name) (hl : w.waiting.find? name = some l) :
    w.ended? e = some l ∨ w.ended? e = some (Waiting.canceled l) := by
  cases e with
  | release other =>
    obtain ⟨_, -, rfl⟩ := Option.map_eq_some_iff.mp h
    exact .inl hl
  | cancel other =>
    obtain ⟨_, -, rfl⟩ := Option.map_eq_some_iff.mp h
    exact .inr (Option.map_eq_some_iff.mpr ⟨l, hl, rfl⟩)
  | _ => cases h

end World

/-- A call that ends with an answer of the directory has asked for it when it began. -/
theorem asked_of_spans {ms : List (Moment World Event)} {i j : Nat} {m n : Moment World Event}
    {l : Waiting} (htracks : traffic.Tracks (ms.take j) n.state) (hm : ms[i]? = some m)
    (hn : ms[j]? = some n) (hspan : traffic.Spans ms i j)
    (hended : n.state.ended? n.event = some l) (hl : l.isCanceled = false)
    (hbegins : m.state.freed? m.event = none) :
    ∃ call, m.state.asked? m.event = some (call, l) := by
  cases hspan with
  | atOnce hm' hheld =>
    obtain rfl : m = n := Option.some.inj (hm.symm.trans hn)
    rcases World.asked_or_waiting_of_ended hended hl with hasked | ⟨name, hfreed, _⟩
    · exact ⟨none, hasked⟩
    · rw [hbegins] at hfreed
      cases hfreed
  | @waited _ name call n' hheld hn' hfreed =>
    obtain rfl : n = n' := Option.some.inj (hn.symm.trans hn')
    have hwaits : n.state.waiting.find? name = some call := (htracks name call).mpr ⟨i, hheld⟩
    obtain ⟨m', hm', hkept⟩ := hheld.held
    obtain rfl : m = m' := Option.some.inj (hm.symm.trans (getElem?_of_take_eq_some hm').2)
    refine ⟨some name, World.asked_of_held ?_⟩
    rcases World.ended_of_freed hfreed hwaits with h | h
    · rw [hended] at h
      rw [Option.some.inj h]
      exact hkept
    · rw [hended] at h
      rw [Option.some.inj h, World.isCanceled_canceled] at hl
      cases hl

/-! ## Sign-outs and lookups in a run -/

theorem SignsOut.lt_length {ms : List (Moment World Event)} {i j : Nat} {id userId : String}
    (h : SignsOut ms i j id userId) : j < ms.length := by
  obtain ⟨_, _, _, _, hspan, _, _⟩ := h
  exact hspan.lt_length

theorem signsOut_append_iff {ms : List (Moment World Event)} {i j : Nat} {id userId : String}
    (hj : j < ms.length) (later : List (Moment World Event)) :
    SignsOut (ms ++ later) i j id userId ↔ SignsOut ms i j id userId := by
  unfold SignsOut
  simp only [Traffic.spans_append_iff hj, List.getElem?_append_left hj]
  constructor
  · rintro ⟨m, n, hm, hevent, hspan, hn, hreply⟩
    rw [List.getElem?_append_left (Nat.lt_of_le_of_lt hspan.le hj)] at hm
    exact ⟨m, n, hm, hevent, hspan, hn, hreply⟩
  · rintro ⟨m, n, hm, hevent, hspan, hn, hreply⟩
    exact ⟨m, n, getElem?_append_of_eq_some hm later, hevent, hspan, hn, hreply⟩

theorem Gets.append {ms : List (Moment World Event)} {i j : Nat} {id : String}
    {found : Lookup Session} (h : Gets ms i j id found) (later : List (Moment World Event)) :
    Gets (ms ++ later) i j id found := by
  obtain ⟨m, n, hm, hevent, hspan, hn, hreply⟩ := h
  exact ⟨m, n, getElem?_append_of_eq_some hm later, hevent,
    (Traffic.spans_append_iff hspan.lt_length later).mpr hspan,
    getElem?_append_of_eq_some hn later, hreply⟩

/-- A sign-out that succeeds has taken effect when it began. -/
theorem SignsOut.spec {ms : List (Moment World Event)} {i j : Nat} {id userId : String}
    (h : SignsOut ms i j id userId) {n : Moment World Event} (hn : ms[j]? = some n)
    (htracks : traffic.Tracks (ms.take j) n.state) :
    n.state.ended? n.event = some (.signOut id (.ok ()))
      ∧ ∃ m, ms[i]? = some m ∧ TakesEffect m id userId := by
  obtain ⟨m, n', hm, hevent, hspan, hn', hreply⟩ := h
  obtain rfl : n = n' := Option.some.inj (hn.symm.trans hn')
  obtain ⟨other, hended⟩ := (World.reply_eq_signedOut_iff _ _).mp hreply
  have hbegins : m.state.freed? m.event = none := by
    obtain ⟨_, _, he⟩ := hevent
    rw [he]
    rfl
  obtain ⟨call, hasked⟩ := asked_of_spans htracks hm hn hspan hended rfl hbegins
  obtain rfl : other = id := by
    obtain ⟨_, he, _⟩ := World.eq_of_asked_signOut hasked
    obtain ⟨_, _, he'⟩ := hevent
    rw [he] at he'
    injection he'
  exact ⟨hended, m, hm, World.takesEffect_of_asked hasked hevent⟩

/-- A lookup that the cache does not serve ends with the session that the directory gave when it
began, and with the number of sign-outs from then. -/
theorem Gets.ended {ms : List (Moment World Event)} {i j : Nat} {id : String} {session : Session}
    (h : Gets ms i j id ⟨session, false⟩) {n : Moment World Event} (hn : ms[j]? = some n)
    (htracks : traffic.Tracks (ms.take j) n.state) :
    ∃ m call, ms[i]? = some m ∧ traffic.Spans ms i j
      ∧ m.state.asked? m.event = some (call, .get id m.state.service.signOuts (.ok session))
      ∧ n.state.ended? n.event = some (.get id m.state.service.signOuts (.ok session)) := by
  obtain ⟨m, n', hm, ⟨call, canceled, hevent⟩, hspan, hn', hreply⟩ := h
  obtain rfl : n = n' := Option.some.inj (hn.symm.trans hn')
  rcases (World.reply_eq_got_iff _ _ _).mp hreply with ⟨hcache, _⟩ | ⟨_, other, epoch, hended⟩
  · cases hcache
  have hbegins : m.state.freed? m.event = none := by
    rw [hevent]
    rfl
  obtain ⟨call, hasked⟩ := asked_of_spans htracks hm hn hspan hended rfl hbegins
  obtain ⟨hown, -, rfl, -⟩ := World.eq_of_asked_get hasked
  obtain rfl : id = other := by
    rw [hevent] at hown
    injection hown
  exact ⟨m, call, hm, hspan, hasked, hended⟩

/-- A lookup that the cache does not serve hands out what the directory gave when it began. -/
theorem Gets.readsOut {ms : List (Moment World Event)} {i j : Nat} {id : String} {session : Session}
    (h : Gets ms i j id ⟨session, false⟩) {n : Moment World Event} (hn : ms[j]? = some n)
    (htracks : traffic.Tracks (ms.take j) n.state) :
    ∃ m, ms[i]? = some m ∧ ReadsOut m id session := by
  obtain ⟨m, call, hm, -, hasked, -⟩ := h.ended hn htracks
  exact ⟨m, hm, World.readsOut_of_asked hasked⟩

theorem Gets.served {ms : List (Moment World Event)} {i j : Nat} {id : String} {session : Session}
    (h : Gets ms i j id ⟨session, true⟩) {n : Moment World Event} (hn : ms[j]? = some n) :
    i = j ∧ (n.state.service.beginGet n.state.clock id).2 = some session := by
  obtain ⟨m, n', hm, ⟨call, canceled, hevent⟩, hspan, hn', hreply⟩ := h
  obtain rfl : n = n' := Option.some.inj (hn.symm.trans hn')
  rcases (World.reply_eq_got_iff _ _ _).mp hreply with ⟨_, hserved⟩ | ⟨hcache, _⟩
  · cases hspan with
    | atOnce hm' _ =>
      obtain rfl : m = n := Option.some.inj (hm.symm.trans hn)
      rw [hevent] at hserved
      exact ⟨rfl, hserved⟩
    | waited _ hn'' hfreed =>
      obtain rfl := Option.some.inj (hn.symm.trans hn'')
      -- What frees a name is no lookup, so it has found nothing in the cache.
      cases he : n.event with
      | get id' call' canceled' => rw [he] at hfreed; cases hfreed
      | _ => rw [he] at hserved; cases hserved
  · cases hcache

/-! ## The invariant -/

/-- The entry was given to the lookup that began at `i`, stored when that lookup ended at `j`, and
is younger than all sign-outs of its session. -/
structure Kept (past : List (Moment World Event)) (x : Cache.Entry String Session) (i j : Nat) :
    Prop where
  readsOut : ∃ m, past[i]? = some m ∧ ReadsOut m x.key x.value
  gets : Gets past i j x.key ⟨x.value, false⟩
  stored : ∃ n, past[j]? = some n ∧ n.state.clock.elapsed = x.storedAt
  after : ∀ k l userId, SignsOut past k l x.key userId → k < i

structure Sound (config : CacheConfig) (past : List (Moment World Event)) (w : World) : Prop where
  tracks : traffic.Tracks past w
  hasConfig : w.service.HasConfig config
  epochs : ∀ r name id epoch answer, traffic.HeldSince past r name (.get id epoch answer) →
    epoch ≤ w.service.signOuts ∧ (epoch = w.service.signOuts →
      ∀ j n, past[j]? = some n → n.state.reply n.event = .signedOut (.ok ()) → j < r)
  kept : ∀ x ∈ w.service.entries, ∃ i j, Kept past x i j

theorem Sound.start (clock : Clock) (directory : Directory) (config : CacheConfig) :
    Sound config [] (World.new clock directory (SessionService.new config)) where
  tracks := Traffic.tracks_nil fun _ => rfl
  hasConfig := Cache.configured_new? config
  epochs := by
    rintro r name id epoch answer ⟨⟨m, hm, _⟩, _⟩
    simp at hm
  kept := by
    intro x hx
    have hnone : (World.new clock directory (SessionService.new config)).service.entries = [] :=
      Cache.entriesOf_new? config
    rw [hnone] at hx
    cases hx

theorem World.reply_ne_of_held {w : World} {e : Event} {name : String} {l : Waiting}
    (h : w.held? e = some (name, l)) : w.reply e ≠ .signedOut (.ok ()) := by
  intro hreply
  obtain ⟨id, hended⟩ := (World.reply_eq_signedOut_iff w e).mp hreply
  rcases World.asked_or_waiting_of_ended hended rfl with hasked | ⟨_, hfreed, _⟩
  · rw [World.asked_of_held h] at hasked
    cases hasked
  · cases e with
    | release other => cases World.asked_of_held h
    | cancel other => cases World.asked_of_held h
    | _ => cases hfreed

/-- The sign-outs that a further moment adds to a past are those that it ends. -/
theorem SignsOut.of_append_singleton {past : List (Moment World Event)} {m : Moment World Event}
    {k l : Nat} {id userId : String} (h : SignsOut (past ++ [m]) k l id userId)
    (htracks : traffic.Tracks past m.state)
    (hm : m.state.ended? m.event ≠ some (.signOut id (.ok ()))) :
    l < past.length ∧ SignsOut past k l id userId := by
  have hl : l < past.length := by
    have hlen := h.lt_length
    rw [List.length_append, List.length_singleton] at hlen
    rcases Nat.lt_or_ge l past.length with hl | hl
    · exact hl
    · obtain rfl : l = past.length := by omega
      exact absurd (h.spec List.getElem?_concat_length (htracks.take_append [m])).1 hm
  exact ⟨hl, (signsOut_append_iff hl [m]).mp h⟩

theorem Kept.next {past : List (Moment World Event)} {x : Cache.Entry String Session} {i j : Nat}
    (h : Kept past x i j) {m : Moment World Event} (htracks : traffic.Tracks past m.state)
    (hm : m.state.ended? m.event ≠ some (.signOut x.key (.ok ()))) : Kept (past ++ [m]) x i j := by
  obtain ⟨n, hn, hread⟩ := h.readsOut
  obtain ⟨n', hn', hstored⟩ := h.stored
  refine ⟨⟨n, getElem?_append_of_eq_some hn [m], hread⟩, h.gets.append [m],
    ⟨n', getElem?_append_of_eq_some hn' [m], hstored⟩, ?_⟩
  intro k l userId hsigns
  exact h.after k l userId (hsigns.of_append_singleton htracks hm).2

/-- A call that a moment ends with an answer of the directory has begun somewhere, at that moment
itself or where it was let wait. -/
theorem exists_spans_of_ended {ms : List (Moment World Event)} {j : Nat} {n : Moment World Event}
    {l : Waiting} (hn : ms[j]? = some n) (htracks : traffic.Tracks (ms.take j) n.state)
    (hended : n.state.ended? n.event = some l) (hl : l.isCanceled = false) :
    ∃ i m call, ms[i]? = some m ∧ m.state.asked? m.event = some (call, l)
      ∧ traffic.Spans ms i j ∧ (i = j ∨ ∃ name, traffic.HeldSince (ms.take j) i name l) := by
  rcases World.asked_or_waiting_of_ended hended hl with hasked | ⟨name, hfreed, hwaits⟩
  · have hheld : traffic.held? n.state n.event = none := by
      show n.state.held? n.event = none
      rw [World.held?, hasked]
    exact ⟨j, n, none, hn, hasked, .atOnce hn hheld, .inl rfl⟩
  · obtain ⟨i, m, hm, hheld, hspan, hsince⟩ :=
      Traffic.exists_spans_of_freed hn htracks hfreed hwaits
    exact ⟨i, m, some name, hm, World.asked_of_held hheld, hspan, .inr ⟨name, hsince⟩⟩

/-- The lookup that an event ends with a session began when it was given the session. All sign-outs
that have succeeded are older if it still holds their number. -/
theorem Sound.gets {config : CacheConfig} {past : List (Moment World Event)}
    {m : Moment World Event} (h : Sound config past m.state) {id : String} {session : Session}
    (hended : m.state.ended? m.event = some (.get id m.state.service.signOuts (.ok session))) :
    ∃ r, Gets (past ++ [m]) r past.length id ⟨session, false⟩
      ∧ ∀ j n, past[j]? = some n → n.state.reply n.event = .signedOut (.ok ()) → j < r := by
  have hreply : m.state.reply m.event = .got (.ok ⟨session, false⟩) := World.reply_of_ended hended
  have hlast : (past ++ [m])[past.length]? = some m := List.getElem?_concat_length
  obtain ⟨r, n, call, hn, hasked, hspan, hsince⟩ :=
    exists_spans_of_ended hlast (h.tracks.take_append [m]) hended rfl
  obtain ⟨hevent, -⟩ := World.eq_of_asked_get hasked
  refine ⟨r, ⟨n, m, hn, ⟨call, false, hevent⟩, hspan, hlast, hreply⟩, ?_⟩
  rcases hsince with rfl | ⟨name, hsince⟩
  · intro j n' hn' _
    exact (List.getElem?_eq_some_iff.mp hn').1
  · rw [List.take_left] at hsince
    exact (h.epochs r name id _ _ hsince).2 rfl

/-- A lookup keeps the number of sign-outs that it was given, which stays behind from the next
sign-out on. -/
theorem Sound.epochs_next {config : CacheConfig} {past : List (Moment World Event)}
    {m : Moment World Event} (h : Sound config past m.state) {r : Nat} {name id : String}
    {epoch : Nat} {answer : Except SessionFault Session}
    (hsince : traffic.HeldSince (past ++ [m]) r name (.get id epoch answer)) :
    epoch ≤ (m.state.step m.event).1.service.signOuts
      ∧ (epoch = (m.state.step m.event).1.service.signOuts →
        ∀ j n, (past ++ [m])[j]? = some n → n.state.reply n.event = .signedOut (.ok ()) →
          j < r) := by
  rcases (Traffic.heldSince_append_singleton_iff _ _ _ _ _).mp hsince with
    ⟨rfl, hheld⟩ | ⟨hold, _⟩
  · obtain ⟨-, -, hepoch, -⟩ := World.eq_of_asked_get (World.asked_of_held hheld)
    have hne := World.reply_ne_of_held hheld
    rw [World.signOuts_step_of_ne hne, hepoch]
    refine ⟨Nat.le_refl _, ?_⟩
    intro _ j n hn hreply
    rcases (getElem?_append_singleton_iff _ _ _ _).mp hn with hearlier | ⟨_, rfl⟩
    · exact (List.getElem?_eq_some_iff.mp hearlier).1
    · exact absurd hreply hne
  · obtain ⟨hle, hbefore⟩ := h.epochs r name id epoch answer hold
    by_cases hreply : m.state.reply m.event = .signedOut (.ok ())
    · -- The number goes up here, so the lookup does not hold the present one any more.
      rw [World.signOuts_step_of_signedOut hreply]
      exact ⟨Nat.le_succ_of_le hle, fun heq => by omega⟩
    · rw [World.signOuts_step_of_ne hreply]
      refine ⟨hle, ?_⟩
      intro heq j n hn hdone
      rcases (getElem?_append_singleton_iff _ _ _ _).mp hn with hearlier | ⟨_, rfl⟩
      · exact hbefore heq j n hearlier hdone
      · exact absurd hdone hreply

theorem Sound.kept_next {config : CacheConfig} {past : List (Moment World Event)}
    {m : Moment World Event} (h : Sound config past m.state) {x : Cache.Entry String Session}
    (hx : x ∈ (m.state.step m.event).1.service.entries) : ∃ i j, Kept (past ++ [m]) x i j := by
  rcases World.mem_entries_step hx with ⟨hold, hsigned⟩ | ⟨hended, hstored⟩
  · obtain ⟨i, j, hkept⟩ := h.kept x hold
    exact ⟨i, j, hkept.next h.tracks hsigned⟩
  · obtain ⟨r, hgets, hbefore⟩ := h.gets hended
    have hlast : (past ++ [m])[past.length]? = some m := List.getElem?_concat_length
    refine ⟨r, past.length, hgets.readsOut hlast (h.tracks.take_append [m]), hgets,
      ⟨m, hlast, hstored.symm⟩, ?_⟩
    -- The lookup still holds the present number, so no sign-out has succeeded since it asked.
    intro k l userId hsigns
    have hother : m.state.ended? m.event ≠ some (.signOut x.key (.ok ())) := by
      rw [hended]
      simp
    obtain ⟨-, hearlier⟩ := hsigns.of_append_singleton h.tracks hother
    obtain ⟨_, n, _, _, hspan, hn, hreply⟩ := hearlier
    exact Nat.lt_of_le_of_lt hspan.le (hbefore l n hn hreply)

theorem Sound.next {config : CacheConfig} {past : List (Moment World Event)} {w : World}
    (h : Sound config past w) (e : Event) : Sound config (past ++ [⟨w, e⟩]) (w.step e).1 where
  tracks := h.tracks.next (w.step_spec e).2.1
  hasConfig := World.hasConfig_step h.hasConfig e
  epochs := fun _ _ _ _ _ hsince => Sound.epochs_next h hsince
  kept := fun _ hx => Sound.kept_next h hx

/-! ## Runs -/

def history (clock : Clock) (directory : Directory) (config : CacheConfig) (es : List Event) :
    List (Moment World Event) :=
  moments (fun w e => (w.step e).1) (World.new clock directory (SessionService.new config)) es

section

variable {clock : Clock} {directory : Directory} {config : CacheConfig} {es : List Event}

theorem sound_history {i : Nat} {m : Moment World Event}
    (hm : (history clock directory config es)[i]? = some m) :
    Sound config ((history clock directory config es).take i) m.state :=
  moment_induction (Sound.start clock directory config) (fun _ _ e h => h.next e) hm

/-- A session from the cache was handed out before, no longer ago than the time to live, by the
lookup that the directory gave it to, which is younger than all sign-outs. -/
theorem exists_kept_of_gets {k l : Nat} {id : String} {session : Session}
    (h : Gets (history clock directory config es) k l id ⟨session, true⟩) :
    ∃ x r t n, x.key = id ∧ x.value = session ∧ (history clock directory config es)[l]? = some n
      ∧ Kept ((history clock directory config es).take l) x r t
      ∧ n.state.clock.elapsed.nanos ≤ x.storedAt.nanos + config.ttl.nanos := by
  have hgets := h
  obtain ⟨_, n, _, _, _, hn, _⟩ := hgets
  have hsound := sound_history hn
  obtain ⟨_, hserved⟩ := h.served hn
  obtain ⟨cache, hcache, x, hx, hkey, hvalue, hfresh⟩ :=
    SessionService.exists_mem_of_beginGet_eq_some hserved
  obtain ⟨r, t, hkept⟩ := hsound.kept x hx
  refine ⟨x, r, t, n, hkey, hvalue, hn, hkept, ?_⟩
  rw [← hsound.hasConfig cache hcache]
  exact Cache.Entry.le_of_isStale_eq_false hfresh

/-- Whatever session a run hands out, it hands out to a lookup. -/
theorem exists_gets_of_reply {j : Nat} {n : Moment World Event} {found : Lookup Session}
    (hn : (history clock directory config es)[j]? = some n)
    (hreply : n.state.reply n.event = .got (.ok found)) :
    ∃ i id, Gets (history clock directory config es) i j id found := by
  rcases (World.reply_eq_got_iff _ _ _).mp hreply with ⟨_, hserved⟩ | ⟨_, id, epoch, hended⟩
  · obtain ⟨id, call, canceled, hevent⟩ := World.eq_get_of_served hserved
    have hheld : traffic.held? n.state n.event = none := World.held?_eq_none_of_served hserved
    exact ⟨j, id, n, n, hn, ⟨call, canceled, hevent⟩, .atOnce hn hheld, hn, hreply⟩
  · obtain ⟨i, m, call, hm, hasked, hspan, -⟩ :=
      exists_spans_of_ended hn (sound_history hn).tracks hended rfl
    obtain ⟨hevent, -⟩ := World.eq_of_asked_get hasked
    exact ⟨i, id, m, n, hm, ⟨call, false, hevent⟩, hspan, hn, hreply⟩

/-- Whatever success a run reports, it reports of a sign-out. -/
theorem exists_signsOut_of_reply {j : Nat} {n : Moment World Event}
    (hn : (history clock directory config es)[j]? = some n)
    (hreply : n.state.reply n.event = .signedOut (.ok ())) :
    ∃ i id userId, SignsOut (history clock directory config es) i j id userId := by
  obtain ⟨id, hended⟩ := (World.reply_eq_signedOut_iff _ _).mp hreply
  obtain ⟨i, m, call, hm, hasked, hspan, -⟩ :=
    exists_spans_of_ended hn (sound_history hn).tracks hended rfl
  obtain ⟨userId, hevent, -⟩ := World.eq_of_asked_signOut hasked
  exact ⟨i, id, userId, m, n, hm, ⟨call, false, hevent⟩, hspan, hn, hreply⟩

/-- Whenever a sign-out of a run has succeeded, it has taken effect when it began, and a lookup that
begins later hands out what the directory gives after that. A session from the cache was given to an
earlier lookup of the same session and stored no longer ago than the time to live. Nothing is handed
out, and no success is told, but to such lookups and sign-outs. -/
theorem signed_out_not_served (clock : Clock) (directory : Directory) (config : CacheConfig)
    (es : List Event) :
    (∀ i j id userId, SignsOut (history clock directory config es) i j id userId →
      (∃ m, (history clock directory config es)[i]? = some m ∧ TakesEffect m id userId)
        ∧ ∀ k l found, j < k → Gets (history clock directory config es) k l id found →
          ∃ r m, i < r ∧ r ≤ l ∧ (history clock directory config es)[r]? = some m
            ∧ ReadsOut m id found.value)
      ∧ (∀ k l id session, Gets (history clock directory config es) k l id ⟨session, true⟩ →
        ∃ r t m n p, r ≤ t ∧ t < l
          ∧ (history clock directory config es)[r]? = some m ∧ ReadsOut m id session
          ∧ Gets (history clock directory config es) r t id ⟨session, false⟩
          ∧ (history clock directory config es)[t]? = some n
          ∧ (history clock directory config es)[l]? = some p
          ∧ p.state.clock.elapsed.nanos ≤ n.state.clock.elapsed.nanos + config.ttl.nanos)
      ∧ ∀ j n, (history clock directory config es)[j]? = some n →
        (∀ found, n.state.reply n.event = .got (.ok found) →
            ∃ i id, Gets (history clock directory config es) i j id found)
          ∧ (n.state.reply n.event = .signedOut (.ok ()) →
            ∃ i id userId, SignsOut (history clock directory config es) i j id userId) := by
  refine ⟨?_, ?_, fun j n hn => ⟨fun found => exists_gets_of_reply hn, exists_signsOut_of_reply hn⟩⟩
  · intro i j id userId hsigns
    have hends := hsigns
    obtain ⟨_, n, _, _, hspan, hn, _⟩ := hends
    refine ⟨(hsigns.spec hn (sound_history hn).tracks).2, ?_⟩
    intro k l found hlater hgets
    obtain ⟨session, fromCache⟩ := found
    cases fromCache with
    | false =>
      have hends' := hgets
      obtain ⟨_, p, _, _, hspan', hp, _⟩ := hends'
      obtain ⟨m, hm, hread⟩ := hgets.readsOut hp (sound_history hp).tracks
      exact ⟨k, m, Nat.lt_of_le_of_lt hspan.le hlater, hspan'.le, hm, hread⟩
    | true =>
      -- The entry that serves the lookup was given to one that is younger than the sign-out.
      obtain ⟨x, r, t, p, rfl, rfl, hp, hkept, -⟩ := exists_kept_of_gets hgets
      obtain ⟨rfl, -⟩ := hgets.served hp
      obtain ⟨m, hm, hread⟩ := hkept.readsOut
      obtain ⟨hr, hm⟩ := getElem?_of_take_eq_some hm
      refine ⟨r, m, hkept.after i j userId ?_, Nat.le_of_lt hr, hm, hread⟩
      have hj : j < ((history clock directory config es).take k).length := by
        have hk := (List.getElem?_eq_some_iff.mp hp).1
        rwa [List.length_take_of_le (Nat.le_of_lt hk)]
      rwa [← signsOut_append_iff hj ((history clock directory config es).drop k),
        List.take_append_drop]
  · intro k l id session hgets
    obtain ⟨x, r, t, p, rfl, rfl, hp, hkept, hfresh⟩ := exists_kept_of_gets hgets
    obtain ⟨m, hm, hread⟩ := hkept.readsOut
    obtain ⟨n, hn, hstored⟩ := hkept.stored
    obtain ⟨ht, hn⟩ := getElem?_of_take_eq_some hn
    obtain ⟨-, hm⟩ := getElem?_of_take_eq_some hm
    have hearlier := hkept.gets.append ((history clock directory config es).drop l)
    rw [List.take_append_drop] at hearlier
    obtain ⟨_, _, _, _, hspan, _, _⟩ := hkept.gets
    rw [← hstored] at hfresh
    exact ⟨r, t, m, n, p, hspan.le, ht, hm, hread, hearlier, hn, hp, hfresh⟩

end

/-- A lookup that a sign-out overlaps, and two lookups after it. -/
def overlap : List Event :=
  [.get "s" (some "early") false, .signOut "s" "u" none false, .release "early",
    .get "s" none false, .get "s" none false]

/-- A directory with a session that somebody is signed in to. -/
def signedIn : Directory := Directory.empty.put "s" (some ⟨"s", some ⟨"u", "", ""⟩⟩)

/-- The lookup that is overlapped hands out the session as it was before, but the cache, which
serves the last lookup, does not. -/
theorem overlap_not_served :
    Gets (history (.startingAt 0) signedIn (.session 1) overlap) 0 2 "s"
        ⟨⟨"s", some ⟨"u", "", ""⟩⟩, false⟩
      ∧ ∃ r m, 1 < r ∧ r ≤ 4
        ∧ (history (.startingAt 0) signedIn (.session 1) overlap)[r]? = some m
        ∧ ReadsOut m "s" ⟨"s", none⟩ := by
  have hsigns : SignsOut (history (.startingAt 0) signedIn (.session 1) overlap) 1 1 "s" "u" :=
    ⟨_, _, rfl, ⟨none, false, rfl⟩, .atOnce rfl rfl, rfl, rfl⟩
  have hgets : Gets (history (.startingAt 0) signedIn (.session 1) overlap) 4 4 "s"
      ⟨⟨"s", none⟩, true⟩ :=
    ⟨_, _, rfl, ⟨none, false, rfl⟩, .atOnce rfl rfl, rfl, rfl⟩
  have hwaits : traffic.HeldSince
      ((history (.startingAt 0) signedIn (.session 1) overlap).take 2) 0 "early"
      (.get "s" 0 (.ok ⟨"s", some ⟨"u", "", ""⟩⟩)) := by
    refine ⟨⟨_, rfl, rfl⟩, ?_⟩
    intro j m hj hm
    obtain ⟨hlt, hm⟩ := getElem?_of_take_eq_some hm
    obtain rfl : j = 1 := by omega
    obtain rfl := Option.some.inj hm
    refine ⟨?_, ?_⟩
    · intro call h
      cases h
    · intro h
      cases h
  exact ⟨⟨_, _, rfl, ⟨some "early", false, rfl⟩, .waited hwaits rfl rfl, rfl, rfl⟩,
    ((signed_out_not_served _ _ _ _).1 1 1 "s" "u" hsigns).2 4 4 _ (by decide) hgets⟩

end ScopeGate.Sessions
