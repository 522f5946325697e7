import ScopeGate.Config
import ScopeGate.Proofs.FirstFailure
import ScopeGate.Proofs.Text.Numerals
import ScopeGate.Proofs.Text.Trim
import ScopeGate.Server.Basic

/-!
# Which settings are accepted

Settings make a configuration exactly when it is a safe one: the provider is spoken to over HTTP,
the credentials shown to it are not empty, a call to it is given some time, and a cache that is on
keeps its verdicts for some time. The configuration then holds what the settings say, and the
defaults where they say nothing. Settings that make none break a rule, and the fault is that of the
first rule broken: the three that have to be present come first, then the four numbers, and what
makes a configuration safe comes last.

A server that is set up so never sweeps its cache without a pause.
-/

namespace ScopeGate

theorem Duration.nanos_ofMillis (n : Nat) : (Duration.ofMillis n).nanos = n * 1000000 := rfl

theorem Duration.nanos_ofSeconds (n : Nat) : (Duration.ofSeconds n).nanos = n * 1000000000 := rfl

theorem Duration.isZero_iff (d : Duration) : d.isZero = true ↔ d.nanos = 0 := by
  simp [isZero]

theorem CacheConfig.isSound_eq_false_iff (c : CacheConfig) :
    c.isSound = false ↔ 0 < c.capacity ∧ c.ttl.nanos = 0 := by
  simp [isSound, isEnabled, Duration.isZero_iff, Nat.pos_iff_ne_zero]

namespace Config

def bound : Setting → Nat
  | .port => 65535
  | _ => 2 ^ 64 - 1

/-- Whether a number is what a name gives, or that to fall back on where the name has no value. -/
inductive Gives (lookup : String → Option String) (name : String) (bound fallback : Nat) :
    Nat → Prop where
  | absent (h : lookup name = none) : Gives lookup name bound fallback fallback
  | present {value : String} {core : List Char} {n : Nat} (h : lookup name = some value)
      (hcore : Text.IsCore core value.toList) (hn : Text.IsNumeral bound core n) :
      Gives lookup name bound fallback n

/-- Whether a configuration is what the values of the seven names say. -/
structure Holds (lookup : String → Option String) (c : Config) : Prop where
  idpUrl : lookup "IDP_URL" = some c.idpUrl
  clientId : lookup "IDP_CLIENT_ID" = some c.clientId
  clientSecret : lookup "IDP_CLIENT_SECRET" = some c.clientSecret
  port : Gives lookup "PORT" 65535 8080 c.port
  timeout : ∃ n, Gives lookup "INTROSPECTION_TIMEOUT_MS" (2 ^ 64 - 1) 5000 n
    ∧ c.introspectionTimeout = .ofMillis n
  capacity : Gives lookup "TOKEN_CACHE_SIZE" (2 ^ 64 - 1) 10000 c.tokenCache.capacity
  ttl : ∃ n, Gives lookup "TOKEN_CACHE_TTL_SECS" (2 ^ 64 - 1) 30 n
    ∧ c.tokenCache.ttl = .ofSeconds n

def IsHttp (url : String) : Prop :=
  ∃ rest : String, url = "http://" ++ rest ∨ url = "https://" ++ rest

/-- Whether it is safe to run with a configuration. -/
structure IsSafe (c : Config) : Prop where
  idpUrl : IsHttp c.idpUrl
  clientId : c.clientId ≠ ""
  clientSecret : c.clientSecret ≠ ""
  timeout : 0 < c.introspectionTimeout.nanos
  ttl : 0 < c.tokenCache.capacity → 0 < c.tokenCache.ttl.nanos

inductive Rule where
  | present (s : Setting)
  | number (s : Setting)
  | http
  | credential (s : Setting)
  | timeout
  | ttl

/-- The rules in the order in which they are checked. -/
def rules : List Rule :=
  [.present .idpUrl, .present .idpClientId, .present .idpClientSecret,
    .number .port, .number .introspectionTimeoutMillis, .number .tokenCacheSize,
    .number .tokenCacheTtlSeconds,
    .http, .credential .idpClientId, .credential .idpClientSecret, .timeout, .ttl]

inductive Breaks (lookup : String → Option String) : Rule → ConfigFault → Prop where
  | present {s : Setting} (h : lookup s.name = none) : Breaks lookup (.present s) (.missing s)
  | number {s : Setting} {value : String} {core : List Char} {fault : Text.NumeralFault}
      (h : lookup s.name = some value) (hcore : Text.IsCore core value.toList)
      (hfault : Text.Misreads (bound s) core fault) :
      Breaks lookup (.number s) (.invalid s fault.message)
  | http {url : String} (h : lookup "IDP_URL" = some url) (hurl : ¬ IsHttp url) :
      Breaks lookup .http (.invalid .idpUrl (Text.quoted url ++ " is not an http(s) URL"))
  | credential {s : Setting} (h : lookup s.name = some "") :
      Breaks lookup (.credential s) (.missing s)
  | timeout (h : Gives lookup "INTROSPECTION_TIMEOUT_MS" (2 ^ 64 - 1) 5000 0) :
      Breaks lookup .timeout (.invalid .introspectionTimeoutMillis "timeout must be positive")
  | ttl {size : Nat} (hsize : Gives lookup "TOKEN_CACHE_SIZE" (2 ^ 64 - 1) 10000 size)
      (hon : 0 < size) (httl : Gives lookup "TOKEN_CACHE_TTL_SECS" (2 ^ 64 - 1) 30 0) :
      Breaks lookup .ttl
        (.invalid .tokenCacheTtlSeconds "ttl must be positive when the cache is enabled")

variable {lookup : String → Option String}

/-! ## Settings one by one -/

theorem required_eq_ok_iff (s : Setting) (value : String) :
    required (lookup ∘ Setting.name) s = .ok value ↔ lookup s.name = some value := by
  unfold required
  split <;> simp_all

theorem required_eq_error_iff (s : Setting) (f : ConfigFault) :
    required (lookup ∘ Setting.name) s = .error f ↔ Breaks lookup (.present s) f := by
  unfold required
  constructor
  · intro h
    split at h
    · cases h
    · cases h
      exact .present ‹_›
  · rintro ⟨h⟩
    rw [Function.comp_apply, h]

theorem number?_of_absent {s : Setting} (h : lookup s.name = none) :
    number? (lookup ∘ Setting.name) s (bound s) = .ok none := by
  rw [number?, Function.comp_apply, h]

theorem number?_of_present {s : Setting} {value : String} {core : List Char}
    (h : lookup s.name = some value) (hcore : Text.IsCore core value.toList) :
    number? (lookup ∘ Setting.name) s (bound s) = match Text.readNumeral (bound s) core with
      | .ok n => .ok (some n)
      | .error fault => .error (.invalid s fault.message) := by
  have htrim := (Text.trim_eq_iff value.toList core).mpr hcore
  cases hread : Text.readNumeral (bound s) core with
  | ok n => simp only [number?, Function.comp_apply, h, htrim, hread]
  | error fault => simp only [number?, Function.comp_apply, h, htrim, hread]

theorem number?_eq_error_iff (s : Setting) (f : ConfigFault) :
    number? (lookup ∘ Setting.name) s (bound s) = .error f ↔ Breaks lookup (.number s) f := by
  constructor
  · intro h
    cases hvalue : lookup s.name with
    | none =>
      rw [number?_of_absent hvalue] at h
      cases h
    | some value =>
      have hcore := (Text.trim_eq_iff value.toList _).mp rfl
      rw [number?_of_present hvalue hcore] at h
      split at h
      · cases h
      · rename_i fault hread
        cases h
        exact .number hvalue hcore ((Text.readNumeral_eq_error_iff _ _).mp hread)
  · intro h
    cases h with
    | number hvalue hcore hfault => rw [number?_of_present hvalue hcore, hfault.readNumeral_eq]

theorem gives_iff_number? (s : Setting) (fallback n : Nat) :
    Gives lookup s.name (bound s) fallback n ↔
      ∃ n?, number? (lookup ∘ Setting.name) s (bound s) = .ok n? ∧ n?.getD fallback = n := by
  constructor
  · intro h
    cases h with
    | absent h => exact ⟨none, number?_of_absent h, rfl⟩
    | present h hcore hn =>
      exact ⟨some n, by rw [number?_of_present h hcore, hn.readNumeral_eq], rfl⟩
  · rintro ⟨n?, hread, rfl⟩
    cases hvalue : lookup s.name with
    | none =>
      rw [number?_of_absent hvalue] at hread
      cases hread
      exact .absent hvalue
    | some value =>
      have hcore := (Text.trim_eq_iff value.toList _).mp rfl
      rw [number?_of_present hvalue hcore] at hread
      split at hread
      · rename_i n hn
        cases hread
        exact .present hvalue hcore ((Text.readNumeral_eq_ok_iff _ _).mp hn)
      · cases hread

theorem Gives.iff_eq {name : String} {bound fallback n : Nat}
    (h : Gives lookup name bound fallback n)
    (m : Nat) : Gives lookup name bound fallback m ↔ m = n := by
  refine ⟨fun hm => ?_, fun heq => heq ▸ h⟩
  cases h with
  | absent h =>
    cases hm with
    | absent _ => rfl
    | present h' _ _ => cases h.symm.trans h'
  | present h hcore hn =>
    cases hm with
    | absent h' => cases h.symm.trans h'
    | present h' hcore' hm =>
      cases h.symm.trans h'
      rw [← Text.trim_eq_iff] at hcore hcore'
      subst hcore hcore'
      exact Except.ok.inj (hm.readNumeral_eq.symm.trans hn.readNumeral_eq)

/-! ## Safety -/

theorem isHttpUrl_iff (url : String) : isHttpUrl url = true ↔ IsHttp url := by
  have hprefix : ∀ scheme : String,
      scheme.toList.isPrefixOf url.toList = true ↔ ∃ rest : String, url = scheme ++ rest := by
    intro scheme
    rw [List.isPrefixOf_iff_prefix]
    constructor
    · rintro ⟨rest, hrest⟩
      exact ⟨String.ofList rest, by rw [← String.toList_inj]; simp [hrest]⟩
    · rintro ⟨rest, rfl⟩
      exact ⟨rest.toList, by simp⟩
  rw [isHttpUrl, Bool.or_eq_true, hprefix, hprefix, IsHttp, exists_or]

/-- A configuration passes the checks exactly when it is safe. -/
theorem validate_eq_ok_iff (c : Config) : c.validate = .ok () ↔ IsSafe c := by
  simp only [validate, guard_eq_ok_iff, Bool.not_eq_true', Bool.not_eq_false, isHttpUrl_iff,
    String.isEmpty_iff, Duration.isZero_iff, CacheConfig.isSound_eq_false_iff, and_true]
  constructor
  · rintro ⟨hurl, hid, hsecret, htimeout, httl⟩
    exact ⟨hurl, hid, hsecret, by omega, by omega⟩
  · rintro ⟨hurl, hid, hsecret, htimeout, httl⟩
    exact ⟨hurl, hid, hsecret, by omega, by omega⟩

/-! ## Settings together -/

/-- The configuration that is put together from what is read is what the settings say. -/
theorem holds_of_read {url id secret : String} {port timeout size ttl : Option Nat}
    (hurl : lookup "IDP_URL" = some url) (hid : lookup "IDP_CLIENT_ID" = some id)
    (hsecret : lookup "IDP_CLIENT_SECRET" = some secret)
    (hport : number? (lookup ∘ Setting.name) .port maxPort = .ok port)
    (htimeout : number? (lookup ∘ Setting.name) .introspectionTimeoutMillis maxNumber = .ok timeout)
    (hsize : number? (lookup ∘ Setting.name) .tokenCacheSize maxNumber = .ok size)
    (httl : number? (lookup ∘ Setting.name) .tokenCacheTtlSeconds maxNumber = .ok ttl) :
    Holds lookup
      { port := port.getD default.port
        idpUrl := url
        clientId := id
        clientSecret := secret
        introspectionTimeout :=
          (timeout.map Duration.ofMillis).getD default.introspectionTimeout
        tokenCache :=
          { capacity := size.getD default.tokenCache.capacity
            ttl := (ttl.map Duration.ofSeconds).getD default.tokenCache.ttl } } where
  idpUrl := hurl
  clientId := hid
  clientSecret := hsecret
  port := (gives_iff_number? .port _ _).mpr ⟨port, hport, rfl⟩
  timeout := ⟨timeout.getD 5000,
    (gives_iff_number? .introspectionTimeoutMillis _ _).mpr ⟨timeout, htimeout, rfl⟩,
    Option.getD_map Duration.ofMillis 5000 timeout⟩
  capacity := (gives_iff_number? .tokenCacheSize _ _).mpr ⟨size, hsize, rfl⟩
  ttl := ⟨ttl.getD 30, (gives_iff_number? .tokenCacheTtlSeconds _ _).mpr ⟨ttl, httl, rfl⟩,
    Option.getD_map Duration.ofSeconds 30 ttl⟩

theorem Holds.unique {c d : Config} (hc : Holds lookup c) (hd : Holds lookup d) : c = d := by
  have hurl := hc.idpUrl.symm.trans hd.idpUrl
  have hid := hc.clientId.symm.trans hd.clientId
  have hsecret := hc.clientSecret.symm.trans hd.clientSecret
  have hport := (hd.port.iff_eq _).mp hc.port
  have hcapacity := (hd.capacity.iff_eq _).mp hc.capacity
  obtain ⟨m, hm, hctimeout⟩ := hc.timeout
  obtain ⟨n, hn, hdtimeout⟩ := hd.timeout
  obtain ⟨k, hk, hcttl⟩ := hc.ttl
  obtain ⟨l, hl, hdttl⟩ := hd.ttl
  rw [hn.iff_eq] at hm
  rw [hl.iff_eq] at hk
  have htimeout : c.introspectionTimeout = d.introspectionTimeout := by
    rw [hctimeout, hdtimeout, hm]
  have httl : c.tokenCache.ttl = d.tokenCache.ttl := by rw [hcttl, hdttl, hk]
  rcases c with ⟨_, _, _, _, _, ⟨_, _⟩⟩
  rcases d with ⟨_, _, _, _, _, ⟨_, _⟩⟩
  simp_all

theorem breaks_credential_iff {s : Setting} {value : String} (h : lookup s.name = some value)
    (f : ConfigFault) :
    Breaks lookup (.credential s) f ↔ value.isEmpty = true ∧ f = .missing s := by
  rw [String.isEmpty_iff]
  constructor
  · intro hbreaks
    cases hbreaks with
    | credential hempty => exact ⟨Option.some.inj (h.symm.trans hempty), rfl⟩
  · rintro ⟨rfl, rfl⟩
    exact .credential h

theorem Holds.isOutcomeOf_validate {c : Config} (h : Holds lookup c) :
    IsOutcomeOf (Breaks lookup)
      [.http, .credential .idpClientId, .credential .idpClientSecret, .timeout, .ttl]
      c.validate := by
  unfold validate
  refine .guard ?_ fun _ => .guard (breaks_credential_iff h.clientId) fun _ =>
    .guard (breaks_credential_iff h.clientSecret) fun _ => .guard ?_ fun _ =>
    .guard ?_ fun _ => isOutcomeOf_ok ()
  · intro f
    rw [Bool.not_eq_true', ← Bool.not_eq_true, isHttpUrl_iff]
    constructor
    · intro hbreaks
      cases hbreaks with
      | http hurl hhttp =>
        rw [h.idpUrl, Option.some.injEq] at hurl
        subst hurl
        exact ⟨hhttp, rfl⟩
    · rintro ⟨hhttp, rfl⟩
      exact .http h.idpUrl hhttp
  · intro f
    obtain ⟨n, hn, heq⟩ := h.timeout
    have hzero : c.introspectionTimeout.isZero = true ↔ 0 = n := by
      rw [Duration.isZero_iff, heq, Duration.nanos_ofMillis]
      omega
    rw [hzero, ← hn.iff_eq]
    constructor
    · intro hbreaks
      cases hbreaks with
      | timeout hgives => exact ⟨hgives, rfl⟩
    · rintro ⟨hgives, rfl⟩
      exact .timeout hgives
  · intro f
    obtain ⟨n, hn, heq⟩ := h.ttl
    have hzero : (!c.tokenCache.isSound) = true ↔ 0 < c.tokenCache.capacity ∧ 0 = n := by
      rw [Bool.not_eq_true', CacheConfig.isSound_eq_false_iff, heq, Duration.nanos_ofSeconds]
      omega
    rw [hzero, ← hn.iff_eq]
    constructor
    · intro hbreaks
      cases hbreaks with
      | ttl hsize hon httl => exact ⟨⟨(h.capacity.iff_eq _).mp hsize ▸ hon, httl⟩, rfl⟩
    · rintro ⟨⟨hon, hgives⟩, rfl⟩
      exact .ttl h.capacity hon hgives

theorem ofLookup_eq_ok_iff (c : Config) :
    ofLookup lookup = .ok c ↔ Holds lookup c ∧ c.validate = .ok () := by
  unfold ofLookup ofSettings
  simp only [bind_eq_ok_iff, required_eq_ok_iff]
  constructor
  · rintro ⟨url, hurl, id, hid, secret, hsecret, port, hport, timeout, htimeout, size, hsize, ttl,
      httl, ⟨⟩, hvalid, ⟨⟩⟩
    exact ⟨holds_of_read hurl hid hsecret hport htimeout hsize httl, hvalid⟩
  · rintro ⟨h, hvalid⟩
    obtain ⟨m, hm, -⟩ := h.timeout
    obtain ⟨n, hn, -⟩ := h.ttl
    obtain ⟨port, hport, -⟩ := (gives_iff_number? .port _ _).mp h.port
    obtain ⟨timeout, htimeout, -⟩ := (gives_iff_number? .introspectionTimeoutMillis _ _).mp hm
    obtain ⟨size, hsize, -⟩ := (gives_iff_number? .tokenCacheSize _ _).mp h.capacity
    obtain ⟨ttl, httl, -⟩ := (gives_iff_number? .tokenCacheTtlSeconds _ _).mp hn
    -- The numbers behind the configuration are read again, and make no other one.
    have hread := holds_of_read h.idpUrl h.clientId h.clientSecret hport htimeout hsize httl
    have heq := hread.unique h
    exact ⟨_, h.idpUrl, _, h.clientId, _, h.clientSecret, port, hport, timeout, htimeout, size,
      hsize, ttl, httl, (), heq ▸ hvalid, congrArg Except.ok heq⟩

theorem isOutcomeOf_ofLookup (lookup : String → Option String) :
    IsOutcomeOf (Breaks lookup) rules (ofLookup lookup) := by
  -- What is read on the way is kept, since the last rules speak of all of it.
  refine .bind (required_eq_error_iff _) fun url hurl => ?_
  refine .bind (required_eq_error_iff _) fun id hid => ?_
  refine .bind (required_eq_error_iff _) fun secret hsecret => ?_
  refine .bind (number?_eq_error_iff _) fun port hport => ?_
  refine .bind (number?_eq_error_iff _) fun timeout htimeout => ?_
  refine .bind (number?_eq_error_iff _) fun size hsize => ?_
  refine .bind (number?_eq_error_iff _) fun ttl httl => ?_
  rw [required_eq_ok_iff] at hurl hid hsecret
  have h := holds_of_read hurl hid hsecret hport htimeout hsize httl
  exact IsOutcomeOf.thenReturn h.isOutcomeOf_validate _

/-- Settings are accepted exactly when they say what a safe configuration holds, and they give that
one. It passes its checks, and the sweeping of the cache pauses between two rounds. Settings that
are refused are refused for the first rule that they break. -/
theorem safe_settings_accepted (lookup : String → Option String) :
    (∀ c, ofLookup lookup = .ok c ↔ Holds lookup c ∧ IsSafe c)
      ∧ (∀ c, ofLookup lookup = .ok c →
          c.validate = .ok () ∧ ∀ period ∈ Server.sweepPeriod? c, 0 < period.nanos)
      ∧ ∀ f, ofLookup lookup = .error f ↔ FirstFailure (Breaks lookup) rules f := by
  refine ⟨fun c => ?_, fun c hc => ?_, isOutcomeOf_ofLookup lookup⟩
  · rw [ofLookup_eq_ok_iff, validate_eq_ok_iff]
  · have hvalid := ((ofLookup_eq_ok_iff c).mp hc).2
    refine ⟨hvalid, fun period hperiod => ?_⟩
    rw [Server.sweepPeriod?, Option.mem_def, Option.ite_none_right_eq_some,
      Option.some.injEq] at hperiod
    obtain ⟨hon, rfl⟩ := hperiod
    refine ((validate_eq_ok_iff c).mp hvalid).ttl (Nat.pos_of_ne_zero ?_)
    simpa [CacheConfig.isEnabled] using hon

end Config

end ScopeGate
