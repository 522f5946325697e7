import ScopeGate.Server.Basic

/-!
# What the server tells about its token cache

The page of the counters has one line for the lookups that the cache has counted as hits and, after
it, one for those that it has counted as misses.
-/

namespace ScopeGate.Server

def lookupLine (result : String) (n : Nat) : String :=
  "authz_token_cache_lookups_total\x7bresult=\"" ++ result ++ "\"\x7d " ++ decimal n ++ "\n"

/-- The lines about the lookups that a cache has counted. -/
def lookupLines (c : Cache.Counters) : String :=
  lookupLine "hit" c.hits ++ lookupLine "miss" c.misses

theorem line_eq_lookupLine (result : String) (n : Nat) :
    Reading.line "authz_token_cache_lookups_total" ⟨some ("result", result), n⟩
      = lookupLine result n := by
  have hopening : "authz_token_cache_lookups_total\x7bresult=\""
      = "authz_token_cache_lookups_total" ++ ("\x7b" ++ "result" ++ "=\"") := by decide
  have hclosing : "\"\x7d " = "\"\x7d" ++ " " := by decide
  unfold Reading.line lookupLine
  dsimp only
  rw [hopening, hclosing]
  simp only [String.append_assoc]

theorem exists_text_of_readings (f : Family) {r r' : Reading} (h : f.readings = [r, r']) :
    ∃ header, f.text = header ++ (r.line f.name ++ r'.line f.name) := by
  unfold Family.text
  rw [h]
  simp only [List.map_cons, List.map_nil, String.join_cons, String.join_nil, String.append_empty]
  exact ⟨_, rfl⟩

theorem exists_families (clock : Clock) {a : Authorizer} {s : Cache.Stats}
    (h : a.cacheStats = some s) :
    ∃ requests entries lookups uptime, families clock a = [requests, entries, lookups, uptime]
      ∧ lookups.name = "authz_token_cache_lookups_total"
      ∧ lookups.readings = [⟨some ("result", "hit"), s.counters.hits⟩,
        ⟨some ("result", "miss"), s.counters.misses⟩] := by
  unfold families
  rw [h]
  exact ⟨_, _, _, _, rfl, rfl, rfl⟩

theorem exists_body_metrics {clock : Clock} {a : Authorizer} {s : Cache.Stats}
    (h : a.cacheStats = some s) (request : Http.Request) :
    ∃ before after, (metrics clock a request).body
      = .ofString (before ++ lookupLines s.counters ++ after) := by
  obtain ⟨requests, entries, lookups, uptime, hfamilies, hname, hreadings⟩ :=
    exists_families clock h
  obtain ⟨header, htext⟩ := exists_text_of_readings lookups hreadings
  rw [hname, line_eq_lookupLine, line_eq_lookupLine, ← lookupLines] at htext
  refine ⟨requests.text ++ "\n" ++ (entries.text ++ "\n" ++ header), "\n" ++ uptime.text, ?_⟩
  rw [metrics, hfamilies]
  simp only [List.map_cons, List.map_nil, String.intercalate_cons_cons,
    String.intercalate_singleton, htext, String.append_assoc]

end ScopeGate.Server
