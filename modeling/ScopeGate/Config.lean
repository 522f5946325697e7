import ScopeGate.Cache.Basic
import ScopeGate.Text.Blank
import ScopeGate.Text.Numeral
import ScopeGate.Text.Quoted

/-!
# Configuration

The system is set up by named settings whose values are texts. Three have to be present: where the
identity provider is and the credentials shown to it. The others are numbers, read without the
blanks around them, and have defaults. First the three are looked for, then the numbers are read,
then the values are checked, each in a fixed order; the first fault is the one reported.
-/

namespace ScopeGate

inductive Setting where
  | idpUrl
  | idpClientId
  | idpClientSecret
  | port
  | introspectionTimeoutMillis
  | tokenCacheSize
  | tokenCacheTtlSeconds
  deriving DecidableEq, Repr

def Setting.name : Setting → String
  | .idpUrl => "IDP_URL"
  | .idpClientId => "IDP_CLIENT_ID"
  | .idpClientSecret => "IDP_CLIENT_SECRET"
  | .port => "PORT"
  | .introspectionTimeoutMillis => "INTROSPECTION_TIMEOUT_MS"
  | .tokenCacheSize => "TOKEN_CACHE_SIZE"
  | .tokenCacheTtlSeconds => "TOKEN_CACHE_TTL_SECS"

inductive ConfigFault where
  | missing (setting : Setting)
  | invalid (setting : Setting) (reason : String)
  deriving DecidableEq, Repr

def ConfigFault.message : ConfigFault → String
  | .missing s => "missing required configuration value " ++ s.name
  | .invalid s reason => "invalid value for " ++ s.name ++ ": " ++ reason

structure Config where
  /-- The port on which the server listens. -/
  port : Nat
  /-- The address of the identity provider. -/
  idpUrl : String
  clientId : String
  clientSecret : String
  introspectionTimeout : Duration
  tokenCache : CacheConfig
  deriving DecidableEq, Repr

namespace Config

def maxPort : Nat := 65535

def maxNumber : Nat := 18446744073709551615

def default : Config :=
  { port := 8080
    idpUrl := ""
    clientId := ""
    clientSecret := ""
    introspectionTimeout := .ofSeconds 5
    tokenCache := .token CacheConfig.defaultCapacity }

/-- The address on which the server listens: every interface, at the port. -/
def listenAddress (c : Config) : String := "0.0.0.0:" ++ String.ofList (Text.digits c.port)

def isHttpUrl (url : String) : Bool :=
  "http://".toList.isPrefixOf url.toList || "https://".toList.isPrefixOf url.toList

def validate (c : Config) : Except ConfigFault Unit :=
  if !isHttpUrl c.idpUrl then
    .error (.invalid .idpUrl (Text.quoted c.idpUrl ++ " is not an http(s) URL"))
  else if c.clientId.isEmpty then .error (.missing .idpClientId)
  else if c.clientSecret.isEmpty then .error (.missing .idpClientSecret)
  else if c.introspectionTimeout.isZero then
    .error (.invalid .introspectionTimeoutMillis "timeout must be positive")
  else if !c.tokenCache.isSound then
    .error (.invalid .tokenCacheTtlSeconds "ttl must be positive when the cache is enabled")
  else .ok ()

def required (lookup : Setting → Option String) (s : Setting) : Except ConfigFault String :=
  match lookup s with
  | some value => .ok value
  | none => .error (.missing s)

def number? (lookup : Setting → Option String) (s : Setting) (bound : Nat) :
    Except ConfigFault (Option Nat) :=
  match lookup s with
  | none => .ok none
  | some value =>
    match Text.readNumeral bound (Text.trim value.toList) with
    | .ok n => .ok (some n)
    | .error fault => .error (.invalid s fault.message)

def ofSettings (lookup : Setting → Option String) : Except ConfigFault Config := do
  let idpUrl ← required lookup .idpUrl
  let clientId ← required lookup .idpClientId
  let clientSecret ← required lookup .idpClientSecret
  let port ← number? lookup .port maxPort
  let timeout ← number? lookup .introspectionTimeoutMillis maxNumber
  let size ← number? lookup .tokenCacheSize maxNumber
  let ttl ← number? lookup .tokenCacheTtlSeconds maxNumber
  let config : Config :=
    { port := port.getD default.port
      idpUrl
      clientId
      clientSecret
      introspectionTimeout :=
        (timeout.map Duration.ofMillis).getD default.introspectionTimeout
      tokenCache :=
        { capacity := size.getD default.tokenCache.capacity
          ttl := (ttl.map Duration.ofSeconds).getD default.tokenCache.ttl } }
  config.validate
  return config

def ofLookup (lookup : String → Option String) : Except ConfigFault Config :=
  ofSettings (lookup ∘ Setting.name)

end Config

end ScopeGate
