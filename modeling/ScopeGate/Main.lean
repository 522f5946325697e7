import ScopeGate.Http.Wire
import ScopeGate.Introspection.Exchange
import ScopeGate.Server.Basic
import Std.Async.DNS
import Std.Async.Select
import Std.Async.Signal
import Std.Async.TCP
import Std.Async.Timer

/-!
# The program

Runs the server: takes the configuration from the environment, listens, and serves every connection
on its own until the process is told to end. What is served, and how, is decided elsewhere; here
octets are read and written, the clock is read, and the state of the server is kept.
-/

namespace ScopeGate.Program

open Std.Async
open Std.Net

structure Running where
  config : Config
  server : IO.Ref Server
  /-- The instant of the start, in nanoseconds from the start of 1970. -/
  origin : Int
  /-- The reading of the growing clock at the start. -/
  started : Nat

def Running.clock (r : Running) : IO Clock := do
  return ⟨r.origin, ⟨(← IO.monoNanosNow) - r.started⟩⟩

def fieldText (f : String × AttributeValue) : String :=
  f.1 ++ "=" ++
    match f.2 with
    | .bool b => if b then "true" else "false"
    | .string s => s
    | .strings xs => Text.quotedList xs

/-- Writes down what the server hands out, but for what only helps to find faults in it. -/
def report (signals : List Signal) : IO Unit :=
  (logsOf (signals.map Sink.logging.deliver)).forM fun e => do
    let line := fun level : String =>
      IO.println (" ".intercalate (level :: e.message :: e.fields.map fieldText))
    match e.level with
    | .debug => pure ()
    | .warn => line "WARN"
    | .error => line "ERROR"

/-- The octets that a connection still brings. -/
partial def drain (client : TCP.Socket.Client) (arrived : ByteArray) : Async ByteArray := do
  match ← client.recv? 8192 with
  | none => return arrived
  | some more => drain client (arrived ++ more)

def address (target : Http.Target) : Async SocketAddress := do
  let port := target.port.toUInt16
  let found ← DNS.getAddrInfo target.host.lookupText (Http.Wire.decimal target.port)
  match found.toList with
  | IPAddr.v4 a :: _ => return .v4 ⟨a, port⟩
  | IPAddr.v6 a :: _ => return .v6 ⟨a, port⟩
  | [] => throw (IO.userError "no such host")

def deliver (target : Http.Target) (i : Introspection.Inquiry) :
    Async Introspection.Delivery := do
  try
    let client ← TCP.Socket.Client.mk
    client.connect (← address target)
    client.send (Http.Wire.ofInquiry target i).toByteArray
    return .arrived (← drain client .empty).toList
  catch e => return .undelivered (toString e)

def finish (e : Introspection.Exchange) : Async Answer := do
  let delivery ← deliver e.target e.inquiry
  match h : e.next delivery with
  | .ended answer => return answer
  | .continued e' =>
    have := Introspection.Exchange.left_lt_of_next h
    finish e'
termination_by e.left

def ask (r : Running) (endpoint : Introspection.Endpoint) (token : String) : Async Answer := do
  match Introspection.Exchange.new? endpoint token with
  | none => return .error (.transport "the address cannot be used")
  | some exchange =>
    let patience : Async Answer := do
      sleep (.ofNat (r.config.introspectionTimeout.nanos / Duration.nanosPerMilli))
      return .error .deadlineExceeded
    Async.race (finish exchange) patience

def serve (r : Running) (request : Http.Request) : Async Http.Response := do
  let clock ← r.clock
  let (progress, signals) ← r.server.modifyGet fun s =>
    let (s, progress, signals) := s.receive clock request
    ((progress, signals), s)
  report signals
  match progress with
  | .responded response => return response
  | .waiting route check token =>
    let answer ← ask r (← r.server.get).endpoint token
    let clock ← r.clock
    let (response, signals) ← r.server.modifyGet fun s =>
      let (s, response, signals) := s.complete clock request route check token answer
      ((response, signals), s)
    report signals
    return response

/-- Reads the head of a request from a connection, unless the connection ends before it does. -/
partial def receive (client : TCP.Socket.Client) (arrived : ByteArray) :
    Async (Option (Except Http.HeadFault Http.Request)) := do
  match Http.Head.request? arrived.toList with
  | some result => return some result
  | none =>
    if Http.Head.maxOctets < arrived.size then return some (.error .tooLarge)
    match ← client.recv? 8192 with
    | none => return none
    | some more => receive client (arrived ++ more)

def connection (r : Running) (client : TCP.Socket.Client) : Async Unit := do
  try
    match ← receive client .empty with
    | none => pure ()
    | some (.error fault) =>
      client.send (Http.Wire.ofResponse "" (.bare fault.status)).toByteArray
    | some (.ok request) =>
      let response ← serve r request
      client.send (Http.Wire.ofResponse request.method response).toByteArray
    client.shutdown
  catch _ => return ()

/-- Drops what the cache has kept too long, once in every period. -/
partial def sweep (r : Running) (period : Duration) : Async Unit := do
  let clock ← r.clock
  r.server.modify fun s => s.sweep clock
  sleep (.ofNat (period.nanos / Duration.nanosPerMilli))
  sweep r period

/-- Serves connections as they come, and keeps those that are open. -/
partial def accept (r : Running) (listener : TCP.Socket.Server)
    (opened : IO.Ref (List (AsyncTask Unit))) : Async Unit := do
  let client ← listener.accept
  let task : AsyncTask Unit ← async (connection r client)
  let others ← (← opened.get).filterM fun task => do return !(← IO.hasFinished task)
  opened.set (task :: others)
  accept r listener opened

def untilEnd : Async Unit := do
  let terminate ← Signal.Waiter.mk .sigterm false
  let interrupt ← Signal.Waiter.mk .sigint false
  Selectable.one #[.case terminate.selector pure, .case interrupt.selector pure]

/-- Runs the server with a configuration, until the process is told to end; then waits for the
connections that are open. -/
def run (config : Config) : IO Unit := do
  let now ← Std.Time.Timestamp.now
  let r : Running :=
    { config
      server := ← IO.mkRef (Server.new config)
      origin := now.toNanosecondsSinceUnixEpoch.toInt
      started := ← IO.monoNanosNow }
  let listener ← TCP.Socket.Server.mk
  listener.bind (.v4 ⟨.ofParts 0 0 0 0, config.port.toUInt16⟩)
  listener.listen 1024
  let opened ← IO.mkRef []
  Async.block do
    if let some period := Server.sweepPeriod? config then background (sweep r period)
    background (accept r listener opened)
    untilEnd
    (← opened.get).forM fun task => await task

def environment : IO (String → Option String) := do
  let all : List Setting :=
    [.idpUrl, .idpClientId, .idpClientSecret, .port, .introspectionTimeoutMillis, .tokenCacheSize,
      .tokenCacheTtlSeconds]
  let values ← all.mapM fun s => return (s.name, ← IO.getEnv s.name)
  return fun name => (values.lookup name).join

end ScopeGate.Program

def main : IO UInt32 := do
  match ScopeGate.Config.ofLookup (← ScopeGate.Program.environment) with
  | .error fault =>
    IO.eprint (ScopeGate.Server.refusal fault)
    return 1
  | .ok config =>
    ScopeGate.Program.run config
    return 0
