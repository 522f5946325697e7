import ScopeGate.Telemetry.Record

/-!
# Signals

While it runs, the system hands out trace records and writes log events. Both are signals, kept in
the order in which they arise. A sink decides what becomes of the records: one keeps them as they
are, the other turns each into a log event, a warning if the operation failed.
-/

namespace ScopeGate

inductive LogLevel where
  | debug
  | warn
  | error
  deriving DecidableEq, Repr

structure LogEvent where
  level : LogLevel
  message : String
  fields : List (String × AttributeValue)
  deriving DecidableEq, Repr

inductive Signal where
  | record (r : TraceRecord)
  | log (e : LogEvent)
  deriving DecidableEq, Repr

namespace Signal

def record? : Signal → Option TraceRecord
  | record r => some r
  | log _ => none

def log? : Signal → Option LogEvent
  | record _ => none
  | log e => some e

end Signal

def recordsOf (signals : List Signal) : List TraceRecord := signals.filterMap Signal.record?

def logsOf (signals : List Signal) : List LogEvent := signals.filterMap Signal.log?

def TraceRecord.toLogEvent (r : TraceRecord) : LogEvent :=
  let fields := [("span", .string r.name), ("attributes", .string r.inspectAttributes)]
  match r.status with
  | .error message => ⟨.warn, "authz trace", fields ++ [("status", .string message)]⟩
  | _ => ⟨.debug, "authz trace", fields⟩

inductive Sink where
  /-- They are kept. -/
  | memory
  /-- They are logged. -/
  | logging
  deriving DecidableEq, Repr

def Sink.deliver : Sink → Signal → Signal
  | .logging, .record r => .log r.toLogEvent
  | _, s => s

structure Recorder where
  records : List TraceRecord := []
  deriving DecidableEq, Repr

namespace Recorder

def keep (r : TraceRecord) (k : Recorder) : Recorder := ⟨k.records ++ [r]⟩

def last? (k : Recorder) : Option TraceRecord := k.records.getLast?

def size (k : Recorder) : Nat := k.records.length

def take (k : Recorder) : Recorder × List TraceRecord := ({}, k.records)

end Recorder

@[simp] theorem recordsOf_append (xs ys : List Signal) :
    recordsOf (xs ++ ys) = recordsOf xs ++ recordsOf ys := by
  simp [recordsOf]

@[simp] theorem logsOf_append (xs ys : List Signal) :
    logsOf (xs ++ ys) = logsOf xs ++ logsOf ys := by
  simp [logsOf]

end ScopeGate
