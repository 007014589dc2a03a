/-!
# Log records

A record has a priority, a source and a message.  It is printed when its priority reaches the
threshold in force; one record, which says that the program starts, is printed whatever the
threshold.  The journal knows fewer levels than there are priorities.
-/

namespace SprayWatch.Log

/-- From the most talkative to the most severe. -/
inductive Priority where
  | trace
  | debug
  | info
  | warning
  | error
  | critical
  deriving Repr, DecidableEq

def Priority.all : List Priority := [.trace, .debug, .info, .warning, .error, .critical]

def Priority.rank : Priority → Nat
  | .trace => 0
  | .debug => 1
  | .info => 2
  | .warning => 3
  | .error => 4
  | .critical => 5

def Priority.name : Priority → String
  | .trace => "trace"
  | .debug => "debug"
  | .info => "info"
  | .warning => "warning"
  | .error => "error"
  | .critical => "critical"

def Priority.label : Priority → String
  | .trace => "TRACE"
  | .debug => "DEBUG"
  | .info => "INFO"
  | .warning => "WARNING"
  | .error => "ERROR"
  | .critical => "CRITICAL"

/-- The level under which the journal keeps the record; it has none for traces. -/
def Priority.journalLevel : Priority → Nat
  | .trace | .debug => 7
  | .info => 6
  | .warning => 4
  | .error => 3
  | .critical => 2

/-- Are records of this priority printed under the threshold? -/
def Priority.reaches (p threshold : Priority) : Bool :=
  threshold.rank ≤ p.rank

/-- A record for the log. -/
structure Record where
  priority : Priority
  source : String
  message : String
  deriving Repr, DecidableEq

/-- A message made of segments ends each of them with a semicolon. -/
def joinSegments (segments : List String) : String :=
  String.join (segments.map (· ++ ";"))

def Record.of (priority : Priority) (source : String) (segments : List String) : Record :=
  ⟨priority, source, joinSegments segments⟩

def Record.line (r : Record) (time : String) : String :=
  joinSegments [r.priority.label, time, r.source, r.message]

def startup : Record :=
  ⟨.info, "core", "dfu-monitor is starting up..."⟩

/-- One use of the log. -/
inductive Act where
  | setThreshold (p : Priority)
  | plain (r : Record)
  | startup
  deriving Repr, DecidableEq

/-- The threshold afterwards, and the records that are printed. -/
def Act.run (threshold : Priority) : Act → Priority × List Record
  | .setThreshold p => (p, [])
  | .plain r => (threshold, if r.priority.reaches threshold then [r] else [])
  | .startup => (threshold, [Log.startup])

/-- The threshold after a sequence of uses, and all the records that are printed. -/
def runAll (threshold : Priority) : List Act → Priority × List Record
  | [] => (threshold, [])
  | a :: as =>
    let (t, printed) := a.run threshold
    let (t', more) := runAll t as
    (t', printed ++ more)

end SprayWatch.Log
