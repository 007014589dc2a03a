import Mathlib.Data.List.Induction
import SprayWatch.Pool

/-!
# The moves of a pool

A pool is used by one client and served by its workers.  Each of them takes one small step at a
time, in any order.  The client submits tasks, drops handles, waits for values and shuts the pool
down; a worker takes the first task that is waiting, runs it to its end, lets go of it and looks for
another.  It leaves only when the pool has been closed and nothing is waiting.

A client who waits makes no other move until the wait returns, so a wait is one move, made at the
moment at which it returns.
-/

namespace SprayWatch.Pool

/-! ## Beginning a task -/

def next? (p : Pool) : Option Nat := p.slots.findIdx? (isAt .waiting)

def beginAt (p : Pool) (i : Nat) : Pool :=
  { p.setStage i .begun with order := p.order ++ [i] }

theorem begin?_eq (p : Pool) :
    p.begin? = if p.busy < p.workers then p.next?.map p.beginAt else none := rfl

/-! ## Parties, events and states -/

/-- Where a worker stands.  A task that has ended has left its value or broken down; the worker lets
go of it only after that. -/
inductive Worker where
  | idle
  | running (i : Nat)
  | closing (i : Nat)
  | gone
  deriving DecidableEq

/-- The task that a worker has in hand. -/
def Worker.task? : Worker → Option Nat
  | .running i | .closing i => some i
  | .idle | .gone => none

/-- Where the client stands: free to do what it likes, or waiting for the workers to leave. -/
inductive Client where
  | free
  | joining
  deriving DecidableEq

inductive Event where
  | submits (task : Task) (result : Except Failure Nat)
  | drops (i : Nat)
  | waits (i : Nat) (result : Except Failure (Option Nat))
  | closes
  | returns
  | opens
  | begins (i : Nat)
  | ends (i : Nat)
  | releases (i : Nat) (records : List Log.Record)
  | leaves (w : Nat)

/-- A pool with the workers that serve it, its client, and the handles that the client has
dropped. -/
structure State where
  pool : Pool
  crew : List Worker
  client : Client
  dropped : List Nat

namespace State

def start (workers : Nat) : State :=
  ⟨.start workers, List.replicate (max workers 1) .idle, .free, []⟩

/-- Does the client hold the handle of an accepted task? -/
def Holds (s : State) (i : Nat) : Prop := i < s.pool.slots.length ∧ i ∉ s.dropped

/-- The value of the task has been taken, but the worker has not let go of the task. -/
def isSpent (s : State) (i : Nat) : Bool :=
  (s.pool.slot? i).any Slot.taken && s.crew.contains (.closing i)

/-- What a wait for a task returns at a moment.  More could come from a task that a worker has in
hand, so a wait for it is not told that the task is lost. -/
def wait (s : State) (i : Nat) : Except Failure (Option Nat) × Pool :=
  if s.isSpent i then (.ok none, s.pool) else s.pool.take i

end State

/-! ## Moves -/

inductive Move : State → Event → State → Prop
  | submits {s : State} (task : Task) (hclient : s.client = .free) :
      Move s (.submits task (s.pool.submit task).1) { s with pool := (s.pool.submit task).2 }
  /-- The task goes on without its handle. -/
  | drops {s : State} {i : Nat} (hclient : s.client = .free) (hholds : s.Holds i) :
      Move s (.drops i) { s with dropped := i :: s.dropped }
  | waits {s : State} {i : Nat} (hclient : s.client = .free) (hholds : s.Holds i) :
      Move s (.waits i (s.wait i).1) { s with pool := (s.wait i).2 }
  /-- The client begins to shut the pool down. -/
  | closes {s : State} (hclient : s.client = .free) :
      Move s .closes { s with pool := s.pool.close, client := .joining }
  /-- The shutdown returns once every worker has left. -/
  | returns {s : State} (hclient : s.client = .joining)
      (hgone : ∀ worker ∈ s.crew, worker = .gone) :
      Move s .returns { s with client := .free }
  | opens {s : State} : Move s .opens { s with pool := s.pool.openGate }
  | begins {s : State} {w i : Nat} (hworker : s.crew[w]? = some .idle)
      (hnext : s.pool.next? = some i) :
      Move s (.begins i)
        { s with pool := s.pool.beginAt i, crew := s.crew.set w (.running i) }
  /-- The task leaves its value, or it panics. -/
  | ends {s : State} {w i : Nat} {slot : Slot} (hworker : s.crew[w]? = some (.running i))
      (hslot : s.pool.slot? i = some slot) (hmayEnd : s.pool.mayEnd slot = true) :
      Move s (.ends i)
        { s with pool := s.pool.setStage i .ended, crew := s.crew.set w (.closing i) }
  /-- A panic is logged, and the worker goes on. -/
  | releases {s : State} {w i : Nat} {slot : Slot} (hworker : s.crew[w]? = some (.closing i))
      (hslot : s.pool.slot? i = some slot) :
      Move s (.releases i (recordsOf slot)) { s with crew := s.crew.set w .idle }
  | leaves {s : State} {w : Nat} (hworker : s.crew[w]? = some .idle)
      (hclosed : s.pool.accepting = false) (hempty : s.pool.next? = none) :
      Move s (.leaves w) { s with crew := s.crew.set w .gone }

/-- The runs of a pool with a number of workers, with what has happened in them so far. -/
inductive Run (workers : Nat) : List Event → State → Prop
  | start : Run workers [] (.start workers)
  | move {es : List Event} {s t : State} {e : Event} (hrun : Run workers es s)
      (hmove : Move s e t) : Run workers (es ++ [e]) t

/-! ## What is told of a run -/

/-- What has happened at a pool: the tasks that were accepted, those that were begun, that ended and
that were let go of, each under its place among the accepted ones, the workers who have left, the
values that were obtained, each with its handle, and whether the pool was closed. -/
structure History where
  accepted : List Task
  begun : List Nat
  ended : List Nat
  released : List Nat
  left : List Nat
  obtained : List (Nat × Nat)
  isClosed : Bool

namespace History

def empty : History := ⟨[], [], [], [], [], [], false⟩

def add (h : History) : Event → History
  | .submits task (.ok _) => { h with accepted := h.accepted ++ [task] }
  | .waits i (.ok (some value)) => { h with obtained := h.obtained ++ [(i, value)] }
  | .closes => { h with isClosed := true }
  | .begins i => { h with begun := h.begun ++ [i] }
  | .ends i => { h with ended := h.ended ++ [i] }
  | .releases i _ => { h with released := h.released ++ [i] }
  | .leaves w => { h with left := h.left ++ [w] }
  | _ => h

def of (es : List Event) : History := es.foldl add empty

theorem of_append (es : List Event) (e : Event) : of (es ++ [e]) = (of es).add e := by
  rw [of, of, List.foldl_append]
  rfl

theorem isClosed_of (es : List Event) : (of es).isClosed = true ↔ .closes ∈ es := by
  induction es using List.reverseRecOn with
  | nil => simp [of, empty]
  | append_singleton es e ih =>
      rw [of_append, List.mem_append, ← ih, List.mem_singleton]
      unfold add
      grind

end History

namespace Event

/-- Is it a worker who makes the move? -/
def isWorkers : Event → Bool
  | .begins _ | .ends _ | .releases _ _ | .leaves _ => true
  | _ => false

def records : Event → List Log.Record
  | .releases _ records => records
  | _ => []

/-- The moves of workers are told apart by what they do. -/
theorem countP_isWorkers (es : List Event) :
    es.countP isWorkers = (History.of es).begun.length + (History.of es).ended.length +
      (History.of es).released.length + (History.of es).left.length := by
  induction es using List.reverseRecOn with
  | nil => rfl
  | append_singleton es e ih =>
      rw [List.countP_append, ih, History.of_append]
      cases e with
      | submits task result => cases result <;> rfl
      | waits i result =>
          rcases result with _ | _ | _ <;> rfl
      | begins i | ends i | releases i records | leaves w => simp +arith [History.add, isWorkers]
      | drops i | closes | returns | opens => rfl

end Event

end SprayWatch.Pool
