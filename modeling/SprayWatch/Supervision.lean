import SprayWatch.Session.Site
/-!
# Supervision

A process that runs is supervised in rounds.  Each round first looks whether the process must be
ended, because a stop is raised or its time is over; then it takes one line of output, or waits a
tick for one; and only when there was no line does it look whether the process has exited.  Once the
process has exited, its output is still taken for a while, because others may keep it open.

A process that must be ended is asked to terminate, and killed when it does not do so in time.
-/

namespace SprayWatch.Supervision

def tick : Nat := 50

/-- For how long output is still taken after the process has exited. -/
def drainGrace : Nat := 500

/-- For how long a process that was asked to terminate may take to do so. -/
def termGrace : Nat := 2000

/-- What is known of a process: until when it may run, whether its output is open, and its exit: the
status that it left, with the moment at which it was seen. -/
structure Watching where
  deadline : Nat
  isOpen : Bool
  exit : Option (Nat × Nat)
  deriving Repr, DecidableEq

def Watching.start (deadline : Nat) : Watching := ⟨deadline, true, none⟩

/-- What was heard of the output within a tick. -/
inductive Heard where
  | line (text : String)
  | nothing
  | closed
  deriving Repr, DecidableEq

def Heard.line? : Heard → Option String
  | .line l => some l
  | _ => none

/-- What a round sees: whether a stop is raised and the clock when it begins, then the output, then
the status that the process has left if it has exited, and the clock when that was seen and when the
round is over. -/
structure Round where
  stopRaised : Bool
  clock : Nat
  heard : Heard
  exit : Except IoFault (Option Nat)
  seen : Nat
  later : Nat

/-- What a process is told that must end. -/
inductive Order where
  | terminate
  | kill
  deriving Repr, DecidableEq

/-- What is done in the course of a supervision: a line is taken, the process is seen to have
exited, or it is told to end. -/
inductive Deed where
  | took (line : String)
  | saw (status moment : Nat)
  | told (order : Order)
  deriving Repr, DecidableEq

def Deed.line? : Deed → Option String
  | .took l => some l
  | _ => none

def Deed.sight? : Deed → Option (Nat × Nat)
  | .saw s m => some (s, m)
  | _ => none

/-- How a supervision ends: the process was seen to exit, or it was ended because of a stop or
because its time was over, or it could not be seen whether it has exited. -/
inductive Finish where
  | exited (status : Nat)
  | stopped
  | timedOut
  | unseen (fault : IoFault)
  deriving Repr, DecidableEq

def Finish.wasTerminated : Finish → Bool
  | .exited _ | .unseen _ => false
  | .stopped | .timedOut => true

def Finish.ending : Finish → Ending
  | .exited s => .exited (.ofWaitStatus s)
  | .stopped => .failed .interrupted
  | .timedOut => .exited .watchdogKilled
  | .unseen fault => .failed (.io fault)

/-- What a round comes to. -/
inductive Verdict where
  | finished (f : Finish)
  | goesOn (w : Watching)
  deriving Repr, DecidableEq

/-! ## Rounds -/

def Watching.opening? (w : Watching) (stopRaised : Bool) (clock : Nat) : Option Finish :=
  match w.exit with
  | some (s, _) => if stopRaised then some (.exited s) else none
  | none =>
    if stopRaised then some .stopped
    else if w.deadline ≤ clock then some .timedOut
    else none

def Watching.receive? (w : Watching) (r : Round) : Option Heard :=
  if w.isOpen then some r.heard else none

def Watching.heed (w : Watching) (heard : Option Heard) : Watching :=
  if heard = some .closed then { w with isOpen := false } else w

def Watching.closing (w : Watching) (clock : Nat) : Verdict :=
  match w.exit with
  | some (s, seen) =>
    if !w.isOpen || seen + drainGrace ≤ clock then .finished (.exited s) else .goesOn w
  | none => .goesOn w

/-- Looks whether the process has exited, if that was not seen before. -/
def Watching.look (w : Watching) (r : Round) : List Deed × Verdict :=
  match w.exit, r.exit with
  | some _, _ => ([], w.closing r.later)
  | none, .error fault => ([], .finished (.unseen fault))
  | none, .ok none => ([], .goesOn w)
  | none, .ok (some s) =>
    ([.saw s r.seen], { w with exit := some (s, r.seen) }.closing r.later)

def Watching.round (w : Watching) (r : Round) : List Deed × Verdict :=
  match w.opening? r.stopRaised r.clock with
  | some f => ([], .finished f)
  | none =>
    match w.receive? r with
    | some (.line l) => ([.took l], .goesOn w)
    | heard => (w.heed heard).look r

/-! ## Processes that must end -/

/-- A look at a process that was asked to terminate: the clock, and whether it has exited. -/
structure Look where
  clock : Nat
  exit : Except IoFault (Option Nat)

/-- Looks until the process has exited; it is killed when it takes too long, or when nothing can be
seen of it. -/
def awaitEnd (deadline : Nat) : List Look → List Deed
  | [] => []
  | l :: ls =>
    if l.clock < deadline then
      match l.exit with
      | .ok (some s) => [.saw s l.clock]
      | .ok none => awaitEnd deadline ls
      | .error _ => [.told .kill]
    else [.told .kill]

/-- Has a process terminate, with the looks at it from the moment at which it was asked to. -/
def terminate (asked : Nat) (looks : List Look) : List Deed :=
  .told .terminate :: awaitEnd (asked + termGrace) looks

/-- What is left to do after a supervision has come to its end. -/
def Finish.aftermath (f : Finish) (asked : Nat) (looks : List Look) : List Deed :=
  if f.wasTerminated then terminate asked looks else []

/-! ## Runs -/

/-- Rounds up to the one that ends the supervision: what is done, and the end if it comes.  The
looks are those at a process that must be ended. -/
def Watching.run (w : Watching) (asked : Nat) (looks : List Look) :
    List Round → List Deed × Option Finish
  | [] => ([], none)
  | r :: rs =>
    match w.round r with
    | (deeds, .finished f) => (deeds ++ f.aftermath asked looks, some f)
    | (deeds, .goesOn w') =>
      let (more, f) := run w' asked looks rs
      (deeds ++ more, f)

end SprayWatch.Supervision
