import SprayWatch.Failure
/-!
# Stop signals

A stop signal is raised once and stays raised.  Its clones share it: a family of clones is raised as
soon as one of them is.  Sleeping on a signal ends early, and fails, when the signal is raised.
-/

namespace SprayWatch

/-- Some signals and a clock in milliseconds.  Each signal belongs to a family; a family is raised
from a moment on. -/
structure StopSignals where
  families : List Nat
  raisings : List (Nat × Nat)
  clock : Nat
  deriving Repr, DecidableEq

namespace StopSignals

def empty : StopSignals := ⟨[], [], 0⟩

def fresh (s : StopSignals) : Nat × StopSignals :=
  (s.families.length, { s with families := s.families ++ [s.families.length] })

def family? (s : StopSignals) (i : Nat) : Option Nat := s.families[i]?

/-- A new signal of the family of another one, and its number. -/
def clone (s : StopSignals) (i : Nat) : Nat × StopSignals :=
  (s.families.length, { s with families := s.families ++ (s.family? i).toList })

/-- Raises a signal, now or a number of milliseconds later. -/
def raise (s : StopSignals) (i : Nat) (after : Nat) : StopSignals :=
  { s with raisings := s.raisings ++ (s.family? i).toList.map fun f => (f, s.clock + after) }

/-- The moments from which the family of a signal is raised. -/
def momentsOf (s : StopSignals) (i : Nat) : List Nat :=
  (s.raisings.filter fun r => s.family? i = some r.1).map Prod.snd

def isRaised (s : StopSignals) (i : Nat) : Bool :=
  (s.momentsOf i).any fun moment => moment ≤ s.clock

def wakingAt? (s : StopSignals) (i : Nat) (ms : Nat) : Option Nat :=
  ((s.momentsOf i).filter fun moment => moment ≤ s.clock ∨ moment < s.clock + ms).min?

def sleep (s : StopSignals) (i : Nat) (ms : Nat) : Except Failure Unit × StopSignals :=
  match s.wakingAt? i ms with
  | some moment => (.error .interrupted, { s with clock := max s.clock moment })
  | none => (.ok (), { s with clock := s.clock + ms })

end StopSignals

end SprayWatch
