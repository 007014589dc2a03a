/-!
# Limiter

A limiter lets a message through when none went through before, or when an interval has passed since
the last one did.
-/

namespace SprayWatch

/-- When a message last went through, in milliseconds. -/
structure Limiter where
  last : Option Nat
  deriving Repr, DecidableEq

namespace Limiter

def fresh : Limiter := ⟨none⟩

def isDue (l : Limiter) (interval now : Nat) : Bool :=
  match l.last with
  | some before => before + interval ≤ now
  | none => true

def ask (l : Limiter) (interval now : Nat) : Limiter :=
  if l.isDue interval now then ⟨some now⟩ else l

end Limiter

end SprayWatch
