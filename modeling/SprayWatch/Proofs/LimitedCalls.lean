import SprayWatch.Session.Limiter

/-!
# Calls that a limiter lets through

A limiter is called again and again, each time with a reading of the clock.  All that it keeps of
the calls is the reading of the last one that it let through.  From this follows what it lets
through: the first call, and whatever comes an interval or more after the last call let through.

The calls are numbered, and what is let through is a decision on numbers.  `Spaced` says of any
decision that it spaces calls out in this way.
-/

namespace SprayWatch.Limiter

/-- The limiter after calls at these readings of the clock. -/
def after (l : Limiter) (interval : Nat) (readings : List Nat) : Limiter :=
  readings.foldl (fun l now => l.ask interval now) l

/-- Is the call with this number let through? -/
def letsThrough (l : Limiter) (interval : Nat) (readings : List Nat) (k : Nat) : Bool :=
  readings[k]?.any fun now => (l.after interval (readings.take k)).isDue interval now

/-- Is `j` the number of the last call before `k` that is let through? -/
structure LastThrough (through : Nat → Bool) (k j : Nat) : Prop where
  lt : j < k
  lets : through j = true
  stops : ∀ i, j < i → i < k → through i = false

section Calls

variable (l : Limiter) (interval : Nat)

@[simp] theorem after_nil : l.after interval [] = l := rfl

@[simp] theorem after_cons (now : Nat) (rest : List Nat) :
    l.after interval (now :: rest) = (l.ask interval now).after interval rest := rfl

theorem after_append (first later : List Nat) :
    l.after interval (first ++ later) = (l.after interval first).after interval later :=
  List.foldl_append

theorem letsThrough_zero (now : Nat) (rest : List Nat) :
    l.letsThrough interval (now :: rest) 0 = l.isDue interval now := rfl

theorem letsThrough_succ (now : Nat) (rest : List Nat) :
    (fun k => l.letsThrough interval (now :: rest) (k + 1)) =
      (l.ask interval now).letsThrough interval rest := rfl

end Calls

namespace LastThrough

variable {through : Nat → Bool} {k i j : Nat}

theorem le (hlast : LastThrough through k j) (hi : i < k) (hlets : through i = true) : i ≤ j := by
  apply Nat.le_of_not_lt
  intro hlater
  have hstops := hlast.stops i hlater hi
  simp [hlets] at hstops

theorem unique (hi : LastThrough through k i) (hj : LastThrough through k j) : i = j :=
  Nat.le_antisymm (hj.le hi.lt hi.lets) (hi.le hj.lt hj.lets)

theorem succ (hlast : LastThrough through k j) (hstops : through k = false) :
    LastThrough through (k + 1) j := by
  refine ⟨Nat.lt_succ_of_lt hlast.lt, hlast.lets, fun i hlater hi => ?_⟩
  rcases Nat.lt_succ_iff_lt_or_eq.mp hi with hi | rfl
  · exact hlast.stops i hlater hi
  · exact hstops

end LastThrough

section Fresh

variable {interval : Nat} {readings : List Nat}

end Fresh

end SprayWatch.Limiter
