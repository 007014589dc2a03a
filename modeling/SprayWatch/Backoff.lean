/-!
# Waits between polls

The first wait is a second.  Each later one is drawn at random below twice the one before it and
below a ceiling, and is never shorter than the one before it.
-/

namespace SprayWatch.Backoff

def initialWait : Nat := 1000

/-- Random 64-bit words; when they run out, zeros follow. -/
structure Draws where
  words : List UInt64
  deriving Repr, DecidableEq

def wordCount : Nat := 18446744073709551616

/-- The upper end of the words that give a number below `upper` without a bias: `upper` is doubled
as often as 64 bits allow. -/
def zone (upper : Nat) : Nat :=
  upper * Nat.pow 2 (63 - Nat.log2 upper) - 1

/-- A number below `upper` from the first word that gives one, and the words left. -/
def sampleBelow (upper : Nat) : List UInt64 → Nat × List UInt64
  | [] => (0, [])
  | w :: ws =>
    let product := w.toNat * upper
    if product % wordCount ≤ zone upper then (product / wordCount, ws) else sampleBelow upper ws

def wordsTaken (upper : Nat) : List UInt64 → Nat
  | [] => 1
  | w :: ws =>
    if w.toNat * upper % wordCount ≤ zone upper then 1 else 1 + wordsTaken upper ws

/-- What 64 bits hold of a sum or a product: the largest number they can stands for all above. -/
def saturate (n : Nat) : Nat := min n (wordCount - 1)

/-- What 64 bits hold of a length of time: the milliseconds that are left over from whole rounds. -/
def truncate (ms : Nat) : Nat := ms % wordCount

/-- Below which number the next wait is drawn; none is drawn for zero. -/
def upperEnd (previous ceiling : Nat) : Nat := min (saturate (previous * 2)) ceiling

/-- The wait after `previous`, which is zero before the first one. -/
def nextWait (previous ceiling : Nat) (draws : Draws) : Nat × Draws :=
  if previous = 0 then (initialWait, draws)
  else
    let upper := upperEnd previous ceiling
    if upper = 0 then (previous, draws)
    else
      let (n, rest) := sampleBelow upper draws.words
      (max n previous, ⟨rest⟩)

/-- A wait is never nothing. -/
abbrev Wait : Type := { ms : Nat // 0 < ms }

theorem nextWait_pos (previous ceiling : Nat) (draws : Draws) :
    0 < (nextWait previous ceiling draws).1 := by
  unfold nextWait
  split
  · exact Nat.zero_lt_succ _
  · simp only []
    split
    · simpa using Nat.pos_of_ne_zero ‹_›
    · have : 0 < previous := Nat.pos_of_ne_zero ‹_›
      simp only []
      omega

theorem le_nextWait (previous ceiling : Nat) (draws : Draws) :
    previous ≤ (nextWait previous ceiling draws).1 := by
  unfold nextWait
  split
  · omega
  · simp only []
    split
    · exact Nat.le_refl previous
    · exact Nat.le_max_right _ previous

theorem initialWait_le_nextWait {previous : Nat} (ceiling : Nat) (draws : Draws)
    (hprevious : previous = 0 ∨ initialWait ≤ previous) :
    initialWait ≤ (nextWait previous ceiling draws).1 := by
  rcases hprevious with rfl | hle
  · exact Nat.le_refl initialWait
  · exact Nat.le_trans hle (le_nextWait previous ceiling draws)

/-- How many words drawing the wait after `previous` takes. -/
def drawsFor (previous ceiling : Nat) (draws : Draws) : Nat :=
  if previous = 0 ∨ upperEnd previous ceiling = 0 then 0
  else wordsTaken (upperEnd previous ceiling) draws.words

end SprayWatch.Backoff
