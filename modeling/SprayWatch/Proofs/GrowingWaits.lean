import Mathlib.Data.List.Chain
import SprayWatch.Proofs.FileWaits
import SprayWatch.Proofs.JobRuns

/-!
# Waits that grow

What is drawn for the next wait is bounded from both sides: the wait is never shorter than the one
before it, and a longer one stays below the ceiling and below twice the one before.  This holds
whatever random source is asked, as long as it gives numbers below an end that is not zero; it is
never asked for one below zero.  The invariant of a sequence of waits is that the last of them is
the first wait or below the ceiling.
-/

namespace SprayWatch

namespace Backoff

/-! ## Random sources -/

/-- A random source.  It can be asked for a number below an end, and there is one to be had unless
the end is zero. -/
structure Source (ρ : Type) where
  below? : Nat → ρ → Option (Nat × ρ)
  exists_below :
    ∀ {upper : Nat} (r : ρ), 0 < upper → ∃ n rest, below? upper r = some (n, rest) ∧ n < upper

namespace Source

variable {ρ : Type} (source : Source ρ)

/-- The wait after `previous`, drawn from a source that may have nothing to give. -/
def nextWait? (previous ceiling : Nat) (r : ρ) : Option (Nat × ρ) :=
  if previous = 0 then some (initialWait, r)
  else if upperEnd previous ceiling = 0 then some (previous, r)
  else
    (source.below? (upperEnd previous ceiling) r).map fun drawn =>
      (max drawn.1 previous, drawn.2)

/-- A number of waits one after another. -/
def waits? (ceiling : Nat) : Nat → Nat → ρ → Option (List Nat)
  | 0, _, _ => some []
  | n + 1, previous, r => do
    let (wait, rest) ← source.nextWait? previous ceiling r
    let later ← waits? ceiling n wait rest
    return wait :: later

end Source

theorem sampleBelow_lt {upper : Nat} (hpos : 0 < upper) (words : List UInt64) :
    (sampleBelow upper words).1 < upper := by
  induction words with
  | nil => exact hpos
  | cons w words ih =>
      rw [sampleBelow]
      split
      · have hword : w.toNat < wordCount := w.toNat_lt
        apply Nat.div_lt_of_lt_mul
        exact Nat.mul_lt_mul_of_pos_right hword hpos
      · exact ih

/-- Random words as a source. -/
def Draws.source : Source Draws where
  below? upper draws :=
    if upper = 0 then none
    else
      let (n, rest) := sampleBelow upper draws.words
      some (n, ⟨rest⟩)
  exists_below draws hpos :=
    ⟨_, _, if_neg (Nat.pos_iff_ne_zero.mp hpos), sampleBelow_lt hpos draws.words⟩

theorem Draws.source_nextWait? (previous ceiling : Nat) (draws : Draws) :
    source.nextWait? previous ceiling draws = some (nextWait previous ceiling draws) := by
  unfold Source.nextWait? nextWait
  split
  · rfl
  · simp only
    split
    · rfl
    next hupper => simp [source, hupper]

/-! ## One wait after another -/

/-- How a wait may follow another under a ceiling.  Before the first one there is none, which counts
as zero. -/
structure Next (ceiling previous wait : Nat) : Prop where
  first : previous = 0 → wait = initialWait
  le : previous ≤ wait
  grown : previous ≠ 0 → wait = previous ∨ wait < ceiling ∧ wait < 2 * previous

theorem next_zero (ceiling : Nat) : Next ceiling 0 initialWait :=
  ⟨fun _ => rfl, Nat.zero_le _, fun hne => absurd rfl hne⟩

theorem next_max {ceiling previous n : Nat} (hprevious : previous ≠ 0)
    (hdrawn : n < upperEnd previous ceiling) : Next ceiling previous (max n previous) := by
  unfold upperEnd saturate at hdrawn
  refine ⟨fun hzero => absurd hzero hprevious, Nat.le_max_right _ _, fun _ => ?_⟩
  by_cases hle : n ≤ previous
  · left
    exact Nat.max_eq_right hle
  · right
    omega

theorem Source.exists_nextWait {ρ : Type} (source : Source ρ) (previous ceiling : Nat) (r : ρ) :
    ∃ wait rest, source.nextWait? previous ceiling r = some (wait, rest) ∧
      Next ceiling previous wait ∧ (previous < wordCount → wait < wordCount) := by
  unfold nextWait?
  by_cases hprevious : previous = 0
  · subst hprevious
    exact ⟨_, _, if_pos rfl, next_zero ceiling, fun _ => by decide⟩
  · rw [if_neg hprevious]
    by_cases hupper : upperEnd previous ceiling = 0
    · rw [if_pos hupper]
      refine ⟨_, _, rfl, ⟨fun hzero => absurd hzero hprevious, le_rfl, fun _ => .inl rfl⟩, id⟩
    · rw [if_neg hupper]
      obtain ⟨n, rest, hdrawn, hlt⟩ := source.exists_below r (Nat.pos_of_ne_zero hupper)
      rw [hdrawn]
      refine ⟨_, _, rfl, next_max hprevious hlt, fun hword => ?_⟩
      unfold upperEnd saturate at hlt
      have hpositive : 0 < wordCount := by decide
      simp only
      omega

theorem next_nextWait (previous ceiling : Nat) (draws : Draws) :
    Next ceiling previous (nextWait previous ceiling draws).1 := by
  obtain ⟨wait, rest, hdrawn, hnext, -⟩ :=
    Draws.source.exists_nextWait previous ceiling draws
  rw [Draws.source_nextWait?, Option.some.injEq] at hdrawn
  rw [hdrawn]
  exact hnext

/-! ## Sequences of waits -/

/-- Waits that begin with the first wait and grow from there, without ever doubling, and stay below
a ceiling once they are longer than the first wait. -/
structure Growing (ceiling : Nat) (waits : List Nat) : Prop where
  first : ∀ wait ∈ waits.head?, wait = initialWait
  grows : waits.IsChain fun wait later => wait ≤ later ∧ later < 2 * wait
  bounded : ∀ wait ∈ waits, wait = initialWait ∨ wait < ceiling
  pos : ∀ wait ∈ waits, 0 < wait

theorem Next.isBounded {ceiling previous wait : Nat} (hnext : Next ceiling previous wait)
    (hpos : 0 < previous) (hbounded : previous = initialWait ∨ previous < ceiling) :
    wait = initialWait ∨ wait < ceiling := by
  rcases hnext.grown (Nat.pos_iff_ne_zero.mp hpos) with rfl | ⟨hlt, -⟩
  · exact hbounded
  · exact .inr hlt

theorem Next.lt_double {ceiling previous wait : Nat} (hnext : Next ceiling previous wait)
    (hpos : 0 < previous) : wait < 2 * previous := by
  rcases hnext.grown (Nat.pos_iff_ne_zero.mp hpos) with rfl | ⟨-, hlt⟩
  · omega
  · exact hlt

theorem grows_of_isChain {ceiling previous : Nat} {waits : List Nat} (hpos : 0 < previous)
    (hbounded : previous = initialWait ∨ previous < ceiling)
    (hchain : (previous :: waits).IsChain (Next ceiling)) :
    ((previous :: waits).IsChain fun wait later => wait ≤ later ∧ later < 2 * wait) ∧
      ∀ wait ∈ waits, 0 < wait ∧ (wait = initialWait ∨ wait < ceiling) := by
  induction waits generalizing previous with
  | nil => exact ⟨List.isChain_singleton _, by simp⟩
  | cons wait waits ih =>
      obtain ⟨hnext, hlater⟩ := List.isChain_cons_cons.mp hchain
      have hwait : 0 < wait := Nat.lt_of_lt_of_le hpos hnext.le
      have hstays := hnext.isBounded hpos hbounded
      obtain ⟨hgrows, hall⟩ := ih hwait hstays hlater
      constructor
      · exact List.isChain_cons_cons.mpr ⟨⟨hnext.le, hnext.lt_double hpos⟩, hgrows⟩
      · exact List.forall_mem_cons.mpr ⟨⟨hwait, hstays⟩, hall⟩

theorem growing_of_isChain {ceiling : Nat} {waits : List Nat}
    (hchain : (0 :: waits).IsChain (Next ceiling)) : Growing ceiling waits := by
  cases waits with
  | nil => exact ⟨by simp, List.isChain_nil, by simp, by simp⟩
  | cons wait waits =>
      obtain ⟨hnext, hlater⟩ := List.isChain_cons_cons.mp hchain
      obtain rfl := hnext.first rfl
      obtain ⟨hgrows, hall⟩ := grows_of_isChain (by decide) (.inl rfl) hlater
      refine ⟨by simp, hgrows, ?_, ?_⟩
      · exact List.forall_mem_cons.mpr ⟨.inl rfl, fun wait hmem => (hall wait hmem).2⟩
      · exact List.forall_mem_cons.mpr ⟨by decide, fun wait hmem => (hall wait hmem).1⟩

theorem Source.exists_waits {ρ : Type} (source : Source ρ) (ceiling n previous : Nat) (r : ρ) :
    ∃ waits, source.waits? ceiling n previous r = some waits ∧ waits.length = n ∧
      (previous :: waits).IsChain (Next ceiling) := by
  induction n generalizing previous r with
  | zero => exact ⟨[], rfl, rfl, List.isChain_singleton _⟩
  | succ n ih =>
      obtain ⟨wait, rest, hdrawn, hnext, -⟩ := source.exists_nextWait previous ceiling r
      obtain ⟨later, hlater, hlength, hchain⟩ := ih wait rest
      refine ⟨wait :: later, ?_, by simp [hlength], List.isChain_cons_cons.mpr ⟨hnext, hchain⟩⟩
      simp [waits?, hdrawn, hlater]

end Backoff

/-! ## Waits of polls -/

namespace Transcript

theorem waits_append (t u : Transcript) : (t ++ u).waits = t.waits ++ u.waits :=
  List.filterMap_append

theorem waits_ran (c : Command) (t : Transcript) : waits (.ran c :: t) = t.waits := rfl

theorem waits_ite_eq_nil {t : Transcript} (hnone : t.waits = []) (b : Bool) :
    (if b then t else []).waits = [] := by
  cases b with
  | true => exact hnone
  | false => rfl

theorem waits_queries (query : Command) (waits : List Nat) (last : Bool) :
    (queries query waits last).waits = waits := by
  induction waits with
  | nil => cases last <;> rfl
  | cons wait waits ih =>
      rw [queries_cons, waits_ran]
      exact congrArg (wait :: ·) ih

end Transcript

namespace Monitor

open Backoff (Next Growing)

variable {σ μ α : Type}

theorem next_drawn (m : Monitor σ) (previous : Nat) (s : Station σ) :
    Next (Backoff.truncate m.pollCeiling) previous (m.drawn previous s).value.val :=
  Backoff.next_nextWait previous _ s.draws

theorem Rounds.isChain {m : Monitor σ} {deadline : Nat} {attempt : μ → Act σ (Verdict μ α)}
    {p q : Stand σ μ} {waits : List Nat} {did : Transcript}
    (hrounds : m.Rounds deadline attempt p waits did q) :
    (p.previous :: waits).IsChain (Next (Backoff.truncate m.pollCeiling)) := by
  induction hrounds with
  | nil p => exact List.isChain_singleton _
  | @cons p q memory wait station did later waits hrests _ ih =>
      have hnext := m.next_drawn p.previous p.station
      rw [← hrests.wait_eq] at hnext
      exact List.isChain_cons_cons.mpr ⟨hnext, ih⟩

theorem isChain_waitsOf (m : Monitor σ) (deadline : Nat) (query : Command) (previous : Nat)
    (s : Station σ) (n : Nat) :
    (previous :: waitsOf (m.exchanges deadline query previous s) n).IsChain
      (Next (Backoff.truncate m.pollCeiling)) := by
  induction n generalizing previous s with
  | zero => exact List.isChain_singleton _
  | succ n ih =>
      rw [waitsOf_succ]
      exact List.isChain_cons_cons.mpr ⟨m.next_drawn previous s, ih _ _⟩

theorem growing_queries (m : Monitor σ) (deadline : Nat) (query : Command) (s : Station σ) (n : Nat)
    (last : Bool) :
    Growing (Backoff.truncate m.pollCeiling)
      (Transcript.queries query (waitsOf (m.exchanges deadline query 0 s) n) last).waits := by
  rw [Transcript.waits_queries]
  exact Backoff.growing_of_isChain (m.isChain_waitsOf deadline query 0 s n)

theorem growing_deedsBy (m : Monitor σ) (deadline : Nat) (query : Command) (s : Station σ)
    (brings : Exchange → Option (Except Break α)) (n : Nat) :
    Growing (Backoff.truncate m.pollCeiling)
      (deedsBy brings (m.exchanges deadline query 0 s) query n).waits := by
  unfold deedsBy
  split
  · exact m.growing_queries deadline query s n true
  · exact m.growing_queries deadline query s (n + 1) false

theorem submit_waits (m : Monitor σ) (c : Command) (s : Station σ) :
    Growing (Backoff.truncate m.pollCeiling) (m.submit c s).did.waits := by
  rw [← Transcript.waits_deeds]
  by_cases hfollows : ∃ jobId, m.Follows jobId c s
  · obtain ⟨jobId, hfollows⟩ := hfollows
    cases haccepting : s.accepting with
    | true =>
        obtain ⟨n, result, -, -, hdeeds⟩ := hfollows.submit_of_accepting haccepting
        rw [hdeeds, Transcript.waits_ran, Transcript.waits_append,
          Transcript.waits_ite_eq_nil rfl, List.append_nil]
        exact m.growing_deedsBy _ _ _ _ n
    | false =>
        rw [(hfollows.submit_of_not_accepting haccepting).2]
        exact Backoff.growing_of_isChain (List.isChain_singleton _)
  · rw [not_exists] at hfollows
    have hnone : (aborts m.base (m.submission c s).jobId?).waits = [] := by
      unfold aborts
      cases (m.submission c s).jobId? <;> rfl
    rw [(submit_of_not_follows hfollows).2, Transcript.waits_ran,
      Transcript.waits_ite_eq_nil hnone]
    exact Backoff.growing_of_isChain (List.isChain_singleton _)

theorem waitForFile_waits (m : Monitor σ) (mask : String) (s : Station σ) :
    Growing (Backoff.truncate m.pollCeiling) (m.waitForFile mask s).did.waits := by
  rw [← Transcript.waits_deeds]
  cases hcompile : Mask.compile mask with
  | error fault =>
      rw [m.waitForFile_of_fault mask s hcompile]
      exact Backoff.growing_of_isChain (List.isChain_singleton _)
  | ok pattern =>
      rw [m.waitForFile_deeds hcompile, runFileWait_deeds]
      cases haccepting : (waitStart s).accepting with
      | true =>
          have hrepeats := m.repeats_attemptListing hcompile (m.deadline (waitStart s))
          obtain ⟨n, -, hdeeds⟩ :=
            hrepeats.poll_closesBy () trivial (waitStart s)
          rw [handOver_deeds_of_accepting m _ _ _ haccepting, hdeeds]
          exact m.growing_deedsBy _ _ _ _ n
      | false =>
          rw [handOver_of_not_accepting m _ _ _ haccepting]
          exact Backoff.growing_of_isChain (List.isChain_singleton _)

/-- The wait after another is always there to be drawn, and follows it as it should; so do all of a
number of waits that begin with none, whatever the ceiling and the random source are.  The waits of
every poll are of this kind. -/
theorem waits_grow_below_ceiling {ρ : Type} (source : Backoff.Source ρ) (ceiling : Nat) :
    (∀ previous r, ∃ wait rest,
      source.nextWait? previous ceiling r = some (wait, rest) ∧ Next ceiling previous wait ∧
        (previous < Backoff.wordCount → wait < Backoff.wordCount)) ∧
    (∀ n r, ∃ waits,
      source.waits? ceiling n 0 r = some waits ∧ waits.length = n ∧ Growing ceiling waits) ∧
    (∀ previous draws,
      Backoff.Draws.source.nextWait? previous ceiling draws =
        some (Backoff.nextWait previous ceiling draws)) ∧
    ∀ m : Monitor σ,
      (∀ deadline (attempt : μ → Act σ (Verdict μ α)) memory s,
        ∃ attempts waits gaveUp,
          m.Polled deadline attempt ⟨memory, 0, s⟩ attempts waits gaveUp
            (m.poll deadline attempt memory s) ∧
          Growing (Backoff.truncate m.pollCeiling) waits) ∧
      (∀ c s, Growing (Backoff.truncate m.pollCeiling) (m.submit c s).did.waits) ∧
      ∀ mask s, Growing (Backoff.truncate m.pollCeiling) (m.waitForFile mask s).did.waits := by
  refine ⟨fun previous => source.exists_nextWait previous ceiling, ?_,
    fun previous => Backoff.Draws.source_nextWait? previous ceiling, ?_⟩
  · intro n r
    obtain ⟨waits, hwaits, hlength, hchain⟩ := source.exists_waits ceiling n 0 r
    exact ⟨waits, hwaits, hlength, Backoff.growing_of_isChain hchain⟩
  · intro m
    refine ⟨?_, m.submit_waits, m.waitForFile_waits⟩
    intro deadline attempt memory s
    obtain ⟨attempts, waits, gaveUp, hpolled, -⟩ :=
      m.pollFrom_polled deadline attempt ⟨memory, 0, s⟩ 0
    obtain ⟨did, q, hrounds⟩ := hpolled.rounds
    exact ⟨attempts, waits, gaveUp, hpolled, Backoff.growing_of_isChain hrounds.isChain⟩

end Monitor

end SprayWatch
