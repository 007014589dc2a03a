import Mathlib.Algebra.Order.BigOperators.Group.List
import Mathlib.Algebra.Order.Ring.Nat
import SprayWatch.Monitor.Polling
import SprayWatch.Proofs.Acts
import SprayWatch.Rehearsal

/-!
# The budget of a poll

Polling is a sequence of rounds, and a round can be told apart from the decision whether another one
follows.  `Rounds` says which rounds there are when nobody looks at the time, and `Polled` how a
poll comes to its end after some of them.  The main result puts the budget back: polling gives up by
itself exactly at the first pause with which the pauses reach the longest wait.
-/

namespace SprayWatch.Monitor

variable {σ μ α : Type}

/-- Where polling stands between two rounds: what the attempts so far leave to know, the last pause
and the station. -/
structure Stand (σ μ : Type) where
  memory : μ
  previous : Nat
  station : Station σ

def drawn (m : Monitor σ) (previous : Nat) (s : Station σ) : Step σ Backoff.Wait :=
  Act.drawWait previous (Backoff.truncate m.pollCeiling) s

/-- A round that leaves something to do: the attempt has settled nothing, and the pause after it was
completed. -/
inductive Rests (m : Monitor σ) (deadline : Nat) (attempt : μ → Act σ (Verdict μ α))
    (p : Stand σ μ) : μ → Backoff.Wait → Transcript → Station σ → Prop where
  | intro {memory : μ} {tried paused : Transcript} {between station : Station σ}
      (hattempt :
        attempt p.memory (m.drawn p.previous p.station).station =
          ⟨.notYet memory, tried, between⟩)
      (hpause :
        m.rest deadline (m.drawn p.previous p.station).value.val between =
          ⟨.ok (), paused, station⟩) :
      Rests m deadline attempt p memory (m.drawn p.previous p.station).value (tried ++ paused)
        station

/-- A round that ends the polling: the attempt has settled something or has failed, or it has
settled nothing and the pause after it failed. -/
inductive Ends (m : Monitor σ) (deadline : Nat) (attempt : μ → Act σ (Verdict μ α))
    (p : Stand σ μ) : Except Break α → Transcript → Station σ → Prop where
  | settled {a : α} {tried : Transcript} {station : Station σ}
      (hattempt :
        attempt p.memory (m.drawn p.previous p.station).station =
          ⟨.settled a, tried, station⟩) :
      Ends m deadline attempt p (.ok a) tried station
  | broke {b : Break} {tried : Transcript} {station : Station σ}
      (hattempt :
        attempt p.memory (m.drawn p.previous p.station).station = ⟨.broke b, tried, station⟩) :
      Ends m deadline attempt p (.error b) tried station
  | disturbed {memory : μ} {b : Break} {tried paused : Transcript} {between station : Station σ}
      (hattempt :
        attempt p.memory (m.drawn p.previous p.station).station =
          ⟨.notYet memory, tried, between⟩)
      (hpause :
        m.rest deadline (m.drawn p.previous p.station).value.val between =
          ⟨.error b, paused, station⟩) :
      Ends m deadline attempt p (.error b) (tried ++ paused) station

/-- Rounds from one stand to another, each with an attempt that settles nothing and a pause that is
completed: the pauses in order, and what was done. -/
inductive Rounds (m : Monitor σ) (deadline : Nat) (attempt : μ → Act σ (Verdict μ α)) :
    Stand σ μ → List Nat → Transcript → Stand σ μ → Prop where
  | nil (p : Stand σ μ) : Rounds m deadline attempt p [] [] p
  | cons {p q : Stand σ μ} {memory : μ} {wait : Backoff.Wait} {station : Station σ}
      {did later : Transcript} {waits : List Nat}
      (hrests : m.Rests deadline attempt p memory wait did station)
      (hrounds : Rounds m deadline attempt ⟨memory, wait.val, station⟩ waits later q) :
      Rounds m deadline attempt p (wait.val :: waits) (did ++ later) q

/-- How polling from a stand ends after a number of attempts and some completed pauses: it gives up
by itself when the last of these pauses is over, or the last attempt, or the pause after it, ends
it. -/
inductive Polled (m : Monitor σ) (deadline : Nat) (attempt : μ → Act σ (Verdict μ α))
    (p : Stand σ μ) : Nat → List Nat → Bool → Step σ (Except Break α) → Prop where
  | gaveUp {q : Stand σ μ} {waits : List Nat} {did : Transcript}
      (hrounds : Rounds m deadline attempt p waits did q) :
      Polled m deadline attempt p waits.length waits true
        ⟨.error (.failed .timeoutExceeded), did, q.station⟩
  | ended {q : Stand σ μ} {waits : List Nat} {did last : Transcript} {result : Except Break α}
      {station : Station σ} (hrounds : Rounds m deadline attempt p waits did q)
      (hends : m.Ends deadline attempt q result last station) :
      Polled m deadline attempt p (waits.length + 1) waits false ⟨result, did ++ last, station⟩

variable {m : Monitor σ} {deadline : Nat} {attempt : μ → Act σ (Verdict μ α)}

/-! ## Single rounds -/

theorem pollFrom_of_ended {memory : μ} {previous total : Nat} {s station : Station σ}
    {result : Except Break α} {did : Transcript}
    (hround :
      m.round deadline attempt memory previous s = ⟨.ended result, did, station⟩) :
    m.pollFrom deadline attempt memory previous total s = ⟨result, did, station⟩ := by
  rw [pollFrom]
  simp [hround]

theorem pollFrom_of_exhausted {memory next : μ} {previous total : Nat} {s station : Station σ}
    {wait : Backoff.Wait} {did : Transcript}
    (hround :
      m.round deadline attempt memory previous s = ⟨.rested next wait, did, station⟩)
    (hspent : m.budget ≤ Backoff.saturate (total + wait.val)) :
    m.pollFrom deadline attempt memory previous total s =
      ⟨.error (.failed .timeoutExceeded), did, station⟩ := by
  rw [pollFrom]
  simp [hround, hspent]

theorem pollFrom_of_rested {memory next : μ} {previous total : Nat} {s station : Station σ}
    {wait : Backoff.Wait} {did : Transcript}
    (hround :
      m.round deadline attempt memory previous s = ⟨.rested next wait, did, station⟩)
    (hspent : ¬ m.budget ≤ Backoff.saturate (total + wait.val)) :
    m.pollFrom deadline attempt memory previous total s =
      let later :=
        m.pollFrom deadline attempt next wait.val (Backoff.saturate (total + wait.val)) station
      ⟨later.value, did ++ later.did, later.station⟩ := by
  rw [pollFrom]
  simp [hround, hspent]

theorem drawWait_eq_drawn (m : Monitor σ) (previous : Nat) (s : Station σ) :
    Act.drawWait previous (Backoff.truncate m.pollCeiling) s = m.drawn previous s := rfl

theorem drawn_did (m : Monitor σ) (previous : Nat) (s : Station σ) :
    (m.drawn previous s).did = [] := rfl

theorem round_apply (m : Monitor σ) (deadline : Nat) (attempt : μ → Act σ (Verdict μ α))
    (memory : μ) (previous : Nat) (s : Station σ) :
    m.round deadline attempt memory previous s =
      let tried := attempt memory (m.drawn previous s).station
      match tried.value with
      | .settled a => ⟨.ended (.ok a), tried.did, tried.station⟩
      | .broke b => ⟨.ended (.error b), tried.did, tried.station⟩
      | .notYet next =>
        let rested := m.rest deadline (m.drawn previous s).value.val tried.station
        match rested.value with
        | .error b => ⟨.ended (.error b), tried.did ++ rested.did, rested.station⟩
        | .ok () =>
          ⟨.rested next (m.drawn previous s).value, tried.did ++ rested.did,
            rested.station⟩ := by
  simp only [round, Act.bind_apply, drawWait_eq_drawn, drawn_did, List.nil_append]
  cases htried : (attempt memory (m.drawn previous s).station).value with
  | settled a => simp
  | broke b => simp
  | notYet next =>
      simp only [Act.bind_apply]
      cases (m.rest deadline (m.drawn previous s).value.val
          (attempt memory (m.drawn previous s).station).station).value with
      | error b => simp
      | ok done => simp

/-- A round rests or ends the polling, according to its attempt and the pause after it. -/
theorem round_cases (m : Monitor σ) (deadline : Nat) (attempt : μ → Act σ (Verdict μ α))
    (p : Stand σ μ) :
    (∃ memory wait did station,
      m.Rests deadline attempt p memory wait did station ∧
      m.round deadline attempt p.memory p.previous p.station =
        ⟨.rested memory wait, did, station⟩) ∨
    ∃ result did station,
      m.Ends deadline attempt p result did station ∧
      m.round deadline attempt p.memory p.previous p.station =
        ⟨.ended result, did, station⟩ := by
  rw [round_apply]
  rcases htried : attempt p.memory (m.drawn p.previous p.station).station with
    ⟨memory | a | b, tried, between⟩
  · rcases hrested : m.rest deadline (m.drawn p.previous p.station).value.val between with
      ⟨b | done, paused, station⟩
    · exact .inr ⟨_, _, _, .disturbed htried hrested, by simp [hrested]⟩
    · exact .inl ⟨_, _, _, _, .intro htried hrested, by simp [hrested]⟩
  · exact .inr ⟨_, _, _, .settled htried, rfl⟩
  · exact .inr ⟨_, _, _, .broke htried, rfl⟩

section Rounds

variable {p : Stand σ μ} {memory : μ} {wait : Backoff.Wait} {did : Transcript}
  {station : Station σ} {result : Except Break α}

theorem Rests.wait_eq (hrests : m.Rests deadline attempt p memory wait did station) :
    wait = (m.drawn p.previous p.station).value := by
  cases hrests with
  | intro => rfl

theorem Rests.round_eq (hrests : m.Rests deadline attempt p memory wait did station) :
    m.round deadline attempt p.memory p.previous p.station =
      ⟨.rested memory wait, did, station⟩ := by
  rw [round_apply]
  cases hrests with
  | intro hattempt hpause => simp [hattempt, hpause]

theorem Ends.round_eq (hends : m.Ends deadline attempt p result did station) :
    m.round deadline attempt p.memory p.previous p.station = ⟨.ended result, did, station⟩ := by
  rw [round_apply]
  cases hends with
  | settled hattempt => simp [hattempt]
  | broke hattempt => simp [hattempt]
  | disturbed hattempt hpause => simp [hattempt, hpause]

end Rounds

/-! ## Sums of 64 bits -/

theorem budget_lt (m : Monitor σ) : m.budget < Backoff.wordCount :=
  Nat.mod_lt _ (by decide)

theorem budget_le (m : Monitor σ) : m.budget ≤ m.maxWait := Nat.mod_le _ _

theorem budget_eq (hmax : m.maxWait < Backoff.wordCount) : m.budget = m.maxWait :=
  Nat.mod_eq_of_lt hmax

theorem budget_le_saturate {total : Nat} :
    m.budget ≤ Backoff.saturate total ↔ m.budget ≤ total := by
  have hlt := m.budget_lt
  unfold Backoff.saturate
  omega

theorem saturate_of_lt {total : Nat} (hlt : total < m.budget) :
    Backoff.saturate total = total := by
  have hbudget := m.budget_lt
  unfold Backoff.saturate
  omega

/-! ## The end of a poll -/

section Ends

variable {p : Stand σ μ} {attempts : Nat} {waits : List Nat} {gaveUp : Bool}
  {step : Step σ (Except Break α)}

theorem Polled.rounds (hpolled : m.Polled deadline attempt p attempts waits gaveUp step) :
    ∃ did q, m.Rounds deadline attempt p waits did q := by
  cases hpolled with
  | gaveUp hrounds => exact ⟨_, _, hrounds⟩
  | ended hrounds => exact ⟨_, _, hrounds⟩

theorem Polled.length_waits (hpolled : m.Polled deadline attempt p attempts waits gaveUp step) :
    waits.length = if gaveUp then attempts else attempts - 1 := by
  cases hpolled with
  | gaveUp => rfl
  | ended => rfl

theorem Polled.cons {memory : μ} {wait : Backoff.Wait} {station : Station σ} {did : Transcript}
    (hrests : m.Rests deadline attempt p memory wait did station)
    (hpolled :
      m.Polled deadline attempt ⟨memory, wait.val, station⟩ attempts waits gaveUp step) :
    m.Polled deadline attempt p (attempts + 1) (wait.val :: waits) gaveUp
      ⟨step.value, did ++ step.did, step.station⟩ := by
  cases hpolled with
  | gaveUp hrounds => exact .gaveUp (.cons hrests hrounds)
  | ended hrounds hlast =>
      rw [← List.append_assoc]
      exact .ended (.cons hrests hrounds) hlast

end Ends

/-- What a poll may still spend decides about its end, when its pauses have lasted for `total`
before: every attempt but the first is made with something left, and the poll gives up by itself
exactly when nothing is left. -/
structure Spends (m : Monitor σ) (total attempts : Nat) (waits : List Nat) (gaveUp : Bool) :
    Prop where
  left : ∀ k, 0 < k → k < attempts → total + (waits.take k).sum < m.budget
  gaveUp_iff : gaveUp = true ↔ waits ≠ [] ∧ m.budget ≤ total + waits.sum

namespace Spends

variable {total wait attempts : Nat} {waits : List Nat} {gaveUp : Bool}

theorem ended : m.Spends total 1 [] false := by
  constructor
  · intro k hpos hlt
    omega
  · simp

theorem exhausted (hspent : m.budget ≤ total + wait) : m.Spends total 1 [wait] true := by
  constructor
  · intro k hpos hlt
    omega
  · simpa using hspent

theorem cons (hlt : total + wait < m.budget)
    (hlater : m.Spends (total + wait) attempts waits gaveUp) :
    m.Spends total (attempts + 1) (wait :: waits) gaveUp := by
  constructor
  · intro k hpos hk
    obtain ⟨j, rfl⟩ := Nat.exists_eq_succ_of_ne_zero (Nat.pos_iff_ne_zero.mp hpos)
    rw [List.take_succ_cons, List.sum_cons]
    rcases Nat.eq_zero_or_pos j with rfl | hj
    · simpa using hlt
    · have hleft := hlater.left j hj (by omega)
      omega
  · rw [hlater.gaveUp_iff, List.sum_cons, ← Nat.add_assoc]
    constructor
    · rintro ⟨-, hle⟩
      exact ⟨List.cons_ne_nil _ _, hle⟩
    · rintro ⟨-, hle⟩
      constructor
      · rintro rfl
        simp only [List.sum_nil] at hle
        omega
      · exact hle

end Spends

theorem pollFrom_polled (m : Monitor σ) (deadline : Nat) (attempt : μ → Act σ (Verdict μ α))
    (p : Stand σ μ) (total : Nat) :
    ∃ attempts waits gaveUp,
      m.Polled deadline attempt p attempts waits gaveUp
        (m.pollFrom deadline attempt p.memory p.previous total p.station) ∧
      m.Spends total attempts waits gaveUp := by
  induction hleft : m.budget - total using Nat.strongRecOn generalizing p total with
  | ind left ih =>
      rcases m.round_cases deadline attempt p with
        ⟨memory, wait, did, station, hrests, hround⟩ | ⟨result, did, station, hends, hround⟩
      · by_cases hspent : m.budget ≤ total + wait.val
        · rw [pollFrom_of_exhausted hround (budget_le_saturate.mpr hspent)]
          have hrounds := Rounds.cons hrests (.nil _)
          rw [List.append_nil] at hrounds
          exact ⟨1, [wait.val], true, .gaveUp hrounds, .exhausted hspent⟩
        · have hlt : total + wait.val < m.budget := Nat.lt_of_not_le hspent
          have hwait : 0 < wait.val := wait.property
          obtain ⟨attempts, waits, gaveUp, hpolled, hspends⟩ :=
            ih (m.budget - (total + wait.val)) (by omega)
              ⟨memory, wait.val, station⟩ (total + wait.val) rfl
          rw [pollFrom_of_rested hround (mt budget_le_saturate.mp hspent), saturate_of_lt hlt]
          exact ⟨attempts + 1, wait.val :: waits, gaveUp, hpolled.cons hrests,
            hspends.cons hlt⟩
      · rw [pollFrom_of_ended hround]
        exact ⟨1, [], false, .ended (.nil p) hends, .ended⟩

/-! ## Polls that go alike -/

inductive Verdict.Alike {ν : Type} (related : μ → ν → Prop) :
    Verdict μ α → Verdict ν α → Prop where
  | settled (a : α) : Alike related (.settled a) (.settled a)
  | broke (b : Break) : Alike related (.broke b) (.broke b)
  | notYet {memory : μ} {other : ν} (hrelated : related memory other) :
      Alike related (.notYet memory) (.notYet other)

inductive Round.Alike {ν : Type} (related : μ → ν → Prop) : Round μ α → Round ν α → Prop where
  | ended (result : Except Break α) : Alike related (.ended result) (.ended result)
  | rested {memory : μ} {other : ν} (wait : Backoff.Wait) (hrelated : related memory other) :
      Alike related (.rested memory wait) (.rested other wait)

theorem round_alike {ν : Type} {attempt' : ν → Act σ (Verdict ν α)} {related : μ → ν → Prop}
    {memory : μ} {other : ν}
    (hattempt : ∀ s, (attempt memory s).Alike (Verdict.Alike related) (attempt' other s))
    (previous : Nat) (s : Station σ) :
    (m.round deadline attempt memory previous s).Alike (Round.Alike related)
      (m.round deadline attempt' other previous s) := by
  apply Act.bind_alike (.refl _)
  rintro wait _ t rfl
  apply Act.bind_alike (hattempt t)
  rintro _ _ t (a | b | hnext)
  · exact ⟨.ended _, rfl, rfl⟩
  · exact ⟨.ended _, rfl, rfl⟩
  · apply Act.bind_alike (.refl _)
    rintro rested _ t rfl
    cases rested with
    | error b => exact ⟨.ended _, rfl, rfl⟩
    | ok done => exact ⟨.rested wait hnext, rfl, rfl⟩

/-- Polls whose rounds go alike from related memories give the same and do the same. -/
theorem pollFrom_eq_of_alike {ν : Type} {m' : Monitor σ}
    {attempt' : ν → Act σ (Verdict ν α)} (related : μ → ν → Prop)
    (hbudget : m.budget = m'.budget)
    (hround : ∀ memory other previous s, related memory other →
      (m.round deadline attempt memory previous s).Alike (Round.Alike related)
        (m'.round deadline attempt' other previous s))
    {memory : μ} {other : ν} (hrelated : related memory other) (previous total : Nat)
    (s : Station σ) :
    m.pollFrom deadline attempt memory previous total s =
      m'.pollFrom deadline attempt' other previous total s := by
  induction hleft : m.budget - total using Nat.strongRecOn
    generalizing memory other previous total s with
  | ind left ih =>
      obtain ⟨hvalue, hdid, hstation⟩ := hround memory other previous s hrelated
      cases hleftRound : m.round deadline attempt memory previous s with
      | mk value did station =>
          cases hrightRound : m'.round deadline attempt' other previous s with
          | mk value' did' station' =>
              rw [hleftRound, hrightRound] at hvalue hdid hstation
              simp only at hvalue hdid hstation
              subst hdid hstation
              cases hvalue with
              | ended result =>
                  rw [pollFrom_of_ended hleftRound, pollFrom_of_ended hrightRound]
              | rested wait hnext =>
                  by_cases hspent : m.budget ≤ total + wait.val
                  · rw [pollFrom_of_exhausted hleftRound (budget_le_saturate.mpr hspent),
                      pollFrom_of_exhausted hrightRound
                        (budget_le_saturate.mpr (hbudget ▸ hspent))]
                  · have hwait : 0 < wait.val := wait.property
                    rw [pollFrom_of_rested hleftRound (mt budget_le_saturate.mp hspent),
                      pollFrom_of_rested hrightRound
                        (mt budget_le_saturate.mp (hbudget ▸ hspent)),
                      saturate_of_lt (Nat.lt_of_not_le hspent)]
                    rw [ih (m.budget - (total + wait.val)) (by omega) hnext wait.val
                      (total + wait.val) station rfl]

/-! ## The waits of a poll -/

theorem Rounds.initialWait_le {p q : Stand σ μ} {waits : List Nat} {did : Transcript}
    (hrounds : m.Rounds deadline attempt p waits did q)
    (hprevious : p.previous = 0 ∨ Backoff.initialWait ≤ p.previous) :
    ∀ wait ∈ waits, Backoff.initialWait ≤ wait := by
  induction hrounds with
  | nil p => simp
  | @cons p q memory first station did later waits hrests _ ih =>
      have hfirst : Backoff.initialWait ≤ first.val := by
        rw [hrests.wait_eq]
        exact Backoff.initialWait_le_nextWait _ p.station.draws hprevious
      intro wait hmem
      rcases List.mem_cons.mp hmem with rfl | hlater
      · exact hfirst
      · exact ih (.inr hfirst) wait hlater

theorem Polled.attempts_le {p : Stand σ μ} {attempts longest : Nat} {waits : List Nat}
    {gaveUp : Bool} {step : Step σ (Except Break α)}
    (hpolled : m.Polled deadline attempt p attempts waits gaveUp step)
    (hprevious : p.previous = 0 ∨ Backoff.initialWait ≤ p.previous)
    (hsums : ∀ k < attempts, (waits.take k).sum < longest) :
    attempts ≤ (longest + 999) / 1000 := by
  obtain ⟨did, q, hrounds⟩ := hpolled.rounds
  have hlength := hpolled.length_waits
  have hall : ∀ wait ∈ waits.take (attempts - 1), Backoff.initialWait ≤ wait :=
    fun wait hmem => hrounds.initialWait_le hprevious wait (List.mem_of_mem_take hmem)
  have hsum := List.card_nsmul_le_sum _ Backoff.initialWait hall
  have hlast := hsums (attempts - 1)
  rw [Nat.nsmul_eq_mul, List.length_take_of_le (by split at hlength <;> omega)] at hsum
  unfold Backoff.initialWait at hsum
  omega

theorem Rounds.isPrefix_of_ended {p q r : Stand σ μ} {waits others : List Nat}
    {did done last : Transcript} {result : Except Break α} {station : Station σ}
    (hothers : m.Rounds deadline attempt p others done r)
    (hrounds : m.Rounds deadline attempt p waits did q)
    (hends : m.Ends deadline attempt q result last station) : others <+: waits := by
  have hlast := hends.round_eq
  induction hothers generalizing waits did with
  | nil p => exact List.nil_prefix
  | cons hfirst _ ih =>
      have hround := hfirst.round_eq
      cases hrounds with
      | nil => simp [hround] at hlast
      | cons hother hlater =>
          rw [hother.round_eq] at hround
          simp only [Step.mk.injEq, Round.rested.injEq] at hround
          obtain ⟨⟨rfl, rfl⟩, rfl, rfl⟩ := hround
          exact List.prefix_cons_inj _ |>.mpr (ih hlater)

/-- Whatever is attempted, polling comes to an end within the budget.  An attempt is made only while
the pauses before it leave something of the longest wait, and polling gives up by itself exactly
when there are rounds that settle nothing and whose last pause is the first to leave nothing of
it. -/
theorem poll_within_budget (m : Monitor σ) (deadline : Nat)
    (attempt : μ → Act σ (Verdict μ α)) (memory : μ) (s : Station σ)
    (hpos : 0 < m.maxWait) (hmax : m.maxWait < Backoff.wordCount) :
    ∃ attempts waits gaveUp,
      m.Polled deadline attempt ⟨memory, 0, s⟩ attempts waits gaveUp
        (m.poll deadline attempt memory s) ∧
      (∀ k < attempts, (waits.take k).sum < m.maxWait) ∧
      (gaveUp = true ↔
        ∃ fruitless did q,
          m.Rounds deadline attempt ⟨memory, 0, s⟩ fruitless did q ∧
          m.maxWait ≤ fruitless.sum ∧
          ∀ k < fruitless.length, (fruitless.take k).sum < m.maxWait) ∧
      attempts ≤ (m.maxWait + 999) / 1000 ∧
      waits.length = if gaveUp then attempts else attempts - 1 := by
  obtain ⟨attempts, waits, gaveUp, hpolled, hleft, hgaveUp⟩ :=
    m.pollFrom_polled deadline attempt ⟨memory, 0, s⟩ 0
  simp only [Nat.zero_add, budget_eq hmax] at hleft hgaveUp
  have hsums : ∀ k < attempts, (waits.take k).sum < m.maxWait := by
    intro k hk
    rcases Nat.eq_zero_or_pos k with rfl | hkpos
    · simpa using hpos
    · exact hleft k hkpos hk
  refine ⟨attempts, waits, gaveUp, hpolled, hsums, ?_, ?_, ?_⟩
  · generalize m.pollFrom deadline attempt memory 0 0 s = step at hpolled
    cases hpolled with
    | gaveUp hrounds =>
        exact iff_of_true rfl ⟨waits, _, _, hrounds, (hgaveUp.mp rfl).2, hsums⟩
    | ended hrounds hends =>
        apply iff_of_false Bool.false_ne_true
        rintro ⟨fruitless, did, q, hothers, hexhausted, -⟩
        have hprefix := hothers.isPrefix_of_ended hrounds hends
        have hlength := hprefix.length_le
        have hlt := hsums fruitless.length (by omega)
        rw [← List.prefix_iff_eq_take.mp hprefix] at hlt
        omega
  · exact hpolled.attempts_le (.inl rfl) hsums
  · exact hpolled.length_waits

def rehearsing : Monitor Rehearsal := ⟨Rehearsal.site, .bare ⟨"dfuplus"⟩, 1001, 2500⟩

def fruitless : Unit → Act Rehearsal (Verdict Unit Unit) := fun _ => pure (.notYet ())

theorem poll_within_budget_rehearsing :
    (0 < rehearsing.maxWait ∧ rehearsing.maxWait < Backoff.wordCount) ∧
    ∃ attempts waits gaveUp,
      rehearsing.Polled 2500 fruitless ⟨(), 0, .start (.start [] .empty) ⟨[]⟩⟩ attempts waits
        gaveUp (rehearsing.poll 2500 fruitless () (.start (.start [] .empty) ⟨[]⟩)) ∧
      attempts ≤ 3 := by
  have hpos : 0 < rehearsing.maxWait := by decide
  have hmax : rehearsing.maxWait < Backoff.wordCount := by decide
  obtain ⟨attempts, waits, gaveUp, hpolled, -, -, hattempts, -⟩ :=
    poll_within_budget rehearsing 2500 fruitless () (.start (.start [] .empty) ⟨[]⟩) hpos hmax
  exact ⟨⟨hpos, hmax⟩, attempts, waits, gaveUp, hpolled, hattempts⟩

end SprayWatch.Monitor
