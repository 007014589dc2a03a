import Mathlib.Order.Monotone.Basic
import SprayWatch.Proofs.StatusQueries

/-!
# Polls that repeat one query

A poll whose attempts all run the same command takes exchanges from the front of their sequence
until one closes it: the exchange brings a result, or its pause leaves nothing of the budget.  What
is polled for comes in only through what an exchange brings.  The result of the poll is what the
closing exchange brings, and its deeds are the queries and pauses up to there.
-/

namespace SprayWatch

/-- Queries with a pause after each, and perhaps a last one without. -/
def Transcript.queries (query : Command) (waits : List Nat) (last : Bool) : Transcript :=
  (waits.flatMap fun wait => [.ran query, .waited wait]) ++ if last then [.ran query] else []

namespace Transcript

theorem queries_cons (query : Command) (wait : Nat) (waits : List Nat) (last : Bool) :
    queries query (wait :: waits) last = .ran query :: .waited wait :: queries query waits last :=
  rfl

theorem queries_append_ran (query : Command) (waits : List Nat) :
    queries query waits false ++ [.ran query] = queries query waits true := by
  simp [queries]

theorem commands_queries (query : Command) (waits : List Nat) (last : Bool) :
    (queries query waits last).commands =
      List.replicate (waits.length + last.toNat) query := by
  induction waits with
  | nil => cases last <;> rfl
  | cons wait waits ih =>
      rw [queries_cons, List.length_cons, Nat.add_right_comm, List.replicate_succ, ← ih]
      rfl

end Transcript

namespace Monitor

variable {σ μ α : Type}

/-! ## Pauses of a sequence of exchanges -/

def waitsOf (exchanges : Nat → Exchange) (n : Nat) : List Nat :=
  (List.range n).map fun k => (exchanges k).wait

/-- For how long the first pauses of a sequence of exchanges are to last together. -/
def spent (exchanges : Nat → Exchange) (n : Nat) : Nat := (waitsOf exchanges n).sum

@[simp] theorem length_waitsOf (exchanges : Nat → Exchange) (n : Nat) :
    (waitsOf exchanges n).length = n := by
  simp [waitsOf]

theorem waitsOf_succ (exchanges : Nat → Exchange) (n : Nat) :
    waitsOf exchanges (n + 1) =
      (exchanges 0).wait :: waitsOf (fun k => exchanges (k + 1)) n := by
  simp [waitsOf, List.range_succ_eq_map, Function.comp_def]

theorem take_waitsOf (exchanges : Nat → Exchange) {k n : Nat} (hle : k ≤ n) :
    (waitsOf exchanges n).take k = waitsOf exchanges k := by
  simp [waitsOf, ← List.map_take, List.take_range, Nat.min_eq_left hle]

theorem spent_succ (exchanges : Nat → Exchange) (n : Nat) :
    spent exchanges (n + 1) = spent exchanges n + (exchanges n).wait := by
  simp [spent, waitsOf, List.range_succ]

theorem spent_mono (exchanges : Nat → Exchange) : Monotone (spent exchanges) := by
  apply monotone_nat_of_le_succ
  intro n
  rw [spent_succ]
  omega

/-! ## Closing exchanges -/

/-- Exchange number `n` takes place: those before it bring nothing and leave something of the
budget. -/
def ReachedBy (brings : Exchange → Option (Except Break α)) (exchanges : Nat → Exchange)
    (budget n : Nat) : Prop :=
  ∀ k < n, brings (exchanges k) = none ∧ spent exchanges (k + 1) < budget

/-- Exchange number `n` takes place and brings the polling to an end. -/
inductive ClosesBy (brings : Exchange → Option (Except Break α)) (exchanges : Nat → Exchange)
    (budget n : Nat) : Except Break α → Prop where
  | brought {result : Except Break α} (hreached : ReachedBy brings exchanges budget n)
      (hresult : brings (exchanges n) = some result) :
      ClosesBy brings exchanges budget n result
  | exhausted (hreached : ReachedBy brings exchanges budget n)
      (hpending : brings (exchanges n) = none)
      (hspent : budget ≤ spent exchanges (n + 1)) :
      ClosesBy brings exchanges budget n (.error (.failed .timeoutExceeded))

/-- The deeds of a poll that exchange number `n` closes.  The pause of that exchange is among them
only if the exchange brought nothing. -/
def deedsBy (brings : Exchange → Option (Except Break α)) (exchanges : Nat → Exchange)
    (query : Command) (n : Nat) : Transcript :=
  if (brings (exchanges n)).isSome then Transcript.queries query (waitsOf exchanges n) true
  else Transcript.queries query (waitsOf exchanges (n + 1)) false

section Closing

variable {brings : Exchange → Option (Except Break α)} {exchanges : Nat → Exchange}
  {budget n k : Nat} {result other : Except Break α}

theorem ClosesBy.reached (hcloses : ClosesBy brings exchanges budget n result) :
    ReachedBy brings exchanges budget n := by
  cases hcloses with
  | brought hreached => exact hreached
  | exhausted hreached => exact hreached

theorem ClosesBy.le_of_reached (hcloses : ClosesBy brings exchanges budget n result)
    (hreached : ReachedBy brings exchanges budget k) : k ≤ n := by
  apply Nat.le_of_not_lt
  intro hlt
  obtain ⟨hnone, hleft⟩ := hreached n hlt
  cases hcloses with
  | brought _ hresult => simp [hnone] at hresult
  | exhausted _ _ hspent => omega

theorem ClosesBy.unique (hcloses : ClosesBy brings exchanges budget n result)
    (hother : ClosesBy brings exchanges budget k other) : n = k ∧ result = other := by
  have hsame : n = k :=
    Nat.le_antisymm (hother.le_of_reached hcloses.reached) (hcloses.le_of_reached hother.reached)
  subst hsame
  constructor
  · exact rfl
  · cases hcloses with
    | brought _ hresult =>
        cases hother with
        | brought _ hsome => simpa [hresult] using hsome
        | exhausted _ hnone _ => simp [hresult] at hnone
    | exhausted _ hpending _ =>
        cases hother with
        | brought _ hsome => simp [hpending] at hsome
        | exhausted => rfl

/-- Something of the longest wait is left at an exchange that takes place.  The budget may be less
than that wait, but no pause is made before the first exchange. -/
theorem ReachedBy.spent_lt {longest : Nat} (hpos : 0 < longest) (hle : budget ≤ longest)
    (hreached : ReachedBy brings exchanges budget n) : spent exchanges n < longest := by
  cases n with
  | zero => simpa [spent, waitsOf] using hpos
  | succ n => exact Nat.lt_of_lt_of_le (hreached n (Nat.lt_succ_self n)).2 hle

theorem reachedBy_of_spent_lt (hpending : ∀ k < n, brings (exchanges k) = none)
    (hspent : spent exchanges n < budget) : ReachedBy brings exchanges budget n := by
  intro k hk
  exact ⟨hpending k hk, Nat.lt_of_le_of_lt (spent_mono exchanges hk) hspent⟩

theorem deedsBy_of_result {query : Command} (hresult : brings (exchanges n) = some result) :
    deedsBy brings exchanges query n = Transcript.queries query (waitsOf exchanges n) true := by
  simp [deedsBy, hresult]

theorem deedsBy_of_pending {query : Command} (hpending : brings (exchanges n) = none) :
    deedsBy brings exchanges query n =
      Transcript.queries query (waitsOf exchanges (n + 1)) false := by
  simp [deedsBy, hpending]

theorem exists_queries_eq_deedsBy (query : Command) :
    ∃ waits last,
      deedsBy brings exchanges query n = Transcript.queries query waits last := by
  unfold deedsBy
  split
  · exact ⟨_, _, rfl⟩
  · exact ⟨_, _, rfl⟩

theorem commands_deedsBy (query : Command) :
    (deedsBy brings exchanges query n).commands = List.replicate (n + 1) query := by
  unfold deedsBy
  split
  · rw [Transcript.commands_queries, length_waitsOf]
    rfl
  · rw [Transcript.commands_queries, length_waitsOf]
    rfl

end Closing

/-! ## Rounds and exchanges -/

/-- Attempts that all run one query.  As long as what they leave to know is of some kind, whether a
round of theirs ends the polling can be told from its exchange, and how. -/
structure Repeats (m : Monitor σ) (deadline : Nat) (query : Command)
    (attempt : μ → Act σ (Verdict μ α)) (brings : Exchange → Option (Except Break α))
    (known : μ → Prop) : Prop where
  ended :
    ∀ memory previous s result, known memory →
      brings (m.exchange deadline query previous s).1 = some result →
      ∃ did station,
        m.round deadline attempt memory previous s = ⟨.ended result, did, station⟩ ∧
        did.deeds = [.ran query]
  rested :
    ∀ memory previous s, known memory →
      brings (m.exchange deadline query previous s).1 = none →
      ∃ next wait did,
        m.round deadline attempt memory previous s =
          ⟨.rested next wait, did, (m.exchange deadline query previous s).2⟩ ∧
        did.deeds = [.ran query, .waited wait.val] ∧
        wait.val = (m.exchange deadline query previous s).1.wait ∧ known next

def exchangesFrom (m : Monitor σ) (deadline : Nat) (query : Command) (p : Stand σ μ) :
    Nat → Exchange :=
  m.exchanges deadline query p.previous p.station

/-- From a stand to another, exchanges with some pauses have brought nothing, and the exchanges that
follow are the later ones of the same sequence. -/
structure PassedOver (m : Monitor σ) (deadline : Nat) (query : Command)
    (brings : Exchange → Option (Except Break α)) (known : μ → Prop) (p q : Stand σ μ)
    (waits : List Nat) (did : Transcript) : Prop where
  knows : known q.memory
  pending : ∀ k < waits.length, brings (m.exchangesFrom deadline query p k) = none
  waits_eq : waits = waitsOf (m.exchangesFrom deadline query p) waits.length
  later :
    ∀ k, m.exchangesFrom deadline query q k =
      m.exchangesFrom deadline query p (waits.length + k)
  deeds_eq : did.deeds = Transcript.queries query waits false

section Passing

variable {m : Monitor σ} {deadline : Nat} {query : Command}
  {attempt : μ → Act σ (Verdict μ α)} {brings : Exchange → Option (Except Break α)}
  {known : μ → Prop} {p q : Stand σ μ} {waits : List Nat} {did : Transcript}

theorem PassedOver.cons {next : μ} {wait : Nat} {later : Transcript}
    (hfirst : brings (m.exchangesFrom deadline query p 0) = none)
    (hwait : wait = (m.exchangesFrom deadline query p 0).wait)
    (hdid : did.deeds = [.ran query, .waited wait])
    (hpassed :
      m.PassedOver deadline query brings known
        ⟨next, wait, (m.exchange deadline query p.previous p.station).2⟩ q waits later) :
    m.PassedOver deadline query brings known p q (wait :: waits) (did ++ later) := by
  have hshift : m.exchangesFrom deadline query
      ⟨next, wait, (m.exchange deadline query p.previous p.station).2⟩ =
      fun k => m.exchangesFrom deadline query p (k + 1) := by
    funext k
    simp only [exchangesFrom, exchanges, hwait]
  obtain ⟨hknows, hpending, hwaits, hlater, hdeeds⟩ := hpassed
  simp only [hshift] at hpending hwaits hlater
  refine ⟨hknows, ?_, ?_, ?_, ?_⟩
  · intro k hk
    cases k with
    | zero => exact hfirst
    | succ k => exact hpending k (by simpa using hk)
  · rw [List.length_cons, waitsOf_succ, ← hwait, ← hwaits]
  · intro k
    rw [hlater, List.length_cons, Nat.add_right_comm]
  · rw [Transcript.deeds_append, hdid, hdeeds, Transcript.queries_cons]
    rfl

theorem Rounds.passedOver (hrepeats : m.Repeats deadline query attempt brings known)
    (hrounds : m.Rounds deadline attempt p waits did q) (hknows : known p.memory) :
    m.PassedOver deadline query brings known p q waits did := by
  induction hrounds with
  | nil p => exact ⟨hknows, by simp, rfl, by simp, rfl⟩
  | @cons p q memory wait station did later waits hrests _ ih =>
      have hround := hrests.round_eq
      cases hbrought : brings (m.exchange deadline query p.previous p.station).1 with
      | some result =>
          obtain ⟨_, _, hended, -⟩ := hrepeats.ended _ _ _ _ hknows hbrought
          simp [hround] at hended
      | none =>
          obtain ⟨next, drawn, _, hrested, hdid, hwait, hnext⟩ :=
            hrepeats.rested _ _ _ hknows hbrought
          rw [hround] at hrested
          simp only [Step.mk.injEq, Round.rested.injEq] at hrested
          obtain ⟨⟨rfl, rfl⟩, rfl, rfl⟩ := hrested
          exact PassedOver.cons hbrought hwait hdid (ih hnext)

theorem PassedOver.reached {budget n : Nat}
    (hpassed : m.PassedOver deadline query brings known p q waits did) (hle : n ≤ waits.length)
    (hleft : ∀ k, 0 < k → k ≤ n → (waits.take k).sum < budget) :
    ReachedBy brings (m.exchangesFrom deadline query p) budget n := by
  intro k hk
  refine ⟨hpassed.pending k (by omega), ?_⟩
  have hlt := hleft (k + 1) (Nat.zero_lt_succ k) hk
  rw [hpassed.waits_eq, take_waitsOf _ (by omega)] at hlt
  exact hlt

end Passing

/-- A poll whose attempts repeat a query brings what the exchange brings that closes it, and leaves
the queries and pauses up to there. -/
theorem Repeats.poll_closesBy {m : Monitor σ} {deadline : Nat} {query : Command}
    {attempt : μ → Act σ (Verdict μ α)} {brings : Exchange → Option (Except Break α)}
    {known : μ → Prop} (hrepeats : m.Repeats deadline query attempt brings known)
    (memory : μ) (hknows : known memory) (s : Station σ) :
    ∃ n,
      ClosesBy brings (m.exchanges deadline query 0 s) m.budget n
        (m.poll deadline attempt memory s).value ∧
      (m.poll deadline attempt memory s).did.deeds =
        deedsBy brings (m.exchanges deadline query 0 s) query n := by
  obtain ⟨attempts, waits, gaveUp, hpolled, hleft, hgaveUp⟩ :=
    m.pollFrom_polled deadline attempt ⟨memory, 0, s⟩ 0
  simp only [Nat.zero_add] at hleft hgaveUp
  change m.Polled deadline _ _ _ _ _ (m.poll deadline attempt memory s) at hpolled
  change ∃ n, ClosesBy brings (m.exchangesFrom deadline query ⟨memory, 0, s⟩) _ n _ ∧
    _ = deedsBy brings (m.exchangesFrom deadline query ⟨memory, 0, s⟩) _ n
  generalize m.poll deadline attempt memory s = step at hpolled ⊢
  cases hpolled with
  | @gaveUp q _ did hrounds =>
      have hpassed := hrounds.passedOver hrepeats hknows
      obtain ⟨hne, hspent⟩ := hgaveUp.mp rfl
      obtain ⟨n, hn⟩ := Nat.exists_eq_succ_of_ne_zero (mt List.length_eq_zero_iff.mp hne)
      have hwaits := hpassed.waits_eq
      rw [hn] at hwaits
      have hpending := hpassed.pending n (by omega)
      refine ⟨n, .exhausted ?_ hpending ?_, ?_⟩
      · exact hpassed.reached (by omega) fun k hpos hk => hleft k hpos (by omega)
      · rw [spent, ← hwaits]
        exact hspent
      · rw [hpassed.deeds_eq, deedsBy_of_pending hpending, hwaits]
  | @ended q _ did last result station hrounds hends =>
      have hround := hends.round_eq
      have hpassed := hrounds.passedOver hrepeats hknows
      have hlast : (m.exchange deadline query q.previous q.station).1 =
          m.exchangesFrom deadline query ⟨memory, 0, s⟩ waits.length := hpassed.later 0
      cases hbrought : brings (m.exchange deadline query q.previous q.station).1 with
      | some other =>
          obtain ⟨_, _, hended, hdid⟩ := hrepeats.ended _ _ _ _ hpassed.knows hbrought
          rw [hround] at hended
          simp only [Step.mk.injEq, Round.ended.injEq] at hended
          obtain ⟨rfl, rfl, -⟩ := hended
          rw [hlast] at hbrought
          refine ⟨waits.length, .brought ?_ hbrought, ?_⟩
          · exact hpassed.reached le_rfl fun k hpos hk => hleft k hpos (by omega)
          · rw [Transcript.deeds_append, hpassed.deeds_eq, hdid, Transcript.queries_append_ran,
              deedsBy_of_result hbrought, ← hpassed.waits_eq]
      | none =>
          obtain ⟨_, _, _, hrested, -⟩ := hrepeats.rested _ _ _ hpassed.knows hbrought
          simp [hround] at hrested

end Monitor

end SprayWatch
