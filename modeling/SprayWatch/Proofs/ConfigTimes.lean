import SprayWatch.Executor.Basic
import SprayWatch.Proofs.Polling

/-!
# Times in configurations

What can be said of the values that a reader gives follows from the way the reader is put together,
and one that fails gives nothing.  Every number in the monitor's section of a configuration is read
with the same bound, and none of them may be zero.  So a monitor that is made for a configuration
polls for exactly as long as the configuration says.
-/

namespace SprayWatch

namespace Json

variable {α β : Type}

theorem Number.le_of_within {bound k : Nat} {wanted : String} {n : Number}
    (hwithin : n.within bound wanted = .ok k) : k ≤ bound := by
  cases n with
  | natural n =>
      by_cases hle : n ≤ bound
      · simp only [Number.within, hle, if_true, Except.ok.injEq] at hwithin
        omega
      · simp [Number.within, hle] at hwithin
  | negative i => cases hwithin
  | fraction x => cases hwithin

/-- Whatever a reader gives has a property. -/
def Gives (P : α → Prop) (r : Reader α) : Prop :=
  ∀ c a after, r c = .ok a after → P a

namespace Gives

variable {P : α → Prop} {Q : β → Prop}

theorem pure {a : α} (ha : P a) : Gives P (pure a) := by
  rintro c _ after ⟨⟩
  exact ha

theorem bind {r : Reader α} {f : α → Reader β} (hr : Gives P r)
    (hf : ∀ a, P a → Gives Q (f a)) : Gives Q (r >>= f) := by
  intro c b after hgives
  change EStateM.bind r f c = _ at hgives
  unfold EStateM.bind at hgives
  split at hgives
  next a next hread => exact hf a (hr c a next hread) next b after hgives
  next => cases hgives

theorem after {r : Reader α} {f : α → Reader β} (hf : ∀ a, Gives Q (f a)) :
    Gives Q (r >>= f) :=
  bind (P := fun _ => True) (fun _ _ _ _ => trivial) fun a _ => hf a

theorem fail (cause : Cause) : Gives P (fail cause) := by
  rintro c a next ⟨⟩

theorem failHere (cause : Cause) : Gives P (failHere cause) := by
  rintro c a next ⟨⟩

theorem failNext (cause : Cause) : Gives P (failNext cause) := by
  rintro c a next ⟨⟩

theorem placed {r : Reader α} (hr : Gives P r) : Gives P (placed r) := by
  intro c a next hgives
  unfold Json.placed at hgives
  split at hgives
  next => cases hgives
  next b after hread =>
    cases hgives
    exact hr c a next hread

theorem failWrongType (wanted : String) : Gives P (failWrongType wanted) := by
  apply placed
  refine after fun b => ?_
  split
  · exact after fun _ => after fun _ => fail _
  · exact after fun _ => after fun _ => fail _
  · exact after fun _ => after fun _ => fail _
  · exact after fun _ => after fun _ => fail _
  · exact after fun _ => after fun _ => fail _
  · exact fail _
  · exact fail _
  · split
    · exact after fun _ => fail _
    · exact failNext _
  · exact failNext _

theorem natural (bound : Nat) (wanted : String) : Gives (· ≤ bound) (natural bound wanted) := by
  refine after fun b => ?_
  split
  · simp only []
    split
    · refine after fun _ => after fun n => ?_
      split
      next k hwithin => exact pure (Number.le_of_within hwithin)
      next => exact failHere _
    · refine after fun n => ?_
      split
      next k hwithin => exact pure (Number.le_of_within hwithin)
      next => exact failHere _
  · exact failWrongType wanted

theorem field {name : String} {seen : Option α} {r : Reader α} (hr : Gives P r) :
    Gives (fun read => ∀ a ∈ read, P a) (field name seen r) := by
  unfold Json.field
  split
  · exact fail _
  · refine after fun _ => bind hr fun a ha => pure ?_
    simpa using ha

theorem element? {first : Bool} {r : Reader α} (hr : Gives P r) :
    Gives (fun read => ∀ a ∈ read, P a) (element? first r) := by
  refine after fun more => ?_
  cases more with
  | true => exact bind hr fun a ha => pure (by simpa using ha)
  | false => exact pure (by simp)

/-- What each entry of an object keeps, all of them keep. -/
theorem entries {entry : String → α → Reader α}
    (hentry : ∀ key a, P a → Gives P (entry key a)) (fuel : Nat) (first : Bool) {a : α}
    (ha : P a) : Gives P (entries entry fuel first a) := by
  induction fuel generalizing first a with
  | zero => exact pure ha
  | succ fuel ih =>
      refine after fun key => ?_
      cases key with
      | none => exact pure ha
      | some key => exact bind (hentry key a ha) fun b hb => ih false hb

theorem bracketed {depth : Nat} {inside : Reader α} {close : Reader Unit}
    (hinside : Gives P inside) : Gives P (bracketed depth inside close) := by
  unfold Json.bracketed
  split
  · exact failNext _
  · refine after fun _ => ?_
    intro c a next hgives
    simp only [] at hgives
    split at hgives
    next b reached hread =>
      split at hgives
      next => cases hgives; exact hinside c _ reached hread
      next => cases hgives
    next =>
      split at hgives
      next => cases hgives
      next => cases hgives

theorem record {depth : Nat} {wanted : String} {ofList ofObject : Reader α}
    (hlist : Gives P ofList) (hobject : Gives P ofObject) :
    Gives P (record depth wanted ofList ofObject) := by
  apply placed
  refine after fun b => ?_
  split
  · exact bracketed hlist
  · split
    · exact bracketed hobject
    · exact failWrongType wanted

theorem readAll {r : Reader α} (hr : Gives P r) {s : String} {a : α}
    (hread : readAll r s = .ok a) : P a := by
  unfold Json.readAll at hread
  simp only [] at hread
  split at hread
  next b last hgiven =>
    cases hread
    refine bind hr (fun a ha => after fun b => ?_) _ _ last hgiven
    cases b with
    | some b => exact failNext _
    | none => exact pure ha
  next => cases hread

end Gives

end Json

/-! ## The monitor's section -/

def Patience.numbers (p : Patience) : List Nat :=
  [p.pollCeiling, p.maxWait, p.execTimeout, p.workerThreads]

/-- No number is larger than 64 bits hold. -/
def Patience.Bounded (p : Patience) : Prop := ∀ n ∈ p.numbers, n ≤ Config.timeMax

theorem Patience.usual_bounded : Patience.usual.Bounded := by
  unfold Bounded
  decide

namespace Config

open Json (Gives)

structure PatienceFields.Bounded (f : PatienceFields) : Prop where
  pollCeiling : ∀ n ∈ f.pollCeiling, n ≤ timeMax
  maxWait : ∀ n ∈ f.maxWait, n ≤ timeMax
  execTimeout : ∀ n ∈ f.execTimeout, n ≤ timeMax
  workerThreads : ∀ n ∈ f.workerThreads, n ≤ timeMax

theorem getD_of_forall_mem {α : Type} {P : α → Prop} {read : Option α} {usual : α}
    (hread : ∀ a ∈ read, P a) (husual : P usual) : P (read.getD usual) := by
  cases read with
  | none => exact husual
  | some a => exact hread a rfl

theorem PatienceFields.Bounded.complete {f : PatienceFields} (hf : f.Bounded) :
    f.complete.Bounded := by
  have husual := Patience.usual_bounded
  simp only [Patience.Bounded, Patience.numbers, List.forall_mem_cons] at husual ⊢
  obtain ⟨hceiling, hwait, htimeout, hthreads, hnone⟩ := husual
  exact ⟨getD_of_forall_mem hf.pollCeiling hceiling, getD_of_forall_mem hf.maxWait hwait,
    getD_of_forall_mem hf.execTimeout htimeout, getD_of_forall_mem hf.workerThreads hthreads,
    hnone⟩

theorem gives_readTime : Gives (· ≤ timeMax) readTime := Gives.natural timeMax "u64"

theorem gives_readCount : Gives (· ≤ timeMax) readCount := Gives.natural timeMax "usize"

theorem PatienceFields.Bounded.entry (key : String) {f : PatienceFields} (hf : f.Bounded) :
    Gives PatienceFields.Bounded (f.entry key) := by
  unfold PatienceFields.entry
  split
  · exact .bind (.field gives_readTime) fun _ hread => .pure { hf with pollCeiling := hread }
  · exact .bind (.field gives_readTime) fun _ hread => .pure { hf with maxWait := hread }
  · exact .bind (.field gives_readTime) fun _ hread => .pure { hf with execTimeout := hread }
  · exact .bind (.field gives_readCount) fun _ hread => .pure { hf with workerThreads := hread }
  · exact .after fun _ => .pure hf

theorem gives_readPatience (depth : Nat) : Gives Patience.Bounded (readPatience depth) := by
  apply Gives.record
  · exact .bind (.element? gives_readTime) fun _ hceiling =>
      .bind (.element? gives_readTime) fun _ hwait =>
      .bind (.element? gives_readTime) fun _ htimeout =>
      .bind (.element? gives_readCount) fun _ hthreads =>
      .pure (PatienceFields.Bounded.complete ⟨hceiling, hwait, htimeout, hthreads⟩)
  · refine .after fun fuel => .bind (P := PatienceFields.Bounded) ?_ fun _ hf => .pure hf.complete
    exact .entries (fun key _ hf => hf.entry key) fuel true ⟨nofun, nofun, nofun, nofun⟩

/-! ## Whole configurations -/

def Fields.Bounded (f : Fields) : Prop := ∀ p ∈ f.monitor, p.Bounded

theorem Fields.Bounded.entry (key : String) {f : Fields} (hf : f.Bounded) :
    Gives Fields.Bounded (f.entry key) := by
  unfold Fields.entry
  split
  · exact .after fun _ => .pure hf
  · exact .bind (.field (gives_readPatience _)) fun _ hread => .pure hread
  · exact .after fun _ => .pure hf
  · exact .after fun _ => .pure hf

theorem bounded_of_ofJson {s : String} {c : Config} (hread : ofJson s = .ok c) :
    c.monitor.Bounded := by
  refine Gives.readAll (P := fun c : Config => c.monitor.Bounded) (.record ?_ ?_) hread
  · exact .after fun _ => .bind (.element? (gives_readPatience _)) fun _ hmonitor =>
      .after fun _ => .pure (getD_of_forall_mem hmonitor Patience.usual_bounded)
  · refine .after fun fuel => .bind (P := Fields.Bounded)
      (.entries (fun key _ hf => hf.entry key) fuel true nofun) fun f hf => ?_
    split
    · exact .pure (getD_of_forall_mem hf Patience.usual_bounded)
    · exact .fail _

theorem checkNotZero_eq_ok {value : Nat} {field : String} :
    checkNotZero value field = .ok () ↔ 0 < value := by
  unfold checkNotZero
  split <;> simp <;> omega

theorem exists_of_bind_eq_ok {ε α β : Type} {x : Except ε α} {f : α → Except ε β} {b : β}
    (hbind : x >>= f = .ok b) : ∃ a, x = .ok a ∧ f a = .ok b := by
  cases x with
  | error e => cases hbind
  | ok a => exact ⟨a, rfl, hbind⟩

theorem eq_ok_of_mapError {ε ε' α : Type} {f : ε → ε'} {x : Except ε α} {a : α}
    (hmap : x.mapError f = .ok a) : x = .ok a := by
  cases x with
  | error e => cases hmap
  | ok b => exact congrArg _ (Except.ok.inj hmap)

theorem pos_of_check {c : Config} {isFile : Path → Bool} (hcheck : c.check isFile = .ok ()) :
    ∀ n ∈ c.monitor.numbers, 0 < n := by
  obtain ⟨-, -, hcheck⟩ := exists_of_bind_eq_ok hcheck
  obtain ⟨-, -, hcheck⟩ := exists_of_bind_eq_ok hcheck
  simp only [] at hcheck
  split at hcheck
  · cases hcheck
  · obtain ⟨⟨⟩, hceiling, hcheck⟩ := exists_of_bind_eq_ok hcheck
    obtain ⟨⟨⟩, hwait, hcheck⟩ := exists_of_bind_eq_ok hcheck
    obtain ⟨⟨⟩, htimeout, hthreads⟩ := exists_of_bind_eq_ok hcheck
    simp only [checkNotZero_eq_ok] at hceiling hwait htimeout hthreads
    simp [Patience.numbers, hceiling, hwait, htimeout, hthreads]

/-- Every number in the monitor's section of a configuration that has been read and checked is
positive, and 64 bits hold it. -/
theorem numbers_of_parse {isFile : Path → Bool} {s : String} {c : Config}
    (hparse : parse isFile s = .ok c) :
    ∀ n ∈ c.monitor.numbers, 0 < n ∧ n < Backoff.wordCount := by
  obtain ⟨read, hread, hparse⟩ := exists_of_bind_eq_ok hparse
  obtain ⟨⟨⟩, hcheck, hparse⟩ := exists_of_bind_eq_ok hparse
  obtain rfl : read = c := Except.ok.inj hparse
  intro n hmem
  have hpos := pos_of_check (eq_ok_of_mapError hcheck) n hmem
  have hle : n ≤ timeMax := bounded_of_ofJson (eq_ok_of_mapError hread) n hmem
  exact ⟨hpos, Nat.lt_succ_of_le hle⟩

end Config

/-- A monitor that is made for a configuration polls for as long as the configuration says. -/
theorem Executor.budget_of_parse {σ : Type} (site : Site σ) (base : Command)
    {isFile : Path → Bool} {s : String} {c : Config} (hparse : Config.parse isFile s = .ok c) :
    0 < (Executor.of site base c.monitor).monitor.maxWait ∧
      (Executor.of site base c.monitor).monitor.maxWait < Backoff.wordCount ∧
      (Executor.of site base c.monitor).monitor.budget = c.monitor.maxWait := by
  obtain ⟨hpos, hmax⟩ := Config.numbers_of_parse hparse c.monitor.maxWait
    (by simp [Patience.numbers])
  exact ⟨hpos, hmax, Monitor.budget_eq hmax⟩

end SprayWatch
