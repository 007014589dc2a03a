import Mathlib.Data.List.Nodup
import SprayWatch.Proofs.PoolMoves

/-!
# What is told of a pool

Everything about a pool can be told from what has happened in its run: which tasks it has accepted,
how far each of them got, whether its value was obtained, and who of the workers is busy or has
left.  Each move keeps that, so it holds in every run.
-/

namespace SprayWatch.Pool

variable {workers : Nat} {h : History} {s t : State} {e : Event}

/-! ## Histories -/

namespace History

def stage (h : History) (i : Nat) : Stage :=
  if i ∈ h.ended then .ended else if i ∈ h.begun then .begun else .waiting

def isObtained (h : History) (i : Nat) : Bool := decide (i ∈ h.obtained.map Prod.fst)

def slot (h : History) (i : Nat) (task : Task) : Slot := ⟨task, h.stage i, h.isObtained i⟩

@[simp] theorem isObtained_begins (h : History) (i j : Nat) :
    (h.add (.begins i)).isObtained j = h.isObtained j := rfl

@[simp] theorem isObtained_ends (h : History) (i j : Nat) :
    (h.add (.ends i)).isObtained j = h.isObtained j := rfl

theorem stage_begins {i : Nat} (hi : i ∉ h.ended) (j : Nat) :
    (h.add (.begins i)).stage j = if i = j then .begun else h.stage j := by
  simp only [stage, add, List.mem_append, List.mem_singleton]
  grind

theorem stage_ends (h : History) (i j : Nat) :
    (h.add (.ends i)).stage j = if i = j then .ended else h.stage j := by
  simp only [stage, add, List.mem_append, List.mem_singleton]
  grind

/-- What a wait for a task is told. -/
def told (h : History) (i : Nat) (task : Task) : Except Failure (Option Nat) :=
  if i ∉ h.ended then .ok none
  else if task.panics then .error .taskLost
  else if h.isObtained i = false then .ok (some task.value)
  else if i ∈ h.released then .error .taskLost
  else .ok none

theorem told_cases (h : History) (i : Nat) (task : Task) :
    h.told i task = .ok (some task.value) ∨ h.told i task = .ok none ∨
      h.told i task = .error .taskLost := by
  unfold told
  grind

/-- Tasks are begun in the order of their handles; what has ended was begun, what was released has
ended, and a value was obtained only of a task that has left one. -/
structure Sound (h : History) : Prop where
  inOrder : h.begun = List.range h.begun.length
  begun_le : h.begun.length ≤ h.accepted.length
  ended_nodup : h.ended.Nodup
  begun_of_ended {i : Nat} : i ∈ h.ended → i ∈ h.begun
  released_nodup : h.released.Nodup
  ended_of_released {i : Nat} : i ∈ h.released → i ∈ h.ended
  left_nodup : h.left.Nodup
  obtained_nodup : (h.obtained.map Prod.fst).Nodup
  value_of_obtained {i value : Nat} : (i, value) ∈ h.obtained →
    i ∈ h.ended ∧ ∃ task, h.accepted[i]? = some task ∧ task.panics = false ∧ task.value = value

namespace Sound

theorem empty : History.empty.Sound := by
  constructor <;> simp [History.empty]

variable {i : Nat} (hh : h.Sound)
include hh

theorem mem_begun_iff : i ∈ h.begun ↔ i < h.begun.length := by
  rw [hh.inOrder]
  simp

theorem lt_of_mem_begun (hi : i ∈ h.begun) : i < h.accepted.length :=
  Nat.lt_of_lt_of_le (hh.mem_begun_iff.mp hi) hh.begun_le

/-- The tasks that wait are those that were accepted after all that were begun. -/
theorem stage_eq_waiting_iff : h.stage i = .waiting ↔ h.begun.length ≤ i := by
  have hbegun := hh.mem_begun_iff (i := i)
  have hended := hh.begun_of_ended (i := i)
  unfold stage
  grind

theorem of_isObtained (hi : h.isObtained i = true) :
    i ∈ h.ended ∧ ∃ task, h.accepted[i]? = some task ∧ task.panics = false := by
  obtain ⟨⟨_, value⟩, hmem, rfl⟩ := List.mem_map.mp (of_decide_eq_true hi)
  obtain ⟨hended, task, htask, hpanics, -⟩ := hh.value_of_obtained hmem
  exact ⟨hended, task, htask, hpanics⟩

theorem slot_length (task : Task) : h.slot h.accepted.length task = ⟨task, .waiting, false⟩ := by
  have hwaiting := hh.stage_eq_waiting_iff.mpr hh.begun_le
  have hfresh : h.isObtained h.accepted.length = false := by
    rw [Bool.eq_false_iff]
    intro hobtained
    have hbegun := hh.begun_of_ended (hh.of_isObtained hobtained).1
    exact Nat.lt_irrefl _ (hh.lt_of_mem_begun hbegun)
  rw [slot, hwaiting, hfresh]

end Sound

end History

/-! ## Crews and their histories -/

/-- The workers have in hand what was begun and not released, each task in one worker's hands. -/
structure Posted (crew : List Worker) (h : History) : Prop where
  running_iff {i : Nat} :
    (∃ w : Nat, crew[w]? = some (.running i)) ↔ i ∈ h.begun ∧ i ∉ h.ended
  closing_iff {i : Nat} :
    (∃ w : Nat, crew[w]? = some (.closing i)) ↔ i ∈ h.ended ∧ i ∉ h.released
  gone_iff {w : Nat} : crew[w]? = some .gone ↔ w ∈ h.left
  alone {i w w' : Nat} : crew[w]?.bind Worker.task? = some i →
    crew[w']?.bind Worker.task? = some i → w = w'

namespace Posted

theorem replicate (n : Nat) : Posted (List.replicate n .idle) .empty where
  running_iff := by simp [History.empty, List.getElem?_replicate]
  closing_iff := by simp [History.empty, List.getElem?_replicate]
  gone_iff := by simp [History.empty, List.getElem?_replicate]
  alone hw := by
    simp only [List.getElem?_replicate] at hw
    split at hw <;> simp [Worker.task?] at hw

variable {crew : List Worker} {w i : Nat} {was now : Worker} (hcrew : Posted crew h)
  (hh : h.Sound)
include hcrew

/-- Who has a task in hand after one worker has gone on to something else. -/
theorem exists_set_iff (hw : crew[w]? = some was) {worker : Worker}
    (hworker : worker.task? = some i) :
    (∃ v : Nat, (crew.set w now)[v]? = some worker) ↔
      worker = now ∨ (∃ v : Nat, crew[v]? = some worker) ∧ was.task? ≠ some i := by
  have hlt : w < crew.length := (List.getElem?_eq_some_iff.mp hw).1
  constructor
  · rintro ⟨v, hv⟩
    by_cases hvw : w = v
    · subst hvw
      left
      simpa [hlt] using hv.symm
    · rw [List.getElem?_set_ne hvw] at hv
      refine .inr ⟨⟨v, hv⟩, fun hwas => hvw (hcrew.alone (i := i) ?_ ?_)⟩
      · simpa [hw] using hwas
      · simpa [hv] using hworker
  · rintro (rfl | ⟨⟨v, hv⟩, hwas⟩)
    · exact ⟨w, by simp [hlt]⟩
    · have hvw : w ≠ v := by
        rintro rfl
        obtain rfl : was = worker := Option.some.inj (hw.symm.trans hv)
        exact hwas hworker
      exact ⟨v, by rw [List.getElem?_set_ne hvw, hv]⟩

/-- A worker who goes on to a task that no other has in hand has it alone. -/
theorem alone_set (hw : crew[w]? = some was) (now : Worker)
    (hnow : ∀ i, now.task? = some i →
      was.task? = some i ∨ ∀ v : Nat, crew[v]?.bind Worker.task? ≠ some i)
    {v v' : Nat} (hv : (crew.set w now)[v]?.bind Worker.task? = some i)
    (hv' : (crew.set w now)[v']?.bind Worker.task? = some i) : v = v' := by
  have hother {u : Nat} (hwu : w ≠ u) (hi : now.task? = some i) :
      crew[u]?.bind Worker.task? ≠ some i := by
    intro hu
    rcases hnow i hi with hwas | hnone
    · exact hwu (hcrew.alone (by simpa [hw] using hwas) hu)
    · exact hnone u hu
  have hlt : w < crew.length := (List.getElem?_eq_some_iff.mp hw).1
  by_cases hwv : w = v <;> by_cases hwv' : w = v'
  · exact hwv.symm.trans hwv'
  · subst hwv
    rw [List.getElem?_set_ne hwv'] at hv'
    exact absurd hv' (hother hwv' (by simpa [hlt] using hv))
  · subst hwv'
    rw [List.getElem?_set_ne hwv] at hv
    exact absurd hv (hother hwv (by simpa [hlt] using hv'))
  · rw [List.getElem?_set_ne hwv] at hv
    rw [List.getElem?_set_ne hwv'] at hv'
    exact hcrew.alone hv hv'

theorem gone_set (hw : crew[w]? = some was) (hwas : was ≠ .gone) (hnow : now ≠ .gone) {v : Nat} :
    (crew.set w now)[v]? = some .gone ↔ v ∈ h.left := by
  rw [← hcrew.gone_iff, List.getElem?_set]
  grind

include hh

theorem begins (hw : crew[w]? = some .idle) :
    Posted (crew.set w (.running h.begun.length)) (h.add (.begins h.begun.length)) where
  running_iff {i} := by
    rw [hcrew.exists_set_iff hw rfl, hcrew.running_iff]
    have hended := hh.begun_of_ended (i := h.begun.length)
    have hbegun := hh.mem_begun_iff (i := h.begun.length)
    simp only [History.add, Worker.task?, Worker.running.injEq, List.mem_append,
      List.mem_singleton]
    grind
  closing_iff {i} := by
    rw [hcrew.exists_set_iff hw rfl, hcrew.closing_iff]
    simp [History.add, Worker.task?]
  gone_iff := hcrew.gone_set hw (by simp) (by simp)
  -- whoever had the task in hand already would have begun it
  alone := hcrew.alone_set hw _ fun i hi => .inr fun v hv => by
    obtain rfl : h.begun.length = i := by simpa [Worker.task?] using hi
    have hnot : h.begun.length ∉ h.begun := by simp [hh.mem_begun_iff]
    obtain ⟨worker, hworker, htask⟩ := Option.bind_eq_some_iff.mp hv
    cases worker with
    | idle => cases htask
    | gone => cases htask
    | running j =>
        obtain rfl : j = h.begun.length := by simpa [Worker.task?] using htask
        exact hnot (hcrew.running_iff.mp ⟨v, hworker⟩).1
    | closing j =>
        obtain rfl : j = h.begun.length := by simpa [Worker.task?] using htask
        exact hnot (hh.begun_of_ended (hcrew.closing_iff.mp ⟨v, hworker⟩).1)

theorem ends (hw : crew[w]? = some (.running i)) :
    Posted (crew.set w (.closing i)) (h.add (.ends i)) where
  running_iff {j} := by
    rw [hcrew.exists_set_iff hw rfl, hcrew.running_iff]
    simp only [History.add, Worker.task?, List.mem_append, List.mem_singleton]
    grind
  closing_iff {j} := by
    rw [hcrew.exists_set_iff hw rfl, hcrew.closing_iff]
    have hrunning := hcrew.running_iff.mp ⟨w, hw⟩
    have hreleased := hh.ended_of_released (i := i)
    simp only [History.add, Worker.task?, Worker.closing.injEq, List.mem_append,
      List.mem_singleton]
    grind
  gone_iff := hcrew.gone_set hw (by simp) (by simp)
  alone := hcrew.alone_set hw (.closing i) fun _ hj => .inl hj

omit hh

theorem releases (hw : crew[w]? = some (.closing i)) (records : List Log.Record) :
    Posted (crew.set w .idle) (h.add (.releases i records)) where
  running_iff {j} := by
    rw [hcrew.exists_set_iff hw rfl, hcrew.running_iff]
    have hclosing := hcrew.closing_iff.mp ⟨w, hw⟩
    simp only [History.add, Worker.task?]
    grind
  closing_iff {j} := by
    rw [hcrew.exists_set_iff hw rfl, hcrew.closing_iff]
    simp only [History.add, Worker.task?, List.mem_append, List.mem_singleton]
    grind
  gone_iff := hcrew.gone_set hw (by simp) (by simp)
  alone := hcrew.alone_set hw _ fun i hi => by cases hi

theorem leaves (hw : crew[w]? = some .idle) : Posted (crew.set w .gone) (h.add (.leaves w)) where
  running_iff {j} := by
    rw [hcrew.exists_set_iff hw rfl, hcrew.running_iff]
    simp [History.add, Worker.task?]
  closing_iff {j} := by
    rw [hcrew.exists_set_iff hw rfl, hcrew.closing_iff]
    simp [History.add, Worker.task?]
  gone_iff {v} := by
    have hlt : w < crew.length := (List.getElem?_eq_some_iff.mp hw).1
    have hgone := hcrew.gone_iff (w := v)
    simp only [History.add, List.mem_append, List.mem_singleton, List.getElem?_set]
    grind
  alone := hcrew.alone_set hw _ fun i hi => by cases hi

end Posted

/-! ## Pools and their histories -/

/-- A pool stands where its history has taken it. -/
structure State.Follows (s : State) (h : History) : Prop where
  sound : h.Sound
  slot_eq (i : Nat) : s.pool.slot? i = h.accepted[i]?.map (h.slot i)
  order_eq : s.pool.order = h.begun
  accepting_eq : s.pool.accepting = !h.isClosed
  posted : Posted s.crew h
  left {w : Nat} : w ∈ h.left → h.isClosed = true ∧ h.begun.length = h.accepted.length

namespace State.Follows

theorem start : (State.start workers).Follows .empty where
  sound := .empty
  slot_eq i := rfl
  order_eq := rfl
  accepting_eq := rfl
  posted := .replicate _
  left hw := by simp [History.empty] at hw

variable {i w : Nat} (hs : s.Follows h)
include hs

theorem length_slots : s.pool.slots.length = h.accepted.length := by
  apply Nat.le_antisymm
  · by_contra hlt
    have hslot := hs.slot_eq h.accepted.length
    rw [slot?, List.getElem?_eq_getElem (by omega)] at hslot
    simp at hslot
  · by_contra hlt
    have hslot := hs.slot_eq s.pool.slots.length
    rw [slot?, List.getElem?_eq_none (Nat.le_refl _), List.getElem?_eq_getElem (by omega)] at hslot
    simp at hslot

theorem isAt_waiting_iff (hi : i < s.pool.slots.length) :
    isAt .waiting s.pool.slots[i] = true ↔ h.begun.length ≤ i := by
  have hslot := hs.slot_eq i
  rw [slot?, List.getElem?_eq_getElem hi, List.getElem?_eq_getElem (hs.length_slots ▸ hi)] at hslot
  rw [Option.some.inj hslot, ← hs.sound.stage_eq_waiting_iff]
  simp [isAt, History.slot]

theorem next?_eq_some_iff :
    s.pool.next? = some i ↔ i = h.begun.length ∧ i < h.accepted.length := by
  rw [next?, List.findIdx?_eq_some_iff_getElem]
  constructor
  · rintro ⟨hi, hwaiting, hbefore⟩
    have hle := (hs.isAt_waiting_iff hi).mp hwaiting
    refine ⟨?_, hs.length_slots ▸ hi⟩
    by_contra hne
    have hlt : h.begun.length < i := by omega
    exact hbefore _ hlt ((hs.isAt_waiting_iff (by omega)).mpr (Nat.le_refl _))
  · rintro ⟨rfl, hlt⟩
    have hi : h.begun.length < s.pool.slots.length := hs.length_slots ▸ hlt
    refine ⟨hi, (hs.isAt_waiting_iff hi).mpr (Nat.le_refl _), fun j hj hwaiting => ?_⟩
    have hle := (hs.isAt_waiting_iff (by omega)).mp hwaiting
    omega

theorem next?_eq_none_iff : s.pool.next? = none ↔ h.begun.length = h.accepted.length := by
  constructor
  · intro hnone
    by_contra hne
    have hlt : h.begun.length < h.accepted.length := by
      have hle := hs.sound.begun_le
      omega
    rw [hs.next?_eq_some_iff.mpr ⟨rfl, hlt⟩] at hnone
    cases hnone
  · intro hall
    cases hnext : s.pool.next? with
    | none => rfl
    | some i =>
        obtain ⟨rfl, hlt⟩ := hs.next?_eq_some_iff.mp hnext
        omega

theorem slot_modify {h' : History} {change : Slot → Slot} (haccepted : h'.accepted = h.accepted)
    (hchange : ∀ task, h'.slot i task = change (h.slot i task))
    (hother : ∀ j task, i ≠ j → h'.slot j task = h.slot j task) (j : Nat) :
    (s.pool.slots.modify i change)[j]? = h'.accepted[j]?.map (h'.slot j) := by
  have hslot : s.pool.slots[j]? = h.accepted[j]?.map (h.slot j) := hs.slot_eq j
  rw [List.getElem?_modify, hslot, haccepted]
  cases h.accepted[j]? with
  | none => rfl
  | some task =>
      by_cases hij : i = j
      · subst hij
        simp [hchange]
      · simp [hij, hother]

/-! ### Moves of the client -/

/-- A move of which nothing is told leaves the pool where it stood. -/
theorem untold (hslots : t.pool.slots = s.pool.slots) (horder : t.pool.order = s.pool.order)
    (haccepting : t.pool.accepting = s.pool.accepting) (hcrew : t.crew = s.crew) :
    t.Follows h where
  sound := hs.sound
  slot_eq i := by
    rw [slot?, hslots]
    exact hs.slot_eq i
  order_eq := horder.trans hs.order_eq
  accepting_eq := haccepting.trans hs.accepting_eq
  posted := hcrew ▸ hs.posted
  left := hs.left

theorem accepts (task : Task) (hopen : h.isClosed = false) :
    State.Follows { s with pool := { s.pool with
        slots := s.pool.slots ++ [⟨task, .waiting, false⟩] } }
      { h with accepted := h.accepted ++ [task] } where
  sound := { hs.sound with
    begun_le := by simpa using Nat.le_succ_of_le hs.sound.begun_le
    value_of_obtained := fun hmem => by
      obtain ⟨hended, other, hother, hvalue⟩ := hs.sound.value_of_obtained hmem
      have hlt := hs.sound.lt_of_mem_begun (hs.sound.begun_of_ended hended)
      exact ⟨hended, other, (List.getElem?_append_left hlt).trans hother, hvalue⟩ }
  slot_eq j := by
    change (s.pool.slots ++ [_])[j]? = (h.accepted ++ [task])[j]?.map (h.slot j)
    rw [List.getElem?_append, List.getElem?_append, hs.length_slots]
    split
    · exact hs.slot_eq j
    · -- the new slot is the one that the history has for a task of which nothing was told
      cases hj : j - h.accepted.length with
      | zero =>
          obtain rfl : j = h.accepted.length := by omega
          simp [hs.sound.slot_length]
      | succ n => rfl
  order_eq := hs.order_eq
  accepting_eq := hs.accepting_eq
  posted := { hs.posted with }
  left hw := by simpa [hopen] using (hs.left hw).1

theorem submits (task : Task) :
    State.Follows { s with pool := (s.pool.submit task).2 }
      (h.add (.submits task (s.pool.submit task).1)) := by
  cases haccepting : s.pool.accepting with
  | false =>
      have hsubmit : s.pool.submit task = (.error .poolShutDown, s.pool) := by
        simp [submit, haccepting]
      rw [hsubmit]
      exact hs
  | true =>
      have hsubmit : s.pool.submit task = (.ok s.pool.slots.length,
          { s.pool with slots := s.pool.slots ++ [⟨task, .waiting, false⟩] }) := by
        simp [submit, haccepting]
      have hopen : h.isClosed = false := by simpa [haccepting] using hs.accepting_eq.symm
      rw [hsubmit]
      exact hs.accepts task hopen

theorem isSpent_iff : s.isSpent i = true ↔ h.isObtained i = true ∧ i ∉ h.released := by
  have htaken : (s.pool.slot? i).any Slot.taken = true ↔ h.isObtained i = true := by
    rw [hs.slot_eq]
    constructor
    · intro hany
      cases htask : h.accepted[i]? with
      | none => simp [htask] at hany
      | some task => simpa [htask, History.slot] using hany
    · intro hobtained
      have hbegun := hs.sound.begun_of_ended (hs.sound.of_isObtained hobtained).1
      rw [List.getElem?_eq_getElem (hs.sound.lt_of_mem_begun hbegun)]
      simpa [History.slot] using hobtained
  rw [State.isSpent, Bool.and_eq_true, htaken, List.contains_iff_mem, List.mem_iff_getElem?,
    hs.posted.closing_iff]
  constructor
  · rintro ⟨hobtained, -, hreleased⟩
    exact ⟨hobtained, hreleased⟩
  · rintro ⟨hobtained, hreleased⟩
    exact ⟨hobtained, (hs.sound.of_isObtained hobtained).1, hreleased⟩

theorem wait_eq {task : Task} (htask : h.accepted[i]? = some task) :
    s.wait i = (h.told i task,
      if h.told i task = .ok (some task.value) then
        { s.pool with slots := s.pool.slots.modify i fun slot => { slot with taken := true } }
      else s.pool) := by
  have hslot : s.pool.slot? i = some (h.slot i task) := by rw [hs.slot_eq, htask]; rfl
  have hspent := hs.isSpent_iff (i := i)
  have hobtained : h.isObtained i = true → i ∈ h.ended ∧ task.panics = false := by
    intro hi
    obtain ⟨hended, other, hother, hpanics⟩ := hs.sound.of_isObtained hi
    obtain rfl : task = other := Option.some.inj (htask.symm.trans hother)
    exact ⟨hended, hpanics⟩
  unfold State.wait take
  rw [hslot]
  simp only [History.slot, History.stage, History.told]
  grind

theorem obtains {task : Task} (htask : h.accepted[i]? = some task)
    (htold : h.told i task = .ok (some task.value)) :
    State.Follows { s with pool := { s.pool with
        slots := s.pool.slots.modify i fun slot => { slot with taken := true } } }
      { h with obtained := h.obtained ++ [(i, task.value)] } where
  sound := { hs.sound with
    obtained_nodup := by
      have hfresh : h.isObtained i = false := by
        unfold History.told at htold
        grind
      rw [List.map_append, List.nodup_append]
      refine ⟨hs.sound.obtained_nodup, by simp, ?_⟩
      rintro j hj j' hj' rfl
      obtain rfl : j = i := by simpa using hj'
      simp [History.isObtained, hj] at hfresh
    value_of_obtained := fun {j value} hmem => by
      rcases List.mem_append.mp hmem with hold | hnew
      · exact hs.sound.value_of_obtained hold
      · obtain ⟨rfl, rfl⟩ : j = i ∧ value = task.value := by simpa using hnew
        unfold History.told at htold
        grind }
  slot_eq := by
    refine hs.slot_modify rfl (fun other => ?_) fun j other hij => ?_
    · simp [History.slot, History.stage, History.isObtained]
    · simp [History.slot, History.stage, History.isObtained, Ne.symm hij]
  order_eq := hs.order_eq
  accepting_eq := hs.accepting_eq
  posted := { hs.posted with }
  left := hs.left

theorem waits (hholds : s.Holds i) :
    State.Follows { s with pool := (s.wait i).2 } (h.add (.waits i (s.wait i).1)) := by
  obtain ⟨task, htask⟩ : ∃ task, h.accepted[i]? = some task :=
    ⟨_, List.getElem?_eq_getElem (hs.length_slots ▸ hholds.1)⟩
  rw [hs.wait_eq htask]
  by_cases htold : h.told i task = .ok (some task.value)
  · rw [if_pos htold, htold]
    exact hs.obtains htask htold
  · rw [if_neg htold]
    rcases h.told_cases i task with hvalue | hnone | hlost
    · exact absurd hvalue htold
    · rw [hnone]
      exact hs
    · rw [hlost]
      exact hs

theorem closes :
    State.Follows { s with pool := s.pool.close, client := .joining } (h.add .closes) where
  sound := { hs.sound with }
  slot_eq := hs.slot_eq
  order_eq := hs.order_eq
  accepting_eq := rfl
  posted := { hs.posted with }
  left hw := ⟨rfl, (hs.left hw).2⟩

/-! ### Moves of the workers -/

theorem begins (hworker : s.crew[w]? = some .idle) (hnext : s.pool.next? = some i) :
    State.Follows
      { s with pool := s.pool.beginAt i, crew := s.crew.set w (.running i) }
      (h.add (.begins i)) := by
  obtain ⟨rfl, hlt⟩ := hs.next?_eq_some_iff.mp hnext
  have hfresh : h.begun.length ∉ h.ended := fun hended =>
    Nat.lt_irrefl _ (hs.sound.mem_begun_iff.mp (hs.sound.begun_of_ended hended))
  exact {
    sound := { hs.sound with
      inOrder := by
        simp only [History.add, List.length_append, List.length_singleton, List.range_succ]
        exact congrArg (· ++ _) hs.sound.inOrder
      begun_le := by simpa [History.add] using Nat.succ_le_of_lt hlt
      begun_of_ended := fun hended =>
        List.mem_append_left _ (hs.sound.begun_of_ended hended) }
    slot_eq := by
      refine hs.slot_modify rfl (fun task => ?_) fun j task hij => ?_
      · simp [History.slot, History.stage_begins hfresh]
      · simp [History.slot, History.stage_begins hfresh, hij]
    order_eq := congrArg (· ++ _) hs.order_eq
    accepting_eq := hs.accepting_eq
    posted := hs.posted.begins hs.sound hworker
    left := fun hw => by
      have hall := (hs.left hw).2
      omega }

theorem ends (hworker : s.crew[w]? = some (.running i)) :
    State.Follows
      { s with pool := s.pool.setStage i .ended, crew := s.crew.set w (.closing i) }
      (h.add (.ends i)) where
  sound := { hs.sound with
    ended_nodup := by
      have hrunning := hs.posted.running_iff.mp ⟨w, hworker⟩
      refine List.nodup_append.mpr ⟨hs.sound.ended_nodup, by simp, ?_⟩
      rintro j hj j' hj' rfl
      obtain rfl : j = i := by simpa using hj'
      exact hrunning.2 hj
    begun_of_ended := fun hended => by
      rcases List.mem_append.mp hended with hold | hnew
      · exact hs.sound.begun_of_ended hold
      · rw [List.mem_singleton.mp hnew]
        exact (hs.posted.running_iff.mp ⟨w, hworker⟩).1
    ended_of_released := fun hreleased =>
      List.mem_append_left _ (hs.sound.ended_of_released hreleased)
    value_of_obtained := fun hmem => by
      obtain ⟨hended, htask⟩ := hs.sound.value_of_obtained hmem
      exact ⟨List.mem_append_left _ hended, htask⟩ }
  slot_eq := by
    refine hs.slot_modify rfl (fun task => ?_) fun j task hij => ?_
    · simp [History.slot, History.stage_ends]
    · simp [History.slot, History.stage_ends, hij]
  order_eq := hs.order_eq
  accepting_eq := hs.accepting_eq
  posted := hs.posted.ends hs.sound hworker
  left := hs.left

theorem releases (hworker : s.crew[w]? = some (.closing i)) (records : List Log.Record) :
    State.Follows { s with crew := s.crew.set w .idle } (h.add (.releases i records)) where
  sound := { hs.sound with
    released_nodup := by
      have hclosing := hs.posted.closing_iff.mp ⟨w, hworker⟩
      refine List.nodup_append.mpr ⟨hs.sound.released_nodup, by simp, ?_⟩
      rintro j hj j' hj' rfl
      obtain rfl : j = i := by simpa using hj'
      exact hclosing.2 hj
    ended_of_released := fun hreleased => by
      rcases List.mem_append.mp hreleased with hold | hnew
      · exact hs.sound.ended_of_released hold
      · rw [List.mem_singleton.mp hnew]
        exact (hs.posted.closing_iff.mp ⟨w, hworker⟩).1 }
  slot_eq := hs.slot_eq
  order_eq := hs.order_eq
  accepting_eq := hs.accepting_eq
  posted := hs.posted.releases hworker records
  left := hs.left

theorem leaves (hworker : s.crew[w]? = some .idle) (hclosed : s.pool.accepting = false)
    (hempty : s.pool.next? = none) :
    State.Follows { s with crew := s.crew.set w .gone } (h.add (.leaves w)) where
  sound := { hs.sound with
    left_nodup := by
      refine List.nodup_append.mpr ⟨hs.sound.left_nodup, by simp, ?_⟩
      rintro v hv v' hv' rfl
      obtain rfl : v = w := by simpa using hv'
      have hgone := hs.posted.gone_iff.mpr hv
      rw [hworker] at hgone
      cases hgone }
  slot_eq := hs.slot_eq
  order_eq := hs.order_eq
  accepting_eq := hs.accepting_eq
  posted := hs.posted.leaves hworker
  left _ := by
    have hclosed : h.isClosed = true := by simpa [hclosed] using hs.accepting_eq.symm
    exact ⟨hclosed, hs.next?_eq_none_iff.mp hempty⟩

end State.Follows

/-! ## Moves and runs -/

/-- Whatever the client or a worker does, the pool stands where its history takes it. -/
theorem Move.follows (hmove : Move s e t) (hs : s.Follows h) : t.Follows (h.add e) := by
  cases hmove with
  | submits task _ => exact hs.submits task
  | drops _ _ | returns _ _ | opens => exact hs.untold rfl rfl rfl rfl
  | waits _ hholds => exact hs.waits hholds
  | closes _ => exact hs.closes
  | begins hworker hnext => exact hs.begins hworker hnext
  | ends hworker _ _ => exact hs.ends hworker
  | releases hworker _ => exact hs.releases hworker _
  | leaves hworker hclosed hempty => exact hs.leaves hworker hclosed hempty

theorem Run.follows {es : List Event} (hrun : Run workers es s) : s.Follows (.of es) := by
  induction hrun with
  | start => exact .start
  | move _ hmove ih =>
      rw [History.of_append]
      exact hmove.follows ih

end SprayWatch.Pool
