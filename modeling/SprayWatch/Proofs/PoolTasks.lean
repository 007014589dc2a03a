import Mathlib.Data.List.Perm.Subperm
import Mathlib.Tactic.Tauto
import SprayWatch.Proofs.PoolRuns

/-!
# What a pool promises

Whatever the client and the workers do, tasks are begun in the order in which they were accepted,
and each runs once.  A value goes to the holder of its handle, once; a panic costs its own task
only.  A pool that is shut down finishes what it has accepted and accepts nothing more.

That each task does run is shown in two steps.  As long as one has not ended, some worker has a move
to make, unless tasks are held at the gate; and the moves of the workers in a run are bounded by
what was accepted.  So workers who keep moving bring every task to its end.
-/

namespace SprayWatch.Pool

variable {workers : Nat} {h : History} {s t : State} {e : Event} {es : List Event}

/-! ## Workers at rest -/

namespace State

/-- No task is held at the gate. -/
def Ungated (s : State) : Prop :=
  s.pool.gateOpen = true ∨ ∀ slot ∈ s.pool.slots, slot.task.gated = false

/-- No worker has a move to make. -/
def Rests (s : State) : Prop := ∀ e t, Move s e t → e.isWorkers = false

namespace Follows

variable {i w : Nat} {worker : Worker} (hs : s.Follows h)
include hs

theorem slot?_of_mem_begun (hi : i ∈ h.begun) :
    ∃ task, h.accepted[i]? = some task ∧ s.pool.slot? i = some (h.slot i task) := by
  have htask := List.getElem?_eq_getElem (hs.sound.lt_of_mem_begun hi)
  exact ⟨_, htask, by rw [hs.slot_eq, htask]; rfl⟩

theorem mayEnd_of_running (hungated : s.Ungated) (hworker : s.crew[w]? = some (.running i)) :
    ∃ slot, s.pool.slot? i = some slot ∧ s.pool.mayEnd slot = true := by
  obtain ⟨hbegun, hended⟩ := hs.posted.running_iff.mp ⟨w, hworker⟩
  obtain ⟨task, -, hslot⟩ := hs.slot?_of_mem_begun hbegun
  have hpasses : (!task.gated || s.pool.gateOpen) = true := by
    rcases hungated with hopen | hnone
    · simp [hopen]
    · simp [show task.gated = false from hnone _ (List.mem_of_getElem? hslot)]
  refine ⟨_, hslot, ?_⟩
  simp [mayEnd, isAt, History.slot, History.stage, hbegun, hended, hpasses]

/-- A worker has a move to make, unless it has left, or it stands idle and nothing waits for it. -/
theorem exists_move (hungated : s.Ungated) (hworker : s.crew[w]? = some worker)
    (hhere : worker ≠ .gone)
    (hwork : worker = .idle → s.pool.next? ≠ none ∨ s.pool.accepting = false) :
    ∃ e t, Move s e t ∧ e.isWorkers = true := by
  cases worker with
  | idle =>
      cases hnext : s.pool.next? with
      | some i => exact ⟨_, _, .begins hworker hnext, rfl⟩
      | none =>
          have hclosed := (hwork rfl).resolve_left fun hsome => hsome hnext
          exact ⟨_, _, .leaves hworker hclosed hnext, rfl⟩
  | running i =>
      obtain ⟨slot, hslot, hmayEnd⟩ := hs.mayEnd_of_running hungated hworker
      exact ⟨_, _, .ends hworker hslot hmayEnd, rfl⟩
  | closing i =>
      have hended := (hs.posted.closing_iff.mp ⟨w, hworker⟩).1
      obtain ⟨task, -, hslot⟩ := hs.slot?_of_mem_begun (hs.sound.begun_of_ended hended)
      exact ⟨_, _, .releases hworker hslot, rfl⟩
  | gone => exact absurd rfl hhere

theorem worker_of_rests (hungated : s.Ungated) (hrests : s.Rests)
    (hworker : s.crew[w]? = some worker) :
    worker = .gone ∨ worker = .idle ∧ s.pool.next? = none ∧ s.pool.accepting = true := by
  by_contra hnot
  obtain ⟨e, t, hmove, hworkers⟩ := hs.exists_move hungated hworker (by tauto) (by
    intro hidle
    by_contra hnothing
    simp only [not_or, not_not, Bool.not_eq_false] at hnothing
    exact hnot (.inr ⟨hidle, hnothing⟩))
  rw [hrests e t hmove] at hworkers
  cases hworkers

/-- All that was accepted has ended, once, when all of it was begun and no worker is at it. -/
theorem ended_perm (hall : h.begun.length = h.accepted.length)
    (hnone : ∀ i w : Nat, s.crew[w]? ≠ some (.running i)) :
    h.ended.Perm (List.range h.accepted.length) := by
  rw [List.perm_ext_iff_of_nodup hs.sound.ended_nodup List.nodup_range]
  intro i
  rw [List.mem_range, ← hall, ← hs.sound.mem_begun_iff]
  refine ⟨hs.sound.begun_of_ended, fun hbegun => ?_⟩
  by_contra hended
  obtain ⟨w, hw⟩ := hs.posted.running_iff.mpr ⟨hbegun, hended⟩
  exact hnone i w hw

theorem ended_of_rests (hcrew : 0 < s.crew.length) (hungated : s.Ungated) (hrests : s.Rests) :
    h.ended.Perm (List.range h.accepted.length) := by
  have hresting {w : Nat} {worker : Worker} (hw : s.crew[w]? = some worker) :=
    hs.worker_of_rests hungated hrests hw
  refine hs.ended_perm ?_ fun i w hw => ?_
  -- the first worker, idle or gone, leaves nothing that waits
  · rcases hresting (List.getElem?_eq_getElem hcrew) with hgone | ⟨-, hnext, -⟩
    · have hleft := hs.posted.gone_iff.mp ((List.getElem?_eq_getElem hcrew).trans
        (congrArg some hgone))
      exact (hs.left hleft).2
    · exact hs.next?_eq_none_iff.mp hnext
  · simpa using hresting hw

theorem ended_of_gone (hcrew : 0 < s.crew.length) (hgone : ∀ worker ∈ s.crew, worker = .gone) :
    h.ended.Perm (List.range h.accepted.length) := by
  have hleft {w : Nat} {worker : Worker} (hw : s.crew[w]? = some worker) : worker = .gone :=
    hgone worker (List.mem_of_getElem? hw)
  refine hs.ended_perm ?_ fun i w hw => by cases hleft hw
  have hfirst := List.getElem?_eq_getElem hcrew
  exact (hs.left (hs.posted.gone_iff.mp (hfirst.trans (congrArg some (hleft hfirst))))).2

end Follows

end State

/-! ## The moves of the workers are bounded -/

theorem Move.length_crew (hmove : Move s e t) : t.crew.length = s.crew.length := by
  cases hmove <;> simp

theorem Run.length_crew (hrun : Run workers es s) : s.crew.length = max workers 1 := by
  induction hrun with
  | start => simp [State.start]
  | move _ hmove ih => rw [hmove.length_crew, ih]

/-- Each task takes three moves of a worker, and each worker leaves at most once. -/
theorem Run.countP_isWorkers_le (hrun : Run workers es s) :
    es.countP Event.isWorkers ≤ 3 * (History.of es).accepted.length + max workers 1 := by
  have hs := hrun.follows
  have hlength {xs : List Nat} {n : Nat} (hnodup : xs.Nodup) (hlt : ∀ x ∈ xs, x < n) :
      xs.length ≤ n := by
    have hsubset : xs ⊆ List.range n := fun x hx => List.mem_range.mpr (hlt x hx)
    simpa using (hnodup.subperm hsubset).length_le
  have hended := hlength hs.sound.ended_nodup fun i hi =>
    hs.sound.lt_of_mem_begun (hs.sound.begun_of_ended hi)
  have hreleased := hlength hs.sound.released_nodup fun i hi =>
    hs.sound.lt_of_mem_begun (hs.sound.begun_of_ended (hs.sound.ended_of_released hi))
  have hleft := hlength hs.sound.left_nodup fun w hw =>
    (List.getElem?_eq_some_iff.mp (hs.posted.gone_iff.mpr hw)).1
  have hbegun := hs.sound.begun_le
  rw [hrun.length_crew] at hleft
  rw [Event.countP_isWorkers]
  omega

/-! ## What waits and submits return -/

/-- What a wait returns: the value, if the task has left one that was not obtained yet; that the
task is lost, if it has panicked, or if it is over and its value was obtained; and otherwise
nothing. -/
theorem State.Follows.wait_returns (hs : s.Follows h) {i : Nat}
    {result : Except Failure (Option Nat)} (hmove : Move s (.waits i result) t) :
    ∃ task, h.accepted[i]? = some task ∧ result = h.told i task ∧ (result = .ok none → t = s) := by
  cases hmove with
  | waits hclient hholds =>
      have htask := List.getElem?_eq_getElem (hs.length_slots ▸ hholds.1)
      refine ⟨_, htask, by rw [hs.wait_eq htask], fun hnone => ?_⟩
      rw [hs.wait_eq htask] at hnone ⊢
      simp [show h.told i _ = .ok none from hnone]

theorem History.told_of_released (hh : h.Sound) {i : Nat} (hi : i ∈ h.released) (task : Task) :
    h.told i task =
      if task.panics = true ∨ i ∈ h.obtained.map Prod.fst then .error .taskLost
      else .ok (some task.value) := by
  have hended := hh.ended_of_released hi
  unfold told isObtained
  grind

theorem History.told_of_panics (h : History) {i : Nat} (hi : i ∈ h.ended) {task : Task}
    (hpanics : task.panics = true) : h.told i task = .error .taskLost := by
  simp [told, hi, hpanics]

theorem History.told_of_fresh (h : History) {i : Nat} (hi : i ∈ h.ended) {task : Task}
    (hpanics : task.panics = false) (hfresh : i ∉ h.obtained.map Prod.fst) :
    h.told i task = .ok (some task.value) := by
  have hfresh : h.isObtained i = false := decide_eq_false hfresh
  simp [told, hi, hpanics, hfresh]

theorem State.Follows.submit_returns (hs : s.Follows h) {task : Task} {result : Except Failure Nat}
    (hmove : Move s (.submits task result) t) :
    if h.isClosed then result = .error .poolShutDown ∧ t = s
    else result = .ok h.accepted.length := by
  have haccepting := hs.accepting_eq
  cases hmove with
  | submits task hclient =>
      cases hclosed : h.isClosed with
      | true => simp [submit, haccepting, hclosed]
      | false => simp [submit, haccepting, hclosed, hs.length_slots]

/-! ## Runs of a pool -/

/-- In every run: tasks are begun in the order of their acceptance; none ends twice, and workers who
come to rest, as they must, have ended each of them; a value is obtained at most once, and it is
that of the handle's task; a wait that gave nothing leaves all as it was, and a wait for a task that
is over is told that the task is lost exactly when it has panicked or its value was obtained; no
worker leaves before the pool is closed and everything is begun; a shutdown returns when everything
has ended, once; and a task that is submitted to a closed pool is turned away and leaves no
trace. -/
theorem Run.tasks_run_once (hrun : Run workers es s) :
    let h := History.of es
    (s.pool.order = h.begun ∧ h.begun = List.range h.begun.length ∧
      h.begun.length ≤ h.accepted.length) ∧
    (h.ended.Nodup ∧ ∀ i ∈ h.ended, i ∈ h.begun) ∧
    (es.countP Event.isWorkers ≤ 3 * h.accepted.length + max workers 1 ∧
      (s.Ungated → s.Rests → h.ended.Perm (List.range h.accepted.length))) ∧
    ((h.obtained.map Prod.fst).Nodup ∧
      ∀ i value, (i, value) ∈ h.obtained → i ∈ h.ended ∧
        ∃ task, h.accepted[i]? = some task ∧ task.panics = false ∧ task.value = value) ∧
    (∀ i result t, Move s (.waits i result) t →
      ∃ task, h.accepted[i]? = some task ∧
        (result = .ok none → t = s) ∧
        (i ∈ h.ended → (task.panics = true → result = .error .taskLost) ∧
          (task.panics = false → i ∉ h.obtained.map Prod.fst →
            result = .ok (some task.value))) ∧
        (i ∈ h.released → result =
          if task.panics = true ∨ i ∈ h.obtained.map Prod.fst then .error .taskLost
          else .ok (some task.value))) ∧
    (s.crew.length = max workers 1 ∧
      ∀ w : Nat, s.crew[w]? = some .gone →
        .closes ∈ es ∧ h.begun.length = h.accepted.length) ∧
    (∀ t, Move s .returns t → h.ended.Perm (List.range h.accepted.length)) ∧
    (∀ task result t, Move s (.submits task result) t →
      (.closes ∈ es → result = .error .poolShutDown ∧ t = s) ∧
      (.closes ∉ es → result = .ok h.accepted.length)) := by
  intro h
  have hs : s.Follows h := hrun.follows
  have hlength := hrun.length_crew
  have hcrew : 0 < s.crew.length := by omega
  refine ⟨⟨hs.order_eq, hs.sound.inOrder, hs.sound.begun_le⟩,
    ⟨hs.sound.ended_nodup, fun i => hs.sound.begun_of_ended⟩,
    ⟨hrun.countP_isWorkers_le, hs.ended_of_rests hcrew⟩,
    ⟨hs.sound.obtained_nodup, fun i value => hs.sound.value_of_obtained⟩,
    fun i result t hmove => ?_, ⟨hlength, fun w hgone => ?_⟩, fun t hmove => ?_,
    fun task result t hmove => ?_⟩
  · obtain ⟨task, htask, rfl, hsame⟩ := hs.wait_returns hmove
    exact ⟨task, htask, hsame, fun hended => ⟨h.told_of_panics hended, h.told_of_fresh hended⟩,
      fun hreleased => h.told_of_released hs.sound hreleased task⟩
  · obtain ⟨hclosed, hall⟩ := hs.left (hs.posted.gone_iff.mp hgone)
    exact ⟨(History.isClosed_of es).mp hclosed, hall⟩
  · cases hmove with
    | returns hclient hgone => exact hs.ended_of_gone hcrew hgone
  · have hsubmit := hs.submit_returns hmove
    rw [← History.isClosed_of es]
    cases hclosed : h.isClosed <;> simp_all [h]

/-- A day at a pool of one worker: a task breaks down, the handle of another is dropped, and a first
wait for the value of the third comes too early. -/
def day : List Event :=
  [.submits ⟨0, true, false⟩ (.ok 0), .submits ⟨7, false, false⟩ (.ok 1),
    .submits ⟨9, false, false⟩ (.ok 2), .drops 2, .begins 0, .waits 1 (.ok none), .ends 0,
    .releases 0 [.of .error "pool" ["Worker task panicked"]], .waits 0 (.error .taskLost),
    .begins 1, .ends 1, .waits 1 (.ok (some 7)), .releases 1 [], .waits 1 (.error .taskLost),
    .closes, .begins 2, .ends 2, .releases 2 [], .leaves 0]

theorem run_day : ∃ s, Run 0 day s ∧ ∃ t, Move s .returns t := by
  have hrun := (Run.start : Run 0 [] _).move (.submits ⟨0, true, false⟩ rfl)
  have hrun := hrun.move (.submits ⟨7, false, false⟩ rfl)
  have hrun := hrun.move (.submits ⟨9, false, false⟩ rfl)
  have hrun := hrun.move (@Move.drops _ 2 rfl ⟨by decide, by decide⟩)
  have hrun := hrun.move (@Move.begins _ 0 0 rfl rfl)
  have hrun := hrun.move (@Move.waits _ 1 rfl ⟨by decide, by decide⟩)
  have hrun := hrun.move (@Move.ends _ 0 0 _ rfl rfl rfl)
  have hrun := hrun.move (@Move.releases _ 0 0 _ rfl rfl)
  have hrun := hrun.move (@Move.waits _ 0 rfl ⟨by decide, by decide⟩)
  have hrun := hrun.move (@Move.begins _ 0 1 rfl rfl)
  have hrun := hrun.move (@Move.ends _ 0 1 _ rfl rfl rfl)
  have hrun := hrun.move (@Move.waits _ 1 rfl ⟨by decide, by decide⟩)
  have hrun := hrun.move (@Move.releases _ 0 1 _ rfl rfl)
  have hrun := hrun.move (@Move.waits _ 1 rfl ⟨by decide, by decide⟩)
  have hrun := hrun.move (.closes rfl)
  have hrun := hrun.move (@Move.begins _ 0 2 rfl rfl)
  have hrun := hrun.move (@Move.ends _ 0 2 _ rfl rfl rfl)
  have hrun := hrun.move (@Move.releases _ 0 2 _ rfl rfl)
  have hrun := hrun.move (@Move.leaves _ 0 rfl rfl rfl)
  exact ⟨_, hrun, _, .returns rfl (by decide)⟩

/-- At the end of the day every task has run once, one value was obtained, and from then on tasks
are turned away. -/
theorem Run.tasks_run_once_day :
    ∃ s t, Run 0 day s ∧ Move s .returns t ∧
      (History.of day).ended.Perm (List.range 3) ∧ (History.of day).obtained = [(1, 7)] ∧
      ∀ task, ∃ u, Move t (.submits task (.error .poolShutDown)) u := by
  obtain ⟨s, hrun, t, hreturns⟩ := run_day
  obtain ⟨-, -, -, -, -, -, hended, -⟩ := Run.tasks_run_once hrun
  refine ⟨s, t, hrun, hreturns, hended t hreturns, rfl, fun task => ?_⟩
  obtain ⟨-, -, -, -, -, -, -, hturned⟩ := Run.tasks_run_once (hrun.move hreturns)
  have hfree : t.client = .free := by cases hreturns; rfl
  have hmove := Move.submits task hfree
  have hresult := ((hturned _ _ _ hmove).1 (by simp [day])).1
  rw [hresult] at hmove
  exact ⟨_, hmove⟩

end SprayWatch.Pool
