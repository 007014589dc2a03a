import SprayWatch.Proofs.SupervisionRuns

/-!
# How soon an exit is noticed

Whether a process has exited is looked at only in a round that gets no line.  So an exit is noticed
and reported in time when such rounds come often enough.  While one line follows another the process
is not looked at: it can then be taken for one whose time is over, though it has long exited, and
its output is taken for as long as it comes.
-/

namespace SprayWatch.Supervision

variable {w v : Watching} {r : Round} {deeds more : List Deed} {f : Finish} {asked : Nat}
  {looks : List Look} {rounds before rest : List Round} {deadline status moment gap last : Nat}

/-! ## Rounds at a process that exits -/

/-- No stop is raised, and the process exits with a status at a moment. -/
structure Round.Shows (r : Round) (status moment : Nat) : Prop where
  calm : r.stopRaised = false
  clock_le : r.clock ≤ r.seen
  seen_le : r.seen ≤ r.later
  exit_eq : r.exit = .ok (if moment ≤ r.seen then some status else none)

/-- When the process was last looked at: in a round that gets a line it is not. -/
def Round.lastLook (r : Round) (last : Nat) : Nat :=
  if r.heard.line? = none then r.seen else last

/-- The looks come at most so far apart, the first as far after the last one before. -/
def Paced (gap : Nat) : Nat → List Round → Prop
  | _, [] => True
  | last, r :: rs => r.seen ≤ last + gap ∧ Paced gap (r.lastLook last) rs

instance decidablePaced (gap : Nat) : ∀ last rounds, Decidable (Paced gap last rounds)
  | _, [] => isTrue trivial
  | last, r :: rs =>
    have := decidablePaced gap (r.lastLook last) rs
    inferInstanceAs (Decidable (_ ∧ _))

theorem Paced.of_append (hpaced : Paced gap last (before ++ rest)) : Paced gap last before := by
  induction before generalizing last with
  | nil => trivial
  | cons r before ih => exact ⟨hpaced.1, ih hpaced.2⟩

namespace Watching

/-! ## While one line follows another -/

/-- As long as lines come in before the deadline, nothing is learnt of the process. -/
theorem passes_lines (hopen : w.isOpen = true)
    (hlines : ∀ r ∈ rounds, r.stopRaised = false ∧ r.clock < w.deadline ∧
      ∃ l, r.heard = .line l) :
    w.Passes rounds (rounds.filterMap fun r => r.heard.line?.map .took) w := by
  induction rounds with
  | nil => exact .nil w
  | cons r rounds ih =>
      obtain ⟨hcalm, hearly, l, hline⟩ := hlines r List.mem_cons_self
      have hround : w.round r = ([.took l], .goesOn w) :=
        round_of_line (by simp [Admits, hcalm, hearly])
          (by simp [receive?, hopen, hline])
      have hrest := ih fun r' hr' => hlines r' (List.mem_cons_of_mem _ hr')
      simpa [hline, Heard.line?] using Passes.cons hround hrest

/-- The time is over at the end of such lines, however long ago the process has exited. -/
theorem run_timedOut_of_lines (hlines : ∀ r ∈ rounds, r.stopRaised = false ∧ r.clock < deadline ∧
      ∃ l, r.heard = .line l) (hcalm : r.stopRaised = false) (hlate : deadline ≤ r.clock) :
    ((start deadline).run asked looks (rounds ++ r :: rest)).2 = some .timedOut := by
  have hpasses : (start deadline).Passes rounds _ (start deadline) := passes_lines rfl hlines
  have hround : (start deadline).round r = ([], .finished .timedOut) :=
    round_of_opening (by simp [opening?, start, hcalm, hlate])
  rw [hpasses.run_append, run, hround]

/-- A line that comes in after the time is over, of a process that has exited before. -/
def lateLine : List Round :=
  [⟨false, 0, .line "late", .ok (some 0), 22, 22⟩, ⟨false, 22, .nothing, .ok (some 0), 72, 72⟩]

/-- Lines that come in one after the other, each sooner than a tick. -/
def chatter (lines : Nat) : List Round :=
  (List.range lines).map fun k =>
    ⟨false, 40 * k, .line "more", .ok (some 0), 40 * k + 40, 40 * k + 40⟩

theorem shows_chatter (lines : Nat) : ∀ r ∈ chatter lines, r.Shows 0 2 := by
  intro r hr
  obtain ⟨k, -, rfl⟩ := List.mem_map.mp hr
  constructor <;> simp

/-- A process that exits in time is taken for one whose time is over, and the output of another is
taken when the time of grace and two ticks are over. -/
theorem exit_unnoticed :
    ((∀ r ∈ lateLine, r.Shows 0 2) ∧ 2 < 10 ∧
      ((start 10).run 22 [] lateLine).2.map Finish.ending = some (.exited .watchdogKilled)) ∧
    (∀ r ∈ chatter 20, r.Shows 0 2) ∧ 2 < 1000 ∧
      ∃ r, chatter 20 = chatter 19 ++ [r] ∧ 2 + drainGrace + 2 * tick < r.clock ∧
        (start 1000).run 0 [] (chatter 20) =
          (((start 1000).run 0 [] (chatter 19)).1 ++ [.took "more"], none) := by
  refine ⟨⟨?_, by decide, ?_⟩, shows_chatter 20, by decide, _, rfl, by decide, by decide⟩
  · simp only [lateLine, List.mem_cons, List.not_mem_nil, or_false]
    rintro r (rfl | rfl) <;> constructor <;> simp
  · have hlines : lateLine =
        [⟨false, 0, .line "late", .ok (some 0), 22, 22⟩] ++
          [⟨false, 22, .nothing, .ok (some 0), 72, 72⟩] := rfl
    rw [hlines, run_timedOut_of_lines (by simp) rfl (by decide)]
    rfl

/-! ## When pauses come often enough -/

/-- What has been noticed of the exit by the last look: nothing, if that came before the exit; else
it was noticed within the gap, and the time of grace was not over. -/
structure Notices (v : Watching) (moment gap last : Nat) : Prop where
  unseen : v.exit = none → last ≤ moment
  seen {s m : Nat} : v.exit = some (s, m) → m ≤ moment + gap ∧ last < m + drainGrace

theorem notices_start : (start deadline).Notices moment gap 0 where
  unseen _ := Nat.zero_le _
  seen hexit := by simp [start] at hexit

theorem Notices.round (hnotices : w.Notices moment gap last) (hshows : r.Shows status moment)
    (hsoon : r.seen ≤ last + gap) (hround : w.round r = (more, .goesOn v)) :
    v.Notices moment gap (r.lastLook last) := by
  generalize hverdict : Verdict.goesOn v = verdict at hround
  cases plays_of_round_eq hround with
  | stops | timesOut | keeps | fails => cases hverdict
  | @takes l _ hline =>
      cases hverdict
      have hlast : r.lastLook last = last := by
        unfold receive? at hline
        simp_all [Round.lastLook, Heard.line?]
      rwa [hlast]
  | @drains s m _ _ hexit =>
      -- the supervision goes on, so the time of grace was not over at the end of the round
      have hseen := (heed_exit w (w.receive? r)).trans hexit
      have hlater := lt_of_closing_eq_goesOn hseen hverdict.symm
      obtain rfl := closing_eq_goesOn hverdict.symm
      obtain ⟨hle, hgrace⟩ := hnotices.seen hexit
      have hend := hshows.seen_le
      refine ⟨fun hnone => by simp [hexit] at hnone, fun {s' m'} hexit' => ⟨?_, ?_⟩⟩
      all_goals obtain ⟨-, rfl⟩ : s = s' ∧ m = m' := by simpa [hexit] using hexit'
      · exact hle
      · unfold Round.lastLook
        split <;> omega
  | waits _ _ hexit hlook =>
      cases hverdict
      have hlast := hnotices.unseen hexit
      have hearly : r.seen < moment := by simpa [hshows.exit_eq] using hlook
      refine ⟨fun _ => ?_, fun hsome => by simp [hexit] at hsome⟩
      unfold Round.lastLook
      split <;> omega
  | @sees s _ _ hexit hlook =>
      -- the look before came too early, and this one comes at most a gap later
      obtain rfl := closing_eq_goesOn hverdict.symm
      have hlast := hnotices.unseen hexit
      have hlate : moment ≤ r.seen ∧ status = s := by simpa [hshows.exit_eq] using hlook
      refine ⟨fun hnone => by simp at hnone, fun {s' m'} hexit' => ⟨?_, ?_⟩⟩
      all_goals obtain ⟨-, rfl⟩ : s = s' ∧ r.seen = m' := by simpa using hexit'
      · omega
      · unfold Round.lastLook drainGrace
        split <;> omega

theorem Passes.notices (hpasses : w.Passes rounds deeds v) (hnotices : w.Notices moment gap last)
    (hshows : ∀ r ∈ rounds, r.Shows status moment) (hpaced : Paced gap last (rounds ++ rest)) :
    ∃ last', v.Notices moment gap last' ∧ Paced gap last' rest := by
  induction hpasses generalizing last with
  | nil => exact ⟨last, hnotices, hpaced⟩
  | cons hround _ ih =>
      have hstep := hnotices.round (hshows _ List.mem_cons_self) hpaced.1 hround
      exact ih hstep (fun r' hr' => hshows r' (List.mem_cons_of_mem _ hr')) hpaced.2

theorem Passes.seen_le_of_unseen (hpasses : (start deadline).Passes before deeds v)
    (hshows : ∀ r ∈ before, r.Shows status moment) (hpaced : Paced gap 0 (before ++ r :: rest))
    (hexit : v.exit = none) : r.seen ≤ moment + gap := by
  obtain ⟨last, hnotices, hsoon, -⟩ := hpasses.notices notices_start hshows hpaced
  have hlast := hnotices.unseen hexit
  omega

/-- No round is played later after the exit than the time of grace and two gaps. -/
theorem Passes.seen_le (hpasses : (start deadline).Passes before deeds v)
    (hshows : ∀ r ∈ before, r.Shows status moment) (hpaced : Paced gap 0 (before ++ r :: rest)) :
    r.seen ≤ moment + drainGrace + 2 * gap := by
  obtain ⟨last, hnotices, hsoon, -⟩ := hpasses.notices notices_start hshows hpaced
  rcases hexit : v.exit with _ | ⟨s, m⟩
  · have hlast := hnotices.unseen hexit
    omega
  · obtain ⟨hm, hgrace⟩ := hnotices.seen hexit
    omega

theorem run_append_of_finished (hfinished : (w.run asked looks before).2 = some f) :
    w.run asked looks (before ++ rest) = w.run asked looks before := by
  induction before generalizing w with
  | nil => simp [run] at hfinished
  | cons r before ih =>
      rcases hround : w.round r with ⟨deeds, g | v⟩
      · simp [run, hround]
      · have hrest : (v.run asked looks before).2 = some f := by
          simpa [run, hround] using hfinished
        simp [run, hround, ih hrest]

/-- A supervision that is never without a look for longer than a gap, of a process that exits before
its time is over, ends with nothing but the status of the process. -/
theorem run_eq_exited (hshows : ∀ r ∈ rounds, r.Shows status moment) (hpaced : Paced gap 0 rounds)
    (htime : moment + gap < deadline)
    (hfinished : ((start deadline).run asked looks rounds).2 = some f) : f = .exited status := by
  rcases run_start_cases deadline asked looks rounds with ⟨deeds, v, -, -, hrun⟩ |
    ⟨before, r, after, done, v, known, u, g, rfl, hpasses, hends, -, haccounts, hrun⟩
  · simp [hrun] at hfinished
  · obtain rfl : g = f := by simpa [hrun] using hfinished
    have hr : r.Shows status moment := hshows r (by simp)
    cases hends with
    | stopped hstop _ => simp [hr.calm] at hstop
    | timedOut _ hexit hlate =>
        have hsoon := hpasses.seen_le_of_unseen
          (fun r' hr' => hshows r' (List.mem_append_left _ hr')) hpaced hexit
        have hdeadline : v.deadline = deadline := hpasses.deadline_eq
        have hclock := hr.clock_le
        omega
    | @exited u s m hexit hgrace =>
        have hsaw : .saw s m ∈ ((start deadline).run asked looks (before ++ r :: after)).1 := by
          simp [hrun, haccounts.saw_iff.mpr hexit]
        obtain ⟨look, hmem, hlook, -⟩ := run_saw hsaw hfinished
        rw [(hshows look hmem).exit_eq] at hlook
        obtain ⟨-, rfl⟩ : moment ≤ look.seen ∧ status = s := by simpa using hlook
        rfl
    | unseen _ hlook => simp [hr.exit_eq] at hlook

/-- The exit of a process is reported in time when the looks come often enough: whatever the output,
the supervision ends with the status of the process, and it has ended before any round that begins
later after the exit than the time of grace and two gaps. -/
theorem run_prompt (hshows : ∀ r ∈ rounds, r.Shows status moment) (hpaced : Paced gap 0 rounds)
    (htime : moment + gap < deadline) :
    let run := (start deadline).run asked looks
    (∀ f, (run rounds).2 = some f → f = .exited status) ∧
    ∀ before r after, rounds = before ++ r :: after →
      moment + drainGrace + 2 * gap < r.clock →
        (run before).2 = some (.exited status) ∧ run rounds = run before := by
  intro run
  refine ⟨fun f => run_eq_exited hshows hpaced htime, ?_⟩
  rintro before r after rfl hlate
  have hbefore : ∀ r' ∈ before, r'.Shows status moment := fun r' hr' =>
    hshows r' (List.mem_append_left _ hr')
  cases hfinished : (run before).2 with
  | some f =>
      obtain rfl := run_eq_exited hbefore hpaced.of_append htime hfinished
      exact ⟨rfl, run_append_of_finished hfinished⟩
  | none =>
      rcases (start deadline).run_cases asked looks before with ⟨deeds, v, hpasses, -⟩ |
        ⟨_, _, _, _, _, _, f, -, -, -, hrun⟩
      · have hsoon := hpasses.seen_le hbefore hpaced
        have hclock := (hshows r (by simp)).clock_le
        omega
      · simp [run, hrun] at hfinished

/-- A conversation at an open output, with a pause in every tick: a line comes in each of them. -/
def conversation (ticks : Nat) : List Round :=
  (List.range ticks).flatMap fun k =>
    [⟨false, 50 * k, .line "more", .ok (some 0), 50 * k + 20, 50 * k + 20⟩,
      ⟨false, 50 * k + 20, .nothing, .ok (some 0), 50 * k + 50, 50 * k + 50⟩]

theorem shows_conversation (ticks : Nat) : ∀ r ∈ conversation ticks, r.Shows 0 2 := by
  intro r hr
  obtain ⟨k, -, hk⟩ := List.mem_flatMap.mp hr
  simp only [List.mem_cons, List.not_mem_nil, or_false] at hk
  rcases hk with rfl | rfl <;> constructor <;> simp

theorem run_prompt_conversation :
    ((start 1000).run 0 [] (conversation 13)).2 = some (.exited 0) := by
  have hpaced : Paced tick 0 (conversation 14) := by decide
  have htime : 2 + tick < 1000 := by decide
  exact ((run_prompt (shows_conversation 14) hpaced htime).2 (conversation 13) _ _ rfl
    (by decide)).1

end Watching

end SprayWatch.Supervision
