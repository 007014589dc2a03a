import SprayWatch.Proofs.SupervisionRounds

/-!
# Runs of a supervision

A run passes through rounds until one of them ends it.  What was done by then is what is known, so
the end tells what has happened: the process was told to end only if its exit was not seen, its exit
is reported only if it was seen, and output is left aside only after the time of grace, or when it
is closed and all of it was taken.
-/

namespace SprayWatch.Supervision

variable {w v : Watching} {r : Round} {deeds more : List Deed} {f : Finish} {asked : Nat}
  {looks : List Look} {rounds rest : List Round}

/-! ## Processes that must end -/

theorem awaitEnd_cases (deadline : Nat) (looks : List Look) :
    awaitEnd deadline looks = [] ∨ (∃ s m, awaitEnd deadline looks = [.saw s m]) ∨
      awaitEnd deadline looks = [.told .kill] := by
  induction looks with
  | nil => exact .inl rfl
  | cons l ls ih =>
      rw [awaitEnd]
      split
      · rcases l.exit with fault | _ | s
        · exact .inr (.inr rfl)
        · exact ih
        · exact .inr (.inl ⟨s, l.clock, rfl⟩)
      · exact .inr (.inr rfl)

/-- What is done never tells the process anything after its exit was seen. -/
def Respects (deeds : List Deed) : Prop :=
  deeds.Pairwise fun a b => a.sight?.isSome = true → ∀ o, b ≠ .told o

theorem respects_of_untold (huntold : ∀ o, .told o ∉ deeds) : Respects deeds :=
  List.pairwise_iff_getElem.mpr fun _ _ _ hj _ _ o ho => huntold o (ho ▸ List.getElem_mem hj)

theorem terminate_signals (asked : Nat) (looks : List Look) :
    (terminate asked looks).count (.told .terminate) = 1 ∧
    (terminate asked looks).count (.told .kill) ≤ 1 ∧ Respects (terminate asked looks) := by
  rw [terminate]
  rcases awaitEnd_cases (asked + termGrace) looks with hnone | ⟨s, m, hsaw⟩ | hkilled
  · simp [hnone, Respects]
  · simp [hsaw, Respects, Deed.sight?]
  · simp [hkilled, Respects, Deed.sight?]

theorem aftermath_lines (f : Finish) (asked : Nat) (looks : List Look) :
    (f.aftermath asked looks).filterMap Deed.line? = [] := by
  unfold Finish.aftermath
  split
  · rw [terminate]
    rcases awaitEnd_cases (asked + termGrace) looks with hnone | ⟨s, m, hsaw⟩ | hkilled
    · simp [hnone, Deed.line?]
    · simp [hsaw, Deed.line?]
    · simp [hkilled, Deed.line?]
  · rfl

namespace Watching

/-! ## Rounds that go on -/

/-- The rounds are played and do not end the supervision, with what is done and known after them. -/
inductive Passes : Watching → List Round → List Deed → Watching → Prop
  | nil (w : Watching) : Passes w [] [] w
  | cons {w v u : Watching} {r : Round} {rounds : List Round} {deeds more : List Deed}
      (hround : w.round r = (deeds, .goesOn v)) (hpasses : Passes v rounds more u) :
      Passes w (r :: rounds) (deeds ++ more) u

theorem Passes.run_append (hpasses : Passes w rounds deeds v) :
    w.run asked looks (rounds ++ rest) =
      (deeds ++ (v.run asked looks rest).1, (v.run asked looks rest).2) := by
  induction hpasses with
  | nil => rfl
  | cons hround _ ih => simp [run, hround, ih]

theorem Passes.received_append (hpasses : Passes w rounds deeds v) :
    w.received (rounds ++ rest) = w.received rounds ++ v.received rest := by
  induction hpasses with
  | nil => rfl
  | cons hround _ ih => simp [received, hround, ih]

theorem Passes.accounts (hpasses : Passes w rounds more v) {heard : List Heard}
    (haccounts : w.Accounts deeds heard) :
    v.Accounts (deeds ++ more) (heard ++ w.received rounds) := by
  induction hpasses generalizing deeds heard with
  | nil => simpa [received] using haccounts
  | cons hround _ ih =>
      have hnext := ih (haccounts.round hround)
      simpa [received, hround] using hnext

theorem Passes.deadline_eq (hpasses : Passes w rounds deeds v) : v.deadline = w.deadline := by
  induction hpasses with
  | nil => rfl
  | cons hround _ ih => rw [ih, deadline_of_round hround]

theorem Passes.saw (hpasses : Passes w rounds deeds v) {s m : Nat} (hsaw : .saw s m ∈ deeds) :
    ∃ look ∈ rounds, look.exit = .ok (some s) ∧ look.seen = m := by
  induction hpasses with
  | nil => simp at hsaw
  | cons hround _ ih =>
      rcases List.mem_append.mp hsaw with hfirst | hlater
      · exact ⟨_, List.mem_cons_self, saw_of_round (by rwa [hround])⟩
      · obtain ⟨look, hmem, hlook⟩ := ih hlater
        exact ⟨look, List.mem_cons_of_mem _ hmem, hlook⟩

/-- A run passes through all of its rounds, or through those before the one that ends it. -/
theorem run_cases (w : Watching) (asked : Nat) (looks : List Look) (rounds : List Round) :
    (∃ deeds v, Passes w rounds deeds v ∧ w.run asked looks rounds = (deeds, none)) ∨
    ∃ before r after deeds v last f, rounds = before ++ r :: after ∧ Passes w before deeds v ∧
      v.round r = (last, .finished f) ∧
      w.run asked looks rounds = (deeds ++ (last ++ f.aftermath asked looks), some f) := by
  induction rounds generalizing w with
  | nil => exact .inl ⟨[], w, .nil w, rfl⟩
  | cons r rounds ih =>
      rcases hround : w.round r with ⟨deeds, f | v⟩
      · refine .inr ⟨[], r, rounds, [], w, deeds, f, rfl, .nil w, hround, ?_⟩
        simp [run, hround]
      · rcases ih v with ⟨more, u, hpasses, hrun⟩ |
          ⟨before, r', after, more, u, last, f, rfl, hpasses, hlast, hrun⟩
        · refine .inl ⟨deeds ++ more, u, .cons hround hpasses, ?_⟩
          simp [run, hround, hrun]
        · refine .inr ⟨r :: before, r', after, deeds ++ more, u, last, f, rfl,
            .cons hround hpasses, hlast, ?_⟩
          simp [run, hround, hrun]

/-- What is known when a supervision has been run, from its beginning. -/
theorem run_start_cases (deadline asked : Nat) (looks : List Look) (rounds : List Round) :
    (∃ deeds v, Passes (start deadline) rounds deeds v ∧
      v.Accounts deeds ((start deadline).received rounds) ∧
      (start deadline).run asked looks rounds = (deeds, none)) ∨
    ∃ before r after deeds v known u f, rounds = before ++ r :: after ∧
      Passes (start deadline) before deeds v ∧ Ends v r u f ∧ (v.round r).2 = .finished f ∧
      u.Accounts known ((start deadline).received rounds) ∧
      (start deadline).run asked looks rounds = (known ++ f.aftermath asked looks, some f) := by
  have haccounts := accounts_start deadline
  rcases (start deadline).run_cases asked looks rounds with ⟨deeds, v, hpasses, hrun⟩ |
    ⟨before, r, after, deeds, v, last, f, rfl, hpasses, hround, hrun⟩
  · exact .inl ⟨deeds, v, hpasses, by simpa using hpasses.accounts haccounts, hrun⟩
  · obtain ⟨u, hknown, hends⟩ := (hpasses.accounts haccounts).finishes hround
    refine .inr ⟨before, r, after, deeds, v, deeds ++ last, u, f, rfl, hpasses, hends,
      by rw [hround], ?_, by rw [hrun, List.append_assoc]⟩
    simpa [hpasses.received_append, received, hround] using hknown

end Watching

/-! ## Channels -/

/-- What is heard of a channel on which lines are sent: the lines, in their order, and that it is
closed only when all of them have come. -/
inductive Relays : List String → List Heard → Prop
  | nil (sent : List String) : Relays sent []
  | line {l : String} {sent : List String} {heard : List Heard} (hrest : Relays sent heard) :
      Relays (l :: sent) (.line l :: heard)
  | nothing {sent : List String} {heard : List Heard} (hrest : Relays sent heard) :
      Relays sent (.nothing :: heard)
  | closed {heard : List Heard} (hrest : Relays [] heard) : Relays [] (.closed :: heard)

namespace Relays

variable {sent : List String} {heard : List Heard} (hrelays : Relays sent heard)
include hrelays

theorem lines_prefix : heard.filterMap Heard.line? <+: sent := by
  induction hrelays with
  | nil => exact List.nil_prefix
  | line _ ih => simpa [Heard.line?] using ih
  | nothing _ ih | closed _ ih => simpa [List.filterMap_cons, Heard.line?] using ih

theorem lines_eq_of_closed (hclosed : .closed ∈ heard) : heard.filterMap Heard.line? = sent := by
  induction hrelays with
  | nil => simp at hclosed
  | line _ ih => simpa [Heard.line?] using ih (by simpa using hclosed)
  | nothing _ ih =>
      simpa [List.filterMap_cons, Heard.line?] using ih (by simpa using hclosed)
  | @closed heard hrest _ =>
      have hnone := hrest.lines_prefix
      simpa [Heard.line?] using hnone

end Relays

/-! ## What a supervision comes to -/

theorem Finish.ending_eq_interrupted : f.ending = .failed .interrupted ↔ f = .stopped := by
  cases f <;> simp [Finish.ending]

theorem Finish.ending_eq_exited {o : RunOutcome} (ho : f.ending = .exited o) :
    (f = .timedOut ∧ o = .watchdogKilled) ∨ ∃ s, f = .exited s ∧ o = .ofWaitStatus s := by
  cases f with
  | exited s =>
      obtain rfl : RunOutcome.ofWaitStatus s = o := by simpa [Finish.ending] using ho
      exact .inr ⟨s, rfl, rfl⟩
  | timedOut =>
      obtain rfl : RunOutcome.watchdogKilled = o := by simpa [Finish.ending] using ho
      exact .inl ⟨rfl, rfl⟩
  | stopped => simp [Finish.ending] at ho
  | unseen fault => simp [Finish.ending] at ho

theorem ofWaitStatus_ne_watchdogKilled (s : Nat) :
    RunOutcome.ofWaitStatus s ≠ .watchdogKilled := by
  unfold RunOutcome.ofWaitStatus RunOutcome.ofCode
  grind

namespace Watching.Accounts

variable {heard : List Heard} (haccounts : w.Accounts deeds heard)
include haccounts

theorem saw_iff {s m : Nat} : .saw s m ∈ deeds ↔ w.exit = some (s, m) := by
  have hsights : (s, m) ∈ deeds.filterMap Deed.sight? ↔ w.exit = some (s, m) := by
    rw [haccounts.sights, Option.mem_toList]
  rw [← hsights, List.mem_filterMap]
  constructor
  · exact fun hsaw => ⟨_, hsaw, rfl⟩
  · rintro ⟨deed, hmem, hdeed⟩
    cases deed with
    | saw => simp_all [Deed.sight?]
    | took | told => simp [Deed.sight?] at hdeed

theorem unseen_iff : (∀ s m, .saw s m ∉ deeds) ↔ w.exit = none := by
  simp only [haccounts.saw_iff, Option.eq_none_iff_forall_ne_some, Prod.forall, ne_eq]

theorem count_told (o : Order) : deeds.count (.told o) = 0 :=
  List.count_eq_zero.mpr (haccounts.untold o)

/-- The process is told to end only if its exit was not seen, and then nothing was told before. -/
theorem signals (hends : f.wasTerminated = true → w.exit = none) (asked : Nat)
    (looks : List Look) :
    (deeds ++ f.aftermath asked looks).count (.told .terminate) ≤ 1 ∧
    (deeds ++ f.aftermath asked looks).count (.told .kill) ≤ 1 ∧
    Respects (deeds ++ f.aftermath asked looks) := by
  have hrespects := respects_of_untold haccounts.untold
  simp only [List.count_append, haccounts.count_told, Nat.zero_add]
  cases hterminated : f.wasTerminated with
  | false => simp [Finish.aftermath, hterminated, hrespects]
  | true =>
      obtain ⟨hterminate, hkill, hafter⟩ := terminate_signals asked looks
      have hunseen : deeds.filterMap Deed.sight? = [] := by
        rw [haccounts.sights, hends hterminated]
        rfl
      simp only [Finish.aftermath, hterminated, if_true]
      refine ⟨Nat.le_of_eq hterminate, hkill,
        List.pairwise_append.mpr ⟨hrespects, hafter, ?_⟩⟩
      intro a ha b _ hsaw
      simp [List.filterMap_eq_nil_iff.mp hunseen a ha] at hsaw

end Watching.Accounts

namespace Watching

variable {before after : List Round} {deadline : Nat}

theorem Ends.exit_eq_none {u : Watching} (hends : Ends v r u f) (hf : f.wasTerminated = true) :
    u.exit = none := by
  cases hends with
  | stopped _ hexit | timedOut _ hexit => exact hexit
  | exited | unseen => simp [Finish.wasTerminated] at hf

theorem run_signals (deadline asked : Nat) (looks : List Look) (rounds : List Round) :
    let deeds := ((start deadline).run asked looks rounds).1
    deeds.count (.told .terminate) ≤ 1 ∧ deeds.count (.told .kill) ≤ 1 ∧ Respects deeds := by
  rcases run_start_cases deadline asked looks rounds with ⟨deeds, v, -, haccounts, hrun⟩ |
    ⟨before, r, after, deeds, v, known, u, f, -, -, hends, -, haccounts, hrun⟩
  · simp [hrun, haccounts.count_told, respects_of_untold haccounts.untold]
  · rw [hrun]
    exact haccounts.signals hends.exit_eq_none asked looks

theorem run_lines (deadline asked : Nat) (looks : List Look) (rounds : List Round) :
    ((start deadline).run asked looks rounds).1.filterMap Deed.line? =
      ((start deadline).received rounds).filterMap Heard.line? := by
  rcases run_start_cases deadline asked looks rounds with ⟨deeds, v, -, haccounts, hrun⟩ |
    ⟨before, r, after, deeds, v, known, u, f, -, -, -, -, haccounts, hrun⟩
  · rw [hrun, haccounts.lines]
  · rw [hrun, List.filterMap_append, aftermath_lines, List.append_nil, haccounts.lines]

theorem Passes.run_stopped (hpasses : Passes w before deeds v) (hstop : r.stopRaised = true)
    (hexit : v.exit = none) :
    (w.run asked looks (before ++ r :: after)).2 = some .stopped := by
  have hround : v.round r = ([], .finished .stopped) :=
    round_of_opening (by simp [opening?, hexit, hstop])
  rw [hpasses.run_append, run, hround]

theorem run_stopped_iff (deadline asked : Nat) (looks : List Look) (rounds : List Round) :
    ((start deadline).run asked looks rounds).2 = some .stopped ↔
      ∃ before r after done v, rounds = before ++ r :: after ∧
        (start deadline).Passes before done v ∧ (∀ s m, .saw s m ∉ done) ∧
        r.stopRaised = true := by
  constructor
  · intro hstopped
    rcases run_start_cases deadline asked looks rounds with ⟨deeds, v, -, -, hrun⟩ |
      ⟨before, r, after, deeds, v, known, u, f, hrounds, hpasses, hends, -, -, hrun⟩
    · simp [hrun] at hstopped
    · obtain rfl : f = .stopped := by simpa [hrun] using hstopped
      cases hends with
      | stopped hstop hexit =>
          have haccounts := hpasses.accounts (accounts_start deadline)
          exact ⟨before, r, after, deeds, v, hrounds, hpasses, haccounts.unseen_iff.mpr hexit,
            hstop⟩
  · rintro ⟨before, r, after, done, v, rfl, hpasses, hunseen, hstop⟩
    have haccounts := hpasses.accounts (accounts_start deadline)
    exact hpasses.run_stopped hstop (haccounts.unseen_iff.mp hunseen)

theorem run_timedOut (htimedOut :
    ((start deadline).run asked looks rounds).2 = some .timedOut) :
    ∃ before r after done v, rounds = before ++ r :: after ∧
      (start deadline).Passes before done v ∧ (∀ s m, .saw s m ∉ done) ∧
      r.stopRaised = false ∧ deadline ≤ r.clock := by
  rcases run_start_cases deadline asked looks rounds with ⟨deeds, v, -, -, hrun⟩ |
    ⟨before, r, after, deeds, v, known, u, f, hrounds, hpasses, hends, -, -, hrun⟩
  · simp [hrun] at htimedOut
  · obtain rfl : f = .timedOut := by simpa [hrun] using htimedOut
    cases hends with
    | timedOut hstop hexit hlate =>
        have haccounts := hpasses.accounts (accounts_start deadline)
        have hdeadline : v.deadline = deadline := hpasses.deadline_eq
        exact ⟨before, r, after, deeds, v, hrounds, hpasses, haccounts.unseen_iff.mpr hexit, hstop,
          hdeadline ▸ hlate⟩

theorem run_saw {s m : Nat} (hsaw : .saw s m ∈ ((start deadline).run asked looks rounds).1)
    (hlook : ((start deadline).run asked looks rounds).2 = some (.exited s)) :
    ∃ look ∈ rounds, look.exit = .ok (some s) ∧ look.seen = m := by
  rcases (start deadline).run_cases asked looks rounds with ⟨deeds, v, hpasses, hrun⟩ |
    ⟨before, r, after, deeds, v, last, f, rfl, hpasses, hround, hrun⟩
  · simp [hrun] at hlook
  · obtain rfl : f = .exited s := by simpa [hrun] using hlook
    have hsaw : .saw s m ∈ deeds ∨ .saw s m ∈ last := by
      simpa [hrun, Finish.aftermath, Finish.wasTerminated] using hsaw
    rcases hsaw with hbefore | hlast
    · obtain ⟨look, hmem, hlook⟩ := hpasses.saw hbefore
      exact ⟨look, List.mem_append_left _ hmem, hlook⟩
    · exact ⟨r, by simp, saw_of_round (by rwa [hround])⟩

/-- The exit that is reported was seen, and with no stop raised output is left aside only after the
time of grace or when all of it was taken. -/
theorem run_exited {s : Nat}
    (hexited : ((start deadline).run asked looks rounds).2 = some (.exited s)) :
    let deeds := ((start deadline).run asked looks rounds).1
    let heard := (start deadline).received rounds
    ∃ m, .saw s m ∈ deeds ∧ ∃ before r after done v, rounds = before ++ r :: after ∧
      (start deadline).Passes before done v ∧ (v.round r).2 = .finished (.exited s) ∧
      (r.stopRaised = false →
        (.closed ∉ heard → m + drainGrace ≤ r.later) ∧
        (.closed ∈ heard → ∀ sent, Relays sent heard → deeds.filterMap Deed.line? = sent)) := by
  intro deeds heard
  have hlines : deeds.filterMap Deed.line? = heard.filterMap Heard.line? :=
    run_lines deadline asked looks rounds
  rcases run_start_cases deadline asked looks rounds with ⟨deeds, v, -, -, hrun⟩ |
    ⟨before, r, after, done, v, known, u, f, hrounds, hpasses, hends, hround, haccounts, hrun⟩
  · simp [hrun] at hexited
  · obtain rfl : f = .exited s := by simpa [hrun] using hexited
    cases hends with
    | @exited u s m hexit hgrace =>
        refine ⟨m, ?_, before, r, after, done, v, hrounds, hpasses, hround, fun hstop =>
          ⟨fun hopen => hgrace hstop (haccounts.isOpen_iff.mpr hopen), fun hclosed sent hrelays =>
            hlines.trans (hrelays.lines_eq_of_closed hclosed)⟩⟩
        have hsaw := haccounts.saw_iff.mpr hexit
        simp [deeds, hrun, hsaw]

end Watching

/-- Whatever a supervision sees: the process is told to end at most once, and never after its exit
was seen; the supervision is interrupted exactly when a round begins with a stop raised and no exit
seen, runs out of time only when a round begins after the deadline without either, and reports an
exit only as it was seen; the lines taken are those that came, in their order; and with no stop
raised the exit is reported only after the time of grace, or when the output is closed and every
line of it was taken. -/
theorem Watching.run_accounts (deadline asked : Nat) (looks : List Look) (rounds : List Round) :
    let w := start deadline
    let deeds := (w.run asked looks rounds).1
    let result := (w.run asked looks rounds).2.map Finish.ending
    let heard := w.received rounds
    (deeds.count (.told .terminate) ≤ 1 ∧ deeds.count (.told .kill) ≤ 1 ∧ Respects deeds) ∧
    (result = some (.failed .interrupted) ↔
      ∃ before r after done v, rounds = before ++ r :: after ∧ w.Passes before done v ∧
        (∀ s m, .saw s m ∉ done) ∧ r.stopRaised = true) ∧
    (result = some (.exited .watchdogKilled) →
      ∃ before r after done v, rounds = before ++ r :: after ∧ w.Passes before done v ∧
        (∀ s m, .saw s m ∉ done) ∧ r.stopRaised = false ∧ deadline ≤ r.clock) ∧
    (∀ o, o ≠ .watchdogKilled → result = some (.exited o) →
      ∃ s m, o = .ofWaitStatus s ∧ .saw s m ∈ deeds ∧
        (∃ look ∈ rounds, look.exit = .ok (some s) ∧ look.seen = m) ∧
        ∃ before r after done v, rounds = before ++ r :: after ∧ w.Passes before done v ∧
          (v.round r).2 = .finished (.exited s) ∧
          (r.stopRaised = false →
            (.closed ∉ heard → m + drainGrace ≤ r.later) ∧
            (.closed ∈ heard → ∀ sent, Relays sent heard →
              deeds.filterMap Deed.line? = sent))) ∧
    (deeds.filterMap Deed.line? = heard.filterMap Heard.line? ∧
      ∀ sent, Relays sent heard → deeds.filterMap Deed.line? <+: sent) := by
  intro w deeds result heard
  refine ⟨run_signals deadline asked looks rounds, ?_, fun hresult => ?_, fun o ho hresult => ?_,
    run_lines deadline asked looks rounds, fun sent hrelays => ?_⟩
  · rw [← run_stopped_iff deadline asked looks rounds, Option.map_eq_some_iff]
    simp only [Finish.ending_eq_interrupted, exists_eq_right]
    exact Iff.rfl
  · obtain ⟨f, hf, hending⟩ := Option.map_eq_some_iff.mp hresult
    rcases Finish.ending_eq_exited hending with ⟨rfl, -⟩ | ⟨s, rfl, hs⟩
    · exact run_timedOut hf
    · exact absurd hs.symm (ofWaitStatus_ne_watchdogKilled s)
  · obtain ⟨f, hf, hending⟩ := Option.map_eq_some_iff.mp hresult
    rcases Finish.ending_eq_exited hending with ⟨rfl, hkilled⟩ | ⟨s, rfl, hs⟩
    · exact absurd hkilled ho
    · obtain ⟨m, hsaw, hreturns⟩ := run_exited hf
      exact ⟨s, m, hs, hsaw, run_saw hsaw hf, hreturns⟩
  · rw [show deeds.filterMap Deed.line? = heard.filterMap Heard.line? from
      run_lines deadline asked looks rounds]
    exact hrelays.lines_prefix

-- a stop that is raised after the exit was seen changes nothing of what is reported
example :
    (Watching.start 1000).run 0 []
        [⟨false, 0, .line "hi", .ok none, 2, 2⟩, ⟨false, 2, .nothing, .ok (some 0), 52, 52⟩,
          ⟨true, 52, .nothing, .ok (some 0), 102, 102⟩] =
      ([.took "hi", .saw 0 52], some (.exited 0)) := by
  decide

end SprayWatch.Supervision
