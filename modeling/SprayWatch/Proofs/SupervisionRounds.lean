import SprayWatch.Supervision

/-!
# Rounds of a supervision

A round is played in one of a few ways: it ends the process, it keeps the exit that was seen, it
takes a line, or it looks at the process.  From that follows what is known of a process after some
rounds, and what the round that ends the supervision was like.
-/

namespace SprayWatch.Supervision

variable {w v : Watching} {r : Round} {deeds more : List Deed} {verdict : Verdict} {f : Finish}

/-! ## How a round is played -/

namespace Watching

/-- The process need not be ended when the round begins: no stop is raised, and its time is not over
unless its exit was seen. -/
def Admits (w : Watching) (r : Round) : Prop :=
  r.stopRaised = false ∧ (w.exit = none → r.clock < w.deadline)

instance (w : Watching) (r : Round) : Decidable (w.Admits r) :=
  inferInstanceAs (Decidable (_ ∧ _))

theorem admits_iff : w.Admits r ↔ w.opening? r.stopRaised r.clock = none := by
  unfold Admits opening?
  cases w.exit with
  | some seen => simp
  | none => cases r.stopRaised <;> simp

/-- The round gets no line of output. -/
def IsQuiet (w : Watching) (r : Round) : Prop := ∀ l, w.receive? r ≠ some (.line l)

/-- The ways in which a round is played. -/
inductive Plays (w : Watching) (r : Round) : List Deed → Verdict → Prop
  | stops (hstop : r.stopRaised = true) (hexit : w.exit = none) :
      Plays w r [] (.finished .stopped)
  | timesOut (hstop : r.stopRaised = false) (hexit : w.exit = none)
      (hlate : w.deadline ≤ r.clock) : Plays w r [] (.finished .timedOut)
  | keeps {s m : Nat} (hstop : r.stopRaised = true) (hexit : w.exit = some (s, m)) :
      Plays w r [] (.finished (.exited s))
  | takes {l : String} (hadmits : w.Admits r) (hline : w.receive? r = some (.line l)) :
      Plays w r [.took l] (.goesOn w)
  | drains {s m : Nat} (hadmits : w.Admits r) (hquiet : w.IsQuiet r)
      (hexit : w.exit = some (s, m)) :
      Plays w r [] ((w.heed (w.receive? r)).closing r.later)
  | fails {fault : IoFault} (hadmits : w.Admits r) (hquiet : w.IsQuiet r)
      (hexit : w.exit = none) (hlook : r.exit = .error fault) :
      Plays w r [] (.finished (.unseen fault))
  | waits (hadmits : w.Admits r) (hquiet : w.IsQuiet r) (hexit : w.exit = none)
      (hlook : r.exit = .ok none) : Plays w r [] (.goesOn (w.heed (w.receive? r)))
  | sees {s : Nat} (hadmits : w.Admits r) (hquiet : w.IsQuiet r) (hexit : w.exit = none)
      (hlook : r.exit = .ok (some s)) :
      Plays w r [.saw s r.seen]
        ({ w.heed (w.receive? r) with exit := some (s, r.seen) }.closing r.later)

@[simp] theorem heed_exit (w : Watching) (heard : Option Heard) : (w.heed heard).exit = w.exit := by
  unfold heed
  split <;> rfl

@[simp] theorem heed_deadline (w : Watching) (heard : Option Heard) :
    (w.heed heard).deadline = w.deadline := by
  unfold heed
  split <;> rfl

theorem plays_of_look (hadmits : w.Admits r) (hquiet : w.IsQuiet r) :
    Plays w r ((w.heed (w.receive? r)).look r).1 ((w.heed (w.receive? r)).look r).2 := by
  unfold look
  rw [heed_exit]
  cases hexit : w.exit with
  | some seen => exact .drains hadmits hquiet hexit
  | none =>
      cases hlook : r.exit with
      | error fault => exact .fails hadmits hquiet hexit hlook
      | ok status? =>
          cases status? with
          | none => exact .waits hadmits hquiet hexit hlook
          | some s => exact .sees hadmits hquiet hexit hlook

theorem round_of_opening (hopening : w.opening? r.stopRaised r.clock = some f) :
    w.round r = ([], .finished f) := by
  rw [round, hopening]

theorem round_of_line {l : String} (hadmits : w.Admits r) (hline : w.receive? r = some (.line l)) :
    w.round r = ([.took l], .goesOn w) := by
  rw [round, admits_iff.mp hadmits, hline]

theorem round_of_isQuiet (hadmits : w.Admits r) (hquiet : w.IsQuiet r) :
    w.round r = (w.heed (w.receive? r)).look r := by
  rw [round, admits_iff.mp hadmits]
  rcases hheard : w.receive? r with _ | l | _ | _
  · rfl
  · exact absurd hheard (hquiet l)
  · rfl
  · rfl

theorem plays_of_opening (hopening : w.opening? r.stopRaised r.clock = some f) :
    Plays w r [] (.finished f) := by
  unfold opening? at hopening
  rcases hexit : w.exit with _ | ⟨s, m⟩
  · cases hstop : r.stopRaised with
    | true =>
        obtain rfl : Finish.stopped = f := by simpa [hexit, hstop] using hopening
        exact .stops hstop hexit
    | false =>
        obtain ⟨hlate, rfl⟩ : w.deadline ≤ r.clock ∧ Finish.timedOut = f := by
          simpa [hexit, hstop] using hopening
        exact .timesOut hstop hexit hlate
  · obtain ⟨hstop, rfl⟩ : r.stopRaised = true ∧ Finish.exited s = f := by
      simpa [hexit] using hopening
    exact .keeps hstop hexit

theorem plays_round (w : Watching) (r : Round) : Plays w r (w.round r).1 (w.round r).2 := by
  cases hopening : w.opening? r.stopRaised r.clock with
  | some f =>
      rw [round_of_opening hopening]
      exact plays_of_opening hopening
  | none =>
      have hadmits : w.Admits r := admits_iff.mpr hopening
      by_cases hquiet : w.IsQuiet r
      · rw [round_of_isQuiet hadmits hquiet]
        exact plays_of_look hadmits hquiet
      · obtain ⟨l, hline⟩ : ∃ l, w.receive? r = some (.line l) := by
          simpa [IsQuiet] using hquiet
        rw [round_of_line hadmits hline]
        exact .takes hadmits hline

theorem plays_of_round_eq (hround : w.round r = (deeds, verdict)) : Plays w r deeds verdict := by
  have hplays := w.plays_round r
  rwa [hround] at hplays

theorem closing_eq_finished {m s : Nat} (hexit : w.exit = some (s, m)) {clock : Nat}
    (hclosing : w.closing clock = .finished f) :
    f = .exited s ∧ (w.isOpen = true → m + drainGrace ≤ clock) := by
  unfold closing at hclosing
  rw [hexit] at hclosing
  grind

theorem closing_eq_goesOn {clock : Nat} (hclosing : w.closing clock = .goesOn v) : v = w := by
  unfold closing at hclosing
  grind

theorem lt_of_closing_eq_goesOn {m s : Nat} (hexit : w.exit = some (s, m)) {clock : Nat}
    (hclosing : w.closing clock = .goesOn v) : clock < m + drainGrace := by
  unfold closing at hclosing
  rw [hexit] at hclosing
  grind

/-! ## What is known after some rounds -/

/-- What is received of the output in a round: what is heard of it, unless it was closed before or
the process must be ended. -/
def receives (w : Watching) (r : Round) : List Heard :=
  if w.Admits r ∧ w.isOpen = true then [r.heard] else []

/-- What is received of the output in all rounds up to the one that ends the supervision. -/
def received (w : Watching) : List Round → List Heard
  | [] => []
  | r :: rs =>
    w.receives r ++
      match (w.round r).2 with
      | .finished _ => []
      | .goesOn v => received v rs

/-- What is known tells what was done and heard: the exit is what was seen, the process was not told
to end, the lines taken are the lines heard, and the output is open until it was heard to be
closed. -/
structure Accounts (w : Watching) (deeds : List Deed) (heard : List Heard) : Prop where
  sights : deeds.filterMap Deed.sight? = w.exit.toList
  untold (o : Order) : .told o ∉ deeds
  lines : deeds.filterMap Deed.line? = heard.filterMap Heard.line?
  isOpen_iff : w.isOpen = true ↔ .closed ∉ heard

theorem accounts_start (deadline : Nat) : (start deadline).Accounts [] [] where
  sights := rfl
  untold o := List.not_mem_nil
  lines := rfl
  isOpen_iff := by simp [start]

theorem receives_of_admits (hadmits : w.Admits r) : w.receives r = (w.receive? r).toList := by
  unfold receives receive?
  cases w.isOpen with
  | true => simp [hadmits]
  | false => simp

theorem receives_of_opening (hopening : w.opening? r.stopRaised r.clock = some f) :
    w.receives r = [] := by
  have hrefused : ¬ w.Admits r := by
    rw [admits_iff, hopening]
    simp
  simp [receives, hrefused]

namespace Accounts

variable {heard : List Heard} (haccounts : w.Accounts deeds heard)
include haccounts

theorem takes {l : String} (hline : w.receive? r = some (.line l)) :
    w.Accounts (deeds ++ [.took l]) (heard ++ (w.receive? r).toList) where
  sights := by simp [haccounts.sights, Deed.sight?]
  untold o := by simpa using haccounts.untold o
  lines := by simp [haccounts.lines, hline, Deed.line?, Heard.line?]
  isOpen_iff := by simpa [hline] using haccounts.isOpen_iff

theorem heeds (hquiet : w.IsQuiet r) :
    (w.heed (w.receive? r)).Accounts deeds (heard ++ (w.receive? r).toList) where
  sights := by rw [heed_exit, haccounts.sights]
  untold := haccounts.untold
  lines := by
    rw [haccounts.lines, List.filterMap_append]
    rcases hheard : w.receive? r with _ | l | _ | _
    · simp
    · exact absurd hheard (hquiet l)
    · simp [Heard.line?]
    · simp [Heard.line?]
  isOpen_iff := by
    rcases hheard : w.receive? r with _ | l | _ | _ <;> simp [heed, haccounts.isOpen_iff]

theorem sees (hexit : w.exit = none) (s m : Nat) :
    Accounts { w with exit := some (s, m) } (deeds ++ [.saw s m]) heard where
  sights := by simp [haccounts.sights, hexit, Deed.sight?]
  untold o := by simpa using haccounts.untold o
  lines := by simp [haccounts.lines, Deed.line?]
  isOpen_iff := haccounts.isOpen_iff

theorem round (hround : w.round r = (more, .goesOn v)) :
    v.Accounts (deeds ++ more) (heard ++ w.receives r) := by
  generalize hverdict : Verdict.goesOn v = verdict at hround
  cases plays_of_round_eq hround with
  | stops | timesOut | keeps | fails => cases hverdict
  | takes hadmits hline =>
      cases hverdict
      rw [receives_of_admits hadmits]
      exact haccounts.takes hline
  | drains hadmits hquiet hexit =>
      obtain rfl := closing_eq_goesOn hverdict.symm
      rw [receives_of_admits hadmits, List.append_nil]
      exact haccounts.heeds hquiet
  | waits hadmits hquiet hexit =>
      cases hverdict
      rw [receives_of_admits hadmits, List.append_nil]
      exact haccounts.heeds hquiet
  | sees hadmits hquiet hexit =>
      obtain rfl := closing_eq_goesOn hverdict.symm
      rw [receives_of_admits hadmits]
      exact (haccounts.heeds hquiet).sees ((heed_exit ..).trans hexit) _ _

end Accounts

theorem saw_of_round {s m : Nat} (hsaw : .saw s m ∈ (w.round r).1) :
    r.exit = .ok (some s) ∧ r.seen = m := by
  rcases hround : w.round r with ⟨deeds, verdict⟩
  rw [hround] at hsaw
  cases plays_of_round_eq hround with
  | sees _ _ _ hlook =>
      obtain ⟨rfl, rfl⟩ : s = _ ∧ m = r.seen := by simpa using hsaw
      exact ⟨hlook, rfl⟩
  | _ => simp at hsaw

theorem deadline_of_round (hround : w.round r = (deeds, .goesOn v)) : v.deadline = w.deadline := by
  generalize hverdict : Verdict.goesOn v = verdict at hround
  cases plays_of_round_eq hround with
  | stops | timesOut | keeps | fails => cases hverdict
  | takes => cases hverdict; rfl
  | waits => cases hverdict; exact heed_deadline ..
  | drains | sees =>
      rw [closing_eq_goesOn hverdict.symm]
      exact heed_deadline ..

/-! ## How a supervision ends -/

/-- What the last round was like, and what is known in the end. -/
inductive Ends (w : Watching) (r : Round) : Watching → Finish → Prop
  | stopped (hstop : r.stopRaised = true) (hexit : w.exit = none) : Ends w r w .stopped
  | timedOut (hstop : r.stopRaised = false) (hexit : w.exit = none) (hlate : w.deadline ≤ r.clock) :
      Ends w r w .timedOut
  | exited {v : Watching} {s m : Nat} (hexit : v.exit = some (s, m))
      (hgrace : r.stopRaised = false → v.isOpen = true → m + drainGrace ≤ r.later) :
      Ends w r v (.exited s)
  | unseen {v : Watching} {fault : IoFault} (hexit : v.exit = none)
      (hlook : r.exit = .error fault) : Ends w r v (.unseen fault)

theorem Accounts.finishes {heard : List Heard} (haccounts : w.Accounts deeds heard)
    (hround : w.round r = (more, .finished f)) :
    ∃ v, v.Accounts (deeds ++ more) (heard ++ w.receives r) ∧ Ends w r v f := by
  have hopening (f : Finish) (hf : w.opening? r.stopRaised r.clock = some f) :
      w.Accounts (deeds ++ []) (heard ++ w.receives r) := by
    simpa [receives_of_opening hf] using haccounts
  generalize hverdict : Verdict.finished f = verdict at hround
  cases plays_of_round_eq hround with
  | takes | waits => cases hverdict
  | stops hstop hexit =>
      cases hverdict
      exact ⟨w, hopening .stopped (by simp [opening?, hstop, hexit]), .stopped hstop hexit⟩
  | timesOut hstop hexit hlate =>
      cases hverdict
      exact ⟨w, hopening .timedOut (by simp [opening?, hstop, hexit, hlate]),
        .timedOut hstop hexit hlate⟩
  | @keeps s m hstop hexit =>
      cases hverdict
      exact ⟨w, hopening (.exited s) (by simp [opening?, hstop, hexit]),
        .exited hexit fun hno => by simp [hstop] at hno⟩
  | drains hadmits hquiet hexit =>
      have hseen := (heed_exit w (w.receive? r)).trans hexit
      obtain ⟨rfl, hgrace⟩ := closing_eq_finished hseen hverdict.symm
      rw [receives_of_admits hadmits, List.append_nil]
      exact ⟨_, haccounts.heeds hquiet, .exited hseen fun _ => hgrace⟩
  | fails hadmits hquiet hexit hlook =>
      cases hverdict
      rw [receives_of_admits hadmits, List.append_nil]
      exact ⟨_, haccounts.heeds hquiet, .unseen ((heed_exit ..).trans hexit) hlook⟩
  | sees hadmits hquiet hexit hlook =>
      obtain ⟨rfl, hgrace⟩ := closing_eq_finished rfl hverdict.symm
      rw [receives_of_admits hadmits]
      exact ⟨_, (haccounts.heeds hquiet).sees ((heed_exit ..).trans hexit) _ _,
        .exited rfl fun _ => hgrace⟩

end Watching

end SprayWatch.Supervision
