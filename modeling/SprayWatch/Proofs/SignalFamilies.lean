import Mathlib.Data.List.Induction
import Mathlib.Data.List.Infix
import Mathlib.Logic.Relation
import SprayWatch.StopSignals

/-!
# Families of stop signals

Signals come into being one after another and are cloned, raised, looked at and slept on.  The
families that a state keeps are the classes of what cloning relates, and the moments that it keeps
are those at which somebody raised a member.  Both only grow, and the clock does not go back: so a
signal is raised as soon as one of its family is, and for ever, and whatever is done to another
family is of no account to it.
-/

namespace SprayWatch.StopSignals

/-- One use of signals, which are numbered in the order in which they come into being.  To raise a
signal takes effect after a number of milliseconds. -/
inductive Act where
  | new
  | clone (i : Nat)
  | raise (i : Nat) (after : Nat)
  | look (i : Nat)
  | sleep (i : Nat) (ms : Nat)
  deriving Repr, DecidableEq

def Act.run (s : StopSignals) : Act → StopSignals
  | .new => s.fresh.2
  | .clone i => (s.clone i).2
  | .raise i after => s.raise i after
  | .look _ => s
  | .sleep i ms => (s.sleep i ms).2

/-- The state after some uses of signals, when there were none before. -/
def after (acts : List Act) : StopSignals := acts.foldl Act.run empty

theorem after_concat (acts : List Act) (a : Act) : after (acts ++ [a]) = a.run (after acts) := by
  simp [after]

/-! ## What a use adds -/

/-- The families of the signals that a use brings into being. -/
def Act.families (s : StopSignals) : Act → List Nat
  | .new => [s.families.length]
  | .clone i => (s.family? i).toList
  | _ => []

def Act.raisings (s : StopSignals) : Act → List (Nat × Nat)
  | .raise i after => (s.family? i).toList.map fun family => (family, s.clock + after)
  | _ => []

theorem sleep_families (s : StopSignals) (i ms : Nat) :
    (s.sleep i ms).2.families = s.families := by
  unfold sleep
  split <;> rfl

theorem sleep_raisings (s : StopSignals) (i ms : Nat) :
    (s.sleep i ms).2.raisings = s.raisings := by
  unfold sleep
  split <;> rfl

theorem le_clock_sleep (s : StopSignals) (i ms : Nat) : s.clock ≤ (s.sleep i ms).2.clock := by
  unfold sleep
  split
  · exact Nat.le_max_left _ _
  · exact Nat.le_add_right _ _

theorem run_families (s : StopSignals) (a : Act) :
    (a.run s).families = s.families ++ a.families s := by
  cases a with
  | new => rfl
  | clone i => rfl
  | sleep i ms => exact (s.sleep_families i ms).trans (List.append_nil _).symm
  | _ => exact (List.append_nil _).symm

theorem run_raisings (s : StopSignals) (a : Act) :
    (a.run s).raisings = s.raisings ++ a.raisings s := by
  cases a with
  | raise i delay => rfl
  | sleep i ms => exact (s.sleep_raisings i ms).trans (List.append_nil _).symm
  | _ => exact (List.append_nil _).symm

theorem le_clock_run (s : StopSignals) (a : Act) : s.clock ≤ (a.run s).clock := by
  cases a with
  | sleep i ms => exact s.le_clock_sleep i ms
  | _ => exact Nat.le_refl _

/-- Nothing of a state is lost in a later one. -/
structure Precedes (s t : StopSignals) : Prop where
  families : s.families <+: t.families
  raisings : s.raisings <+: t.raisings
  clock : s.clock ≤ t.clock

theorem precedes_run (s : StopSignals) (a : Act) : s.Precedes (a.run s) := by
  constructor
  · rw [run_families]
    exact List.prefix_append _ _
  · rw [run_raisings]
    exact List.prefix_append _ _
  · exact s.le_clock_run a

theorem precedes_after (acts more : List Act) : (after acts).Precedes (after (acts ++ more)) := by
  induction more using List.reverseRecOn with
  | nil =>
      rw [List.append_nil]
      exact ⟨List.prefix_rfl, List.prefix_rfl, Nat.le_refl _⟩
  | append_singleton more a ih =>
      rw [← List.append_assoc, after_concat]
      have hstep := precedes_run (after (acts ++ more)) a
      constructor
      · exact ih.families.trans hstep.families
      · exact ih.raisings.trans hstep.raisings
      · exact ih.clock.trans hstep.clock

theorem precedes_of_begins {acts all : List Act} (hbegins : acts <+: all) :
    (after acts).Precedes (after all) := by
  obtain ⟨more, rfl⟩ := hbegins
  exact precedes_after acts more

theorem family?_lt {s : StopSignals} {i f : Nat} (hfamily : s.family? i = some f) :
    i < s.families.length :=
  (List.getElem?_eq_some_iff.mp hfamily).1

theorem exists_family? {s : StopSignals} {i : Nat} (hlt : i < s.families.length) :
    ∃ f, s.family? i = some f :=
  ⟨_, List.getElem?_eq_getElem hlt⟩

theorem Precedes.family? {s t : StopSignals} (hle : s.Precedes t) {i f : Nat}
    (hfamily : s.family? i = some f) : t.family? i = some f := by
  obtain ⟨more, hmore⟩ := hle.families
  unfold StopSignals.family?
  rw [← hmore, List.getElem?_append_left (family?_lt hfamily)]
  exact hfamily

/-! ## Families -/

/-- In the course of some acts the first of two signals came into being as a clone of the second. -/
def ClonedFrom (acts : List Act) (i j : Nat) : Prop :=
  ∃ before, before ++ [.clone j] <+: acts ∧ j < (after before).families.length ∧
    i = (after before).families.length

/-- Signals of one clone family: what is related by cloning, over any number of clones. -/
def Kin (acts : List Act) : Nat → Nat → Prop := Relation.EqvGen (ClonedFrom acts)

theorem ClonedFrom.append {acts : List Act} {i j : Nat} (hcloned : ClonedFrom acts i j)
    (more : List Act) : ClonedFrom (acts ++ more) i j := by
  obtain ⟨before, hbegins, hj, hi⟩ := hcloned
  exact ⟨before, hbegins.trans (List.prefix_append _ _), hj, hi⟩

theorem Kin.append {acts : List Act} {i j : Nat} (hkin : Kin acts i j) (more : List Act) :
    Kin (acts ++ more) i j :=
  Relation.EqvGen.mono (fun _ _ hcloned => ClonedFrom.append hcloned more) _ _ hkin

/-- A signal that a use brings into being is the first of its family, or a clone. -/
theorem family?_run_cases {s : StopSignals} {a : Act} {i f : Nat}
    (hfamily : (a.run s).family? i = some f) :
    s.family? i = some f ∨
      i = s.families.length ∧ (a = .new ∧ f = i ∨ ∃ j, a = .clone j ∧ s.family? j = some f) := by
  rw [family?, run_families] at hfamily
  by_cases hold : i < s.families.length
  · rw [List.getElem?_append_left hold] at hfamily
    exact .inl hfamily
  · right
    have hlater : s.families.length ≤ i := Nat.le_of_not_lt hold
    rw [List.getElem?_append_right hlater] at hfamily
    cases a with
    | new =>
        simp only [Act.families, List.getElem?_singleton, Option.ite_none_right_eq_some,
          Option.some.injEq] at hfamily
        exact ⟨by omega, .inl ⟨rfl, by omega⟩⟩
    | clone j =>
        cases hj : s.family? j with
        | none => simp [Act.families, hj] at hfamily
        | some g =>
            simp only [Act.families, hj, Option.toList_some, List.getElem?_singleton,
              Option.ite_none_right_eq_some, Option.some.injEq] at hfamily
            obtain ⟨hsub, rfl⟩ := hfamily
            exact ⟨by omega, .inr ⟨j, rfl, hj⟩⟩
    | _ => simp [Act.families] at hfamily

/-- A family is named for the first of its signals. -/
theorem kin_of_family? {acts : List Act} {i f : Nat} (hfamily : (after acts).family? i = some f) :
    Kin acts i f := by
  induction acts using List.reverseRecOn generalizing i with
  | nil => simp [after, empty, family?] at hfamily
  | append_singleton acts a ih =>
      rw [after_concat] at hfamily
      rcases family?_run_cases hfamily with hold | ⟨hi, hfirst | ⟨j, rfl, hj⟩⟩
      · exact (ih hold).append [a]
      · rw [hfirst.2]
        exact .refl i
      · have hcloned : ClonedFrom (acts ++ [.clone j]) i j :=
          ⟨acts, List.prefix_rfl, family?_lt hj, hi⟩
        exact .trans _ _ _ (.rel _ _ hcloned) ((ih hj).append [.clone j])

theorem ClonedFrom.family?_eq {acts : List Act} {i j : Nat} (hcloned : ClonedFrom acts i j) :
    (after acts).family? i = (after acts).family? j := by
  obtain ⟨before, hbegins, hj, rfl⟩ := hcloned
  obtain ⟨f, hf⟩ := exists_family? hj
  have hclone : (after (before ++ [.clone j])).family? (after before).families.length = some f := by
    rw [after_concat, family?, run_families, Act.families, hf]
    simp
  have hbefore := precedes_of_begins ((List.prefix_append before [.clone j]).trans hbegins)
  rw [(precedes_of_begins hbegins).family? hclone, hbefore.family? hf]

theorem Kin.family?_eq {acts : List Act} {i j : Nat} (hkin : Kin acts i j) :
    (after acts).family? i = (after acts).family? j := by
  induction hkin with
  | rel i j hcloned => exact hcloned.family?_eq
  | refl i => rfl
  | symm i j _ ih => exact ih.symm
  | trans i j k _ _ hfirst hsecond => exact hfirst.trans hsecond

theorem kin_iff {acts : List Act} {i j f : Nat} (hj : (after acts).family? j = some f) :
    Kin acts i j ↔ (after acts).family? i = some f := by
  constructor
  · intro hkin
    rw [hkin.family?_eq, hj]
  · intro hi
    exact .trans _ _ _ (kin_of_family? hi) (.symm _ _ (kin_of_family? hj))

/-! ## Raised families -/

/-- In the course of some acts a signal that there was then was raised, from some moment on. -/
def Raises (acts : List Act) (j moment : Nat) : Prop :=
  ∃ before delay, before ++ [.raise j delay] <+: acts ∧
    j < (after before).families.length ∧ moment = (after before).clock + delay

theorem Raises.append {acts : List Act} {j moment : Nat} (hraises : Raises acts j moment)
    (more : List Act) : Raises (acts ++ more) j moment := by
  obtain ⟨before, delay, hbegins, hj, hmoment⟩ := hraises
  exact ⟨before, delay, hbegins.trans (List.prefix_append _ _), hj, hmoment⟩

theorem Raises.mem_raisings {acts : List Act} {j moment : Nat} (hraises : Raises acts j moment) :
    ∃ f, (after acts).family? j = some f ∧ (f, moment) ∈ (after acts).raisings := by
  obtain ⟨before, delay, hbegins, hj, rfl⟩ := hraises
  obtain ⟨f, hf⟩ := exists_family? hj
  have hbefore := precedes_of_begins ((List.prefix_append before [.raise j delay]).trans hbegins)
  refine ⟨f, hbefore.family? hf, ?_⟩
  apply (precedes_of_begins hbegins).raisings.subset
  rw [after_concat, run_raisings, Act.raisings, hf]
  simp

theorem raises_of_mem_raisings {acts : List Act} {f moment : Nat}
    (hmem : (f, moment) ∈ (after acts).raisings) :
    ∃ j, (after acts).family? j = some f ∧ Raises acts j moment := by
  induction acts using List.reverseRecOn with
  | nil => simp [after, empty] at hmem
  | append_singleton acts a ih =>
      have hlater := precedes_after acts [a]
      rw [after_concat, run_raisings, List.mem_append] at hmem
      rcases hmem with hold | hnew
      · obtain ⟨j, hfamily, hraises⟩ := ih hold
        exact ⟨j, hlater.family? hfamily, hraises.append [a]⟩
      · cases a with
        | raise j delay =>
            obtain ⟨g, hfamily, hpair⟩ := List.mem_map.mp hnew
            rw [Option.mem_toList] at hfamily
            obtain ⟨rfl, rfl⟩ := Prod.mk.inj hpair
            exact ⟨j, hlater.family? hfamily, acts, delay, List.prefix_rfl, family?_lt hfamily, rfl⟩
        | _ => simp [Act.raisings] at hnew

/-- The moments that count for a signal are those from which one of its family is raised. -/
theorem mem_momentsOf_iff {acts : List Act} {i moment : Nat} :
    moment ∈ (after acts).momentsOf i ↔ ∃ j, Kin acts i j ∧ Raises acts j moment := by
  unfold momentsOf
  rw [List.mem_map]
  constructor
  · rintro ⟨⟨f, _⟩, hmem, rfl⟩
    obtain ⟨hraising, hfamily⟩ := List.mem_filter.mp hmem
    obtain ⟨j, hj, hraises⟩ := raises_of_mem_raisings hraising
    exact ⟨j, (kin_iff hj).mpr (of_decide_eq_true hfamily), hraises⟩
  · rintro ⟨j, hkin, hraises⟩
    obtain ⟨f, hj, hraising⟩ := hraises.mem_raisings
    have hfamily := (kin_iff hj).mp hkin
    exact ⟨(f, moment), List.mem_filter.mpr ⟨hraising, decide_eq_true hfamily⟩, rfl⟩

/-! ## What is seen of signals -/

theorem isRaised_iff {acts : List Act} {i : Nat} :
    (after acts).isRaised i = true ↔
      ∃ j moment, Kin acts i j ∧ Raises acts j moment ∧ moment ≤ (after acts).clock := by
  simp only [isRaised, List.any_eq_true, mem_momentsOf_iff, decide_eq_true_eq]
  constructor
  · rintro ⟨moment, ⟨j, hkin, hraises⟩, hle⟩
    exact ⟨j, moment, hkin, hraises, hle⟩
  · rintro ⟨j, moment, hkin, hraises, hle⟩
    exact ⟨moment, ⟨j, hkin, hraises⟩, hle⟩

theorem isRaised_append {acts : List Act} {i : Nat} (hraised : (after acts).isRaised i = true)
    (more : List Act) : (after (acts ++ more)).isRaised i = true := by
  rw [isRaised_iff] at hraised ⊢
  obtain ⟨j, moment, hkin, hraises, hle⟩ := hraised
  exact ⟨j, moment, hkin.append more, hraises.append more,
    hle.trans (precedes_after acts more).clock⟩

/-- A moment counts for a sleep if it has come when the sleep begins, or comes before its end. -/
theorem wakingAt?_eq_none_iff {s : StopSignals} {i ms : Nat} :
    s.wakingAt? i ms = none ↔
      ¬ ∃ moment ∈ s.momentsOf i, moment ≤ s.clock ∨ moment < s.clock + ms := by
  rw [wakingAt?, List.min?_eq_none_iff, List.filter_eq_nil_iff]
  simp

theorem sleep_cases (s : StopSignals) (i ms : Nat) :
    (s.wakingAt? i ms = none ∧ (s.sleep i ms).1 = .ok ()) ∨
      (s.wakingAt? i ms ≠ none ∧ (s.sleep i ms).1 = .error .interrupted) := by
  unfold sleep
  cases hwaking : s.wakingAt? i ms with
  | none => exact .inl ⟨rfl, rfl⟩
  | some moment => exact .inr ⟨by simp, rfl⟩

theorem sleep_eq_ok_iff {s : StopSignals} {i ms : Nat} :
    (s.sleep i ms).1 = .ok () ↔ s.wakingAt? i ms = none := by
  rcases s.sleep_cases i ms with ⟨hnone, hvalue⟩ | ⟨hsome, hvalue⟩
  · simp [hnone, hvalue]
  · simp [hsome, hvalue]

theorem sleep_eq_interrupted_iff {s : StopSignals} {i ms : Nat} :
    (s.sleep i ms).1 = .error .interrupted ↔ s.wakingAt? i ms ≠ none := by
  rcases s.sleep_cases i ms with ⟨hnone, hvalue⟩ | ⟨hsome, hvalue⟩
  · simp [hnone, hvalue]
  · simp [hsome, hvalue]

/-- One of a signal's family is raised by the time at which a sleep on the signal begins, or before
the sleep has lasted for its full time. -/
def RaisedInTime (acts : List Act) (i ms : Nat) : Prop :=
  ∃ j moment, Kin acts i j ∧ Raises acts j moment ∧
    (moment ≤ (after acts).clock ∨ moment < (after acts).clock + ms)

theorem wakingAt?_after_eq_none_iff {acts : List Act} {i ms : Nat} :
    (after acts).wakingAt? i ms = none ↔ ¬ RaisedInTime acts i ms := by
  rw [wakingAt?_eq_none_iff, not_iff_not]
  simp only [mem_momentsOf_iff]
  constructor
  · rintro ⟨moment, ⟨j, hkin, hraises⟩, hintime⟩
    exact ⟨j, moment, hkin, hraises, hintime⟩
  · rintro ⟨j, moment, hkin, hraises, hintime⟩
    exact ⟨moment, ⟨j, hkin, hraises⟩, hintime⟩

theorem raisedInTime_zero_iff {acts : List Act} {i : Nat} :
    RaisedInTime acts i 0 ↔ (after acts).isRaised i = true := by
  rw [isRaised_iff]
  simp only [RaisedInTime, Nat.add_zero]
  constructor
  · rintro ⟨j, moment, hkin, hraises, hintime⟩
    exact ⟨j, moment, hkin, hraises, by omega⟩
  · rintro ⟨j, moment, hkin, hraises, hle⟩
    exact ⟨j, moment, hkin, hraises, .inl hle⟩

/-! ## Other families -/

theorem momentsOf_raise {acts : List Act} {i j : Nat} (hother : ¬ Kin acts i j) (delay : Nat) :
    ((after acts).raise j delay).momentsOf i = (after acts).momentsOf i := by
  let new := ((after acts).family? j).toList.map fun f => (f, (after acts).clock + delay)
  have hnone : (new.filter fun raising => (after acts).family? i = some raising.1) = [] := by
    rw [List.filter_eq_nil_iff]
    intro raising hmem hfamily
    obtain ⟨f, hj, rfl⟩ := List.mem_map.mp hmem
    rw [Option.mem_toList] at hj
    exact hother ((kin_iff hj).mpr (of_decide_eq_true hfamily))
  have hmoments : ((after acts).raise j delay).momentsOf i =
      (((after acts).raisings ++ new).filter fun raising =>
        (after acts).family? i = some raising.1).map Prod.snd := rfl
  rw [hmoments, List.filter_append, hnone, List.append_nil]
  rfl

theorem isRaised_raise {acts : List Act} {i j : Nat} (hother : ¬ Kin acts i j) (delay : Nat) :
    ((after acts).raise j delay).isRaised i = (after acts).isRaised i := by
  unfold isRaised
  rw [momentsOf_raise hother]
  rfl

theorem sleep_raise {acts : List Act} {i j : Nat} (hother : ¬ Kin acts i j) (delay ms : Nat) :
    (((after acts).raise j delay).sleep i ms).1 = ((after acts).sleep i ms).1 := by
  have hwaking : ((after acts).raise j delay).wakingAt? i ms = (after acts).wakingAt? i ms := by
    unfold wakingAt?
    rw [momentsOf_raise hother]
    rfl
  unfold sleep
  rw [hwaking]
  cases (after acts).wakingAt? i ms with
  | none => rfl
  | some moment => rfl

/-! ## Raising at once -/

theorem Raises.mem {acts : List Act} {j moment : Nat} (hraises : Raises acts j moment) :
    ∃ before delay, .raise j delay ∈ acts ∧ moment = (after before).clock + delay ∧
      (after before).clock ≤ (after acts).clock := by
  obtain ⟨before, delay, hbegins, -, hmoment⟩ := hraises
  have hbefore := precedes_of_begins ((List.prefix_append before [.raise j delay]).trans hbegins)
  exact ⟨before, delay, hbegins.subset (by simp), hmoment, hbefore.clock⟩

/-- Where every raise takes effect at once, a signal is raised as soon as one of its family has
been. -/
theorem isRaised_iff_of_atOnce {acts : List Act} {i : Nat}
    (hatOnce : ∀ j delay, .raise j delay ∈ acts → delay = 0) :
    (after acts).isRaised i = true ↔ ∃ j moment, Kin acts i j ∧ Raises acts j moment := by
  rw [isRaised_iff]
  constructor
  · rintro ⟨j, moment, hkin, hraises, -⟩
    exact ⟨j, moment, hkin, hraises⟩
  · rintro ⟨j, moment, hkin, hraises⟩
    obtain ⟨before, delay, hmem, rfl, hclock⟩ := hraises.mem
    have hdelay := hatOnce j delay hmem
    exact ⟨j, _, hkin, hraises, by omega⟩

/-- Whatever is done to signals, one is raised exactly from the moment on from which some signal of
its clone family is, and for ever.  A sleep on it is interrupted exactly if that moment has come
when the sleep begins, or comes before the end of it, and otherwise lasts for its full time.  To
raise a signal of another family changes none of this. -/
theorem raised_by_family (acts : List Act) (i : Nat) :
    ((after acts).isRaised i = true ↔
      ∃ j moment, Kin acts i j ∧ Raises acts j moment ∧ moment ≤ (after acts).clock) ∧
    ((∀ j delay, .raise j delay ∈ acts → delay = 0) →
      ((after acts).isRaised i = true ↔ ∃ j moment, Kin acts i j ∧ Raises acts j moment)) ∧
    ((after acts).isRaised i = true → ∀ more, (after (acts ++ more)).isRaised i = true) ∧
    (∀ j, ¬ Kin acts i j → ∀ delay,
      ((after acts).raise j delay).isRaised i = (after acts).isRaised i ∧
      ∀ ms, (((after acts).raise j delay).sleep i ms).1 = ((after acts).sleep i ms).1) ∧
    (∀ ms,
      (((after acts).sleep i ms).1 = .error .interrupted ↔ RaisedInTime acts i ms) ∧
      (((after acts).sleep i ms).1 = .ok () ↔ ¬ RaisedInTime acts i ms)) ∧
    ((after acts).isRaised i = true → ∀ ms, RaisedInTime acts i ms) ∧
    (RaisedInTime acts i 0 ↔ (after acts).isRaised i = true) := by
  refine ⟨isRaised_iff, isRaised_iff_of_atOnce, isRaised_append, ?_, ?_, ?_, raisedInTime_zero_iff⟩
  · intro j hother delay
    exact ⟨isRaised_raise hother delay, sleep_raise hother delay⟩
  · intro ms
    rw [sleep_eq_interrupted_iff, sleep_eq_ok_iff, ne_eq, wakingAt?_after_eq_none_iff, not_not]
    exact ⟨Iff.rfl, Iff.rfl⟩
  · intro hraised ms
    obtain ⟨j, moment, hkin, hraises, hle⟩ := isRaised_iff.mp hraised
    exact ⟨j, moment, hkin, hraises, .inl hle⟩

/-- A clone of a clone is raised by way of the clone between, and stays so while somebody sleeps on
another signal. -/
theorem raised_by_family_clones :
    let acts : List Act := [.new, .clone 0, .clone 1, .new, .raise 1 0]
    ((∀ j delay, .raise j delay ∈ acts → delay = 0) ∧ (after acts).isRaised 2 = true ∧
      ¬ Kin acts 2 3) ∧
    (∃ j moment, Kin acts 2 j ∧ Raises acts j moment) ∧
    (after (acts ++ [.sleep 3 20])).isRaised 2 = true ∧
    (((after acts).raise 3 5).sleep 2 20).1 = ((after acts).sleep 2 20).1 ∧
    RaisedInTime acts 2 20 := by
  intro acts
  obtain ⟨-, hatOnce, hstays, hother, -, hintime, -⟩ := raised_by_family acts 2
  have hdelays : ∀ j delay, .raise j delay ∈ acts → delay = 0 := by
    intro j delay hmem
    simp [acts] at hmem
    exact hmem.2
  have hraised : (after acts).isRaised 2 = true := by decide
  have hthree : (after acts).family? 3 = some 3 := by decide
  have hstranger : ¬ Kin acts 2 3 := by
    rw [kin_iff hthree]
    decide
  exact ⟨⟨hdelays, hraised, hstranger⟩, (hatOnce hdelays).mp hraised, hstays hraised _,
    (hother 3 hstranger 5).2 20, hintime hraised 20⟩

end SprayWatch.StopSignals
