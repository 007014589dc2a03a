import Mathlib.Data.List.Basic
import Mathlib.Data.List.Induction
import SprayWatch.Log

/-!
# Printed records

Whenever the log is used, the threshold in force is the one that was set last.  A plain record is
printed exactly if it reaches the threshold in force when it is logged.  The message that the
program starts is printed without a look at the threshold, so it is the one record that can be
printed below it.
-/

namespace SprayWatch.Log

/-- The record that a use of the log is about. -/
def Act.record? : Act → Option Record
  | .setThreshold _ => none
  | .plain r => some r
  | .startup => some Log.startup

def Act.set? : Act → Option Priority
  | .setThreshold p => some p
  | _ => none

/-- The threshold in force after some uses of the log: the one that was set last. -/
def inForce (threshold : Priority) (acts : List Act) : Priority :=
  (acts.filterMap Act.set?).getLast?.getD threshold

/-- The record that a use is about, unless it stays below a threshold. -/
def Act.above? (threshold : Priority) (a : Act) : Option Record :=
  a.record?.filter fun r => r.priority.reaches threshold

/-- What is printed for a use of the log under a threshold. -/
def Act.printed? (threshold : Priority) (a : Act) : Option Record :=
  if a = .startup then some Log.startup else a.above? threshold

theorem inForce_concat (threshold : Priority) (acts : List Act) (a : Act) :
    inForce threshold (acts ++ [a]) = a.set?.getD (inForce threshold acts) := by
  unfold inForce
  rw [List.filterMap_append]
  cases ha : a.set? with
  | none => simp [ha]
  | some p => simp [ha]

theorem Act.run_fst (threshold : Priority) (a : Act) :
    (a.run threshold).1 = a.set?.getD threshold := by
  cases a <;> rfl

theorem Act.run_snd (threshold : Priority) (a : Act) :
    (a.run threshold).2 = (a.printed? threshold).toList := by
  cases a with
  | setThreshold p => rfl
  | plain r =>
      simp only [run, printed?, above?, record?, Option.filter_some, reduceCtorEq, if_false]
      cases r.priority.reaches threshold <;> rfl
  | startup => rfl

theorem runAll_append (threshold : Priority) (acts more : List Act) :
    runAll threshold (acts ++ more) =
      ((runAll (runAll threshold acts).1 more).1,
        (runAll threshold acts).2 ++ (runAll (runAll threshold acts).1 more).2) := by
  induction acts generalizing threshold with
  | nil => rfl
  | cons a acts ih => simp [runAll, ih]

theorem runAll_fst (threshold : Priority) (acts : List Act) :
    (runAll threshold acts).1 = inForce threshold acts := by
  induction acts using List.reverseRecOn with
  | nil => rfl
  | append_singleton acts a ih =>
      rw [runAll_append, inForce_concat, ← ih, ← Act.run_fst]
      rfl

theorem runAll_snd_concat (threshold : Priority) (acts : List Act) (a : Act) :
    (runAll threshold (acts ++ [a])).2 =
      (runAll threshold acts).2 ++ (a.run (inForce threshold acts)).2 := by
  rw [runAll_append]
  simp [runAll, runAll_fst]

/-- What is told of each use of the log, by the threshold that is in force then. -/
def useByUse (told : Priority → Act → Option Record) (threshold : Priority) (acts : List Act) :
    List Record :=
  acts.zipIdx.filterMap fun use => told (inForce threshold (acts.take use.2)) use.1

theorem useByUse_concat (told : Priority → Act → Option Record) (threshold : Priority)
    (acts : List Act) (a : Act) :
    useByUse told threshold (acts ++ [a]) =
      useByUse told threshold acts ++ (told (inForce threshold acts) a).toList := by
  unfold useByUse
  rw [List.zipIdx_append, List.filterMap_append]
  congr 1
  · apply List.filterMap_congr
    intro use hmem
    have hk : use.2 < acts.length := List.snd_lt_of_mem_zipIdx hmem
    rw [List.take_append_of_le_length (Nat.le_of_lt hk)]
  · cases htold : told (inForce threshold acts) a with
    | none => simp [htold]
    | some r => simp [htold]

theorem runAll_snd (threshold : Priority) (acts : List Act) :
    (runAll threshold acts).2 = useByUse Act.printed? threshold acts := by
  induction acts using List.reverseRecOn with
  | nil => rfl
  | append_singleton acts a ih =>
      rw [runAll_snd_concat, useByUse_concat, ih, Act.run_snd]

/-- The message on the start is used under no threshold that is above it. -/
def StartsInView (threshold : Priority) (acts : List Act) : Prop :=
  ∀ k, acts[k]? = some .startup →
    Log.startup.priority.reaches (inForce threshold (acts.take k)) = true

theorem startsInView_concat {threshold : Priority} {acts : List Act} {a : Act} :
    StartsInView threshold (acts ++ [a]) ↔
      StartsInView threshold acts ∧
        (a = .startup → Log.startup.priority.reaches (inForce threshold acts) = true) := by
  have hlast : (acts ++ [a])[acts.length]? = some a := by simp
  constructor
  · intro hview
    constructor
    · intro k hk
      have hlt : k < acts.length := (List.getElem?_eq_some_iff.mp hk).1
      have hreaches := hview k (by rw [List.getElem?_append_left hlt, hk])
      rwa [List.take_append_of_le_length (Nat.le_of_lt hlt)] at hreaches
    · rintro rfl
      have hreaches := hview acts.length hlast
      rwa [List.take_left] at hreaches
  · rintro ⟨hview, hnew⟩ k hk
    rcases Nat.lt_trichotomy k acts.length with hlt | rfl | hgt
    · rw [List.getElem?_append_left hlt] at hk
      rw [List.take_append_of_le_length (Nat.le_of_lt hlt)]
      exact hview k hk
    · rw [hlast, Option.some.injEq] at hk
      rw [List.take_left]
      exact hnew hk
    · rw [List.getElem?_eq_none (by rw [List.length_append]; exact hgt)] at hk
      simp at hk

theorem Act.printed?_of_ne {a : Act} (hplain : a ≠ .startup) (threshold : Priority) :
    a.printed? threshold = a.above? threshold :=
  if_neg hplain

theorem Act.startup_above? (threshold : Priority) :
    Act.startup.above? threshold =
      if Log.startup.priority.reaches threshold then some Log.startup else none := rfl

theorem useByUse_sublist (threshold : Priority) (acts : List Act) :
    (useByUse Act.above? threshold acts).Sublist (useByUse Act.printed? threshold acts) := by
  induction acts using List.reverseRecOn with
  | nil => exact List.Sublist.refl []
  | append_singleton acts a ih =>
      rw [useByUse_concat, useByUse_concat]
      apply ih.append
      by_cases hstart : a = .startup
      · subst hstart
        rw [Act.startup_above?]
        cases Log.startup.priority.reaches (inForce threshold acts) with
        | true => exact List.Sublist.refl _
        | false => exact List.nil_sublist _
      · rw [Act.printed?_of_ne hstart]

theorem useByUse_eq_iff (threshold : Priority) (acts : List Act) :
    useByUse Act.printed? threshold acts = useByUse Act.above? threshold acts ↔
      StartsInView threshold acts := by
  induction acts using List.reverseRecOn with
  | nil => simp [useByUse, StartsInView]
  | append_singleton acts a ih =>
      rw [useByUse_concat, useByUse_concat, startsInView_concat, ← ih]
      by_cases hstart : a = .startup
      · subst hstart
        rw [Act.startup_above?]
        cases hreaches : Log.startup.priority.reaches (inForce threshold acts) with
        | true => simp [Act.printed?]
        | false =>
            -- The printed list is longer here, and what comes later does not make up for it.
            have hle := (useByUse_sublist threshold acts).length_le
            apply iff_of_false
            · intro heq
              have hlength := congrArg List.length heq
              simp only [Act.printed?, if_true, Option.toList_some, Bool.false_eq_true, if_false,
                Option.toList_none, List.append_nil, List.length_append,
                List.length_singleton] at hlength
              omega
            · simp
      · rw [Act.printed?_of_ne hstart]
        simp [hstart]

/-- Records are printed in the order in which the log is used, each use being held against the
threshold in force.  Whatever is printed reaches that threshold, unless it is the message on the
start; and exactly if that message is never used below the threshold, what is printed is every record
that reaches it, once each, and nothing else. -/
theorem printed_use_by_use (threshold : Priority) (acts : List Act) :
    (runAll threshold acts).2 = useByUse Act.printed? threshold acts ∧
    (∀ r ∈ (runAll threshold acts).2,
      r = Log.startup ∨
        ∃ k, acts[k]? = some (.plain r) ∧
          r.priority.reaches (inForce threshold (acts.take k)) = true) ∧
    ((runAll threshold acts).2 = useByUse Act.above? threshold acts ↔
      StartsInView threshold acts) := by
  rw [runAll_snd]
  refine ⟨rfl, ?_, useByUse_eq_iff threshold acts⟩
  intro r hmem
  obtain ⟨⟨a, k⟩, huse, hprinted⟩ := List.mem_filterMap.mp hmem
  have hk : acts[k]? = some a := List.mk_mem_zipIdx_iff_getElem?.mp huse
  cases a with
  | setThreshold p => simp [Act.printed?, Act.above?, Act.record?] at hprinted
  | startup => exact .inl (Option.some.inj hprinted).symm
  | plain other =>
      rw [Act.printed?_of_ne (by simp), Act.above?, Act.record?,
        Option.filter_eq_some_iff] at hprinted
      obtain ⟨heq, hreaches⟩ := hprinted
      obtain rfl := Option.some.inj heq
      exact .inr ⟨k, hk, hreaches⟩

/-- The message on the start is printed although the threshold in force is above it. -/
theorem startup_printed_below_threshold :
    inForce .info [.setThreshold .critical] = .critical ∧
      Log.startup.priority.reaches .critical = false ∧
      (runAll .info [.setThreshold .critical, .startup]).2 = [Log.startup] := by
  decide

end SprayWatch.Log
