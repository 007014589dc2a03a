import Mathlib.Data.List.DropRight
import SprayWatch.Text.Blank

/-!
# Trimming

Trimming takes away the blanks around a text and nothing else; to trim once more changes nothing.
-/

namespace SprayWatch.Text

theorem trimEndChars_cons (c : Char) (cs : List Char) :
    trimEndChars (c :: cs) =
      if trimEndChars cs = [] ∧ isBlank c then [] else c :: trimEndChars cs := by
  rw [trimEndChars]
  cases trimEndChars cs with
  | nil => simp
  | cons d ds => simp

/-- What is left begins with the first character. -/
theorem eq_cons_of_trimEndChars {cs rest : List Char} {c : Char}
    (hleft : trimEndChars cs = c :: rest) : ∃ later, cs = c :: later := by
  cases cs with
  | nil => simp [trimEndChars] at hleft
  | cons d cs =>
      rw [trimEndChars_cons] at hleft
      split at hleft
      · simp at hleft
      · obtain ⟨rfl, -⟩ := List.cons.inj hleft
        exact ⟨cs, rfl⟩

theorem trimEndChars_append_cons {c : Char} (hword : isBlank c = false) (xs ys : List Char) :
    trimEndChars (xs ++ c :: ys) = xs ++ c :: trimEndChars ys := by
  induction xs with
  | nil => simp [trimEndChars_cons, hword]
  | cons x xs ih => simp [trimEndChars_cons, ih]

theorem trimChars_cons {c : Char} (hword : isBlank c = false) (cs : List Char) :
    trimChars (c :: cs) = c :: trimEndChars cs := by
  rw [trimChars, List.dropWhile_cons_of_neg (by simp [hword])]
  exact trimEndChars_append_cons hword [] cs

theorem trimEndChars_concat_of_isBlank {c : Char} (hblank : isBlank c = true) (xs : List Char) :
    trimEndChars (xs ++ [c]) = trimEndChars xs := by
  induction xs with
  | nil => simp [trimEndChars, hblank]
  | cons x xs ih => rw [List.cons_append, trimEndChars_cons, ih, ← trimEndChars_cons]

/-- Read from the front: an element goes only if all that comes after it goes. -/
theorem rdropWhile_cons {α : Type} (p : α → Bool) (a : α) (xs : List α) :
    (a :: xs).rdropWhile p =
      if xs.rdropWhile p = [] ∧ p a then [] else a :: xs.rdropWhile p := by
  induction xs using List.reverseRecOn with
  | nil => simp [List.rdropWhile_singleton]
  | append_singleton xs b ih =>
      rw [← List.cons_append, List.rdropWhile_concat, List.rdropWhile_concat, ih]
      split
      · rfl
      · simp

theorem trimEndChars_eq_rdropWhile (cs : List Char) : trimEndChars cs = cs.rdropWhile isBlank := by
  induction cs with
  | nil => rfl
  | cons c cs ih => rw [trimEndChars_cons, rdropWhile_cons, ih]

theorem trimEndChars_idem (cs : List Char) :
    trimEndChars (trimEndChars cs) = trimEndChars cs := by
  simp only [trimEndChars_eq_rdropWhile, List.rdropWhile_idempotent]

/-- Nothing is dropped off the end exactly if the last element stays. -/
theorem rdropWhile_eq_self_iff {α : Type} {p : α → Bool} {xs : List α} :
    xs.rdropWhile p = xs ↔ xs.getLast?.any p = false := by
  rw [List.rdropWhile_eq_self_iff]
  cases hlast : xs.getLast? with
  | none => simp [List.getLast?_eq_none_iff.mp hlast]
  | some a =>
      obtain ⟨hxs, rfl⟩ := List.mem_getLast?_eq_getLast hlast
      simp [hxs]

theorem trimEndChars_eq_self_iff {cs : List Char} :
    trimEndChars cs = cs ↔ cs.getLast?.any isBlank = false := by
  rw [trimEndChars_eq_rdropWhile, rdropWhile_eq_self_iff]

theorem trimEndChars_append_of_blanks {ys : List Char} (hblanks : ∀ c ∈ ys, isBlank c = true)
    (xs : List Char) : trimEndChars (xs ++ ys) = trimEndChars xs := by
  induction ys using List.reverseRecOn with
  | nil => simp
  | append_singleton ys c ih =>
      have hlast : isBlank c = true := hblanks c (by simp)
      have hfront : ∀ d ∈ ys, isBlank d = true := fun d hmem => hblanks d (by simp [hmem])
      rw [← List.append_assoc, trimEndChars_concat_of_isBlank hlast, ih hfront]

/-- Blanks around a text are trimmed away, whatever they are. -/
theorem trimChars_surrounded {before after : List Char} (hbefore : ∀ c ∈ before, isBlank c = true)
    (hafter : ∀ c ∈ after, isBlank c = true) (cs : List Char) :
    trimChars (before ++ cs ++ after) = trimChars cs := by
  have hcut : before.dropWhile isBlank = [] := List.dropWhile_eq_nil_iff.mpr hbefore
  have hdropped : after.dropWhile isBlank = [] := List.dropWhile_eq_nil_iff.mpr hafter
  unfold trimChars
  rw [List.append_assoc, List.dropWhile_append, hcut, List.isEmpty_nil, if_pos rfl,
    List.dropWhile_append, hdropped]
  cases hcs : cs.dropWhile isBlank with
  | nil => rfl
  | cons c rest => exact trimEndChars_append_of_blanks hafter (c :: rest)

theorem dropWhile_trimEndChars {cs : List Char} (hfirst : cs.dropWhile isBlank = cs) :
    (trimEndChars cs).dropWhile isBlank = trimEndChars cs := by
  cases cs with
  | nil => rfl
  | cons c cs =>
      have hc : ¬ isBlank c :=
        List.dropWhile_eq_self_iff.mp hfirst (Nat.zero_lt_succ _)
      rw [trimEndChars_cons, if_neg (by simp [hc]), List.dropWhile_cons_of_neg hc]

theorem dropWhile_trimChars (cs : List Char) :
    (trimChars cs).dropWhile isBlank = trimChars cs :=
  dropWhile_trimEndChars (List.dropWhile_idempotent isBlank cs)

theorem trimChars_idem (cs : List Char) : trimChars (trimChars cs) = trimChars cs := by
  rw [trimChars, dropWhile_trimChars, trimChars, trimEndChars_idem]

/-- No blank is left at the beginning of a trimmed text. -/
theorem head?_trimChars (cs : List Char) : (trimChars cs).head?.any isBlank = false := by
  have hfirst := List.head?_dropWhile_not isBlank (trimChars cs)
  rw [dropWhile_trimChars] at hfirst
  cases hhead : (trimChars cs).head? with
  | none => rfl
  | some c =>
      rw [hhead] at hfirst
      simpa using hfirst

theorem getLast?_trimChars (cs : List Char) : (trimChars cs).getLast?.any isBlank = false :=
  trimEndChars_eq_self_iff.mp (trimEndChars_idem _)

/-- Where there are no blanks, nothing is trimmed away. -/
theorem trimChars_of_unspaced {cs : List Char} (hwords : ∀ c ∈ cs, isBlank c = false) :
    trimChars cs = cs := by
  have hend : trimEndChars cs = cs := by
    induction cs with
    | nil => rfl
    | cons c cs ih =>
        rw [List.forall_mem_cons] at hwords
        rw [trimEndChars_cons, ih hwords.2, if_neg (by simp [hwords.1])]
  have hfirst : cs.dropWhile isBlank = cs := by
    rw [List.dropWhile_eq_self_iff]
    intro hlength
    simp [hwords _ (List.getElem_mem hlength)]
  rw [trimChars, hfirst, hend]

theorem trimChars_eq_nil {cs : List Char} :
    trimChars cs = [] ↔ ∀ c ∈ cs, isBlank c = true := by
  rw [← List.dropWhile_eq_nil_iff]
  unfold trimChars
  constructor
  · intro hnil
    cases hdropped : cs.dropWhile isBlank with
    | nil => rfl
    | cons c rest =>
        have hword : isBlank c = false := by
          have hhead := List.head_dropWhile_not isBlank (l := cs) (by simp [hdropped])
          simpa [hdropped] using hhead
        have hkept := trimEndChars_append_cons hword [] rest
        rw [hdropped] at hnil
        simp [hnil] at hkept
  · intro hdropped
    rw [hdropped]
    rfl

/-- Of a text nothing is left exactly if there is nothing but blanks in it. -/
theorem trim_isEmpty (s : String) : (trim s).isEmpty = isAllBlank s := by
  rw [Bool.eq_iff_iff, String.isEmpty_iff, ← String.toList_eq_nil_iff, trim, String.toList_ofList,
    trimChars_eq_nil, isAllBlank, List.all_eq_true]

theorem trim_of_isAllBlank {s : String} (hblank : isAllBlank s = true) : trim s = "" := by
  rw [← String.isEmpty_iff, trim_isEmpty, hblank]

theorem trim_trim (s : String) : trim (trim s) = trim s := by
  simp [trim, trimChars_idem]

end SprayWatch.Text
