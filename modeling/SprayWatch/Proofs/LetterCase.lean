import SprayWatch.Proofs.Trimming
import SprayWatch.Text.Lowercase

/-!
# Letter case

What lower-casing does to a text, as far as it matters to those who compare texts apart from letter
case.  A capital sigma depends on the letters around it; but it never looks past a blank, and it is
the only letter that looks around at all.  Blanks are left as they are and none come up anew, so
trimming may as well be done after lower-casing.
-/

namespace SprayWatch.Text

/-! ## Characters -/

def capitalSigma : Char := Char.ofNat 0x3A3

theorem val_beq_capitalSigma (c : Char) : (c.val == 0x3A3) = decide (c = capitalSigma) := by
  by_cases heq : c = capitalSigma
  · subst heq
    decide
  · have hval : c.val ≠ 0x3A3 := by
      intro hsame
      exact heq (Char.ext hsame)
    simp [heq, hval]

theorem forall_ascii {P : Char → Prop} (hpoints : ∀ n < 128, P (Char.ofNat n)) {c : Char}
    (hascii : c.val < 128) : P c := by
  have hpoint := hpoints c.toNat hascii
  rwa [Char.ofNat_toNat] at hpoint

/-- The code points of the blanks. -/
def blankPoints : List Nat :=
  List.range' 0x9 5 ++ List.range' 0x2000 11 ++
    [0x20, 0x85, 0xA0, 0x1680, 0x2028, 0x2029, 0x202F, 0x205F, 0x3000]

theorem mem_blankPoints {c : Char} (hblank : isBlank c = true) : c.toNat ∈ blankPoints := by
  have hpoint : c.toNat = c.val.toNat := rfl
  simp only [isBlank, Bool.or_eq_true, Bool.and_eq_true, decide_eq_true_eq, beq_iff_eq] at hblank
  simp only [blankPoints, List.mem_append, List.mem_range'_1, List.mem_cons, List.not_mem_nil,
    or_false]
  omega

theorem forall_blank {P : Char → Prop} (hpoints : ∀ n ∈ blankPoints, P (Char.ofNat n)) {c : Char}
    (hblank : isBlank c = true) : P c := by
  have hpoint := hpoints c.toNat (mem_blankPoints hblank)
  rwa [Char.ofNat_toNat] at hpoint

/-- A character at which the search for a cased letter ends without one. -/
structure Divides (c : Char) : Prop where
  uncased : isCased c = false
  seen : isCaseIgnorable c = false

theorem Divides.ne_capitalSigma {c : Char} (hdivides : Divides c) : c ≠ capitalSigma := by
  intro hsigma
  have huncased := hdivides.uncased
  rw [hsigma] at huncased
  exact absurd huncased (by decide)

section Blanks

variable {c : Char} (hblank : isBlank c = true)
include hblank

theorem blank_table :
    isCased c = false ∧ isCaseIgnorable c = false ∧ lowerChar c = [c] :=
  forall_blank
    (P := fun c => isCased c = false ∧ isCaseIgnorable c = false ∧ lowerChar c = [c])
    (by decide +kernel) hblank

theorem divides_of_isBlank : Divides c := by
  obtain ⟨huncased, hseen, -⟩ := blank_table hblank
  exact ⟨huncased, hseen⟩

theorem lowerChar_of_isBlank : lowerChar c = [c] :=
  (blank_table hblank).2.2

end Blanks

/-- Characters are alike when nothing in this file tells them apart. -/
structure AlikeInCase (c d : Char) : Prop where
  blank_eq : isBlank c = isBlank d
  cased_eq : isCased c = isCased d
  ignorable_eq : isCaseIgnorable c = isCaseIgnorable d
  sigma_eq : (c.val == 0x3A3) = (d.val == 0x3A3)
  lower_eq : lowerChar c = lowerChar d

theorem toLower_of_not_ascii {c : Char} (hbeyond : ¬ c.val < 128) : c.toLower = c := by
  have hcapital : ¬ (c.val ≥ 'A'.val ∧ c.val ≤ 'Z'.val) := by
    intro hcapital
    have hlast : c.val ≤ 'Z'.val := hcapital.2
    exact hbeyond (UInt32.lt_of_le_of_lt hlast (by decide))
  exact dif_neg hcapital

/-- The letters of seven bits are like their lower case, and the marks are their own. -/
theorem ascii_table {c : Char} (hascii : c.val < 128) :
    (isBlank c.toLower = isBlank c ∧ isCased c.toLower = isCased c ∧
      isCaseIgnorable c.toLower = isCaseIgnorable c ∧
      (c.toLower.val == 0x3A3) = (c.val == 0x3A3) ∧ lowerChar c.toLower = lowerChar c) ∧
    (isAlphanumeric c = false → c.toLower = c) :=
  forall_ascii
    (P := fun c =>
      (isBlank c.toLower = isBlank c ∧ isCased c.toLower = isCased c ∧
        isCaseIgnorable c.toLower = isCaseIgnorable c ∧
        (c.toLower.val == 0x3A3) = (c.val == 0x3A3) ∧ lowerChar c.toLower = lowerChar c) ∧
      (isAlphanumeric c = false → c.toLower = c))
    (by decide +kernel) hascii

theorem alikeInCase_toLower (c : Char) : AlikeInCase c.toLower c := by
  by_cases hascii : c.val < 128
  · obtain ⟨⟨hblank, hcased, hignorable, hsigma, hlower⟩, -⟩ := ascii_table hascii
    exact ⟨hblank, hcased, hignorable, hsigma, hlower⟩
  · rw [toLower_of_not_ascii hascii]
    exact ⟨rfl, rfl, rfl, rfl, rfl⟩

theorem isDigit_table {c : Char} (hdigit : c.isDigit = true) :
    isBlank c = false ∧ c ≠ capitalSigma ∧ lowerChar c = [c] := by
  have hascii : c.val < 128 := by
    simp only [Char.isDigit, Bool.and_eq_true, decide_eq_true_eq] at hdigit
    exact UInt32.lt_of_le_of_lt hdigit.2 (by decide)
  exact forall_ascii
    (P := fun c => c.isDigit = true →
      isBlank c = false ∧ c ≠ capitalSigma ∧ lowerChar c = [c])
    (by decide +kernel) hascii hdigit

/-! ## Runs of capitals -/

/-- The code points of a run of capitals. -/
def runPoints (r : Nat × Nat × Nat × Int) : List Nat :=
  List.range' r.1 ((r.2.1 - r.1) / r.2.2.1 + 1) r.2.2.1

theorem capitalRun?_eq_some {n : Nat} {r : Nat × Nat × Nat × Int}
    (hrun : capitalRun? n = some r) : r ∈ lowerCaseRuns ∧ n ∈ runPoints r := by
  have hmem := List.mem_of_find?_eq_some hrun
  have hin := List.find?_some hrun
  simp only [Bool.and_eq_true, decide_eq_true_eq, beq_iff_eq] at hin
  obtain ⟨⟨hfirst, hlast⟩, hstep⟩ := hin
  have hsteps : (n - r.1) / r.2.2.1 ≤ (r.2.1 - r.1) / r.2.2.1 :=
    Nat.div_le_div_right (by omega)
  have hexact : r.2.2.1 * ((n - r.1) / r.2.2.1) = n - r.1 :=
    Nat.mul_div_cancel' (Nat.dvd_of_mod_eq_zero hstep)
  refine ⟨hmem, List.mem_range'.mpr ⟨(n - r.1) / r.2.2.1, by omega, by omega⟩⟩

/-- The lower case of a character is that of a seven bit one, or there are two of it, or it is away
by as much as the run says, or the character has no lower case of its own. -/
theorem lowerChar_cases (c : Char) :
    (c.val < 128 ∧ lowerChar c = [c.toLower]) ∨
      (c = Char.ofNat 0x130 ∧ lowerChar c = ['i', Char.ofNat 0x307]) ∨
      (¬ c.val < 128 ∧ ∃ r ∈ lowerCaseRuns, c.toNat ∈ runPoints r ∧
        lowerChar c = [Char.ofNat (c.toNat + r.2.2.2).toNat]) ∨
      lowerChar c = [c] := by
  by_cases hascii : c.val < 128
  · exact .inl ⟨hascii, by simp [lowerChar, hascii]⟩
  · by_cases hdotted : c = Char.ofNat 0x130
    · subst hdotted
      exact .inr (.inl ⟨rfl, by decide⟩)
    · have hval : (c.val == 0x130) = false := by
        rw [beq_eq_false_iff_ne]
        intro hsame
        exact hdotted (Char.ext hsame)
      cases hrun : capitalRun? c.toNat with
      | none => exact .inr (.inr (.inr (by simp [lowerChar, hascii, hval, hrun])))
      | some r =>
          obtain ⟨hmem, hpoint⟩ := capitalRun?_eq_some hrun
          refine .inr (.inr (.inl ⟨hascii, r, hmem, hpoint, ?_⟩))
          simp [lowerChar, hascii, hval, hrun]

theorem lowerChar_ne_nil (c : Char) : lowerChar c ≠ [] := by
  rcases lowerChar_cases c with ⟨-, heq⟩ | ⟨-, heq⟩ | ⟨-, r, -, -, heq⟩ | heq
  · simp [heq]
  · simp [heq]
  · simp [heq]
  · simp [heq]

theorem not_isBlank_of_mem_lowerChar {c d : Char} (hword : isBlank c = false)
    (hmem : d ∈ lowerChar c) : isBlank d = false := by
  rcases lowerChar_cases c with ⟨-, heq⟩ | ⟨-, heq⟩ | ⟨-, r, hrun, hpoint, heq⟩ | heq
  · obtain rfl : d = c.toLower := by simpa [heq] using hmem
    rw [(alikeInCase_toLower c).blank_eq, hword]
  · rw [heq, List.mem_cons, List.mem_singleton] at hmem
    rcases hmem with rfl | rfl
    · decide
    · decide
  · have htable : ∀ r ∈ lowerCaseRuns, ∀ n ∈ runPoints r,
        isBlank (Char.ofNat (n + r.2.2.2).toNat) = false := by decide +kernel
    obtain rfl : d = Char.ofNat (c.toNat + r.2.2.2).toNat := by simpa [heq] using hmem
    exact htable r hrun c.toNat hpoint
  · obtain rfl : d = c := by simpa [heq] using hmem
    exact hword

/-! ## Letters and numbers -/

/-- Is every point in one of the ranges?  Both are in ascending order, so that a range that one
point has left behind need not be looked at again. -/
def allWithin : List (Nat × Nat) → List Nat → Bool
  | _, [] => true
  | ranges, n :: ns =>
    match ranges.dropWhile fun q => Nat.blt q.2 n with
    | [] => false
    | q :: later => Nat.ble q.1 n && allWithin (q :: later) ns

theorem inRanges_of_allWithin {ranges : List (Nat × Nat)} {points : List Nat} {n : Nat}
    (hwithin : allWithin ranges points = true) (hmem : n ∈ points) : inRanges ranges n = true := by
  induction points generalizing ranges with
  | nil => simp at hmem
  | cons m points ih =>
      have hsuffix := List.dropWhile_suffix (fun q : Nat × Nat => Nat.blt q.2 m) (l := ranges)
      rw [allWithin] at hwithin
      cases hdropped : ranges.dropWhile fun q => Nat.blt q.2 m with
      | nil => simp [hdropped] at hwithin
      | cons q later =>
          rw [hdropped] at hsuffix
          simp only [hdropped, Bool.and_eq_true, Nat.ble_eq] at hwithin
          obtain ⟨hfirst, hlater⟩ := hwithin
          have hsub : inRanges (q :: later) n = true → inRanges ranges n = true := by
            simp only [inRanges, List.any_eq_true]
            intro hany
            obtain ⟨r, hr, hin⟩ := hany
            exact ⟨r, hsuffix.subset hr, hin⟩
          apply hsub
          rcases List.mem_cons.mp hmem with rfl | hrest
          · have hlast : n ≤ q.2 := by
              have hhead := List.head_dropWhile_not (fun q : Nat × Nat => Nat.blt q.2 n)
                (l := ranges) (by simp [hdropped])
              simp only [hdropped, List.head_cons] at hhead
              by_contra hpast
              simp [Nat.blt_eq.mpr (Nat.lt_of_not_le hpast)] at hhead
            simp [inRanges, hfirst, hlast]
          · exact ih hlater hrest

theorem lowerChar_of_not_isAlphanumeric {c : Char} (hmark : isAlphanumeric c = false) :
    lowerChar c = [c] := by
  rcases lowerChar_cases c with ⟨hascii, heq⟩ | ⟨hdotted, -⟩ | ⟨hbeyond, r, hrun, hpoint, -⟩ | heq
  · rw [heq, (ascii_table hascii).2 hmark]
  · rw [hdotted] at hmark
    exact absurd hmark (by decide)
  · have hmem : c.toNat ∈ lowerCaseRuns.flatMap runPoints :=
      List.mem_flatMap.mpr ⟨r, hrun, hpoint⟩
    have hletter : inRanges alphanumericRanges c.toNat = true :=
      inRanges_of_allWithin (by decide +kernel) hmem
    have hval : isAlphanumeric c = inRanges alphanumericRanges c.toNat := if_neg hbeyond
    rw [hval, hletter] at hmark
    exact absurd hmark (by decide)
  · exact heq

/-! ## Looking around -/

theorem meetsCased_append_cons {c : Char} (hdivides : Divides c) (xs ys : List Char) :
    meetsCased (xs ++ c :: ys) = meetsCased xs := by
  unfold meetsCased
  induction xs with
  | nil => simp [hdivides.seen, hdivides.uncased]
  | cons x xs ih =>
      cases hx : isCaseIgnorable x with
      | true => simpa [hx] using ih
      | false => simp [hx]

/-- The lower case of a character where it stands. -/
def lowerIn (before : List Char) (c : Char) (after : List Char) : List Char :=
  if c.val == 0x3A3 then
    if meetsCased before && !meetsCased after then [Char.ofNat 0x3C2] else [Char.ofNat 0x3C3]
  else lowerChar c

theorem lowerAfter_cons (before : List Char) (c : Char) (cs : List Char) :
    lowerAfter before (c :: cs) = lowerIn before c cs ++ lowerAfter (c :: before) cs := rfl

theorem lowerIn_of_ne {c : Char} (hother : c ≠ capitalSigma) (before after : List Char) :
    lowerIn before c after = lowerChar c := by
  simp [lowerIn, val_beq_capitalSigma, hother]

theorem lowerIn_ne_nil (before : List Char) (c : Char) (after : List Char) :
    lowerIn before c after ≠ [] := by
  by_cases hsigma : c = capitalSigma
  · simp only [lowerIn, val_beq_capitalSigma, hsigma, decide_true, if_true]
    split
    · simp
    · simp
  · rw [lowerIn_of_ne hsigma]
    exact lowerChar_ne_nil c

theorem not_isBlank_of_mem_lowerIn {before after : List Char} {c d : Char}
    (hword : isBlank c = false) (hmem : d ∈ lowerIn before c after) : isBlank d = false := by
  by_cases hsigma : c = capitalSigma
  · simp only [lowerIn, val_beq_capitalSigma, hsigma, decide_true, if_true] at hmem
    split at hmem
    · obtain rfl := List.mem_singleton.mp hmem
      decide
    · obtain rfl := List.mem_singleton.mp hmem
      decide
  · rw [lowerIn_of_ne hsigma] at hmem
    exact not_isBlank_of_mem_lowerChar hword hmem

/-- Where there are no blanks, lower-casing brings none in. -/
theorem not_isBlank_of_mem_lowerAfter {before cs : List Char} {d : Char}
    (hwords : ∀ c ∈ cs, isBlank c = false) (hmem : d ∈ lowerAfter before cs) :
    isBlank d = false := by
  induction cs generalizing before with
  | nil => simp [lowerAfter] at hmem
  | cons c cs ih =>
      rw [lowerAfter_cons, List.mem_append] at hmem
      rcases hmem with hhere | hlater
      · exact not_isBlank_of_mem_lowerIn (hwords c (by simp)) hhere
      · exact ih (fun e he => hwords e (by simp [he])) hlater

section Divided

variable {c : Char} (hdivides : Divides c)
include hdivides

/-- Nobody looks back past a character that divides. -/
theorem lowerAfter_append_cons (before further cs : List Char) :
    lowerAfter (before ++ c :: further) cs = lowerAfter before cs := by
  induction cs generalizing before with
  | nil => rfl
  | cons d cs ih =>
      have hlater := ih (d :: before)
      rw [List.cons_append] at hlater
      rw [lowerAfter_cons, lowerAfter_cons, hlater]
      simp only [lowerIn, meetsCased_append_cons hdivides]

/-- A character that divides a text divides its lower case, and what is on either side of it might
as well stand alone. -/
theorem lowerAfter_divided (before xs ys : List Char) :
    lowerAfter before (xs ++ c :: ys) =
      lowerAfter before xs ++ (lowerChar c ++ lowerAfter [] ys) := by
  induction xs generalizing before with
  | nil =>
      have hafter := lowerAfter_append_cons hdivides [] before ys
      rw [List.nil_append] at hafter
      rw [List.nil_append, lowerAfter_cons, hafter, lowerIn_of_ne hdivides.ne_capitalSigma]
      rfl
  | cons x xs ih =>
      rw [List.cons_append, lowerAfter_cons, ih, lowerAfter_cons, List.append_assoc]
      simp only [lowerIn, meetsCased_append_cons hdivides]

end Divided

/-- Letters other than the capital sigma do not look around. -/
theorem lowerAfter_append_of_notMem {xs : List Char} (hnone : capitalSigma ∉ xs)
    (before ys : List Char) :
    lowerAfter before (xs ++ ys) =
      xs.flatMap lowerChar ++ lowerAfter (xs.reverse ++ before) ys := by
  induction xs generalizing before with
  | nil => rfl
  | cons x xs ih =>
      rw [List.mem_cons, not_or] at hnone
      obtain ⟨hx, hxs⟩ := hnone
      rw [List.cons_append, lowerAfter_cons, ih hxs, lowerIn_of_ne (Ne.symm hx)]
      simp

/-- The last letter of a text ends its lower case. -/
theorem lowerAfter_concat (before cs : List Char) (c : Char) :
    ∃ front, lowerAfter before (cs ++ [c]) = front ++ lowerIn (cs.reverse ++ before) c [] := by
  induction cs generalizing before with
  | nil => exact ⟨[], by simp [lowerAfter_cons, lowerAfter]⟩
  | cons d cs ih =>
      obtain ⟨front, hfront⟩ := ih (d :: before)
      refine ⟨lowerIn before d (cs ++ [c]) ++ front, ?_⟩
      rw [List.cons_append, lowerAfter_cons, hfront]
      simp

/-! ## Trimming -/

theorem dropWhile_lowerAfter (cs : List Char) :
    (lowerAfter [] cs).dropWhile isBlank = lowerAfter [] (cs.dropWhile isBlank) := by
  induction cs with
  | nil => rfl
  | cons c cs ih =>
      cases hc : isBlank c with
      | true =>
          have hcut := lowerAfter_divided (divides_of_isBlank hc) [] [] cs
          rw [List.nil_append, lowerChar_of_isBlank hc] at hcut
          rw [hcut, List.dropWhile_cons_of_pos hc]
          simpa [lowerAfter, hc] using ih
      | false =>
          have hkept : ∀ d ∈ lowerIn [] c cs, isBlank d = false :=
            fun d hmem => not_isBlank_of_mem_lowerIn hc hmem
          rw [List.dropWhile_cons_of_neg (by simp [hc]), lowerAfter_cons]
          cases hlower : lowerIn [] c cs with
          | nil => exact absurd hlower (lowerIn_ne_nil [] c cs)
          | cons d ds =>
              have hd : isBlank d = false := hkept d (by simp [hlower])
              simp [hd]

theorem trimEndChars_lowerAfter (before cs : List Char) :
    trimEndChars (lowerAfter before cs) = lowerAfter before (trimEndChars cs) := by
  induction cs using List.reverseRecOn with
  | nil => rfl
  | append_singleton cs c ih =>
      cases hc : isBlank c with
      | true =>
          rw [lowerAfter_divided (divides_of_isBlank hc), lowerChar_of_isBlank hc,
            trimEndChars_concat_of_isBlank hc, ← ih]
          exact trimEndChars_concat_of_isBlank hc _
      | false =>
          obtain ⟨front, hfront⟩ := lowerAfter_concat before cs c
          have hlast : ∃ ds d, lowerIn (cs.reverse ++ before) c [] = ds ++ [d] :=
            ⟨_, _, (List.dropLast_append_getLast (lowerIn_ne_nil _ c _)).symm⟩
          obtain ⟨ds, d, hlower⟩ := hlast
          have hd : isBlank d = false := not_isBlank_of_mem_lowerIn hc (by rw [hlower]; simp)
          rw [trimEndChars_append_cons hc, hfront, hlower, ← List.append_assoc,
            trimEndChars_append_cons hd, trimEndChars, List.append_assoc, ← hlower, ← hfront]

/-- A text may be trimmed before or after it is lower-cased. -/
theorem trimChars_lowerAfter (cs : List Char) :
    trimChars (lowerAfter [] cs) = lowerAfter [] (trimChars cs) := by
  unfold trimChars
  rw [dropWhile_lowerAfter, trimEndChars_lowerAfter]

theorem lowercase_trim (s : String) : lowercase (trim s) = trim (lowercase s) := by
  simp only [lowercase, trim, String.toList_ofList, trimChars_lowerAfter]

theorem getLast?_lowerAfter_isBlank (before cs : List Char) :
    (lowerAfter before cs).getLast?.any isBlank = cs.getLast?.any isBlank := by
  rcases List.eq_nil_or_concat cs with rfl | ⟨front, c, rfl⟩
  · rfl
  · rw [List.concat_eq_append]
    cases hc : isBlank c with
    | true =>
        rw [lowerAfter_divided (divides_of_isBlank hc), lowerChar_of_isBlank hc]
        simp [lowerAfter, hc]
    | false =>
        obtain ⟨lowered, hlowered⟩ := lowerAfter_concat before front c
        have hlast := List.getLast?_eq_some_getLast (lowerIn_ne_nil (front.reverse ++ before) c [])
        have hword := not_isBlank_of_mem_lowerIn hc (List.mem_of_getLast? hlast)
        rw [hlowered, List.getLast?_append, hlast]
        simp [hword, hc]

/-! ## Letters of seven bits -/

theorem meetsCased_map_toLower (cs : List Char) :
    meetsCased (cs.map Char.toLower) = meetsCased cs := by
  have hignored : isCaseIgnorable ∘ Char.toLower = isCaseIgnorable :=
    funext fun c => (alikeInCase_toLower c).ignorable_eq
  unfold meetsCased
  rw [List.dropWhile_map, hignored]
  cases cs.dropWhile isCaseIgnorable with
  | nil => rfl
  | cons c rest => exact (alikeInCase_toLower c).cased_eq

theorem lowerIn_map_toLower (before : List Char) (c : Char) (after : List Char) :
    lowerIn (before.map Char.toLower) c.toLower (after.map Char.toLower) =
      lowerIn before c after := by
  have halike := alikeInCase_toLower c
  simp only [lowerIn, meetsCased_map_toLower, halike.sigma_eq, halike.lower_eq]

theorem lowerAfter_map_toLower (before cs : List Char) :
    lowerAfter (before.map Char.toLower) (cs.map Char.toLower) = lowerAfter before cs := by
  induction cs generalizing before with
  | nil => rfl
  | cons c cs ih =>
      have hlater := ih (c :: before)
      rw [List.map_cons] at hlater
      rw [List.map_cons, lowerAfter_cons, lowerIn_map_toLower, hlater, lowerAfter_cons]

theorem toList_toLower (s : String) : s.toLower.toList = s.toList.map Char.toLower :=
  String.toList_map

/-- It makes no difference if the letters of seven bits have been lower-cased already. -/
theorem lowercase_toLower (s : String) : lowercase s.toLower = lowercase s := by
  have hsame := lowerAfter_map_toLower [] s.toList
  rw [lowercase, toList_toLower]
  exact congrArg String.ofList hsame

end SprayWatch.Text
