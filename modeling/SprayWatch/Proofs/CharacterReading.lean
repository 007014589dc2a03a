import Mathlib
import SprayWatch.Text.Utf8

/-!
# Reading characters

Bytes below 128 are characters by themselves, whatever comes before them, so reading can be cut at
any of them; and no other bytes are ever read as one of these characters.  What is written as text is
read back character by character.
-/

namespace SprayWatch.Text

/-- A byte that is a character by itself. -/
def isSingle (b : UInt8) : Bool := b < 0x80

theorem readChars_nil : readChars [] = [] := by
  rw [readChars]

theorem readChars_cons (b : UInt8) (rest : List UInt8) :
    readChars (b :: rest) = (readChar b rest).1 :: readChars (rest.drop (readChar b rest).2) := by
  rw [readChars]

/-! ## Single bytes -/

theorem readChar_of_isSingle {b : UInt8} (hsingle : isSingle b = true) (rest : List UInt8) :
    readChar b rest = (some (Char.ofNat b.toNat), 0) :=
  if_pos (of_decide_eq_true hsingle)

theorem readChars_cons_of_isSingle {b : UInt8} (hsingle : isSingle b = true)
    (rest : List UInt8) :
    readChars (b :: rest) = some (Char.ofNat b.toNat) :: readChars rest := by
  rw [readChars_cons, readChar_of_isSingle hsingle, List.drop_zero]

theorem isSingle_iff {b : UInt8} : isSingle b = true ↔ b.toNat < 128 := by
  unfold isSingle
  rw [decide_eq_true_eq, UInt8.lt_iff_toNat_lt]
  rfl

theorem isContinuation_of_isSingle {b : UInt8} (hsingle : isSingle b = true) :
    isContinuation b = false := by
  rw [isSingle_iff] at hsingle
  unfold isContinuation
  rw [Bool.and_eq_false_iff, decide_eq_false_iff_not, UInt8.le_iff_toNat_le]
  have hlow : (0x80 : UInt8).toNat = 128 := rfl
  omega

/-! ## First bytes -/

/-- What is said of a first byte: how many bytes its character has, and which bytes come second. -/
inductive Leads : Nat → Nat → Nat → Nat → Prop where
  | two {n : Nat} (hlow : 0xC2 ≤ n) (hhigh : n ≤ 0xDF) : Leads n 2 0x80 0xBF
  | threeFirst : Leads 0xE0 3 0xA0 0xBF
  | three {n : Nat} (hlow : 0xE1 ≤ n) (hhigh : n ≤ 0xEF) (hother : n ≠ 0xED) : Leads n 3 0x80 0xBF
  | threeCut : Leads 0xED 3 0x80 0x9F
  | fourFirst : Leads 0xF0 4 0x90 0xBF
  | four {n : Nat} (hlow : 0xF1 ≤ n) (hhigh : n ≤ 0xF3) : Leads n 4 0x80 0xBF
  | fourLast : Leads 0xF4 4 0x80 0x8F

theorem leads_of_leadByte? {b low high : UInt8} {size : Nat}
    (hlead : leadByte? b = some (size, low, high)) :
    Leads b.toNat size low.toNat high.toNat := by
  unfold leadByte? at hlead
  simp only [Bool.and_eq_true, decide_eq_true_eq, UInt8.le_iff_toNat_le, beq_iff_eq] at hlead
  repeat' split at hlead
  all_goals simp only [Option.some.injEq, Prod.mk.injEq, reduceCtorEq] at hlead
  all_goals obtain ⟨rfl, rfl, rfl⟩ := hlead
  next hrange => exact .two hrange.1 hrange.2
  next heq => exact heq ▸ .threeFirst
  next heq => exact heq ▸ .threeCut
  next hcut hrange =>
    exact .three hrange.1 hrange.2 fun heq => hcut (UInt8.toNat_inj.mp heq)
  next heq => exact heq ▸ .fourFirst
  next hrange => exact .four hrange.1 hrange.2
  next heq => exact heq ▸ .fourLast

theorem leadByte?_of_leads {b : UInt8} {size low high : Nat} (hleads : Leads b.toNat size low high) :
    leadByte? b = some (size, UInt8.ofNat low, UInt8.ofNat high) := by
  have hsame : ∀ c : UInt8, b.toNat = c.toNat → b = c := fun c => UInt8.toNat_inj.mp
  have hdiffers : ∀ c : UInt8, b.toNat ≠ c.toNat → ¬ b = c := fun c => mt (congrArg UInt8.toNat)
  generalize hb : b.toNat = n at hleads hdiffers
  unfold leadByte?
  simp only [Bool.and_eq_true, decide_eq_true_eq, UInt8.le_iff_toNat_le, beq_iff_eq, hb,
    UInt8.reduceToNat]
  cases hleads with
  | two hlow hhigh => exact if_pos ⟨hlow, hhigh⟩
  | threeFirst =>
      obtain rfl := hsame 0xE0 hb
      rfl
  | three hlow hhigh hother =>
      rw [if_neg (by omega), if_neg (hdiffers 0xE0 (Nat.ne_of_gt hlow)),
        if_neg (hdiffers 0xED hother), if_pos ⟨hlow, hhigh⟩]
      rfl
  | threeCut =>
      obtain rfl := hsame 0xED hb
      rfl
  | fourFirst =>
      obtain rfl := hsame 0xF0 hb
      rfl
  | four hlow hhigh =>
      have hnot : ∀ c : UInt8, c.toNat < 0xF1 → ¬ b = c := by
        intro c hc
        apply hdiffers
        omega
      rw [if_neg (by omega), if_neg (hnot 0xE0 (by decide)), if_neg (hnot 0xED (by decide)),
        if_neg (by omega), if_neg (hnot 0xF0 (by decide)), if_pos ⟨hlow, hhigh⟩]
      rfl
  | fourLast =>
      obtain rfl := hsame 0xF4 hb
      rfl

theorem Leads.low_le {n size low high : Nat} (hleads : Leads n size low high) :
    0x80 ≤ low ∧ high ≤ 0xBF ∧ 2 ≤ size ∧ size ≤ 4 := by
  cases hleads <;> omega

theorem Leads.le_first {n size low high : Nat} (hleads : Leads n size low high) : 0x80 ≤ n := by
  cases hleads <;> omega

/-! ## Characters of several bytes -/

theorem codePoint_two (b c : UInt8) :
    codePoint b 2 [c] = b.toNat % 32 * 64 + c.toNat % 64 := rfl

theorem codePoint_three (b c d : UInt8) :
    codePoint b 3 [c, d] = (b.toNat % 16 * 64 + c.toNat % 64) * 64 + d.toNat % 64 := rfl

theorem codePoint_four (b c d e : UInt8) :
    codePoint b 4 [c, d, e] =
      ((b.toNat % 8 * 64 + c.toNat % 64) * 64 + d.toNat % 64) * 64 + e.toNat % 64 := rfl

/-- What the bytes of a character say is a character, and none that is written as a single byte. -/
theorem Leads.codePoint_bounds {b c : UInt8} {size low high : Nat}
    (hleads : Leads b.toNat size low high) (hlow : low ≤ c.toNat) (hhigh : c.toNat ≤ high)
    (more : List UInt8) (hlength : more.length = size - 2) :
    128 ≤ codePoint b size (c :: more) ∧ (codePoint b size (c :: more)).isValidChar := by
  unfold Nat.isValidChar
  generalize hb : b.toNat = n at hleads
  cases hleads with
  | two hfirst hlast =>
      obtain rfl := List.length_eq_zero_iff.mp hlength
      rw [codePoint_two, hb]
      omega
  | threeFirst =>
      obtain ⟨d, rfl⟩ := List.length_eq_one_iff.mp hlength
      rw [codePoint_three, hb]
      omega
  | three hfirst hlast hother =>
      obtain ⟨d, rfl⟩ := List.length_eq_one_iff.mp hlength
      rw [codePoint_three, hb]
      omega
  | threeCut =>
      obtain ⟨d, rfl⟩ := List.length_eq_one_iff.mp hlength
      rw [codePoint_three, hb]
      omega
  | fourFirst =>
      obtain ⟨d, e, rfl⟩ := List.length_eq_two.mp hlength
      rw [codePoint_four, hb]
      omega
  | four hfirst hlast =>
      obtain ⟨d, e, rfl⟩ := List.length_eq_two.mp hlength
      rw [codePoint_four, hb]
      omega
  | fourLast =>
      obtain ⟨d, e, rfl⟩ := List.length_eq_two.mp hlength
      rw [codePoint_four, hb]
      omega

theorem readChar_of_leads {b c : UInt8} {size low high : Nat}
    (hleads : Leads b.toNat size low high) (hlow : low ≤ c.toNat) (hhigh : c.toNat ≤ high)
    (more rest : List UInt8) (hmore : ∀ d ∈ more, isContinuation d = true)
    (hlength : more.length = size - 2) :
    readChar b (c :: more ++ rest) =
      (some (Char.ofNat (codePoint b size (c :: more))), size - 1) := by
  have hsizes := hleads.low_le
  have hmany : ¬ b < 0x80 := by
    rw [UInt8.lt_iff_toNat_lt]
    exact Nat.not_lt_of_le hleads.le_first
  have hwithin : (UInt8.ofNat low ≤ c && c ≤ UInt8.ofNat high) = true := by
    rw [Bool.and_eq_true, decide_eq_true_eq, decide_eq_true_eq, UInt8.le_iff_toNat_le,
      UInt8.le_iff_toNat_le, UInt8.toNat_ofNat', UInt8.toNat_ofNat']
    omega
  have htaken : ((more ++ rest).take (size - 2)).takeWhile isContinuation = more := by
    rw [← hlength, List.take_left, List.takeWhile_eq_self_iff.mpr hmore]
  unfold readChar
  rw [if_neg hmany, leadByte?_of_leads hleads]
  simp only [List.cons_append, hwithin, htaken, if_true]
  rw [if_pos]
  rw [List.length_cons, hlength]
  omega

/-- What a step of reading can come to: a single byte, a beginning that is no character, or a
character of several bytes that are all there. -/
inductive ReadsTo (b : UInt8) (rest : List UInt8) : Option Char × Nat → Prop where
  | single (hsingle : isSingle b = true) : ReadsTo b rest (some (Char.ofNat b.toNat), 0)
  | broken {n : Nat} (hlength : n ≤ rest.length) : ReadsTo b rest (none, n)
  | whole {size low high : Nat} {c : UInt8} {more : List UInt8}
      (hleads : Leads b.toNat size low high) (hlow : low ≤ c.toNat) (hhigh : c.toNat ≤ high)
      (hmore : more.length = size - 2) (hlength : size - 1 ≤ rest.length) :
      ReadsTo b rest (some (Char.ofNat (codePoint b size (c :: more))), size - 1)

theorem readsTo_readChar (b : UInt8) (rest : List UInt8) : ReadsTo b rest (readChar b rest) := by
  unfold readChar
  split
  next hsingle => exact .single (decide_eq_true hsingle)
  next =>
    cases hlead : leadByte? b with
    | none => exact .broken (Nat.zero_le _)
    | some said =>
        obtain ⟨size, low, high⟩ := said
        cases rest with
        | nil => exact .broken (Nat.zero_le _)
        | cons c more =>
            have htaken : ((more.take (size - 2)).takeWhile isContinuation).length ≤ more.length :=
              (List.takeWhile_sublist _).length_le.trans (List.length_take_le' _ _)
            dsimp only
            split
            next hwithin =>
              simp only [Bool.and_eq_true, decide_eq_true_eq, UInt8.le_iff_toNat_le] at hwithin
              split
              next hwhole =>
                rw [List.length_cons] at hwhole
                apply ReadsTo.whole (leads_of_leadByte? hlead) hwithin.1 hwithin.2 (by omega)
                rw [List.length_cons]
                omega
              next => exact .broken (Nat.succ_le_succ htaken)
            next => exact .broken (Nat.zero_le _)

theorem readChar_snd_le (b : UInt8) (rest : List UInt8) : (readChar b rest).2 ≤ rest.length := by
  have hreads := readsTo_readChar b rest
  generalize readChar b rest = read at hreads ⊢
  cases hreads with
  | single hsingle => exact Nat.zero_le _
  | broken hlength => exact hlength
  | whole hleads hlow hhigh hmore hlength => exact hlength

/-! ## Cutting at a single byte -/

theorem takeWhile_take_append_cons {α : Type} {p : α → Bool} {a : α} (hstops : p a = false)
    (xs ys : List α) (n : Nat) :
    ((xs ++ a :: ys).take n).takeWhile p = (xs.take n).takeWhile p := by
  induction xs generalizing n with
  | nil => cases n <;> simp [hstops]
  | cons x xs ih =>
      cases n with
      | zero => simp
      | succ n => simp [List.takeWhile_cons, ih]

theorem readChar_append_cons {d : UInt8} (hsingle : isSingle d = true) (b : UInt8)
    (xs ys : List UInt8) : readChar b (xs ++ d :: ys) = readChar b xs := by
  have hstops : isContinuation d = false := isContinuation_of_isSingle hsingle
  unfold readChar
  split
  · rfl
  · cases hlead : leadByte? b with
    | none => rfl
    | some said =>
        obtain ⟨size, low, high⟩ := said
        cases xs with
        | nil =>
            have hbelow : ¬ low ≤ d := by
              have hlow := (leads_of_leadByte? hlead).low_le
              rw [isSingle_iff] at hsingle
              rw [UInt8.le_iff_toNat_le]
              omega
            simp [hbelow]
        | cons c more => simp only [List.cons_append, takeWhile_take_append_cons hstops]

/-- Bytes can be cut before a single byte; nothing before it reaches over it. -/
theorem readChars_append_cons {d : UInt8} (hsingle : isSingle d = true) (xs ys : List UInt8) :
    readChars (xs ++ d :: ys) = readChars xs ++ readChars (d :: ys) := by
  induction xs using readChars.induct with
  | case1 => rw [List.nil_append, readChars_nil, List.nil_append]
  | case2 b rest c more hread ih =>
      have hmore : more ≤ rest.length := by
        have hle := readChar_snd_le b rest
        rwa [hread] at hle
      rw [List.cons_append, readChars_cons, readChars_cons, readChar_append_cons hsingle, hread,
        List.drop_append_of_le_length hmore, ih, List.cons_append]

/-! ## Characters that single bytes write -/

theorem readChar_fst_of_several {b : UInt8} {rest : List UInt8} {c : Char}
    (hseveral : ¬ isSingle b = true) (hread : (readChar b rest).1 = some c) :
    128 ≤ c.toNat := by
  have hreads := readsTo_readChar b rest
  generalize readChar b rest = read at hread hreads
  cases hreads with
  | single hsingle => exact absurd hsingle hseveral
  | broken hlength => contradiction
  | whole hleads hlow hhigh hmore hlength =>
      have hbounds := hleads.codePoint_bounds hlow hhigh _ hmore
      rw [← Option.some.inj hread, Char.toNat_ofNat, if_pos hbounds.2]
      exact hbounds.1

theorem toNat_ofNat_of_isSingle {b : UInt8} (hsingle : isSingle b = true) :
    (Char.ofNat b.toNat).toNat = b.toNat := by
  rw [isSingle_iff] at hsingle
  rw [Char.toNat_ofNat, if_pos]
  unfold Nat.isValidChar
  omega

theorem readChar_fst_iff {d : UInt8} (hsingle : isSingle d = true) (b : UInt8)
    (rest : List UInt8) : (readChar b rest).1 = some (Char.ofNat d.toNat) ↔ b = d := by
  constructor
  · intro hread
    by_cases hb : isSingle b = true
    · rw [readChar_of_isSingle hb, Option.some.injEq] at hread
      apply UInt8.toNat_inj.mp
      rw [← toNat_ofNat_of_isSingle hb, hread, toNat_ofNat_of_isSingle hsingle]
    · have hhigh := readChar_fst_of_several hb hread
      rw [toNat_ofNat_of_isSingle hsingle] at hhigh
      rw [isSingle_iff] at hsingle
      omega
  · rintro rfl
    rw [readChar_of_isSingle hsingle]

/-- Nothing but the byte itself is read as the character that a single byte writes. -/
theorem mem_readChars_iff {d : UInt8} (hsingle : isSingle d = true) (bytes : List UInt8) :
    some (Char.ofNat d.toNat) ∈ readChars bytes ↔ d ∈ bytes := by
  constructor
  · induction bytes using readChars.induct with
    | case1 => simp [readChars_nil]
    | case2 b rest c more hread ih =>
        intro hmem
        rw [readChars_cons, hread, List.mem_cons] at hmem
        cases hmem with
        | inl hfirst =>
            rw [(readChar_fst_iff hsingle b rest).mp (by rw [hread, hfirst])]
            exact List.mem_cons_self
        | inr hlater => exact List.mem_cons_of_mem b (List.mem_of_mem_drop (ih hlater))
  · intro hmem
    obtain ⟨xs, ys, rfl⟩ := List.append_of_mem hmem
    rw [readChars_append_cons hsingle, readChars_cons_of_isSingle hsingle]
    simp

theorem getLast?_readChars_iff {d : UInt8} (hsingle : isSingle d = true) (bytes : List UInt8) :
    (readChars bytes).getLast? = some (some (Char.ofNat d.toNat)) ↔ bytes.getLast? = some d := by
  constructor
  · induction bytes using readChars.induct with
    | case1 => simp [readChars_nil]
    | case2 b rest c more hread ih =>
        intro hlast
        rw [readChars_cons, hread] at hlast
        cases hlater : rest.drop more with
        | nil =>
            rw [hlater, readChars_nil, List.getLast?_singleton, Option.some.injEq] at hlast
            obtain rfl := (readChar_fst_iff hsingle b rest).mp (by rw [hread, hlast])
            rw [readChar_of_isSingle hsingle, Prod.mk.injEq] at hread
            rw [← hread.2, List.drop_zero] at hlater
            rw [hlater, List.getLast?_singleton]
        | cons e later =>
            rw [hlater, readChars_cons, List.getLast?_cons_cons, ← readChars_cons,
              ← hlater] at hlast
            rw [← List.take_append_drop more rest, ← List.cons_append, List.getLast?_append,
              ih hlast, Option.some_or]
  · intro hlast
    obtain ⟨xs, rfl⟩ := List.getLast?_eq_some_iff.mp hlast
    rw [readChars_append_cons hsingle, readChars_cons_of_isSingle hsingle, readChars_nil]
    simp

/-! ## Bytes that are no text -/

theorem toList_ofBytesLossy (bytes : List UInt8) :
    (ofBytesLossy bytes).toList = (readChars bytes).map (·.getD replacement) := by
  rw [ofBytesLossy, String.toList_ofList]

theorem getD_replacement_iff {d : UInt8} (hsingle : isSingle d = true) (read : Option Char) :
    read.getD replacement = Char.ofNat d.toNat ↔ read = some (Char.ofNat d.toNat) := by
  cases read with
  | some c => rw [Option.getD_some, Option.some.injEq]
  | none =>
      have hbyte := toNat_ofNat_of_isSingle hsingle
      have hhigh : replacement.toNat = 0xFFFD := rfl
      rw [isSingle_iff] at hsingle
      rw [Option.getD_none]
      constructor
      · intro heq
        rw [heq] at hhigh
        omega
      · intro heq
        contradiction

theorem mem_ofBytesLossy_iff {d : UInt8} (hsingle : isSingle d = true) (bytes : List UInt8) :
    Char.ofNat d.toNat ∈ (ofBytesLossy bytes).toList ↔ d ∈ bytes := by
  rw [toList_ofBytesLossy, List.mem_map, ← mem_readChars_iff hsingle]
  simp only [getD_replacement_iff hsingle, exists_eq_right]

theorem getLast?_ofBytesLossy_iff {d : UInt8} (hsingle : isSingle d = true)
    (bytes : List UInt8) :
    (ofBytesLossy bytes).toList.getLast? = some (Char.ofNat d.toNat) ↔
      bytes.getLast? = some d := by
  rw [toList_ofBytesLossy, List.getLast?_map, Option.map_eq_some_iff,
    ← getLast?_readChars_iff hsingle]
  simp only [getD_replacement_iff hsingle, exists_eq_right]

theorem toList_ofBytesLossy_concat {d : UInt8} (hsingle : isSingle d = true)
    (bytes : List UInt8) :
    (ofBytesLossy (bytes ++ [d])).toList =
      (ofBytesLossy bytes).toList ++ [Char.ofNat d.toNat] := by
  simp only [toList_ofBytesLossy, readChars_append_cons hsingle,
    readChars_cons_of_isSingle hsingle, readChars_nil, List.map_append, List.map_cons,
    List.map_nil, Option.getD_some]

/-! ## Reading what was written -/

theorem readChars_of_leads {b c : UInt8} {size low high : Nat}
    (hleads : Leads b.toNat size low high) (hlow : low ≤ c.toNat) (hhigh : c.toNat ≤ high)
    (more rest : List UInt8) (hmore : ∀ d ∈ more, isContinuation d = true)
    (hlength : more.length = size - 2) :
    readChars (b :: c :: more ++ rest) =
      some (Char.ofNat (codePoint b size (c :: more))) :: readChars rest := by
  have htaken : (c :: more).length = size - 1 := by
    have hsize := hleads.low_le
    rw [List.length_cons, hlength]
    omega
  rw [List.cons_append, readChars_cons, readChar_of_leads hleads hlow hhigh more rest hmore hlength,
    ← htaken, List.drop_left]

theorem toNat_ofNat_of_lt {n : Nat} (hbyte : n < 256) : (UInt8.ofNat n).toNat = n :=
  UInt8.toNat_ofNat_of_lt' hbyte

theorem isContinuation_ofNat (n : Nat) : isContinuation (UInt8.ofNat (n % 64 + 128)) = true := by
  unfold isContinuation
  simp only [Bool.and_eq_true, decide_eq_true_eq, UInt8.le_iff_toNat_le, UInt8.reduceToNat]
  rw [toNat_ofNat_of_lt (by omega)]
  omega

theorem readChars_two {v : Nat} (hlow : 128 ≤ v) (hhigh : v ≤ 2047) (rest : List UInt8) :
    readChars (UInt8.ofNat (v / 64 % 32 + 192) :: UInt8.ofNat (v % 64 + 128) :: rest) =
      some (Char.ofNat v) :: readChars rest := by
  have hfirst := toNat_ofNat_of_lt (n := v / 64 % 32 + 192) (by omega)
  have hsecond := toNat_ofNat_of_lt (n := v % 64 + 128) (by omega)
  have hleads : Leads (UInt8.ofNat (v / 64 % 32 + 192)).toNat 2 0x80 0xBF := by
    rw [hfirst]
    apply Leads.two <;> omega
  have hread := readChars_of_leads hleads (c := UInt8.ofNat (v % 64 + 128)) (by omega) (by omega)
    [] rest (by simp) rfl
  have hcode : codePoint (UInt8.ofNat (v / 64 % 32 + 192)) 2 [UInt8.ofNat (v % 64 + 128)] = v := by
    rw [codePoint_two, hfirst, hsecond]
    omega
  rwa [hcode] at hread

theorem readChars_three {v : Nat} (hlow : 2048 ≤ v) (hhigh : v ≤ 65535) (hvalid : v.isValidChar)
    (rest : List UInt8) :
    readChars (UInt8.ofNat (v / 4096 % 16 + 224) :: UInt8.ofNat (v / 64 % 64 + 128) ::
        UInt8.ofNat (v % 64 + 128) :: rest) =
      some (Char.ofNat v) :: readChars rest := by
  unfold Nat.isValidChar at hvalid
  have hfirst := toNat_ofNat_of_lt (n := v / 4096 % 16 + 224) (by omega)
  have hsecond := toNat_ofNat_of_lt (n := v / 64 % 64 + 128) (by omega)
  have hthird := toNat_ofNat_of_lt (n := v % 64 + 128) (by omega)
  have hleads : ∃ low high, Leads (UInt8.ofNat (v / 4096 % 16 + 224)).toNat 3 low high ∧
      low ≤ v / 64 % 64 + 128 ∧ v / 64 % 64 + 128 ≤ high := by
    rw [hfirst]
    by_cases hzero : v / 4096 = 0
    · exact ⟨_, _, by rw [hzero]; exact .threeFirst, by omega, by omega⟩
    · by_cases hcut : v / 4096 = 13
      · exact ⟨_, _, by rw [hcut]; exact .threeCut, by omega, by omega⟩
      · exact ⟨_, _, .three (by omega) (by omega) (by omega), by omega, by omega⟩
  obtain ⟨low, high, hleads, hbelow, habove⟩ := hleads
  have hread := readChars_of_leads hleads (c := UInt8.ofNat (v / 64 % 64 + 128))
    (by omega) (by omega) [UInt8.ofNat (v % 64 + 128)] rest
    (List.forall_mem_singleton.mpr (isContinuation_ofNat v)) rfl
  have hcode : codePoint (UInt8.ofNat (v / 4096 % 16 + 224)) 3
      [UInt8.ofNat (v / 64 % 64 + 128), UInt8.ofNat (v % 64 + 128)] = v := by
    rw [codePoint_three, hfirst, hsecond, hthird]
    omega
  rwa [hcode] at hread

theorem readChars_four {v : Nat} (hlow : 65536 ≤ v) (hvalid : v.isValidChar) (rest : List UInt8) :
    readChars (UInt8.ofNat (v / 262144 % 8 + 240) :: UInt8.ofNat (v / 4096 % 64 + 128) ::
        UInt8.ofNat (v / 64 % 64 + 128) :: UInt8.ofNat (v % 64 + 128) :: rest) =
      some (Char.ofNat v) :: readChars rest := by
  unfold Nat.isValidChar at hvalid
  have hfirst := toNat_ofNat_of_lt (n := v / 262144 % 8 + 240) (by omega)
  have hsecond := toNat_ofNat_of_lt (n := v / 4096 % 64 + 128) (by omega)
  have hthird := toNat_ofNat_of_lt (n := v / 64 % 64 + 128) (by omega)
  have hfourth := toNat_ofNat_of_lt (n := v % 64 + 128) (by omega)
  have hleads : ∃ low high, Leads (UInt8.ofNat (v / 262144 % 8 + 240)).toNat 4 low high ∧
      low ≤ v / 4096 % 64 + 128 ∧ v / 4096 % 64 + 128 ≤ high := by
    rw [hfirst]
    by_cases hzero : v / 262144 = 0
    · exact ⟨_, _, by rw [hzero]; exact .fourFirst, by omega, by omega⟩
    · by_cases hfull : v / 262144 = 4
      · exact ⟨_, _, by rw [hfull]; exact .fourLast, by omega, by omega⟩
      · exact ⟨_, _, .four (by omega) (by omega), by omega, by omega⟩
  obtain ⟨low, high, hleads, hbelow, habove⟩ := hleads
  have hread := readChars_of_leads hleads (c := UInt8.ofNat (v / 4096 % 64 + 128))
    (by omega) (by omega) [UInt8.ofNat (v / 64 % 64 + 128), UInt8.ofNat (v % 64 + 128)] rest
    (List.forall_mem_cons.mpr ⟨isContinuation_ofNat (v / 64),
      List.forall_mem_singleton.mpr (isContinuation_ofNat v)⟩) rfl
  have hcode : codePoint (UInt8.ofNat (v / 262144 % 8 + 240)) 4
      [UInt8.ofNat (v / 4096 % 64 + 128), UInt8.ofNat (v / 64 % 64 + 128),
        UInt8.ofNat (v % 64 + 128)] = v := by
    rw [codePoint_four, hfirst, hsecond, hthird, hfourth]
    omega
  rwa [hcode] at hread

theorem readChars_utf8EncodeChar (c : Char) (rest : List UInt8) :
    readChars (String.utf8EncodeChar c ++ rest) = some c :: readChars rest := by
  have hvalid : c.val.toNat.isValidChar := c.valid
  have hchar : Char.ofNat c.val.toNat = c := Char.ofNat_toNat c
  unfold String.utf8EncodeChar
  dsimp only
  split
  next hone =>
    have hbyte := toNat_ofNat_of_lt (n := c.val.toNat) (by omega)
    rw [List.singleton_append, readChars_cons_of_isSingle (isSingle_iff.mpr (by omega)), hbyte,
      hchar]
  next hmany =>
    split
    next htwo => rw [List.cons_append, List.singleton_append, readChars_two (by omega) htwo, hchar]
    next hmore =>
      split
      next hthree =>
        rw [List.cons_append, List.cons_append, List.singleton_append,
          readChars_three (by omega) hthree hvalid, hchar]
      next hfour =>
        rw [List.cons_append, List.cons_append, List.cons_append, List.singleton_append,
          readChars_four (by omega) hvalid, hchar]

theorem toList_loop (bytes : ByteArray) (i : Nat) (front : List UInt8) :
    ByteArray.toList.loop bytes i front = front.reverse ++ bytes.data.toList.drop i := by
  fun_induction ByteArray.toList.loop bytes i front with
  | case1 i front hlt ih =>
      have hlength : i < bytes.data.toList.length := by simpa using hlt
      have hget : bytes.get! i = bytes.data.toList[i] := by
        rw [Array.getElem_toList, ← getElem!_pos bytes.data i hlt]
        rfl
      rw [ih, List.drop_eq_getElem_cons hlength, hget, List.reverse_cons, List.append_assoc,
        List.singleton_append]
  | case2 i front hge =>
      rw [List.drop_eq_nil_of_le (by simpa using Nat.le_of_not_lt hge), List.append_nil]

theorem toBytes_eq_flatMap (s : String) : toBytes s = s.toList.flatMap String.utf8EncodeChar := by
  have hencoded : s.toUTF8 = (s.toList.flatMap String.utf8EncodeChar).toByteArray := by
    rw [String.toUTF8_eq_toByteArray, ← String.utf8Encode_toList, List.utf8Encode]
  rw [toBytes, ByteArray.toList, toList_loop, List.reverse_nil, List.nil_append, List.drop_zero,
    hencoded, List.toList_data_toByteArray]

theorem readChars_toBytes (s : String) : readChars (toBytes s) = s.toList.map some := by
  rw [toBytes_eq_flatMap]
  induction s.toList with
  | nil => exact readChars_nil
  | cons c cs ih => rw [List.flatMap_cons, readChars_utf8EncodeChar, ih, List.map_cons]

theorem ofBytesLossy_toBytes (s : String) : ofBytesLossy (toBytes s) = s := by
  rw [ofBytesLossy, readChars_toBytes, List.map_map]
  simp

end SprayWatch.Text
