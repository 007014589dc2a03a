import Mathlib.Data.List.Basic
import SprayWatch.Mask.Group

/-!
# What bracket groups list

A body that is a row of letters, digits and ranges of them lists what they cover.  A body without
dashes always reads, and it lists its characters as they stand; only where two ampersands or two
tildes follow one another it does not, since they join the characters before them to those after.
-/

namespace SprayWatch.Mask

/-- How an item is written. -/
def Item.spell : Item → List Char
  | .single c => [c]
  | .range first last => [first, '-', last]

/-- The characters that an item stands for. -/
def Item.Covers : Item → Char → Prop
  | .single d, c => c = d
  | .range first last, c => first ≤ c ∧ c ≤ last

/-- An item of letters and digits only; if it is a range, it does not run backwards. -/
def Item.IsPlain : Item → Prop
  | .single c => c.isAlphanum = true
  | .range first last =>
    first.isAlphanum = true ∧ last.isAlphanum = true ∧ first ≤ last

theorem Item.holds_iff (item : Item) (c : Char) : item.holds c = true ↔ item.Covers c := by
  cases item with
  | single d => simp [holds, Covers]
  | range first last => simp [holds, Covers]

/-- A set that is read to its end: the operators met on the way are put in order. -/
def CharSet.finish (s : CharSet) : CharSet :=
  { s with joined := s.joined.reverse }

theorem CharSet.foldl_add (first items : List Item) :
    items.foldl add ⟨first, []⟩ = ⟨first ++ items, []⟩ := by
  induction items generalizing first with
  | nil => simp
  | cons item items ih => simp [add, ih]

/-! ## Reading one more -/

section Reading

variable {before rest : List Char} {s : CharSet} {c : Char}

theorem SetOp.of?_dash : of? c '-' = if c = '-' then some .without else none := by
  by_cases hdash : c = '-'
  · rw [hdash, if_pos rfl]
    rfl
  · rw [if_neg hdash]
    unfold of?
    split <;> simp_all

theorem CharSet.read_nil : read before s [] = .ok s.finish := by
  rw [read]
  rfl

theorem CharSet.read_single (hnext : ∀ d ∈ rest.head?, d ≠ '-' ∧ SetOp.of? c d = none) :
    read before s (c :: rest) = read (before ++ [c]) (s.add (.single c)) rest := by
  cases rest with
  | nil =>
      rw [read_nil, read]
      rfl
  | cons d rest =>
      obtain ⟨hdash, hop⟩ := hnext d (by simp)
      rw [read.eq_def]
      simp [hop, hdash]

theorem CharSet.read_range {last : Char} (hc : c ≠ '-') (hlast : last ≠ '-')
    (hforwards : c ≤ last) :
    read before s (c :: '-' :: last :: rest) =
      read (before ++ [c, '-', last]) (s.add (.range c last)) rest := by
  have hop : SetOp.of? c '-' = none := by rw [SetOp.of?_dash, if_neg hc]
  have hnot : ¬ last < c := Char.not_lt.mpr hforwards
  rw [read.eq_def]
  simp [hop, hlast, hnot]

end Reading

/-! ## Letters, digits and ranges -/

theorem ne_dash_of_isAlphanum {c : Char} (hc : c.isAlphanum = true) : c ≠ '-' := by
  intro hdash
  rw [hdash] at hc
  exact absurd hc (by decide)

theorem SetOp.of?_of_isAlphanum {c d : Char} (hc : c.isAlphanum = true) : of? c d = none := by
  unfold of?
  split
  next => exact absurd hc (by decide)
  next => exact absurd hc (by decide)
  next => exact absurd hc (by decide)
  next => rfl

theorem Item.IsPlain.head?_spell {item : Item} (hplain : item.IsPlain) :
    ∃ c, item.spell.head? = some c ∧ c.isAlphanum = true := by
  cases item with
  | single c => exact ⟨c, rfl, hplain⟩
  | range first last => exact ⟨first, rfl, hplain.1⟩

/-- What a row of items begins with, if it begins at all. -/
theorem isAlphanum_of_head? {items : List Item} (hplain : ∀ item ∈ items, item.IsPlain) {c : Char}
    (hhead : c ∈ (items.flatMap Item.spell).head?) : c.isAlphanum = true := by
  cases items with
  | nil => simp at hhead
  | cons item items =>
      obtain ⟨d, hspell, hd⟩ := (hplain item (by simp)).head?_spell
      have hfirst : (item.spell ++ items.flatMap Item.spell).head? = some d := by
        rw [List.head?_append, hspell]
        rfl
      rw [List.flatMap_cons, hfirst] at hhead
      obtain rfl : d = c := by simpa using hhead
      exact hd

theorem CharSet.read_items {items : List Item} (hplain : ∀ item ∈ items, item.IsPlain)
    (before : List Char) (s : CharSet) :
    read before s (items.flatMap Item.spell) = .ok (items.foldl add s).finish := by
  induction items generalizing before s with
  | nil => exact read_nil
  | cons item items ih =>
      rw [List.forall_mem_cons] at hplain
      have hrest := hplain.2
      cases item with
      | single c =>
          have hnext : ∀ d ∈ (items.flatMap Item.spell).head?, d ≠ '-' ∧ SetOp.of? c d = none := by
            intro d hhead
            have hd := isAlphanum_of_head? hrest hhead
            exact ⟨ne_dash_of_isAlphanum hd, SetOp.of?_of_isAlphanum hplain.1⟩
          rw [List.flatMap_cons, Item.spell, List.cons_append, List.nil_append, read_single hnext,
            ih hrest]
          rfl
      | range first last =>
          obtain ⟨hfirst, hlast, hforwards⟩ := hplain.1
          have hread :
              read before s (first :: '-' :: last :: items.flatMap Item.spell) =
                read (before ++ [first, '-', last]) (s.add (.range first last))
                  (items.flatMap Item.spell) :=
            read_range (ne_dash_of_isAlphanum hfirst) (ne_dash_of_isAlphanum hlast) hforwards
          rw [List.flatMap_cons]
          exact hread.trans (ih hrest _ _)

theorem CharSet.ofBody_of_head? {body : List Char} (hfirst : '-' ∉ body.head?) :
    ofBody body = read [] ⟨[], []⟩ body := by
  cases body with
  | nil => rfl
  | cons c body =>
      have hc : (c == '-') = false := by
        rw [beq_eq_false_iff_ne]
        intro hdash
        exact hfirst (by simp [hdash])
      simp [ofBody, hc]

/-- A body of letters, digits and ranges reads as its items. -/
theorem CharSet.ofBody_items {items : List Item} (hplain : ∀ item ∈ items, item.IsPlain) :
    ofBody (items.flatMap Item.spell) = .ok ⟨items, []⟩ := by
  have hfirst : '-' ∉ (items.flatMap Item.spell).head? := by
    intro hdash
    exact ne_dash_of_isAlphanum (isAlphanum_of_head? hplain hdash) rfl
  rw [ofBody_of_head? hfirst, read_items hplain, foldl_add]
  rfl

/-! ## What is read is what is written -/

/-- How an operator is written. -/
def SetOp.mark : SetOp → List Char
  | .both => ['&', '&']
  | .without => ['-', '-']
  | .either => ['~', '~']

/-- How a set is written. -/
def CharSet.spell (s : CharSet) : List Char :=
  s.first.flatMap Item.spell ++ s.joined.flatMap fun p => p.1.mark ++ p.2.flatMap Item.spell

theorem SetOp.mark_of_of? {c d : Char} {op : SetOp} (hop : of? c d = some op) :
    op.mark = [c, d] := by
  unfold of? at hop
  split at hop
  next => rw [← Option.some.inj hop, mark]
  next => rw [← Option.some.inj hop, mark]
  next => rw [← Option.some.inj hop, mark]
  next => simp at hop

theorem CharSet.spell_add (s : CharSet) (item : Item) :
    (s.add item).finish.spell = s.finish.spell ++ item.spell := by
  obtain ⟨first, joined⟩ := s
  cases joined with
  | nil => simp [add, finish, spell]
  | cons newest older => simp [add, finish, spell]

theorem CharSet.spell_open (s : CharSet) (op : SetOp) :
    CharSet.spell (CharSet.finish { s with joined := (op, []) :: s.joined }) =
      s.finish.spell ++ op.mark := by
  simp [finish, spell]

/-- A set is written as the characters that it is read from. -/
theorem CharSet.spell_of_read {before cs : List Char} {s set : CharSet}
    (hread : read before s cs = .ok set) : set.spell = s.finish.spell ++ cs := by
  fun_induction read before s cs with
  | case1 before s =>
      rw [← Except.ok.inj hread, List.append_nil]
      rfl
  | case2 before s c =>
      rw [← Except.ok.inj hread]
      exact s.spell_add (.single c)
  | case3 before s c d rest op hop ih =>
      rw [ih hread, spell_open, SetOp.mark_of_of? hop, List.append_assoc]
      rfl
  | case4 before s c hop ih =>
      rw [ih hread, spell_add, List.append_assoc]
      rfl
  | case5 before s c rest hop ih =>
      rw [ih hread, spell_add, List.append_assoc]
      rfl
  | case6 => simp at hread
  | case7 before s c last rest hdash hforwards hop ih =>
      rw [ih hread, spell_add, List.append_assoc]
      rfl
  | case8 before s c d rest hop hdash ih =>
      rw [ih hread, spell_add, List.append_assoc]
      rfl

/-- A range that runs backwards is there in the characters that do not read. -/
theorem CharSet.range_of_read {before cs : List Char} {s : CharSet} {b : BackwardRange}
    (hread : read before s cs = .error b) :
    b.before ++ [b.first, '-', b.last] <+: before ++ cs ∧ b.last < b.first := by
  fun_induction read before s cs with
  | case1 => simp at hread
  | case2 => simp at hread
  | case3 before s c d rest op hop ih => simpa using ih hread
  | case4 before s c hop ih => simpa using ih hread
  | case5 before s c rest hop ih => simpa using ih hread
  | case6 before s c last rest hdash hbackwards hop =>
      obtain rfl := Except.error.inj hread
      exact ⟨⟨rest, by simp⟩, hbackwards⟩
  | case7 before s c last rest hdash hforwards hop ih => simpa using ih hread
  | case8 before s c d rest hop hdash ih => simpa using ih hread

theorem CharSet.spell_of_ofBody {body : List Char} {set : CharSet} (hread : ofBody body = .ok set) :
    set.spell = body := by
  have hdashes : ((body.takeWhile (· == '-')).map Item.single).flatMap Item.spell =
      body.takeWhile (· == '-') := by
    rw [List.flatMap_map]
    exact List.flatMap_singleton' _
  rw [spell_of_read hread]
  simp [finish, spell, hdashes, List.takeWhile_append_dropWhile]

theorem CharSet.range_of_ofBody {body : List Char} {b : BackwardRange}
    (hread : ofBody body = .error b) :
    b.before ++ [b.first, '-', b.last] <+: body ∧ b.last < b.first := by
  have hrange := range_of_read hread
  rwa [List.takeWhile_append_dropWhile] at hrange

/-! ## Bodies without dashes -/

/-- Without a dash there are no ranges. -/
theorem items_eq_of_dashless {items : List Item} (hdash : '-' ∉ items.flatMap Item.spell) :
    items = (items.flatMap Item.spell).map .single := by
  induction items with
  | nil => rfl
  | cons item items ih =>
      rw [List.flatMap_cons, List.mem_append, not_or] at hdash
      cases item with
      | range first last => simp [Item.spell] at hdash
      | single c =>
          rw [List.flatMap_cons, List.map_append, ← ih hdash.2]
          rfl

section Dashless

variable {body : List Char} (hdash : '-' ∉ body)
include hdash

theorem CharSet.exists_ofBody : ∃ set, ofBody body = .ok set := by
  cases hread : ofBody body with
  | ok set => exact ⟨set, rfl⟩
  | error b =>
      have hrange := (range_of_ofBody hread).1
      exact absurd (hrange.subset (by simp)) hdash

/-- A body that joins no lists is one list. -/
theorem CharSet.ofBody_literal (hand : ¬ ['&', '&'] <:+: body) (htilde : ¬ ['~', '~'] <:+: body) :
    ofBody body = .ok ⟨body.map .single, []⟩ := by
  obtain ⟨set, hread⟩ := exists_ofBody hdash
  have hspell := spell_of_ofBody hread
  obtain ⟨first, joined⟩ := set
  cases joined with
  | nil =>
      have hfirst : first.flatMap Item.spell = body := by simpa [spell] using hspell
      rw [← hfirst] at hdash
      rw [hread, items_eq_of_dashless hdash, hfirst]
  | cons p joined =>
      have hmark : p.1.mark <:+: body := by
        refine ⟨first.flatMap Item.spell, p.2.flatMap Item.spell ++
          joined.flatMap fun p => p.1.mark ++ p.2.flatMap Item.spell, ?_⟩
        rw [← hspell]
        simp [spell]
      cases hop : p.1 with
      | both =>
          rw [hop] at hmark
          exact absurd hmark hand
      | without =>
          rw [hop] at hmark
          exact absurd (hmark.subset (by simp [SetOp.mark])) hdash
      | either =>
          rw [hop] at hmark
          exact absurd hmark htilde

end Dashless

end SprayWatch.Mask
