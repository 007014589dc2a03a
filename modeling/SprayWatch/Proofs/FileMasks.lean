import SprayWatch.Proofs.MaskExpressions

/-!
# What masks match

A mask whose groups list letters, digits and ranges of them always reads, and it matches the names
that can be split along its pieces, as it is written.  Groups without dashes list their characters
as they stand, whatever these mean in other places, with two exceptions.  Two ampersands or two
tildes that follow one another join the lists on both sides of them, and a group that excludes
nothing does not close, so that its mask does not read at all.
-/

namespace SprayWatch.Mask

/-! ## From pieces to patterns -/

theorem Spells.mono {Lists Others : Bool → List Char → Set Char → Prop}
    (himp : ∀ negated body listed, Lists negated body listed → Others negated body listed)
    {pieces : List Piece} {cs : List Char} (hspells : Spells Lists pieces cs) :
    Spells Others pieces cs := by
  induction hspells with
  | nil => exact .nil
  | anyText _ ih => exact .anyText ih
  | anyChar _ ih => exact .anyChar ih
  | ordinary hordinary _ ih => exact .ordinary hordinary ih
  | bracket hopen _ ih => exact .bracket hopen ih
  | group hlists _ ih => exact .group (himp _ _ _ hlists) ih

theorem exists_places_iff {ts : List Token} :
    (∃ places, List.Forall₂ Token.Stands ts places) ↔ ∀ t ∈ ts, ∃ place, t.Stands place := by
  induction ts with
  | nil => simp
  | cons t ts ih =>
      rw [List.forall_mem_cons, ← ih]
      constructor
      · intro hexists
        obtain ⟨_, hplaces⟩ := hexists
        cases hplaces with
        | cons hplace hrest => exact ⟨⟨_, hplace⟩, ⟨_, hrest⟩⟩
      · intro hboth
        obtain ⟨⟨place, hplace⟩, ⟨places, hplaces⟩⟩ := hboth
        exact ⟨place :: places, .cons hplace hplaces⟩

/-- A mask reads exactly if each of its tokens does. -/
theorem exists_compile_iff {mask : String} :
    (∃ pattern, compile mask = .ok pattern) ↔
      ∀ t ∈ tokens mask.toList, ∃ place, t.Stands place := by
  rw [← exists_places_iff]
  constructor
  · intro hexists
    obtain ⟨pattern, hcompile⟩ := hexists
    exact ⟨pattern.places, compile_eq_ok_iff.mp hcompile⟩
  · intro hexists
    obtain ⟨places, hplaces⟩ := hexists
    exact ⟨⟨places⟩, compile_eq_ok_iff.mpr hplaces⟩

section Meaning

variable {Lists : Bool → List Char → Set Char → Prop} {ts : List Token} {pieces : List Piece}

theorem exists_means_of_mem (hmeans : List.Forall₂ (Token.Means Lists) ts pieces) {t : Token}
    (hmem : t ∈ ts) : ∃ piece, t.Means Lists piece := by
  induction hmeans with
  | nil => simp at hmem
  | cons hmean _ ih =>
      rcases List.mem_cons.mp hmem with rfl | hlater
      · exact ⟨_, hmean⟩
      · exact ih hlater

/-- A pattern means the pieces of its mask if the groups in it do. -/
theorem pieces_eq {places : List Place} (hplaces : List.Forall₂ Token.Stands ts places)
    (hmeans : List.Forall₂ (Token.Means Lists) ts pieces)
    (hgroups : ∀ negated body listed set, .group negated body ∈ ts → Lists negated body listed →
      CharSet.ofBody body = .ok set → { c | set.holds c = true } = listed) :
    places.map Place.piece = pieces := by
  induction hplaces generalizing pieces with
  | nil =>
      cases hmeans
      rfl
  | @cons t place ts places hplace hrest ih =>
      cases hmeans with
      | @cons _ piece _ pieces hmean hmeans =>
          have hlater : places.map Place.piece = pieces := by
            apply ih hmeans
            intro negated body listed set hmem
            exact hgroups negated body listed set (List.mem_cons_of_mem _ hmem)
          have hhere : place.piece = piece := by
            cases hplace with
            | anyText => cases hmean; rfl
            | anyChar => cases hmean; rfl
            | exactly c => cases hmean; rfl
            | group hcloses hset =>
                cases hmean with
                | group hlists =>
                    rw [Place.piece, hgroups _ _ _ _ (List.mem_cons_self) hlists hset]
          rw [List.map_cons, hhere, hlater]

end Meaning

/-- The body can be written between brackets, and it reads as the characters that it is to list. -/
structure ReadsAs (negated : Bool) (body : List Char) (listed : Set Char) : Prop where
  isBody : IsBody negated body
  closes : negated = true → body ≠ []
  reads : ∃ set, CharSet.ofBody body = .ok set ∧ { c | set.holds c = true } = listed

/-- A mask whose groups all read compiles to a pattern of the pieces that it is written from. -/
theorem Spells.exists_compile {pieces : List Piece} {mask : String}
    (hspells : Spells ReadsAs pieces mask.toList) :
    ∃ pattern, compile mask = .ok pattern ∧ pattern.places.map Place.piece = pieces := by
  have hmeans := hspells.means fun _ _ _ hlists => hlists.isBody
  have hstands : ∀ t ∈ tokens mask.toList, ∃ place, t.Stands place := by
    intro t hmem
    obtain ⟨piece, hmean⟩ := exists_means_of_mem hmeans hmem
    cases hmean with
    | anyText => exact ⟨_, .anyText⟩
    | anyChar => exact ⟨_, .anyChar⟩
    | exactly c => exact ⟨_, .exactly c⟩
    | group hlists =>
        obtain ⟨set, hset, -⟩ := hlists.reads
        exact ⟨_, .group hlists.closes hset⟩
  obtain ⟨pattern, hcompile⟩ := exists_compile_iff.mpr hstands
  refine ⟨pattern, hcompile, pieces_eq (compile_eq_ok_iff.mp hcompile) hmeans ?_⟩
  intro negated body listed set _ hlists hset
  obtain ⟨read, hread, hlisted⟩ := hlists.reads
  rw [Except.ok.inj (hset.symm.trans hread), hlisted]

/-! ## Groups of letters, digits and ranges -/

/-- The characters that some item stands for. -/
def covered (items : List Item) : Set Char :=
  { c | ∃ item ∈ items, item.Covers c }

/-- The body is a row of letters, digits and ranges of them, and lists what they cover. -/
def ListsItems (_ : Bool) (body : List Char) (listed : Set Char) : Prop :=
  ∃ items, items ≠ [] ∧ (∀ item ∈ items, item.IsPlain) ∧ body = items.flatMap Item.spell ∧
    listed = covered items

theorem Item.IsPlain.mem_spell {item : Item} (hplain : item.IsPlain) {c : Char}
    (hmem : c ∈ item.spell) : c.isAlphanum = true ∨ c = '-' := by
  cases item with
  | single d =>
      obtain rfl := List.mem_singleton.mp hmem
      exact .inl hplain
  | range first last =>
      obtain ⟨hfirst, hlast, -⟩ := hplain
      simp only [spell, List.mem_cons, List.not_mem_nil, or_false] at hmem
      rcases hmem with rfl | rfl | rfl
      · exact .inl hfirst
      · exact .inr rfl
      · exact .inl hlast

theorem readsAs_of_items {negated : Bool} {body : List Char} {listed : Set Char}
    (hlists : ListsItems negated body listed) : ReadsAs negated body listed := by
  obtain ⟨items, hsome, hplain, rfl, rfl⟩ := hlists
  have hne : items.flatMap Item.spell ≠ [] := by
    obtain ⟨item, hitem⟩ := List.exists_mem_of_ne_nil items hsome
    obtain ⟨c, hspell, -⟩ := (hplain item hitem).head?_spell
    intro hnil
    rw [List.flatMap_eq_nil_iff.mp hnil item hitem] at hspell
    simp at hspell
  have hunclosed : ']' ∉ items.flatMap Item.spell := by
    intro hmem
    obtain ⟨item, hitem, hclose⟩ := List.mem_flatMap.mp hmem
    have hcases := (hplain item hitem).mem_spell hclose
    exact absurd hcases (by decide)
  have hunmarked : ∀ rest, items.flatMap Item.spell ≠ '!' :: rest := by
    intro rest hbegins
    have hmark := isAlphanum_of_head? hplain (c := '!') (by simp [hbegins])
    exact absurd hmark (by decide)
  refine ⟨⟨hunclosed, fun _ => ⟨hne, hunmarked⟩⟩, fun _ => hne, _, CharSet.ofBody_items hplain, ?_⟩
  ext c
  simp [CharSet.holds, unionHolds, Item.holds_iff, covered]

/-- A mask of stars, question marks, groups of letters, digits and ranges, and other characters
always reads.  A name without line feeds matches it if it can be split along the pieces, where `*`
takes any text and `?` any character; and it matches the expression that the mask is shown as just
the same. -/
theorem matches_as_written {pieces : List Piece} {mask : String}
    (hspells : Spells ListsItems pieces mask.toList) :
    ∃ pattern, compile mask = .ok pattern ∧
      (∀ name : String, '\n' ∉ name.toList →
        (pattern.matches name = true ↔ Splits (fun _ => True) pieces name.toList)) ∧
      ∃ steps, Regular.steps? (expression (tokens mask.toList)) = some steps ∧
        ∀ name : String, Regular.Matches steps name.toList ↔ pattern.matches name = true := by
  obtain ⟨pattern, hcompile, rfl⟩ :=
    (hspells.mono fun _ _ _ => readsAs_of_items).exists_compile
  refine ⟨pattern, hcompile, ?_, _, steps?_expression.mpr ⟨pattern, hcompile, rfl⟩,
    matches_expression⟩
  intro name hname
  have hfree : ∀ c ∈ name.toList, IsFree c ↔ True := by
    intro c hmem
    rw [iff_true]
    rintro rfl
    exact hname hmem
  rw [pattern.matches_iff, splits_congr hfree]

theorem matches_as_written_excluding :
    Spells ListsItems
        [.group true (covered [.range 'a' 'c', .single '7']), .anyText, .ordinary '[']
        "[!a-c7]*[".toList ∧
      ∃ pattern, compile "[!a-c7]*[" = .ok pattern ∧
        pattern.matches "x::y[" = true ∧ pattern.matches "b::y[" = false := by
  have hbracket : Spells ListsItems [.ordinary '['] ['['] := .bracket (.inl (by simp)) .nil
  have hlists :
      ListsItems true "a-c7".toList (covered [.range 'a' 'c', .single '7']) := by
    refine ⟨[.range 'a' 'c', .single '7'], by simp, ?_, by decide, rfl⟩
    simp [Item.IsPlain]
  have hspells : Spells ListsItems
      [.group true (covered [.range 'a' 'c', .single '7']), .anyText, .ordinary '[']
      "[!a-c7]*[".toList := .group hlists (.anyText hbracket)
  obtain ⟨pattern, hcompile, hmatches, -⟩ := matches_as_written hspells
  refine ⟨hspells, pattern, hcompile, ?_, ?_⟩
  · have hother : 'x' ∉ covered [.range 'a' 'c', .single '7'] := by
      simp [covered, Item.Covers]
    have hrest : Splits (fun _ => True) [.anyText, .ordinary '['] ("::y".toList ++ ['[']) :=
      .anyText (by simp) (.one (by simp) rfl .nil)
    rw [hmatches _ (by decide)]
    exact .one (by simp) hother hrest
  · have hlisted : 'b' ∈ covered [.range 'a' 'c', .single '7'] :=
      ⟨.range 'a' 'c', by simp, show 'a' ≤ 'b' ∧ 'b' ≤ 'c' by decide⟩
    rw [Bool.eq_false_iff, Ne, hmatches _ (by decide)]
    intro hsplits
    exact ((splits_one_cons_iff (by simp)).mp hsplits).1 hlisted

/-! ## Groups without dashes -/

/-- The body can be written between brackets, and lists its characters. -/
def ListsLiterally (negated : Bool) (body : List Char) (listed : Set Char) : Prop :=
  IsBody negated body ∧ listed = { c | c ∈ body }

/-- What a token means when groups list their characters. -/
def Token.literal : Token → Piece
  | .anyText => .anyText
  | .anyChar => .anyChar
  | .exactly c => .ordinary c
  | .group negated body => .group negated { c | c ∈ body }

/-- The pieces of a mask whose groups list their characters. -/
def literalPieces (mask : String) : List Piece :=
  (tokens mask.toList).map Token.literal

/-- Every mask is written from its literal pieces. -/
theorem spells_literal (mask : String) :
    Spells ListsLiterally (literalPieces mask) mask.toList := by
  apply spells_of_means
  rw [literalPieces, List.forall₂_map_right_iff, List.forall₂_same]
  intro t hmem
  cases t with
  | anyText => exact .anyText
  | anyChar => exact .anyChar
  | exactly c => exact .exactly c
  | group negated body => exact .group ⟨isBody_of_mem_tokens hmem, rfl⟩

/-- A mask without dashes in its groups reads unless one of them excludes nothing. -/
theorem exists_compile_iff_of_dashless {mask : String}
    (hdash : ∀ negated body, .group negated body ∈ tokens mask.toList → '-' ∉ body) :
    (∃ pattern, compile mask = .ok pattern) ↔ .group true [] ∉ tokens mask.toList := by
  rw [exists_compile_iff]
  constructor
  · intro hstands hmem
    obtain ⟨place, hplace⟩ := hstands _ hmem
    cases hplace with
    | group hcloses _ => exact hcloses rfl rfl
  · intro hcloses t hmem
    cases t with
    | anyText => exact ⟨_, .anyText⟩
    | anyChar => exact ⟨_, .anyChar⟩
    | exactly c => exact ⟨_, .exactly c⟩
    | group negated body =>
        obtain ⟨set, hset⟩ := CharSet.exists_ofBody (hdash negated body hmem)
        refine ⟨_, .group ?_ hset⟩
        rintro rfl rfl
        exact hcloses hmem

/-- Every mask is written from pieces whose groups list the characters of their bodies.  If no body
holds a dash, the mask reads unless a group excludes nothing; and if furthermore no body holds two
ampersands or two tildes that follow one another, names match it as they can be split along the
pieces. -/
theorem groups_list_literally {mask : String}
    (hdash : ∀ negated body, .group negated body ∈ tokens mask.toList → '-' ∉ body) :
    Spells ListsLiterally (literalPieces mask) mask.toList ∧
      ((∃ pattern, compile mask = .ok pattern) ↔ .group true [] ∉ tokens mask.toList) ∧
      ((∀ negated body, .group negated body ∈ tokens mask.toList →
          ¬ ['&', '&'] <:+: body ∧ ¬ ['~', '~'] <:+: body) →
        ∀ pattern, compile mask = .ok pattern →
          ∀ name : String,
            pattern.matches name = true ↔ Splits IsFree (literalPieces mask) name.toList) := by
  have hspells := spells_literal mask
  refine ⟨hspells, exists_compile_iff_of_dashless hdash, ?_⟩
  intro hjoins pattern hcompile name
  have hmeans := hspells.means fun _ _ _ hlists => hlists.1
  have hpieces : pattern.places.map Place.piece = literalPieces mask := by
    apply pieces_eq (compile_eq_ok_iff.mp hcompile) hmeans
    intro negated body listed set hmem hlists hset
    obtain ⟨hand, htilde⟩ := hjoins negated body hmem
    have hread := CharSet.ofBody_literal (hdash negated body hmem) hand htilde
    obtain rfl := Except.ok.inj (hset.symm.trans hread)
    rw [hlists.2]
    ext c
    simp [CharSet.holds, unionHolds, Item.holds]
  rw [pattern.matches_iff, hpieces]

theorem groups_list_literally_marks :
    (∀ negated body, .group negated body ∈ tokens "[.^&[]?".toList → '-' ∉ body) ∧
      ∃ pattern, compile "[.^&[]?" = .ok pattern ∧
        pattern.matches "^a" = true ∧ pattern.matches "xa" = false := by
  have htokens : tokens "[.^&[]?".toList = [.group false ['.', '^', '&', '['], .anyChar] := by
    decide +kernel
  have hgroup : ∀ negated body, .group negated body ∈ tokens "[.^&[]?".toList →
      body = ['.', '^', '&', '['] := by
    intro negated body hmem
    rw [htokens] at hmem
    have hboth : negated = false ∧ body = ['.', '^', '&', '['] := by simpa using hmem
    exact hboth.2
  have hdash : ∀ negated body, .group negated body ∈ tokens "[.^&[]?".toList → '-' ∉ body := by
    intro negated body hmem
    simp [hgroup negated body hmem]
  obtain ⟨-, hreads, hmatches⟩ := groups_list_literally hdash
  obtain ⟨pattern, hcompile⟩ := hreads.mpr (by rw [htokens]; simp)
  have hapart : ∀ negated body, .group negated body ∈ tokens "[.^&[]?".toList →
      ¬ ['&', '&'] <:+: body ∧ ¬ ['~', '~'] <:+: body := by
    intro negated body hmem
    rw [hgroup negated body hmem]
    decide
  have hsplits := hmatches hapart pattern hcompile
  rw [literalPieces, htokens] at hsplits
  have hone : Token.literal (.group false ['.', '^', '&', '[']) ≠ .anyText := by
    simp [Token.literal]
  refine ⟨hdash, pattern, hcompile, ?_, ?_⟩
  · have hlisted : '^' ∈ {c | c ∈ ['.', '^', '&', '[']} := by simp
    have hfree : IsFree 'a' := by simp [IsFree]
    rw [hsplits]
    exact .one hone hlisted (.one (by simp [Token.literal]) hfree .nil)
  · have hother : 'x' ∉ {c | c ∈ ['.', '^', '&', '[']} := by simp
    rw [Bool.eq_false_iff, Ne, hsplits]
    intro hsplit
    exact hother ((splits_one_cons_iff hone).mp hsplit).1

/-- Where ampersands join lists, a group takes no character of its body that is not in both, and a
group that excludes nothing leaves its mask without a pattern. -/
theorem groups_not_literal :
    (tokens "[a&&b]".toList = [.group false ['a', '&', '&', 'b']] ∧
      ∃ pattern, compile "[a&&b]" = .ok pattern ∧
        pattern.matches "a" = false ∧ pattern.matches "&" = false) ∧
    tokens "[!]".toList = [.group true []] ∧ ∃ fault, compile "[!]" = .error fault := by
  refine ⟨⟨by decide +kernel, ⟨[.oneOf false ⟨[.single 'a'], [(.both, [.single 'b'])]⟩]⟩, ?_⟩,
    by decide +kernel, ⟨['^', '[', '^', ']', '$'], 1, 4, .unclosedGroup⟩, by decide +kernel⟩
  decide +kernel

end SprayWatch.Mask
