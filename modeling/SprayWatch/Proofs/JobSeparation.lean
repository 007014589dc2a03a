import SprayWatch.Proofs.StatusKeys
import SprayWatch.Proofs.StatusLines

/-!
# Lines on several jobs

The tool may tell of several jobs in one output.  A line that tells of a job begins with its name
and a blank; where names hold no blanks, the line up to its first blank is therefore the one name
that it is about, whatever other names begin like it.  So the lines on one job can be read out of
any mixture, and those on other jobs change nothing.
-/

namespace SprayWatch

/-- A name of a job as the tool makes them: there is something in it, and no blank. -/
structure IsPlainName (id : String) : Prop where
  ne_empty : id.isEmpty = false
  unspaced : ∀ c ∈ id.toList, Text.isBlank c = false

instance (id : String) : Decidable (IsPlainName id) :=
  decidable_of_iff (id.isEmpty = false ∧ id.toList.all (!Text.isBlank ·) = true)
    ⟨fun h => ⟨h.1, by simpa using h.2⟩, fun h => ⟨h.ne_empty, by simpa using h.unspaced⟩⟩

theorem IsPlainName.isJobName {id : String} (hid : IsPlainName id) : IsJobName id := by
  refine ⟨?_, hid.ne_empty⟩
  have hkept := Text.trimChars_of_unspaced hid.unspaced
  rw [Text.trim, hkept, String.ofList_toList]

namespace Output

/-- The third list mixes the first two, each of them in its order. -/
inductive Mixes {α : Type} : List α → List α → List α → Prop
  | nil : Mixes [] [] []
  | own {x : α} {own foreign mixed : List α} (hrest : Mixes own foreign mixed) :
      Mixes (x :: own) foreign (x :: mixed)
  | foreign {x : α} {own foreign mixed : List α} (hrest : Mixes own foreign mixed) :
      Mixes own (x :: foreign) (x :: mixed)

/-- What is only to be had from one of the two lists is in the mixture what it is there. -/
theorem Mixes.filterMap_eq {α β : Type} {f : α → Option β} {own foreign mixed : List α}
    (hmixes : Mixes own foreign mixed) (hnone : ∀ x ∈ foreign, f x = none) :
    mixed.filterMap f = own.filterMap f := by
  induction hmixes with
  | nil => rfl
  | own hrest ih => simp only [List.filterMap_cons, ih hnone]
  | foreign hrest ih =>
      rw [List.forall_mem_cons] at hnone
      rw [List.filterMap_cons_none hnone.1, ih hnone.2]

namespace Status

variable {jobId other line : String}

theorem takeWhile_key_append (hid : IsPlainName jobId) (state : Job.State) (rest : List Char) :
    (key jobId state ++ rest).takeWhile (!Text.isBlank ·) = Text.lowerAfter [] jobId.toList := by
  have hname : ∀ c ∈ Text.lowerAfter [] jobId.toList, (!Text.isBlank c) = true := by
    intro c hmem
    simp [Text.not_isBlank_of_mem_lowerAfter hid.unspaced hmem]
  have hcut : (' ' :: (phrase state ++ rest)).takeWhile (!Text.isBlank ·) = [] :=
    List.takeWhile_cons_of_neg (by decide)
  rw [key_eq, List.append_assoc, List.cons_append, List.takeWhile_append_of_pos hname, hcut,
    List.append_nil]

/-- Up to its first blank a line that tells of a job is the job's name. -/
theorem Tells.name_eq (hid : IsPlainName jobId) {state : Job.State}
    (htells : Tells jobId line state) :
    (comparable line).takeWhile (!Text.isBlank ·) = (Text.lowercase jobId).toList := by
  obtain ⟨rest, hline⟩ := htells.prefix_key
  rw [← hline, takeWhile_key_append hid, Text.lowercase, String.toList_ofList]

/-- A line tells of one job at most. -/
theorem classify_eq_none_or (hid : IsPlainName jobId) (hother : IsPlainName other)
    (hdiffer : Text.lowercase other ≠ Text.lowercase jobId) (line : String) :
    classify jobId line = none ∨ classify other line = none := by
  cases hown : classify jobId line with
  | none => exact .inl rfl
  | some state =>
      cases hforeign : classify other line with
      | none => exact .inr rfl
      | some told =>
          have hname := (classify_eq_some_iff.mp hown).name_eq hid
          have hname' := (classify_eq_some_iff.mp hforeign).name_eq hother
          exact absurd (String.toList_inj.mp (hname'.symm.trans hname)) hdiffer

/-- A line that is not on the job: it tells of another one, or it tells nothing of this one. -/
def IsForeign (jobId line : String) : Prop :=
  (∃ other, IsPlainName other ∧ Text.lowercase other ≠ Text.lowercase jobId ∧
    classify other line ≠ none) ∨ classify jobId line = none

theorem IsForeign.classify_eq_none (hid : IsPlainName jobId) (hforeign : IsForeign jobId line) :
    classify jobId line = none := by
  rcases hforeign with ⟨other, hother, hdiffer, htold⟩ | hnone
  · exact (classify_eq_none_or hid hother hdiffer line).resolve_right htold
  · exact hnone

theorem lastState?_concat (jobId line : String) (lines : List String) :
    lastState? jobId (lines ++ [line]) = (classify jobId line).or (lastState? jobId lines) := by
  unfold lastState?
  cases hline : classify jobId line with
  | none => simp [hline]
  | some state => simp [hline]

/-- No line tells of two jobs whose names differ apart from letter case.  Hence who reads for one
job a mixture of its lines with lines on others and with lines that tell nothing knows in the end what
the lines on the job alone have told: the state of the last of them, or nothing. -/
theorem reads_own_lines (hid : IsPlainName jobId) :
    (∀ other line, IsPlainName other → Text.lowercase other ≠ Text.lowercase jobId →
      classify jobId line = none ∨ classify other line = none) ∧
    ∃ start, start? jobId = some start ∧
      ∀ own foreign mixed, Mixes own foreign mixed →
        (∀ line ∈ own, classify jobId line ≠ none) → (∀ line ∈ foreign, IsForeign jobId line) →
        mixed.foldl feed start = own.foldl feed start ∧
        (own = [] → mixed.foldl feed start = ⟨jobId, .unknown, .notComplete⟩) ∧
        ∀ earlier last, own = earlier ++ [last] →
          ∃ state, classify jobId last = some state ∧
            mixed.foldl feed start = ⟨jobId, state, state.status⟩ := by
  refine ⟨fun other line hother hdiffer => classify_eq_none_or hid hother hdiffer line,
    ⟨jobId, .unknown, .notComplete⟩, hid.isJobName.start_eq, ?_⟩
  intro own foreign mixed hmixes hown hforeign
  have hlast : lastState? jobId mixed = lastState? jobId own := by
    unfold lastState?
    rw [hmixes.filterMap_eq fun line hmem => (hforeign line hmem).classify_eq_none hid]
  have hread : mixed.foldl feed ⟨jobId, .unknown, .notComplete⟩ =
      own.foldl feed ⟨jobId, .unknown, .notComplete⟩ := by
    rw [foldl_feed, foldl_feed, hlast]
  refine ⟨hread, ?_, ?_⟩
  · intro hnil
    rw [hread, hnil]
    rfl
  · intro earlier last hends
    obtain ⟨state, hstate⟩ := Option.ne_none_iff_exists'.mp (hown last (by simp [hends]))
    refine ⟨state, hstate, ?_⟩
    rw [hread, foldl_feed, hends, lastState?_concat, hstate, Option.some_or]

theorem reads_own_lines_begins_alike :
    IsPlainName "D1" ∧ IsPlainName "D10" ∧ Text.lowercase "D10" ≠ Text.lowercase "D1" ∧
      (start? "D1").map (["D1 status: queued", "D10 Finished", "1% done"].foldl feed) =
        some ⟨"D1", .queued, .notComplete⟩ := by
  have hid : IsPlainName "D1" := by decide +kernel
  have hother : IsPlainName "D10" := by decide +kernel
  have hdiffer : Text.lowercase "D10" ≠ Text.lowercase "D1" := by decide +kernel
  have hown : classify "D1" "D1 status: queued" = some .queued := by decide +kernel
  have hforeign : classify "D10" "D10 Finished" = some .finished := by decide +kernel
  have hnone : classify "D1" "1% done" = none := by decide +kernel
  obtain ⟨-, start, hstart, hreads⟩ := reads_own_lines hid
  have hmixes : Mixes ["D1 status: queued"] ["D10 Finished", "1% done"]
      ["D1 status: queued", "D10 Finished", "1% done"] := .own (.foreign (.foreign .nil))
  obtain ⟨-, -, hlast⟩ := hreads _ _ _ hmixes (by simp [hown]) (by
    intro line hmem
    rcases List.mem_cons.mp hmem with rfl | hmem
    · exact .inl ⟨"D10", hother, hdiffer, by simp [hforeign]⟩
    · obtain rfl := List.mem_singleton.mp hmem
      exact .inr hnone)
  obtain ⟨state, hstate, hread⟩ := hlast [] "D1 status: queued" rfl
  obtain rfl := Option.some.inj (hown.symm.trans hstate)
  refine ⟨hid, hother, hdiffer, ?_⟩
  rw [hstart, Option.map_some, hread]
  rfl

end Status

end Output

end SprayWatch
