import SprayWatch.Output.Status
import SprayWatch.Proofs.JobNames
import SprayWatch.Proofs.LetterCase

/-!
# Classifying status lines

A line tells a state of a job by a key, which it is or which it begins with at the end of a word.
The keys of a job all begin with its id and a blank, and what follows begins differently for every
state; so no line tells two states, and it does not matter in which order the keys are tried.
-/

namespace SprayWatch

theorem Job.State.mem_all (state : Job.State) : state ∈ all := by
  cases state <;> decide

namespace Output.Status

/-- Does a line tell a state of a job?  Apart from letter case and from the blanks around it, it is
the status line for that state, or goes on after it with a character that ends a word. -/
def Tells (jobId line : String) (state : Job.State) : Prop :=
  Text.lowercase (Text.trim line) = Text.lowercase (statusLine jobId state) ∨
    ∃ c rest,
      (Text.lowercase (Text.trim line)).toList =
        (Text.lowercase (statusLine jobId state)).toList ++ c :: rest ∧
      Text.isAlphanumeric c = false

/-- The state found by one who tries the keys in some order. -/
def classifyIn (order : List Job.State) (jobId line : String) : Option Job.State :=
  let l := comparable line
  match order.find? fun s => l == key jobId s with
  | some s => some s
  | none => order.find? fun s => continues l (key jobId s)

theorem classify_eq_classifyIn (jobId line : String) :
    classify jobId line = classifyIn Job.State.all jobId line := rfl

/-! ## Keys -/

/-- What follows the id in a status line, after a blank. -/
def words : Job.State → List Char
  | .finished => "Finished".toList
  | state => "status: ".toList ++ state.name.toList

/-- What follows the id in a key, after a blank. -/
def phrase (state : Job.State) : List Char :=
  Text.lowerAfter [] (words state)

theorem statusLine_toList (jobId : String) (state : Job.State) :
    (statusLine jobId state).toList = jobId.toList ++ ' ' :: words state := by
  have hfinished : " Finished".toList = ' ' :: "Finished".toList := by decide
  have hstatus : " status: ".toList = ' ' :: "status: ".toList := by decide
  have hjoined : ∀ front name : String,
      (jobId ++ front ++ name).toList = jobId.toList ++ (front.toList ++ name.toList) := by
    intro front name
    rw [String.toList_append, String.toList_append, List.append_assoc]
  cases state with
  | finished => exact String.toList_append.trans (congrArg (jobId.toList ++ ·) hfinished)
  | _ =>
      exact (hjoined _ _).trans
        (congrArg (fun front => jobId.toList ++ (front ++ (Job.State.name _).toList)) hstatus)

theorem divides_blank : Text.Divides ' ' :=
  Text.divides_of_isBlank (by decide)

theorem lowerAfter_line (jobId rest : List Char) :
    Text.lowerAfter [] (jobId ++ ' ' :: rest) =
      Text.lowerAfter [] jobId ++ ' ' :: Text.lowerAfter [] rest := by
  rw [Text.lowerAfter_divided divides_blank, Text.lowerChar_of_isBlank (by decide)]
  rfl

theorem key_eq (jobId : String) (state : Job.State) :
    key jobId state = Text.lowerAfter [] jobId.toList ++ ' ' :: phrase state := by
  rw [key, statusLine_toList, lowerAfter_line]
  rfl

theorem eq_of_prefix_phrase {state other : Job.State} (hbegins : phrase state <+: phrase other) :
    state = other := by
  have htable : ∀ s ∈ Job.State.all, ∀ t ∈ Job.State.all,
      (phrase s).isPrefixOf (phrase t) = true → s = t := by decide +kernel
  exact htable state state.mem_all other other.mem_all (List.isPrefixOf_iff_prefix.mpr hbegins)

theorem eq_of_prefix_key {jobId : String} {state other : Job.State}
    (hbegins : key jobId state <+: key jobId other) : state = other := by
  rw [key_eq, key_eq, List.prefix_append_right_inj, List.cons_prefix_cons] at hbegins
  exact eq_of_prefix_phrase hbegins.2

/-! ## Lines that tell a state -/

section Telling

variable {jobId line : String} {state other : Job.State}

theorem comparable_eq (line : String) :
    comparable line = (Text.lowercase (Text.trim line)).toList := by
  simp [comparable, Text.lowercase, Text.trim]

theorem tells_iff :
    Tells jobId line state ↔
      comparable line = key jobId state ∨
        ∃ c rest, comparable line = key jobId state ++ c :: rest ∧
          Text.isAlphanumeric c = false := by
  have hkey : (Text.lowercase (statusLine jobId state)).toList = key jobId state := by
    simp [Text.lowercase, key]
  rw [Tells, ← String.toList_inj, hkey, comparable_eq]

theorem continues_iff {l k : List Char} :
    continues l k = true ↔ ∃ c rest, l = k ++ c :: rest ∧ Text.isAlphanumeric c = false := by
  rw [continues, Bool.and_eq_true, List.isPrefixOf_iff_prefix]
  constructor
  · rintro ⟨⟨rest, rfl⟩, hboundary⟩
    rw [List.drop_left] at hboundary
    cases rest with
    | nil => simp at hboundary
    | cons c rest => exact ⟨c, rest, rfl, by simpa using hboundary⟩
  · rintro ⟨c, rest, rfl, hmark⟩
    refine ⟨List.prefix_append k _, ?_⟩
    rw [List.drop_left]
    simpa using hmark

theorem Tells.prefix_key (htells : Tells jobId line state) :
    key jobId state <+: comparable line := by
  rcases tells_iff.mp htells with heq | ⟨c, rest, heq, -⟩
  · exact heq ▸ List.prefix_rfl
  · exact heq ▸ List.prefix_append _ _

/-- A line tells one state of a job at most. -/
theorem Tells.unique (hstate : Tells jobId line state) (hother : Tells jobId line other) :
    state = other := by
  rcases List.prefix_or_prefix_of_prefix hstate.prefix_key hother.prefix_key with
    hbegins | hbegins
  · exact eq_of_prefix_key hbegins
  · exact (eq_of_prefix_key hbegins).symm

theorem tells_of_classifyIn {order : List Job.State}
    (hfound : classifyIn order jobId line = some state) : Tells jobId line state := by
  unfold classifyIn at hfound
  simp only at hfound
  rw [tells_iff, ← continues_iff]
  split at hfound
  next s hexact =>
    obtain rfl := Option.some.inj hfound
    have hkey := List.find?_some hexact
    exact .inl (by simpa using hkey)
  next =>
    have hkey := List.find?_some hfound
    exact .inr (by simpa using hkey)

/-- Whoever tries all keys finds the state that a line tells. -/
theorem classifyIn_eq_some_iff {order : List Job.State} (hall : ∀ s, s ∈ order) :
    classifyIn order jobId line = some state ↔ Tells jobId line state := by
  constructor
  · exact tells_of_classifyIn
  · intro htells
    cases hfound : classifyIn order jobId line with
    | some found => rw [(tells_of_classifyIn hfound).unique htells]
    | none =>
        unfold classifyIn at hfound
        simp only at hfound
        split at hfound
        next => simp at hfound
        next hexact =>
          rw [List.find?_eq_none] at hexact hfound
          rw [tells_iff, ← continues_iff] at htells
          rcases htells with heq | hcontinues
          · exact absurd (beq_iff_eq.mpr heq) (hexact state (hall state))
          · exact absurd hcontinues (hfound state (hall state))

theorem classify_eq_some_iff :
    classify jobId line = some state ↔ Tells jobId line state := by
  rw [classify_eq_classifyIn]
  exact classifyIn_eq_some_iff Job.State.mem_all

theorem classifyIn_eq_classify {order : List Job.State} (hall : ∀ s, s ∈ order) :
    classifyIn order jobId line = classify jobId line := by
  apply Option.ext
  intro state
  rw [classifyIn_eq_some_iff hall, classify_eq_some_iff]

end Telling

/-! ## What makes no difference -/

section Same

variable {jobId line other : String}

theorem classify_congr (hsame : comparable other = comparable line) :
    classify jobId other = classify jobId line := by
  simp only [classify, hsame]

theorem comparable_of_lowercase_eq (hcase : Text.lowercase other = Text.lowercase line) :
    comparable other = comparable line := by
  have hlower : Text.lowerAfter [] other.toList = Text.lowerAfter [] line.toList :=
    String.ofList_injective hcase
  rw [comparable, ← Text.trimChars_lowerAfter, hlower, Text.trimChars_lowerAfter, ← comparable]

theorem comparable_surrounded {before after : String}
    (hbefore : Text.isAllBlank before = true) (hafter : Text.isAllBlank after = true) :
    comparable (before ++ line ++ after) = comparable line := by
  rw [Text.isAllBlank, List.all_eq_true] at hbefore hafter
  rw [comparable, String.toList_append, String.toList_append,
    Text.trimChars_surrounded hbefore hafter, ← comparable]

end Same

/-! ## What may come after the state -/

/-- A detail does not go on with the word before it. -/
def EndsWord (detail : String) : Prop :=
  ∀ c rest, detail.toList = c :: rest → Text.isAlphanumeric c = false

theorem words_eq (state : Job.State) :
    ∃ front last, words state = front ++ [last] ∧ Text.isBlank last = false := by
  have htable : ∀ s ∈ Job.State.all, (words s).getLast?.all Text.isBlank = false := by decide
  have hlast := htable state state.mem_all
  cases hfound : (words state).getLast? with
  | none => simp [hfound] at hlast
  | some last =>
      obtain ⟨front, hfront⟩ := List.getLast?_eq_some_iff.mp hfound
      exact ⟨front, last, hfront, by simpa [hfound] using hlast⟩

theorem capitalSigma_notMem_words (state : Job.State) : Text.capitalSigma ∉ words state := by
  have htable : ∀ s ∈ Job.State.all, (words s).contains Text.capitalSigma = false := by decide
  have hnone := htable state state.mem_all
  simpa using hnone

theorem isAlphanumeric_capitalSigma : Text.isAlphanumeric Text.capitalSigma = true := by
  decide

section Detail

variable {jobId : String} (hid : IsJobName jobId) (state : Job.State)
include hid

theorem trimChars_statusLine (detail : List Char) :
    Text.trimChars ((statusLine jobId state).toList ++ detail) =
      (statusLine jobId state).toList ++ Text.trimEndChars detail := by
  obtain ⟨front, last, hwords, hword⟩ := words_eq state
  have hnonempty : jobId.toList.isEmpty = false := by
    have hne : jobId ≠ "" := by simpa [String.isEmpty_iff] using hid.ne_empty
    simpa using hne
  have htrimmed : Text.trimChars jobId.toList = jobId.toList := by
    have htrim := congrArg String.toList hid.trim_eq
    rwa [Text.trim, String.toList_ofList] at htrim
  have hfirst : jobId.toList.dropWhile Text.isBlank = jobId.toList := by
    rw [← htrimmed]
    exact Text.dropWhile_trimChars _
  have hline : (statusLine jobId state).toList ++ detail =
      jobId.toList ++ ' ' :: front ++ last :: detail := by
    rw [statusLine_toList, hwords]
    simp
  have hdropped : (jobId.toList ++ ' ' :: front ++ last :: detail).dropWhile Text.isBlank =
      jobId.toList ++ ' ' :: front ++ last :: detail := by
    rw [List.append_assoc, List.dropWhile_append, hfirst, hnonempty]
    rfl
  rw [hline, Text.trimChars, hdropped, Text.trimEndChars_append_cons hword, statusLine_toList,
    hwords]
  simp

/-- What follows the key is the detail without the blanks at its end. -/
theorem comparable_statusLine (detail : String) :
    comparable (statusLine jobId state ++ detail) =
      key jobId state ++
        Text.lowerAfter (words state).reverse (Text.trimEndChars detail.toList) := by
  have hnone := capitalSigma_notMem_words state
  have hphrase : phrase state = (words state).flatMap Text.lowerChar := by
    have happend := Text.lowerAfter_append_of_notMem hnone [] []
    simpa [phrase, Text.lowerAfter] using happend
  rw [comparable, String.toList_append, trimChars_statusLine hid, statusLine_toList,
    List.append_assoc, List.cons_append, lowerAfter_line,
    Text.lowerAfter_append_of_notMem hnone, key_eq, hphrase]
  simp

theorem tells_statusLine {detail : String} (hends : EndsWord detail) :
    Tells jobId (statusLine jobId state ++ detail) state := by
  rw [tells_iff, comparable_statusLine hid]
  cases hleft : Text.trimEndChars detail.toList with
  | nil => exact .inl (List.append_nil _)
  | cons c rest =>
      obtain ⟨later, hdetail⟩ := Text.eq_cons_of_trimEndChars hleft
      have hmark : Text.isAlphanumeric c = false := hends c later hdetail
      have hother : c ≠ Text.capitalSigma := by
        intro hsigma
        rw [hsigma, isAlphanumeric_capitalSigma] at hmark
        exact absurd hmark (by decide)
      right
      rw [Text.lowerAfter_cons, Text.lowerIn_of_ne hother,
        Text.lowerChar_of_not_isAlphanumeric hmark]
      exact ⟨c, _, rfl, hmark⟩

end Detail

/-! ## The whole of it -/

/-- For every name of a job that is not blank: the states that lines tell, and all that makes no
difference to them, which is the order in which the keys are tried, letter case, the blanks around a
line, and the detail after the state. -/
theorem classify_by_key (name : String) (hname : Text.isAllBlank name = false) :
    let jobId := Text.trim name
    start? name = some ⟨jobId, .unknown, .notComplete⟩ ∧
    (∀ line state, classify jobId line = some state ↔ Tells jobId line state) ∧
    (∀ line state other, Tells jobId line state → Tells jobId line other → state = other) ∧
    (∀ order line, (∀ state, state ∈ order) →
      classifyIn order jobId line = classify jobId line) ∧
    (∀ line other, Text.lowercase other = Text.lowercase line →
      classify jobId other = classify jobId line) ∧
    (∀ line other, other.toLower = line.toLower →
      classify jobId other = classify jobId line) ∧
    (∀ before line after, Text.isAllBlank before = true → Text.isAllBlank after = true →
      classify jobId (before ++ line ++ after) = classify jobId line) ∧
    ∀ state detail, EndsWord detail →
      classify jobId (statusLine jobId state ++ detail) = some state := by
  intro jobId
  have hid : IsJobName jobId := .trim hname
  have hstart : start? name = some ⟨jobId, .unknown, .notComplete⟩ := by
    simp [start?, Text.trim_isEmpty, hname, jobId]
  refine ⟨hstart, ?_, ?_, ?_, ?_, ?_, ?_, ?_⟩
  · intro line state
    exact classify_eq_some_iff
  · intro line state other hstate hother
    exact hstate.unique hother
  · intro order line hall
    exact classifyIn_eq_classify hall
  · intro line other hcase
    exact classify_congr (comparable_of_lowercase_eq hcase)
  · intro line other hcase
    apply classify_congr
    apply comparable_of_lowercase_eq
    rw [← Text.lowercase_toLower other, hcase, Text.lowercase_toLower]
  · intro before line after hbefore hafter
    exact classify_congr (comparable_surrounded hbefore hafter)
  · intro state detail hends
    exact classify_eq_some_iff.mpr (tells_statusLine hid state hends)

theorem classify_by_key_failed :
    Text.isAllBlank " D1 " = false ∧
      classify (Text.trim " D1 ") "D1 status: failed - late" = some .failed ∧
      classify (Text.trim " D1 ") "\td1 STATUS: FAILED" = some .failed := by
  have hname : Text.isAllBlank " D1 " = false := by decide
  obtain ⟨-, -, -, -, -, hcase, hsurrounded, hdetail⟩ := classify_by_key " D1 " hname
  have htrimmed : Text.trim " D1 " = "D1" := by decide
  rw [htrimmed] at hcase hsurrounded hdetail ⊢
  have hlate : classify "D1" "D1 status: failed - late" = some .failed := by
    have hends : EndsWord " - late" := by
      intro c rest hlist
      obtain ⟨rfl, -⟩ := List.cons.inj hlist
      decide
    exact hdetail .failed " - late" hends
  have hloud : classify "D1" "\td1 STATUS: FAILED" = some .failed := by
    have hends : EndsWord "" := by
      intro c rest hlist
      simp at hlist
    have hquiet := hdetail .failed "" hends
    have hletters : "d1 STATUS: FAILED".toLower = (statusLine "D1" .failed ++ "").toLower := by
      rw [← String.toList_inj, Text.toList_toLower, Text.toList_toLower]
      decide
    have hshouted := hcase _ _ hletters
    have htabbed := hsurrounded "\t" "d1 STATUS: FAILED" "" (by decide) (by decide)
    exact htabbed.trans (hshouted.trans hquiet)
  exact ⟨hname, hlate, hloud⟩

end Output.Status

end SprayWatch
