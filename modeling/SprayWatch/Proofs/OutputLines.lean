import SprayWatch.Machine.Performance
import SprayWatch.Proofs.CharacterReading
import SprayWatch.Proofs.Trimming

/-!
# Lines of output

Whoever watches a process gets its output line by line, however the bytes come in.  Each line feed
ends one line, and what is left when the output is closed is one more.  Texts that were written line
by line, whatever their line ends, are the lines that arrive.
-/

namespace SprayWatch.Text

/-! ## One line -/

def isLineEnd (c : Char) : Bool := c = '\r' || c = '\n'

/-- What one line can show: no line feed, and no carriage return at its end. -/
def IsLine (text : String) : Prop :=
  '\n' ∉ text.toList ∧ text.toList.getLast? ≠ some '\r'
  deriving Decidable

/-- The same of bytes, whether they are text or not. -/
def IsBody (bytes : List UInt8) : Prop :=
  10 ∉ bytes ∧ bytes.getLast? ≠ some 13

theorem dropLineEnd_eq_rdropWhile (cs : List Char) :
    dropLineEnd cs = cs.rdropWhile isLineEnd := by
  induction cs with
  | nil => rfl
  | cons c cs ih =>
      rw [rdropWhile_cons, ← ih, dropLineEnd]
      cases dropLineEnd cs with
      | nil => simp [isLineEnd]
      | cons d ds => simp

theorem isLine_ofBytesLossy_iff {bytes : List UInt8} :
    IsLine (ofBytesLossy bytes) ↔ IsBody bytes :=
  and_congr (not_congr (mem_ofBytesLossy_iff (d := 10) rfl bytes))
    (not_congr (getLast?_ofBytesLossy_iff (d := 13) rfl bytes))

theorem lineOf_eq (segment : List UInt8) :
    lineOf segment = String.ofList ((ofBytesLossy segment).toList.rdropWhile isLineEnd) := by
  rw [lineOf, ← toList_ofBytesLossy, dropLineEnd_eq_rdropWhile]

theorem lineOf_feed (bytes : List UInt8) : lineOf (bytes ++ [10]) = lineOf bytes := by
  rw [lineOf_eq, toList_ofBytesLossy_concat rfl, List.rdropWhile_concat_pos _ _ _ (by rfl),
    ← lineOf_eq]

theorem lineOf_return (bytes : List UInt8) : lineOf (bytes ++ [13]) = lineOf bytes := by
  rw [lineOf_eq, toList_ofBytesLossy_concat rfl, List.rdropWhile_concat_pos _ _ _ (by rfl),
    ← lineOf_eq]

theorem getLast?_of_isLine {text : String} (hline : IsLine text) :
    text.toList.getLast?.any isLineEnd = false := by
  cases hlast : text.toList.getLast? with
  | none => rfl
  | some c =>
      have hreturn : c ≠ '\r' := fun heq => hline.2 (heq ▸ hlast)
      have hfeed : c ≠ '\n' := fun heq => hline.1 (heq ▸ List.mem_of_getLast? hlast)
      simp [isLineEnd, hreturn, hfeed]

theorem lineOf_of_isBody {bytes : List UInt8} (hbody : IsBody bytes) :
    lineOf bytes = ofBytesLossy bytes := by
  have hkept := getLast?_of_isLine (isLine_ofBytesLossy_iff.mpr hbody)
  rw [← rdropWhile_eq_self_iff] at hkept
  rw [lineOf_eq, hkept, String.ofList_toList]

theorem isLine_lineOf {bytes : List UInt8} (hbare : 10 ∉ bytes) : IsLine (lineOf bytes) := by
  have hfeed : '\n' ∉ (ofBytesLossy bytes).toList :=
    mt (mem_ofBytesLossy_iff (d := 10) rfl bytes).mp hbare
  have hstable := List.rdropWhile_idempotent isLineEnd (ofBytesLossy bytes).toList
  rw [rdropWhile_eq_self_iff] at hstable
  rw [lineOf_eq]
  unfold IsLine
  rw [String.toList_ofList]
  constructor
  · intro hmem
    exact hfeed ((List.rdropWhile_prefix isLineEnd _).subset hmem)
  · intro hlast
    rw [hlast] at hstable
    contradiction

/-! ## Line after line -/

/-- A stream is read off in whole lines, each with its line feed, down to what is left. -/
theorem line_induction {P : List UInt8 → Prop} (left : ∀ bytes, 10 ∉ bytes → P bytes)
    (line : ∀ body rest, 10 ∉ body → P rest → P (body ++ 10 :: rest)) (bytes : List UInt8) :
    P bytes := by
  induction hlength : bytes.length using Nat.strong_induction_on generalizing bytes with
  | h n ih =>
      by_cases hfeed : 10 ∈ bytes
      · obtain ⟨body, rest, rfl, hbare⟩ := List.eq_append_cons_of_mem hfeed
        apply line body rest hbare
        apply ih rest.length _ rest rfl
        rw [← hlength, List.length_append, List.length_cons]
        omega
      · exact left bytes hfeed

theorem segments_of_notMem {bytes : List UInt8} (hbare : 10 ∉ bytes) :
    segments bytes = if bytes = [] then [] else [bytes] := by
  induction bytes with
  | nil => rfl
  | cons b bytes ih =>
      rw [List.mem_cons, not_or] at hbare
      rw [segments, if_neg (Ne.symm hbare.1), ih hbare.2]
      by_cases hnothing : bytes = []
      · simp [hnothing]
      · simp [hnothing]

theorem segments_append_cons {body : List UInt8} (hbare : 10 ∉ body) (rest : List UInt8) :
    segments (body ++ 10 :: rest) = (body ++ [10]) :: segments rest := by
  induction body with
  | nil => rfl
  | cons b body ih =>
      rw [List.mem_cons, not_or] at hbare
      rw [List.cons_append, segments, if_neg (Ne.symm hbare.1), ih hbare.2]
      rfl

theorem linesOf_of_notMem {bytes : List UInt8} (hbare : 10 ∉ bytes) :
    linesOf bytes = if bytes = [] then [] else [lineOf bytes] := by
  rw [linesOf, segments_of_notMem hbare]
  split <;> rfl

theorem linesOf_append_cons {body : List UInt8} (hbare : 10 ∉ body) (rest : List UInt8) :
    linesOf (body ++ 10 :: rest) = lineOf body :: linesOf rest := by
  rw [linesOf, segments_append_cons hbare, List.map_cons, lineOf_feed, linesOf]

theorem length_linesOf (bytes : List UInt8) :
    (linesOf bytes).length = bytes.count 10 + if bytes.getLast?.any (· ≠ 10) then 1 else 0 := by
  induction bytes using line_induction with
  | left bytes hbare =>
      rw [linesOf_of_notMem hbare, List.count_eq_zero_of_not_mem hbare]
      cases hlast : bytes.getLast? with
      | none => simp [List.getLast?_eq_none_iff.mp hlast]
      | some b =>
          have hother : b ≠ 10 := fun heq => hbare (heq ▸ List.mem_of_getLast? hlast)
          have hsome : bytes ≠ [] := by
            rintro rfl
            contradiction
          simp [hother, hsome]
  | line body rest hbare ih =>
      have hend : (body ++ 10 :: rest).getLast?.any (· ≠ 10) = rest.getLast?.any (· ≠ 10) := by
        cases hlast : rest.getLast? with
        | none => simp [List.getLast?_eq_none_iff.mp hlast]
        | some b => simp [List.getLast?_append, List.getLast?_cons, hlast]
      rw [linesOf_append_cons hbare, List.length_cons, ih, hend, List.count_append,
        List.count_eq_zero_of_not_mem hbare, List.count_cons_self]
      omega

theorem isLine_of_mem_linesOf {bytes : List UInt8} : ∀ line ∈ linesOf bytes, IsLine line := by
  induction bytes using line_induction with
  | left bytes hbare =>
      rw [linesOf_of_notMem hbare]
      split
      · simp
      · simpa using isLine_lineOf hbare
  | line body rest hbare ih =>
      rw [linesOf_append_cons hbare, List.forall_mem_cons]
      exact ⟨isLine_lineOf hbare, ih⟩

/-! ## Writing lines -/

/-- Bytes that write some bodies line by line, each with a line feed after it or a carriage return
and a line feed; the last one can go without. -/
inductive LineByLine : List (List UInt8) → List UInt8 → Prop where
  | nothing : LineByLine [] []
  | unended {body : List UInt8} (hbytes : body ≠ []) : LineByLine [body] body
  | feed {body bytes : List UInt8} {bodies : List (List UInt8)} (hrest : LineByLine bodies bytes) :
      LineByLine (body :: bodies) (body ++ [10] ++ bytes)
  | returnFeed {body bytes : List UInt8} {bodies : List (List UInt8)}
      (hrest : LineByLine bodies bytes) : LineByLine (body :: bodies) (body ++ [13, 10] ++ bytes)

theorem LineByLine.linesOf_eq {bodies : List (List UInt8)} {bytes : List UInt8}
    (hwritten : LineByLine bodies bytes) (hbodies : ∀ body ∈ bodies, IsBody body) :
    linesOf bytes = bodies.map ofBytesLossy := by
  induction hwritten with
  | nothing => rfl
  | unended hbytes =>
      rw [List.forall_mem_singleton] at hbodies
      rw [linesOf_of_notMem hbodies.1, if_neg hbytes, lineOf_of_isBody hbodies, List.map_singleton]
  | @feed body bytes bodies hrest ih =>
      rw [List.forall_mem_cons] at hbodies
      rw [List.append_assoc, List.singleton_append, linesOf_append_cons hbodies.1.1,
        lineOf_of_isBody hbodies.1, ih hbodies.2, List.map_cons]
  | @returnFeed body bytes bodies hrest ih =>
      rw [List.forall_mem_cons] at hbodies
      have hbare : 10 ∉ body ++ [13] := by simp [hbodies.1.1]
      have hcut : body ++ [13, 10] ++ bytes = (body ++ [13]) ++ 10 :: bytes := by simp
      rw [hcut, linesOf_append_cons hbare, lineOf_return, lineOf_of_isBody hbodies.1,
        ih hbodies.2, List.map_cons]

end SprayWatch.Text

namespace SprayWatch.Machine

open Text (segments lineOf linesOf IsLine IsBody LineByLine ofBytesLossy toBytes)

/-! ## Read after read -/

/-- All the bytes that come in on a channel. -/
def streamOf (reads : List (Nat × List UInt8)) : List UInt8 :=
  reads.flatMap Prod.snd

/-- The lines that arrive from a channel that is closed. -/
def delivered (closes : Nat) (reads : List (Nat × List UInt8)) : List String :=
  (channelLines (some closes) [] reads).map Prod.snd

theorem completed_of_notMem {bytes : List UInt8} (hbare : 10 ∉ bytes) (moment : Nat) :
    completed moment (segments bytes) = ([], bytes) := by
  rw [Text.segments_of_notMem hbare]
  by_cases hnothing : bytes = []
  · rw [if_pos hnothing, hnothing]
    rfl
  · have hopen : bytes.getLast? ≠ some 10 := fun hlast => hbare (List.mem_of_getLast? hlast)
    rw [if_neg hnothing, completed]
    simp [completed, hopen]

theorem completed_append_cons {body : List UInt8} (hbare : 10 ∉ body) (rest : List UInt8)
    (moment : Nat) :
    completed moment (segments (body ++ 10 :: rest)) =
      ((moment, lineOf body) :: (completed moment (segments rest)).1,
        (completed moment (segments rest)).2) := by
  have hended : (body ++ [10]).getLast? = some 10 := List.getLast?_concat
  rw [Text.segments_append_cons hbare, completed, Text.lineOf_feed]
  exact if_pos hended

/-- What is not complete yet has no line feed, and with what comes in later it shows the lines that
all the bytes would have shown. -/
theorem completed_spec (moment : Nat) (bytes : List UInt8) :
    10 ∉ (completed moment (segments bytes)).2 ∧
      ∀ later, (completed moment (segments bytes)).1.map Prod.snd ++
          linesOf ((completed moment (segments bytes)).2 ++ later) =
        linesOf (bytes ++ later) := by
  induction bytes using Text.line_induction with
  | left bytes hbare =>
      rw [completed_of_notMem hbare]
      exact ⟨hbare, fun later => rfl⟩
  | line body rest hbare ih =>
      rw [completed_append_cons hbare]
      refine ⟨ih.1, fun later => ?_⟩
      rw [List.map_cons, List.cons_append, ih.2, List.append_assoc, List.cons_append,
        Text.linesOf_append_cons hbare]

theorem channelLines_eq {front : List UInt8} (hbare : 10 ∉ front) (closes : Nat)
    (reads : List (Nat × List UInt8)) :
    (channelLines (some closes) front reads).map Prod.snd =
      linesOf (front ++ streamOf reads) := by
  induction reads generalizing front with
  | nil =>
      rw [streamOf, List.flatMap_nil, List.append_nil, Text.linesOf_of_notMem hbare]
      cases front with
      | nil => rfl
      | cons b front => rfl
  | cons read reads ih =>
      have hread := completed_spec read.1 (front ++ read.2)
      rw [channelLines, List.map_append, ih hread.1, hread.2, List.append_assoc]
      rfl

theorem delivered_eq_linesOf (closes : Nat) (reads : List (Nat × List UInt8)) :
    delivered closes reads = linesOf (streamOf reads) := by
  rw [delivered, channelLines_eq (by simp), List.nil_append]

/-- However a stream is cut into reads, each line feed ends a line and what is left at the end is
one more; and what was written line by line arrives as it was written. -/
theorem lines_of_stream (closes : Nat) (reads : List (Nat × List UInt8)) :
    (delivered closes reads).length =
        (streamOf reads).count 10 + (if (streamOf reads).getLast?.any (· ≠ 10) then 1 else 0) ∧
      (∀ line ∈ delivered closes reads, IsLine line) ∧
      (∀ bodies, (∀ body ∈ bodies, IsBody body) → LineByLine bodies (streamOf reads) →
        delivered closes reads = bodies.map ofBytesLossy) ∧
      ∀ texts : List String, (∀ text ∈ texts, IsLine text) →
        LineByLine (texts.map toBytes) (streamOf reads) → delivered closes reads = texts := by
  rw [delivered_eq_linesOf]
  refine ⟨Text.length_linesOf _, Text.isLine_of_mem_linesOf, ?_, ?_⟩
  · intro bodies hbodies hwritten
    exact hwritten.linesOf_eq hbodies
  · intro texts htexts hwritten
    have hbodies : ∀ body ∈ texts.map toBytes, IsBody body := by
      intro body hmem
      obtain ⟨text, htext, rfl⟩ := List.mem_map.mp hmem
      rw [← Text.isLine_ofBytesLossy_iff, Text.ofBytesLossy_toBytes]
      exact htexts text htext
    rw [hwritten.linesOf_eq hbodies, List.map_map]
    exact (List.map_congr_left fun text _ => Text.ofBytesLossy_toBytes text).trans (List.map_id _)

theorem lines_of_stream_split_character :
    delivered 4 [(1, [97, 13]), (2, [10, 10, 98, 195]), (3, [169])] = ["a", "", "bé"] := by
  have hwritten : LineByLine (["a", "", "bé"].map toBytes) [97, 13, 10, 10, 98, 195, 169] := by
    simp only [List.map_cons, List.map_nil, Text.toBytes_eq_flatMap]
    exact .returnFeed (.feed (.unended (by decide)))
  apply (lines_of_stream 4 [(1, [97, 13]), (2, [10, 10, 98, 195]), (3, [169])]).2.2.2
  · decide
  · exact hwritten

end SprayWatch.Machine
