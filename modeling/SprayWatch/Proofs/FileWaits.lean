import SprayWatch.Monitor.FileWait
import SprayWatch.Proofs.JobOutcomes
import SprayWatch.Proofs.ListingLines

/-!
# Waiting for files

A wait for a file repeats one listing.  What an exchange brings it is read from that listing alone:
one that exits without success calls the wait off, an error record in it makes the wait fail, and a
match ends it well.  So the wait succeeds with the first listing that shows a file, if this comes in
time, and it never runs any command but the listing.
-/

namespace SprayWatch

/-! ## What a listing says -/

namespace Course

/-- A listing is successful, and there is no error record in it. -/
structure Lists (answer : Course Ending) : Prop where
  exited : answer.ending = some (.exited .finished)
  flawless : ∀ line ∈ answer.lines, Output.isErrorRecord line = false

structure LacksFile (answer : Course Ending) (mask : String) (pattern : Mask.Pattern) : Prop
    extends answer.Lists where
  unmatched : ¬ Output.Match.Shows mask pattern answer.lines

structure ShowsFile (answer : Course Ending) (mask : String) (pattern : Mask.Pattern) : Prop
    extends answer.Lists where
  matched : Output.Match.Shows mask pattern answer.lines

/-- What a listing means to one who waits for a file. -/
def listingVerdict (answer : Course Ending) (mask : String) (pattern : Mask.Pattern) :
    Verdict Unit Unit :=
  match answer.break? with
  | some b => .broke b
  | none =>
    let read := answer.lines.foldl Output.Match.feed ⟨mask, pattern, false, false, false⟩
    if read.hasErrors then .broke (.failed (.listErrors mask))
    else if read.found then .settled () else .notYet ()

section Verdicts

variable {answer : Course Ending} {mask : String} {pattern : Mask.Pattern}

theorem listingVerdict_of_break {b : Break} (hbreak : answer.break? = some b) :
    answer.listingVerdict mask pattern = .broke b := by
  simp [listingVerdict, hbreak]

theorem listingVerdict_of_error (hexited : answer.ending = some (.exited .finished))
    (herror : ∃ line ∈ answer.lines, Output.isErrorRecord line = true) :
    answer.listingVerdict mask pattern = .broke (.failed (.listErrors mask)) := by
  have hany : answer.lines.any Output.isErrorRecord = true := List.any_eq_true.mpr herror
  simp [listingVerdict, break?_eq_none.mpr hexited, Output.Match.hasErrors_of_start, hany]

theorem Lists.listingVerdict (hlists : answer.Lists) :
    answer.listingVerdict mask pattern =
      if (answer.lines.foldl Output.Match.feed ⟨mask, pattern, false, false, false⟩).found then
        .settled ()
      else .notYet () := by
  have hnone : answer.lines.any Output.isErrorRecord = false := by
    simpa using hlists.flawless
  simp [Course.listingVerdict, break?_eq_none.mpr hlists.exited,
    Output.Match.hasErrors_of_start, hnone]

theorem ShowsFile.listingVerdict (hshows : answer.ShowsFile mask pattern) :
    answer.listingVerdict mask pattern = .settled () := by
  rw [hshows.toLists.listingVerdict,
    if_pos ((Output.Match.found_of_start mask pattern _).mpr hshows.matched)]

theorem LacksFile.listingVerdict (hlacks : answer.LacksFile mask pattern) :
    answer.listingVerdict mask pattern = .notYet () := by
  rw [hlacks.toLists.listingVerdict,
    if_neg (mt (Output.Match.found_of_start mask pattern _).mp hlacks.unmatched)]

/-- A listing ends without success, or has an error record in it, or shows a file, or lacks it. -/
theorem listing_cases (answer : Course Ending) (mask : String) (pattern : Mask.Pattern) :
    (∃ b, answer.break? = some b) ∨
      (answer.ending = some (.exited .finished) ∧
        ∃ line ∈ answer.lines, Output.isErrorRecord line = true) ∨
      answer.ShowsFile mask pattern ∨ answer.LacksFile mask pattern := by
  cases hbreak : answer.break? with
  | some b => exact .inl ⟨b, rfl⟩
  | none =>
      have hexited := break?_eq_none.mp hbreak
      by_cases herror : ∃ line ∈ answer.lines, Output.isErrorRecord line = true
      · exact .inr (.inl ⟨hexited, herror⟩)
      · have hlists : answer.Lists := ⟨hexited, by simpa using herror⟩
        by_cases hmatched : Output.Match.Shows mask pattern answer.lines
        · exact .inr (.inr (.inl ⟨hlists, hmatched⟩))
        · exact .inr (.inr (.inr ⟨hlists, hmatched⟩))

theorem lists_of_notYet {next : Unit}
    (hverdict : answer.listingVerdict mask pattern = .notYet next) : answer.Lists := by
  rcases answer.listing_cases mask pattern with
    ⟨b, hbreak⟩ | ⟨hexited, herror⟩ | hshows | hlacks
  · simp [listingVerdict_of_break hbreak] at hverdict
  · simp [listingVerdict_of_error hexited herror] at hverdict
  · exact hshows.toLists
  · exact hlacks.toLists

end Verdicts

end Course

@[simp] theorem Output.Match.listener_feed :
    Output.Match.listener.feed = Output.Match.feed := by
  simp only [Output.Match.listener]

namespace Monitor

variable {σ : Type}

/-- What an exchange brings the wait for a file to. -/
def Exchange.listing? (e : Exchange) (mask : String) (pattern : Mask.Pattern) :
    Option (Except Break Unit) :=
  match e.answer.listingVerdict mask pattern with
  | .broke b => some (.error b)
  | .settled () => some (.ok ())
  | .notYet () =>
    match e.rested with
    | .error b => some (.error b)
    | .ok () => none

section Bringing

variable {e : Exchange} {mask : String} {pattern : Mask.Pattern}

theorem Exchange.listing?_eq_ok :
    e.listing? mask pattern = some (.ok ()) ↔ e.answer.ShowsFile mask pattern := by
  rcases e.answer.listing_cases mask pattern with
    ⟨b, hbreak⟩ | ⟨hexited, herror⟩ | hshows | hlacks
  · simp only [listing?, Course.listingVerdict_of_break hbreak, Option.some.injEq, reduceCtorEq,
      false_iff]
    intro hshows
    simp [Course.break?_eq_none.mpr hshows.exited] at hbreak
  · simp only [listing?, Course.listingVerdict_of_error hexited herror, Option.some.injEq,
      reduceCtorEq, false_iff]
    intro hshows
    obtain ⟨line, hmem, hrecord⟩ := herror
    simp [hshows.flawless line hmem] at hrecord
  · simp [listing?, hshows.listingVerdict, hshows]
  · have hnot : ¬ e.answer.ShowsFile mask pattern :=
      fun hshows => hlacks.unmatched hshows.matched
    simp only [listing?, hlacks.listingVerdict, hnot, iff_false]
    cases e.rested with
    | error b => simp
    | ok done => simp

theorem Exchange.listing?_eq_none :
    e.listing? mask pattern = none ↔
      e.answer.LacksFile mask pattern ∧ e.rested = .ok () := by
  rcases e.answer.listing_cases mask pattern with
    ⟨b, hbreak⟩ | ⟨hexited, herror⟩ | hshows | hlacks
  · simp only [listing?, Course.listingVerdict_of_break hbreak, reduceCtorEq, false_iff, not_and]
    intro hlacks
    simp [Course.break?_eq_none.mpr hlacks.exited] at hbreak
  · simp only [listing?, Course.listingVerdict_of_error hexited herror, reduceCtorEq, false_iff,
      not_and]
    intro hlacks
    obtain ⟨line, hmem, hrecord⟩ := herror
    simp [hlacks.flawless line hmem] at hrecord
  · simp only [listing?, hshows.listingVerdict, reduceCtorEq, false_iff, not_and]
    exact fun hlacks => absurd hshows.matched hlacks.unmatched
  · simp only [listing?, hlacks.listingVerdict, hlacks, true_and]
    cases e.rested with
    | error b => simp
    | ok done => simp

theorem Exchange.listing?_of_break {b : Break} (hbreak : e.answer.break? = some b) :
    e.listing? mask pattern = some (.error b) := by
  simp [listing?, Course.listingVerdict_of_break hbreak]

theorem Exchange.listing?_of_error (hexited : e.answer.ending = some (.exited .finished))
    (herror : ∃ line ∈ e.answer.lines, Output.isErrorRecord line = true) :
    e.listing? mask pattern = some (.error (.failed (.listErrors mask))) := by
  simp [listing?, Course.listingVerdict_of_error hexited herror]

end Bringing

/-! ## Attempts -/

section Attempt

variable (m : Monitor σ) {mask : String} {pattern : Mask.Pattern}
  (hcompile : Mask.compile mask = .ok pattern) (deadline : Nat) (s : Station σ)
include hcompile

theorem attemptListing_value :
    (m.attemptListing mask deadline s).value =
      (m.answer deadline (m.base.list mask) s).listingVerdict mask pattern := by
  simp only [attemptListing, Output.Match.start_of_compile hcompile, Act.bind_apply, ask_value,
    Output.Match.listener_feed, Course.listingVerdict]
  cases (m.answer deadline (m.base.list mask) s).break? with
  | some b => rfl
  | none =>
      generalize (m.answer deadline (m.base.list mask) s).lines.foldl Output.Match.feed
        ⟨mask, pattern, false, false, false⟩ = read
      cases herrors : read.hasErrors with
      | true => simp
      | false => simp

theorem attemptListing_deeds :
    (m.attemptListing mask deadline s).did.deeds = [.ran (m.base.list mask)] := by
  simp only [attemptListing, Output.Match.start_of_compile hcompile, Act.bind_apply, ask_value,
    Output.Match.listener_feed, Transcript.deeds_append, ask_deeds]
  cases (m.answer deadline (m.base.list mask) s).break? with
  | some b => rfl
  | none =>
      generalize (m.answer deadline (m.base.list mask) s).lines.foldl Output.Match.feed
        ⟨mask, pattern, false, false, false⟩ = read
      cases herrors : read.hasErrors with
      | true => simp
      | false => simp [tick_deeds]

theorem attemptListing_station
    (hlists : (m.answer deadline (m.base.list mask) s).Lists) :
    (m.attemptListing mask deadline s).station =
      m.ticked (m.asked deadline (m.base.list mask) s) := by
  have hnone : (m.answer deadline (m.base.list mask) s).lines.any Output.isErrorRecord = false :=
    by simpa using hlists.flawless
  simp [attemptListing, Output.Match.start_of_compile hcompile, ask_value,
    Course.break?_eq_none.mpr hlists.exited, Output.Match.hasErrors_of_start, hnone,
    tick_station, ask_station]

theorem repeats_attemptListing :
    m.Repeats deadline (m.base.list mask) (fun _ => m.attemptListing mask deadline)
      (fun e => e.listing? mask pattern) fun _ => True := by
  have hdeeds := fun previous s =>
    m.attemptListing_deeds hcompile deadline (m.drawn previous s).station
  constructor
  · intro memory previous s result _ hresult
    simp only [Exchange.listing?, exchange] at hresult
    rw [round_apply]
    simp only [m.attemptListing_value hcompile]
    cases hverdict : (m.answer deadline (m.base.list mask)
        (m.drawn previous s).station).listingVerdict mask pattern with
    | broke b =>
        obtain rfl : .error b = result := by simpa [hverdict] using hresult
        exact ⟨_, _, rfl, hdeeds previous s⟩
    | settled done =>
        obtain rfl : .ok () = result := by simpa [hverdict] using hresult
        exact ⟨_, _, rfl, hdeeds previous s⟩
    | notYet next =>
        rw [hverdict] at hresult
        simp only [m.attemptListing_station hcompile _ _ (Course.lists_of_notYet hverdict)]
        have hrest := m.rest_deeds deadline (m.drawn previous s).value.val
          (m.ticked (m.asked deadline (m.base.list mask) (m.drawn previous s).station))
        cases hrested : (m.rest deadline (m.drawn previous s).value.val
            (m.ticked (m.asked deadline (m.base.list mask)
              (m.drawn previous s).station))).value with
        | ok done => simp [hrested] at hresult
        | error b =>
            obtain rfl : .error b = result := by simpa [hrested] using hresult
            rw [hrested] at hrest
            exact ⟨_, _, rfl, by rw [Transcript.deeds_append, hdeeds, hrest]; rfl⟩
  · intro memory previous s _ hpending
    obtain ⟨hlacks, hrested⟩ := Exchange.listing?_eq_none.mp hpending
    simp only [exchange] at hlacks hrested
    have hrest := m.rest_deeds deadline (m.drawn previous s).value.val
      (m.ticked (m.asked deadline (m.base.list mask) (m.drawn previous s).station))
    rw [hrested] at hrest
    rw [round_apply]
    simp only [m.attemptListing_value hcompile, hlacks.listingVerdict,
      m.attemptListing_station hcompile _ _ hlacks.toLists, hrested]
    refine ⟨_, _, _, rfl, ?_, rfl, trivial⟩
    rw [Transcript.deeds_append, hdeeds, hrest]
    rfl

end Attempt

/-! ## Whole waits -/

/-- What the result of the poll makes of a wait for a file. -/
def waited : Except Failure Unit → Outcome
  | .ok () => .completed .success
  | .error .timeoutExceeded => .timedOut
  | .error f => if f.isAbort then .aborted else .failed f

section Waits

variable (m : Monitor σ) (mask : String) (s : Station σ)

/-- The station from which a wait for a file begins. -/
def waitStart : Station σ := { s with current := some .fresh }

/-- The exchanges of a wait for a file. -/
def listings : Nat → Exchange :=
  m.exchanges (m.deadline (waitStart s)) (m.base.list mask) 0 (waitStart s)

theorem runFileWait_value (t : Station σ) :
    (m.runFileWait mask t).value =
      waited (m.handOver (fun d _ => m.attemptListing mask d) () t).value := by
  simp only [runFileWait, Act.bind_apply]
  cases (m.handOver (fun d _ => m.attemptListing mask d) () t).value with
  | ok done => rfl
  | error f => cases f <;> rfl

theorem runFileWait_deeds (t : Station σ) :
    (m.runFileWait mask t).did.deeds =
      (m.handOver (fun d _ => m.attemptListing mask d) () t).did.deeds := by
  simp only [runFileWait, Act.bind_apply, Transcript.deeds_append]
  cases (m.handOver (fun d _ => m.attemptListing mask d) () t).value with
  | ok done => simp
  | error f => cases f <;> simp [Failure.isAbort]

theorem waitForFile_of_fault {fault : Mask.Fault} (hcompile : Mask.compile mask = .error fault) :
    m.waitForFile mask s = ⟨.failed (.invalidMask mask fault), [], s⟩ := by
  simp [waitForFile, hcompile]

theorem list_eq (base : Command) :
    base.list mask = base.withArgs ["action=list", "name=" ++ mask] := by
  simp [Command.list, Command.arg, Command.withArgs]

variable {mask} {s} {pattern : Mask.Pattern} (hcompile : Mask.compile mask = .ok pattern)
include hcompile

theorem waitForFile_value :
    (m.waitForFile mask s).value = (m.runFileWait mask (waitStart s)).value := by
  simp [waitForFile, hcompile, monitored, waitStart]

theorem waitForFile_deeds :
    (m.waitForFile mask s).did.deeds = (m.runFileWait mask (waitStart s)).did.deeds := by
  simp [waitForFile, hcompile, monitored, waitStart]

/-- A wait for a file comes to what the exchange brings that closes its poll. -/
theorem waitForFile_closesBy (haccepting : s.accepting = true) :
    ∃ n result,
      ClosesBy (fun e => e.listing? mask pattern) (m.listings mask s) m.budget n result ∧
      (m.waitForFile mask s).value = waited (handed result) ∧
      (m.waitForFile mask s).did.commands = List.replicate (n + 1) (m.base.list mask) := by
  have hthere : (waitStart s).accepting = true := haccepting
  have hrepeats := m.repeats_attemptListing hcompile (m.deadline (waitStart s))
  obtain ⟨n, hcloses, hdeeds⟩ :=
    hrepeats.poll_closesBy () trivial (waitStart s)
  refine ⟨n, _, hcloses, ?_, ?_⟩
  · rw [m.waitForFile_value hcompile, runFileWait_value,
      handOver_value_of_accepting m _ _ _ hthere]
  · rw [← Transcript.commands_deeds, m.waitForFile_deeds hcompile, runFileWait_deeds,
      handOver_deeds_of_accepting m _ _ _ hthere, hdeeds, commands_deedsBy]

theorem waitForFile_of_closesBy {n : Nat} {result : Except Break Unit}
    (haccepting : s.accepting = true)
    (hcloses :
      ClosesBy (fun e => e.listing? mask pattern) (m.listings mask s) m.budget n result) :
    (m.waitForFile mask s).value = waited (handed result) ∧
      (m.waitForFile mask s).did.commands.length = n + 1 := by
  obtain ⟨k, other, hother, hvalue, hcommands⟩ := m.waitForFile_closesBy hcompile haccepting
  obtain ⟨rfl, rfl⟩ := hother.unique hcloses
  exact ⟨hvalue, by simp [hcommands]⟩

/-- The listings that take place are those that are run. -/
theorem reachedBy_iff_lt_length {n : Nat} (haccepting : s.accepting = true) :
    ReachedBy (fun e => e.listing? mask pattern) (m.listings mask s) m.budget n ↔
      n < (m.waitForFile mask s).did.commands.length := by
  obtain ⟨last, result, hcloses, -, hcommands⟩ := m.waitForFile_closesBy hcompile haccepting
  rw [hcommands, List.length_replicate, Nat.lt_succ_iff]
  constructor
  · exact hcloses.le_of_reached
  · intro hle k hk
    exact hcloses.reached k (by omega)

/-- A listing that is run decides the wait, if it calls it off, or makes it fail, or shows a
file. -/
theorem waitForFile_of_brought {n : Nat} {result : Except Break Unit}
    (haccepting : s.accepting = true)
    (hrun : n < (m.waitForFile mask s).did.commands.length)
    (hbrought : (m.listings mask s n).listing? mask pattern = some result) :
    (m.waitForFile mask s).value = waited (handed result) ∧
      (m.waitForFile mask s).did.commands.length = n + 1 :=
  m.waitForFile_of_closesBy hcompile haccepting
    (.brought ((m.reachedBy_iff_lt_length hcompile haccepting).mpr hrun) hbrought)

end Waits

/-! ## Listings in time -/

/-- Listing number `n` is waited for: those before it lack the file, and the pauses before it leave
something of the longest wait. -/
structure ListingAwaited (m : Monitor σ) (mask : String) (pattern : Mask.Pattern)
    (s : Station σ) (n : Nat) : Prop where
  lacking : ∀ k < n, (m.listings mask s k).answer.LacksFile mask pattern
  inTime : spent (m.listings mask s) n < m.maxWait

/-- A wait for a file is left alone: nobody asks to stop, and the wait for its poll does not
expire. -/
structure WaitsAlone (m : Monitor σ) (mask : String) (pattern : Mask.Pattern)
    (s : Station σ) : Prop where
  answer : ∀ n, m.ListingAwaited mask pattern s n → (m.listings mask s n).answer.Calm
  pause :
    ∀ n, m.ListingAwaited mask pattern s n →
      (m.listings mask s n).answer.LacksFile mask pattern →
      (m.listings mask s n).pause.Calm

section Outcomes

variable {m : Monitor σ} {mask : String} {pattern : Mask.Pattern} {s : Station σ} {n : Nat}

theorem ListingAwaited.of_lt {k : Nat} (hawaited : m.ListingAwaited mask pattern s n)
    (hlt : k < n) : m.ListingAwaited mask pattern s k :=
  ⟨fun j hj => hawaited.lacking j (by omega),
    Nat.lt_of_le_of_lt (spent_mono _ (Nat.le_of_lt hlt)) hawaited.inTime⟩

theorem WaitsAlone.reached (halone : m.WaitsAlone mask pattern s)
    (hmax : m.maxWait < Backoff.wordCount) (hawaited : m.ListingAwaited mask pattern s n) :
    ReachedBy (fun e => e.listing? mask pattern) (m.listings mask s) m.budget n := by
  rw [budget_eq hmax]
  refine reachedBy_of_spent_lt (fun k hk => ?_) hawaited.inTime
  refine Exchange.listing?_eq_none.mpr ⟨hawaited.lacking k hk, ?_⟩
  refine m.exchanges_rested_ok _ _ rfl (fun j hj => ?_) fun j hj => ?_
  · exact halone.answer j (hawaited.of_lt (by omega))
  · exact halone.pause j (hawaited.of_lt (by omega)) (hawaited.lacking j (by omega))

theorem ReachedBy.listingAwaited (hpos : 0 < m.maxWait)
    (hreached : ReachedBy (fun e => e.listing? mask pattern) (m.listings mask s) m.budget n) :
    m.ListingAwaited mask pattern s n :=
  ⟨fun k hk => (Exchange.listing?_eq_none.mp (hreached k hk).1).1,
    hreached.spent_lt hpos m.budget_le⟩

theorem waited_handed_eq_completed {result : Except Break Unit}
    (hcompleted : waited (handed result) = .completed .success) : result = .ok () := by
  cases result with
  | ok done => rfl
  | error b =>
      cases b with
      | failed f => cases f <;> simp [handed, waited, Failure.isAbort] at hcompleted
      | lost => simp [handed, waited, Failure.isAbort] at hcompleted
      | abandoned => simp [handed, waited] at hcompleted

variable (hcompile : Mask.compile mask = .ok pattern) (haccepting : s.accepting = true)
include hcompile haccepting

theorem exists_shows_of_completed (hpos : 0 < m.maxWait)
    (hcompleted : (m.waitForFile mask s).value = .completed .success) :
    ∃ n,
      (m.waitForFile mask s).did.commands.length = n + 1 ∧
      m.ListingAwaited mask pattern s n ∧
      (m.listings mask s n).answer.ShowsFile mask pattern := by
  obtain ⟨n, result, hcloses, hvalue, hcommands⟩ :=
    m.waitForFile_closesBy hcompile haccepting
  rw [hcompleted] at hvalue
  obtain rfl := waited_handed_eq_completed hvalue.symm
  cases hcloses with
  | brought hreached hresult =>
      exact ⟨n, by simp [hcommands], hreached.listingAwaited hpos,
        Exchange.listing?_eq_ok.mp hresult⟩

end Outcomes

/-! ## The outcome of a wait -/

/-- A monitor whose first listing only repeats the request, whose second only names the file, and
whose later ones do both. -/
def cataloguing : Monitor Nat where
  site :=
    { recital fun _ => "" with
      run := fun _ _ n =>
        let lines :=
          if n = 0 then ["List zzlc*"]
          else if n = 1 then ["zzlc::csv"]
          else ["List zzlc*", "zzlc::csv"]
        (⟨lines.map .line, some (.exited .finished)⟩, n + 1) }
  base := .bare ⟨"dfuplus"⟩
  pollCeiling := 1001
  maxWait := 5000

theorem waitsAlone_of_cataloguing {m : Monitor Nat} (hsite : m.site = cataloguing.site)
    (mask : String) (pattern : Mask.Pattern) (s : Station Nat) : m.WaitsAlone mask pattern s := by
  have hrun : ∀ c watch n, (m.site.run c watch n).1.Calm :=
    fun _ _ n => ⟨by simp [hsite, cataloguing], by simp [hsite, cataloguing]⟩
  have hpause : ∀ ms watch n, (m.site.pause ms watch n).1.Calm :=
    fun _ _ n => ⟨by simp [hsite, cataloguing, recital], by simp [hsite, cataloguing, recital]⟩
  exact ⟨fun n _ => (exchanges_calm hrun hpause _ _ _ _ n).1,
    fun n _ _ => (exchanges_calm hrun hpause _ _ _ _ n).2⟩

def zzlcPattern : Mask.Pattern :=
  ⟨[.exactly 'z', .exactly 'z', .exactly 'l', .exactly 'c', .anyText]⟩

theorem compile_zzlc : Mask.compile "zzlc*" = .ok zzlcPattern := by decide +kernel

/-- The third listing comes in time for whoever waits longer than two pauses, and it is the first to
show a file. -/
theorem cataloguing_shows {longest : Nat} (hlong : 2000 < longest) :
    ({ cataloguing with maxWait := longest } : Monitor Nat).ListingAwaited "zzlc*" zzlcPattern
        silence 2 ∧
      (({ cataloguing with maxWait := longest } : Monitor Nat).listings "zzlc*" silence
        2).answer.ShowsFile "zzlc*" zzlcPattern := by
  have hfirst : (cataloguing.listings "zzlc*" silence 0).answer.LacksFile "zzlc*" zzlcPattern :=
    ⟨⟨rfl, by decide +kernel⟩, by decide +kernel⟩
  have hsecond : (cataloguing.listings "zzlc*" silence 1).answer.LacksFile "zzlc*" zzlcPattern :=
    ⟨⟨rfl, by decide +kernel⟩, by decide +kernel⟩
  have hthird : (cataloguing.listings "zzlc*" silence 2).answer.ShowsFile "zzlc*" zzlcPattern :=
    ⟨⟨rfl, by decide +kernel⟩, by decide +kernel⟩
  have hspent : spent (cataloguing.listings "zzlc*" silence) 2 = 2000 := by decide +kernel
  -- how long one is prepared to wait makes no difference to what this site answers
  refine ⟨⟨fun k hk => ?_, hspent.trans_lt hlong⟩, hthird⟩
  have hcases : k = 0 ∨ k = 1 := by omega
  rcases hcases with rfl | rfl
  · exact hfirst
  · exact hsecond

/-- The outcome of a wait for a file, by what its listings say, each by itself.  It runs no command
at all when the mask does not read, and else nothing but the listing.  Whatever happens, it succeeds
only when a listing in time shows a file, and a listing with an error record or without success ends
it.  If it is left alone and 64 bits hold the longest wait, then every listing in time is run, and
one that shows a file makes the wait succeed. -/
theorem waitForFile_outcome (m : Monitor σ) (mask : String) (s : Station σ)
    (haccepting : s.accepting = true) (hpos : 0 < m.maxWait) :
    (∀ fault, Mask.compile mask = .error fault →
      m.waitForFile mask s = ⟨.failed (.invalidMask mask fault), [], s⟩) ∧
    ∀ pattern, Mask.compile mask = .ok pattern →
      let succeedsAfter := fun k =>
        (m.waitForFile mask s).value = .completed .success ∧
          (m.waitForFile mask s).did.commands.length = k
      let shownBy := fun k =>
        ∃ n, k = n + 1 ∧ m.ListingAwaited mask pattern s n ∧
          (m.listings mask s n).answer.ShowsFile mask pattern
      (∀ c ∈ (m.waitForFile mask s).did.commands,
        c = m.base.withArgs ["action=list", "name=" ++ mask]) ∧
      (∀ k, succeedsAfter k → shownBy k) ∧
      (∀ n < (m.waitForFile mask s).did.commands.length,
        (m.listings mask s n).answer.ending = some (.exited .finished) →
        (∃ line ∈ (m.listings mask s n).answer.lines, Output.isErrorRecord line = true) →
        (m.waitForFile mask s).value = .failed (.listErrors mask) ∧
          (m.waitForFile mask s).did.commands.length = n + 1) ∧
      (∀ n < (m.waitForFile mask s).did.commands.length, ∀ o ≠ RunOutcome.finished,
        (m.listings mask s n).answer.ending = some (.exited o) →
        (m.waitForFile mask s).value = .aborted ∧
          (m.waitForFile mask s).did.commands.length = n + 1) ∧
      (m.WaitsAlone mask pattern s → m.maxWait < Backoff.wordCount →
        (∀ k, succeedsAfter k ↔ shownBy k) ∧
        ∀ n, m.ListingAwaited mask pattern s n →
          n < (m.waitForFile mask s).did.commands.length) := by
  refine ⟨fun fault hfault => m.waitForFile_of_fault mask s hfault, ?_⟩
  intro pattern hcompile succeedsAfter shownBy
  have hshown : ∀ k, succeedsAfter k → shownBy k := by
    rintro _ ⟨hcompleted, rfl⟩
    exact exists_shows_of_completed hcompile haccepting hpos hcompleted
  refine ⟨?_, hshown, ?_, ?_, fun halone hmax => ?_⟩
  · intro c hmem
    obtain ⟨n, -, -, -, hcommands⟩ := m.waitForFile_closesBy hcompile haccepting
    rw [hcommands] at hmem
    rw [List.eq_of_mem_replicate hmem, list_eq]
  · intro n hrun hexited herror
    exact m.waitForFile_of_brought hcompile haccepting hrun
      (Exchange.listing?_of_error hexited herror)
  · intro n hrun o hfailed hexited
    exact m.waitForFile_of_brought hcompile haccepting hrun
      (Exchange.listing?_of_break (Course.break?_of_exited hexited hfailed))
  · have hrun : ∀ n, m.ListingAwaited mask pattern s n →
        n < (m.waitForFile mask s).did.commands.length := fun n hawaited =>
      (m.reachedBy_iff_lt_length hcompile haccepting).mp (halone.reached hmax hawaited)
    refine ⟨fun k => ⟨hshown k, ?_⟩, hrun⟩
    rintro ⟨n, rfl, hawaited, hshows⟩
    exact m.waitForFile_of_brought hcompile haccepting (hrun n hawaited)
      (Exchange.listing?_eq_ok.mpr hshows)

theorem waitForFile_outcome_cataloguing :
    (silence.accepting = true ∧ 0 < cataloguing.maxWait ∧
      Mask.compile "zzlc*" = .ok zzlcPattern ∧
      cataloguing.WaitsAlone "zzlc*" zzlcPattern silence ∧
      cataloguing.maxWait < Backoff.wordCount) ∧
    (cataloguing.waitForFile "zzlc*" silence).value = .completed .success ∧
    (cataloguing.waitForFile "zzlc*" silence).did.commands.length = 3 := by
  have hpos : 0 < cataloguing.maxWait := by decide
  have hmax : cataloguing.maxWait < Backoff.wordCount := by decide
  have halone : cataloguing.WaitsAlone "zzlc*" zzlcPattern silence :=
    waitsAlone_of_cataloguing rfl _ _ _
  obtain ⟨-, houtcome⟩ := waitForFile_outcome cataloguing "zzlc*" silence rfl hpos
  obtain ⟨-, -, -, -, hdecides⟩ := houtcome zzlcPattern compile_zzlc
  obtain ⟨hiff, -⟩ := hdecides halone hmax
  exact ⟨⟨rfl, hpos, compile_zzlc, halone, hmax⟩,
    (hiff 3).mpr ⟨2, rfl, cataloguing_shows (by decide)⟩⟩

/-- The listing that shows the file is not made in a wait that 64 bits do not hold. -/
theorem waitForFile_overlong :
    (silence.accepting = true ∧ 0 < cataloguing.overlong.maxWait ∧
      Mask.compile "zzlc*" = .ok zzlcPattern ∧
      cataloguing.overlong.WaitsAlone "zzlc*" zzlcPattern silence ∧
      cataloguing.overlong.ListingAwaited "zzlc*" zzlcPattern silence 2 ∧
      (cataloguing.overlong.listings "zzlc*" silence 2).answer.ShowsFile "zzlc*" zzlcPattern) ∧
    (cataloguing.overlong.waitForFile "zzlc*" silence).value = .timedOut := by
  have hlong : 2000 < Backoff.wordCount := by decide
  have halone : cataloguing.overlong.WaitsAlone "zzlc*" zzlcPattern silence :=
    waitsAlone_of_cataloguing (m := cataloguing.overlong) rfl _ _ _
  obtain ⟨hawaited, hshows⟩ := cataloguing_shows hlong
  have hpending :
      (cataloguing.overlong.listings "zzlc*" silence 0).listing? "zzlc*" zzlcPattern = none :=
    Exchange.listing?_eq_none.mpr ⟨hawaited.lacking 0 Nat.zero_lt_two, rfl⟩
  exact ⟨⟨rfl, by decide, compile_zzlc, halone, hawaited, hshows⟩,
    (waitForFile_of_closesBy _ compile_zzlc rfl (cataloguing.overlong_closesBy hpending)).1⟩

end Monitor

end SprayWatch
