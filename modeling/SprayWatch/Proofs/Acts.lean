import SprayWatch.Session.Act

/-!
# What acts leave behind

An act is known by its value, by what it did and by the station afterwards.  Most of what was done
is logging, which decides nothing; the rest are deeds.  Whatever happens in the course of a command
or a pause is only logged, and its requests to stop are all that it changes at the station.
-/

namespace SprayWatch

def Happening.line? : Happening → Option String
  | .line text => some text
  | _ => none

def Course.lines {ε : Type} (course : Course ε) : List String :=
  course.happenings.filterMap Happening.line?

/-- Does nobody ask to stop, and does the matter come to its end? -/
def Course.Calm {ε : Type} (course : Course ε) : Prop :=
  .stopAsked ∉ course.happenings ∧ course.ending ≠ none

def Entry.isDeed : Entry → Bool
  | .logged _ => false
  | _ => true

namespace Transcript

/-- What was done apart from logging. -/
def deeds (t : Transcript) : Transcript := t.filter Entry.isDeed

@[simp] theorem deeds_nil : deeds [] = [] := rfl

@[simp] theorem deeds_logged (r : Log.Record) (t : Transcript) :
    deeds (.logged r :: t) = t.deeds := rfl

@[simp] theorem deeds_ran (c : Command) (t : Transcript) :
    deeds (.ran c :: t) = .ran c :: t.deeds := rfl

@[simp] theorem deeds_waited (ms : Nat) (t : Transcript) :
    deeds (.waited ms :: t) = .waited ms :: t.deeds := rfl

@[simp] theorem deeds_removal (dir : Path) (t : Transcript) :
    deeds (.removal dir :: t) = .removal dir :: t.deeds := rfl

@[simp] theorem deeds_append (t u : Transcript) :
    deeds (t ++ u) = t.deeds ++ u.deeds := List.filter_append t u

theorem deeds_map_logged (rs : List Log.Record) : deeds (rs.map .logged) = [] := by
  induction rs with
  | nil => rfl
  | cons r rs ih => simpa using ih

@[simp] theorem commands_ran (c : Command) (t : Transcript) :
    commands (.ran c :: t) = c :: t.commands := rfl

@[simp] theorem commands_append (t u : Transcript) :
    commands (t ++ u) = t.commands ++ u.commands := List.filterMap_append

theorem commands_deeds (t : Transcript) : t.deeds.commands = t.commands := by
  induction t with
  | nil => rfl
  | cons entry t ih =>
      cases entry with
      | logged r => exact ih
      | ran c => exact congrArg (c :: ·) ih
      | waited ms => exact ih
      | removal dir => exact ih

theorem waits_deeds (t : Transcript) : t.deeds.waits = t.waits := by
  induction t with
  | nil => rfl
  | cons entry t ih =>
      cases entry with
      | waited ms => exact congrArg (ms :: ·) ih
      | _ => exact ih

theorem removals_append (t u : Transcript) : (t ++ u).removals = t.removals ++ u.removals :=
  List.filterMap_append

theorem removals_deeds (t : Transcript) : t.deeds.removals = t.removals := by
  induction t with
  | nil => rfl
  | cons entry t ih =>
      cases entry with
      | removal dir => exact congrArg (dir :: ·) ih
      | _ => exact ih

end Transcript

@[simp] theorem Station.logged_deeds {σ : Type} (s : Station σ) (rs : List Log.Record) :
    (s.logged rs).deeds = [] := Transcript.deeds_map_logged _

@[simp] theorem Station.logged_commands {σ : Type} (s : Station σ) (rs : List Log.Record) :
    (s.logged rs).commands = [] := by
  rw [← Transcript.commands_deeds, logged_deeds]
  rfl

/-- What was done is a deed or was logged. -/
theorem Transcript.mem_deeds_or_logged {t : Transcript} {entry : Entry} (hmem : entry ∈ t) :
    entry ∈ t.deeds ∨ ∃ r, entry = .logged r := by
  cases entry with
  | logged r => exact .inr ⟨r, rfl⟩
  | _ => exact .inl (List.mem_filter.mpr ⟨hmem, rfl⟩)

/-- Do two steps give related values, do the same and leave the same station? -/
structure Step.Alike {σ α β : Type} (related : α → β → Prop) (x : Step σ α) (y : Step σ β) :
    Prop where
  value : related x.value y.value
  did_eq : x.did = y.did
  station_eq : x.station = y.station

theorem Step.Alike.refl {σ α : Type} (x : Step σ α) : x.Alike Eq x := ⟨rfl, rfl, rfl⟩

theorem Act.bind_alike {σ α β γ δ : Type} {related : α → β → Prop} {later : γ → δ → Prop}
    {x : Act σ α} {y : Act σ β} {f : α → Act σ γ} {g : β → Act σ δ} {s : Station σ}
    (hfirst : (x s).Alike related (y s))
    (hnext : ∀ a b t, related a b → (f a t).Alike later (g b t)) :
    ((x >>= f) s).Alike later ((y >>= g) s) := by
  obtain ⟨hvalue, hdid, hstation⟩ := hfirst
  obtain ⟨hlater, hlaterDid, hlaterStation⟩ := hnext _ _ (x s).station hvalue
  rw [hstation] at hlater hlaterDid hlaterStation
  refine ⟨?_, ?_, ?_⟩
  · rw [Act.bind_apply, Act.bind_apply, hstation]
    exact hlater
  · rw [Act.bind_apply, Act.bind_apply, hstation, hdid, hlaterDid]
  · rw [Act.bind_apply, Act.bind_apply, hstation]
    exact hlaterStation

/-- The station after a request to stop. -/
def Station.stopped {σ : Type} (s : Station σ) : Station σ :=
  { s with
    current := s.current.map fun _ => ⟨true⟩
    single := s.single.map fun _ => ⟨true⟩ }

def Station.after {σ : Type} (s : Station σ) (happenings : List Happening) : Station σ :=
  if .stopAsked ∈ happenings then s.stopped else s

namespace Station

variable {σ : Type}

@[simp] theorem stopped_stopped (s : Station σ) : s.stopped.stopped = s.stopped := by
  simp [stopped, Function.comp_def]

theorem after_of_not_mem {happenings : List Happening} (s : Station σ)
    (hquiet : .stopAsked ∉ happenings) : s.after happenings = s :=
  if_neg hquiet

@[simp] theorem after_site (s : Station σ) (happenings : List Happening) :
    (s.after happenings).site = s.site := by
  unfold after
  split <;> rfl

@[simp] theorem after_draws (s : Station σ) (happenings : List Happening) :
    (s.after happenings).draws = s.draws := by
  unfold after
  split <;> rfl

@[simp] theorem after_accepting (s : Station σ) (happenings : List Happening) :
    (s.after happenings).accepting = s.accepting := by
  unfold after
  split <;> rfl

end Station

namespace Act

variable {σ τ : Type}

theorem askStop_station (s : Station σ) : (askStop s).station = s.stopped := by
  simp only [askStop, cancel, raiseCurrent, bind_apply, change_apply, look_apply]
  cases hcurrent : s.current with
  | none => simp [Station.stopped, hcurrent]
  | some signal => simp [Station.stopped, hcurrent]

theorem askStop_deeds (s : Station σ) : (askStop s).did.deeds = [] := by
  simp only [askStop, cancel, raiseCurrent, bind_apply, change_apply, look_apply]
  cases s.current with
  | none => simp
  | some signal => simp

theorem hear_value (listener : Listener τ) (read : τ) (happenings : List Happening)
    (s : Station σ) :
    (hear listener read happenings s).value =
      (happenings.filterMap Happening.line?).foldl listener.feed read := by
  induction happenings generalizing read s with
  | nil => rfl
  | cons happening rest ih =>
      cases happening with
      | line text => simp [hear, ih, Happening.line?]
      | logged r => simp [hear, ih, Happening.line?, List.filterMap_cons]
      | stopAsked => simp [hear, ih, Happening.line?, List.filterMap_cons]

theorem hear_deeds (listener : Listener τ) (read : τ) (happenings : List Happening)
    (s : Station σ) :
    (hear listener read happenings s).did.deeds = [] := by
  induction happenings generalizing read s with
  | nil => rfl
  | cons happening rest ih =>
      cases happening with
      | line text => simp [hear, ih]
      | logged r => simp [hear, ih]
      | stopAsked => simp [hear, ih, askStop_deeds]

theorem hear_station (listener : Listener τ) (read : τ) (happenings : List Happening)
    (s : Station σ) :
    (hear listener read happenings s).station = s.after happenings := by
  induction happenings generalizing read s with
  | nil => simp [hear, Station.after]
  | cons happening rest ih =>
      cases happening with
      | line text => simp [hear, ih, Station.after]
      | logged r => simp [hear, ih, Station.after]
      | stopAsked => simp [hear, ih, askStop_station, Station.after]

theorem hear_alike {listener : Listener τ} {related : τ → τ → Prop}
    (hfeed : ∀ read other text, related read other →
      related (listener.feed read text) (listener.feed other text))
    (hrecords : ∀ read other text, related read other →
      listener.records read text = listener.records other text)
    {read other : τ} (hrelated : related read other) (happenings : List Happening)
    (s : Station σ) :
    (hear listener read happenings s).Alike related (hear listener other happenings s) := by
  induction happenings generalizing read other s with
  | nil => exact ⟨hrelated, rfl, rfl⟩
  | cons happening rest ih =>
      cases happening with
      | line text =>
          simp only [hear, hrecords read other text hrelated]
          exact bind_alike (.refl _) fun _ _ t _ => ih (hfeed read other text hrelated) t
      | logged r => exact bind_alike (.refl _) fun _ _ t _ => ih hrelated t
      | stopAsked => exact bind_alike (.refl _) fun _ _ t _ => ih hrelated t

section Commands

variable (site : Site σ) (listener : Listener τ) (read : τ) (c : Command) (watch : Watch)
  (s : Station σ)

theorem runCommand_value :
    (runCommand site listener read c watch s).value =
      ((site.run c watch s.site).1.lines.foldl listener.feed read,
        Ending.outcome? (site.run c watch s.site).1.ending) := by
  simp only [runCommand, hear_value]
  rfl

theorem runCommand_deeds :
    (runCommand site listener read c watch s).did.deeds = [.ran c] := by
  simp [runCommand, hear_deeds]

theorem runCommand_station :
    (runCommand site listener read c watch s).station =
      ({ s with site := (site.run c watch s.site).2 } : Station σ).after
        (site.run c watch s.site).1.happenings := by
  simp only [runCommand, hear_station]

theorem runCommand_alike {listener : Listener τ} {related : τ → τ → Prop}
    (hfeed : ∀ read other text, related read other →
      related (listener.feed read text) (listener.feed other text))
    (hrecords : ∀ read other text, related read other →
      listener.records read text = listener.records other text)
    {read other : τ} (hrelated : related read other) :
    (runCommand site listener read c watch s).Alike (fun x y => related x.1 y.1 ∧ x.2 = y.2)
      (runCommand site listener other c watch s) := by
  obtain ⟨hvalue, hdid, hstation⟩ := hear_alike hfeed hrecords hrelated
    (site.run c watch s.site).1.happenings { s with site := (site.run c watch s.site).2 }
  exact ⟨⟨hvalue, rfl⟩, congrArg (Entry.ran c :: ·) hdid, hstation⟩

end Commands

section Pauses

variable (site : Site σ) (ms : Nat) (patience : Option Nat) (s : Station σ)

theorem pause_station :
    (pause site ms patience s).station =
      ({ s with site := (site.pause ms (.on s.current patience) s.site).2 } : Station σ).after
        (site.pause ms (.on s.current patience) s.site).1.happenings := by
  simp only [pause]
  split
  · simp only [hear_station]
  · split
    · simp only [hear_station]
    · simp only [hear_station]

theorem pause_value :
    (pause site ms patience s).value =
      if (pause site ms patience s).station.current.any Signal.raised then
        .error (.failed .interrupted)
      else
        match (site.pause ms (.on s.current patience) s.site).1.ending with
        | some () => .ok ()
        | none => .error .abandoned := by
  rw [pause_station]
  simp only [pause, hear_station]
  split
  · rfl
  · cases (site.pause ms (.on s.current patience) s.site).1.ending with
    | none => rfl
    | some done => rfl

theorem pause_deeds :
    (pause site ms patience s).did.deeds =
      match (pause site ms patience s).value with
      | .ok () => [.waited ms]
      | .error _ => [] := by
  simp only [pause]
  split
  · simp only [hear_deeds]
  · split
    · simp [hear_deeds]
    · simp only [hear_deeds]

theorem pause_error {b : Break} (hbroke : (pause site ms patience s).value = .error b) :
    b = .failed .interrupted ∨ b = .abandoned := by
  simp only [pause] at hbroke
  split at hbroke
  · left
    simpa using hbroke.symm
  · split at hbroke
    · simp at hbroke
    · right
      simpa using hbroke.symm

theorem pause_ok_of_calm (hfresh : s.current.any Signal.raised = false)
    (hcalm : (site.pause ms (.on s.current patience) s.site).1.Calm) :
    (pause site ms patience s).value = .ok () := by
  obtain ⟨hquiet, hending⟩ := hcalm
  simp only [pause, hear_station, Station.after_of_not_mem _ hquiet, hfresh]
  cases hcourse : (site.pause ms (.on s.current patience) s.site).1.ending with
  | none => exact absurd hcourse hending
  | some done => rfl

end Pauses

end Act

end SprayWatch
