import SprayWatch.Proofs.ActCongruences

/-!
# Comparing acts

Two acts go alike when, from stations that match, they give related values, do things that match and
leave stations that match again.  A comparison says what it is to match; acts that go alike make up
larger acts that go alike.  For monitors that agree in what they do at their sites, whatever they
poll for, submit or wait for goes alike.

With the same monitor on both sides, a comparison in which only equal things match says of a single
run what it preserves.
-/

namespace SprayWatch

/-- What it is for stations, for what was done and for commands to match.  Logging does not tell
matching runs apart, and matching stations do not differ in what a run goes by. -/
structure Comparison (σ τ : Type) where
  stations : Station σ → Station τ → Prop
  dids : Transcript → Transcript → Prop
  commands : Command → Command → Prop
  dids_nil : dids [] []
  dids_append {t u : Transcript} {t' u' : Transcript} :
    dids t t' → dids u u' → dids (t ++ u) (t' ++ u')
  dids_logged {s : Station σ} {t : Station τ} (rs : List Log.Record) :
    stations s t → dids (s.logged rs) (t.logged rs)
  accepting_eq {s : Station σ} {t : Station τ} : stations s t → s.accepting = t.accepting
  current_eq {s : Station σ} {t : Station τ} : stations s t → s.current = t.current

namespace Comparison

variable {σ τ α β γ δ : Type} (K : Comparison σ τ)

/-- Do two steps match, with related values? -/
structure Steps (related : α → β → Prop) (x : Step σ α) (y : Step τ β) : Prop where
  value : related x.value y.value
  did : K.dids x.did y.did
  station : K.stations x.station y.station

/-- Do two acts go alike from stations that match? -/
def Acts (related : α → β → Prop) (x : Act σ α) (y : Act τ β) : Prop :=
  ∀ s t, K.stations s t → K.Steps related (x s) (y t)

section Rules

variable {K}

theorem Acts.pure {related : α → β → Prop} {a : α} {b : β} (hrelated : related a b) :
    K.Acts related (pure a) (pure b) :=
  fun _ _ hmatch => ⟨hrelated, K.dids_nil, hmatch⟩

theorem Acts.bind {related : α → β → Prop} {later : γ → δ → Prop} {x : Act σ α} {y : Act τ β}
    {f : α → Act σ γ} {g : β → Act τ δ} (hfirst : K.Acts related x y)
    (hnext : ∀ a b, related a b → K.Acts later (f a) (g b)) :
    K.Acts later (x >>= f) (y >>= g) := by
  intro s t hmatch
  obtain ⟨hvalue, hdid, hstation⟩ := hfirst s t hmatch
  obtain ⟨hlater, hlaterDid, hlaterStation⟩ := hnext _ _ hvalue _ _ hstation
  exact ⟨hlater, K.dids_append hdid hlaterDid, hlaterStation⟩

/-- Acts that give the same value may be followed by the same choice of acts. -/
theorem Acts.then {later : γ → δ → Prop} {x : Act σ α} {y : Act τ α} {f : α → Act σ γ}
    {g : α → Act τ δ} (hfirst : K.Acts Eq x y) (hnext : ∀ a, K.Acts later (f a) (g a)) :
    K.Acts later (x >>= f) (y >>= g) := by
  apply hfirst.bind
  rintro a _ rfl
  exact hnext a

theorem Acts.ite {related : α → β → Prop} {x x' : Act σ α} {y y' : Act τ β} {b : Bool}
    (hthen : K.Acts related x y) (helse : K.Acts related x' y') :
    K.Acts related (if b then x else x') (if b then y else y') := by
  cases b with
  | true => exact hthen
  | false => exact helse

theorem Acts.logAll (rs : List Log.Record) : K.Acts Eq (Act.logAll rs) (Act.logAll rs) :=
  fun _ _ hmatch => ⟨rfl, K.dids_logged rs hmatch, hmatch⟩

theorem Acts.log (r : Log.Record) : K.Acts Eq (Act.log r) (Act.log r) := Acts.logAll [r]

theorem Acts.look {f : Station σ → α} {g : Station τ → α}
    (hsees : ∀ s t, K.stations s t → f s = g t) : K.Acts Eq (Act.look f) (Act.look g) :=
  fun s t hmatch => ⟨hsees s t hmatch, K.dids_nil, hmatch⟩

theorem Acts.change {f : Station σ → Station σ} {g : Station τ → Station τ}
    (hkeeps : ∀ s t, K.stations s t → K.stations (f s) (g t)) :
    K.Acts Eq (Act.change f) (Act.change g) :=
  fun s t hmatch => ⟨rfl, K.dids_nil, hkeeps s t hmatch⟩

theorem Acts.accepting :
    K.Acts Eq (Act.look fun s => s.accepting) (Act.look fun s => s.accepting) :=
  .look fun _ _ hmatch => K.accepting_eq hmatch

theorem Acts.congruence : Act.Congruence fun _ => K.Acts Eq where
  pure _ := .pure rfl
  bind hfirst hnext := hfirst.then hnext
  logAll rs := .logAll rs

end Rules

/-! ## Hearing -/

/-- Stations that match still do when the same is done to their signals. -/
structure Signals : Prop where
  current {s : Station σ} {t : Station τ} (f : Option Signal → Option Signal) :
    K.stations s t →
      K.stations { s with current := f s.current } { t with current := f t.current }
  single {s : Station σ} {t : Station τ} (f : Option Signal → Option Signal) :
    K.stations s t → K.stations { s with single := f s.single } { t with single := f t.single }

namespace Signals

variable {K} (h : K.Signals)
include h

theorem cancel : K.Acts Eq Act.cancel Act.cancel := by
  apply Acts.congruence.cancel
  · apply Acts.look
    intro s t hmatch
    rw [K.current_eq hmatch]
  · exact .change fun _ _ hmatch => h.current _ hmatch

theorem askStop : K.Acts Eq Act.askStop Act.askStop :=
  Acts.then (.change fun _ _ hmatch => h.single _ hmatch) fun _ => h.cancel

theorem hear {read : Type} (listener : Listener read) (known : read)
    (happenings : List Happening) :
    K.Acts Eq (Act.hear listener known happenings) (Act.hear listener known happenings) :=
  Acts.congruence.hear h.askStop listener known happenings

end Signals

/-! ## Sites -/

/-- Two sites answer alike whatever matching stations ask of them.  What is done at them then
matches, and the stations still match, also when the same becomes of their random numbers and
limiters. -/
structure Sites (site : Site σ) (site' : Site τ) : Prop extends K.Signals where
  single_eq {s : Station σ} {t : Station τ} : K.stations s t → s.single = t.single
  draws_eq {s : Station σ} {t : Station τ} : K.stations s t → s.draws = t.draws
  ticks_eq {s : Station σ} {t : Station τ} : K.stations s t → s.ticks = t.ticks
  draws {s : Station σ} {t : Station τ} (draws : Backoff.Draws) :
    K.stations s t → K.stations { s with draws := draws } { t with draws := draws }
  ticks {s : Station σ} {t : Station τ} (ticks : Limiter) :
    K.stations s t → K.stations { s with ticks := ticks } { t with ticks := ticks }
  run {c c' : Command} (watch : Watch) {s : Station σ} {t : Station τ} :
    K.commands c c' → K.stations s t →
      (site.run c watch s.site).1 = (site'.run c' watch t.site).1 ∧
        K.stations { s with site := (site.run c watch s.site).2 }
          { t with site := (site'.run c' watch t.site).2 }
  pause (ms : Nat) (watch : Watch) {s : Station σ} {t : Station τ} :
    K.stations s t →
      (site.pause ms watch s.site).1 = (site'.pause ms watch t.site).1 ∧
        K.stations { s with site := (site.pause ms watch s.site).2 }
          { t with site := (site'.pause ms watch t.site).2 }
  clock_eq {s : Station σ} {t : Station τ} :
    K.stations s t → site.clock s.site = site'.clock t.site
  remove (dir : Path) {s : Station σ} {t : Station τ} :
    K.stations s t →
      (site.remove dir s.site).1 = (site'.remove dir t.site).1 ∧
        K.stations { s with site := (site.remove dir s.site).2 }
          { t with site := (site'.remove dir t.site).2 }
  localAddress_eq {s : Station σ} {t : Station τ} :
    K.stations s t → site.localAddress s.site = site'.localAddress t.site
  ran {c c' : Command} : K.commands c c' → K.dids [.ran c] [.ran c']
  waited (ms : Nat) : K.dids [.waited ms] [.waited ms]
  removal (dir : Path) : K.dids [.removal dir] [.removal dir]

namespace Sites

variable {K} {site : Site σ} {site' : Site τ} (h : K.Sites site site')
include h

theorem drawWait (previous ceiling : Nat) :
    K.Acts Eq (Act.drawWait previous ceiling) (Act.drawWait previous ceiling) := by
  intro s t hmatch
  simp only [Act.drawWait, ← h.draws_eq hmatch]
  exact ⟨rfl, K.dids_nil, h.draws _ hmatch⟩

theorem runCommand {read : Type} (listener : Listener read) (known : read) {c c' : Command}
    (watch : Watch) (hcommands : K.commands c c') :
    K.Acts Eq (Act.runCommand site listener known c watch)
      (Act.runCommand site' listener known c' watch) := by
  intro s t hmatch
  obtain ⟨hcourse, hafter⟩ := h.run watch hcommands hmatch
  obtain ⟨hvalue, hdid, hstation⟩ :=
    h.hear listener known (site.run c watch s.site).1.happenings _ _ hafter
  simp only [Act.runCommand, ← hcourse]
  exact ⟨by rw [hvalue], K.dids_append (h.ran hcommands) hdid, hstation⟩

theorem pauseFor (ms : Nat) (patience : Option Nat) :
    K.Acts Eq (Act.pause site ms patience) (Act.pause site' ms patience) := by
  intro s t hmatch
  obtain ⟨hcourse, hafter⟩ := h.pause ms (.on s.current patience) hmatch
  obtain ⟨-, hdid, hstation⟩ :=
    h.hear .deaf () (site.pause ms (.on s.current patience) s.site).1.happenings _ _ hafter
  have hwatch : Watch.on t.current patience = Watch.on s.current patience := by
    rw [K.current_eq hmatch]
  simp only [Act.pause, hwatch, ← hcourse, ← K.current_eq hstation]
  by_cases hraised : (Act.hear .deaf ()
      (site.pause ms (.on s.current patience) s.site).1.happenings
      { s with site := (site.pause ms (.on s.current patience) s.site).2 }).station.current.any
      Signal.raised
  · rw [if_pos hraised, if_pos hraised]
    exact ⟨rfl, hdid, hstation⟩
  · rw [if_neg hraised, if_neg hraised]
    cases (site.pause ms (.on s.current patience) s.site).1.ending with
    | none => exact ⟨rfl, hdid, hstation⟩
    | some done => exact ⟨rfl, K.dids_append hdid (h.waited ms), hstation⟩

theorem removeDir (dir : Path) : K.Acts Eq (Act.remove site dir) (Act.remove site' dir) := by
  intro s t hmatch
  obtain ⟨hresult, hafter⟩ := h.remove dir hmatch
  exact ⟨hresult, h.removal dir, hafter⟩

end Sites

/-! ## Monitors -/

/-- Monitors agree when they have the same patience, the commands they make up match, and whatever
they do at their sites goes alike. -/
structure Monitors (m : Monitor σ) (m' : Monitor τ) : Prop where
  pollCeiling_eq : m.pollCeiling = m'.pollCeiling
  maxWait_eq : m.maxWait = m'.maxWait
  clock_eq {s : Station σ} {t : Station τ} :
    K.stations s t → m.site.clock s.site = m'.site.clock t.site
  current {s : Station σ} {t : Station τ} (f : Option Signal → Option Signal) :
    K.stations s t →
      K.stations { s with current := f s.current } { t with current := f t.current }
  draws (previous ceiling : Nat) :
    K.Acts Eq (Act.drawWait previous ceiling) (Act.drawWait previous ceiling)
  ticks (message : String) : K.Acts Eq (m.tick message) (m'.tick message)
  runs {read : Type} (listener : Listener read) (known : read) {c c' : Command} (watch : Watch) :
    K.commands c c' →
      K.Acts Eq (Act.runCommand m.site listener known c watch)
        (Act.runCommand m'.site listener known c' watch)
  pauses (ms : Nat) (patience : Option Nat) :
    K.Acts Eq (Act.pause m.site ms patience) (Act.pause m'.site ms patience)
  status_matches (jobId : String) : K.commands (m.base.status jobId) (m'.base.status jobId)
  abort_matches (jobId : String) : K.commands (m.base.abort jobId) (m'.base.abort jobId)
  list_matches (mask : String) : K.commands (m.base.list mask) (m'.base.list mask)

/-- Monitors that are as patient as each other agree when their sites do. -/
theorem Sites.monitors {K : Comparison σ τ} {m : Monitor σ} {m' : Monitor τ}
    (h : K.Sites m.site m'.site) (hceiling : m.pollCeiling = m'.pollCeiling)
    (hmax : m.maxWait = m'.maxWait)
    (hquery : ∀ jobId action,
      K.commands ((m.base.query jobId).arg action) ((m'.base.query jobId).arg action))
    (hlist : ∀ mask, K.commands (m.base.list mask) (m'.base.list mask)) : K.Monitors m m' where
  pollCeiling_eq := hceiling
  maxWait_eq := hmax
  clock_eq hmatch := h.clock_eq hmatch
  current f hmatch := h.current f hmatch
  draws previous ceiling := h.drawWait previous ceiling
  ticks message := by
    have hasks : ∀ now : Nat, K.Acts Eq
        (Act.change fun s => { s with ticks := s.ticks.ask Monitor.tickInterval now })
        (Act.change fun s => { s with ticks := s.ticks.ask Monitor.tickInterval now }) := by
      intro now
      apply Acts.change
      intro s t hmatch
      rw [← h.ticks_eq hmatch]
      exact h.ticks _ hmatch
    refine Acts.then (Acts.look ?_) fun now => Acts.then (Acts.look ?_) fun isDue =>
      .ite ((Acts.log _).then fun _ => hasks now) (hasks now)
    · intro s t hmatch
      exact h.clock_eq hmatch
    · intro s t hmatch
      rw [h.ticks_eq hmatch]
  runs listener known _ _ watch hcommands := h.runCommand listener known watch hcommands
  pauses ms patience := h.pauseFor ms patience
  status_matches jobId := hquery jobId _
  abort_matches jobId := hquery jobId _
  list_matches mask := hlist mask

namespace Monitors

variable {K} {m : Monitor σ} {m' : Monitor τ} (h : K.Monitors m m')
include h

theorem congruence : Monitor.Congruence m m' (fun _ => K.Acts Eq) K.commands where
  toCongruence := Acts.congruence
  pollCeiling_eq := h.pollCeiling_eq
  maxWait_eq := h.maxWait_eq
  accepting := .accepting
  watch patience := by
    apply Acts.look
    intro s t hmatch
    rw [K.current_eq hmatch]
  clock f := by
    apply Acts.look
    intro s t hmatch
    rw [h.clock_eq hmatch]
  current f := .change fun _ _ hmatch => h.current f hmatch
  draws := h.draws
  ticks := h.ticks
  runs := h.runs
  pauses := h.pauses
  status_matches := h.status_matches
  abort_matches := h.abort_matches
  list_matches := h.list_matches

theorem submit {c c' : Command} (hcommands : K.commands c c') :
    K.Acts Eq (m.submit c) (m'.submit c') :=
  h.congruence.submit hcommands

theorem waitForFile (mask : String) : K.Acts Eq (m.waitForFile mask) (m'.waitForFile mask) :=
  h.congruence.waitForFile mask

end Monitors

end Comparison

end SprayWatch
