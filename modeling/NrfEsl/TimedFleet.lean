import NrfEsl.ClockAgreement
import NrfEsl.Tag.Uptime
import NrfEsl.TimedScheduling

/-!
# One moment for all tags

A timed command carries an absolute time, so that many tags can be told one after the other to change at
the same moment.  Every tag counts from an anchor of its own; the access point reads its clock, sends the
reading in a write, and sooner or later the tag takes it for the time it is now.  Here one clock and a
family of tags are followed through runs in which time passes for all of them at once.

**What should hold** (`InStep`).  A tag that has its time from the access point is behind it by the time the
write took, its `lag`.  When a timed command falls due, the clock of the access point shows its time and the
lag; so commands for one time take effect on all tags at once, but for the difference of their lags.

**When it does** (`inStep_of_spared`).  Elements and clocks are spared while a command waits, the access
point does not read its clock at one of the two instants at which it shows zero, and a write takes less than
the two days that lie between `ESL_TIMED_ABS_MAX` and a whole turn of the clock.

**The invariant** (`FleetInv`) is about one tag at a time.  Two of them are compared at the end, by residues
modulo `2 ^ 32` that are too close together to differ.
-/

namespace NrfEsl

open EslTag TransitionSystem

/-! ## The timed commands of a tag -/

/-- What a timed command for the element carries besides its time. -/
abbrev TimedElement.Params : TimedElement → Type
  | .led _ => LedObj
  | .display _ => UInt8

/-- The command that is pending, for each element. -/
abbrev TimedHistory := (el : TimedElement) → Option (PendingCommand el.Params)

/-- The meaning of an event to the timed command of an element. -/
def TagDevice.timedOp (cfg : Config) (d : TagDevice) (e : TagEvent) :
    (el : TimedElement) → TimedOp el.Params
  | .led i => d.ledTimed cfg i e
  | .display i => d.displayTimed cfg i e

/-- The tag, with the timed commands of its elements. -/
def stepTimed (cfg : Config) (ead : Ead) :
    TagDevice × TimedHistory → TagEvent → Option (TagDevice × TimedHistory) :=
  withHistory (fun d e _ pending el => (d.timedOp cfg e el).after (pending el))
    (TagDevice.step cfg ead)

namespace TimedElement

/-- The command waits in the element, with its own parameters, for the uptime at which it is due. -/
def Keeps (d : TagDevice) : (el : TimedElement) → PendingCommand el.Params → Prop
  | .led i => LedKeeps i d
  | .display i => DisplayKeeps i d

/-- The event leaves the element and its timed command to themselves. -/
def Spared (cfg : Config) (x : TagDevice × TimedHistory) (e : TagEvent) : TimedElement → Prop
  | .led i => SparesLed cfg i (x.1, x.2 (.led i)) e
  | .display i => SparesDisplay cfg i (x.1, x.2 (.display i)) e

/-- What a step does to the timed command of the element. -/
def StepHonours (cfg : Config) (x : TagDevice × TimedHistory) (e : TagEvent) (d' : TagDevice) :
    TimedElement → Prop
  | .led i => LedStepHonours cfg i (x.2 (.led i)) x.1 (x.1.ledOp? cfg i e) d'
  | .display i => DisplayStepHonours cfg i (x.2 (.display i)) x.1 (x.1.displayOp? cfg i e) d'

instance (cfg : Config) (x : TagDevice × TimedHistory) (e : TagEvent) (el : TimedElement) :
    Decidable (el.Spared cfg x e) :=
  match el with
  | .led i => inferInstanceAs (Decidable (SparesLed cfg i (x.1, x.2 (.led i)) e))
  | .display i => inferInstanceAs (Decidable (SparesDisplay cfg i (x.1, x.2 (.display i)) e))

end TimedElement

/-- The event spares all elements of the tag. -/
def SparesElements (cfg : Config) (x : TagDevice × TimedHistory) (e : TagEvent) : Prop :=
  (∀ i < cfg.ledMax, (TimedElement.led i).Spared cfg x e)
    ∧ ∀ i < cfg.displayMax, (TimedElement.display i).Spared cfg x e

instance (cfg : Config) (x : TagDevice × TimedHistory) (e : TagEvent) :
    Decidable (SparesElements cfg x e) :=
  inferInstanceAs (Decidable ((∀ _ < _, _) ∧ ∀ _ < _, _))

lemma SparesElements.spared {cfg : Config} {x : TagDevice × TimedHistory} {e : TagEvent}
    (h : SparesElements cfg x e) {el : TimedElement} (hel : el.InRange cfg) : el.Spared cfg x e := by
  cases el with
  | led i => exact h.1 i hel
  | display i => exact h.2 i hel

/-! ## The clock of the access point -/

/-- The absolute time of the access point, as `esl_c_get_abs_time` is meant to read it. -/
def ApClock.trueTime (c : ApClock) : UInt32 := kUptimeGet32 c.uptime - UInt32.ofInt c.absTimeAnchor

/-- `esl_c_get_abs_time` reads the absolute time. -/
def ApClock.ReadsTrue (c : ApClock) : Prop := c.eslCGetAbsTime = c.trueTime

instance (c : ApClock) : Decidable c.ReadsTrue := inferInstanceAs (Decidable (_ = _))

/-! ## The system -/

/-- The access point and its tags.  Between them there are writes of the absolute time that have not
arrived, each with the clock as it was when it was read. -/
structure TimedFleet (ι : Type*) where
  ap : ApClock
  sent : ι → Option ApClock
  /-- How far the clock of a tag is behind, if it has been set by the access point. -/
  lag : ι → Option ℕ
  tags : ι → TagDevice × TimedHistory

inductive TimedFleetEvent (ι : Type*)
  /-- Time passes, for everybody. -/
  | tick (ms : ℕ)
  /-- `esl_c_abs_timer_update` -/
  | setTime (newAbsTime : UInt32)
  /-- `esl_c_tag_abs_timer_update` reads the clock and sends the reading. -/
  | readTime (i : ι)
  /-- The write arrives. -/
  | deliverTime (i : ι)
  /-- Anything else happens to a tag. -/
  | tag (i : ι) (e : TagEvent)

/-- The clock of the tag is not set by the event. -/
def TagEvent.keepsLag : TagEvent → Bool
  | .absTimeWrite _ | .reboot _ => false
  | _ => true

/-- Time passes by `tick` only. -/
def TagEvent.isTick : TagEvent → Bool
  | .tick _ => true
  | _ => false

namespace TimedFleet

variable {ι : Type*} (cfg : ι → Config) (ead : Ead)

/-- Time passes for a tag. -/
def tickTag (ms : ℕ) (x : TagDevice × TimedHistory) : TagDevice × TimedHistory :=
  (x.1.onTag fun t => { t with uptime := t.uptime + ms }, x.2)

/-- One event. -/
def step [DecidableEq ι] (n : TimedFleet ι) : TimedFleetEvent ι → Option (TimedFleet ι)
  | .tick ms => some { n with ap := n.ap.tick ms, tags := fun i => tickTag ms (n.tags i) }
  | .setTime t => some { n with ap := n.ap.eslCAbsTimerUpdate t, lag := fun _ => none }
  | .readTime i => some { n with sent := Function.update n.sent i (some n.ap) }
  | .deliverTime i =>
      (n.sent i).bind fun c =>
        (stepTimed (cfg i) ead (n.tags i) (.absTimeWrite c.eslCTagAbsTimerUpdate)).map fun x =>
          { n with
            sent := Function.update n.sent i none
            lag := Function.update n.lag i
              (if c.absTimeAnchor = n.ap.absTimeAnchor then some (n.ap.uptime - c.uptime) else none)
            tags := Function.update n.tags i x }
  | .tag i e =>
      if e.isTick then none
      else
        (stepTimed (cfg i) ead (n.tags i) e).map fun x =>
          { n with
            lag := Function.update n.lag i (if e.keepsLag then n.lag i else none)
            tags := Function.update n.tags i x }

/-- All tags have booted, and none has got a time. -/
def boot (ap : ApClock) (p : ι → BootParam) : TimedFleet ι where
  ap := ap
  sent := fun _ => none
  lag := fun _ => none
  tags := fun i => (TagDevice.boot (cfg i) (p i), fun _ => none)

/-- What lies between the latest time of a command and a whole turn of the clock: 41 hours. -/
def maxLag : ℕ := 2 ^ 32 - eslTimedAbsMax

/-- Elements are spared, the clock is read when it shows the time, and a write arrives in time. -/
def Guarded (n : TimedFleet ι) : TimedFleetEvent ι → Prop
  | .tick _ | .setTime _ => True
  | .readTime _ => n.ap.ReadsTrue
  | .deliverTime i => ∀ c ∈ n.sent i, n.ap.uptime - c.uptime ≤ maxLag
      ∧ SparesElements (cfg i) (n.tags i) (.absTimeWrite c.eslCTagAbsTimerUpdate)
  | .tag i e => SparesElements (cfg i) (n.tags i) e

instance (n : TimedFleet ι) (e : TimedFleetEvent ι) : Decidable (Guarded cfg n e) :=
  match e with
  | .tick _ | .setTime _ => isTrue trivial
  | .readTime _ => inferInstanceAs (Decidable (ApClock.ReadsTrue _))
  | .deliverTime _ => inferInstanceAs (Decidable (∀ c ∈ _, _ ∧ _))
  | .tag _ _ => inferInstanceAs (Decidable (SparesElements _ _ _))

/-! ## Specification -/

/-- The timed command of an element of the tag, with its time still ahead. -/
structure Awaits (n : TimedFleet ι) (i : ι) (el : TimedElement) (c : PendingCommand el.Params) :
    Prop where
  inRange : el.InRange (cfg i)
  pending : (n.tags i).2 el = some c
  ahead : (n.tags i).1.tag.uptime ≤ c.due

/-- How long the command has to wait. -/
def remaining {α : Type*} (n : TimedFleet ι) (i : ι) (c : PendingCommand α) : ℕ :=
  c.due - (n.tags i).1.tag.uptime

/-- The tags are in step. -/
structure InStep (n : TimedFleet ι) : Prop where
  /-- A tag that has its time from the access point is behind it by its lag. -/
  clock : ∀ i a, n.lag i = some a → n.ap.trueTime = (n.tags i).1.tag.absTime + UInt32.ofNat a
  /-- A command falls due when the access point reads its time and the lag. -/
  onTime : ∀ i a, n.lag i = some a → ∀ el c, n.Awaits cfg i el c →
    (n.ap.tick (n.remaining i c)).trueTime = c.absTime + UInt32.ofNat a
  /-- Commands for one time fall due at once, but for the lags. -/
  together : ∀ i j a b, n.lag i = some a → n.lag j = some b → ∀ el c el' c', n.Awaits cfg i el c →
    n.Awaits cfg j el' c' → c.absTime = c'.absTime →
    n.remaining i c + b = n.remaining j c' + a

/-- Every command takes effect with its own parameters, and not before it is due. -/
def Honours (n : TimedFleet ι) : TimedFleetEvent ι → Prop
  | .tag i e => ∀ d', (n.tags i).1.step (cfg i) ead e = some d' → ∀ el : TimedElement,
      el.InRange (cfg i) → el.StepHonours (cfg i) (n.tags i) e d'
  | _ => True

end TimedFleet

/-! ## Clocks -/

namespace ApClock

variable (c : ApClock)

lemma trueTime_tick (k : ℕ) : (c.tick k).trueTime = c.trueTime + UInt32.ofNat k := by
  rw [trueTime, trueTime, tick, kUptimeGet32, kUptimeGet32, UInt32.ofNat_add]
  grind

/-- Clocks with one anchor differ by the time between them. -/
lemma trueTime_eq_add {c' : ApClock} (hanchor : c.absTimeAnchor = c'.absTimeAnchor)
    (h : c.uptime ≤ c'.uptime) :
    c'.trueTime = c.trueTime + UInt32.ofNat (c'.uptime - c.uptime) := by
  rw [← trueTime_tick, tick, ← Nat.add_sub_assoc h, Nat.add_sub_cancel_left, trueTime, trueTime,
    hanchor]

end ApClock

/-- The clock at a later uptime. -/
lemma EslTag.absTimeAt_eq_add (t : EslTag) {u : ℕ} (h : t.uptime ≤ u) :
    t.absTimeAt u = t.absTime + UInt32.ofNat (u - t.uptime) := by
  rw [← Nat.add_sub_of_le h, absTimeAt_add, Nat.add_sub_cancel_left]
  rfl

/-! ## One tag -/

namespace TimedElement

/-- The command waits, and has been accepted for a time not too late. -/
structure Waits (d : TagDevice) (el : TimedElement) (c : PendingCommand el.Params) : Prop where
  keeps : el.Keeps d c
  accepted : c.accepted ≤ d.tag.uptime
  window : c.due < c.accepted + eslTimedAbsMax

section Step

variable {cfg : Config} {ead : Ead} {el : TimedElement} {x y : TagDevice × TimedHistory}
  {e : TagEvent} {d : TagDevice} {c : PendingCommand el.Params}

lemma Keeps.clock (h : el.Keeps d c) : d.tag.ClockReaches c := by
  cases el with
  | led i => exact LedKeeps.clock h
  | display i => exact DisplayKeeps.clock h

/-- **A spared element keeps its command.** -/
lemma keeps_step (hel : el.InRange cfg) (hx : ∀ c, x.2 el = some c → el.Keeps x.1 c)
    (hg : el.Spared cfg x e) (h : stepTimed cfg ead x e = some y) (hc : y.2 el = some c) :
    el.Keeps y.1 c := by
  obtain ⟨hstep, hy⟩ := withHistory_eq_some.mp h
  have hel' := congrFun hy el
  cases el with
  | led i =>
      exact ledKeeps_step (y := (y.1, y.2 (.led i))) hel hx hg
        (withHistory_eq_some.mpr ⟨hstep, hel'⟩) c hc
  | display i =>
      exact displayKeeps_step (y := (y.1, y.2 (.display i))) hel hx hg
        (withHistory_eq_some.mpr ⟨hstep, hel'⟩) c hc

/-- A command is accepted now, for a time not too late. -/
lemma accept_timedOp {c : PendingCommand el.Params} (h : d.timedOp cfg e el = .accept c) :
    (∃ env, e = .ecpWork env) ∧ c.accepted = d.tag.uptime ∧ c.due < d.tag.uptime + eslTimedAbsMax := by
  cases el with
  | led i =>
      simp only [TagDevice.timedOp, TagDevice.ledTimed] at h
      split at h
      · rename_i absTime obj hop
        obtain ⟨hwork, harms⟩ := TagDevice.armsLed_of_ledOp? hop
        cases h
        exact ⟨hwork, rfl, Nat.add_lt_add_left harms.inRange _⟩
      all_goals cases h
  | display i =>
      simp only [TagDevice.timedOp, TagDevice.displayTimed] at h
      split at h
      · rename_i absTime imgIdx hop
        obtain ⟨hwork, harms⟩ := TagDevice.armsDisplay_of_displayOp? hop
        cases h
        exact ⟨hwork, rfl, Nat.add_lt_add_left harms.inRange _⟩
      any_goals cases h
      split at h <;> cases h

/-- No command waits while a spared tag boots. -/
lemma none_of_reboot {p : BootParam} (hg : el.Spared cfg x (.reboot p)) : x.2 el = none := by
  cases el with
  | led i =>
      have hspares := hg.1 .boot rfl
      exact Option.not_isSome_iff_eq_none.mp (by simpa [LedOp.Spares] using hspares)
  | display i =>
      have hspares := hg.1 .boot rfl
      exact Option.not_isSome_iff_eq_none.mp (by simpa [DisplayOp.Spares] using hspares)

/-- While a spared command waits, the uptime does not fall. -/
lemma uptime_le (hg : el.Spared cfg x e) (h : x.1.step cfg ead e = some d) (hc : x.2 el = some c) :
    x.1.tag.uptime ≤ d.tag.uptime := by
  refine TagDevice.uptime_le_of_step h ?_
  rintro p rfl
  rw [none_of_reboot hg] at hc
  cases hc

/-- **One step of a tag.** -/
lemma waits_step (hel : el.InRange cfg) (hx : ∀ c, x.2 el = some c → el.Waits x.1 c)
    (hg : el.Spared cfg x e) (h : stepTimed cfg ead x e = some y) (hc : y.2 el = some c) :
    el.Waits y.1 c := by
  have hkeeps := keeps_step hel (fun c hc => (hx c hc).keeps) hg h hc
  obtain ⟨hstep, hy⟩ := withHistory_eq_some.mp h
  rw [congrFun hy el] at hc
  cases hop : x.1.timedOp cfg e el with
  | accept c' =>
      rw [hop] at hc
      cases hc
      obtain ⟨⟨env, rfl⟩, haccepted, hdue⟩ := accept_timedOp hop
      have huptime := TagDevice.uptime_step hstep (by rintro _ ⟨⟩) (by rintro _ ⟨⟩)
      exact ⟨hkeeps, by rw [haccepted, huptime], by rw [haccepted]; exact hdue⟩
  | finish =>
      rw [hop] at hc
      cases hc
  | keep =>
      rw [hop] at hc
      exact ⟨hkeeps, (hx c hc).accepted.trans (uptime_le hg hstep hc), (hx c hc).window⟩

lemma stepHonours (hel : el.InRange cfg) (hx : ∀ c, x.2 el = some c → el.Waits x.1 c)
    (hg : el.Spared cfg x e) (h : x.1.step cfg ead e = some d) : el.StepHonours cfg x e d := by
  cases el with
  | led i =>
      exact ledStepHonours (x := (x.1, x.2 (.led i))) hel (fun c hc => (hx c hc).keeps) hg h
  | display i =>
      exact displayStepHonours (x := (x.1, x.2 (.display i))) hel (fun c hc => (hx c hc).keeps) hg h

end Step

/-- Time that passes spares every element. -/
lemma spared_tick (cfg : Config) (x : TagDevice × TimedHistory) (ms : ℕ) (el : TimedElement) :
    el.Spared cfg x (.tick ms) := by
  cases el with
  | led i => exact ⟨by rintro _ ⟨⟩, fun _ => rfl⟩
  | display i => exact ⟨by rintro _ ⟨⟩, fun _ => rfl⟩

end TimedElement

/-! ## The invariant -/

namespace TimedFleet

variable {ι : Type*} {cfg : ι → Config} {ead : Ead} {n : TimedFleet ι}
  {e : TimedFleetEvent ι}

/-- What a tag owes to the clock of the access point. -/
structure Follows (ap : ApClock) (lag : Option ℕ) (t : EslTag) : Prop where
  clock : ∀ a, lag = some a → ap.trueTime = t.absTime + UInt32.ofNat a
  le : ∀ a, lag = some a → a ≤ maxLag

/-- Readings are true, tags follow the clock, and commands wait for the uptime at which they are due. -/
structure FleetInv (cfg : ι → Config) (n : TimedFleet ι) : Prop where
  sent : ∀ i c, n.sent i = some c → c.uptime ≤ n.ap.uptime ∧ c.ReadsTrue
  follows : ∀ i, Follows n.ap (n.lag i) (n.tags i).1.tag
  waits : ∀ i (el : TimedElement), el.InRange (cfg i) →
    ∀ c, (n.tags i).2 el = some c → el.Waits (n.tags i).1 c

/-- Time passes for the tag and its commands. -/
lemma stepTimed_tick (cfg : Config) (ead : Ead) (x : TagDevice × TimedHistory) (ms : ℕ) :
    stepTimed cfg ead x (.tick ms) = some (tickTag ms x) := by
  refine withHistory_eq_some.mpr ⟨rfl, funext fun el => ?_⟩
  cases el with
  | led i => rfl
  | display i => rfl

lemma follows_none (ap : ApClock) (t : EslTag) : Follows ap none t :=
  ⟨by rintro _ ⟨⟩, by rintro _ ⟨⟩⟩

/-- An event that does not set the clock of a tag leaves its lag. -/
lemma Follows.step {ap : ApClock} {lag : Option ℕ} {cfg : Config} {d d' : TagDevice} {e : TagEvent}
    (h : Follows ap lag d.tag) (hstep : d.step cfg ead e = some d') (htick : e.isTick = false) :
    Follows ap (if e.keepsLag then lag else none) d'.tag := by
  by_cases hkeeps : e.keepsLag = true
  · have hclock : d'.tag.absTime = d.tag.absTime := by
      have hboot : ∀ p, e ≠ .reboot p := by
        rintro p rfl
        cases hkeeps
      have hanchor := TagDevice.absTimeAnchor_step hstep (by rintro w rfl; cases hkeeps) hboot
      have huptime := TagDevice.uptime_step hstep (by rintro ms rfl; cases htick) hboot
      rw [EslTag.absTime, hanchor, huptime, EslTag.absTime]
    rw [if_pos hkeeps]
    exact ⟨fun a ha => by rw [hclock, h.clock a ha], h.le⟩
  · rw [if_neg hkeeps]
    exact follows_none ap _

/-- **A write of the time arrives**: the tag is behind by the time it took. -/
lemma follows_deliver {ap c : ApClock} {cfg : Config} {d d' : TagDevice} (hc : c.uptime ≤ ap.uptime)
    (htrue : c.ReadsTrue) (hle : ap.uptime - c.uptime ≤ maxLag)
    (hstep : d.step cfg ead (.absTimeWrite c.eslCTagAbsTimerUpdate) = some d') :
    Follows ap (if c.absTimeAnchor = ap.absTimeAnchor then some (ap.uptime - c.uptime) else none)
      d'.tag := by
  by_cases hanchor : c.absTimeAnchor = ap.absTimeAnchor
  · have hwritten : sysGetLe32 c.eslCTagAbsTimerUpdate.buf.data 0 = c.trueTime :=
      (sysGetLe32_of_bytes rfl).trans htrue
    have hclock : d'.tag.absTime = c.trueTime := by
      rw [EslTag.absTime, TagDevice.absTimeAnchor_absTimeWrite hstep,
        TagDevice.uptime_step hstep (by rintro _ ⟨⟩) (by rintro _ ⟨⟩), hwritten]
      grind
    rw [if_pos hanchor]
    refine ⟨?_, ?_⟩
    · rintro a ⟨⟩
      rw [hclock]
      exact c.trueTime_eq_add hanchor hc
    · rintro a ⟨⟩
      exact hle
  · rw [if_neg hanchor]
    exact follows_none ap _

namespace FleetInv

lemma boot (ap : ApClock) (p : ι → BootParam) : FleetInv cfg (boot cfg ap p) where
  sent := by rintro _ _ ⟨⟩
  follows _ := follows_none ap _
  waits := by rintro _ _ _ _ ⟨⟩

/-- Something happens to one tag. -/
lemma update [DecidableEq ι] (h : FleetInv cfg n) {i : ι} {ev : TagEvent} {x : TagDevice × TimedHistory}
    {sent : ι → Option ApClock} {lag : Option ℕ} (hsent : ∀ j c, sent j = some c → n.sent j = some c)
    (hg : SparesElements (cfg i) (n.tags i) ev)
    (hstep : stepTimed (cfg i) ead (n.tags i) ev = some x) (hlag : Follows n.ap lag x.1.tag) :
    FleetInv cfg { n with
      sent := sent
      lag := Function.update n.lag i lag
      tags := Function.update n.tags i x } where
  sent j c hc := h.sent j c (hsent j c hc)
  follows j := by
    by_cases hj : j = i
    · subst hj
      dsimp only
      rwa [Function.update_self, Function.update_self]
    · dsimp only
      rw [Function.update_of_ne hj, Function.update_of_ne hj]
      exact h.follows j
  waits j el hel c hc := by
    by_cases hj : j = i
    · subst hj
      dsimp only at hc ⊢
      rw [Function.update_self] at hc ⊢
      exact TimedElement.waits_step hel (h.waits j el hel) (hg.spared hel) hstep hc
    · dsimp only at hc ⊢
      rw [Function.update_of_ne hj] at hc ⊢
      exact h.waits j el hel c hc

/-- Time passes. -/
lemma tick (h : FleetInv cfg n) (ead : Ead) (ms : ℕ) :
    FleetInv cfg { n with ap := n.ap.tick ms, tags := fun i => tickTag ms (n.tags i) } where
  sent i c hc := ⟨(h.sent i c hc).1.trans (Nat.le_add_right _ _), (h.sent i c hc).2⟩
  follows i := by
    refine ⟨?_, (h.follows i).le⟩
    intro a ha
    have hclock : (tickTag ms (n.tags i)).1.tag.absTime
        = (n.tags i).1.tag.absTime + UInt32.ofNat ms :=
      (n.tags i).1.tag.absTimeAt_add (n.tags i).1.tag.uptime ms
    rw [ApClock.trueTime_tick, (h.follows i).clock a ha, hclock]
    grind
  waits i el hel c hc :=
    TimedElement.waits_step hel (h.waits i el hel) (TimedElement.spared_tick _ _ ms el)
      (stepTimed_tick (cfg i) ead (n.tags i) ms) hc

/-- **One step.** -/
theorem preserved [DecidableEq ι] :
    PreservedUnder (step cfg ead) (Guarded cfg) (FleetInv cfg) := by
  intro n e n' h hg hstep
  cases e with
  | tick ms =>
      cases hstep
      exact h.tick ead ms
  | setTime t =>
      cases hstep
      exact ⟨h.sent, fun i => follows_none _ _, h.waits⟩
  | readTime i =>
      cases hstep
      refine ⟨?_, h.follows, h.waits⟩
      intro j c hc
      by_cases hj : j = i
      · subst hj
        dsimp only at hc
        rw [Function.update_self] at hc
        cases hc
        exact ⟨le_rfl, hg⟩
      · dsimp only at hc
        rw [Function.update_of_ne hj] at hc
        exact h.sent j c hc
  | deliverTime i =>
      obtain ⟨c, hc, hstep⟩ := Option.bind_eq_some_iff.mp hstep
      obtain ⟨x, hx, rfl⟩ := Option.map_eq_some_iff.mp hstep
      obtain ⟨hle, hspares⟩ := hg c hc
      refine h.update ?_ hspares hx ?_
      · intro j c' hc'
        by_cases hj : j = i
        · subst hj
          rw [Function.update_self] at hc'
          cases hc'
        · rwa [Function.update_of_ne hj] at hc'
      · exact follows_deliver (h.sent i c hc).1 (h.sent i c hc).2 hle (withHistory_eq_some.mp hx).1
  | tag i e =>
      obtain ⟨htick, hstep⟩ := Option.ite_none_left_eq_some.mp hstep
      obtain ⟨x, hx, rfl⟩ := Option.map_eq_some_iff.mp hstep
      refine h.update (fun _ _ hc => hc) hg hx ?_
      exact (h.follows i).step (withHistory_eq_some.mp hx).1 (Bool.not_eq_true _ ▸ htick)

/-! ### What it says about the fleet -/

variable {i j : ι} {el el' : TimedElement} {c : PendingCommand el.Params}
  {c' : PendingCommand el'.Params} {a b : ℕ}

/-- A command falls due when the clock of the tag shows its time. -/
lemma absTime_eq (h : FleetInv cfg n) (hc : n.Awaits cfg i el c) :
    c.absTime = (n.tags i).1.tag.absTime + UInt32.ofNat (n.remaining i c) := by
  rw [← (h.waits i el hc.inRange c hc.pending).keeps.clock.at_due, remaining,
    EslTag.absTimeAt_eq_add _ hc.ahead]

lemma remaining_lt (h : FleetInv cfg n) (hc : n.Awaits cfg i el c) :
    n.remaining i c < eslTimedAbsMax := by
  have hwaits := h.waits i el hc.inRange c hc.pending
  have haccepted := hwaits.accepted
  have hwindow := hwaits.window
  have hahead := hc.ahead
  rw [remaining]
  omega

lemma trueTime_due (h : FleetInv cfg n) (ha : n.lag i = some a) (hc : n.Awaits cfg i el c) :
    (n.ap.tick (n.remaining i c)).trueTime = c.absTime + UInt32.ofNat a := by
  rw [ApClock.trueTime_tick, (h.follows i).clock a ha, h.absTime_eq hc]
  grind

/-- **Two tags at once.**  Their delays are the same residue, and too close to differ. -/
lemma together (h : FleetInv cfg n) (ha : n.lag i = some a) (hb : n.lag j = some b)
    (hc : n.Awaits cfg i el c) (hc' : n.Awaits cfg j el' c') (heq : c.absTime = c'.absTime) :
    n.remaining i c + b = n.remaining j c' + a := by
  have hmod : UInt32.ofNat (n.remaining i c + b) = UInt32.ofNat (n.remaining j c' + a) := by
    have hi := h.trueTime_due ha hc
    have hj := h.trueTime_due hb hc'
    rw [ApClock.trueTime_tick] at hi hj
    rw [UInt32.ofNat_add, UInt32.ofNat_add]
    grind
  have hr := h.remaining_lt hc
  have hr' := h.remaining_lt hc'
  have hla := (h.follows i).le a ha
  have hlb := (h.follows j).le b hb
  have hnat := congrArg UInt32.toNat hmod
  rw [UInt32.toNat_ofNat', UInt32.toNat_ofNat'] at hnat
  rw [maxLag] at hla hlb
  rw [eslTimedAbsMax] at hr hr' hla hlb
  omega

lemma inStep (h : FleetInv cfg n) : InStep cfg n where
  clock i := (h.follows i).clock
  onTime _ _ ha _ _ hc := h.trueTime_due ha hc
  together _ _ _ _ ha hb _ _ _ _ hc hc' heq := h.together ha hb hc hc' heq

lemma honours (h : FleetInv cfg n) (hg : Guarded cfg n e) : Honours cfg ead n e := by
  cases e with
  | tag i e =>
      exact fun d' hd' el hel => TimedElement.stepHonours hel (h.waits i el hel) (hg.spared hel) hd'
  | _ => trivial

end FleetInv

end TimedFleet

/-- **One moment for all tags.**  Along every run in which the elements of the tags are spared, commands
for one time fall due at once on all tags that have their time from the access point, but for the lags of
their clocks; and every command takes effect as it was given. -/
theorem inStep_of_spared {ι : Type*} [DecidableEq ι] {cfg : ι → Config} {ead : Ead} (ap : ApClock)
    (p : ι → BootParam) {es : List (TimedFleetEvent ι)}
    (h : StepsMeet (TimedFleet.step cfg ead) (TimedFleet.Guarded cfg) (.boot cfg ap p) es) :
    AlongRun (TimedFleet.step cfg ead) (TimedFleet.InStep cfg) (.boot cfg ap p) es
      ∧ StepsMeet (TimedFleet.step cfg ead) (TimedFleet.Honours cfg ead) (.boot cfg ap p) es := by
  have hpreserved : PreservedUnder (TimedFleet.step cfg ead) (TimedFleet.Guarded cfg)
      (TimedFleet.FleetInv cfg) := TimedFleet.FleetInv.preserved
  have hboot : TimedFleet.FleetInv cfg (.boot cfg ap p) := .boot ap p
  exact ⟨(alongRun_of_stepsMeet hpreserved hboot h).imp fun _ hn => hn.inStep,
    h.strengthen hpreserved (fun _ _ _ hn hg _ => hn.honours hg) hboot⟩

/-! ### An image and an LED, on two tags -/

/-- The access point sets its clock to 100000 and gives the time to the tags, one write taking 5
milliseconds and the other 20.  Then a display and an LED are ordered for the time 105000. -/
def orderedTwice : List (TimedFleetEvent Bool) :=
  [ .setTime 100000, .readTime false, .tick 5, .deliverTime false
  , .tick 40, .readTime true, .tick 20, .deliverTime true
  , .tag false (.eslControlWrite (.ofBytes [0x60, 0x00, 0, 1, 0x28, 0x9A, 0x01, 0]))
  , .tag false (.ecpWork {})
  , .tick 300
  , .tag true (.eslControlWrite (.ofBytes
      [0xF0, 0x00, 0, 0x3F, 0xFF, 0, 0, 0, 0, 50, 50, 0x05, 0, 0x28, 0x9A, 0x01, 0]))
  , .tag true (.ecpWork {}) ]

/-- Both take effect 5000 milliseconds after the clock was set, and their lags. -/
def takeEffect : List (TimedFleetEvent Bool) :=
  orderedTwice ++ [.tick 4640, .tag false (.displayWork 0), .tick 15, .tag true (.ledWork 0)]

/-- The two wait, and what they were told appears. -/
theorem inStep_takeEffect :
    ((run (TimedFleet.step (fun _ => .sample) .clear) (.boot (fun _ => .sample) (.boot 7000) fun _ => {})
        orderedTwice).map fun n => (n.lag false, ((n.tags false).2 (.display 0)).map (n.remaining false),
          n.lag true, ((n.tags true).2 (.led 0)).map (n.remaining true)))
      = some (some 5, some 4640, some 20, some 4655)
    ∧ ((run (TimedFleet.step (fun _ => .sample) .clear) (.boot (fun _ => .sample) (.boot 7000) fun _ => {})
        takeEffect).map fun n => (n.ap.eslCGetAbsTime, (n.tags false).1.tag.out.getLast?,
          (n.tags true).1.tag.out.getLast?))
      = some (105020, some (.displayControl 0 1), some (.ledControl 0 0x3F true))
    ∧ AlongRun (TimedFleet.step (fun _ => .sample) .clear) (TimedFleet.InStep fun _ => .sample)
        (.boot (fun _ => .sample) (.boot 7000) fun _ => {}) takeEffect
    ∧ StepsMeet (TimedFleet.step (fun _ => .sample) .clear) (TimedFleet.Honours (fun _ => .sample) .clear)
        (.boot (fun _ => .sample) (.boot 7000) fun _ => {}) takeEffect := by
  refine ⟨by decide +kernel, by decide +kernel, ?_⟩
  exact inStep_of_spared (.boot 7000) (fun _ => {}) (by decide +kernel)

end NrfEsl
