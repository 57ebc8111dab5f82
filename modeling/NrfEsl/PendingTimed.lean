import NrfEsl.Tag.Led

/-!
# Pending timed commands

An accepted LED Timed Control or Display Timed Image should wait with its own parameters, take effect
when the clock of the tag reaches its time, and until then leave alone what the element shows.  Only
another timed command for the element, or an unassociation, ends it earlier.

The command that waits is a history variable (`PendingCommand`); what the tag has for it is one
delayed work and one record for each element, which the command that runs uses as well.

**When it holds** (`timedHonoured_of_spared`).  LED Control, Display Image and Refresh Display
overwrite or reschedule the record without a look at `start_abs_time` (`not_ledKeeps_of_control`,
`not_displayKeeps_of_refresh`), so do connections, packets and advertising for the indication LED,
and a write of another absolute time moves the clock under the schedule.  Without these a command
that waits is honoured.  A timed command for an LED that is lit or running turns it off at once, and
one for a display drops an image that is about to be shown.
-/

namespace NrfEsl

open EslTag TransitionSystem

/-! ## Specification -/

/-- A timed command that was accepted. -/
structure PendingCommand (α : Type*) where
  absTime : UInt32
  /-- The uptime at which it was accepted. -/
  accepted : ℕ
  /-- The uptime at which it is to take effect. -/
  due : ℕ
  params : α

/-- The command, accepted now. -/
def EslTag.acceptTimed {α : Type*} (t : EslTag) (absTime : UInt32) (params : α) :
    PendingCommand α :=
  ⟨absTime, t.uptime, t.uptime + (absTime - t.absTime).toNat, params⟩

/-- The uptime at which the command is due is the first at which the clock shows its time. -/
structure EslTag.ClockReaches {α : Type*} (t : EslTag) (c : PendingCommand α) : Prop where
  at_due : t.absTimeAt c.due = c.absTime
  before : ∀ u, c.accepted ≤ u → u < c.due → t.absTimeAt u ≠ c.absTime

/-- What an event means to the timed command of an element. -/
inductive TimedOp (α : Type*)
  | accept (c : PendingCommand α)
  /-- The command takes effect, is deleted, or the tag is unassociated. -/
  | finish
  | keep

/-- The command that is pending after the event. -/
def TimedOp.after {α : Type*} (pending : Option (PendingCommand α)) :
    TimedOp α → Option (PendingCommand α)
  | .accept c => some c
  | .finish => none
  | .keep => pending

/-! ### LEDs -/

/-- The meaning of an event to the timed command of LED `i`. -/
def TagDevice.ledTimed (cfg : Config) (i : ℕ) (d : TagDevice) (e : TagEvent) : TimedOp LedObj :=
  match d.ledOp? cfg i e with
  | some (.arm absTime obj) => .accept (d.tag.acceptTimed absTime obj)
  | some .delete | some .run | some .unassociate => .finish
  | _ => .keep

/-- The tag, with the timed command of LED `i`. -/
def stepLed (cfg : Config) (ead : Ead) (i : ℕ) :
    TagDevice × Option (PendingCommand LedObj) → TagEvent →
      Option (TagDevice × Option (PendingCommand LedObj)) :=
  withHistory (fun d e _ pending => (d.ledTimed cfg i e).after pending) (TagDevice.step cfg ead)

/-- A command flashes the LED, has it on, or waits to be run at once. -/
def Led.Running (l : Led) : Prop :=
  l.dwork.active = true ∨ l.dwork.workEnable = true
    ∨ (l.dwork.work ≠ none ∧ l.dwork.startAbsTime = 0)

instance (l : Led) : Decidable l.Running := inferInstanceAs (Decidable (_ ∨ _ ∨ _ ∧ _))

/-- The command waits in LED `i`, with its own parameters, for the uptime at which it is due. -/
structure LedKeeps (i : ℕ) (d : TagDevice) (c : PendingCommand LedObj) : Prop where
  led : d.tag.led i = ⟨.armed c.due c.absTime, c.params⟩
  ne_zero : c.absTime ≠ 0
  clock : d.tag.ClockReaches c

/-- What a step does to the timed command of LED `i`. -/
structure LedStepHonours (cfg : Config) (i : ℕ) (pending : Option (PendingCommand LedObj))
    (d : TagDevice) (op? : Option LedOp) (d' : TagDevice) : Prop where
  /-- It takes effect when it is due, with its colour. -/
  effect : op? = some .run → ∀ c ∈ pending, c.due ≤ d.tag.uptime
    ∧ ∃ onoff, d'.tag.out.getLast? = some (.ledControl i c.params.colorBrightness onoff)
  /-- Only a command for the same time replaces it. -/
  replaced : ∀ absTime obj, op? = some (.arm absTime obj) → ∀ c ∈ pending, c.absTime = absTime
  /-- To accept it does not disturb the LED. -/
  undisturbed : ∀ absTime obj, op? = some (.arm absTime obj) →
    d'.tag.lit i = d.tag.lit i ∧ ((d.tag.led i).Running → (d'.tag.led i).Running)

/-- Along the run, LED `i` honours its timed commands. -/
structure LedHonoured (cfg : Config) (ead : Ead) (i : ℕ) (d : TagDevice) (es : List TagEvent) :
    Prop where
  kept : AlongRun (stepLed cfg ead i) (fun x => ∀ c ∈ x.2, LedKeeps i x.1 c) (d, none) es
  steps : StepsMeet (stepLed cfg ead i)
    (fun x e => ∀ d', x.1.step cfg ead e = some d' →
      LedStepHonours cfg i x.2 x.1 (x.1.ledOp? cfg i e) d') (d, none) es

/-- The operation finds the LED dark and idle if it is to be armed, and no command waiting if it
overwrites the record. -/
def LedOp.Spares (l : Led) (lit pending : Bool) : LedOp → Prop
  | .arm _ _ => ¬ l.Running ∧ lit = false
  | .control _ | .reset | .flash _ _ _ _ _ _ | .boot => pending = false
  | .delete | .run | .unassociate => True

instance (l : Led) (lit pending : Bool) (op : LedOp) : Decidable (op.Spares l lit pending) :=
  match op with
  | .arm _ _ => inferInstanceAs (Decidable (_ ∧ _))
  | .control _ => inferInstanceAs (Decidable (_ = _))
  | .reset => inferInstanceAs (Decidable (_ = _))
  | .flash _ _ _ _ _ _ => inferInstanceAs (Decidable (_ = _))
  | .boot => inferInstanceAs (Decidable (_ = _))
  | .delete => inferInstanceAs (Decidable True)
  | .run => inferInstanceAs (Decidable True)
  | .unassociate => inferInstanceAs (Decidable True)

/-- While a command waits, no other absolute time is written. -/
def KeepsClock (pending : Bool) (d : TagDevice) (e : TagEvent) : Prop :=
  pending = true → e.newAbsTime?.getD d.tag.absTime = d.tag.absTime

instance (pending : Bool) (d : TagDevice) (e : TagEvent) : Decidable (KeepsClock pending d e) :=
  inferInstanceAs (Decidable (_ → _))

/-- The event leaves LED `i` and its timed command to themselves. -/
def SparesLed (cfg : Config) (i : ℕ) (x : TagDevice × Option (PendingCommand LedObj))
    (e : TagEvent) : Prop :=
  (∀ op ∈ x.1.ledOp? cfg i e, op.Spares (x.1.tag.led i) (x.1.tag.lit i) x.2.isSome)
    ∧ KeepsClock x.2.isSome x.1 e

instance (cfg : Config) (i : ℕ) (x : TagDevice × Option (PendingCommand LedObj)) (e : TagEvent) :
    Decidable (SparesLed cfg i x e) :=
  inferInstanceAs (Decidable ((∀ _ ∈ _, _) ∧ _))

/-! ### Displays -/

/-- The event unassociates the tag. -/
def TagDevice.unassociates (cfg : Config) (d : TagDevice) : TagEvent → Bool
  | .unassociate | .factoryReset => true
  | .notifySent => decide d.UnassociatedCbNext
  | .stateTimeout => decide (d.tag.assoc.stateTimeoutWork.mode = .unassociated)
  | .ecpWork _ => decide (d.RunsFactoryReset cfg)
  | _ => false

/-- The meaning of an event to the timed command of display `i`. -/
def TagDevice.displayTimed (cfg : Config) (i : ℕ) (d : TagDevice) (e : TagEvent) : TimedOp UInt8 :=
  match d.displayOp? cfg i e with
  | some (.arm absTime imgIdx) => .accept (d.tag.acceptTimed absTime imgIdx)
  | some .delete | some .run => .finish
  | some .refresh | some (.display _) | some .boot => .keep
  | none => if d.unassociates cfg e then .finish else .keep

/-- The tag, with the timed command of display `i`. -/
def stepTimedImage (cfg : Config) (ead : Ead) (i : ℕ) :
    TagDevice × Option (PendingCommand UInt8) → TagEvent →
      Option (TagDevice × Option (PendingCommand UInt8)) :=
  withHistory (fun d e _ pending => (d.displayTimed cfg i e).after pending) (TagDevice.step cfg ead)

/-- An image waits to be shown at once. -/
def DisplayDwork.Waiting (w : DisplayDwork) : Prop := w.work ≠ none ∧ w.startAbsTime = 0

instance (w : DisplayDwork) : Decidable w.Waiting := inferInstanceAs (Decidable (_ ∧ _))

/-- The command waits in display `i`, with its own image, for the uptime at which it is due. -/
structure DisplayKeeps (i : ℕ) (d : TagDevice) (c : PendingCommand UInt8) : Prop where
  display : d.tag.elems.displayWorks i = ⟨some c.due, c.params, c.absTime, false⟩
  ne_zero : c.absTime ≠ 0
  clock : d.tag.ClockReaches c

/-- What a step does to the timed command of display `i`. -/
structure DisplayStepHonours (cfg : Config) (i : ℕ) (pending : Option (PendingCommand UInt8))
    (d : TagDevice) (op? : Option DisplayOp) (d' : TagDevice) : Prop where
  /-- It takes effect when it is due, and shows its image. -/
  effect : op? = some .run → ∀ c ∈ pending, c.due ≤ d.tag.uptime
    ∧ (cfg.hasDisplayControl = true → d'.tag.out = d.tag.out ++ [.displayControl i c.params])
  /-- Only a command for the same time replaces it. -/
  replaced : ∀ absTime img, op? = some (.arm absTime img) → ∀ c ∈ pending, c.absTime = absTime
  /-- To accept it does not disturb the display. -/
  undisturbed : ∀ absTime img, op? = some (.arm absTime img) → d'.tag.out = d.tag.out
    ∧ ((d.tag.elems.displayWorks i).Waiting → (d'.tag.elems.displayWorks i).Waiting)

/-- Along the run, display `i` honours its timed commands. -/
structure DisplayHonoured (cfg : Config) (ead : Ead) (i : ℕ) (d : TagDevice)
    (es : List TagEvent) : Prop where
  kept : AlongRun (stepTimedImage cfg ead i) (fun x => ∀ c ∈ x.2, DisplayKeeps i x.1 c) (d, none) es
  steps : StepsMeet (stepTimedImage cfg ead i)
    (fun x e => ∀ d', x.1.step cfg ead e = some d' →
      DisplayStepHonours cfg i x.2 x.1 (x.1.displayOp? cfg i e) d') (d, none) es

/-- The operation finds no image about to be shown if the display is to be armed, and no command
waiting if it overwrites or reschedules the record. -/
def DisplayOp.Spares (w : DisplayDwork) (pending : Bool) : DisplayOp → Prop
  | .arm _ _ => ¬ w.Waiting
  | .refresh | .display _ | .boot => pending = false
  | .delete | .run => True

instance (w : DisplayDwork) (pending : Bool) (op : DisplayOp) : Decidable (op.Spares w pending) :=
  match op with
  | .arm _ _ => inferInstanceAs (Decidable (¬ _))
  | .refresh => inferInstanceAs (Decidable (_ = _))
  | .display _ => inferInstanceAs (Decidable (_ = _))
  | .boot => inferInstanceAs (Decidable (_ = _))
  | .delete => inferInstanceAs (Decidable True)
  | .run => inferInstanceAs (Decidable True)

/-- The event leaves display `i` and its timed command to themselves. -/
def SparesDisplay (cfg : Config) (i : ℕ) (x : TagDevice × Option (PendingCommand UInt8))
    (e : TagEvent) : Prop :=
  (∀ op ∈ x.1.displayOp? cfg i e, op.Spares (x.1.tag.elems.displayWorks i) x.2.isSome)
    ∧ KeepsClock x.2.isSome x.1 e

instance (cfg : Config) (i : ℕ) (x : TagDevice × Option (PendingCommand UInt8)) (e : TagEvent) :
    Decidable (SparesDisplay cfg i x e) :=
  inferInstanceAs (Decidable ((∀ _ ∈ _, _) ∧ _))

/-! ## The clock -/

section Clock

variable {α : Type*} {t t' : EslTag}

lemma EslTag.clockReaches_acceptTimed (t : EslTag) (absTime : UInt32) (params : α) :
    t.ClockReaches (t.acceptTimed absTime params) where
  at_due := absTimeAt_due t absTime
  before := fun _ h hlt => absTimeAt_ne_of_lt_due t h hlt

lemma EslTag.ClockReaches.of_anchor {c : PendingCommand α} (h : t.ClockReaches c)
    (hanchor : t'.assoc.absTimeAnchor = t.assoc.absTimeAnchor) : t'.ClockReaches c := by
  have hclock : t'.absTimeAt = t.absTimeAt := by
    funext u
    rw [absTimeAt, absTimeAt, hanchor]
  exact ⟨by rw [hclock, h.at_due], by rw [hclock]; exact h.before⟩

end Clock

/-! ## LEDs -/

section Led

variable {cfg : Config} {ead : Ead} {i : ℕ} {e : TagEvent}
  {x y : TagDevice × Option (PendingCommand LedObj)}

/-- **A spared LED keeps its command.** -/
lemma ledKeeps_step (hi : i < cfg.ledMax) (hx : ∀ c ∈ x.2, LedKeeps i x.1 c)
    (hg : SparesLed cfg i x e) (h : stepLed cfg ead i x e = some y) :
    ∀ c ∈ y.2, LedKeeps i y.1 c := by
  obtain ⟨hstep, hpending⟩ := withHistory_eq_some.mp h
  have hled := TagDevice.led_step hi hstep
  intro c hc
  rw [hpending, TagDevice.ledTimed] at hc
  cases hop : x.1.ledOp? cfg i e with
  | none =>
      rw [hop] at hc hled
      have hk := hx c hc
      have hboot : ∀ p, e ≠ .reboot p := by
        rintro p rfl
        cases hop
      have hanchor := TagDevice.absTimeAnchor_of_keeps hstep
        (hg.2 (Option.isSome_of_mem hc)) hboot
      exact ⟨hled.trans hk.led, hk.ne_zero, hk.clock.of_anchor hanchor⟩
  | some op =>
      have hspares := hg.1 op hop
      rw [hop] at hc hled
      cases op with
      | arm absTime obj =>
          obtain ⟨⟨env, rfl⟩, harms⟩ := TagDevice.armsLed_of_ledOp? hop
          cases hc
          have hanchor := TagDevice.absTimeAnchor_step hstep (by rintro _ ⟨⟩) (by rintro _ ⟨⟩)
          exact ⟨hled, harms.ne_zero,
            (clockReaches_acceptTimed x.1.tag absTime obj).of_anchor hanchor⟩
      | delete | run | unassociate => cases hc
      | control | reset | flash | boot =>
          -- no command waits
          have hsome : x.2.isSome = true := Option.isSome_of_mem hc
          rw [hsome] at hspares
          cases hspares

/-- Accepting a timed command turns the LED off. -/
lemma lit_of_out {t t' : EslTag} (h : t'.out = t.out ++ [.ledControl i 0 false]) :
    t'.lit i = false := by
  rw [lit, h, List.foldl_append]
  exact if_pos rfl

/-- **A step honours the command of a spared LED.** -/
lemma ledStepHonours (hi : i < cfg.ledMax) (hx : ∀ c ∈ x.2, LedKeeps i x.1 c)
    (hg : SparesLed cfg i x e) {d' : TagDevice} (h : x.1.step cfg ead e = some d') :
    LedStepHonours cfg i x.2 x.1 (x.1.ledOp? cfg i e) d' where
  effect := by
    intro hop c hc
    have hk := (hx c hc).led
    rw [TagDevice.eq_ledWork_of_ledOp? hop] at h
    obtain ⟨⟨due, hdue, hle⟩, rfl⟩ := TagDevice.step_ledWork_eq_some.mp h
    have hwork : (x.1.tag.led i).dwork.work = some due := hdue
    have hstart : (x.1.tag.led i).dwork.patternIdx = eslLedFlashPatternStartBitIdx := by
      rw [hk]
      rfl
    have hobj : x.1.tag.elems.ledObjs i = c.params := congrArg Led.obj hk
    rw [hk] at hwork
    refine ⟨(Option.some.inj hwork).trans_le hle, ?_⟩
    rw [← hobj]
    exact getLast?_out_ledDelayWorkerFn x.1.tag hi hstart
  replaced := by
    intro absTime obj hop c hc
    obtain ⟨-, harms⟩ := TagDevice.armsLed_of_ledOp? hop
    have hstart : (x.1.tag.elems.ledDworks i).startAbsTime = c.absTime :=
      congrArg (fun l => l.dwork.startAbsTime) (hx c hc).led
    rcases harms.free with hfree | hfree
    · exact absurd (hstart.symm.trans hfree) (hx c hc).ne_zero
    · exact hstart.symm.trans hfree
  undisturbed := by
    intro absTime obj hop
    obtain ⟨⟨env, rfl⟩, harms⟩ := TagDevice.armsLed_of_ledOp? hop
    obtain ⟨hidle, hdark⟩ := hg.1 _ hop
    exact ⟨(lit_of_out (harms.out hi h)).trans hdark.symm, fun hrun => absurd hrun hidle⟩

/-- **An LED Control discards the command at once**: the LED is at the end of a pattern. -/
lemma not_ledKeeps_of_control (hi : i < cfg.ledMax) {d d' : TagDevice} {obj : LedObj}
    (hop : d.ledOp? cfg i e = some (.control obj)) (h : d.step cfg ead e = some d')
    (c : PendingCommand LedObj) : ¬ LedKeeps i d' c := by
  intro hk
  have hled := TagDevice.led_step hi h
  rw [hk.led, hop] at hled
  have hpattern : eslLedFlashPatternStartBitIdx = 0 :=
    congrArg (fun l => l.dwork.patternIdx) hled
  exact absurd hpattern (by decide)

/-- **A run in which the LED is spared.** -/
lemma ledHonoured_of_spared (hi : i < cfg.ledMax) {d : TagDevice} {es : List TagEvent}
    (hg : StepsMeet (stepLed cfg ead i) (SparesLed cfg i) (d, none) es) :
    LedHonoured cfg ead i d es := by
  have hkeeps : PreservedUnder (stepLed cfg ead i) (SparesLed cfg i)
      (fun x => ∀ c ∈ x.2, LedKeeps i x.1 c) := fun x e y hx hspares h =>
    ledKeeps_step hi hx hspares h
  have hnone : ∀ c ∈ (d, (none : Option (PendingCommand LedObj))).2, LedKeeps i d c := by
    rintro c ⟨⟩
  refine ⟨alongRun_of_stepsMeet hkeeps hnone hg, hg.strengthen hkeeps ?_ hnone⟩
  intro x e y hx hspares _ d' hd'
  exact ledStepHonours hi hx hspares hd'

end Led

/-! ## Displays -/

section Display

variable {cfg : Config} {ead : Ead} {i : ℕ} {e : TagEvent}
  {x y : TagDevice × Option (PendingCommand UInt8)}

/-- **A spared display keeps its command.** -/
lemma displayKeeps_step (hi : i < cfg.displayMax) (hx : ∀ c ∈ x.2, DisplayKeeps i x.1 c)
    (hg : SparesDisplay cfg i x e) (h : stepTimedImage cfg ead i x e = some y) :
    ∀ c ∈ y.2, DisplayKeeps i y.1 c := by
  obtain ⟨hstep, hpending⟩ := withHistory_eq_some.mp h
  have hdisplay := TagDevice.displayWorks_step hi hstep
  intro c hc
  rw [hpending, TagDevice.displayTimed] at hc
  cases hop : x.1.displayOp? cfg i e with
  | none =>
      rw [hop] at hc hdisplay
      have hc' : c ∈ x.2 := by
        dsimp only at hc
        split at hc
        · cases hc
        · exact hc
      have hk := hx c hc'
      have hboot : ∀ p, e ≠ .reboot p := by
        rintro p rfl
        cases hop
      have hanchor := TagDevice.absTimeAnchor_of_keeps hstep
        (hg.2 (Option.isSome_of_mem hc')) hboot
      exact ⟨hdisplay.trans hk.display, hk.ne_zero, hk.clock.of_anchor hanchor⟩
  | some op =>
      have hspares := hg.1 op hop
      rw [hop] at hc hdisplay
      cases op with
      | arm absTime imgIdx =>
          obtain ⟨⟨env, rfl⟩, harms⟩ := TagDevice.armsDisplay_of_displayOp? hop
          cases hc
          have hanchor := TagDevice.absTimeAnchor_step hstep (by rintro _ ⟨⟩) (by rintro _ ⟨⟩)
          exact ⟨hdisplay, harms.ne_zero,
            (clockReaches_acceptTimed x.1.tag absTime imgIdx).of_anchor hanchor⟩
      | delete | run => cases hc
      | refresh | display | boot =>
          have hsome : x.2.isSome = true := Option.isSome_of_mem hc
          rw [hsome] at hspares
          cases hspares

/-- **A step honours the command of a spared display.** -/
lemma displayStepHonours (hi : i < cfg.displayMax) (hx : ∀ c ∈ x.2, DisplayKeeps i x.1 c)
    (hg : SparesDisplay cfg i x e) {d' : TagDevice} (h : x.1.step cfg ead e = some d') :
    DisplayStepHonours cfg i x.2 x.1 (x.1.displayOp? cfg i e) d' where
  effect := by
    intro hop c hc
    have hk := (hx c hc).display
    rw [TagDevice.eq_displayWork_of_displayOp? hop] at h
    have hout := TagDevice.out_displayWork hi h
    obtain ⟨⟨due, hdue, hle⟩, -⟩ := TagDevice.step_displayWork_eq_some.mp h
    rw [hk] at hdue hout
    exact ⟨(Option.some.inj hdue).trans_le hle, hout⟩
  replaced := by
    intro absTime imgIdx hop c hc
    obtain ⟨-, harms⟩ := TagDevice.armsDisplay_of_displayOp? hop
    have hfree := harms.free
    rw [(hx c hc).display] at hfree
    exact hfree.resolve_left (hx c hc).ne_zero
  undisturbed := by
    intro absTime imgIdx hop
    obtain ⟨⟨env, rfl⟩, harms⟩ := TagDevice.armsDisplay_of_displayOp? hop
    exact ⟨harms.out h, fun hwaiting => absurd hwaiting (hg.1 _ hop)⟩

/-- **A Refresh Display before the time reschedules the command at once.** -/
lemma not_displayKeeps_of_refresh (hi : i < cfg.displayMax) {d d' : TagDevice}
    (hop : d.displayOp? cfg i e = some .refresh) (h : d.step cfg ead e = some d')
    {c : PendingCommand UInt8} (hearly : d.tag.uptime < c.due) : ¬ DisplayKeeps i d' c := by
  intro hk
  have hdisplay := TagDevice.displayWorks_step hi h
  rw [hk.display, hop] at hdisplay
  have hwork : some c.due = some d.tag.uptime := congrArg DisplayDwork.work hdisplay
  exact hearly.ne' (Option.some.inj hwork)

/-- **A run in which the display is spared.** -/
lemma displayHonoured_of_spared (hi : i < cfg.displayMax) {d : TagDevice} {es : List TagEvent}
    (hg : StepsMeet (stepTimedImage cfg ead i) (SparesDisplay cfg i) (d, none) es) :
    DisplayHonoured cfg ead i d es := by
  have hkeeps : PreservedUnder (stepTimedImage cfg ead i) (SparesDisplay cfg i)
      (fun x => ∀ c ∈ x.2, DisplayKeeps i x.1 c) := fun x e y hx hspares h =>
    displayKeeps_step hi hx hspares h
  have hnone : ∀ c ∈ (d, (none : Option (PendingCommand UInt8))).2, DisplayKeeps i d c := by
    rintro c ⟨⟩
  refine ⟨alongRun_of_stepsMeet hkeeps hnone hg, hg.strengthen hkeeps ?_ hnone⟩
  intro x e y hx hspares _ d' hd'
  exact displayStepHonours hi hx hspares hd'

end Display

/-- **Timed commands.**  From boot, an LED or display that is spared along the run honours its timed
commands. -/
theorem timedHonoured_of_spared (cfg : Config) (ead : Ead) (p : BootParam) (es : List TagEvent) :
    (∀ i < cfg.ledMax,
        StepsMeet (stepLed cfg ead i) (SparesLed cfg i) (TagDevice.boot cfg p, none) es →
          LedHonoured cfg ead i (TagDevice.boot cfg p) es)
      ∧ ∀ i < cfg.displayMax,
        StepsMeet (stepTimedImage cfg ead i) (SparesDisplay cfg i) (TagDevice.boot cfg p, none) es →
          DisplayHonoured cfg ead i (TagDevice.boot cfg p) es :=
  ⟨fun _ hi hg => ledHonoured_of_spared hi hg, fun _ hi hg => displayHonoured_of_spared hi hg⟩

/-! ### Two commands for a second later -/

/-- LED Timed Control for LED 0 is accepted. -/
def ledArmed : List TagEvent :=
  configuredAndUpdating ++
    [ .eslControlWrite (.ofBytes
        [0xF0, 0x01, 0, 0x3F, 0xFF, 0, 0, 0, 0, 50, 50, 0x05, 0, 0xE8, 0x03, 0, 0])
    , .ecpWork {} ]

/-- Display Timed Image with image 1 is accepted. -/
def imageArmed : List TagEvent :=
  configuredAndUpdating ++
    [.eslControlWrite (.ofBytes [0x60, 0x01, 0, 1, 0xE8, 0x03, 0, 0]), .ecpWork {}]

/-- Both are accepted, and run when their time comes. -/
def bothRun : List TagEvent :=
  ledArmed ++
    [ .eslControlWrite (.ofBytes [0x60, 0x01, 0, 1, 0xE8, 0x03, 0, 0]), .ecpWork {}
    , .tick 1000, .ledWork 0, .displayWork 0 ]

/-- The LED goes on and image 1 is shown. -/
theorem timedHonoured_bothRun :
    ((run (TagDevice.step .sample .clear) (TagDevice.boot .sample {}) bothRun).map fun d =>
      d.tag.out.drop (d.tag.out.length - 2)) = some [.ledControl 0 0x3F true, .displayControl 0 1]
    ∧ LedHonoured .sample .clear 0 (TagDevice.boot .sample {}) bothRun
    ∧ DisplayHonoured .sample .clear 0 (TagDevice.boot .sample {}) bothRun :=
  ⟨by decide +kernel,
    (timedHonoured_of_spared .sample .clear {} bothRun).1 0 (by decide) (by decide +kernel),
    (timedHonoured_of_spared .sample .clear {} bothRun).2 0 (by decide) (by decide +kernel)⟩

/-- An LED Control comes in between. -/
def ledOverwritten : List TagEvent :=
  ledArmed ++
    [ .eslControlWrite (.ofBytes [0xB0, 0x01, 0, 0x3F, 0xFF, 0, 0, 0, 0, 50, 50, 0x05, 0])
    , .ecpWork {} ]

/-- A Refresh Display comes in between. -/
def imageRefreshed : List TagEvent :=
  imageArmed ++ [.eslControlWrite (.ofBytes [0x11, 0x01, 0]), .ecpWork {}]

/-- LED Control discards the command that waits, and Refresh Display makes it run at once. -/
theorem timedHonoured_fails :
    ¬ LedHonoured .sample .clear 0 (TagDevice.boot .sample {}) ledOverwritten
    ∧ ¬ DisplayHonoured .sample .clear 0 (TagDevice.boot .sample {}) imageRefreshed := by
  have hled : ((run (stepLed .sample .clear 0) (TagDevice.boot .sample {}, none)
      ledOverwritten).map fun x =>
        (x.2.isSome, (x.1.tag.led 0).dwork.startAbsTime)) = some (true, 0) := by
    decide +kernel
  have hdisplay : ((run (stepTimedImage .sample .clear 0) (TagDevice.boot .sample {}, none)
      imageRefreshed).map fun x =>
        (x.2.map (·.due), (x.1.tag.elems.displayWorks 0).work)) = some (some 1000, some 0) := by
    decide +kernel
  constructor
  · intro h
    obtain ⟨x, hx, hproj⟩ := Option.map_eq_some_iff.mp hled
    simp only [Prod.mk.injEq] at hproj
    obtain ⟨c, hc⟩ := Option.isSome_iff_exists.mp hproj.1
    have hk := h.kept.last hx c hc
    rw [hk.led] at hproj
    exact hk.ne_zero hproj.2
  · intro h
    obtain ⟨x, hx, hproj⟩ := Option.map_eq_some_iff.mp hdisplay
    simp only [Prod.mk.injEq, Option.map_eq_some_iff] at hproj
    obtain ⟨⟨c, hc, hdue⟩, hwork⟩ := hproj
    have hk := h.kept.last hx c hc
    rw [hk.display, hdue] at hwork
    cases hwork

end NrfEsl
