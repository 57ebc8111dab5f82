import Mathlib.Algebra.Group.Int.Defs
import NrfEsl.PendingTimed
import NrfEsl.WorkTable

/-!
# When a timed command is scheduled, and for when

LED Timed Control and Display Timed Image carry an absolute time `T`.  `offset_time`, the 32-bit
difference of `T` and the clock, serves as the plausibility test and as the delay of the work; the
clock is a 32-bit uptime less an anchor, so both sides of the difference wrap.

* `becomesPending_iff_ordered` — a command that passes its index and image checks becomes pending
  **exactly when** `T` is set, less than `ESL_TIMED_ABS_MAX` ahead of the clock modulo `2 ^ 32`, and the
  element is free or waits for `T` already.
* `timedScheduled` — an element that is left alone from then on **runs its worker when the clock
  shows `T`**, however often the uptime and the clock wrap before.

Refused commands are answered with an Error and a command for time 0 deletes what waits, so neither
becomes pending, whether or not a command for `T` waits already.
-/

namespace NrfEsl

open EslTag TransitionSystem

/-! ## Specification -/

/-- An element that takes timed commands. -/
inductive TimedElement
  | led (idx : ℕ)
  | display (idx : ℕ)
  deriving DecidableEq, Repr

namespace TimedElement

/-- The tag has the element. -/
def InRange (cfg : Config) : TimedElement → Prop
  | .led i => i < cfg.ledMax
  | .display i => i < cfg.displayMax

/-- `start_abs_time` of the element; 0 stands for none. -/
def startAbsTime (t : EslTag) : TimedElement → UInt32
  | .led i => (t.elems.ledDworks i).startAbsTime
  | .display i => (t.elems.displayWorks i).startAbsTime

/-- The delayed work of the element. -/
def work (t : EslTag) : TimedElement → DelayableWork
  | .led i => (t.elems.ledDworks i).work
  | .display i => (t.elems.displayWorks i).work

/-- The worker of the element runs. -/
def worker : TimedElement → TagEvent
  | .led i => .ledWork i
  | .display i => .displayWork i

/-- The answer to a command for the element that is accepted. -/
def stateRsp : TimedElement → EslRespCode
  | .led _ => .ledState
  | .display _ => .displayState

/-- Nothing happens to the element: its command is not replaced, deleted, reset, rescheduled or
run. -/
def Untouched (cfg : Config) (d : TagDevice) (e : TagEvent) : TimedElement → Prop
  | .led i => d.ledOp? cfg i e = none
  | .display i => d.displayOp? cfg i e = none

end TimedElement

/-- The handler is given a timed command for the element with this time, and the index and the image
pass. -/
def TagDevice.Orders (cfg : Config) (el : TimedElement) (absTime : UInt32) (d : TagDevice) : Prop :=
  match el with
  | .led i => d.Runs cfg .ledTimedControl ∧ (d.ecpNetBuf.data 2).toNat = i ∧ i < cfg.ledMax
      ∧ sysGetLe32 d.ecpNetBuf.data 13 = absTime
  | .display i => d.Runs cfg .displayTimedImage ∧ (d.ecpNetBuf.data 2).toNat = i
      ∧ d.tag.displayImageError cfg (d.ecpNetBuf.data 2) (d.ecpNetBuf.data 3) = none
      ∧ sysGetLe32 d.ecpNetBuf.data 4 = absTime

instance (cfg : Config) (el : TimedElement) (absTime : UInt32) (d : TagDevice) :
    Decidable (d.Orders cfg el absTime) :=
  match el with
  | .led _ => inferInstanceAs (Decidable (_ ∧ _))
  | .display _ => inferInstanceAs (Decidable (_ ∧ _))

/-- The command is accepted, and the element waits for its time. -/
structure BecomesPending (el : TimedElement) (absTime : UInt32) (d' : TagDevice) : Prop where
  accepted : d'.tag.ecp.resp.respOp = el.stateRsp
  ne_zero : absTime ≠ 0
  waits : el.startAbsTime d'.tag = absTime

/-- The time is ahead of the clock, modulo `2 ^ 32`, by less than `ESL_TIMED_ABS_MAX`. -/
def Plausible (absTime now : UInt32) : Prop :=
  ((absTime.toNat : ℤ) - now.toNat) % 2 ^ 32 < eslTimedAbsMax

instance (absTime now : UInt32) : Decidable (Plausible absTime now) :=
  inferInstanceAs (Decidable (_ < _))

/-- The element is left alone, and the absolute time is not written. -/
def LeavesAlone (cfg : Config) (el : TimedElement) (d : TagDevice) (e : TagEvent) : Prop :=
  el.Untouched cfg d e ∧ e.newAbsTime? = none

instance (cfg : Config) (el : TimedElement) (d : TagDevice) (e : TagEvent) :
    Decidable (LeavesAlone cfg el d e) :=
  match el with
  | .led _ => inferInstanceAs (Decidable (_ = _ ∧ _ = _))
  | .display _ => inferInstanceAs (Decidable (_ = _ ∧ _ = _))

/-- The worker of the element runs when the clock shows the time. -/
structure OnTime (cfg : Config) (ead : Ead) (el : TimedElement) (absTime : UInt32) (d : TagDevice) :
    Prop where
  /-- It runs once the uptime is there, -/
  runs : ∃ due, el.work d.tag = some due ∧ (d.tag.uptime ≤ due →
    ∃ d₁ d₂, d.step cfg ead (.tick (due - d.tag.uptime)) = some d₁
      ∧ d₁.tag.absTime = absTime ∧ d₁.step cfg ead el.worker = some d₂)
  /-- and with an exact delay at no other clock. -/
  exact : ∀ d₁, d.step cfg ead el.worker = some d₁ → el.work d.tag = some d.tag.uptime →
    d.tag.absTime = absTime

/-! ## The offset -/

/-- `offset_time` is the difference modulo `2 ^ 32`. -/
lemma toNat_offset (absTime now : UInt32) :
    ((absTime - now).toNat : ℤ) = ((absTime.toNat : ℤ) - now.toNat) % 2 ^ 32 := by
  have hnow := now.toNat_lt
  have hoff : (absTime - now).toNat = (2 ^ 32 - now.toNat + absTime.toNat) % 2 ^ 32 :=
    UInt32.toNat_sub absTime now
  omega

lemma plausible_iff {absTime now : UInt32} :
    Plausible absTime now ↔ (absTime - now).toNat < eslTimedAbsMax := by
  rw [Plausible, ← toNat_offset]
  exact Int.ofNat_lt

/-! ## Which commands become pending -/

/-- The answer, the time and the schedule of the element. -/
def TimedElement.state (t : EslTag) (el : TimedElement) : EslRespCode × UInt32 × DelayableWork :=
  (t.ecp.resp.respOp, el.startAbsTime t, el.work t)

/-- What a timed command makes of a free or busy element. -/
def TimedElement.ordered (t : EslTag) (absTime : UInt32) (el : TimedElement) :
    EslRespCode × UInt32 × DelayableWork :=
  if absTime = 0 then (el.stateRsp, 0, none)
  else if eslTimedAbsMax ≤ (absTime - t.absTime).toNat then (.err, el.startAbsTime t, el.work t)
  else if el.startAbsTime t = 0 ∨ el.startAbsTime t = absTime then
    (el.stateRsp, absTime, some (t.uptime + (absTime - t.absTime).toNat))
  else (.err, el.startAbsTime t, el.work t)

namespace EslTag

section Ordered

variable {cfg : Config} (t : EslTag) {cmd : Mem} {i : ℕ}

lemma displayMax_of_displayImageError {displayIdx imageIdx : UInt8}
    (h : t.displayImageError cfg displayIdx imageIdx = none) : displayIdx.toNat < cfg.displayMax := by
  rw [displayImageError] at h
  split_ifs at h
  omega

/-- **The four ways a timed command can go**: deletion, a time too late, a free element, a busy one. -/
lemma state_ite_eq_ordered (el : TimedElement) {absTime : UInt32}
    {deleted late pending busy : EslTag}
    (hdeleted : el.state deleted = (el.stateRsp, 0, none))
    (hlate : el.state late = (.err, el.startAbsTime t, el.work t))
    (hpending : el.state pending
      = (el.stateRsp, absTime, some (t.uptime + (absTime - t.absTime).toNat)))
    (hbusy : el.state busy = (.err, el.startAbsTime t, el.work t)) :
    el.state (if absTime = 0 then deleted
      else if eslTimedAbsMax ≤ (absTime - t.absTime).toNat then late
      else if el.startAbsTime t = 0 ∨ el.startAbsTime t = absTime then pending
      else busy) = el.ordered t absTime := by
  rw [TimedElement.ordered]
  split_ifs
  · exact hdeleted
  · exact hlate
  · exact hpending
  · exact hbusy

/-- A timed command does to a display what is ordered. -/
lemma state_opDisplayTimedImage (hidx : (cmd 2).toNat = i)
    (himg : t.displayImageError cfg (cmd 2) (cmd 3) = none) :
    (TimedElement.display i).state (t.opDisplayTimedImage cfg cmd)
      = (TimedElement.display i).ordered t (sysGetLe32 cmd 4) := by
  subst hidx
  rw [opDisplayTimedImage]
  simp only [himg]
  refine state_ite_eq_ordered t (.display (cmd 2).toNat) ?_ ?_ ?_ ?_
  · simp only [TimedElement.state, TimedElement.startAbsTime, TimedElement.work,
      btEslBasicStateUpdate, displayWorks_displayDworkReset, if_true]
    rfl
  · rfl
  · simp only [TimedElement.state, TimedElement.startAbsTime, TimedElement.work,
      rescheduleDisplay, displayWorks_updateDisplay, if_true]
    rfl
  · rfl

/-- So it does to an LED. -/
lemma state_opLedTimedControl (hidx : (cmd 2).toNat = i) (hi : i < cfg.ledMax) :
    (TimedElement.led i).state (t.opLedTimedControl cfg cmd)
      = (TimedElement.led i).ordered t (sysGetLe32 cmd 13) := by
  subst hidx
  have hmax : cfg.ledMax ≠ 0 := by omega
  rw [opLedTimedControl]
  simp only [if_neg hmax, if_neg (not_le.mpr hi)]
  refine state_ite_eq_ordered t (.led (cmd 2).toNat) ?_ ?_ ?_ ?_
  · simp only [TimedElement.state, TimedElement.startAbsTime, TimedElement.work,
      btEslBasicStateUpdate, setLedState, ledDworkReset, ledDworks_updateLed, elems_emit, if_true]
    rfl
  · rfl
  · simp only [TimedElement.state, TimedElement.startAbsTime, TimedElement.work, scheduleLed,
      ledDworks_updateLed, storeLedObj, btEslBasicStateUpdate, setLedState, ledDworkReset,
      elems_emit, if_true]
    rfl
  · rfl

end Ordered

end EslTag

section Step

variable {cfg : Config} {ead : Ead} {d d' : TagDevice} {e : TagEvent} {env : HandlerEnv}
  {el : TimedElement} {absTime : UInt32}

/-- The step does to the element what the switch does. -/
lemma state_of_reachesSwitch (hsw : d.tag.ReachesSwitch cfg d.ecpNetBuf)
    (h : d.step cfg ead (.ecpWork env) = some d') :
    el.state d'.tag = el.state (d.tag.startCommand.commandSwitch cfg d.ecpNetBuf.data) := by
  have hprepare : ∀ t : EslTag, el.state (t.prepareResponse cfg) = el.state t := by
    intro t
    rw [prepareResponse]
    cases el with
    | led | display => split <;> rfl
  obtain ⟨-, rfl⟩ := TagDevice.step_ecpWork_eq_some.mp h
  rw [TagDevice.ecpCommandHandler_frame d (fun t => el.state t) (fun t => hprepare t) env,
    hsw.executeCommand]

/-- **A timed command that passes its checks does to its element what is ordered.** -/
lemma state_of_orders (horder : d.Orders cfg el absTime)
    (h : d.step cfg ead (.ecpWork env) = some d') :
    el.state d'.tag = el.ordered d.tag absTime := by
  cases el with
  | led i =>
      obtain ⟨⟨hsw, hop⟩, hidx, hi, rfl⟩ := horder
      rw [state_of_reachesSwitch hsw h, commandSwitch, EslOpCode.ofByte?_eq_some.mpr hop]
      exact state_opLedTimedControl d.tag.startCommand hidx hi
  | display i =>
      obtain ⟨⟨hsw, hop⟩, hidx, himg, rfl⟩ := horder
      rw [state_of_reachesSwitch hsw h, commandSwitch, EslOpCode.ofByte?_eq_some.mpr hop]
      exact state_opDisplayTimedImage d.tag.startCommand hidx himg

lemma stateRsp_ne_err (el : TimedElement) : el.stateRsp ≠ .err := by
  cases el with
  | led | display => rintro ⟨⟩

/-- **Which timed commands become pending.** -/
lemma becomesPending_iff_ordered (horder : d.Orders cfg el absTime)
    (h : d.step cfg ead (.ecpWork env) = some d') :
    BecomesPending el absTime d' ↔ absTime ≠ 0 ∧ Plausible absTime d.tag.absTime
      ∧ (el.startAbsTime d.tag = 0 ∨ el.startAbsTime d.tag = absTime) := by
  have hstate := state_of_orders horder h
  rw [plausible_iff]
  constructor
  · intro hp
    have hacc : (el.ordered d.tag absTime).1 = el.stateRsp := by
      rw [← hstate]
      exact hp.accepted
    rw [TimedElement.ordered, if_neg hp.ne_zero] at hacc
    split_ifs at hacc with hlate hfree
    · exact absurd hacc.symm (stateRsp_ne_err el)
    · exact ⟨hp.ne_zero, not_le.mp hlate, hfree⟩
    · exact absurd hacc.symm (stateRsp_ne_err el)
  · rintro ⟨hne, hsoon, hfree⟩
    rw [TimedElement.ordered, if_neg hne, if_neg (not_le.mpr hsoon), if_pos hfree] at hstate
    exact ⟨congrArg Prod.fst hstate, hne, congrArg (·.2.1) hstate⟩

/-- The work of a command that becomes pending is delayed by the offset. -/
lemma BecomesPending.work_eq (hp : BecomesPending el absTime d') (horder : d.Orders cfg el absTime)
    (h : d.step cfg ead (.ecpWork env) = some d') :
    el.work d'.tag = some (d.tag.uptime + (absTime - d.tag.absTime).toNat) := by
  obtain ⟨hne, hsoon, hfree⟩ := (becomesPending_iff_ordered horder h).mp hp
  have hstate := state_of_orders horder h
  rw [TimedElement.ordered, if_neg hne, if_neg (not_le.mpr (plausible_iff.mp hsoon)),
    if_pos hfree] at hstate
  exact congrArg (·.2.2) hstate

/-! ## The worker -/

/-- The element waits for an uptime at which the clock shows its time. -/
structure WaitsUntil (el : TimedElement) (absTime : UInt32) (due : ℕ) (d : TagDevice) : Prop where
  scheduled : el.work d.tag = some due
  clock : d.tag.absTimeAt due = absTime

/-- The worker of an element with a schedule runs as soon as that is due. -/
lemma step_worker_iff {due : ℕ} (hwork : el.work d.tag = some due) :
    (∃ d₁, d.step cfg ead el.worker = some d₁) ↔ due ≤ d.tag.uptime := by
  have hdue : (el.work d.tag).Due d.tag.uptime ↔ due ≤ d.tag.uptime := by
    rw [hwork]
    constructor
    · rintro ⟨_, ⟨⟩, h⟩
      exact h
    · exact fun h => ⟨due, rfl, h⟩
  rw [← hdue]
  cases el with
  | led i | display i =>
      simp only [TimedElement.worker, TagDevice.step]
      split_ifs with hd
      · exact iff_of_true ⟨_, rfl⟩ hd
      · exact iff_of_false (by rintro ⟨_, ⟨⟩⟩) hd

lemma waitsUntil_of_step (hi : el.InRange cfg) {due : ℕ} (hw : WaitsUntil el absTime due d)
    (hg : LeavesAlone cfg el d e) (h : d.step cfg ead e = some d') :
    WaitsUntil el absTime due d' := by
  have hwrite : ∀ w, e ≠ .absTimeWrite w := by
    rintro w rfl
    cases hg.2
  have hboot : ∀ p, e ≠ .reboot p := by
    rintro p rfl
    cases el with
    | led | display => cases hg.1
  have hclock : d'.tag.absTimeAt due = d.tag.absTimeAt due := by
    rw [absTimeAt, absTimeAt, TagDevice.absTimeAnchor_step h hwrite hboot]
  refine ⟨?_, hclock.trans hw.clock⟩
  rw [← hw.scheduled]
  cases el with
  | led i =>
      have hled := TagDevice.led_step hi h
      rw [show d.ledOp? cfg i e = none from hg.1] at hled
      exact congrArg (fun l : Led => l.dwork.work) hled
  | display i =>
      have hdisplay := TagDevice.displayWorks_step hi h
      rw [show d.displayOp? cfg i e = none from hg.1] at hdisplay
      exact congrArg DisplayDwork.work hdisplay

/-- An element that waits for the time of its clock is on time. -/
lemma WaitsUntil.onTime {due : ℕ} (hw : WaitsUntil el absTime due d) :
    OnTime cfg ead el absTime d where
  runs := by
    refine ⟨due, hw.scheduled, fun hle => ?_⟩
    have huptime : d.tag.uptime + (due - d.tag.uptime) = due := Nat.add_sub_cancel' hle
    let d₁ := d.onTag fun t => { t with uptime := t.uptime + (due - d.tag.uptime) }
    have hwork : el.work d₁.tag = some due := hw.scheduled
    obtain ⟨d₂, hd₂⟩ : ∃ d₂, d₁.step cfg ead el.worker = some d₂ :=
      (step_worker_iff hwork).mpr huptime.ge
    refine ⟨d₁, d₂, rfl, ?_, hd₂⟩
    show UInt32.ofNat (d.tag.uptime + (due - d.tag.uptime)) - d.tag.assoc.absTimeAnchor = absTime
    rw [huptime]
    exact hw.clock
  exact := by
    intro d₁ _ hnow
    have hdue : due = d.tag.uptime := Option.some.inj (hw.scheduled.symm.trans hnow)
    have hclock := hw.clock
    rw [hdue] at hclock
    exact hclock

lemma preserves_waitsUntil (hi : el.InRange cfg) (due : ℕ) :
    PreservedUnder (TagDevice.step cfg ead) (LeavesAlone cfg el) (WaitsUntil el absTime due) :=
  fun _ _ _ hw hg h => waitsUntil_of_step hi hw hg h

/-- The command becomes pending for the uptime at which the clock shows its time. -/
lemma BecomesPending.waitsUntil (hp : BecomesPending el absTime d')
    (horder : d.Orders cfg el absTime) (h : d.step cfg ead (.ecpWork env) = some d') :
    WaitsUntil el absTime (d.tag.uptime + (absTime - d.tag.absTime).toNat) d' where
  scheduled := hp.work_eq horder h
  clock := by
    have hanchor := TagDevice.absTimeAnchor_step h (by rintro _ ⟨⟩) (by rintro _ ⟨⟩)
    rw [absTimeAt, hanchor]
    exact absTimeAt_due d.tag absTime

lemma inRange_of_orders (horder : d.Orders cfg el absTime) : el.InRange cfg := by
  cases el with
  | led i => exact horder.2.2.1
  | display i =>
      obtain ⟨-, rfl, himg, -⟩ := horder
      exact displayMax_of_displayImageError d.tag himg

end Step

/-- **Timed scheduling.**  A timed command that passes its checks becomes pending exactly when its
time is set and plausible and the element is free or waits for the same time; its work is then
delayed by the offset, and along every run that leaves the element and the absolute time alone the
worker runs when the clock shows that time. -/
theorem timedScheduled {cfg : Config} {ead : Ead} {el : TimedElement} {absTime : UInt32}
    {d d' : TagDevice} {env : HandlerEnv} (horder : d.Orders cfg el absTime)
    (h : d.step cfg ead (.ecpWork env) = some d') :
    (BecomesPending el absTime d' ↔ absTime ≠ 0 ∧ Plausible absTime d.tag.absTime
        ∧ (el.startAbsTime d.tag = 0 ∨ el.startAbsTime d.tag = absTime))
      ∧ (BecomesPending el absTime d' →
        el.work d'.tag = some (d.tag.uptime + (absTime - d.tag.absTime).toNat)
          ∧ ∀ es, StepsMeet (TagDevice.step cfg ead) (LeavesAlone cfg el) d' es →
            AlongRun (TagDevice.step cfg ead) (OnTime cfg ead el absTime) d' es) := by
  refine ⟨becomesPending_iff_ordered horder h, fun hp => ⟨hp.work_eq horder h, ?_⟩⟩
  intro es hes
  have hwaits := alongRun_of_stepsMeet (preserves_waitsUntil (inRange_of_orders horder) _)
    (hp.waitsUntil horder h) hes
  exact hwaits.imp fun _ hw => hw.onTime

/-- LED Timed Control for LED 0 and the time 995, five milliseconds before uptime and clock wrap. -/
def wrapOrdered : TagDevice :=
  { TagDevice.boot .sample {} with
    tag.uptime := 2 ^ 32 - 5
    ecpNetBuf := .ofBytes
      [0xF0, 0xFF, 0, 0x3F, 0xFF, 0, 0, 0, 0, 50, 50, 0x05, 0, 0xE3, 0x03, 0, 0] fun _ => 0
    ecpWorkPending := true }

/-- It becomes pending. -/
theorem timedScheduled_wrap :
    ∃ d', wrapOrdered.step .sample .clear (.ecpWork {}) = some d'
      ∧ AlongRun (TagDevice.step .sample .clear) (OnTime .sample .clear (.led 0) 995) d'
        [.tick 300, .syncCb, .tick 690] := by
  have hstep : (wrapOrdered.step .sample .clear (.ecpWork {})).isSome := by decide +kernel
  obtain ⟨d', hd'⟩ := Option.isSome_iff_exists.mp hstep
  have horder : wrapOrdered.Orders .sample (.led 0) 995 := by decide +kernel
  have hes : ∀ d ∈ wrapOrdered.step .sample .clear (.ecpWork {}),
      StepsMeet (TagDevice.step .sample .clear) (LeavesAlone .sample (.led 0)) d
        [.tick 300, .syncCb, .tick 690] := by decide +kernel
  obtain ⟨hiff, hruns⟩ := timedScheduled horder hd'
  exact ⟨d', hd', (hruns (hiff.mpr (by decide +kernel))).2 _ (hes d' hd')⟩

end NrfEsl
