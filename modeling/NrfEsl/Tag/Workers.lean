import Mathlib.Data.Nat.Log
import NrfEsl.Tag.Command

/-!
# Delayed works of the tag

What runs on the LED, display and system work queues when a delayed item falls due: LED flashing
(`led_delay_worker_fn`), a display update (`display_delay_worker_fn`) and advertising
(`esl_advertising_fn`).  A worker takes its item off the schedule first, as the queue does, and
may schedule it again.

**Flashing.**  The five pattern bytes form a 40-bit number.  A pass starts at its most significant
set bit and walks down to bit 0, one bit a run.  `patternStart` is `63 - __builtin_clzll(pattern)`,
which C leaves undefined for a zero pattern; `Nat.log2` gives 0 there.
-/

namespace NrfEsl

/-- The flashing pattern as the worker reads it: `flash_pattern[1..4]` above `flash_pattern[0]`. -/
def LedObj.pattern (o : LedObj) : ℕ :=
  (o.flashPattern.get 0).toNat + (o.flashPattern.get 1).toNat * 2 ^ 8
    + (o.flashPattern.get 2).toNat * 2 ^ 16 + (o.flashPattern.get 3).toNat * 2 ^ 24
    + (o.flashPattern.get 4).toNat * 2 ^ 32

/-- `63 - __builtin_clzll(pattern)`, which C does not define for pattern 0; here it is 0 then. -/
def LedObj.patternStart (o : LedObj) : UInt8 := UInt8.ofNat o.pattern.log2

namespace EslTag

variable (cfg : Config)

/-- Call `led_control` with the stored colour. -/
def ledOnOff (idx : ℕ) (onoff : Bool) (t : EslTag) : EslTag :=
  t.emit (.ledControl idx (t.elems.ledObjs idx).colorBrightness onoff)

/-- A repeat duration of zero: continuously on or off. -/
def ledContinuous (idx : ℕ) (t : EslTag) : EslTag :=
  let on := (t.elems.ledObjs idx).repeatType == 1
  (t.ledOnOff idx on).updateLed idx fun w => { w with active := on }

/-- First run of a flashing command: fix the stop time, if it repeats by time. -/
def ledEnable (idx : ℕ) (t : EslTag) : EslTag :=
  let o := t.elems.ledObjs idx
  if (t.elems.ledDworks idx).workEnable then t
  else t.updateLed idx fun w =>
    { w with
      stopAbsTime := if o.repeatType = 1 then
        t.absTime + UInt32.ofNat (o.repeatDuration.toNat * msecPerSec) else 0
      workEnable := true
      active := true }

/-- Stop a command that repeats by time once its time is over. -/
def ledStopByTime (idx : ℕ) (t : EslTag) : EslTag :=
  let stop := (t.elems.ledDworks idx).stopAbsTime
  if stop ≠ 0 ∧ stop < t.absTime then
    (t.ledOnOff idx false).updateLed idx fun w => { w with workEnable := false, active := false }
  else t

/-- Show the current bit and move to the next one. -/
def ledShowBit (idx : ℕ) (t : EslTag) : EslTag :=
  let o := t.elems.ledObjs idx
  let bit := o.pattern.testBit (t.elems.ledDworks idx).patternIdx.toNat
  let period := if bit then o.bitOnPeriod else o.bitOffPeriod
  let t := (t.ledOnOff idx bit).scheduleLed idx (period.toNat * 2)
  t.updateLed idx fun w =>
    { w with patternIdx := if w.patternIdx ≠ 0 then w.patternIdx - 1 else w.patternIdx }

/-- `led_delay_worker_fn` -/
def ledDelayWorkerFn (idx : ℕ) (t : EslTag) : EslTag :=
  if cfg.ledMax ≤ idx then t
  else
    let t := t.updateLed idx fun w => { w with work := none, startAbsTime := 0 }
    let o := t.elems.ledObjs idx
    if o.repeatDuration = 0 then t.ledContinuous idx
    else
      let t := (t.ledEnable idx).ledStopByTime idx
      let w := t.elems.ledDworks idx
      if w.patternIdx = 0 then
        -- end of a pass
        let t := t.updateLed idx fun w =>
          { w with repeatCounts := w.repeatCounts + 1, patternIdx := o.patternStart }
        if o.repeatDuration ≤ (t.elems.ledDworks idx).repeatCounts.toUInt16 then
          (t.ledOnOff idx false).updateLed idx fun w =>
            { w with workEnable := false, active := false }
        else if (t.elems.ledDworks idx).workEnable then t.ledShowBit idx
        else t
      else
        let t := if w.patternIdx = eslLedFlashPatternStartBitIdx then
          t.updateLed idx fun w => { w with patternIdx := o.patternStart } else t
        if (t.elems.ledDworks idx).workEnable then t.ledShowBit idx else t

/-- `display_delay_worker_fn` -/
def displayDelayWorkerFn (idx : ℕ) (t : EslTag) : EslTag :=
  if cfg.displayMax ≤ idx then t
  else
    let t := t.updateDisplay idx fun w => { w with work := none, active := true, startAbsTime := 0 }
    if cfg.hasDisplayControl then t.emit (.displayControl idx (t.elems.displayWorks idx).imgIdx)
    else t

/-- The flashing of the indication LED: pattern byte, periods, repeat type and duration. -/
def indicateLed (patternByte bitOffPeriod bitOnPeriod repeatType : UInt8)
    (repeatDuration : UInt16) (t : EslTag) : EslTag :=
  let idx := cfg.indicationLedIdx
  let o : LedObj :=
    { colorBrightness := 0
      flashPattern := (t.elems.ledObjs idx).flashPattern.set 0 patternByte (by decide)
      bitOffPeriod := bitOffPeriod
      bitOnPeriod := bitOnPeriod
      repeatType := repeatType
      repeatDuration := repeatDuration }
  let t := { t with elems.ledObjs := Function.update t.elems.ledObjs idx o }
  (t.updateLed idx fun w => { w with patternIdx := eslLedFlashPatternStartBitIdx }).scheduleLed idx 0

/-- `esl_advertising_fn`; the service only uses the demo mode. -/
def eslAdvertisingFn (t : EslTag) : EslTag :=
  let t := { t with assoc.advWork := none }
  let t := if cfg.ledIndication then t.indicateLed cfg 0x5a 0xff 100 1 7200 else t
  t.emit .advStart

/-! ## The workers leave the association alone -/

section Frame

variable {cfg} (t : EslTag) (idx : ℕ)

@[simp] lemma assoc_ledOnOff (onoff : Bool) : (t.ledOnOff idx onoff).assoc = t.assoc := rfl

@[simp] lemma assoc_ledContinuous : (t.ledContinuous idx).assoc = t.assoc := rfl

@[simp] lemma assoc_ledEnable : (t.ledEnable idx).assoc = t.assoc := by
  simp only [ledEnable]
  split <;> rfl

@[simp] lemma assoc_ledStopByTime : (t.ledStopByTime idx).assoc = t.assoc := by
  simp only [ledStopByTime]
  split <;> rfl

@[simp] lemma assoc_ledShowBit : (t.ledShowBit idx).assoc = t.assoc := rfl

@[simp] lemma assoc_ledDelayWorkerFn : (t.ledDelayWorkerFn cfg idx).assoc = t.assoc := by
  simp only [ledDelayWorkerFn]
  split_ifs <;> simp

@[simp] lemma assoc_displayDelayWorkerFn :
    (t.displayDelayWorkerFn cfg idx).assoc = t.assoc := by
  simp only [displayDelayWorkerFn]
  split_ifs <;> rfl

/-! The Basic State bits change when a command or a response updates them, not here. -/

@[simp] lemma basicState_ledOnOff (onoff : Bool) :
    (t.ledOnOff idx onoff).basicState = t.basicState := rfl

@[simp] lemma basicState_ledContinuous : (t.ledContinuous idx).basicState = t.basicState := rfl

@[simp] lemma basicState_ledEnable : (t.ledEnable idx).basicState = t.basicState := by
  simp only [ledEnable]
  split <;> rfl

@[simp] lemma basicState_ledStopByTime : (t.ledStopByTime idx).basicState = t.basicState := by
  simp only [ledStopByTime]
  split <;> rfl

@[simp] lemma basicState_ledShowBit : (t.ledShowBit idx).basicState = t.basicState := rfl

@[simp] lemma basicState_ledDelayWorkerFn :
    (t.ledDelayWorkerFn cfg idx).basicState = t.basicState := by
  simp only [ledDelayWorkerFn]
  split_ifs <;> simp

@[simp] lemma basicState_displayDelayWorkerFn :
    (t.displayDelayWorkerFn cfg idx).basicState = t.basicState := by
  simp only [displayDelayWorkerFn]
  split_ifs <;> rfl

end Frame

end EslTag

end NrfEsl
