import NrfEsl.Tag.Led

/-!
# The playback of an LED

`led_delay_worker_fn` is a loop cut into runs: each run shows one bit of the flashing pattern and
schedules the next.  `LedDwork.run` is one run as a function of the delayed work alone, the clock and
the uptime, with the calls of `led_control` it makes (`ranTo_ledDelayWorkerFn`), and `EslTag.ledPlay` is
the whole playback: run `k` happens at uptime `now k`, as long as the work is scheduled.

**The loop.**  `passLength` runs make a pass.  `Playing` is the invariant before run `k` of a
playback: where the bit index stands, how many passes were counted, and the stop time.
`Starts.runDoes` and `Playing.runDoes` say what run `k` does, in terms of `k` only (`RunDoes`);
`play_goesOn` and `play_ended` take this to any number of runs.  An LED Timed Control starts with no pass counted, an LED Control with one.
-/

namespace NrfEsl

namespace LedDwork

/-- The worker does not show anything any more. -/
def disable (w : LedDwork) : LedDwork := { w with workEnable := false, active := false }

/-- The first run of a flashing command: `EslTag.ledEnable`. -/
def enable (o : LedObj) (clock : UInt32) (w : LedDwork) : LedDwork :=
  if w.workEnable then w
  else
    { w with
      stopAbsTime := if o.repeatType = 1 then
        clock + UInt32.ofNat (o.repeatDuration.toNat * msecPerSec) else 0
      workEnable := true
      active := true }

/-- The time to stop is over. -/
def Over (w : LedDwork) (clock : UInt32) : Prop := w.stopAbsTime ≠ 0 ∧ w.stopAbsTime < clock

instance (w : LedDwork) (clock : UInt32) : Decidable (w.Over clock) :=
  inferInstanceAs (Decidable (_ ∧ _))

/-- The bit at the index. -/
def bit (o : LedObj) (w : LedDwork) : Bool := o.pattern.testBit w.patternIdx.toNat

/-- The time a bit is shown, in milliseconds. -/
def delay (o : LedObj) (b : Bool) : ℕ := (if b then o.bitOnPeriod else o.bitOffPeriod).toNat * 2

/-- The next run is scheduled, for the next bit. -/
def advance (o : LedObj) (now : ℕ) (w : LedDwork) : LedDwork :=
  { w with
    work := w.work.schedule now (delay o (w.bit o))
    patternIdx := if w.patternIdx ≠ 0 then w.patternIdx - 1 else w.patternIdx }

/-- The last lines of the worker: the bit is shown, unless the command was stopped. -/
def showBit (o : LedObj) (now : ℕ) (calls : List Bool) (w : LedDwork) : LedDwork × List Bool :=
  if w.workEnable then (w.advance o now, calls ++ [w.bit o]) else (w, calls)

/-- The worker from its look at the bit index on. -/
def flash (o : LedObj) (now : ℕ) (calls : List Bool) (w : LedDwork) : LedDwork × List Bool :=
  if w.patternIdx = 0 then
    let w := { w with repeatCounts := w.repeatCounts + 1, patternIdx := o.patternStart }
    if o.repeatDuration ≤ w.repeatCounts.toUInt16 then (w.disable, calls ++ [false])
    else w.showBit o now calls
  else if w.patternIdx = eslLedFlashPatternStartBitIdx then
    { w with patternIdx := o.patternStart }.showBit o now calls
  else w.showBit o now calls

/-- A run of the worker at a time: the delayed work after it, and the calls of `led_control`. -/
def run (o : LedObj) (clock : UInt32) (now : ℕ) (w : LedDwork) : LedDwork × List Bool :=
  let w := { w with work := none, startAbsTime := 0 }
  if o.repeatDuration = 0 then ({ w with active := o.repeatType == 1 }, [o.repeatType == 1])
  else
    let w := w.enable o clock
    if w.Over clock then w.disable.flash o now [false] else w.flash o now []

end LedDwork

namespace EslTag

section Run

variable {cfg : Config} (t : EslTag) {i : ℕ}

/-- What the worker leaves of a tag, apart from other LEDs. -/
structure RanTo (i : ℕ) (t : EslTag) (w : LedDwork) (calls : List Bool) (t' : EslTag) : Prop where
  led : t'.led i = ⟨w, t.elems.ledObjs i⟩
  out : t'.out = t.out ++ calls.map (.ledControl i (t.elems.ledObjs i).colorBrightness)
  assoc : t'.assoc = t.assoc
  uptime : t'.uptime = t.uptime

variable {t}

lemma RanTo.refl : RanTo i t (t.elems.ledDworks i) [] t :=
  ⟨rfl, by simp, rfl, rfl⟩

lemma RanTo.dwork {w : LedDwork} {calls : List Bool} {t' : EslTag} (h : RanTo i t w calls t') :
    t'.elems.ledDworks i = w := congrArg Led.dwork h.led

lemma RanTo.obj {w : LedDwork} {calls : List Bool} {t' : EslTag} (h : RanTo i t w calls t') :
    t'.elems.ledObjs i = t.elems.ledObjs i := congrArg Led.obj h.led

/-- A change of the delayed work. -/
lemma RanTo.update {w : LedDwork} {calls : List Bool} {t' : EslTag} (h : RanTo i t w calls t')
    (f : LedDwork → LedDwork) : RanTo i t (f w) calls (t'.updateLed i f) where
  led := by rw [led_updateLed, if_pos rfl, h.led]
  out := h.out
  assoc := h.assoc
  uptime := h.uptime

/-- A call of `led_control`. -/
lemma RanTo.onOff {w : LedDwork} {calls : List Bool} {t' : EslTag} (h : RanTo i t w calls t')
    (b : Bool) : RanTo i t w (calls ++ [b]) (t'.ledOnOff i b) where
  led := h.led
  out := by
    simp only [ledOnOff, emit, h.out, h.obj, List.map_append, List.map_cons, List.map_nil,
      List.append_assoc]
  assoc := h.assoc
  uptime := h.uptime

lemma RanTo.enable {w : LedDwork} {calls : List Bool} {t' : EslTag} (h : RanTo i t w calls t') :
    RanTo i t (w.enable (t.elems.ledObjs i) t.absTime) calls (t'.ledEnable i) := by
  have hclock : t'.absTime = t.absTime := by rw [absTime, h.assoc, h.uptime, absTime]
  simp only [ledEnable, LedDwork.enable, h.dwork, h.obj, hclock]
  by_cases hen : w.workEnable = true
  · simp only [if_pos hen]
    exact h
  · simp only [if_neg hen]
    exact h.update fun w => { w with
      stopAbsTime := if (t.elems.ledObjs i).repeatType = 1 then
        t.absTime + UInt32.ofNat ((t.elems.ledObjs i).repeatDuration.toNat * msecPerSec) else 0
      workEnable := true
      active := true }

lemma RanTo.stopByTime {w : LedDwork} {calls : List Bool} {t' : EslTag} (h : RanTo i t w calls t') :
    if w.Over t.absTime then RanTo i t w.disable (calls ++ [false]) (t'.ledStopByTime i)
    else RanTo i t w calls (t'.ledStopByTime i) := by
  have hclock : t'.absTime = t.absTime := by rw [absTime, h.assoc, h.uptime, absTime]
  simp only [ledStopByTime, h.dwork, hclock]
  by_cases hover : w.Over t.absTime
  · have hstop : w.stopAbsTime ≠ 0 ∧ w.stopAbsTime < t.absTime := hover
    rw [if_pos hover, if_pos hstop]
    exact (h.onOff false).update LedDwork.disable
  · have hstop : ¬ (w.stopAbsTime ≠ 0 ∧ w.stopAbsTime < t.absTime) := hover
    rw [if_neg hover, if_neg hstop]
    exact h

lemma RanTo.showBit {w : LedDwork} {calls : List Bool} {t' : EslTag} (h : RanTo i t w calls t') :
    RanTo i t (w.advance (t.elems.ledObjs i) t.uptime)
      (calls ++ [w.bit (t.elems.ledObjs i)]) (t'.ledShowBit i) := by
  have hshown := h.onOff (w.bit (t.elems.ledObjs i))
  simp only [ledShowBit, scheduleLed, h.dwork, h.obj]
  have hscheduled := (hshown.update fun v => { v with
    work := v.work.schedule t.uptime (LedDwork.delay (t.elems.ledObjs i) (w.bit (t.elems.ledObjs i))) })
  have hmoved := hscheduled.update fun v => { v with
    patternIdx := if v.patternIdx ≠ 0 then v.patternIdx - 1 else v.patternIdx }
  rw [← h.uptime] at hmoved ⊢
  exact hmoved

/-- The last lines of the worker. -/
lemma RanTo.showIfEnabled {w : LedDwork} {calls : List Bool} {t' : EslTag}
    (h : RanTo i t w calls t') :
    let r := w.showBit (t.elems.ledObjs i) t.uptime calls
    RanTo i t r.1 r.2 (if (t'.elems.ledDworks i).workEnable then t'.ledShowBit i else t') := by
  simp only [h.dwork, LedDwork.showBit]
  split
  · exact h.showBit
  · exact h

/-- The worker from its look at the bit index on. -/
lemma RanTo.flash {w : LedDwork} {calls : List Bool} {t' : EslTag} (h : RanTo i t w calls t') :
    let o := t.elems.ledObjs i
    let r := w.flash o t.uptime calls
    RanTo i t r.1 r.2
      (if (t'.elems.ledDworks i).patternIdx = 0 then
        let t' := t'.updateLed i fun w =>
          { w with repeatCounts := w.repeatCounts + 1, patternIdx := o.patternStart }
        if o.repeatDuration ≤ (t'.elems.ledDworks i).repeatCounts.toUInt16 then
          (t'.ledOnOff i false).updateLed i fun w => { w with workEnable := false, active := false }
        else if (t'.elems.ledDworks i).workEnable then t'.ledShowBit i else t'
      else
        let t' := if (t'.elems.ledDworks i).patternIdx = eslLedFlashPatternStartBitIdx then
          t'.updateLed i fun w => { w with patternIdx := o.patternStart } else t'
        if (t'.elems.ledDworks i).workEnable then t'.ledShowBit i else t') := by
  simp only [h.dwork, LedDwork.flash]
  split
  · have hpass := h.update fun w =>
      { w with repeatCounts := w.repeatCounts + 1
               patternIdx := (t.elems.ledObjs i).patternStart }
    rw [hpass.dwork]
    split
    · exact (hpass.onOff false).update LedDwork.disable
    · have hshown := hpass.showIfEnabled
      rw [hpass.dwork] at hshown
      exact hshown
  · split
    · have hfirst := h.update fun w => { w with patternIdx := (t.elems.ledObjs i).patternStart }
      exact hfirst.showIfEnabled
    · exact h.showIfEnabled

/-- **The worker is `LedDwork.run`.** -/
theorem ranTo_ledDelayWorkerFn (hi : i < cfg.ledMax) :
    let r := (t.elems.ledDworks i).run (t.elems.ledObjs i) t.absTime t.uptime
    RanTo i t r.1 r.2 (t.ledDelayWorkerFn cfg i) := by
  have hstart := (RanTo.refl (i := i) (t := t)).update fun w =>
    { w with work := none, startAbsTime := 0 }
  simp only [ledDelayWorkerFn, if_neg (Nat.not_le.mpr hi), LedDwork.run, hstart.obj]
  by_cases hzero : (t.elems.ledObjs i).repeatDuration = 0
  · rw [if_pos hzero, if_pos hzero]
    have hon := hstart.onOff ((t.elems.ledObjs i).repeatType == 1)
    simp only [ledContinuous, hstart.obj]
    exact hon.update fun w => { w with active := (t.elems.ledObjs i).repeatType == 1 }
  · rw [if_neg hzero, if_neg hzero]
    have hstop := hstart.enable.stopByTime
    split
    · rename_i hover
      rw [if_pos hover] at hstop
      exact hstop.flash
    · rename_i hover
      rw [if_neg hover] at hstop
      exact hstop.flash

end Run

end EslTag

/-! ## Passes over the pattern -/

namespace LedObj

variable (o : LedObj)

/-- The most significant set bit of the pattern. -/
def top : ℕ := o.pattern.log2

/-- The runs of a pass: bit 0 is left out, unless it is the only one. -/
def passLength : ℕ := max o.top 1

/-- The bit that run `k` of a playback shows. -/
def bitOfRun (k : ℕ) : Bool := o.pattern.testBit (o.top - k % o.passLength)

lemma pattern_lt : o.pattern < 2 ^ 40 := by
  have h := fun i => (o.flashPattern.get i).toNat_lt
  have h0 := h 0
  have h1 := h 1
  have h2 := h 2
  have h3 := h 3
  have h4 := h 4
  rw [pattern]
  omega

lemma top_lt : o.top < 40 := by
  by_cases hzero : o.pattern = 0
  · rw [top, hzero, Nat.log2_zero]
    decide
  · exact (Nat.log2_lt hzero).mpr o.pattern_lt

lemma passLength_pos : 0 < o.passLength := Nat.lt_of_lt_of_le Nat.one_pos (Nat.le_max_right _ _)

end LedObj

/-- Counting on in steps of `n`. -/
lemma add_one_mod_eq {n : ℕ} (hn : 0 < n) (k : ℕ) :
    (k + 1) % n = if k % n + 1 = n then 0 else k % n + 1 := by
  have hlt := Nat.mod_lt k hn
  rw [← Nat.mod_add_mod]
  split
  · rename_i h
    rw [h, Nat.mod_self]
  · exact Nat.mod_eq_of_lt (by omega)

namespace LedDwork

variable (o : LedObj) (counted : ℕ)

/-- Run `k` ends the last pass; `counted` passes were counted before the first run.  The counter has
eight bits. -/
def LastPass (k : ℕ) : Prop :=
  o.passLength ∣ k ∧ o.repeatDuration.toNat ≤ (k / o.passLength + counted) % 256

instance (k : ℕ) : Decidable (LastPass o counted k) := inferInstanceAs (Decidable (_ ∧ _))

/-- Where the bit index and the counter stand before run `k`.  The first run of an LED Timed Control
finds the start marker, the one of an LED Control finds 0, as at the end of a pass. -/
structure Before (k : ℕ) (w : LedDwork) : Prop where
  patternIdx : w.patternIdx =
    if k = 0 then if counted = 0 then eslLedFlashPatternStartBitIdx else 0
    else if o.passLength ∣ k then 0 else UInt8.ofNat (o.top - k % o.passLength)
  repeatCounts : w.repeatCounts =
    if k = 0 then 0 else UInt8.ofNat ((k - 1) / o.passLength + counted)

variable {o} {counted} {k : ℕ} {w : LedDwork}

/-- The state in which run `k` shows its bit. -/
def shown (o : LedObj) (counted k : ℕ) (w : LedDwork) : LedDwork :=
  { w with
    patternIdx := UInt8.ofNat (o.top - k % o.passLength)
    repeatCounts := UInt8.ofNat (k / o.passLength + counted) }

/-- The index of a bit inside a pass is neither of the markers. -/
lemma patternIdx_inside (hk : ¬ o.passLength ∣ k) :
    UInt8.ofNat (o.top - k % o.passLength) ≠ 0
      ∧ UInt8.ofNat (o.top - k % o.passLength) ≠ eslLedFlashPatternStartBitIdx := by
  have hmod : k % o.passLength ≠ 0 := fun h => hk (Nat.dvd_of_mod_eq_zero h)
  have hlt := Nat.mod_lt k o.passLength_pos
  have htop := o.top_lt
  rw [LedObj.passLength] at hmod hlt ⊢
  have hnat : (UInt8.ofNat (o.top - k % max o.top 1)).toNat = o.top - k % max o.top 1 := by
    rw [UInt8.toNat_ofNat']
    exact Nat.mod_eq_of_lt (by omega)
  constructor
  · intro h
    have := congrArg UInt8.toNat h
    rw [hnat, UInt8.toNat_zero] at this
    omega
  · intro h
    have h40 : (UInt8.ofNat (o.top - k % max o.top 1)).toNat = 40 := congrArg UInt8.toNat h
    omega

/-- **The look at the bit index in run `k`**: the last pass ends the playback. -/
lemma flash_before (hzero : o.repeatDuration ≠ 0) (hcounted : counted ≤ 1)
    (hw : Before o counted k w) (now : ℕ) (calls : List Bool) :
    w.flash o now calls = if LastPass o counted k then
        ((shown o counted k w).disable, calls ++ [false])
      else (shown o counted k w).showBit o now calls := by
  have hpos : o.repeatDuration.toNat ≠ 0 := fun h => hzero (UInt16.toNat_inj.mp h)
  have hcount : ∀ n : ℕ, (UInt8.ofNat n).toUInt16.toNat = n % 256 := fun n => UInt8.toNat_ofNat'
  -- A run that ends a pass: it finds the index 0 and counts the pass.
  have hpass : w.patternIdx = 0 → o.passLength ∣ k →
      w.repeatCounts + 1 = UInt8.ofNat (k / o.passLength + counted) →
      w.flash o now calls = if LastPass o counted k then
        ((shown o counted k w).disable, calls ++ [false])
      else (shown o counted k w).showBit o now calls := by
    intro hidx hdvd hcounts
    have hshown : { w with repeatCounts := w.repeatCounts + 1, patternIdx := o.patternStart }
        = shown o counted k w := by
      rw [shown, Nat.mod_eq_zero_of_dvd hdvd, Nat.sub_zero, hcounts]
      rfl
    simp only [flash, if_pos hidx, hshown]
    have hlast : o.repeatDuration ≤ (w.repeatCounts + 1).toUInt16 ↔ LastPass o counted k := by
      rw [LastPass, and_iff_right hdvd, UInt16.le_iff_toNat_le, hcounts, hcount]
    simp only [hlast]
  by_cases hk : k = 0
  · subst hk
    have hidx := hw.patternIdx
    have hcounts := hw.repeatCounts
    rw [if_pos rfl] at hidx hcounts
    by_cases hfirst : counted = 0
    · subst hfirst
      rw [if_pos rfl] at hidx
      have hlast : ¬ LastPass o 0 0 := by
        rintro ⟨-, h⟩
        rw [Nat.zero_div] at h
        omega
      have hshown : { w with patternIdx := o.patternStart } = shown o 0 0 w := by
        rw [shown, Nat.zero_mod, Nat.zero_div, Nat.sub_zero]
        congr 1
      have hne : w.patternIdx ≠ 0 := by
        rw [hidx]
        decide
      simp only [flash, if_neg hne, if_pos hidx, hshown, if_neg hlast]
    · obtain rfl : counted = 1 := by omega
      rw [if_neg hfirst] at hidx
      refine hpass hidx (Nat.dvd_zero _) ?_
      rw [hcounts, Nat.zero_div]
      rfl
  · have hidx := hw.patternIdx
    have hcounts := hw.repeatCounts
    rw [if_neg hk] at hidx hcounts
    obtain ⟨j, rfl⟩ := Nat.exists_eq_succ_of_ne_zero hk
    by_cases hdvd : o.passLength ∣ j + 1
    · rw [if_pos hdvd] at hidx
      refine hpass hidx hdvd ?_
      rw [hcounts, Nat.succ_div_of_dvd hdvd, Nat.add_right_comm]
      exact (UInt8.ofNat_add _ 1).symm
    · rw [if_neg hdvd] at hidx
      obtain ⟨hne, hne40⟩ := patternIdx_inside hdvd
      rw [← hidx] at hne hne40
      have hlast : ¬ LastPass o counted (j + 1) := fun h => hdvd h.1
      have hshown : w = shown o counted (j + 1) w := by
        rw [shown, Nat.succ_div_of_not_dvd hdvd, ← hidx]
        show w = { w with repeatCounts := _ }
        rw [Nat.succ_sub_one] at hcounts
        rw [← hcounts]
      simp only [flash, if_neg hne, if_neg hne40, if_neg hlast, ← hshown]

/-! ## One run -/

/-- The command repeats by time, and its time is over. -/
def TimeOver (stop clock : UInt32) : Prop := stop ≠ 0 ∧ stop < clock

instance (stop clock : UInt32) : Decidable (TimeOver stop clock) :=
  inferInstanceAs (Decidable (_ ∧ _))

/-- The stop time that the first run sets. -/
def stopTime (o : LedObj) (clock : UInt32) : UInt32 :=
  if o.repeatType = 1 then clock + UInt32.ofNat (o.repeatDuration.toNat * msecPerSec) else 0

variable (o counted) in
/-- A command waits for its first run. -/
structure Starts (w : LedDwork) : Prop extends Before o counted 0 w where
  scheduled : w.work ≠ none
  disabled : w.workEnable = false

variable (o counted) in
/-- The LED is flashing, and run `k` is to come. -/
structure Playing (stop : UInt32) (k : ℕ) (w : LedDwork) : Prop extends Before o counted k w where
  scheduled : w.work ≠ none
  enabled : w.workEnable = true
  active : w.active = true
  stopAbsTime : w.stopAbsTime = stop

/-- The LED is inactive, and nothing is scheduled. -/
structure Ended (w : LedDwork) : Prop where
  work : w.work = none
  active : w.active = false

variable (o counted) in
/-- **What run `k` does**: the delayed work after it, and the calls of `led_control`. -/
structure RunDoes (stop clock : UInt32) (now k : ℕ) (r : LedDwork × List Bool) : Prop where
  goesOn : ¬ TimeOver stop clock → ¬ LastPass o counted k →
    Playing o counted stop (k + 1) r.1 ∧ r.1.work = some (now + delay o (o.bitOfRun k))
      ∧ r.2 = [o.bitOfRun k]
  lastPass : ¬ TimeOver stop clock → LastPass o counted k → Ended r.1 ∧ r.2 = [false]
  timeOver : TimeOver stop clock →
    Ended r.1 ∧ r.2 = if LastPass o counted k then [false, false] else [false]

lemma toNat_bitIndex (o : LedObj) (k : ℕ) :
    (UInt8.ofNat (o.top - k % o.passLength)).toNat = o.top - k % o.passLength := by
  have htop := o.top_lt
  rw [UInt8.toNat_ofNat']
  exact Nat.mod_eq_of_lt (by omega)

lemma bit_shown (o : LedObj) (counted k : ℕ) (w : LedDwork) :
    (shown o counted k w).bit o = o.bitOfRun k := by
  rw [bit, shown, toNat_bitIndex, LedObj.bitOfRun]

@[simp] lemma work_shown (o : LedObj) (counted k : ℕ) (w : LedDwork) :
    (shown o counted k w).work = w.work := by rw [shown]

@[simp] lemma workEnable_shown (o : LedObj) (counted k : ℕ) (w : LedDwork) :
    (shown o counted k w).workEnable = w.workEnable := by rw [shown]

@[simp] lemma active_shown (o : LedObj) (counted k : ℕ) (w : LedDwork) :
    (shown o counted k w).active = w.active := by rw [shown]

@[simp] lemma stopAbsTime_shown (o : LedObj) (counted k : ℕ) (w : LedDwork) :
    (shown o counted k w).stopAbsTime = w.stopAbsTime := by rw [shown]

@[simp] lemma workEnable_advance (w : LedDwork) (now : ℕ) :
    (w.advance o now).workEnable = w.workEnable := rfl

@[simp] lemma active_advance (w : LedDwork) (now : ℕ) :
    (w.advance o now).active = w.active := rfl

@[simp] lemma stopAbsTime_advance (w : LedDwork) (now : ℕ) :
    (w.advance o now).stopAbsTime = w.stopAbsTime := rfl

@[simp] lemma work_advance (w : LedDwork) (now : ℕ) :
    (w.advance o now).work = w.work.schedule now (delay o (w.bit o)) := rfl

@[simp] lemma work_disable (w : LedDwork) : w.disable.work = w.work := rfl

@[simp] lemma active_disable (w : LedDwork) : w.disable.active = false := rfl

lemma ended_disable_shown (hwork : w.work = none) : Ended (shown o counted k w).disable :=
  ⟨by rw [work_disable, work_shown, hwork], active_disable _⟩

/-- The index after run `k` is the one before run `k + 1`. -/
lemma before_advance_shown (o : LedObj) (counted k : ℕ) (w : LedDwork) (now : ℕ) :
    Before o counted (k + 1) ((shown o counted k w).advance o now) := by
  have hlt := Nat.mod_lt k o.passLength_pos
  have hL : o.passLength = max o.top 1 := rfl
  have hnext := add_one_mod_eq o.passLength_pos k
  refine ⟨?_, ?_⟩
  · have hidx : ((shown o counted k w).advance o now).patternIdx
        = if UInt8.ofNat (o.top - k % o.passLength) ≠ 0 then
            UInt8.ofNat (o.top - k % o.passLength) - 1
          else UInt8.ofNat (o.top - k % o.passLength) := by rw [advance, shown]
    rw [hidx, if_neg (Nat.succ_ne_zero k)]
    by_cases hend : k % o.passLength + 1 = o.passLength
    · -- The last bit of the pass: the index goes to 0, or is there already.
      rw [if_pos hend] at hnext
      rw [if_pos (Nat.dvd_of_mod_eq_zero hnext)]
      rcases Nat.eq_zero_or_pos o.top with hzero | hpos
      · rw [hzero, Nat.zero_sub]
        rfl
      · have hone : o.top - k % o.passLength = 1 := by omega
        rw [hone]
        rfl
    · rw [if_neg hend] at hnext
      have hndvd : ¬ o.passLength ∣ k + 1 := fun h => by
        have := Nat.mod_eq_zero_of_dvd h
        omega
      have hne : UInt8.ofNat (o.top - k % o.passLength) ≠ 0 := fun h => by
        have := congrArg UInt8.toNat h
        rw [toNat_bitIndex, UInt8.toNat_zero] at this
        omega
      have hsub : UInt8.ofNat (o.top - k % o.passLength - 1)
          = UInt8.ofNat (o.top - k % o.passLength) - 1 := UInt8.ofNat_sub (by omega)
      rw [if_neg hndvd, if_pos hne, hnext, ← Nat.sub_sub, hsub]
  · rw [if_neg (Nat.succ_ne_zero k), Nat.add_sub_cancel]
    rw [advance, shown]

/-- A run from the enabled state on. -/
lemma runDoes_flash (hzero : o.repeatDuration ≠ 0) (hcounted : counted ≤ 1) {stop : UInt32}
    (clock : UInt32)
    (hw : Before o counted k w) (hwork : w.work = none) (henabled : w.workEnable = true)
    (hactive : w.active = true) (hstop : w.stopAbsTime = stop) (now : ℕ) :
    RunDoes o counted stop clock now k
      (if w.Over clock then w.disable.flash o now [false] else w.flash o now []) := by
  have hover : w.Over clock ↔ TimeOver stop clock := by rw [Over, TimeOver, hstop]
  have hdisabled : Before o counted k w.disable := ⟨hw.patternIdx, hw.repeatCounts⟩
  refine ⟨fun htime hlast => ?_, fun htime hlast => ?_, fun htime => ?_⟩
  · have hidx := bit_shown o counted k w
    have henabled' : (shown o counted k w).workEnable = true := by rw [workEnable_shown, henabled]
    have hscheduled : ((shown o counted k w).advance o now).work
        = some (now + delay o (o.bitOfRun k)) := by
      rw [work_advance, work_shown, hwork, hidx]
      rfl
    rw [if_neg (hover.not.mpr htime), flash_before hzero hcounted hw, if_neg hlast]
    rw [showBit, if_pos henabled', hidx, List.nil_append]
    refine ⟨⟨before_advance_shown o counted k w now, ?_, ?_, ?_, ?_⟩, hscheduled, rfl⟩
    · rw [hscheduled]
      exact Option.some_ne_none _
    · rw [workEnable_advance, henabled']
    · rw [active_advance, active_shown, hactive]
    · rw [stopAbsTime_advance, stopAbsTime_shown, hstop]
  · rw [if_neg (hover.not.mpr htime), flash_before hzero hcounted hw, if_pos hlast]
    exact ⟨ended_disable_shown hwork, rfl⟩
  · rw [if_pos (hover.mpr htime), flash_before hzero hcounted hdisabled]
    by_cases hlast : LastPass o counted k
    · rw [if_pos hlast, if_pos hlast]
      exact ⟨ended_disable_shown hwork, rfl⟩
    · have hoff : ¬ (shown o counted k w.disable).workEnable = true := Bool.false_ne_true
      rw [if_neg hlast, if_neg hlast, showBit, if_neg hoff]
      exact ⟨⟨by rw [work_shown, work_disable, hwork], rfl⟩, rfl⟩

/-- The first run. -/
lemma Starts.runDoes (hw : Starts o counted w) (hzero : o.repeatDuration ≠ 0)
    (hcounted : counted ≤ 1) (clock : UInt32) (now : ℕ) :
    RunDoes o counted (stopTime o clock) clock now 0 (w.run o clock now) := by
  simp only [run, if_neg hzero, enable, hw.disabled, Bool.false_eq_true, if_false]
  exact runDoes_flash hzero hcounted clock (w := { w with
      work := none
      startAbsTime := 0
      stopAbsTime := stopTime o clock
      workEnable := true
      active := true }) ⟨hw.patternIdx, hw.repeatCounts⟩ rfl rfl rfl rfl now

/-- A later run. -/
lemma Playing.runDoes {stop : UInt32} (hw : Playing o counted stop k w)
    (hzero : o.repeatDuration ≠ 0) (hcounted : counted ≤ 1) (clock : UInt32) (now : ℕ) :
    RunDoes o counted stop clock now k (w.run o clock now) := by
  simp only [run, if_neg hzero, enable, hw.enabled, if_true]
  exact runDoes_flash hzero hcounted clock
    (w := { w with work := none, startAbsTime := 0, workEnable := true })
    ⟨hw.patternIdx, hw.repeatCounts⟩ rfl rfl hw.active hw.stopAbsTime now

/-! ## Whole playbacks -/

/-- The delayed work after the first runs, and their calls; run `k` happens at uptime `now k`, when
the clock shows `clock k`. -/
def play (o : LedObj) (clock : ℕ → UInt32) (now : ℕ → ℕ) (w : LedDwork) : ℕ → LedDwork × List Bool
  | 0 => (w, [])
  | k + 1 =>
      let x := play o clock now w k
      if x.1.work = none then x
      else
        let r := x.1.run o (clock k) (now k)
        (r.1, x.2 ++ r.2)

/-- Run `k` ends the playback. -/
def EndsAt (o : LedObj) (counted : ℕ) (clock : ℕ → UInt32) (k : ℕ) : Prop :=
  TimeOver (stopTime o (clock 0)) (clock k) ∨ LastPass o counted k

instance (clock : ℕ → UInt32) (k : ℕ) : Decidable (EndsAt o counted clock k) :=
  inferInstanceAs (Decidable (_ ∨ _))

variable {clock : ℕ → UInt32} {now : ℕ → ℕ}

/-- The calls of a run that ends the playback. -/
def lastCalls (o : LedObj) (counted : ℕ) (clock : ℕ → UInt32) (k : ℕ) : List Bool :=
  if TimeOver (stopTime o (clock 0)) (clock k) ∧ LastPass o counted k then [false, false]
  else [false]

/-- With a repeat duration above 255 the counter never gets there. -/
lemma not_lastPass_of_large (hlarge : 256 ≤ o.repeatDuration.toNat) : ¬ LastPass o counted k := by
  rintro ⟨-, h⟩
  have := Nat.mod_lt (k / o.passLength + counted) (show 0 < 256 by decide)
  omega

lemma not_lastPass_of_lt (hsmall : o.repeatDuration.toNat ≤ 255)
    (hk : k < (o.repeatDuration.toNat - counted) * o.passLength) : ¬ LastPass o counted k := by
  rintro ⟨-, h⟩
  have hdiv : k / o.passLength < o.repeatDuration.toNat - counted :=
    (Nat.div_lt_iff_lt_mul o.passLength_pos).mpr hk
  generalize k / o.passLength = passes at h hdiv
  rw [Nat.mod_eq_of_lt (by omega)] at h
  omega

/-- The last pass ends when the others are played. -/
lemma lastPass_end (hsmall : o.repeatDuration.toNat ≤ 255)
    (hcounted : counted ≤ o.repeatDuration.toNat) :
    LastPass o counted ((o.repeatDuration.toNat - counted) * o.passLength) := by
  refine ⟨Nat.dvd_mul_left _ _, ?_⟩
  rw [Nat.mul_div_cancel _ o.passLength_pos, Nat.sub_add_cancel hcounted,
    Nat.mod_eq_of_lt (Nat.lt_succ_of_le hsmall)]

/-- What run `k` of a playback does that the runs before did not end. -/
lemma runDoes_play (hw : Starts o counted w) (hzero : o.repeatDuration ≠ 0) (hcounted : counted ≤ 1)
    (hplay : k ≠ 0 → Playing o counted (stopTime o (clock 0)) k (play o clock now w k).1) :
    (play o clock now w k).1.work ≠ none
      ∧ RunDoes o counted (stopTime o (clock 0)) (clock k) (now k) k
          ((play o clock now w k).1.run o (clock k) (now k)) := by
  by_cases hk : k = 0
  · subst hk
    exact ⟨hw.scheduled, hw.runDoes hzero hcounted _ _⟩
  · exact ⟨(hplay hk).scheduled, (hplay hk).runDoes hzero hcounted _ _⟩

variable (now) in
/-- **As long as no run ends it**, a playback shows the bits of the passes. -/
theorem play_goesOn (hw : Starts o counted w) (hzero : o.repeatDuration ≠ 0) (hcounted : counted ≤ 1)
    (hgoes : ∀ j < k, ¬ EndsAt o counted clock j) :
    (play o clock now w k).2 = (List.range k).map o.bitOfRun
      ∧ (k ≠ 0 → Playing o counted (stopTime o (clock 0)) k (play o clock now w k).1
          ∧ (play o clock now w k).1.work
              = some (now (k - 1) + delay o (o.bitOfRun (k - 1)))) := by
  induction k with
  | zero => exact ⟨rfl, fun h => absurd rfl h⟩
  | succ k ih =>
      obtain ⟨hcalls, hplaying⟩ := ih fun j hj => hgoes j (Nat.lt_succ_of_lt hj)
      obtain ⟨hwork, hdoes⟩ := runDoes_play hw hzero hcounted fun hk => (hplaying hk).1
      obtain ⟨htime, hlast⟩ := not_or.mp (hgoes k k.lt_succ_self)
      obtain ⟨hnext, hscheduled, hbit⟩ := hdoes.goesOn htime hlast
      simp only [play, if_neg hwork, hbit, hcalls]
      refine ⟨?_, fun _ => ⟨hnext, hscheduled⟩⟩
      rw [List.range_succ, List.map_append, List.map_cons, List.map_nil]

variable (now) in
/-- **From the run that ends it on**, nothing happens any more. -/
theorem play_ended (hw : Starts o counted w) (hzero : o.repeatDuration ≠ 0) (hcounted : counted ≤ 1)
    (hgoes : ∀ j < k, ¬ EndsAt o counted clock j) (hend : EndsAt o counted clock k) {n : ℕ}
    (hn : k < n) :
    (play o clock now w n).2 = (List.range k).map o.bitOfRun ++ lastCalls o counted clock k
      ∧ Ended (play o clock now w n).1 := by
  obtain ⟨m, rfl⟩ := Nat.exists_eq_add_of_lt hn
  induction m with
  | zero =>
      obtain ⟨hcalls, hplaying⟩ := play_goesOn now hw hzero hcounted hgoes
      obtain ⟨hwork, hdoes⟩ := runDoes_play hw hzero hcounted fun hk => (hplaying hk).1
      simp only [play, if_neg hwork, hcalls]
      by_cases htime : TimeOver (stopTime o (clock 0)) (clock k)
      · obtain ⟨hended, hoff⟩ := hdoes.timeOver htime
        rw [hoff, lastCalls]
        simp only [htime, true_and]
        exact hended
      · obtain ⟨hended, hoff⟩ := hdoes.lastPass htime (hend.resolve_left htime)
        rw [hoff, lastCalls, if_neg fun h => htime h.1]
        exact ⟨rfl, hended⟩
  | succ m ih =>
      obtain ⟨hcalls, hended⟩ := ih (by omega)
      have hstay : play o clock now w (k + (m + 1) + 1) = play o clock now w (k + m + 1) := by
        rw [← Nat.add_assoc k m 1, play, if_pos hended.work]
      rw [hstay]
      exact ⟨hcalls, hended⟩

variable (clock now) in
/-- A repeat duration of zero: one run. -/
lemma play_zero (hzero : o.repeatDuration = 0) (hwork : w.work ≠ none) {n : ℕ} (hn : 0 < n) :
    (play o clock now w n).2 = [o.repeatType == 1]
      ∧ (play o clock now w n).1.work = none
      ∧ (play o clock now w n).1.active = (o.repeatType == 1) := by
  obtain ⟨m, rfl⟩ := Nat.exists_eq_succ_of_ne_zero hn.ne'
  induction m with
  | zero =>
      simp only [play, if_neg hwork, run, if_pos hzero, List.nil_append]
      exact ⟨trivial, trivial, trivial⟩
  | succ m ih =>
      have hstay : play o clock now w (m + 1 + 1) = play o clock now w (m + 1) := by
        rw [play, if_pos (ih m.succ_pos).2.1]
      rw [Nat.succ_eq_add_one, hstay]
      exact ih m.succ_pos

end LedDwork

namespace EslTag

variable (cfg : Config) (i : ℕ)

/-- The LED worker runs at an uptime, if it is scheduled. -/
def ledRunAt (now : ℕ) (t : EslTag) : EslTag :=
  if (t.elems.ledDworks i).work = none then t
  else ({ t with uptime := now } : EslTag).ledDelayWorkerFn cfg i

/-- The tag after the first runs of the LED worker; run `k` happens at uptime `now k`. -/
def ledPlay (now : ℕ → ℕ) (t : EslTag) : ℕ → EslTag
  | 0 => t
  | k + 1 => (ledPlay now t k).ledRunAt cfg i (now k)

/-- What the clock shows at an uptime. -/
def clockAt (t : EslTag) (now : ℕ) : UInt32 := UInt32.ofNat now - t.assoc.absTimeAnchor

variable {cfg} {i}

/-- **Refinement.**  The runs of the worker on a tag are the playback of its delayed work. -/
theorem ledPlay_eq (hi : i < cfg.ledMax) (now : ℕ → ℕ) (t : EslTag) (k : ℕ) :
    let x := (t.elems.ledDworks i).play (t.elems.ledObjs i) (fun k => t.clockAt (now k)) now k
    (t.ledPlay cfg i now k).led i = ⟨x.1, t.elems.ledObjs i⟩
      ∧ (t.ledPlay cfg i now k).out
          = t.out ++ x.2.map (.ledControl i (t.elems.ledObjs i).colorBrightness)
      ∧ (t.ledPlay cfg i now k).assoc = t.assoc := by
  induction k with
  | zero => exact ⟨rfl, by simp [ledPlay, LedDwork.play], rfl⟩
  | succ k ih =>
      obtain ⟨hled, hout, hassoc⟩ := ih
      simp only [ledPlay, LedDwork.play]
      generalize t.ledPlay cfg i now k = u at hled hout hassoc ⊢
      generalize (t.elems.ledDworks i).play (t.elems.ledObjs i) (fun k => t.clockAt (now k)) now k
        = x at hled hout ⊢
      have hdwork : u.elems.ledDworks i = x.1 := congrArg Led.dwork hled
      have hobj : u.elems.ledObjs i = t.elems.ledObjs i := congrArg Led.obj hled
      simp only [ledRunAt, hdwork]
      by_cases hwork : x.1.work = none
      · simp only [if_pos hwork]
        exact ⟨hled, hout, hassoc⟩
      · simp only [if_neg hwork]
        have hran := ranTo_ledDelayWorkerFn (t := { u with uptime := now k }) hi
        have hclock : ({ u with uptime := now k } : EslTag).absTime = t.clockAt (now k) := by
          rw [absTime, clockAt, hassoc]
        simp only [hdwork, hobj, hclock] at hran
        refine ⟨?_, ?_, hran.assoc.trans hassoc⟩
        · rw [hran.led]
          exact congrArg (Led.mk _) hobj
        · rw [hran.out]
          simp only [hout, hobj, List.map_append, List.append_assoc]

end EslTag

/-! ## The commands that start a playback -/

/-- What a command plays, and the passes that are counted before its first run. -/
def LedOp.playback? : LedOp → Option (LedObj × ℕ)
  | .control obj => some (obj, 1)
  | .arm _ obj => some (obj, 0)
  | _ => none

namespace TagDevice

variable {cfg : Config} {ead : Ead} {d d' : TagDevice} {e : TagEvent} {i : ℕ} {absTime : UInt32}
  {obj : LedObj}

/-- An LED Timed Control starts with no pass counted. -/
lemma starts_of_arm (hi : i < cfg.ledMax) (hstep : d.step cfg ead e = some d')
    (hop : d.ledOp? cfg i e = some (.arm absTime obj)) :
    d'.tag.elems.ledObjs i = obj ∧ (d'.tag.elems.ledDworks i).Starts obj 0 := by
  have hled := led_step hi hstep
  rw [hop] at hled
  have hdwork : d'.tag.elems.ledDworks i = _ := congrArg Led.dwork hled
  refine ⟨congrArg Led.obj hled, ?_⟩
  rw [hdwork]
  exact ⟨⟨rfl, rfl⟩, Option.some_ne_none _, rfl⟩

/-- An LED Control starts with one pass counted: `led_dwork_reset` comes after the start marker was
set, and clears it. -/
lemma starts_of_control (hi : i < cfg.ledMax) (hstep : d.step cfg ead e = some d')
    (hop : d.ledOp? cfg i e = some (.control obj)) :
    d'.tag.elems.ledObjs i = obj ∧ (d'.tag.elems.ledDworks i).Starts obj 1 := by
  have hled := led_step hi hstep
  rw [hop] at hled
  have hdwork : d'.tag.elems.ledDworks i = _ := congrArg Led.dwork hled
  refine ⟨congrArg Led.obj hled, ?_⟩
  rw [hdwork]
  exact ⟨⟨rfl, rfl⟩, Option.some_ne_none _, rfl⟩

/-- After the acceptance of an LED command. -/
lemma starts_of_playback {counted : ℕ} (hi : i < cfg.ledMax) (hstep : d.step cfg ead e = some d')
    (hop : (d.ledOp? cfg i e).bind LedOp.playback? = some (obj, counted)) :
    d'.tag.elems.ledObjs i = obj ∧ (d'.tag.elems.ledDworks i).Starts obj counted ∧ counted ≤ 1 := by
  obtain ⟨op, hop', hplayback⟩ := Option.bind_eq_some_iff.mp hop
  cases op with
  | control obj' =>
      cases hplayback
      obtain ⟨hobj, hstarts⟩ := starts_of_control hi hstep hop'
      exact ⟨hobj, hstarts, Nat.le_refl 1⟩
  | arm absTime obj' =>
      cases hplayback
      obtain ⟨hobj, hstarts⟩ := starts_of_arm hi hstep hop'
      exact ⟨hobj, hstarts, Nat.zero_le 1⟩
  | delete | run | unassociate | reset | flash | boot => cases hplayback

end TagDevice

/-- LED Control for LED 0, with a pattern and a repeat duration and type. -/
def ledControlled (patternByte repeats repeatType : UInt8) : TagDevice :=
  { TagDevice.boot .sample {} with
    tag.uptime := 2 ^ 32 - 5
    ecpNetBuf := .ofBytes
      [0xB0, 0xFF, 0, 0x3F, patternByte, 0, 0, 0, 0, 50, 50, repeats <<< 1 ||| repeatType, 0]
      fun _ => 0
    ecpWorkPending := true }

/-- LED Timed Control for LED 0 and the time 995, with a pattern and a repeat duration and type. -/
def ledOrdered (patternByte repeats repeatType : UInt8) : TagDevice :=
  { TagDevice.boot .sample {} with
    tag.uptime := 2 ^ 32 - 5
    ecpNetBuf := .ofBytes
      [0xF0, 0xFF, 0, 0x3F, patternByte, 0, 0, 0, 0, 50, 50, repeats <<< 1 ||| repeatType, 0,
        0xE3, 0x03, 0, 0] fun _ => 0
    ecpWorkPending := true }

end NrfEsl
