import NrfEsl.Tag.LedPlayback

/-!
# The bit arithmetic of the LED worker

`led_delay_worker_fn` finds the most significant set bit of a pattern by `__builtin_clzll`, which is
not defined for zero, and tests a bit by a shift of a 64-bit one.  `ledDelayWorkerOps` is the worker
together with these operations, in the order in which a run evaluates them; its tag is that of
`ledDelayWorkerFn` (`fst_ledDelayWorkerOps`).

* The count of leading zeros is the first operation that goes wrong, and it does in the first run of a
  flashing command whose pattern is zero (`ledArithmetic_iff`).  C then leaves the bit index and the
  shifts undefined; the worker of the model goes on with index 0 (`LedObj.patternStart`).
* For every other pattern the shifts and the bit index are in range (`patternIdx_run_le`,
  `of_mem_ledDelayWorkerOps`).
-/

namespace NrfEsl

open LedDwork

/-- An operation of C that is not defined on all its arguments. -/
inductive BitOp
  /-- `__builtin_clzll(x)` -/
  | clz (x : ℕ)
  /-- `1ULL << amount` -/
  | shift (amount : ℕ)
  deriving DecidableEq, Repr

/-- The operation is defined on its argument. -/
def BitOp.Defined : BitOp → Prop
  | .clz x => x ≠ 0
  | .shift amount => amount < 64

instance : DecidablePred BitOp.Defined := fun op => by
  cases op <;> unfold BitOp.Defined <;> infer_instance

namespace EslTag

section Worker

variable (cfg : Config) (idx : ℕ) (t : EslTag)

/-- The last lines of `led_delay_worker_fn`, after the operations `ops`. -/
def ledShowOps (ops : List BitOp) : EslTag × List BitOp :=
  if (t.elems.ledDworks idx).workEnable then
    (t.ledShowBit idx, ops ++ [.shift (t.elems.ledDworks idx).patternIdx.toNat])
  else (t, ops)

/-- `led_delay_worker_fn` from its look at the bit index on. -/
def ledFlashOps (o : LedObj) : EslTag × List BitOp :=
  let w := t.elems.ledDworks idx
  if w.patternIdx = 0 then
    let t := t.updateLed idx fun w =>
      { w with repeatCounts := w.repeatCounts + 1, patternIdx := o.patternStart }
    if o.repeatDuration ≤ (t.elems.ledDworks idx).repeatCounts.toUInt16 then
      ((t.ledOnOff idx false).updateLed idx fun w =>
        { w with workEnable := false, active := false }, [.clz o.pattern])
    else t.ledShowOps idx [.clz o.pattern]
  else if w.patternIdx = eslLedFlashPatternStartBitIdx then
    (t.updateLed idx fun w => { w with patternIdx := o.patternStart }).ledShowOps idx
      [.clz o.pattern]
  else t.ledShowOps idx []

/-- `led_delay_worker_fn`, with the operations that the run evaluates. -/
def ledDelayWorkerOps : EslTag × List BitOp :=
  if cfg.ledMax ≤ idx then (t, [])
  else
    let t := t.updateLed idx fun w => { w with work := none, startAbsTime := 0 }
    let o := t.elems.ledObjs idx
    if o.repeatDuration = 0 then (t.ledContinuous idx, [])
    else ((t.ledEnable idx).ledStopByTime idx).ledFlashOps idx o

variable {cfg idx t}

lemma fst_ledShowOps (ops : List BitOp) : (t.ledShowOps idx ops).1
    = if (t.elems.ledDworks idx).workEnable then t.ledShowBit idx else t := by
  rw [ledShowOps]
  split <;> rfl

/-- The operations are recorded beside the worker, which does not change. -/
theorem fst_ledDelayWorkerOps : (t.ledDelayWorkerOps cfg idx).1 = t.ledDelayWorkerFn cfg idx := by
  simp only [ledDelayWorkerOps, ledFlashOps, ledDelayWorkerFn]
  split
  · rfl
  split
  · rfl
  split
  · split
    · rfl
    · exact fst_ledShowOps _
  · split
    · exact fst_ledShowOps _
    · exact fst_ledShowOps _

lemma of_mem_ledShowOps {ops : List BitOp} {op : BitOp} (h : op ∈ (t.ledShowOps idx ops).2) :
    op ∈ ops ∨ op = .shift (t.elems.ledDworks idx).patternIdx.toNat := by
  rw [ledShowOps] at h
  split at h
  · rcases List.mem_append.mp h with hops | hshift
    · exact .inl hops
    · exact .inr (List.mem_singleton.mp hshift)
  · exact .inl h

lemma toNat_patternStart (o : LedObj) : o.patternStart.toNat = o.top := by
  have htop := o.top_lt
  rw [LedObj.patternStart, UInt8.toNat_ofNat']
  exact Nat.mod_eq_of_lt (Nat.lt_trans htop (by decide))

/-- The operations are about the pattern and about an index of a bit. -/
lemma of_mem_ledFlashOps {o : LedObj} (hidx : (t.elems.ledDworks idx).patternIdx.toNat ≤ 40)
    {op : BitOp} (h : op ∈ (t.ledFlashOps idx o).2) :
    op = .clz o.pattern ∨ ∃ n ≤ 40, op = .shift n := by
  have hstart : o.patternStart.toNat ≤ 40 := by
    rw [toNat_patternStart]
    exact Nat.le_of_lt o.top_lt
  rw [ledFlashOps] at h
  simp only [] at h
  split at h
  · split at h
    · exact .inl (List.mem_singleton.mp h)
    · rcases of_mem_ledShowOps h with hclz | hshift
      · exact .inl (List.mem_singleton.mp hclz)
      · refine .inr ⟨_, ?_, hshift⟩
        rw [ledDworks_updateLed, if_pos rfl]
        exact hstart
  · split at h
    · rcases of_mem_ledShowOps h with hclz | hshift
      · exact .inl (List.mem_singleton.mp hclz)
      · refine .inr ⟨_, ?_, hshift⟩
        rw [ledDworks_updateLed, if_pos rfl]
        exact hstart
    · rcases of_mem_ledShowOps h with hnone | hshift
      · cases hnone
      · exact .inr ⟨_, hidx, hshift⟩

lemma clz_mem_ledShowOps {x : ℕ} : BitOp.clz x ∈ (t.ledShowOps idx [.clz x]).2 := by
  rw [ledShowOps]
  split
  · exact List.mem_append_left _ (List.mem_singleton_self _)
  · exact List.mem_singleton_self _

/-- At either mark the most significant set bit is looked for. -/
lemma clz_mem_ledFlashOps (o : LedObj) (hidx : (t.elems.ledDworks idx).patternIdx = 0
      ∨ (t.elems.ledDworks idx).patternIdx = eslLedFlashPatternStartBitIdx) :
    BitOp.clz o.pattern ∈ (t.ledFlashOps idx o).2 := by
  simp only [ledFlashOps]
  split
  · split
    · exact List.mem_singleton_self _
    · exact clz_mem_ledShowOps
  · rename_i hne
    rw [if_pos (hidx.resolve_left hne)]
    exact clz_mem_ledShowOps

end Worker

section Run

variable {cfg : Config} {i : ℕ} {t : EslTag}

/-- The worker up to its look at the bit index keeps the index. -/
lemma patternIdx_ledStopByTime :
    ((((t.updateLed i fun w => { w with work := none, startAbsTime := 0 }).ledEnable i).ledStopByTime
      i).elems.ledDworks i).patternIdx = (t.elems.ledDworks i).patternIdx := by
  have hindex : ∀ w : LedDwork, (w.enable (t.elems.ledObjs i) t.absTime).patternIdx = w.patternIdx := by
    intro w
    rw [LedDwork.enable]
    split <;> rfl
  have hstop := ((RanTo.refl (i := i) (t := t)).update fun w =>
    { w with work := none, startAbsTime := 0 }).enable.stopByTime
  split at hstop
  · rw [hstop.dwork]
    exact hindex _
  · rw [hstop.dwork]
    exact hindex _

/-- The operations of a run. -/
lemma of_mem_ledDelayWorkerOps (hidx : (t.elems.ledDworks i).patternIdx.toNat ≤ 40) {op : BitOp}
    (h : op ∈ (t.ledDelayWorkerOps cfg i).2) :
    (t.elems.ledObjs i).repeatDuration ≠ 0
      ∧ (op = .clz (t.elems.ledObjs i).pattern ∨ ∃ n ≤ 40, op = .shift n) := by
  simp only [ledDelayWorkerOps] at h
  split at h
  · cases h
  split at h
  · cases h
  rename_i hzero
  refine ⟨hzero, of_mem_ledFlashOps ?_ h⟩
  rw [patternIdx_ledStopByTime]
  exact hidx

/-- The first run of a flashing command looks for the most significant set bit. -/
lemma clz_mem_ledDelayWorkerOps (hi : i < cfg.ledMax)
    (hzero : (t.elems.ledObjs i).repeatDuration ≠ 0)
    (hidx : (t.elems.ledDworks i).patternIdx = 0
      ∨ (t.elems.ledDworks i).patternIdx = eslLedFlashPatternStartBitIdx) :
    BitOp.clz (t.elems.ledObjs i).pattern ∈ (t.ledDelayWorkerOps cfg i).2 := by
  simp only [ledDelayWorkerOps, if_neg (Nat.not_le.mpr hi)]
  split
  · rename_i h
    exact absurd h hzero
  refine clz_mem_ledFlashOps _ ?_
  rw [patternIdx_ledStopByTime]
  exact hidx

end Run

end EslTag

/-! ## The range of the bit index -/

namespace LedDwork

variable {o : LedObj} {w : LedDwork}

lemma patternIdx_showBit_le (h : w.patternIdx.toNat ≤ 40) (now : ℕ) (calls : List Bool) :
    (w.showBit o now calls).1.patternIdx.toNat ≤ 40 := by
  rw [showBit]
  split
  · show (if w.patternIdx ≠ 0 then w.patternIdx - 1 else w.patternIdx).toNat ≤ 40
    split
    · rename_i hne
      have hpos : 1 ≤ w.patternIdx := by
        rw [UInt8.le_iff_toNat_le]
        exact Nat.pos_of_ne_zero fun h => hne (UInt8.toNat_inj.mp h)
      rw [UInt8.toNat_sub_of_le _ _ hpos]
      exact (Nat.sub_le _ _).trans h
    · exact h
  · exact h

/-- A run keeps the bit index in its range, whatever the object says. -/
lemma patternIdx_run_le (h : w.patternIdx.toNat ≤ 40) (clock : UInt32) (now : ℕ) :
    (w.run o clock now).1.patternIdx.toNat ≤ 40 := by
  have hstart : o.patternStart.toNat ≤ 40 := by
    rw [EslTag.toNat_patternStart]
    exact Nat.le_of_lt o.top_lt
  have hflash : ∀ (w : LedDwork) calls, w.patternIdx.toNat ≤ 40 →
      (w.flash o now calls).1.patternIdx.toNat ≤ 40 := by
    intro w calls hw
    simp only [flash]
    split
    · split
      · exact hstart
      · exact patternIdx_showBit_le hstart now calls
    · split
      · exact patternIdx_showBit_le hstart now calls
      · exact patternIdx_showBit_le hw now calls
  have henable : ∀ w : LedDwork, (w.enable o clock).patternIdx = w.patternIdx := by
    intro w
    rw [enable]
    split <;> rfl
  simp only [run]
  split
  · exact h
  · split
    · exact hflash _ _ (by rw [disable, henable]; exact h)
    · exact hflash _ _ (by rw [henable]; exact h)

end LedDwork

/-! ## Whole playbacks -/

/-- The operations of run `k` are defined, and the bit index is in its range before it. -/
structure RunDefined (cfg : Config) (i : ℕ) (now : ℕ → ℕ) (t : EslTag) (k : ℕ) : Prop where
  ops : ((t.ledPlay cfg i now k).elems.ledDworks i).work ≠ none →
    ∀ op ∈ (({ t.ledPlay cfg i now k with uptime := now k } : EslTag).ledDelayWorkerOps cfg i).2,
      op.Defined
  patternIdx : ((t.ledPlay cfg i now k).elems.ledDworks i).patternIdx.toNat ≤ 40

/-- The bit index in a playback. -/
lemma patternIdx_ledPlay_le {cfg : Config} {i : ℕ} {t : EslTag} (hi : i < cfg.ledMax)
    (h : (t.elems.ledDworks i).patternIdx.toNat ≤ 40) (now : ℕ → ℕ) (k : ℕ) :
    ((t.ledPlay cfg i now k).elems.ledDworks i).patternIdx.toNat ≤ 40 := by
  induction k with
  | zero => exact h
  | succ k ih =>
      rw [EslTag.ledPlay, EslTag.ledRunAt]
      split
      · exact ih
      · have hran := EslTag.ranTo_ledDelayWorkerFn
          (t := { t.ledPlay cfg i now k with uptime := now k }) hi
        rw [hran.dwork]
        exact patternIdx_run_le ih _ _

lemma obj_ledPlay {cfg : Config} {i : ℕ} (hi : i < cfg.ledMax) (now : ℕ → ℕ) (t : EslTag) (k : ℕ) :
    (t.ledPlay cfg i now k).elems.ledObjs i = t.elems.ledObjs i :=
  congrArg Led.obj (EslTag.ledPlay_eq hi now t k).1

/-- The runs of a playback, from its start on. -/
lemma ledArithmetic_runs {cfg : Config} {i : ℕ} {t : EslTag} {o : LedObj} {counted : ℕ}
    (hi : i < cfg.ledMax) (hobj : t.elems.ledObjs i = o)
    (hstart : (t.elems.ledDworks i).Starts o counted) (now : ℕ → ℕ) :
    (∀ k, RunDefined cfg i now t k) ↔ o.pattern ≠ 0 ∨ o.repeatDuration = 0 := by
  have hmark : (t.elems.ledDworks i).patternIdx = 0
      ∨ (t.elems.ledDworks i).patternIdx = eslLedFlashPatternStartBitIdx := by
    have hidx := hstart.patternIdx
    rw [if_pos rfl] at hidx
    split at hidx
    · exact .inr hidx
    · exact .inl hidx
  have hle : (t.elems.ledDworks i).patternIdx.toNat ≤ 40 := by
    rcases hmark with h | h
    · rw [h]
      decide
    · rw [h]
      decide
  constructor
  · intro h
    by_cases hzero : o.repeatDuration = 0
    · exact .inr hzero
    · left
      have hclz := EslTag.clz_mem_ledDelayWorkerOps (t := { t with uptime := now 0 }) hi
        (by rw [hobj]; exact hzero) hmark
      have hdefined := (h 0).ops hstart.scheduled _ hclz
      rw [hobj] at hdefined
      exact hdefined
  · intro h k
    have hidx := patternIdx_ledPlay_le hi hle now k
    refine ⟨fun _ op hop => ?_, hidx⟩
    obtain ⟨hzero, hcases⟩ := EslTag.of_mem_ledDelayWorkerOps
      (t := { t.ledPlay cfg i now k with uptime := now k }) hidx hop
    simp only [obj_ledPlay hi, hobj] at hzero hcases
    rcases hcases with rfl | ⟨n, hn, rfl⟩
    · exact h.resolve_right hzero
    · exact Nat.lt_of_le_of_lt hn (by decide)

/-- **The bit arithmetic is defined** in every run after an accepted LED command exactly when the
pattern has a set bit, or is not looked at. -/
theorem ledArithmetic_iff {cfg : Config} {ead : Ead} {d d' : TagDevice} {e : TagEvent} {i : ℕ}
    {o : LedObj} {counted : ℕ} (hi : i < cfg.ledMax) (hstep : d.step cfg ead e = some d')
    (hop : (d.ledOp? cfg i e).bind LedOp.playback? = some (o, counted)) (now : ℕ → ℕ) :
    (∀ k, RunDefined cfg i now d'.tag k) ↔ o.pattern ≠ 0 ∨ o.repeatDuration = 0 := by
  obtain ⟨hobj, hstart, -⟩ := TagDevice.starts_of_playback hi hstep hop
  exact ledArithmetic_runs hi hobj hstart now

/-- Pattern 1. -/
theorem ledArithmetic_one :
    ∃ d', (ledOrdered 1 1 1).step .sample .clear (.ecpWork {}) = some d'
      ∧ ∀ k, RunDefined .sample 0 (fun k => 100 * k) d'.tag k := by
  have hstep : ((ledOrdered 1 1 1).step .sample .clear (.ecpWork {})).isSome := by decide +kernel
  obtain ⟨d', hd'⟩ := Option.isSome_iff_exists.mp hstep
  let o : LedObj := ⟨0x3F, #v[1, 0, 0, 0, 0], 50, 50, 1, 1⟩
  have hop : ((ledOrdered 1 1 1).ledOp? .sample 0 (.ecpWork {})).bind LedOp.playback?
      = some (o, 0) := by decide +kernel
  have hpattern : o.pattern = 1 := by decide +kernel
  exact ⟨d', hd', (ledArithmetic_iff (by decide) hd' hop fun k => 100 * k).mpr
    (.inl (by rw [hpattern]; decide))⟩

/-- Pattern 0, once: the first run counts the leading zeros of 0. -/
theorem not_ledArithmetic :
    ∃ d', (ledOrdered 0 1 0).step .sample .clear (.ecpWork {}) = some d'
      ∧ ¬ ∀ k, RunDefined .sample 0 (fun k => 100 * k) d'.tag k := by
  have hruns : ((ledOrdered 0 1 0).step .sample .clear (.ecpWork {})).map (fun d' =>
      ((d'.tag.elems.ledDworks 0).work.isSome,
        (({ d'.tag with uptime := 0 } : EslTag).ledDelayWorkerOps .sample 0).2))
      = some (true, [.clz 0, .shift 0]) := by decide +kernel
  obtain ⟨d', hd', hboth⟩ := Option.map_eq_some_iff.mp hruns
  simp only [Prod.mk.injEq] at hboth
  obtain ⟨hwork, hops⟩ := hboth
  refine ⟨d', hd', fun h => ?_⟩
  have hdefined := (h 0).ops (by rw [EslTag.ledPlay]; exact Option.isSome_iff_ne_none.mp hwork)
    (.clz 0) (by rw [EslTag.ledPlay, Nat.mul_zero, hops]; exact List.mem_cons_self)
  exact hdefined rfl

end NrfEsl
