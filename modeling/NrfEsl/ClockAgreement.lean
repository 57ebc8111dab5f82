import Mathlib.Algebra.Group.Int.Defs
import NrfEsl.Ap.EcpCommand
import NrfEsl.Tag.Display

/-!
# The clocks of the tag and of the access point

Both sides keep their absolute time as a 64-bit anchor, the uptime at which it was zero, and read it
off a 32-bit uptime.  `esl_get_abs_time` reduces the difference modulo `2 ^ 32` by a conversion, so that
the tag of the model has a 32-bit anchor; `esl_c_get_abs_time` takes the remainder by `UINT32_MAX`,
which is `2 ^ 32 - 1`, and converts then.

* `absTime_run` — **the tag keeps its time**, along every run in which no other time is written.
* `eslCGetAbsTime_update_iff` — **the access point keeps its time**, the two instants of `Skips`
  apart: there the difference is `UINT32_MAX` or its negative, and the remainder is zero.
* `clocksAgree_iff` — when both clocks read `t + (u - u0)`, and when a tag that has got its time from
  the access point reads the same as the access point.
-/

namespace NrfEsl

/-! ## The two clocks -/

/-- `k_uptime_get_32` -/
def kUptimeGet32 (uptime : ℕ) : UInt32 := UInt32.ofNat uptime

/-- The anchor of `esl_abs_time_update` and `esl_c_abs_timer_update`: an unsigned difference. -/
def anchorOf (uptime : ℕ) (newAbsTime : UInt32) : ℤ := (kUptimeGet32 uptime - newAbsTime).toNat

/-- The clock of the access point. -/
structure ApClock where
  uptime : ℕ
  absTimeAnchor : ℤ
  deriving DecidableEq, Repr

namespace ApClock

def uint32Max : ℤ := 4294967295

/-- `esl_c_get_abs_time`; `%` truncates, in 64 bits. -/
def eslCGetAbsTime (c : ApClock) : UInt32 :=
  UInt32.ofInt (((kUptimeGet32 c.uptime).toNat - c.absTimeAnchor).tmod uint32Max)

/-- `esl_c_abs_timer_update` -/
def eslCAbsTimerUpdate (newAbsTime : UInt32) (c : ApClock) : ApClock :=
  { c with absTimeAnchor := anchorOf c.uptime newAbsTime }

/-- Time passes. -/
def tick (ms : ℕ) (c : ApClock) : ApClock := { c with uptime := c.uptime + ms }

/-- The clock as `bt_esl_client_init` leaves it. -/
def boot (uptime : ℕ) : ApClock := ⟨uptime, (kUptimeGet32 uptime).toNat⟩

/-- The absolute time is set to `t` and read `k` milliseconds later. -/
def readAfter (c : ApClock) (t : UInt32) (k : ℕ) : UInt32 :=
  ((c.eslCAbsTimerUpdate t).tick k).eslCGetAbsTime

/-- `k` milliseconds after the time `t` was set, the uptime and the anchor are `UINT32_MAX` apart. -/
def Skips (c : ApClock) (t : UInt32) (k : ℕ) : Prop :=
  (kUptimeGet32 (c.uptime + k) = 0xFFFFFFFF ∧ kUptimeGet32 c.uptime = t)
    ∨ (kUptimeGet32 (c.uptime + k) = 0 ∧ kUptimeGet32 c.uptime + 1 = t)

instance (c : ApClock) (t : UInt32) (k : ℕ) : Decidable (c.Skips t k) :=
  inferInstanceAs (Decidable (_ ∨ _))

end ApClock

/-! ## Readings as residues -/

lemma toNat_kUptimeGet32 (uptime : ℕ) : (kUptimeGet32 uptime).toNat = uptime % 2 ^ 32 :=
  UInt32.toNat_ofNat'

/-- The anchor of an update is a residue. -/
lemma anchorOf_eq (uptime : ℕ) (t : UInt32) :
    anchorOf uptime t = ((uptime : ℤ) - t.toNat) % 2 ^ 32 := by
  have ht := t.toNat_lt
  rw [anchorOf, UInt32.toNat_sub, toNat_kUptimeGet32]
  omega

lemma toNat_ofInt (x : ℤ) : (UInt32.ofInt x).toNat = (x % 2 ^ 32).toNat := by
  have h₀ := Int.emod_nonneg x (b := 2 ^ 32) (by decide)
  have h₁ := Int.emod_lt_of_pos x (b := 2 ^ 32) (by decide)
  rw [UInt32.ofInt, UInt32.toNat_ofNat']
  omega

/-- The remainder by `UINT32_MAX` of a difference of two 32-bit numbers. -/
lemma tmod_uint32Max {d : ℤ} (hlo : -2 ^ 32 < d) (hhi : d < 2 ^ 32) :
    d.tmod ApClock.uint32Max
      = if d = ApClock.uint32Max ∨ d = -ApClock.uint32Max then 0 else d := by
  have hdvd : ApClock.uint32Max ∣ d ↔ d % ApClock.uint32Max = 0 := Int.dvd_iff_emod_eq_zero
  have habs : ApClock.uint32Max.natAbs = 2 ^ 32 - 1 := rfl
  simp only [Int.tmod_eq_emod, hdvd, habs]
  rw [ApClock.uint32Max]
  split_ifs <;> omega

/-! ## The tag -/

/-- No other absolute time is set: it is not written, and the tag does not boot. -/
def TagEvent.KeepsAbsTime (e : TagEvent) : Prop := e.newAbsTime? = none ∧ ∀ p, e ≠ .reboot p

namespace TagDevice

variable {cfg : Config} {ead : Ead} {d d₁ d₂ : TagDevice} {w : AttWrite} {es : List TagEvent}

lemma absTimeAnchor_absTimeWrite (h : d.step cfg ead (.absTimeWrite w) = some d₁) :
    d₁.tag.assoc.absTimeAnchor = UInt32.ofNat d.tag.uptime - sysGetLe32 w.buf.data 0 := by
  cases h
  exact congrArg Displays.absTimeAnchor (EslTag.displays_absTimeWrite d.tag w)

/-- Along a run that sets no other time, the anchor stays. -/
lemma absTimeAnchor_run (h : TransitionSystem.run (step cfg ead) d₁ es = some d₂)
    (hes : ∀ e ∈ es, e.KeepsAbsTime) :
    d₂.tag.assoc.absTimeAnchor = d₁.tag.assoc.absTimeAnchor := by
  induction es generalizing d₁ with
  | nil =>
      cases h
      rfl
  | cons e es ih =>
      obtain ⟨d', hd', hrun⟩ := Option.bind_eq_some_iff.mp h
      obtain ⟨htime, hboot⟩ := hes e (by simp)
      rw [ih hrun fun e' he' => hes e' (by simp [he'])]
      refine absTimeAnchor_step hd' ?_ hboot
      rintro w rfl
      cases htime

/-- **The tag keeps its time**: `k` milliseconds after a write it reads `k` more. -/
theorem absTime_run (hwrite : d.step cfg ead (.absTimeWrite w) = some d₁)
    (hrun : TransitionSystem.run (step cfg ead) d₁ es = some d₂)
    (hes : ∀ e ∈ es, e.KeepsAbsTime) {k : ℕ} (hk : d₂.tag.uptime = d.tag.uptime + k) :
    d₂.tag.absTime = sysGetLe32 w.buf.data 0 + UInt32.ofNat k := by
  rw [EslTag.absTime, absTimeAnchor_run hrun hes, absTimeAnchor_absTimeWrite hwrite, hk,
    UInt32.ofNat_add]
  grind

end TagDevice

/-! ## The access point -/

namespace ApClock

variable (c : ApClock) (t : UInt32) (k : ℕ)

lemma toNat_add_ofNat : (t + UInt32.ofNat k).toNat = (t.toNat + k) % 2 ^ 32 := by
  rw [UInt32.toNat_add, UInt32.toNat_ofNat']
  omega

/-- The difference that the reading is the remainder of. -/
def gap : ℤ := (kUptimeGet32 (c.uptime + k)).toNat - anchorOf c.uptime t

lemma readAfter_eq : c.readAfter t k = UInt32.ofInt ((c.gap t k).tmod uint32Max) := rfl

lemma gap_eq : c.gap t k
    = ((c.uptime : ℤ) + k) % 2 ^ 32 - ((c.uptime : ℤ) - t.toNat) % 2 ^ 32 := by
  rw [gap, anchorOf_eq, toNat_kUptimeGet32]
  omega

lemma gap_mem : -2 ^ 32 < c.gap t k ∧ c.gap t k < 2 ^ 32 := by
  rw [gap_eq]
  omega

/-- The gap is the time that has passed since the absolute time was zero. -/
lemma gap_emod : c.gap t k % 2 ^ 32 = ((t.toNat : ℤ) + k) % 2 ^ 32 := by
  rw [gap_eq]
  omega

lemma skips_iff_gap : c.Skips t k ↔ c.gap t k = uint32Max ∨ c.gap t k = -uint32Max := by
  have ht := t.toNat_lt
  have hmax : (0xFFFFFFFF : UInt32).toNat = 2 ^ 32 - 1 := rfl
  have hone : (1 : UInt32).toNat = 1 := rfl
  have hzero : (0 : UInt32).toNat = 0 := rfl
  rw [Skips, gap_eq, uint32Max]
  simp only [← UInt32.toNat_inj, UInt32.toNat_add, toNat_kUptimeGet32, hmax, hone, hzero]
  omega

/-- At an instant of `Skips` the access point reads zero. -/
lemma readAfter_of_skips (h : c.Skips t k) : c.readAfter t k = 0 := by
  have hmem := c.gap_mem t k
  rw [readAfter_eq, tmod_uint32Max hmem.1 hmem.2, if_pos ((c.skips_iff_gap t k).mp h)]
  rfl

lemma readAfter_of_not_skips (h : ¬ c.Skips t k) : c.readAfter t k = t + UInt32.ofNat k := by
  have hmem := c.gap_mem t k
  have hmod := c.gap_emod t k
  apply UInt32.toNat_inj.mp
  rw [readAfter_eq, tmod_uint32Max hmem.1 hmem.2, if_neg (mt (c.skips_iff_gap t k).mpr h),
    toNat_ofInt, toNat_add_ofNat]
  omega

/-- Zero is not the time at such an instant. -/
lemma ne_zero_of_skips (h : c.Skips t k) : t + UInt32.ofNat k ≠ 0 := by
  have hmod := c.gap_emod t k
  have hgap := (c.skips_iff_gap t k).mp h
  intro h0
  have h0' : (t.toNat + k) % 2 ^ 32 = 0 := by rw [← toNat_add_ofNat, h0]; rfl
  rw [uint32Max] at hgap
  omega

/-- **The access point keeps its time** but for the instants of `Skips`. -/
theorem eslCGetAbsTime_update_iff : c.readAfter t k = t + UInt32.ofNat k ↔ ¬ c.Skips t k := by
  constructor
  · intro h hskip
    rw [readAfter_of_skips c t k hskip] at h
    exact ne_zero_of_skips c t k hskip h.symm
  · exact readAfter_of_not_skips c t k

/-- Two instants of `Skips` for one anchor are whole turns of the uptime apart. -/
lemma ofNat_eq_zero_of_skips {j : ℕ} (hj : c.Skips t j) (hjk : c.Skips t (j + k)) :
    UInt32.ofNat k = 0 := by
  have hsum : kUptimeGet32 (c.uptime + (j + k)) = kUptimeGet32 (c.uptime + j) + UInt32.ofNat k := by
    rw [← Nat.add_assoc, kUptimeGet32, UInt32.ofNat_add, kUptimeGet32]
  rw [Skips, hsum] at hjk
  rcases hj with ⟨hu, ht⟩ | ⟨hu, ht⟩
  · rcases hjk with ⟨hu', -⟩ | ⟨-, ht'⟩
    · rw [hu] at hu'
      grind
    · rw [ht] at ht'
      grind
  · rcases hjk with ⟨-, ht'⟩ | ⟨hu', -⟩
    · rw [ht'] at ht
      grind
    · rw [hu] at hu'
      grind

/-- What follows a reading by `k` milliseconds agrees with a later reading exactly when both or none
of the two are at an instant of `Skips`. -/
lemma readAfter_add_iff (j : ℕ) :
    c.readAfter t (j + k) = c.readAfter t j + UInt32.ofNat k
      ↔ (c.Skips t j ↔ c.Skips t (j + k)) := by
  have htime : t + UInt32.ofNat (j + k) = t + UInt32.ofNat j + UInt32.ofNat k := by
    rw [UInt32.ofNat_add]
    grind
  by_cases hj : c.Skips t j
  · rw [readAfter_of_skips c t j hj, iff_true_left hj]
    constructor
    · intro h
      by_contra hnot
      rw [readAfter_of_not_skips c t _ hnot, htime] at h
      exact ne_zero_of_skips c t j hj (by grind)
    · intro hjk
      rw [readAfter_of_skips c t _ hjk, ofNat_eq_zero_of_skips c t k hj hjk]
      rfl
  · rw [readAfter_of_not_skips c t j hj, iff_false_left hj, ← htime, eslCGetAbsTime_update_iff]

end ApClock

/-! ## Agreement -/

/-- `esl_c_tag_abs_timer_update` writes the reading of the access point to the characteristic, as it
lies in memory. -/
def ApClock.eslCTagAbsTimerUpdate (c : ApClock) : AttWrite := .ofBytes (le32Bytes c.eslCGetAbsTime)

/-- `k` milliseconds after `w` the tag reads `t`, along every run that sets no other time. -/
def TagReadsAfter (cfg : Config) (ead : Ead) (d : TagDevice) (w : AttWrite) (k : ℕ) (t : UInt32) :
    Prop :=
  ∀ d₁ es d₂, d.step cfg ead (.absTimeWrite w) = some d₁ →
    TransitionSystem.run (TagDevice.step cfg ead) d₁ es = some d₂ →
      (∀ e ∈ es, e.KeepsAbsTime) → d₂.tag.uptime = d.tag.uptime + k → d₂.tag.absTime = t

lemma tagReadsAfter_iff (cfg : Config) (ead : Ead) (d : TagDevice) (w : AttWrite) (k : ℕ)
    (t : UInt32) :
    TagReadsAfter cfg ead d w k t ↔ t = sysGetLe32 w.buf.data 0 + UInt32.ofNat k := by
  constructor
  · intro h
    -- a run in which nothing happens but that time passes
    have huptime : (d.tag.absTimeWrite cfg w).2.uptime = d.tag.uptime := by
      simp only [EslTag.absTimeWrite, EslTag.eslIsConfiguringState]
      split <;> rfl
    have hkeeps : ∀ e ∈ [TagEvent.tick k], e.KeepsAbsTime := by
      simp [TagEvent.KeepsAbsTime, TagEvent.newAbsTime?]
    have hk : (d.tag.absTimeWrite cfg w).2.uptime + k = d.tag.uptime + k := by rw [huptime]
    have hwrite : d.step cfg ead (.absTimeWrite w)
        = some (d.onTag fun t => (t.absTimeWrite cfg w).2) := rfl
    rw [← h _ [.tick k] _ hwrite rfl hkeeps hk]
    exact TagDevice.absTime_run hwrite rfl hkeeps hk
  · rintro rfl d₁ es d₂ hwrite hrun hes hk
    exact TagDevice.absTime_run hwrite hrun hes hk

/-- `k` milliseconds after `w` wrote an absolute time to the tag and the access point was set to the
same one, both read `k` more. -/
def ClocksKeep (cfg : Config) (ead : Ead) (d : TagDevice) (w : AttWrite) (c : ApClock) (k : ℕ) :
    Prop :=
  let t := sysGetLe32 w.buf.data 0
  TagReadsAfter cfg ead d w k (UInt32.ofNat ((t.toNat + k) % 2 ^ 32))
    ∧ (c.readAfter t k).toNat = (t.toNat + k) % 2 ^ 32

/-- The absolute time of the access point is set to `t`; `j` milliseconds later the tag gets the
time from it, and another `k` milliseconds later the two read the same. -/
def TagFollows (cfg : Config) (ead : Ead) (d : TagDevice) (c : ApClock) (t : UInt32) (j k : ℕ) :
    Prop :=
  TagReadsAfter cfg ead d ((c.eslCAbsTimerUpdate t).tick j).eslCTagAbsTimerUpdate k
    (c.readAfter t (j + k))

/-- **The clocks agree** unless the access point reads at an instant of `Skips`: both read the
absolute time that was set and the milliseconds since, and a tag that has got its time from the
access point reads the same as the access point. -/
theorem clocksAgree_iff (cfg : Config) (ead : Ead) (d : TagDevice) (c : ApClock) (k : ℕ) :
    (∀ w, ClocksKeep cfg ead d w c k ↔ ¬ c.Skips (sysGetLe32 w.buf.data 0) k)
      ∧ ∀ t j, TagFollows cfg ead d c t j k ↔ (c.Skips t j ↔ c.Skips t (j + k)) := by
  constructor
  · intro w
    have htag : UInt32.ofNat (((sysGetLe32 w.buf.data 0).toNat + k) % 2 ^ 32)
        = sysGetLe32 w.buf.data 0 + UInt32.ofNat k := by
      rw [← ApClock.toNat_add_ofNat, UInt32.ofNat_toNat]
    rw [ClocksKeep, tagReadsAfter_iff, ← ApClock.toNat_add_ofNat, UInt32.toNat_inj,
      ApClock.eslCGetAbsTime_update_iff, ApClock.toNat_add_ofNat]
    exact and_iff_right htag
  · intro t j
    have hwritten : sysGetLe32 ((c.eslCAbsTimerUpdate t).tick j).eslCTagAbsTimerUpdate.buf.data 0
        = c.readAfter t j :=
      sysGetLe32_of_bytes rfl
    rw [TagFollows, tagReadsAfter_iff, hwritten]
    exact c.readAfter_add_iff t k j

/-- The two set their clocks to 5 at uptime 5. When the uptime of the access point reaches
`UINT32_MAX`, it reads zero, as it did when the time began. -/
theorem clocksAgree_fails :
    ¬ ClocksKeep .sample .clear (TagDevice.boot .sample {}) (.ofBytes [5, 0, 0, 0]) ⟨5, 0⟩
        (2 ^ 32 - 6)
    ∧ ¬ TagFollows .sample .clear (TagDevice.boot .sample {}) ⟨5, 0⟩ 5 0 (2 ^ 32 - 6) := by
  constructor
  · intro h
    exact absurd h.2 (by decide +kernel)
  · intro h
    rw [TagFollows, tagReadsAfter_iff] at h
    exact absurd h (by decide +kernel)

end NrfEsl
