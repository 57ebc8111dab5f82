import NrfEsl.LedArithmetic
import Mathlib.Data.Nat.Find

/-!
# Immediate and timed LED control

Both commands hand the LED over to the same worker.  An LED Timed Control leaves the start marker for
it, an LED Control 0, since `led_dwork_reset` comes after the marker was set; the worker takes 0 for
the end of a pass.  So an LED Control plays one pass less.

**Where the two agree.**  The bits of the passes are the same (`agree_of_not_ends`), and so is the end
by time.  The two playbacks are the same when the time ends both before either has played its passes
(`agree_of_timeOver`), or when the counter of passes never gets there; `samePlayback_iff` says that
these are the only cases.
-/

namespace NrfEsl

open LedDwork

namespace LedDwork

variable {o : LedObj} {w₁ w₂ : LedDwork} {clock : ℕ → UInt32} {now : ℕ → ℕ} {k : ℕ}

/-- The first runs of two playbacks made the same calls, and left the next run for the same time. -/
structure Agree (o : LedObj) (clock : ℕ → UInt32) (now : ℕ → ℕ) (w₁ w₂ : LedDwork) (k : ℕ) :
    Prop where
  calls : (play o clock now w₁ k).2 = (play o clock now w₂ k).2
  delays : k ≠ 0 → (play o clock now w₁ k).1.work = (play o clock now w₂ k).1.work

/-- The number of passes ends neither playback before run `k`. -/
def PassesOutlast (o : LedObj) (k : ℕ) : Prop :=
  256 ≤ o.repeatDuration.toNat ∨ k ≤ (o.repeatDuration.toNat - 1) * o.passLength

lemma PassesOutlast.not_lastPass (h : PassesOutlast o k) {counted : ℕ} (hcounted : counted ≤ 1)
    {j : ℕ} (hj : j < k) : ¬ LastPass o counted j := by
  rcases h with hlarge | hle
  · exact not_lastPass_of_large hlarge
  · by_cases hsmall : o.repeatDuration.toNat ≤ 255
    · refine not_lastPass_of_lt hsmall (Nat.lt_of_lt_of_le hj (hle.trans ?_))
      exact Nat.mul_le_mul_right _ (Nat.sub_le_sub_left hcounted _)
    · exact not_lastPass_of_large (by omega)

section Started

variable (hw₁ : Starts o 1 w₁) (hw₂ : Starts o 0 w₂) (hzero : o.repeatDuration ≠ 0)

include hw₁ hw₂ hzero

/-- As long as nothing ends either, the two agree. -/
lemma agree_of_not_ends (htime : ∀ j < k, ¬ TimeOver (stopTime o (clock 0)) (clock j))
    (hpasses : PassesOutlast o k) : Agree o clock now w₁ w₂ k := by
  have hgoes : ∀ counted ≤ 1, ∀ j < k, ¬ EndsAt o counted clock j := by
    intro counted hcounted j hj
    exact not_or.mpr ⟨htime j hj, hpasses.not_lastPass hcounted hj⟩
  obtain ⟨hcalls₁, hplay₁⟩ :=
    play_goesOn now hw₁ hzero (Nat.le_refl 1) (hgoes 1 (Nat.le_refl 1))
  obtain ⟨hcalls₂, hplay₂⟩ :=
    play_goesOn now hw₂ hzero (Nat.zero_le 1) (hgoes 0 (Nat.zero_le 1))
  refine ⟨hcalls₁.trans hcalls₂.symm, fun hk => ?_⟩
  rw [(hplay₁ hk).2, (hplay₂ hk).2]

/-- The time ends both in the same run. -/
lemma agree_of_timeOver {j : ℕ} (hjk : j < k)
    (htime : ∀ i < j, ¬ TimeOver (stopTime o (clock 0)) (clock i))
    (hover : TimeOver (stopTime o (clock 0)) (clock j)) (hpasses : PassesOutlast o (j + 1)) :
    Agree o clock now w₁ w₂ k := by
  have hgoes : ∀ counted ≤ 1, ∀ i < j, ¬ EndsAt o counted clock i := by
    intro counted hcounted i hi
    exact not_or.mpr ⟨htime i hi, hpasses.not_lastPass hcounted (Nat.lt_succ_of_lt hi)⟩
  have hlast : ∀ counted ≤ 1, lastCalls o counted clock j = [false] := by
    intro counted hcounted
    exact if_neg fun h => hpasses.not_lastPass hcounted (Nat.lt_succ_self j) h.2
  obtain ⟨hcalls₁, hended₁⟩ := play_ended now hw₁ hzero (Nat.le_refl 1)
    (hgoes 1 (Nat.le_refl 1)) (.inl hover) hjk
  obtain ⟨hcalls₂, hended₂⟩ := play_ended now hw₂ hzero (Nat.zero_le 1)
    (hgoes 0 (Nat.zero_le 1)) (.inl hover) hjk
  refine ⟨?_, fun _ => hended₁.work.trans hended₂.work.symm⟩
  rw [hcalls₁, hcalls₂, hlast 1 (Nat.le_refl 1), hlast 0 (Nat.zero_le 1)]

/-- The two agree in every run when the passes outlast the time, or are never counted to the end. -/
lemma agree_of_outlast (h : 256 ≤ o.repeatDuration.toNat
      ∨ ∃ j < (o.repeatDuration.toNat - 1) * o.passLength,
          TimeOver (stopTime o (clock 0)) (clock j)) (k : ℕ) :
    Agree o clock now w₁ w₂ k := by
  have hpasses : ∀ k, (∀ j < k, ¬ TimeOver (stopTime o (clock 0)) (clock j)) →
      PassesOutlast o k := by
    intro k htime
    refine h.imp_right ?_
    rintro ⟨j, hj, hover⟩
    by_contra hlt
    exact htime j (Nat.lt_of_lt_of_le hj (Nat.le_of_not_le hlt)) hover
  by_cases hex : ∃ j, j < k ∧ TimeOver (stopTime o (clock 0)) (clock j)
  · have hex' : ∃ j, TimeOver (stopTime o (clock 0)) (clock j) := hex.imp fun _ h => h.2
    obtain ⟨j, hjk, hover⟩ := hex
    have hfirst : Nat.find hex' < k := Nat.lt_of_le_of_lt (Nat.find_min' hex' hover) hjk
    refine agree_of_timeOver hw₁ hw₂ hzero hfirst (fun i hi => Nat.find_min hex' hi)
      (Nat.find_spec hex') (h.imp_right ?_)
    rintro ⟨i, hi, hover'⟩
    exact Nat.lt_of_le_of_lt (Nat.find_min' hex' hover') hi
  · have htime : ∀ j < k, ¬ TimeOver (stopTime o (clock 0)) (clock j) :=
      fun j hj hover => hex ⟨j, hj, hover⟩
    exact agree_of_not_ends hw₁ hw₂ hzero htime (hpasses k htime)

/-- When the passes are over first, the LED Control ends in a run that the LED Timed Control goes on
after, or ends with one call of `led_control` less. -/
lemma not_agree (hsmall : o.repeatDuration.toNat ≤ 255)
    (htime : ∀ j < (o.repeatDuration.toNat - 1) * o.passLength,
      ¬ TimeOver (stopTime o (clock 0)) (clock j)) :
    ¬ Agree o clock now w₁ w₂ ((o.repeatDuration.toNat - 1) * o.passLength + 1) := by
  have hpos : 1 ≤ o.repeatDuration.toNat := Nat.pos_of_ne_zero fun h => hzero (UInt16.toNat_inj.mp h)
  have hlast₁ := lastPass_end hsmall hpos
  have hlast₂ : ¬ LastPass o 0 ((o.repeatDuration.toNat - 1) * o.passLength) := by
    refine not_lastPass_of_lt hsmall ?_
    exact Nat.mul_lt_mul_of_pos_right (by omega) o.passLength_pos
  have houtlast : PassesOutlast o ((o.repeatDuration.toNat - 1) * o.passLength) :=
    .inr (Nat.le_refl _)
  generalize (o.repeatDuration.toNat - 1) * o.passLength = k at htime hlast₁ hlast₂ houtlast ⊢
  have hgoes : ∀ counted ≤ 1, ∀ j < k, ¬ EndsAt o counted clock j := by
    intro counted hcounted j hj
    exact not_or.mpr ⟨htime j hj, houtlast.not_lastPass hcounted hj⟩
  obtain ⟨hcalls₁, hended₁⟩ := play_ended now hw₁ hzero (Nat.le_refl 1)
    (hgoes 1 (Nat.le_refl 1)) (.inr hlast₁) k.lt_succ_self
  rintro ⟨hcalls, hdelays⟩
  by_cases hover : TimeOver (stopTime o (clock 0)) (clock k)
  · have hcalls₂ := (play_ended now hw₂ hzero (Nat.zero_le 1) (hgoes 0 (Nat.zero_le 1))
      (.inl hover) k.lt_succ_self).1
    rw [hcalls₁, hcalls₂, lastCalls, lastCalls, if_pos ⟨hover, hlast₁⟩,
      if_neg fun h => hlast₂ h.2] at hcalls
    have hlength := congrArg List.length (List.append_cancel_left hcalls)
    exact absurd hlength (by decide)
  · have hgoes₂ : ∀ j < k + 1, ¬ EndsAt o 0 clock j := by
      intro j hj
      rcases Nat.lt_succ_iff_lt_or_eq.mp hj with hlt | rfl
      · exact hgoes 0 (Nat.zero_le 1) j hlt
      · exact not_or.mpr ⟨hover, hlast₂⟩
    have hplay₂ := (play_goesOn now hw₂ hzero (Nat.zero_le 1) hgoes₂).2 k.succ_ne_zero
    have hwork := hdelays k.succ_ne_zero
    rw [hended₁.work, hplay₂.2] at hwork
    exact Option.some_ne_none _ hwork.symm

end Started

/-- Without a repeat duration the only run shows whether the LED is on. -/
lemma agree_of_zero (hw₁ : Starts o 1 w₁) (hw₂ : Starts o 0 w₂) (hzero : o.repeatDuration = 0)
    (k : ℕ) : Agree o clock now w₁ w₂ k := by
  rcases Nat.eq_zero_or_pos k with rfl | hk
  · exact ⟨rfl, fun h => absurd rfl h⟩
  · obtain ⟨hcalls₁, hwork₁, -⟩ := play_zero clock now hzero hw₁.scheduled hk
    obtain ⟨hcalls₂, hwork₂, -⟩ := play_zero clock now hzero hw₂.scheduled hk
    exact ⟨hcalls₁.trans hcalls₂.symm, fun _ => hwork₁.trans hwork₂.symm⟩

end LedDwork

/-! ## The two commands -/

variable {cfg : Config} {i : ℕ} {now : ℕ → ℕ} {t₁ t₂ : EslTag} {o : LedObj}

/-- **The same playback**: the runs are defined, they make the same calls of `led_control`, and leave
the next run for the same time. -/
structure SamePlayback (cfg : Config) (i : ℕ) (now : ℕ → ℕ) (t₁ t₂ : EslTag) : Prop where
  defined₁ : ∀ k, RunDefined cfg i now t₁ k
  defined₂ : ∀ k, RunDefined cfg i now t₂ k
  calls : ∀ k, ∃ calls, (t₁.ledPlay cfg i now k).out = t₁.out ++ calls
    ∧ (t₂.ledPlay cfg i now k).out = t₂.out ++ calls
  delays : ∀ k, k ≠ 0 → ((t₁.ledPlay cfg i now k).elems.ledDworks i).work
    = ((t₂.ledPlay cfg i now k).elems.ledDworks i).work

/-- The calls and delays of two tags, in terms of their delayed work. -/
lemma agree_iff (hi : i < cfg.ledMax) (hobj₁ : t₁.elems.ledObjs i = o)
    (hobj₂ : t₂.elems.ledObjs i = o) (hclock : t₁.assoc.absTimeAnchor = t₂.assoc.absTimeAnchor)
    (k : ℕ) :
    Agree o (fun k => t₁.clockAt (now k)) now (t₁.elems.ledDworks i) (t₂.elems.ledDworks i) k ↔
      (∃ calls, (t₁.ledPlay cfg i now k).out = t₁.out ++ calls
        ∧ (t₂.ledPlay cfg i now k).out = t₂.out ++ calls)
      ∧ (k ≠ 0 → ((t₁.ledPlay cfg i now k).elems.ledDworks i).work
        = ((t₂.ledPlay cfg i now k).elems.ledDworks i).work) := by
  obtain ⟨hled₁, hout₁, -⟩ := EslTag.ledPlay_eq hi now t₁ k
  obtain ⟨hled₂, hout₂, -⟩ := EslTag.ledPlay_eq hi now t₂ k
  have hclocks : (fun k => t₂.clockAt (now k)) = fun k => t₁.clockAt (now k) := by
    funext k
    rw [EslTag.clockAt, EslTag.clockAt, hclock]
  rw [hobj₁] at hled₁ hout₁
  rw [hobj₂, hclocks] at hled₂ hout₂
  have hdwork₁ := congrArg Led.dwork hled₁
  have hdwork₂ := congrArg Led.dwork hled₂
  simp only [EslTag.led] at hdwork₁ hdwork₂
  have hinjective : Function.Injective (TagOutput.ledControl i o.colorBrightness) := by
    intro b b' h
    injection h
  constructor
  · rintro ⟨hcalls, hdelays⟩
    refine ⟨⟨_, hout₁, ?_⟩, ?_⟩
    · rw [hout₂, hcalls]
    · rw [hdwork₁, hdwork₂]
      exact hdelays
  · rintro ⟨⟨calls, hcalls₁, hcalls₂⟩, hdelays⟩
    rw [hdwork₁, hdwork₂] at hdelays
    refine ⟨?_, hdelays⟩
    have hmap₁ := List.append_cancel_left (hout₁.symm.trans hcalls₁)
    have hmap₂ := List.append_cancel_left (hout₂.symm.trans hcalls₂)
    exact List.map_injective_iff.mpr hinjective (hmap₁.trans hmap₂.symm)

lemma samePlayback_iff_agree (hi : i < cfg.ledMax) (hobj₁ : t₁.elems.ledObjs i = o)
    (hobj₂ : t₂.elems.ledObjs i = o) (hclock : t₁.assoc.absTimeAnchor = t₂.assoc.absTimeAnchor) :
    SamePlayback cfg i now t₁ t₂ ↔
      ((∀ k, RunDefined cfg i now t₁ k) ∧ ∀ k, RunDefined cfg i now t₂ k)
      ∧ ∀ k, Agree o (fun k => t₁.clockAt (now k)) now (t₁.elems.ledDworks i)
          (t₂.elems.ledDworks i) k := by
  simp only [agree_iff hi hobj₁ hobj₂ hclock]
  constructor
  · rintro ⟨hdefined₁, hdefined₂, hcalls, hdelays⟩
    exact ⟨⟨hdefined₁, hdefined₂⟩, fun k => ⟨hcalls k, hdelays k⟩⟩
  · rintro ⟨⟨hdefined₁, hdefined₂⟩, h⟩
    exact ⟨hdefined₁, hdefined₂, fun k => (h k).1, fun k => (h k).2⟩

/-- **Agreement.**  An accepted LED Control and an accepted LED Timed Control with the same parameters
play the same exactly when the LED does not flash, or the passes are not what ends the LED Control:
there are more of them than the counter holds, or the time is over before. -/
theorem samePlayback_iff {ead : Ead} {d₁ d₁' d₂ d₂' : TagDevice} {e₁ e₂ : TagEvent}
    {absTime : UInt32} (hi : i < cfg.ledMax) (hstep₁ : d₁.step cfg ead e₁ = some d₁')
    (hop₁ : d₁.ledOp? cfg i e₁ = some (.control o)) (hstep₂ : d₂.step cfg ead e₂ = some d₂')
    (hop₂ : d₂.ledOp? cfg i e₂ = some (.arm absTime o))
    (hclock : d₁'.tag.assoc.absTimeAnchor = d₂'.tag.assoc.absTimeAnchor) (now : ℕ → ℕ) :
    SamePlayback cfg i now d₁'.tag d₂'.tag ↔ o.repeatDuration = 0 ∨ o.pattern ≠ 0
      ∧ (256 ≤ o.repeatDuration.toNat
        ∨ ∃ k < (o.repeatDuration.toNat - 1) * o.passLength,
            TimeOver (stopTime o (d₁'.tag.clockAt (now 0))) (d₁'.tag.clockAt (now k))) := by
  obtain ⟨hobj₁, hw₁⟩ := TagDevice.starts_of_control hi hstep₁ hop₁
  obtain ⟨hobj₂, hw₂⟩ := TagDevice.starts_of_arm hi hstep₂ hop₂
  have hdefined₁ := ledArithmetic_runs hi hobj₁ hw₁ now
  have hdefined₂ := ledArithmetic_runs hi hobj₂ hw₂ now
  rw [samePlayback_iff_agree hi hobj₁ hobj₂ hclock, hdefined₁, hdefined₂, and_self]
  by_cases hzero : o.repeatDuration = 0
  · exact iff_of_true ⟨.inr hzero, agree_of_zero hw₁ hw₂ hzero⟩ (.inl hzero)
  · simp only [hzero, or_false, false_or]
    refine and_congr_right fun _ => ⟨fun h => ?_, fun h => agree_of_outlast hw₁ hw₂ hzero h⟩
    by_contra hcontra
    obtain ⟨hsmall, htime⟩ := not_or.mp hcontra
    refine not_agree hw₁ hw₂ hzero (by omega) (fun j hj hover => htime ⟨j, hj, hover⟩) (h _)

/-- Pattern 1 for three seconds, with the second run after five. -/
theorem samePlayback_seconds :
    ∃ d₁ d₂, (ledControlled 1 3 1).step .sample .clear (.ecpWork {}) = some d₁
      ∧ (ledOrdered 1 3 1).step .sample .clear (.ecpWork {}) = some d₂
      ∧ SamePlayback .sample 0 (fun k => 5000 * k) d₁.tag d₂.tag := by
  have hstep₁ : ((ledControlled 1 3 1).step .sample .clear (.ecpWork {})).map
      (fun d => d.tag.assoc.absTimeAnchor) = some 0 := by decide +kernel
  have hstep₂ : ((ledOrdered 1 3 1).step .sample .clear (.ecpWork {})).map
      (fun d => d.tag.assoc.absTimeAnchor) = some 0 := by decide +kernel
  obtain ⟨d₁, hd₁, hanchor₁⟩ := Option.map_eq_some_iff.mp hstep₁
  obtain ⟨d₂, hd₂, hanchor₂⟩ := Option.map_eq_some_iff.mp hstep₂
  let o : LedObj := ⟨0x3F, #v[1, 0, 0, 0, 0], 50, 50, 1, 3⟩
  have hop₁ : (ledControlled 1 3 1).ledOp? .sample 0 (.ecpWork {}) = some (.control o) := by
    decide +kernel
  have hop₂ : (ledOrdered 1 3 1).ledOp? .sample 0 (.ecpWork {}) = some (.arm 995 o) := by
    decide +kernel
  have hover : TimeOver (stopTime o 0) 5000 := by decide +kernel
  have hpattern : o.pattern = 1 := by decide +kernel
  have hlength : o.passLength = 1 := by decide +kernel
  refine ⟨d₁, d₂, hd₁, hd₂, (samePlayback_iff (by decide) hd₁ hop₁ hd₂ hop₂
    (hanchor₁.trans hanchor₂.symm) fun k => 5000 * k).mpr (.inr ⟨?_, .inr ⟨1, ?_, ?_⟩⟩)⟩
  · rw [hpattern]
    decide
  · rw [hlength]
    decide
  · rw [EslTag.clockAt, EslTag.clockAt, hanchor₁]
    exact hover

/-- Pattern 1, once: the LED Control is over in its first run, the LED Timed Control shows the bit. -/
theorem not_samePlayback :
    ∃ d₁ d₂, (ledControlled 1 1 0).step .sample .clear (.ecpWork {}) = some d₁
      ∧ (ledOrdered 1 1 0).step .sample .clear (.ecpWork {}) = some d₂
      ∧ ¬ SamePlayback .sample 0 (fun k => 100 * k) d₁.tag d₂.tag := by
  have hruns₁ : ((ledControlled 1 1 0).step .sample .clear (.ecpWork {})).map (fun d =>
      ((d.tag.ledPlay .sample 0 (fun k => 100 * k) 1).elems.ledDworks 0).work) = some none := by
    decide +kernel
  have hruns₂ : ((ledOrdered 1 1 0).step .sample .clear (.ecpWork {})).map (fun d =>
      ((d.tag.ledPlay .sample 0 (fun k => 100 * k) 1).elems.ledDworks 0).work)
      = some (some 100) := by decide +kernel
  obtain ⟨d₁, hd₁, hwork₁⟩ := Option.map_eq_some_iff.mp hruns₁
  obtain ⟨d₂, hd₂, hwork₂⟩ := Option.map_eq_some_iff.mp hruns₂
  refine ⟨d₁, d₂, hd₁, hd₂, fun h => ?_⟩
  have hdelays := h.delays 1 Nat.one_ne_zero
  rw [hwork₁, hwork₂] at hdelays
  cases hdelays

end NrfEsl
