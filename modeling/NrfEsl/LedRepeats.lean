import NrfEsl.Tag.LedPlayback
import Mathlib.Data.Nat.Find

/-!
# How long an LED repeats its pattern

A flashing command repeats its pattern a number of times (Repeat_Type 0) or for a number of seconds
(Repeat_Type 1).  Both are followed from the acceptance of an LED Timed Control through every run of
the worker.

**By count** (`playsOut_iff`).  The worker leaves bit 0 out, since index 0 is also its mark for the end
of a pass, and it counts passes in eight bits.

**By time** (`flashesInTime_iff`).  The stop time is a 32-bit sum that is compared with a clock that
wraps, 0 means that there is none, and the number of passes ends the playback as well.
-/

namespace NrfEsl

open LedDwork

namespace LedObj

variable (o : LedObj)

/-- The pattern from its most significant set bit down to bit 0. -/
def patternBits : List Bool := (List.range (o.top + 1)).map fun j => o.pattern.testBit (o.top - j)

/-- The calls of a command that repeats by count: the repetitions, and one call that turns the LED
off. -/
def countedCalls : List Bool :=
  (List.replicate o.repeatDuration.toNat o.patternBits).flatten ++ [false]

variable {o}

lemma length_countedCalls :
    o.countedCalls.length = o.repeatDuration.toNat * (o.top + 1) + 1 := by
  simp [countedCalls, patternBits]

/-- A pass leaves nothing out when bit 0 is the only one. -/
lemma passLength_eq_iff (hpattern : o.pattern ≠ 0) : o.passLength = o.top + 1 ↔ o.pattern = 1 := by
  have htop : o.passLength = o.top + 1 ↔ o.top = 0 := by
    rw [passLength]
    omega
  rw [htop, top, Nat.log2_eq_iff hpattern]
  omega

end LedObj

namespace LedDwork

variable {o : LedObj} {counted k : ℕ}

lemma repeatDuration_pos (hzero : o.repeatDuration ≠ 0) : 0 < o.repeatDuration.toNat :=
  Nat.pos_of_ne_zero fun h => hzero (UInt16.toNat_inj.mp h)

/-- No run before the last pass ends one, and there is a last pass only when eight bits hold the
number. -/
lemma le_of_lastPass (hlast : LastPass o counted k) :
    o.repeatDuration.toNat ≤ 255 ∧ (o.repeatDuration.toNat - counted) * o.passLength ≤ k := by
  have hsmall : o.repeatDuration.toNat ≤ 255 := by
    by_contra hlarge
    exact not_lastPass_of_large (by omega) hlast
  refine ⟨hsmall, ?_⟩
  by_contra hlt
  exact not_lastPass_of_lt hsmall (Nat.lt_of_not_le hlt) hlast

end LedDwork

/-! ## By count -/

section Count

variable {cfg : Config} {i : ℕ} {t : EslTag} {o : LedObj}

/-- The runs of the worker make exactly these calls; with the last one the LED is inactive and nothing
is scheduled any more. -/
structure PlaysOut (cfg : Config) (i : ℕ) (now : ℕ → ℕ) (t : EslTag) (calls : List Bool) : Prop where
  out : ∀ k, (t.ledPlay cfg i now k).out
    = t.out ++ (calls.take k).map (.ledControl i (t.elems.ledObjs i).colorBrightness)
  ends : ∀ k, ((t.ledPlay cfg i now k).elems.ledDworks i).work = none ↔ calls.length ≤ k
  inactive : ∀ k, calls.length ≤ k → ((t.ledPlay cfg i now k).elems.ledDworks i).active = false

/-- The delayed work in a playback. -/
lemma dwork_ledPlay (hi : i < cfg.ledMax) (now : ℕ → ℕ) (t : EslTag) (k : ℕ) :
    (t.ledPlay cfg i now k).elems.ledDworks i
      = ((t.elems.ledDworks i).play (t.elems.ledObjs i) (fun k => t.clockAt (now k)) now k).1 :=
  congrArg Led.dwork (EslTag.ledPlay_eq hi now t k).1

lemma endsAt_iff_lastPass (htype : o.repeatType = 0) (clock : ℕ → UInt32) (k : ℕ) :
    EndsAt o 0 clock k ↔ LastPass o 0 k := by
  have hstop : stopTime o (clock 0) = 0 := by
    rw [stopTime, htype]
    rfl
  rw [EndsAt, hstop]
  exact or_iff_right fun h => h.1 rfl

/-- When a playback by count is over, and when it never is. -/
lemma work_ledPlay_iff (hi : i < cfg.ledMax) (hstart : (t.elems.ledDworks i).Starts o 0)
    (hobj : t.elems.ledObjs i = o) (hzero : o.repeatDuration ≠ 0) (htype : o.repeatType = 0)
    (now : ℕ → ℕ) (k : ℕ) :
    ((t.ledPlay cfg i now k).elems.ledDworks i).work = none ↔
      o.repeatDuration.toNat ≤ 255 ∧ o.repeatDuration.toNat * o.passLength < k := by
  rw [dwork_ledPlay hi, hobj]
  generalize (fun k => t.clockAt (now k)) = clock
  have hgoes : (∀ j < k, ¬ LastPass o 0 j) →
      ((t.elems.ledDworks i).play o clock now k).1.work ≠ none := by
    intro h
    by_cases hk : k = 0
    · subst hk
      exact hstart.scheduled
    · have hplay := play_goesOn now hstart hzero (Nat.zero_le _)
        fun j hj => (endsAt_iff_lastPass htype clock j).not.mpr (h j hj)
      exact (hplay.2 hk).1.scheduled
  constructor
  · intro hnone
    by_contra hcontra
    refine hgoes (fun j hj hlast => hcontra ?_) hnone
    obtain ⟨hsmall, hle⟩ := le_of_lastPass hlast
    exact ⟨hsmall, Nat.lt_of_le_of_lt hle hj⟩
  · rintro ⟨hsmall, hk⟩
    have hplay := play_ended now hstart hzero (Nat.zero_le _)
      (fun j hj => (endsAt_iff_lastPass htype clock j).not.mpr
        fun hlast => Nat.not_le.mpr hj (le_of_lastPass hlast).2)
      ((endsAt_iff_lastPass htype clock _).mpr (lastPass_end hsmall (Nat.zero_le _))) hk
    exact hplay.2.work

/-- With one bit a pass nothing is left out. -/
lemma map_bitOfRun_of_one (hone : o.pattern = 1) (k : ℕ) :
    (List.range k).map o.bitOfRun = List.replicate k true := by
  have hbit : o.bitOfRun = fun _ => true := by
    funext j
    have htop : o.top = 0 := by rw [LedObj.top, hone]; rfl
    rw [LedObj.bitOfRun, htop, hone, Nat.zero_sub]
    rfl
  rw [hbit, List.map_const', List.length_range]

lemma countedCalls_of_one (hone : o.pattern = 1) :
    o.countedCalls = List.replicate o.repeatDuration.toNat true ++ [false] := by
  have hbits : o.patternBits = [true] := by
    have htop : o.top = 0 := by rw [LedObj.top, hone]; rfl
    rw [LedObj.patternBits, htop, hone]
    rfl
  rw [LedObj.countedCalls, hbits]
  congr 1
  induction o.repeatDuration.toNat with
  | zero => rfl
  | succ n ih => rw [List.replicate_succ, List.flatten_cons, ih, List.replicate_succ]; rfl

/-- The pattern 1, repeated at most 255 times, is played as it should be. -/
lemma playsOut_of_one (hi : i < cfg.ledMax) (hstart : (t.elems.ledDworks i).Starts o 0)
    (hobj : t.elems.ledObjs i = o) (hzero : o.repeatDuration ≠ 0) (htype : o.repeatType = 0)
    (hone : o.pattern = 1) (hsmall : o.repeatDuration.toNat ≤ 255) (now : ℕ → ℕ) :
    PlaysOut cfg i now t o.countedCalls := by
  have hlength : o.passLength = 1 := by
    have htop : o.top = 0 := by rw [LedObj.top, hone]; rfl
    rw [LedObj.passLength, htop]
    rfl
  have hgoes : ∀ clock, ∀ j < o.repeatDuration.toNat, ¬ EndsAt o 0 clock j := by
    intro clock j hj hend
    have hle := (le_of_lastPass ((endsAt_iff_lastPass htype clock j).mp hend)).2
    rw [hlength, Nat.mul_one] at hle
    exact Nat.not_le.mpr hj hle
  have hend : ∀ clock, EndsAt o 0 clock o.repeatDuration.toNat := by
    intro clock
    have hlast := lastPass_end hsmall (Nat.zero_le o.repeatDuration.toNat)
    rw [hlength, Nat.mul_one, Nat.sub_zero] at hlast
    exact (endsAt_iff_lastPass htype clock _).mpr hlast
  have hplayed : ∀ clock k, ((t.elems.ledDworks i).play o clock now k).2 = o.countedCalls.take k
      ∧ (o.countedCalls.length ≤ k → Ended ((t.elems.ledDworks i).play o clock now k).1) := by
    intro clock k
    rw [countedCalls_of_one hone, List.length_append, List.length_replicate, List.length_singleton]
    by_cases hk : k ≤ o.repeatDuration.toNat
    · have hplay := play_goesOn now hstart hzero (Nat.zero_le _)
        fun j hj => hgoes clock j (Nat.lt_of_lt_of_le hj hk)
      refine ⟨?_, fun h => absurd h (by omega)⟩
      rw [hplay.1, map_bitOfRun_of_one hone, List.take_append_of_le_length (by simpa using hk),
        List.take_replicate, Nat.min_eq_left hk]
    · obtain ⟨hcalls, hended⟩ := play_ended now hstart hzero (Nat.zero_le _) (hgoes clock)
        (hend clock) (Nat.lt_of_not_le hk)
      have hlast : lastCalls o 0 clock o.repeatDuration.toNat = [false] := by
        have hstop : stopTime o (clock 0) = 0 := by rw [stopTime, htype]; rfl
        exact if_neg fun h => h.1.1 hstop
      refine ⟨?_, fun _ => hended⟩
      rw [hcalls, map_bitOfRun_of_one hone, hlast, List.take_of_length_le]
      simp
      omega
  refine ⟨fun k => ?_, fun k => ?_, fun k hk => ?_⟩
  · have hout := (EslTag.ledPlay_eq hi now t k).2.1
    rw [hobj] at hout
    rw [hout, (hplayed _ k).1, hobj]
  · rw [work_ledPlay_iff hi hstart hobj hzero htype, LedObj.length_countedCalls,
      ← (LedObj.passLength_eq_iff (by rw [hone]; decide)).mpr hone, hlength]
    omega
  · rw [dwork_ledPlay hi, hobj]
    exact ((hplayed _ k).2 hk).active

/-- **By count.**  After an accepted LED Timed Control the worker plays the pattern as often as it
says, and turns the LED off, exactly when the pattern is 1 and the number at most 255. -/
theorem playsOut_iff {ead : Ead} {d d' : TagDevice} {e : TagEvent} {absTime : UInt32}
    (hi : i < cfg.ledMax) (hstep : d.step cfg ead e = some d')
    (hop : d.ledOp? cfg i e = some (.arm absTime o)) (hpattern : o.pattern ≠ 0)
    (hzero : o.repeatDuration ≠ 0) (htype : o.repeatType = 0) (now : ℕ → ℕ) :
    PlaysOut cfg i now d'.tag o.countedCalls ↔ o.pattern = 1 ∧ o.repeatDuration.toNat ≤ 255 := by
  obtain ⟨hobj, hstart⟩ := TagDevice.starts_of_arm hi hstep hop
  constructor
  · intro h
    have hend := (h.ends o.countedCalls.length).mpr (Nat.le_refl _)
    rw [work_ledPlay_iff hi hstart hobj hzero htype] at hend
    obtain ⟨hsmall, hlt⟩ := hend
    -- The playback is over after its last pass, and not before the calls are made.
    have hover := (h.ends (o.repeatDuration.toNat * o.passLength + 1)).mp
      ((work_ledPlay_iff hi hstart hobj hzero htype now _).mpr ⟨hsmall, Nat.lt_succ_self _⟩)
    rw [LedObj.length_countedCalls] at hover
    have hle : o.top + 1 ≤ o.passLength :=
      Nat.le_of_mul_le_mul_left (by omega) (repeatDuration_pos hzero)
    refine ⟨(LedObj.passLength_eq_iff hpattern).mp ?_, hsmall⟩
    rw [LedObj.passLength] at hle ⊢
    omega
  · rintro ⟨hone, hsmall⟩
    exact playsOut_of_one hi hstart hobj hzero htype hone hsmall now

/-- Pattern 1, twice. -/
theorem playsOut_twice :
    ∃ d', (ledOrdered 1 2 0).step .sample .clear (.ecpWork {}) = some d'
      ∧ PlaysOut .sample 0 (fun k => k) d'.tag [true, true, false] := by
  have hstep : ((ledOrdered 1 2 0).step .sample .clear (.ecpWork {})).isSome := by decide +kernel
  obtain ⟨d', hd'⟩ := Option.isSome_iff_exists.mp hstep
  let o : LedObj := ⟨0x3F, #v[1, 0, 0, 0, 0], 50, 50, 0, 2⟩
  have hop : (ledOrdered 1 2 0).ledOp? .sample 0 (.ecpWork {}) = some (.arm 995 o) := by
    decide +kernel
  have hplays := (playsOut_iff (by decide) hd' hop (by decide +kernel) (by decide) rfl
    fun k => k).mpr (by decide +kernel)
  have hcalls : o.countedCalls = [true, true, false] := by decide +kernel
  rw [hcalls] at hplays
  exact ⟨d', hd', hplays⟩

/-- Pattern 5, once: the playback is over after three runs, without bit 0. -/
theorem not_playsOut :
    ∃ d', (ledOrdered 5 1 0).step .sample .clear (.ecpWork {}) = some d'
      ∧ ¬ PlaysOut .sample 0 (fun k => k) d'.tag [true, false, true, false] := by
  have hover : ((ledOrdered 5 1 0).step .sample .clear (.ecpWork {})).map (fun d' =>
      ((d'.tag.ledPlay .sample 0 (fun k => k) 3).elems.ledDworks 0).work) = some none := by
    decide +kernel
  obtain ⟨d', hd', hnone⟩ := Option.map_eq_some_iff.mp hover
  refine ⟨d', hd', fun h => ?_⟩
  have hlength : 4 ≤ 3 := (h.ends 3).mp hnone
  omega

end Count

/-! ## By time -/

section Time

variable {cfg : Config} {i : ℕ} {t : EslTag} {o : LedObj} {now : ℕ → ℕ} {counted k : ℕ}

/-- The milliseconds from the first run to run `k`. -/
def elapsed (now : ℕ → ℕ) (k : ℕ) : ℕ := now k - now 0

/-- The repeat duration in milliseconds. -/
def LedObj.duration (o : LedObj) : ℕ := o.repeatDuration.toNat * msecPerSec

/-- The bit that run `k` shows if every pass goes down to bit 0. -/
def LedObj.patternBit (o : LedObj) (k : ℕ) : Bool := o.pattern.testBit (o.top - k % (o.top + 1))

/-- Run `k` happens. -/
def Happens (cfg : Config) (i : ℕ) (now : ℕ → ℕ) (t : EslTag) (k : ℕ) : Prop :=
  ((t.ledPlay cfg i now k).elems.ledDworks i).work ≠ none

/-- Run `k` leaves the LED active, and the next run scheduled. -/
structure GoesOn (cfg : Config) (i : ℕ) (now : ℕ → ℕ) (t : EslTag) (k : ℕ) : Prop where
  active : ((t.ledPlay cfg i now (k + 1)).elems.ledDworks i).active = true
  scheduled : Happens cfg i now t (k + 1)

/-- Run `k` turns the LED off: it is inactive, and nothing is scheduled. -/
structure TurnsOff (cfg : Config) (i : ℕ) (now : ℕ → ℕ) (t : EslTag) (k : ℕ) : Prop where
  off : (t.ledPlay cfg i now (k + 1)).out.getLast?
    = some (.ledControl i (t.elems.ledObjs i).colorBrightness false)
  inactive : ((t.ledPlay cfg i now (k + 1)).elems.ledDworks i).active = false
  unscheduled : ¬ Happens cfg i now t (k + 1)

/-- **The LED flashes until its time is over**, and is off at the first run after that. -/
def KeepsFlashing (cfg : Config) (i : ℕ) (now : ℕ → ℕ) (t : EslTag) : Prop :=
  ∀ k, Happens cfg i now t k →
    if elapsed now k ≤ (t.elems.ledObjs i).duration then GoesOn cfg i now t k
    else TurnsOff cfg i now t k

/-- In its time the LED shows one pass after the other. -/
def ShowsPattern (cfg : Config) (i : ℕ) (now : ℕ → ℕ) (t : EslTag) : Prop :=
  ∀ k, Happens cfg i now t k → elapsed now k ≤ (t.elems.ledObjs i).duration →
    (t.ledPlay cfg i now (k + 1)).out = (t.ledPlay cfg i now k).out
      ++ [.ledControl i (t.elems.ledObjs i).colorBrightness ((t.elems.ledObjs i).patternBit k)]

/-- When a playback by time is what it should be; `start` is the clock at the first run. -/
structure InTime (o : LedObj) (counted start : ℕ) (now : ℕ → ℕ) : Prop where
  /-- The stop time fits into 32 bits, or is just 0. -/
  fits : start + o.duration ≤ 2 ^ 32
  /-- The passes that the counter allows take longer. -/
  passes : o.repeatDuration.toNat ≤ 255 →
    o.duration < elapsed now ((o.repeatDuration.toNat - counted) * o.passLength)
  /-- The first run after the time finds the clock behind the stop time, or ends the last pass. -/
  stops : ∀ k, o.duration < elapsed now k → (∀ j < k, elapsed now j ≤ o.duration) →
    (start + o.duration < 2 ^ 32 ∧ start + o.duration < (start + elapsed now k) % 2 ^ 32)
      ∨ (o.repeatDuration.toNat ≤ 255 ∧ k = (o.repeatDuration.toNat - counted) * o.passLength)

lemma toNat_clockAt (t : EslTag) (h : now 0 ≤ now k) :
    (t.clockAt (now k)).toNat = ((t.clockAt (now 0)).toNat + elapsed now k) % 2 ^ 32 := by
  have hnow : now k = now 0 + elapsed now k := by
    rw [elapsed]
    omega
  have hclock : t.clockAt (now k) = t.clockAt (now 0) + UInt32.ofNat (elapsed now k) := by
    rw [EslTag.clockAt, EslTag.clockAt, hnow, UInt32.ofNat_add, UInt32.sub_eq_add_neg,
      UInt32.sub_eq_add_neg, UInt32.add_assoc, UInt32.add_comm (UInt32.ofNat (elapsed now k)),
      ← UInt32.add_assoc]
  rw [hclock, UInt32.toNat_add, UInt32.toNat_ofNat', Nat.add_mod_mod]

/-- A run that ends a playback by time, in numbers: the sum is taken and compared modulo 2^32, and the
passes are counted as well. -/
def EndsBy (o : LedObj) (counted start : ℕ) (now : ℕ → ℕ) (k : ℕ) : Prop :=
  ((start + o.duration) % 2 ^ 32 ≠ 0
      ∧ (start + o.duration) % 2 ^ 32 < (start + elapsed now k) % 2 ^ 32)
    ∨ LastPass o counted k

lemma endsAt_iff_endsBy (htype : o.repeatType = 1) (hmono : Monotone now) (t : EslTag) (k : ℕ) :
    EndsAt o counted (fun k => t.clockAt (now k)) k ↔ EndsBy o counted (t.clockAt (now 0)).toNat now k := by
  have hstop : (stopTime o (t.clockAt (now 0))).toNat
      = ((t.clockAt (now 0)).toNat + o.duration) % 2 ^ 32 := by
    rw [stopTime, if_pos htype, UInt32.toNat_add, UInt32.toNat_ofNat', Nat.add_mod_mod]
    rfl
  have hzero : stopTime o (t.clockAt (now 0)) ≠ 0
      ↔ ((t.clockAt (now 0)).toNat + o.duration) % 2 ^ 32 ≠ 0 := by
    rw [← hstop, ne_eq, ne_eq, ← UInt32.toNat_inj, UInt32.toNat_zero]
  simp only [EndsAt, EndsBy, TimeOver, UInt32.lt_iff_toNat_lt, hstop, hzero,
    toNat_clockAt t (hmono (Nat.zero_le k))]

/-! ### The arithmetic of the stop time -/

lemma elapsed_zero (now : ℕ → ℕ) : elapsed now 0 = 0 := Nat.sub_self _

lemma elapsed_le (hmono : Monotone now) {j : ℕ} (hjk : j ≤ k) : elapsed now j ≤ elapsed now k :=
  Nat.sub_le_sub_right (hmono hjk) _

lemma duration_lt (o : LedObj) : o.duration < 2 ^ 32 := by
  have := o.repeatDuration.toNat_lt
  rw [LedObj.duration, msecPerSec]
  omega

/-- The playback ends where its time does: a run that nothing ended before it goes on exactly when the
time is not over. -/
def EndsInTime (o : LedObj) (counted start : ℕ) (now : ℕ → ℕ) : Prop :=
  ∀ k, (∀ j < k, ¬ EndsBy o counted start now j) →
    (elapsed now k ≤ o.duration ↔ ¬ EndsBy o counted start now k)

variable {start : ℕ}

/-- Nothing ends the playback before its time is over. -/
lemma EndsInTime.goesOn (h : EndsInTime o counted start now) (htime : ∀ j < k, elapsed now j ≤ o.duration) :
    ∀ j < k, ¬ EndsBy o counted start now j := by
  induction k with
  | zero => exact fun j hj => absurd hj (Nat.not_lt_zero j)
  | succ k ih =>
      intro j hj
      have hbefore := ih fun j hj => htime j (Nat.lt_succ_of_lt hj)
      rcases Nat.lt_succ_iff_lt_or_eq.mp hj with hlt | rfl
      · exact hbefore j hlt
      · exact (h j hbefore).mp (htime j j.lt_succ_self)

/-- The first run finds the stop time not over. -/
lemma EndsInTime.fits (h : EndsInTime o counted start now) (hstart : start < 2 ^ 32) :
    start + o.duration ≤ 2 ^ 32 := by
  have hduration := duration_lt o
  have hend := (h 0 fun j hj => absurd hj (Nat.not_lt_zero j)).mp (by rw [elapsed_zero]; omega)
  rw [EndsBy, elapsed_zero] at hend
  obtain ⟨htime, -⟩ := not_or.mp hend
  omega

lemma inTime_of_endsInTime (hmono : Monotone now) (hcounted : counted ≤ o.repeatDuration.toNat)
    (hstart : start < 2 ^ 32) (h : EndsInTime o counted start now) : InTime o counted start now := by
  have hduration := duration_lt o
  have hfits := h.fits hstart
  refine ⟨hfits, fun hsmall => ?_, fun k hk hfirst => ?_⟩
  · by_contra hle
    refine h.goesOn (k := (o.repeatDuration.toNat - counted) * o.passLength + 1) (fun j hj => ?_) _
      (Nat.lt_succ_self _) (.inr (lastPass_end hsmall hcounted))
    exact (elapsed_le hmono (Nat.le_of_lt_succ hj)).trans (Nat.le_of_not_lt hle)
  · have hgoes := h.goesOn hfirst
    have hend : EndsBy o counted start now k := by
      by_contra hend
      exact absurd ((h k hgoes).mpr hend) (Nat.not_le.mpr hk)
    rcases hend with htime | hlast
    · left
      omega
    · right
      obtain ⟨hsmall, hle⟩ := le_of_lastPass hlast
      refine ⟨hsmall, ?_⟩
      rcases Nat.lt_or_eq_of_le hle with hlt | heq
      · exact absurd (.inr (lastPass_end hsmall hcounted)) (hgoes _ hlt)
      · exact heq.symm

lemma endsInTime_of_inTime (hmono : Monotone now) (hzero : o.repeatDuration ≠ 0)
    (hcounted : counted ≤ o.repeatDuration.toNat) (h : InTime o counted start now) : EndsInTime o counted start now := by
  have hduration : 0 < o.duration := by
    have := repeatDuration_pos hzero
    rw [LedObj.duration, msecPerSec]
    omega
  have hfits := h.fits
  -- The first run after the time ends the playback.
  have hstops : ∀ k, o.duration < elapsed now k → (∀ j < k, elapsed now j ≤ o.duration) →
      EndsBy o counted start now k := by
    intro k hk hfirst
    rcases h.stops k hk hfirst with hover | ⟨hsmall, rfl⟩
    · left
      omega
    · exact .inr (lastPass_end hsmall hcounted)
  intro k hgoes
  by_cases htime : elapsed now k ≤ o.duration
  · refine iff_of_true htime fun hend => ?_
    rcases hend with hover | hlast
    · omega
    · obtain ⟨hsmall, hle⟩ := le_of_lastPass hlast
      have hpasses := h.passes hsmall
      have hle' := elapsed_le hmono hle
      omega
  · have hex : ∃ j, o.duration < elapsed now j := ⟨k, Nat.lt_of_not_le htime⟩
    have hend := hstops (Nat.find hex) (Nat.find_spec hex)
      fun j hj => Nat.le_of_not_lt (Nat.find_min hex hj)
    rcases Nat.lt_or_eq_of_le (Nat.find_min' hex (Nat.lt_of_not_le htime)) with hlt | heq
    · exact absurd hend (hgoes _ hlt)
    · rw [heq] at hend
      exact iff_of_false htime (not_not.mpr hend)

/-! ### The bits -/

/-- What leaves the omission of bit 0 unseen in the time: from the run that should show bit 0 on, all
bits that were shown are set, and so is bit 0. -/
def OmissionUnseen (o : LedObj) (now : ℕ → ℕ) : Prop :=
  ∀ k, o.top ≤ k → elapsed now k ≤ o.duration →
    o.pattern.testBit 0 = true ∧ o.pattern.testBit (2 * o.top - k) = true

/-- The bits of the runs in the time are those of whole passes. -/
lemma bits_iff (hmono : Monotone now) (hpattern : o.pattern ≠ 0) :
    (∀ k, elapsed now k ≤ o.duration → o.bitOfRun k = o.patternBit k) ↔ OmissionUnseen o now := by
  have htop : o.pattern.testBit o.top = true := Nat.testBit_log2 hpattern
  have hlength : o.passLength = max o.top 1 := rfl
  constructor
  · intro h k hk
    -- Each run shows the bit after the one it should show, so a set bit is followed by a set bit.
    induction k, hk using Nat.le_induction with
    | base =>
        intro htime
        have hbit := h o.top htime
        rcases Nat.eq_zero_or_pos o.top with hzero | hpos
        · rw [hzero] at htop ⊢
          exact ⟨htop, htop⟩
        · rw [LedObj.bitOfRun, LedObj.patternBit, hlength, Nat.max_eq_left hpos, Nat.mod_self,
            Nat.sub_zero, htop, Nat.mod_eq_of_lt (Nat.lt_succ_self _), Nat.sub_self] at hbit
          refine ⟨hbit.symm, ?_⟩
          rw [Nat.two_mul, Nat.add_sub_cancel]
          exact htop
    | succ k hk ih =>
        intro htime
        obtain ⟨hzeroBit, hset⟩ := ih ((elapsed_le hmono (Nat.le_succ k)).trans htime)
        refine ⟨hzeroBit, ?_⟩
        rcases Nat.lt_or_ge (k + 1) (2 * o.top) with hlt | hge
        · have hbit := h (k + 1) htime
          have hrun : (k + 1) % o.passLength = k + 1 - o.top := by
            rw [hlength, Nat.max_eq_left (by omega), Nat.mod_eq_sub_mod (by omega),
              Nat.mod_eq_of_lt (by omega)]
          have hwhole : (k + 1) % (o.top + 1) = k - o.top := by
            rw [Nat.mod_eq_sub_mod (by omega), Nat.mod_eq_of_lt (by omega)]
            omega
          rw [LedObj.bitOfRun, LedObj.patternBit, hrun, hwhole,
            show o.top - (k + 1 - o.top) = 2 * o.top - (k + 1) by omega,
            show o.top - (k - o.top) = 2 * o.top - k by omega, hset] at hbit
          exact hbit
        · rw [Nat.sub_eq_zero_of_le hge]
          exact hzeroBit
  · intro h k htime
    have hset : ∀ j, o.top + j ≤ k → o.pattern.testBit (o.top - j) = true := by
      intro j hj
      have hbit := (h (o.top + j) (Nat.le_add_right _ _) ((elapsed_le hmono hj).trans htime)).2
      rw [show 2 * o.top - (o.top + j) = o.top - j by omega] at hbit
      exact hbit
    rcases Nat.lt_or_ge k o.top with hlt | hge
    · rw [LedObj.bitOfRun, LedObj.patternBit, hlength, Nat.max_eq_left (by omega),
        Nat.mod_eq_of_lt hlt, Nat.mod_eq_of_lt (Nat.lt_succ_of_lt hlt)]
    · have hzeroBit := (h k hge htime).1
      have hrun : o.bitOfRun k = true := by
        rw [LedObj.bitOfRun, hlength]
        rcases Nat.eq_zero_or_pos o.top with hzero | hpos
        · rw [hzero, Nat.zero_sub]
          exact hzeroBit
        · rw [Nat.max_eq_left hpos, Nat.mod_eq_sub_mod hge]
          have hle := Nat.mod_le (k - o.top) o.top
          exact hset _ (by omega)
      have hwhole : o.patternBit k = true := by
        rw [LedObj.patternBit]
        rcases Nat.lt_or_eq_of_le hge with hgt | heq
        · rw [Nat.mod_eq_sub_mod (show o.top + 1 ≤ k from hgt)]
          have hle := Nat.mod_le (k - (o.top + 1)) (o.top + 1)
          exact hset _ (by omega)
        · rw [← heq, Nat.mod_eq_of_lt (Nat.lt_succ_self _), Nat.sub_self]
          exact hzeroBit
      rw [hrun, hwhole]

section Started

variable (hi : i < cfg.ledMax) (hstart : (t.elems.ledDworks i).Starts o counted)
  (hobj : t.elems.ledObjs i = o) (hzero : o.repeatDuration ≠ 0) (hcounted : counted ≤ 1)

include hi hstart hobj hzero hcounted

/-- A run happens when no run before it ended the playback. -/
lemma happens_iff :
    Happens cfg i now t k ↔ ∀ j < k, ¬ EndsAt o counted (fun k => t.clockAt (now k)) j := by
  rw [Happens, dwork_ledPlay hi, hobj]
  constructor
  · intro hwork j hj hend
    -- The first run that ends the playback.
    have hex : ∃ j, EndsAt o counted (fun k => t.clockAt (now k)) j := ⟨j, hend⟩
    have hfirst : Nat.find hex < k := Nat.lt_of_le_of_lt (Nat.find_min' hex hend) hj
    exact hwork (play_ended now hstart hzero hcounted (fun j hj => Nat.find_min hex hj)
      (Nat.find_spec hex) hfirst).2.work
  · intro hgoes
    by_cases hk : k = 0
    · subst hk
      exact hstart.scheduled
    · exact ((play_goesOn now hstart hzero hcounted hgoes).2 hk).1.scheduled

lemma goesOn_of_not_ends (hgoes : ∀ j < k + 1, ¬ EndsAt o counted (fun k => t.clockAt (now k)) j) :
    GoesOn cfg i now t k := by
  have hplay := (play_goesOn now hstart hzero hcounted hgoes).2 (Nat.succ_ne_zero k)
  refine ⟨?_, (happens_iff hi hstart hobj hzero hcounted).mpr hgoes⟩
  rw [dwork_ledPlay hi, hobj]
  exact hplay.1.active

lemma turnsOff_of_ends (hgoes : ∀ j < k, ¬ EndsAt o counted (fun k => t.clockAt (now k)) j)
    (hend : EndsAt o counted (fun k => t.clockAt (now k)) k) : TurnsOff cfg i now t k := by
  obtain ⟨hcalls, hended⟩ :=
    play_ended now hstart hzero hcounted hgoes hend k.lt_succ_self
  refine ⟨?_, ?_, fun h => ?_⟩
  · have hout := (EslTag.ledPlay_eq hi now t (k + 1)).2.1
    rw [hobj, hcalls, lastCalls, List.map_append, ← List.append_assoc] at hout
    rw [hout, hobj]
    split <;> simp
  · rw [dwork_ledPlay hi, hobj]
    exact hended.active
  · exact (happens_iff hi hstart hobj hzero hcounted).mp h k k.lt_succ_self hend

/-- The playback in terms of the runs that end it. -/
lemma keepsFlashing_iff_ends :
    KeepsFlashing cfg i now t ↔ ∀ k,
      (∀ j < k, ¬ EndsAt o counted (fun k => t.clockAt (now k)) j) →
        (elapsed now k ≤ o.duration ↔ ¬ EndsAt o counted (fun k => t.clockAt (now k)) k) := by
  have hsucc : ∀ k, (∀ j < k, ¬ EndsAt o counted (fun k => t.clockAt (now k)) j) →
      ¬ EndsAt o counted (fun k => t.clockAt (now k)) k →
      ∀ j < k + 1, ¬ EndsAt o counted (fun k => t.clockAt (now k)) j := by
    intro k hgoes hk j hj
    rcases Nat.lt_succ_iff_lt_or_eq.mp hj with hlt | rfl
    · exact hgoes j hlt
    · exact hk
  constructor
  · intro h k hgoes
    have hrun := h k ((happens_iff hi hstart hobj hzero hcounted).mpr hgoes)
    rw [hobj] at hrun
    by_cases htime : elapsed now k ≤ o.duration
    · rw [if_pos htime] at hrun
      refine iff_of_true htime fun hend => ?_
      exact (turnsOff_of_ends hi hstart hobj hzero hcounted hgoes hend).unscheduled hrun.scheduled
    · rw [if_neg htime] at hrun
      refine iff_of_false htime fun hend => ?_
      exact hrun.unscheduled (goesOn_of_not_ends hi hstart hobj hzero hcounted (hsucc k hgoes hend)).scheduled
  · intro h k hhappens
    have hgoes := (happens_iff hi hstart hobj hzero hcounted).mp hhappens
    rw [hobj]
    by_cases htime : elapsed now k ≤ o.duration
    · rw [if_pos htime]
      exact goesOn_of_not_ends hi hstart hobj hzero hcounted (hsucc k hgoes ((h k hgoes).mp htime))
    · rw [if_neg htime]
      refine turnsOff_of_ends hi hstart hobj hzero hcounted hgoes ?_
      by_contra hend
      exact htime ((h k hgoes).mpr hend)

lemma keepsFlashing_iff_inTime (htype : o.repeatType = 1) (hmono : Monotone now) :
    KeepsFlashing cfg i now t ↔ InTime o counted (t.clockAt (now 0)).toNat now := by
  rw [keepsFlashing_iff_ends hi hstart hobj hzero hcounted]
  simp only [endsAt_iff_endsBy htype hmono t]
  have hcounted := hcounted.trans (repeatDuration_pos hzero)
  exact ⟨inTime_of_endsInTime hmono hcounted (t.clockAt (now 0)).toNat_lt,
    endsInTime_of_inTime hmono hzero hcounted⟩

/-- The bits that the runs show when the time is kept. -/
lemma showsPattern_iff (hpattern : o.pattern ≠ 0) (htype : o.repeatType = 1) (hmono : Monotone now)
    (htime : InTime o counted (t.clockAt (now 0)).toNat now) :
    ShowsPattern cfg i now t ↔ OmissionUnseen o now := by
  have hends := endsInTime_of_inTime hmono hzero (hcounted.trans (repeatDuration_pos hzero)) htime
  rw [← bits_iff hmono hpattern]
  have hrun : ∀ k, elapsed now k ≤ o.duration →
      Happens cfg i now t k ∧ (t.ledPlay cfg i now (k + 1)).out = (t.ledPlay cfg i now k).out
        ++ [.ledControl i o.colorBrightness (o.bitOfRun k)] := by
    intro k hk
    have hgoes : ∀ j < k + 1, ¬ EndsAt o counted (fun k => t.clockAt (now k)) j := by
      intro j hj
      rw [endsAt_iff_endsBy htype hmono t]
      exact hends.goesOn
        (fun j hj => (elapsed_le hmono (Nat.le_of_lt_succ hj)).trans hk) j hj
    have hbefore : ∀ j < k, ¬ EndsAt o counted (fun k => t.clockAt (now k)) j :=
      fun j hj => hgoes j (Nat.lt_succ_of_lt hj)
    refine ⟨(happens_iff hi hstart hobj hzero hcounted).mpr hbefore, ?_⟩
    have hout := (EslTag.ledPlay_eq hi now t k).2.1
    have hout' := (EslTag.ledPlay_eq hi now t (k + 1)).2.1
    rw [hobj, (play_goesOn now hstart hzero hcounted hbefore).1] at hout
    rw [hobj, (play_goesOn now hstart hzero hcounted hgoes).1, List.range_succ,
      List.map_append, List.map_append, ← List.append_assoc, ← hout] at hout'
    exact hout'
  constructor
  · intro h k hk
    obtain ⟨hhappens, hout⟩ := hrun k hk
    have hshows := h k hhappens (by rw [hobj]; exact hk)
    rw [hout, hobj] at hshows
    have hlast := List.append_cancel_left hshows
    simp only [List.cons.injEq, TagOutput.ledControl.injEq, true_and, and_true] at hlast
    exact hlast
  · intro h k _ hk
    rw [hobj] at hk ⊢
    rw [(hrun k hk).2, h k hk]

end Started

/-- **By time.**  After an accepted LED command the LED shows its pattern until the time is over, and
is off at the first run after that, exactly when the stop time fits into 32 bits and is noticed, the
passes take longer than the time, and nothing shows that bit 0 is left out. -/
theorem flashesInTime_iff {ead : Ead} {d d' : TagDevice} {e : TagEvent} (hi : i < cfg.ledMax)
    (hstep : d.step cfg ead e = some d')
    (hop : (d.ledOp? cfg i e).bind LedOp.playback? = some (o, counted)) (hpattern : o.pattern ≠ 0)
    (hzero : o.repeatDuration ≠ 0) (htype : o.repeatType = 1) (hmono : Monotone now) :
    KeepsFlashing cfg i now d'.tag ∧ ShowsPattern cfg i now d'.tag ↔
      InTime o counted (d'.tag.clockAt (now 0)).toNat now ∧ OmissionUnseen o now := by
  obtain ⟨hobj, hstart, hcounted⟩ := TagDevice.starts_of_playback hi hstep hop
  rw [keepsFlashing_iff_inTime hi hstart hobj hzero hcounted htype hmono]
  refine and_congr_right fun htime => ?_
  exact showsPattern_iff hi hstart hobj hzero hcounted hpattern htype hmono htime

/-- Pattern 1 for a second, with the second run after two. -/
theorem flashesInTime_second :
    ∃ d', (ledOrdered 1 1 1).step .sample .clear (.ecpWork {}) = some d'
      ∧ KeepsFlashing .sample 0 (fun k => 2000 * k) d'.tag
      ∧ ShowsPattern .sample 0 (fun k => 2000 * k) d'.tag := by
  have hstep : ((ledOrdered 1 1 1).step .sample .clear (.ecpWork {})).map
      (fun d' => d'.tag.assoc.absTimeAnchor) = some 0 := by decide +kernel
  obtain ⟨d', hd', hanchor⟩ := Option.map_eq_some_iff.mp hstep
  let o : LedObj := ⟨0x3F, #v[1, 0, 0, 0, 0], 50, 50, 1, 1⟩
  have hop : ((ledOrdered 1 1 1).ledOp? .sample 0 (.ecpWork {})).bind LedOp.playback?
      = some (o, 0) := by decide +kernel
  have hmono : Monotone fun k : ℕ => 2000 * k := fun _ _ h => Nat.mul_le_mul_left 2000 h
  have helapsed : ∀ k, elapsed (fun k => 2000 * k) k = 2000 * k := fun k => by
    rw [elapsed, Nat.mul_zero, Nat.sub_zero]
  have hstart : (d'.tag.clockAt (2000 * 0)).toNat = 0 := by
    rw [EslTag.clockAt, hanchor]
    rfl
  have hduration : o.duration = 1000 := by decide +kernel
  have hlength : o.passLength = 1 := by decide +kernel
  have hpattern : o.pattern = 1 := by decide +kernel
  have htop : o.top = 0 := by decide +kernel
  refine ⟨d', hd', (flashesInTime_iff (by decide) hd' hop (by rw [hpattern]; decide) (by decide) rfl
    hmono).mpr ⟨?_, fun k _ _ => ?_⟩⟩
  · simp only [hstart]
    refine ⟨by decide, fun _ => ?_, fun k hk hfirst => .inl ?_⟩
    · rw [helapsed, hduration, hlength]
      decide
    · have hone := hfirst 1
      simp only [helapsed, hduration] at hk hone ⊢
      omega
  · rw [hpattern, htop, Nat.mul_zero, Nat.zero_sub]
    exact ⟨rfl, rfl⟩

/-- Pattern 1 for a second, at 100 milliseconds a bit: off after 100 milliseconds. -/
theorem not_flashesInTime :
    ∃ d', (ledOrdered 1 1 1).step .sample .clear (.ecpWork {}) = some d'
      ∧ ¬ (KeepsFlashing .sample 0 (fun k => 100 * k) d'.tag
        ∧ ShowsPattern .sample 0 (fun k => 100 * k) d'.tag) := by
  have hruns : ((ledOrdered 1 1 1).step .sample .clear (.ecpWork {})).map (fun d' =>
      (((d'.tag.ledPlay .sample 0 (fun k => 100 * k) 1).elems.ledDworks 0).work,
        ((d'.tag.ledPlay .sample 0 (fun k => 100 * k) 2).elems.ledDworks 0).work,
        (d'.tag.elems.ledObjs 0).repeatDuration)) = some (some 100, none, 1) := by
    decide +kernel
  obtain ⟨d', hd', hboth⟩ := Option.map_eq_some_iff.mp hruns
  simp only [Prod.mk.injEq] at hboth
  obtain ⟨hfirst, hsecond, hduration⟩ := hboth
  refine ⟨d', hd', fun h => ?_⟩
  have hrun := h.1 1 (by rw [Happens, hfirst]; exact Option.some_ne_none _)
  have htime : elapsed (fun k => 100 * k) 1 ≤ (d'.tag.elems.ledObjs 0).duration := by
    rw [LedObj.duration, hduration]
    decide
  rw [if_pos htime] at hrun
  exact hrun.scheduled hsecond

end Time

end NrfEsl
