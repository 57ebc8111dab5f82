import Mathlib.Data.List.Induction
import Mathlib.Data.Nat.Bitwise
import Mathlib.Order.Bounds.Basic
import Mathlib.Data.Nat.ModEq
import NrfEsl.Ap.AutoConfig
import NrfEsl.Lib.RoundRobin

/-!
# Address allocation

With a quota of `Q` tags per group and default ESL ID `D` the **allowed** addresses are those of 128
groups with the IDs `D` to `D + Q - 1`, 0xFF excepted.

**The round.**  When the quota fits, `1 ≤ Q` and `D + Q ≤ 255`, the allowed addresses are
`addrAt 0`, `addrAt 1`, …, with period `128 * Q`, and handing one out moves on to the next:
`advanceStart_addrAt`.  With any larger quota the ID 0xFF comes up.

**The start.**  Loading leaves `esl_addr_start` at the least number above the default and above all
stored addresses, `IsStart`.  Nothing checks that this is an allowed address: it is not when the
highest stored tag is the last of its group.

**Stored tags** are skipped only because the start lies above them.  The round comes back to them,
so they must lie where it arrives last: `allocatesFresh_iff`.
-/

namespace NrfEsl

open KeyValueStore RoundRobin

section Definitions

variable (cfg : AddrConfig) (tagsPerGroup : UInt16)

/-- ESL ID other than 0xFF, bit 15 clear, ID offset below the quota. -/
structure Allowed (a : UInt16) : Prop where
  eslId : lowByte a ≠ 0xFF
  rfu : a &&& 0x8000 = 0
  offset : ∃ k < tagsPerGroup.toNat, (lowByte a).toNat = cfg.defaultEslId.toNat + k

/-- The address of the `k`-th automatically configured tag. -/
def handedOut (start : UInt16) (k : ℕ) : UInt16 := (advanceStart cfg tagsPerGroup)^[k] start

/-- Every address handed out is allowed, and one that is stored or was handed out before only comes
up when all allowed addresses are used. -/
def AllocatesFresh (stored : List UInt16) (start : UInt16) : Prop :=
  ∀ k, Allowed cfg tagsPerGroup (handedOut cfg tagsPerGroup start k)
    ∧ (Used (handedOut cfg tagsPerGroup start) (· ∈ stored) k (handedOut cfg tagsPerGroup start k)
      → ∀ a, Allowed cfg tagsPerGroup a →
          Used (handedOut cfg tagsPerGroup start) (· ∈ stored) k a)

/-- The names in the directory of ESL addresses, in the order in which they are listed. -/
def storedAddrs (E : Enumeration UInt16 EslFile) (s : TagStorage) : List UInt16 :=
  (E.entries s.esl).map (·.1)

/-- The names listed after the last `ffff`, whose successor does not fit into 16 bits. -/
def sinceWrap (stored : List UInt16) : List UInt16 := stored.reverse.takeWhile (· ≠ 0xFFFF)

/-- `a` is the least number above every stored address and not below the default; after `ffff` has
been listed only the names behind it count. -/
def IsStart (stored : List UInt16) (a : UInt16) : Prop :=
  IsLeast {n : ℕ | (if 0xFFFF ∈ stored then 0 else cfg.initialStart.toNat) ≤ n
    ∧ ∀ x ∈ sinceWrap stored, x.toNat < n} a.toNat

/-- The place of an allowed address, counted through the groups. -/
def place (a : UInt16) : ℕ :=
  a.toNat / 2 ^ 8 * tagsPerGroup.toNat + (a.toNat % 2 ^ 8 - cfg.defaultEslId.toNat)

/-- The allowed address at a place, round and round. -/
def addrAt (i : ℕ) : UInt16 :=
  UInt16.ofNat (cfg.defaultEslId.toNat + i % tagsPerGroup.toNat
    + 2 ^ 8 * (i / tagsPerGroup.toNat % 2 ^ 7))

/-- The quota fits, the start is allowed, and of the allowed addresses from the start on, round the
groups, every one behind a stored one is stored. -/
structure Allocatable (stored : List UInt16) : Prop where
  quota_pos : 0 < tagsPerGroup.toNat
  quota_le : cfg.defaultEslId.toNat + tagsPerGroup.toNat ≤ 255
  start : ∃ a, IsStart cfg stored a ∧ Allowed cfg tagsPerGroup a
    ∧ TakenLast (fun r => addrAt cfg tagsPerGroup (place cfg tagsPerGroup a + r))
        (tagsPerGroup.toNat * 2 ^ 7) (· ∈ stored)

end Definitions

variable {cfg : AddrConfig} {tagsPerGroup : UInt16}

/-! ## The start -/

section Start

variable {stored : List UInt16}

lemma toNat_maxStart {start x : UInt16} (hx : x ≠ 0xFFFF) :
    (maxStart start x).toNat = max start.toNat (x.toNat + 1) := by
  have hs := start.toNat_lt
  have hlt := x.toNat_lt
  have hne : x.toNat ≠ 65535 := fun h => hx (UInt16.toNat_inj.mp h)
  rw [maxStart, UInt16.toNat_ofNat']
  omega

/-- The file `ffff` sets `esl_addr_start` to 0. -/
lemma maxStart_ffff (start : UInt16) : maxStart start 0xFFFF = 0 := by
  have hs := start.toNat_lt
  have hname : (0xFFFF : UInt16).toNat = 65535 := rfl
  apply UInt16.toNat_inj.mp
  rw [maxStart, UInt16.toNat_ofNat', hname]
  have hmax : max start.toNat (65535 + 1) = 65536 := by omega
  rw [hmax]
  rfl

/-- **Loading finds the start.** -/
lemma isStart_foldl (cfg : AddrConfig) (stored : List UInt16) :
    IsStart cfg stored (stored.foldl maxStart cfg.initialStart) := by
  induction stored using List.reverseRecOn with
  | nil =>
      refine ⟨⟨?_, ?_⟩, ?_⟩
      · exact le_rfl
      · intro x hx
        cases hx
      · intro n hn
        exact hn.1
  | append_singleton l x ih =>
      obtain ⟨⟨hbase, hall⟩, hleast⟩ := ih
      rw [List.foldl_concat]
      by_cases hx : x = 0xFFFF
      · subst hx
        rw [maxStart_ffff]
        refine ⟨⟨?_, ?_⟩, ?_⟩
        · rw [if_pos (by simp)]
          exact Nat.zero_le _
        · intro y hy
          rw [sinceWrap, List.reverse_append] at hy
          simp at hy
        · intro n _
          exact Nat.zero_le n
      · have hsince : sinceWrap (l ++ [x]) = x :: sinceWrap l := by
          simp [sinceWrap, hx]
        have hmem : 0xFFFF ∈ l ++ [x] ↔ 0xFFFF ∈ l := by
          rw [List.mem_append, List.mem_singleton]
          constructor
          · rintro (h | h)
            · exact h
            · exact absurd h.symm hx
          · exact Or.inl
        rw [IsStart, hsince, toNat_maxStart hx]
        simp only [hmem]
        refine ⟨⟨?_, ?_⟩, ?_⟩
        · exact le_trans hbase (le_max_left _ _)
        · intro y hy
          rcases List.mem_cons.mp hy with rfl | hy
          · omega
          · have hlt := hall y hy
            omega
        · rintro n ⟨hn, hlt⟩
          have hxn := hlt x (List.mem_cons_self ..)
          have hstart := hleast ⟨hn, fun y hy => hlt y (List.mem_cons_of_mem _ hy)⟩
          omega

lemma startUp_eq_foldl (E : Enumeration UInt16 EslFile) (s : TagStorage) :
    startUp cfg E s = (storedAddrs E s).foldl maxStart cfg.initialStart := by
  rw [startUp, loadAllTagsInStorage, Enumeration.load, storedAddrs, List.foldl_map]
  simp only [loadAddr_eq]

lemma IsStart.unique {a b : UInt16} (ha : IsStart cfg stored a) (hb : IsStart cfg stored b) :
    a = b := UInt16.toNat_inj.mp (IsLeast.unique ha hb)

end Start

/-! ## The round -/

section Round

/-- Allowed addresses as numbers. -/
lemma allowed_iff {a : UInt16} : Allowed cfg tagsPerGroup a ↔
    a.toNat < 2 ^ 15 ∧ a.toNat % 2 ^ 8 < 255 ∧ cfg.defaultEslId.toNat ≤ a.toNat % 2 ^ 8
      ∧ a.toNat % 2 ^ 8 < cfg.defaultEslId.toNat + tagsPerGroup.toNat := by
  have ha := a.toNat_lt
  have hid : lowByte a ≠ 0xFF ↔ a.toNat % 2 ^ 8 < 255 := by
    rw [Ne, ← UInt8.toNat_inj, toNat_lowByte]
    have hff : (0xFF : UInt8).toNat = 255 := rfl
    omega
  have hrfu : a &&& 0x8000 = 0 ↔ a.toNat < 2 ^ 15 := by
    have hmask : (0x8000 : UInt16).toNat = 2 ^ 15 := rfl
    have hzero : (0 : UInt16).toNat = 0 := rfl
    rw [← UInt16.toNat_inj, UInt16.toNat_and, hmask, hzero, Nat.and_two_pow,
      Nat.testBit_eq_decide_div_mod_eq]
    simp only [mul_eq_zero, Bool.toNat_eq_zero, decide_eq_false_iff_not]
    omega
  constructor
  · rintro ⟨h₁, h₂, k, hk, h₃⟩
    rw [toNat_lowByte] at h₃
    exact ⟨hrfu.mp h₂, hid.mp h₁, by omega, by omega⟩
  · rintro ⟨h₁, h₂, h₃, h₄⟩
    exact ⟨hid.mpr h₂, hrfu.mpr h₁, a.toNat % 2 ^ 8 - cfg.defaultEslId.toNat, by omega,
      by rw [toNat_lowByte]; omega⟩

lemma handedOut_succ (start : UInt16) (k : ℕ) :
    handedOut cfg tagsPerGroup start (k + 1)
      = advanceStart cfg tagsPerGroup (handedOut cfg tagsPerGroup start k) :=
  Function.iterate_succ_apply' _ _ _

/-! ### With a quota that fits -/

section Fits

variable (hpos : 0 < tagsPerGroup.toNat) (hle : cfg.defaultEslId.toNat + tagsPerGroup.toNat ≤ 255)
include hpos hle

lemma toNat_addrAt (i : ℕ) : (addrAt cfg tagsPerGroup i).toNat
    = cfg.defaultEslId.toNat + i % tagsPerGroup.toNat
      + 2 ^ 8 * (i / tagsPerGroup.toNat % 2 ^ 7) := by
  have hoffset := Nat.mod_lt i hpos
  rw [addrAt, UInt16.toNat_ofNat']
  omega

lemma allowed_addrAt (i : ℕ) : Allowed cfg tagsPerGroup (addrAt cfg tagsPerGroup i) := by
  have hoffset := Nat.mod_lt i hpos
  rw [allowed_iff, toNat_addrAt hpos hle]
  refine ⟨?_, ?_, ?_, ?_⟩ <;> omega

/-- Handing out an allowed address moves on to the next one. -/
lemma advanceStart_addrAt (i : ℕ) :
    advanceStart cfg tagsPerGroup (addrAt cfg tagsPerGroup i) = addrAt cfg tagsPerGroup (i + 1) := by
  have hoffset := Nat.mod_lt i hpos
  have hat := toNat_addrAt hpos hle i
  obtain ⟨g, r, hr, rfl⟩ : ∃ g r, r < tagsPerGroup.toNat ∧ i = tagsPerGroup.toNat * g + r :=
    ⟨i / tagsPerGroup.toNat, i % tagsPerGroup.toNat, hoffset, (Nat.div_add_mod i _).symm⟩
  rw [Nat.mul_add_mod, Nat.mod_eq_of_lt hr, Nat.mul_add_div hpos, Nat.div_eq_of_lt hr] at hat
  apply UInt16.toNat_inj.mp
  rw [toNat_addrAt hpos hle, Nat.add_assoc _ r 1, Nat.mul_add_mod, Nat.mul_add_div hpos]
  rcases Nat.lt_or_ge (r + 1) tagsPerGroup.toNat with hlt | hge
  · rw [toNat_advanceStart_of_lt (by omega) (by omega), Nat.mod_eq_of_lt hlt, Nat.div_eq_of_lt hlt]
    omega
  · have hlast : r + 1 = tagsPerGroup.toNat := by omega
    rw [toNat_advanceStart_of_eq (by omega) (by omega), hlast, Nat.mod_self, Nat.div_self hpos]
    omega

/-- The addresses handed out from an allowed start. -/
lemma handedOut_addrAt (i k : ℕ) :
    handedOut cfg tagsPerGroup (addrAt cfg tagsPerGroup i) k = addrAt cfg tagsPerGroup (i + k) := by
  induction k with
  | zero => rfl
  | succ k ih => rw [handedOut_succ, ih, advanceStart_addrAt hpos hle, Nat.add_assoc]

/-- An allowed address stands at its place. -/
lemma addrAt_place {a : UInt16} (ha : Allowed cfg tagsPerGroup a) :
    addrAt cfg tagsPerGroup (place cfg tagsPerGroup a) = a := by
  obtain ⟨hrfu, -, hge, hlt⟩ := allowed_iff.mp ha
  have hoffset : a.toNat % 2 ^ 8 - cfg.defaultEslId.toNat < tagsPerGroup.toNat := by omega
  apply UInt16.toNat_inj.mp
  rw [toNat_addrAt hpos hle, place, Nat.mul_comm, Nat.mul_add_mod, Nat.mod_eq_of_lt hoffset,
    Nat.mul_add_div hpos, Nat.div_eq_of_lt hoffset]
  omega

/-- Two places hold the same address when they differ by whole rounds. -/
lemma addrAt_eq_iff {i j : ℕ} : addrAt cfg tagsPerGroup i = addrAt cfg tagsPerGroup j
    ↔ i ≡ j [MOD tagsPerGroup.toNat * 2 ^ 7] := by
  have hi := Nat.mod_lt i hpos
  have hj := Nat.mod_lt j hpos
  rw [← UInt16.toNat_inj, toNat_addrAt hpos hle, toNat_addrAt hpos hle, Nat.ModEq, Nat.mod_mul,
    Nat.mod_mul]
  constructor
  · intro h
    have hmod : i % tagsPerGroup.toNat = j % tagsPerGroup.toNat := by omega
    have hdiv : i / tagsPerGroup.toNat % 2 ^ 7 = j / tagsPerGroup.toNat % 2 ^ 7 := by omega
    rw [hmod, hdiv]
  · intro h
    have hmod : i % tagsPerGroup.toNat = j % tagsPerGroup.toNat := by
      have hrem := congrArg (· % tagsPerGroup.toNat) h
      simpa [Nat.add_mul_mod_self_left] using hrem
    rw [hmod] at h ⊢
    have hdiv := Nat.eq_of_mul_eq_mul_left hpos (Nat.add_left_cancel h)
    rw [hdiv]

lemma injOn_addrAt (i : ℕ) : Set.InjOn (fun r => addrAt cfg tagsPerGroup (i + r))
    (Set.Iio (tagsPerGroup.toNat * 2 ^ 7)) := by
  intro r hr r' hr' heq
  have hmod : r ≡ r' [MOD tagsPerGroup.toNat * 2 ^ 7] :=
    ((addrAt_eq_iff hpos hle).mp heq).add_left_cancel' i
  exact hmod.eq_of_lt_of_lt hr hr'

/-- One round from any place meets every allowed address. -/
lemma exists_addrAt (i : ℕ) {a : UInt16} (ha : Allowed cfg tagsPerGroup a) :
    ∃ r < tagsPerGroup.toNat * 2 ^ 7, addrAt cfg tagsPerGroup (i + r) = a := by
  have hround : 0 < tagsPerGroup.toNat * 2 ^ 7 := by omega
  generalize hn : tagsPerGroup.toNat * 2 ^ 7 = n at hround
  refine ⟨(place cfg tagsPerGroup a + (n - i % n)) % n, Nat.mod_lt _ hround, ?_⟩
  refine Eq.trans ?_ (addrAt_place hpos hle ha)
  rw [addrAt_eq_iff hpos hle, hn]
  have hi := Nat.mod_lt i hround
  have hwhole : i + (n - i % n) = n * (i / n + 1) := by
    have hdiv := Nat.div_add_mod i n
    rw [Nat.mul_add, Nat.mul_one]
    omega
  calc i + (place cfg tagsPerGroup a + (n - i % n)) % n
      ≡ i + (place cfg tagsPerGroup a + (n - i % n)) [MOD n] := (Nat.mod_modEq _ _).add_left i
    _ = place cfg tagsPerGroup a + n * (i / n + 1) := by omega
    _ ≡ place cfg tagsPerGroup a [MOD n] := by
        rw [Nat.ModEq, Nat.add_mul_mod_self_left]

end Fits

/-! ### With a quota that does not -/

/-- Up to ID 0xFF the address is counted up. -/
lemma toNat_handedOut_of_large {start : UInt16}
    (hlarge : 255 < cfg.defaultEslId.toNat + tagsPerGroup.toNat) {k : ℕ}
    (hk : start.toNat % 2 ^ 8 + k ≤ 255) :
    (handedOut cfg tagsPerGroup start k).toNat = start.toNat + k := by
  induction k with
  | zero => rfl
  | succ k ih =>
      have hprev := ih (by omega)
      rw [handedOut_succ, toNat_advanceStart_of_lt (by omega) (by omega), hprev]
      omega

/-- So 0xFF comes up. -/
lemma not_allowed_of_large {start : UInt16} (hstart : Allowed cfg tagsPerGroup start)
    (hlarge : 255 < cfg.defaultEslId.toNat + tagsPerGroup.toNat) :
    ∃ k, ¬ Allowed cfg tagsPerGroup (handedOut cfg tagsPerGroup start k) := by
  obtain ⟨-, hid, -, -⟩ := allowed_iff.mp hstart
  refine ⟨255 - start.toNat % 2 ^ 8, fun hallowed => ?_⟩
  obtain ⟨-, hid', -, -⟩ := allowed_iff.mp hallowed
  rw [toNat_handedOut_of_large hlarge (by omega)] at hid'
  omega

end Round

/-! ## When the addresses are fresh -/

/-- From an allowed start, with a quota that fits. -/
lemma allocatesFresh_iff_takenLast (hpos : 0 < tagsPerGroup.toNat)
    (hle : cfg.defaultEslId.toNat + tagsPerGroup.toNat ≤ 255) {stored : List UInt16} {start : UInt16}
    (hstart : Allowed cfg tagsPerGroup start) :
    AllocatesFresh cfg tagsPerGroup stored start ↔
      TakenLast (fun r => addrAt cfg tagsPerGroup (place cfg tagsPerGroup start + r))
        (tagsPerGroup.toNat * 2 ^ 7) (· ∈ stored) := by
  have hround : handedOut cfg tagsPerGroup start
      = fun r => addrAt cfg tagsPerGroup (place cfg tagsPerGroup start + r) := by
    funext k
    rw [← handedOut_addrAt hpos hle, addrAt_place hpos hle hstart]
  rw [← fresh_iff (injOn_addrAt hpos hle _), AllocatesFresh, hround, Fresh]
  refine forall_congr' fun k => ?_
  rw [and_iff_right (allowed_addrAt hpos hle _)]
  refine imp_congr_right fun _ => ?_
  constructor
  · intro h r _
    exact h _ (allowed_addrAt hpos hle _)
  · intro h a ha
    obtain ⟨r, hr, rfl⟩ := exists_addrAt hpos hle (place cfg tagsPerGroup start) ha
    exact h r hr

/-- **The addresses handed out are allowed and fresh, however many tags are configured, exactly when
the quota fits, the start is allowed and the stored addresses come last.** -/
theorem allocatesFresh_iff (cfg : AddrConfig) (tagsPerGroup : UInt16)
    (E : Enumeration UInt16 EslFile) (s : TagStorage) :
    AllocatesFresh cfg tagsPerGroup (storedAddrs E s) (startUp cfg E s)
      ↔ Allocatable cfg tagsPerGroup (storedAddrs E s) := by
  have hload : IsStart cfg (storedAddrs E s) (startUp cfg E s) := by
    rw [startUp_eq_foldl]
    exact isStart_foldl cfg _
  constructor
  · intro hfresh
    have hstart : Allowed cfg tagsPerGroup (startUp cfg E s) := (hfresh 0).1
    obtain ⟨k, hk, -⟩ := hstart.offset
    have hpos : 0 < tagsPerGroup.toNat := by omega
    have hle : cfg.defaultEslId.toNat + tagsPerGroup.toNat ≤ 255 := by
      by_contra hlarge
      obtain ⟨k, hk⟩ := not_allowed_of_large hstart (by omega)
      exact hk (hfresh k).1
    exact ⟨hpos, hle, _, hload, hstart,
      (allocatesFresh_iff_takenLast hpos hle hstart).mp hfresh⟩
  · rintro ⟨hpos, hle, a, ha, hallowed, hlast⟩
    rw [hload.unique ha]
    exact (allocatesFresh_iff_takenLast hpos hle hallowed).mpr hlast

/-- A database with one tag, the eighth of group 0. -/
def eighthOfGroup : TagStorage := TagStorage.empty.saveTagInStorage
  { bleAddr := ⟨0, Vector.replicate 6 1⟩
    eslAddr := 0x0007
    eslRspKey := .zero
    pnpVid := 0
    pnpPid := 0
    connectFrom := .fromScan
    pastNeeded := false }

/-- With eight tags per group the next tag gets ID 8 in the same group. -/
theorem allocatesFresh_fails : ¬ ∀ (cfg : AddrConfig) (tagsPerGroup : UInt16)
    (E : Enumeration UInt16 EslFile) (s : TagStorage),
    AllocatesFresh cfg tagsPerGroup (storedAddrs E s) (startUp cfg E s) := by
  intro h
  have hfresh := h .default 8 (.stored _ _) eighthOfGroup
  obtain ⟨k, hk, hoffset⟩ := (hfresh 0).1.offset
  have hquota : (8 : UInt16).toNat = 8 := rfl
  have hdefault : AddrConfig.default.defaultEslId.toNat = 0 := rfl
  have hid : (lowByte (startUp .default (.stored _ _) eighthOfGroup)).toNat = 8 := by decide
  have hstart := hid.symm.trans hoffset
  omega

end NrfEsl
