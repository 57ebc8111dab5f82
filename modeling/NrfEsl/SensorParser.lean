import NrfEsl.SensorInformation

/-!
# The sensor parser, turn by turn

`parseSensorInfoFromRaw` ends wherever the C loop leaves its arrays.  Here the loop itself is followed,
with the bytes it reads and the entries it writes, so that it may also go on for ever.

* An entry of an unknown size does not move `idx`.
* An entry is read whole, also where the information ends inside it.

Both go wrong on what a peer sends, and nothing else does: `parserSafe_iff`.
-/

namespace NrfEsl

/-- The variables of the loop, the positions it has read and the entries it has written. -/
structure SensorLoop where
  idx : ℕ
  count : UInt8
  sensors : ℕ → SensorInf
  reads : List ℕ
  writes : List ℕ

namespace SensorLoop

variable (raw : Mem) (len : ℕ)

/-- The body of the loop. -/
def turn (l : SensorLoop) : SensorLoop :=
  match sensorLen (raw l.idx) with
  | some n =>
      { idx := l.idx + n
        count := l.count + 1
        sensors := Function.update l.sensors l.count.toNat
          ((l.sensors l.count.toNat).read raw l.idx)
        reads := l.reads ++ List.range' l.idx n
        writes := l.writes ++ [l.count.toNat] }
  | none =>
      { l with
        count := l.count + 1
        sensors := Function.update l.sensors l.count.toNat
          { l.sensors l.count.toNat with size := raw l.idx }
        reads := l.reads ++ [l.idx]
        writes := l.writes ++ [l.count.toNat] }

/-- At most `k` turns of the loop. -/
def turns : ℕ → SensorLoop → SensorLoop
  | 0, l => l
  | k + 1, l => if l.idx < len then turns k (turn raw l) else l

/-- Before the first turn. -/
def start (old : ℕ → SensorInf) : SensorLoop := ⟨0, 0, old, [], []⟩

/-- **The parser is safe**: it ends, has read only what there is, and has written the entries up to the
number it returns, no more than there is room for. -/
def ParserSafe (cfg : ElementConfig) (old : ℕ → SensorInf) : Prop :=
  ∃ k, len ≤ (turns raw len k (start old)).idx
    ∧ (∀ i ∈ (turns raw len k (start old)).reads, i < len)
    ∧ (turns raw len k (start old)).writes
      = List.range (turns raw len k (start old)).count.toNat
    ∧ (turns raw len k (start old)).count.toNat ≤ cfg.sensorMax

variable {raw len}

lemma turns_of_ge {l : SensorLoop} (h : len ≤ l.idx) (k : ℕ) : turns raw len k l = l := by
  cases k with
  | zero => rfl
  | succ k => exact if_neg (Nat.not_lt.mpr h)

lemma turns_succ {l : SensorLoop} (h : l.idx < len) (k : ℕ) :
    turns raw len (k + 1) l = turns raw len k (turn raw l) :=
  if_pos h

lemma turn_of_some {l : SensorLoop} {n : ℕ} (h : sensorLen (raw l.idx) = some n) :
    turn raw l =
      { idx := l.idx + n
        count := l.count + 1
        sensors := Function.update l.sensors l.count.toNat
          ((l.sensors l.count.toNat).read raw l.idx)
        reads := l.reads ++ List.range' l.idx n
        writes := l.writes ++ [l.count.toNat] } := by
  rw [turn, h]

/-- **An entry of an unknown size** is where the loop stays. -/
lemma idx_turns_of_none {l : SensorLoop} (hlt : l.idx < len) (h : sensorLen (raw l.idx) = none)
    (k : ℕ) : (turns raw len k l).idx = l.idx := by
  induction k generalizing l with
  | zero => rfl
  | succ k ih =>
      have hidx : (turn raw l).idx = l.idx := by rw [turn, h]
      rw [turns_succ hlt, ih (by rw [hidx]; exact hlt) (by rw [hidx]; exact h), hidx]

/-- A loop that has ended stays as it is. -/
lemma turns_of_ended {l : SensorLoop} {k k' : ℕ} (h : len ≤ (turns raw len k l).idx) (hk : k ≤ k') :
    turns raw len k' l = turns raw len k l := by
  induction k generalizing l k' with
  | zero => exact turns_of_ge h k'
  | succ k ih =>
      by_cases hlt : l.idx < len
      · obtain ⟨j, rfl⟩ := Nat.exists_eq_add_of_le' hk
        rw [turns_succ hlt] at h ⊢
        exact (turns_succ hlt (j + k)).trans (ih h (Nat.le_add_left k j))
      · rw [turns_of_ge (Nat.le_of_not_lt hlt), turns_of_ge (Nat.le_of_not_lt hlt)]

/-- From `l` on, `p.1` entries in `p.2` bytes have been gone through. -/
structure Ran (l l' : SensorLoop) (p : ℕ × ℕ) : Prop where
  idx : l'.idx = l.idx + p.2
  count : l'.count.toNat = l.count.toNat + p.1
  reads : l'.reads = l.reads ++ List.range' l.idx p.2
  writes : l'.writes = l.writes ++ List.range' l.count.toNat p.1

lemma Ran.refl (l : SensorLoop) : Ran l l (0, 0) :=
  ⟨rfl, rfl, (List.append_nil _).symm, (List.append_nil _).symm⟩

/-- One entry, and then the others. -/
lemma Ran.head {l l' : SensorLoop} {n : ℕ} {p : ℕ × ℕ} (hn : sensorLen (raw l.idx) = some n)
    (hcount : l.count.toNat + (p.1 + 1) < 256) (h : Ran (turn raw l) l' p) :
    Ran l l' (p.1 + 1, p.2 + n) := by
  have hnext : (l.count + 1).toNat = l.count.toNat + 1 := by
    rw [UInt8.toNat_add, UInt8.toNat_one]
    omega
  obtain ⟨hidx, hcount', hreads, hwrites⟩ := h
  rw [turn_of_some hn] at hidx hcount' hreads hwrites
  dsimp only at hidx hcount' hreads hwrites
  rw [hnext] at hcount' hwrites
  refine ⟨?_, ?_, ?_, ?_⟩
  · show l'.idx = l.idx + (p.2 + n)
    omega
  · show l'.count.toNat = l.count.toNat + (p.1 + 1)
    omega
  · show l'.reads = l.reads ++ List.range' l.idx (p.2 + n)
    rw [hreads, Nat.add_comm p.2 n, List.append_assoc, List.range'_append_1]
  · show l'.writes = l.writes ++ List.range' l.count.toNat (p.1 + 1)
    rw [hwrites, List.append_assoc]
    rfl

section Layout

variable {v : List UInt8}

lemma sensorLayout_of_ge {idx : ℕ} (h : v.length ≤ idx) : sensorLayout (v.drop idx) = some (0, 0) := by
  rw [List.drop_eq_nil_of_le h, sensorLayout]

/-- The first entry of a layout. -/
lemma exists_of_layout (hraw : ∀ i (h : i < v.length), raw i = v[i]) {idx : ℕ} (hlt : idx < v.length)
    {p : ℕ × ℕ} (hp : sensorLayout (v.drop idx) = some p) :
    ∃ n q, sensorLen (raw idx) = some n ∧ sensorLayout (v.drop (idx + n)) = some q
      ∧ p = (q.1 + 1, q.2 + n) := by
  rw [sensorLayout_drop hlt, ← hraw idx hlt] at hp
  obtain ⟨n, hn, hrest⟩ := Option.bind_eq_some_iff.mp hp
  obtain ⟨q, hq, hpq⟩ := Option.map_eq_some_iff.mp hrest
  exact ⟨n, q, hn, hq, hpq.symm⟩

/-- **A layout is gone through** entry by entry. -/
lemma ran_of_layout (hraw : ∀ i (h : i < v.length), raw i = v[i]) {l : SensorLoop} {p : ℕ × ℕ}
    (hp : sensorLayout (v.drop l.idx) = some p) (hcount : l.count.toNat + p.1 < 256) {k : ℕ}
    (hk : p.1 ≤ k) : Ran l (turns raw v.length k l) p := by
  by_cases hlt : l.idx < v.length
  · obtain ⟨n, q, hn, hq, rfl⟩ := exists_of_layout hraw hlt hp
    dsimp only at hcount hk
    obtain ⟨j, rfl⟩ := Nat.exists_eq_add_of_le' hk
    have hnext : (l.count + 1).toNat = l.count.toNat + 1 := by
      rw [UInt8.toNat_add, UInt8.toNat_one]
      omega
    have hcount' : (turn raw l).count.toNat + q.1 < 256 := by
      rw [turn_of_some hn]
      show (l.count + 1).toNat + q.1 < 256
      omega
    have hq' : sensorLayout (v.drop (turn raw l).idx) = some q := by
      rw [turn_of_some hn]
      exact hq
    have hrest := ran_of_layout hraw hq' hcount' (Nat.le_add_left q.1 j)
    rw [← turns_succ hlt] at hrest
    exact .head hn hcount hrest
  · have hge := Nat.le_of_not_lt hlt
    cases (sensorLayout_of_ge hge).symm.trans hp
    rw [turns_of_ge hge]
    exact .refl l
termination_by p.1

/-- **What the loop leaves** is what `parseSensorInfoFromRaw` returns. -/
lemma val_parseSensorInfoFromRaw (cfg : ElementConfig) (hraw : ∀ i (h : i < v.length), raw i = v[i])
    {l : SensorLoop} {p : ℕ × ℕ} (hp : sensorLayout (v.drop l.idx) = some p) {k : ℕ} (hk : p.1 ≤ k) :
    (parseSensorInfoFromRaw cfg raw v.length l.idx l.count l.sensors).val
      = ((turns raw v.length k l).sensors, (turns raw v.length k l).count) := by
  by_cases hlt : l.idx < v.length
  · obtain ⟨n, q, hn, hq, rfl⟩ := exists_of_layout hraw hlt hp
    obtain ⟨j, rfl⟩ := Nat.exists_eq_add_of_le' hk
    have hq' : sensorLayout (v.drop (turn raw l).idx) = some q := by
      rw [turn_of_some hn]
      exact hq
    have hrest := val_parseSensorInfoFromRaw cfg hraw hq' (Nat.le_add_left q.1 j)
    rw [← turns_succ hlt, turn_of_some hn] at hrest
    rw [parseSensorInfoFromRaw_of_some hlt hn]
    exact hrest
  · have hge := Nat.le_of_not_lt hlt
    rw [parseSensorInfoFromRaw_of_ge hge, turns_of_ge hge]
    rfl
termination_by p.1

/-- **A loop that ends** has had a layout to go through. -/
lemma layout_of_ended (hraw : ∀ i (h : i < v.length), raw i = v[i]) {l : SensorLoop} {k : ℕ}
    (h : v.length ≤ (turns raw v.length k l).idx) : ∃ p, sensorLayout (v.drop l.idx) = some p := by
  induction k generalizing l with
  | zero => exact ⟨_, sensorLayout_of_ge h⟩
  | succ k ih =>
      by_cases hlt : l.idx < v.length
      · cases hn : sensorLen (raw l.idx) with
        | none =>
            rw [idx_turns_of_none hlt hn] at h
            omega
        | some n =>
            rw [turns_succ hlt] at h
            obtain ⟨q, hq⟩ := ih h
            rw [turn_of_some hn] at hq
            rw [sensorLayout_drop hlt, ← hraw l.idx hlt, hn, Option.bind_some, hq]
            exact ⟨_, rfl⟩
      · exact ⟨_, sensorLayout_of_ge (Nat.le_of_not_lt hlt)⟩

/-- An entry has three bytes at least, and at most four of the last one are missing. -/
lemma sensorLayout_bounds {p : ℕ × ℕ} (h : sensorLayout v = some p) :
    3 * p.1 ≤ p.2 ∧ p.2 ≤ v.length + 4 ∧ (v.length = 0 → p.2 = 0) := by
  fun_induction sensorLayout v generalizing p with
  | case1 =>
      cases h
      exact ⟨Nat.le_refl 0, Nat.zero_le 4, fun _ => rfl⟩
  | case2 size rest n hn ih =>
      obtain ⟨q, hq, rfl⟩ := Option.map_eq_some_iff.mp h
      obtain ⟨hthree, hlen, hzero⟩ := ih hq
      rw [List.length_drop] at hlen hzero
      simp only [List.length_cons]
      rcases sensorLen_eq hn with rfl | rfl
      · omega
      · omega
  | case3 => cases h

end Layout

end SensorLoop

open SensorLoop

/-- **When the parser is safe**: on a sequence of whole entries, each with one of the two sizes, and
on nothing else. -/
theorem parserSafe_iff (raw : List UInt8) (hlen : raw.length ≤ btAttMaxAttributeLen) (beyond : Mem)
    (old : ℕ → SensorInf) :
    ParserSafe (Mem.ofBytes raw beyond) raw.length .client old ↔
      ∃ n, sensorLayout raw = some (n, raw.length) := by
  have hraw : ∀ i (h : i < raw.length), Mem.ofBytes raw beyond i = raw[i] := fun i hi =>
    Mem.ofBytes_of_lt hi
  have hmax : btAttMaxAttributeLen = 512 := rfl
  have hclient : ElementConfig.client.sensorMax = 170 := rfl
  have hzero : (start old).count.toNat = 0 := rfl
  constructor
  · rintro ⟨k, hended, hreads, -, -⟩
    obtain ⟨p, hp⟩ : ∃ p, sensorLayout (raw.drop (start old).idx) = some p :=
      layout_of_ended hraw hended
    obtain ⟨hthree, hupper, -⟩ := sensorLayout_bounds (v := raw) hp
    have hran : Ran (start old) (turns (Mem.ofBytes raw beyond) raw.length (max k p.1) (start old)) p :=
      ran_of_layout hraw hp (by omega) (Nat.le_max_right k p.1)
    rw [turns_of_ended hended (Nat.le_max_left k p.1)] at hran
    have hall : p.2 ≤ raw.length := by
      by_contra hlt
      refine Nat.lt_irrefl raw.length (hreads raw.length ?_)
      rw [hran.reads]
      refine List.mem_append_right _ (List.mem_range'_1.mpr ⟨Nat.zero_le _, ?_⟩)
      show raw.length < 0 + p.2
      omega
    have hlower := length_le_of_sensorLayout (v := raw) hp
    have heq : p = (p.1, raw.length) := Prod.ext rfl (by omega)
    exact ⟨p.1, hp.trans (congrArg some heq)⟩
  · rintro ⟨n, hp⟩
    obtain ⟨hthree, -, -⟩ := sensorLayout_bounds hp
    dsimp only at hthree
    have hran : Ran (start old) (turns (Mem.ofBytes raw beyond) raw.length n (start old))
        (n, raw.length) :=
      ran_of_layout (l := start old) hraw hp (by rw [hzero]; dsimp only; omega) (Nat.le_refl n)
    have hcount := hran.count
    have hidx := hran.idx
    rw [hzero, Nat.zero_add] at hcount
    refine ⟨n, ?_, fun i hi => ?_, ?_, ?_⟩
    · rw [hidx]
      exact Nat.le_add_left _ _
    · rw [hran.reads] at hi
      obtain ⟨-, hi⟩ := List.mem_range'_1.mp hi
      exact hi.trans_eq (Nat.zero_add _)
    · rw [hran.writes, hcount, hzero, List.range_eq_range']
      rfl
    · rw [hcount]
      omega

/-- A vendor sensor between two others. -/
def threeSensors : List UInt8 := [0, 0x4F, 0] ++ [1, 0x59, 0, 0x34, 0x12] ++ [0, 0x50, 0]

theorem parserSafe_threeSensors :
    ParserSafe (Mem.ofBytes threeSensors fun _ => 0) 11 .client fun _ => ⟨0, 0, 0⟩ :=
  (parserSafe_iff threeSensors (by decide) (fun _ => 0) fun _ => ⟨0, 0, 0⟩).mpr
    ⟨3, by simp [threeSensors, sensorLayout, sensorLen]⟩

/-- A vendor sensor without its last byte, and an entry of size 2. -/
theorem not_parserSafe :
    ¬ ParserSafe (Mem.ofBytes [1, 0x59, 0, 0x34] fun _ => 0) 4 .client (fun _ => ⟨0, 0, 0⟩)
      ∧ ¬ ParserSafe (Mem.ofBytes [2] fun _ => 0) 1 .client fun _ => ⟨0, 0, 0⟩ := by
  constructor
  · rintro ⟨k, hended, hreads, -, -⟩
    have hone : 4 ≤ (turns (Mem.ofBytes [1, 0x59, 0, 0x34] fun _ => 0) 4 1
        (start fun _ => ⟨0, 0, 0⟩)).idx := by decide
    have hsame : turns (Mem.ofBytes [1, 0x59, 0, 0x34] fun _ => 0) 4 k (start fun _ => ⟨0, 0, 0⟩)
        = turns (Mem.ofBytes [1, 0x59, 0, 0x34] fun _ => 0) 4 1 (start fun _ => ⟨0, 0, 0⟩) := by
      rw [← turns_of_ended hended (Nat.le_max_left k 1), turns_of_ended hone (Nat.le_max_right k 1)]
    rw [hsame] at hreads
    exact absurd (hreads 4 (by decide)) (by decide)
  · rintro ⟨k, hended, -⟩
    rw [idx_turns_of_none (by decide) (by decide)] at hended
    exact absurd hended (by decide)

end NrfEsl
