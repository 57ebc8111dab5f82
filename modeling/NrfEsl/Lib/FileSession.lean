import Mathlib.Algebra.GroupWithZero.Nat
import Mathlib.Data.Int.Notation
import NrfEsl.Lib.FileSystem

/-!
# A session with a file, and its failures

Between opening a file and closing it a program moves through it by reads and writes.  Which of the
calls fail is given in advance, as a pattern of `Faults`: a call answers a `Status`, a transfer may stop
after any number of bytes.  A program that does not look at what a transfer answers goes on from
wherever the transfer has stopped.

* `writeAll`, `readAll` — transfers one behind the other, with the numbers of bytes written and the
  bytes read.
* **When all of them are whole**: `writeAll_whole_iff`, `readAll_whole_iff`.
* **What is written is read back**: `bytes_writeAll`, `readAll_eq`.
-/

namespace FileSession

open FileSystem

/-- What a call answers: 0, or a negative error. -/
abbrev Status := {rc : ℤ // rc ≤ 0}

instance : Zero Status := ⟨⟨0, Int.le_refl 0⟩⟩

/-- The failures of a session. -/
structure Faults where
  opened : Status
  looked : Status
  moved : Status
  closed : Status
  /-- Where a transfer stops, by its number. -/
  stops : ℕ → Option ℕ

/-- Every call works. -/
def Faults.none : Faults := ⟨0, 0, 0, 0, fun _ => Option.none⟩

/-- The transfer moves `n` bytes if there are as many. -/
def Faults.Reaches (f : Faults) (i n : ℕ) : Prop := ∀ k ∈ f.stops i, n ≤ k

/-- What a transfer moves of some bytes. -/
def Faults.moves (f : Faults) (i : ℕ) (data : List UInt8) : List UInt8 :=
  match f.stops i with
  | some k => data.take k
  | Option.none => data

/-- An open file, and the number of transfers there have been. -/
structure Stream where
  bytes : List UInt8
  pos : ℕ
  transfers : ℕ

/-- A file that has just been opened. -/
def Stream.start (bytes : List UInt8) : Stream := ⟨bytes, 0, 0⟩

variable (f : Faults)

def Stream.seek (pos : ℕ) (s : Stream) : Stream :=
  if f.moved.val < 0 then s else { s with pos := pos }

/-- Answers how many bytes have been written. -/
def Stream.write (data : List UInt8) (s : Stream) : ℕ × Stream :=
  let moved := f.moves s.transfers data
  (moved.length,
    ⟨overwrite s.bytes s.pos moved, s.pos + moved.length, s.transfers + 1⟩)

/-- Answers the bytes read. -/
def Stream.read (len : ℕ) (s : Stream) : List UInt8 × Stream :=
  let moved := f.moves s.transfers ((s.bytes.drop s.pos).take len)
  (moved, { s with pos := s.pos + moved.length, transfers := s.transfers + 1 })

/-- Writes one behind the other. -/
def Stream.writeAll : List (List UInt8) → Stream → List ℕ × Stream
  | [], s => ([], s)
  | data :: chunks, s =>
      let r := s.write f data
      let rest := r.2.writeAll chunks
      (r.1 :: rest.1, rest.2)

/-- Reads one behind the other. -/
def Stream.readAll : List ℕ → Stream → List (List UInt8) × Stream
  | [], s => ([], s)
  | len :: lens, s =>
      let r := s.read f len
      let rest := r.2.readAll lens
      (r.1 :: rest.1, rest.2)

variable {f}

/-! ## One transfer -/

lemma reaches_none (i n : ℕ) : Faults.none.Reaches i n := fun _ hk => absurd hk (by simp [Faults.none])

lemma moves_of_reaches {i : ℕ} {data : List UInt8} (h : f.Reaches i data.length) :
    f.moves i data = data := by
  unfold Faults.moves
  cases hstop : f.stops i with
  | none => rfl
  | some k => exact List.take_of_length_le (h k hstop)

/-- A transfer is whole exactly when it does not stop before its end. -/
lemma length_moves_eq_iff {i : ℕ} {data : List UInt8} :
    (f.moves i data).length = data.length ↔ f.Reaches i data.length := by
  constructor
  · intro h k hk
    rw [Faults.moves, Option.mem_def.mp hk, List.length_take] at h
    omega
  · intro h
    rw [moves_of_reaches h]

lemma length_moves_le (f : Faults) (i : ℕ) (data : List UInt8) :
    (f.moves i data).length ≤ data.length := by
  unfold Faults.moves
  cases f.stops i with
  | none => exact Nat.le_refl _
  | some k => exact List.length_take_le' k data

/-- A read is whole exactly when there is enough to read, and it does not stop. -/
lemma read_whole_iff {len : ℕ} {s : Stream} :
    (s.read f len).1.length = len ↔ f.Reaches s.transfers len ∧ len ≤ s.bytes.length - s.pos := by
  have hall : ((s.bytes.drop s.pos).take len).length = min len (s.bytes.length - s.pos) := by
    rw [List.length_take, List.length_drop]
  have hle := length_moves_le f s.transfers ((s.bytes.drop s.pos).take len)
  rw [hall] at hle
  show (f.moves s.transfers ((s.bytes.drop s.pos).take len)).length = len ↔ _
  constructor
  · intro h
    have henough : len ≤ s.bytes.length - s.pos := by omega
    have hmin : min len (s.bytes.length - s.pos) = len := Nat.min_eq_left henough
    rw [hmin] at hall
    have hreach := length_moves_eq_iff.mp (h.trans hall.symm)
    rw [hall] at hreach
    exact ⟨hreach, henough⟩
  · rintro ⟨hreach, henough⟩
    rw [Nat.min_eq_left henough] at hall
    rw [moves_of_reaches (by rw [hall]; exact hreach), hall]

/-! ## Several transfers -/

/-- **All writes are whole** exactly when none of them stops. -/
theorem writeAll_whole_iff {chunks : List (List UInt8)} {s : Stream} :
    (s.writeAll f chunks).1 = chunks.map List.length
      ↔ ∀ i (hi : i < chunks.length), f.Reaches (s.transfers + i) chunks[i].length := by
  induction chunks generalizing s with
  | nil => exact iff_of_true rfl fun i hi => absurd hi (Nat.not_lt_zero i)
  | cons data chunks ih =>
      have hhead : (s.write f data).1 = data.length ↔ f.Reaches s.transfers data.length :=
        length_moves_eq_iff
      have hnext : (s.write f data).2.transfers = s.transfers + 1 := rfl
      rw [Stream.writeAll, List.map_cons, List.cons.injEq, ih, hhead, hnext]
      constructor
      · rintro ⟨hfirst, hrest⟩ i hi
        cases i with
        | zero => exact hfirst
        | succ i =>
            have h := hrest i (Nat.lt_of_succ_lt_succ hi)
            rw [Nat.add_assoc, Nat.add_comm 1 i] at h
            exact h
      · intro h
        refine ⟨h 0 (Nat.succ_pos _), fun i hi => ?_⟩
        have hsucc := h (i + 1) (Nat.succ_lt_succ hi)
        rw [Nat.add_assoc, Nat.add_comm 1 i]
        exact hsucc

/-- **All reads are whole** exactly when there is enough to read, and none of them stops. -/
theorem readAll_whole_iff {lens : List ℕ} {s : Stream} :
    (s.readAll f lens).1.map List.length = lens
      ↔ (∀ i (hi : i < lens.length), f.Reaches (s.transfers + i) lens[i])
        ∧ lens.sum ≤ s.bytes.length - s.pos := by
  induction lens generalizing s with
  | nil => exact iff_of_true rfl ⟨fun i hi => absurd hi (Nat.not_lt_zero i), Nat.zero_le _⟩
  | cons len lens ih =>
      have hnext : (s.read f len).2.transfers = s.transfers + 1 := rfl
      have hbytes : (s.read f len).2.bytes = s.bytes := rfl
      have hpos : (s.read f len).2.pos = s.pos + (s.read f len).1.length := rfl
      rw [Stream.readAll, List.map_cons, List.cons.injEq, ih, hnext, hbytes, hpos, List.sum_cons]
      constructor
      · rintro ⟨hfirst, hrest, hsum⟩
        obtain ⟨hreach, henough⟩ := read_whole_iff.mp hfirst
        rw [hfirst] at hsum
        refine ⟨fun i hi => ?_, by omega⟩
        cases i with
        | zero => exact hreach
        | succ i =>
            have h := hrest i (Nat.lt_of_succ_lt_succ hi)
            rw [Nat.add_assoc, Nat.add_comm 1 i] at h
            exact h
      · rintro ⟨hreach, hsum⟩
        have hfirst : (s.read f len).1.length = len :=
          read_whole_iff.mpr ⟨hreach 0 (Nat.succ_pos _), by omega⟩
        rw [hfirst]
        refine ⟨rfl, fun i hi => ?_, by omega⟩
        have hsucc := hreach (i + 1) (Nat.succ_lt_succ hi)
        rw [Nat.add_assoc, Nat.add_comm 1 i]
        exact hsucc

/-! ## What is written is read back -/

/-- Two writes one behind the other are one. -/
lemma overwrite_overwrite (old : List UInt8) (pos : ℕ) (xs ys : List UInt8) :
    overwrite (overwrite old pos xs) (pos + xs.length) ys = overwrite old pos (xs ++ ys) := by
  have hlen := length_overwrite old pos xs
  have hfront : (old.take pos ++ List.replicate (pos - old.length) 0 ++ xs).length
      = pos + xs.length := by
    simp only [List.length_append, List.length_take, List.length_replicate]
    omega
  have htake : (overwrite old pos xs).take (pos + xs.length)
      = old.take pos ++ List.replicate (pos - old.length) 0 ++ xs := by
    rw [overwrite, ← hfront, List.take_left]
  have hdrop : (overwrite old pos xs).drop (pos + xs.length + ys.length)
      = old.drop (pos + (xs ++ ys).length) := by
    rw [overwrite, ← List.drop_drop, ← hfront, List.drop_left, hfront, List.drop_drop,
      List.length_append, Nat.add_assoc]
  have hgap : pos + xs.length - (overwrite old pos xs).length = 0 := by omega
  rw [overwrite, htake, hdrop, hgap, List.replicate_zero, List.append_nil, overwrite]
  simp only [List.append_assoc]

/-- A write to the start of a file. -/
lemma overwrite_zero (old data : List UInt8) :
    overwrite old 0 data = data ++ old.drop data.length := by
  simp [overwrite]

/-- **Whole writes** are one write. -/
theorem bytes_writeAll {chunks : List (List UInt8)} {s : Stream}
    (h : (s.writeAll f chunks).1 = chunks.map List.length) (hpos : s.pos ≤ s.bytes.length) :
    (s.writeAll f chunks).2.bytes = overwrite s.bytes s.pos chunks.flatten := by
  induction chunks generalizing s with
  | nil =>
      have hgap : s.pos - s.bytes.length = 0 := by omega
      simp [Stream.writeAll, overwrite, hgap]
  | cons data chunks ih =>
      rw [Stream.writeAll, List.map_cons, List.cons.injEq] at h
      obtain ⟨hfirst, hrest⟩ := h
      have hmoved : f.moves s.transfers data = data := moves_of_reaches (length_moves_eq_iff.mp hfirst)
      have hwrite : (s.write f data).2
          = ⟨overwrite s.bytes s.pos data, s.pos + data.length, s.transfers + 1⟩ := by
        rw [Stream.write, hmoved]
      have hlen := length_overwrite s.bytes s.pos data
      rw [Stream.writeAll]
      dsimp only
      rw [ih hrest (by rw [hwrite]; dsimp only; omega), hwrite, overwrite_overwrite, List.flatten_cons]

/-- **Reads that do not stop** deliver what stands there. -/
theorem readAll_eq {chunks : List (List UInt8)} {s : Stream} {rest : List UInt8}
    (hbytes : s.bytes.drop s.pos = chunks.flatten ++ rest)
    (hreach : ∀ i (hi : i < chunks.length), f.Reaches (s.transfers + i) chunks[i].length) :
    (s.readAll f (chunks.map List.length)).1 = chunks := by
  induction chunks generalizing s with
  | nil => rfl
  | cons data chunks ih =>
      rw [List.flatten_cons, List.append_assoc] at hbytes
      have htake : (s.bytes.drop s.pos).take data.length = data := by
        rw [hbytes, List.take_left]
      have hread : s.read f data.length
          = (data, { s with pos := s.pos + data.length, transfers := s.transfers + 1 }) := by
        have hmoved : f.moves s.transfers data = data :=
          moves_of_reaches (hreach 0 (Nat.succ_pos _))
        rw [Stream.read, htake, hmoved]
      rw [List.map_cons, Stream.readAll, hread]
      dsimp only
      congr 1
      refine ih ?_ fun i hi => ?_
      · show s.bytes.drop (s.pos + data.length) = _
        rw [← List.drop_drop, hbytes, List.drop_left]
      · have hsucc := hreach (i + 1) (Nat.succ_lt_succ hi)
        show f.Reaches (s.transfers + 1 + i) _
        rw [Nat.add_assoc, Nat.add_comm 1 i]
        exact hsucc

end FileSession
