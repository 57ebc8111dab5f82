import Mathlib.Algebra.GroupWithZero.Nat
import Mathlib.Data.List.Basic

/-!
# Byte memory behind a pointer

A C pointer is modelled by what can be read through it: `Mem := ℕ → UInt8`, the byte at every
offset.  A buffer of known contents is `Mem.ofBytes bytes beyond`, where `beyond` is **whatever
lies behind it** — stale stack, the next field, uninitialised memory.  A result about code that
reads past its input is then a result for every `beyond`.

* `Mem.read` — the bytes at an offset; `Mem.write` — the memory after a copy.
* `NetBuf` — a data pointer with a length, as the network buffers of the stack have it.
-/

/-- The bytes that can be read through a pointer, by offset. -/
abbrev Mem := ℕ → UInt8

namespace Mem

/-- A pointer to `bytes`, followed by `beyond`. -/
def ofBytes (bytes : List UInt8) (beyond : Mem) : Mem :=
  fun i => (bytes[i]?).getD (beyond (i - bytes.length))

/-- The pointer moved forward by `n`. -/
def shift (m : Mem) (n : ℕ) : Mem := fun i => m (n + i)

/-- The `len` bytes at offset `off`. -/
def read (m : Mem) (off len : ℕ) : List UInt8 := (List.range len).map fun i => m (off + i)

/-- The memory after `bytes` are copied to offset `off`. -/
def write (m : Mem) (off : ℕ) (bytes : List UInt8) : Mem :=
  fun i => if off ≤ i then (bytes[i - off]?).getD (m i) else m i

@[simp] lemma length_read (m : Mem) (off len : ℕ) : (m.read off len).length = len := by
  simp [read]

@[simp] lemma read_zero (m : Mem) (off : ℕ) : m.read off 0 = [] := rfl

@[simp] lemma shift_apply (m : Mem) (n i : ℕ) : m.shift n i = m (n + i) := rfl

lemma read_shift (m : Mem) (n off len : ℕ) : (m.shift n).read off len = m.read (n + off) len := by
  simp [read, Nat.add_assoc]

/-- Reading splits at any point. -/
lemma read_add (m : Mem) (off a b : ℕ) :
    m.read off (a + b) = m.read off a ++ m.read (off + a) b := by
  simp [read, List.range_add, Nat.add_assoc]

lemma read_succ (m : Mem) (off len : ℕ) :
    m.read off (len + 1) = m off :: m.read (off + 1) len := by
  rw [Nat.add_comm, read_add]
  rfl

/-- Two reads agree when the memories agree on the range. -/
lemma read_congr {m m' : Mem} {off len : ℕ} (h : ∀ i < len, m (off + i) = m' (off + i)) :
    m.read off len = m'.read off len := by
  simp only [read]
  refine List.map_congr_left fun i hi => ?_
  exact h i (List.mem_range.mp hi)

/-- Inside the buffer the memory is the buffer. -/
lemma ofBytes_of_lt {bytes : List UInt8} {beyond : Mem} {i : ℕ} (h : i < bytes.length) :
    ofBytes bytes beyond i = bytes[i] := by
  simp [ofBytes, h]

lemma ofBytes_append_right (xs ys : List UInt8) (beyond : Mem) (i : ℕ) :
    ofBytes (xs ++ ys) beyond (xs.length + i) = ofBytes ys beyond i := by
  simp only [ofBytes, List.length_append, List.getElem?_append_right (Nat.le_add_right _ _),
    Nat.add_sub_cancel_left, Nat.add_sub_add_left]

/-- A buffer behind another one. -/
lemma ofBytes_ofBytes (xs ys : List UInt8) (beyond : Mem) :
    ofBytes xs (ofBytes ys beyond) = ofBytes (xs ++ ys) beyond := by
  funext i
  by_cases hi : i < xs.length
  · have happend : i < (xs ++ ys).length := by
      rw [List.length_append]
      omega
    rw [ofBytes_of_lt hi, ofBytes_of_lt happend, List.getElem_append_left hi]
  · obtain ⟨k, rfl⟩ := Nat.exists_eq_add_of_le (Nat.le_of_not_lt hi)
    rw [ofBytes_append_right]
    simp only [ofBytes, List.getElem?_eq_none (Nat.le_add_right xs.length k), Option.getD_none,
      Nat.add_sub_cancel_left]

/-- What is read at the start of a buffer is the buffer. -/
lemma read_ofBytes (bytes : List UInt8) (beyond : Mem) :
    (ofBytes bytes beyond).read 0 bytes.length = bytes := by
  refine List.ext_getElem (by simp) fun i hi _ => ?_
  simp only [length_read] at hi
  simp [read, ofBytes, hi]

/-- A buffer filled by a read has the bytes that were there. -/
lemma ofBytes_read {m beyond : Mem} {len i : ℕ} (h : i < len) :
    ofBytes (m.read 0 len) beyond i = m i := by
  rw [ofBytes_of_lt (by simpa using h)]
  simp [read]

lemma write_of_mem {m : Mem} {off i : ℕ} {bytes : List UInt8} (h : i < bytes.length) :
    m.write off bytes (off + i) = bytes[i] := by
  simp [write, h]

@[simp] lemma write_nil (m : Mem) (off : ℕ) : m.write off [] = m := by
  funext i
  simp [write]

/-- A copy leaves what stands before it. -/
lemma write_of_lt {m : Mem} {off i : ℕ} (bytes : List UInt8) (h : i < off) :
    m.write off bytes i = m i := by
  rw [write, if_neg (by omega)]

/-- Or behind it. -/
lemma write_of_ge (m : Mem) {off i : ℕ} {bytes : List UInt8} (h : off + bytes.length ≤ i) :
    m.write off bytes i = m i := by
  rw [write, if_pos (by omega), List.getElem?_eq_none (by omega), Option.getD_none]

/-- A copy to the start. -/
lemma write_zero (m : Mem) (bytes : List UInt8) :
    m.write 0 bytes = ofBytes bytes (m.shift bytes.length) := by
  funext i
  simp only [write, ofBytes, Nat.zero_le, if_true, Nat.sub_zero]
  by_cases hi : i < bytes.length
  · rw [List.getElem?_eq_getElem hi]
    rfl
  · have hle := Nat.le_of_not_lt hi
    rw [List.getElem?_eq_none hle, Option.getD_none, Option.getD_none, shift_apply,
      Nat.add_sub_cancel' hle]

/-- What was just copied is read back. -/
lemma read_write (m : Mem) (off : ℕ) (bytes : List UInt8) :
    (m.write off bytes).read off bytes.length = bytes := by
  refine List.ext_getElem (by simp) fun i hi _ => ?_
  simp only [length_read] at hi
  simp [read, write_of_mem hi]

/-- Nor what lies behind it. -/
lemma read_write_of_ge {m : Mem} {off off' len : ℕ} (bytes : List UInt8)
    (h : off' + bytes.length ≤ off) : (m.write off' bytes).read off len = m.read off len := by
  refine read_congr fun i _ => ?_
  simp only [write]
  rw [List.getElem?_eq_none (by omega)]
  simp

/-- Two copies one behind the other are one copy. -/
lemma write_append (m : Mem) (off : ℕ) (xs ys : List UInt8) :
    m.write off (xs ++ ys) = (m.write off xs).write (off + xs.length) ys := by
  funext i
  by_cases hlt : i < off + xs.length
  · rw [write_of_lt ys hlt, write, write]
    split
    · rw [List.getElem?_append_left (by omega)]
    · rfl
  · have hsub : i - off - xs.length = i - (off + xs.length) := by omega
    rw [write, if_pos (by omega), List.getElem?_append_right (by omega), hsub, write, if_pos (by omega),
      write_of_ge m (by omega)]

/-- A read that starts with a copy and goes on behind it. -/
lemma read_write_add (m : Mem) (off n : ℕ) (bytes : List UInt8) :
    (m.write off bytes).read off (bytes.length + n) = bytes ++ m.read (off + bytes.length) n := by
  rw [read_add, read_write, read_write_of_ge _ (Nat.le_refl _)]

end Mem

/-- A network buffer: its data pointer and its length. -/
structure NetBuf where
  data : Mem
  len : ℕ

namespace NetBuf

/-- The contents of the buffer. -/
def bytes (b : NetBuf) : List UInt8 := b.data.read 0 b.len

/-- `net_buf_simple_init_with_data` over bytes followed by `beyond`. -/
def ofBytes (bytes : List UInt8) (beyond : Mem) : NetBuf := ⟨Mem.ofBytes bytes beyond, bytes.length⟩

/-- `net_buf_simple_pull`: drop `n` bytes at the front.  The 16-bit length wraps. -/
def pull (b : NetBuf) (n : ℕ) : NetBuf := ⟨b.data.shift n, (2 ^ 16 + b.len - n) % 2 ^ 16⟩

@[simp] lemma bytes_ofBytes (bs : List UInt8) (beyond : Mem) : (ofBytes bs beyond).bytes = bs :=
  Mem.read_ofBytes bs beyond

@[simp] lemma len_ofBytes (bs : List UInt8) (beyond : Mem) : (ofBytes bs beyond).len = bs.length :=
  rfl

@[simp] lemma length_bytes (b : NetBuf) : b.bytes.length = b.len := by simp [bytes]

/-- The memory after the contents of a buffer are copied to its start. -/
lemma write_bytes (m : Mem) (b : NetBuf) (i : ℕ) :
    m.write 0 b.bytes i = if i < b.len then b.data i else m i := by
  by_cases h : i < b.len <;> simp [Mem.write, bytes, Mem.read, h]

@[simp] lemma data_pull (b : NetBuf) (n : ℕ) : (b.pull n).data = b.data.shift n := rfl

/-- Nothing wraps when that many bytes are there. -/
lemma len_pull {b : NetBuf} {n : ℕ} (hn : n ≤ b.len) (hb : b.len < 2 ^ 16) :
    (b.pull n).len = b.len - n := by
  simp only [pull]
  omega

/-- The bytes behind those pulled. -/
lemma bytes_pull {b : NetBuf} (xs : List UInt8) {ys : List UInt8} (h : b.bytes = xs ++ ys)
    (hb : b.len < 2 ^ 16) :
    (b.pull xs.length).bytes = ys := by
  have hlen : b.len = xs.length + ys.length := by
    rw [← length_bytes, h, List.length_append]
  have hpull : (b.pull xs.length).len = ys.length := by
    rw [len_pull (by omega) hb]
    omega
  simp only [bytes, hpull, data_pull, Mem.read_shift, Nat.add_zero]
  simp only [bytes, hlen, Mem.read_add, Nat.zero_add] at h
  exact (List.append_inj h (by simp)).2

/-- The byte at an offset inside the buffer. -/
lemma data_of_bytes {b : NetBuf} (xs : List UInt8) {ys : List UInt8} {y : UInt8}
    (h : b.bytes = xs ++ y :: ys) :
    b.data xs.length = y := by
  have hlt : xs.length < b.bytes.length := by
    rw [h]
    simp
  have hget : b.bytes[xs.length] = y := by
    simp [h]
  simpa [bytes, Mem.read] using hget

end NetBuf
