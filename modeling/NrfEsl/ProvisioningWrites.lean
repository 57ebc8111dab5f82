import NrfEsl.Tag.View
import NrfEsl.Lib.Traced

/-!
# What the provisioning characteristics accept

Four characteristics are written to provision a tag.  Each handler reads as many bytes as its
characteristic is long, behind the pointer the stack passes, and looks at neither the length of the
write nor its offset.  Only `esl_addr_write` refuses anything: the broadcast ID.

`Validated` is what a client should find: a write of the whole value at offset 0 is stored, every
other one is refused without a trace, and no byte behind the written ones is read.
`validated_iff` says which writes are handled so.
-/

namespace NrfEsl

namespace Characteristic

/-- The length of the value. -/
def size : Characteristic → ℕ
  | addr => 2
  | apSyncKey | responseKey => 24
  | absTime => 4

/-- The event of a write. -/
def write (w : AttWrite) : Characteristic → TagEvent
  | addr => .eslAddrWrite w
  | apSyncKey => .apKeyWrite w
  | responseKey => .eslRspKeyWrite w
  | absTime => .absTimeWrite w

end Characteristic

/-- The first bytes behind the pointer are read, of the ones that were written. -/
def AttWrite.read (w : AttWrite) (n : ℕ) : Traced Unit :=
  ⟨(), (List.range n).map (.index w.buf.len)⟩

lemma AttWrite.safe_read {w : AttWrite} {n : ℕ} : (w.read n).Safe ↔ n ≤ w.buf.len := by
  simp only [Traced.Safe, read, List.forall_mem_map, List.mem_range, Access.Safe]
  constructor
  · intro h
    cases n with
    | zero => exact Nat.zero_le _
    | succ n => exact h n n.lt_succ_self
  · intro h i hi
    exact Nat.lt_of_lt_of_le hi h

namespace EslTag

variable (cfg : Config)

/-- The four write handlers, with the bytes they read: `sys_get_le16(buf)`, two `memcpy` of a whole
key, and `*new_abs_time`, each before anything is checked. -/
def attWrite (c : Characteristic) (w : AttWrite) (t : EslTag) :
    Traced (Except AttError ℕ × EslTag) := do
  w.read c.size
  return match c with
    | .addr => t.eslAddrWrite cfg w
    | .apSyncKey => t.apKeyWrite cfg w
    | .responseKey => t.eslRspKeyWrite cfg w
    | .absTime => t.absTimeWrite cfg w

/-- The value of the characteristic is the written one, and its bit is set: the address without its
bit 15, a key with its session key reversed, a time as what the clock shows. -/
def Stores (w : AttWrite) (t : EslTag) : Characteristic → Prop
  | .addr => t.assoc.eslAddr.val = sysGetLe16 w.buf.data 0 &&& 0x7FFF
      ∧ t.assoc.configuringState.addrSet = true
  | .apSyncKey => t.assoc.eslApKey = storedKey w ∧ t.assoc.configuringState.apSyncKeySet = true
  | .responseKey => t.assoc.eslRspKey = storedKey w ∧ t.assoc.configuringState.responseKeySet = true
  | .absTime => t.absTime = sysGetLe32 w.buf.data 0 ∧ t.assoc.configuringState.absTimeSet = true

end EslTag

/-- A write that is to be accepted: the whole value, and no broadcast ID. -/
def AttWrite.Valid (c : Characteristic) (w : AttWrite) : Prop :=
  w.offset = 0 ∧ w.buf.len = c.size ∧ (c = .addr → w.buf.data 0 ≠ eslAddrBroadcast)

instance (c : Characteristic) (w : AttWrite) : Decidable (w.Valid c) :=
  inferInstanceAs (Decidable (_ ∧ _ ∧ _))

open EslTag

variable {cfg : Config} {c : Characteristic} {w : AttWrite} {t : EslTag}

/-- **A write is validated**: it is stored when it is valid and refused without a trace otherwise, and
nothing behind the written bytes is read. -/
structure Validated (cfg : Config) (c : Characteristic) (w : AttWrite) (t : EslTag) : Prop where
  accepted : w.Valid c → (t.attWrite cfg c w).val.1 = .ok c.size
    ∧ (t.attWrite cfg c w).val.2.Stores w c
  refused : ¬ w.Valid c → (∃ e, (t.attWrite cfg c w).val.1 = .error e)
    ∧ (t.attWrite cfg c w).val.2 = t
  reads : (t.attWrite cfg c w).Safe

/-- The handlers are what the events do. -/
lemma step_write (cfg : Config) (ead : Ead) (c : Characteristic) (w : AttWrite) (d : TagDevice) :
    d.step cfg ead (c.write w) = some (d.onTag fun t => (t.attWrite cfg c w).val.2) := by
  cases c <;> rfl

lemma safe_attWrite : (t.attWrite cfg c w).Safe ↔ c.size ≤ w.buf.len := by
  simp only [attWrite, Traced.safe_bind, Traced.safe_pure, and_true, AttWrite.safe_read]

/-! ## The handlers -/

/-- The ID in the first byte is the one the handler looks at. -/
lemma lowByte_written (m : Mem) : lowByte (sysGetLe16 m 0 &&& 0x7FFF) = m 0 := by
  apply UInt8.toNat_inj.mp
  rw [toNat_lowByte, UInt16.toNat_and, toNat_sysGetLe16]
  have h0 := (m 0).toNat_lt
  have hmask : (0x7FFF : UInt16).toNat = 2 ^ 15 - 1 := rfl
  rw [hmask, Nat.and_two_pow_sub_one_eq_mod]
  omega

/-- The check of the provisioning bits keeps the values and the bits. -/
lemma stores_eslIsConfiguringState :
    (t.eslIsConfiguringState cfg).2.Stores w c ↔ t.Stores w c := by
  rw [eslIsConfiguringState]
  split
  · cases c <;> rfl
  · rfl

variable (cfg t) in
/-- **A write the handler does not refuse is stored.** -/
lemma attWrite_stores (h : c = .addr → w.buf.data 0 ≠ eslAddrBroadcast) :
    (t.attWrite cfg c w).val.1 = .ok c.size ∧ (t.attWrite cfg c w).val.2.Stores w c := by
  cases c with
  | addr =>
      have hid : ¬ lowByte (sysGetLe16 w.buf.data 0 &&& 0x7FFF) = eslAddrBroadcast := by
        rw [lowByte_written]
        exact h rfl
      show (t.eslAddrWrite cfg w).1 = _ ∧ (t.eslAddrWrite cfg w).2.Stores w .addr
      rw [eslAddrWrite, dif_neg hid]
      exact ⟨rfl, stores_eslIsConfiguringState.mpr ⟨rfl, rfl⟩⟩
  | apSyncKey => exact ⟨rfl, stores_eslIsConfiguringState.mpr ⟨rfl, rfl⟩⟩
  | responseKey => exact ⟨rfl, stores_eslIsConfiguringState.mpr ⟨rfl, rfl⟩⟩
  | absTime =>
      refine ⟨rfl, stores_eslIsConfiguringState.mpr ⟨?_, rfl⟩⟩
      show UInt32.ofNat t.uptime - (UInt32.ofNat t.uptime - sysGetLe32 w.buf.data 0) = _
      grind

variable (cfg t) in
/-- The broadcast ID is refused. -/
lemma attWrite_broadcast (h : w.buf.data 0 = eslAddrBroadcast) :
    (t.attWrite cfg .addr w).val = (.error .valueNotAllowed, t) := by
  have hid : lowByte (sysGetLe16 w.buf.data 0 &&& 0x7FFF) = eslAddrBroadcast := by
    rw [lowByte_written, h]
  show t.eslAddrWrite cfg w = _
  rw [eslAddrWrite, dif_pos hid]

/-- **Which writes are validated**: those of the whole value at offset 0, and those of two bytes or
more that begin with the broadcast ID, to the address. -/
theorem validated_iff (cfg : Config) (c : Characteristic) (w : AttWrite) (t : EslTag) :
    Validated cfg c w t ↔ (w.offset = 0 ∧ w.buf.len = c.size)
      ∨ (c = .addr ∧ c.size ≤ w.buf.len ∧ w.buf.data 0 = eslAddrBroadcast) := by
  by_cases hid : c = .addr ∧ w.buf.data 0 = eslAddrBroadcast
  · obtain ⟨rfl, hbroadcast⟩ := hid
    have hval := attWrite_broadcast cfg t hbroadcast
    have hvalid : ¬ w.Valid .addr := fun h => h.2.2 rfl hbroadcast
    constructor
    · intro h
      exact .inr ⟨rfl, safe_attWrite.mp h.reads, hbroadcast⟩
    · intro h
      refine ⟨fun h => absurd h hvalid, fun _ => ?_, safe_attWrite.mpr ?_⟩
      · rw [hval]
        exact ⟨⟨_, rfl⟩, rfl⟩
      · rcases h with ⟨-, hlen⟩ | ⟨-, hle, -⟩
        · exact hlen.ge
        · exact hle
  · have hstores := attWrite_stores cfg t fun hc hb => hid ⟨hc, hb⟩
    constructor
    · intro h
      left
      by_contra hwhole
      obtain ⟨⟨e, he⟩, -⟩ := h.refused fun hvalid => hwhole ⟨hvalid.1, hvalid.2.1⟩
      rw [hstores.1] at he
      cases he
    · rintro (⟨hoffset, hlen⟩ | ⟨hc, -, hb⟩)
      · have hvalid : w.Valid c := ⟨hoffset, hlen, fun hc hb => hid ⟨hc, hb⟩⟩
        exact ⟨fun _ => hstores, fun h => absurd hvalid h, safe_attWrite.mpr hlen.ge⟩
      · exact absurd ⟨hc, hb⟩ hid

/-- One byte is written to the AP Sync Key: it is accepted, and 23 bytes behind it are read. -/
theorem not_validated :
    ¬ Validated .sample .apSyncKey (.ofBytes [0x01]) (btEslInit .sample {}) := by
  intro h
  have hreads := safe_attWrite.mp h.reads
  exact absurd hreads (by decide)

end NrfEsl
