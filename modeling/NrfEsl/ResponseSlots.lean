import NrfEsl.Ap.Step
import NrfEsl.Framing
import NrfEsl.Packet

/-!
# Response slots of the two devices

A tag answers in the slot whose number is the index of its last own TLV in the packet.  The access
point opens `CONFIG_ESL_NUM_RESPONSE_SLOTS` slots with every packet and keeps
`CONFIG_ESL_CLIENT_MAX_RESPONSE_SLOT_BUFFER` responses; `esl_c_push_sync_buf` does not count TLVs.

**When the two agree** (`slotAgrees_iff`).  No TLV with the tag's own ID stands behind the first
slots that both limits allow.  A payload has room for 23 TLVs, so limits of 23 are always enough
(`slotAgrees_of_limits`), and smaller ones never (`not_slotAgrees_of_limits`).
-/

namespace NrfEsl

open Tiling TagDevice

/-! ## Specification -/

/-- The access point opens the slot with a packet and has a buffer for its response. -/
def ApConfig.HasSlot (cfg : ApConfig) (slot : ℤ) : Prop :=
  slot < cfg.numResponseSlots ∧ slot < cfg.maxResponseSlotBuffer

instance (cfg : ApConfig) (slot : ℤ) : Decidable (cfg.HasSlot slot) :=
  inferInstanceAs (Decidable (_ ∧ _))

/-- A sync payload: group ID and TLVs. -/
def syncPayload (groupId : UInt8) (tlvs : List Tlv) : List UInt8 := groupId :: flatten tlvs

/-- The response slot the tag derives from its packet is one the access point has. -/
def SlotAgrees (cfg : Config) (apCfg : ApConfig) (env : ℕ → HandlerEnv) (d : TagDevice) : Prop :=
  ∀ f d', d.parsePacket cfg env = some (f, d') → apCfg.HasSlot f.rspSlot

/-- TLV number `i` carries the ID that the tag has after the commands before it. -/
def OwnTlv (cfg : Config) (t : EslTag) (tlvs : List Tlv) (i : ℕ) : Prop :=
  ∃ u, tlvs[i]? = some u
    ∧ Tlv.eslId u = (executeTlvs cfg t (tlvs.take i)).assoc.eslAddr.eslId

/-! ## The slot of a tag -/

section Slot

variable {cfg : Config} {env : ℕ → HandlerEnv} {d : TagDevice} {tlvs : List Tlv}

lemma OwnTlv.lt_length {t : EslTag} {i : ℕ} (h : OwnTlv cfg t tlvs i) : i < tlvs.length := by
  obtain ⟨u, hu, -⟩ := h
  exact (List.getElem?_eq_some_iff.mp hu).1

/-- The locals and the tag after some TLVs.  The slot lies below a bound exactly when all own TLVs
so far do. -/
structure SlotTracked (cfg : Config) (t : EslTag) (tlvs done : List Tlv)
    (s : ParserFrame × TagDevice) : Prop where
  tag : s.2.tag = executeTlvs cfg t done
  tlvSlot : s.1.tlvSlot = done.length - 1
  rspSlot_lt : ∀ b : ℕ, s.1.rspSlot < b ↔ ∀ i < done.length, OwnTlv cfg t tlvs i → i < b

/-- One more TLV. -/
lemma SlotTracked.turn {done rest : List Tlv} {u : Tlv} {s : ParserFrame × TagDevice}
    {t : EslTag} {tail : List UInt8} (hsplit : tlvs = done ++ u :: rest)
    (hreads : Reads s (u.toList ++ tail)) (h : SlotTracked cfg t tlvs done s) :
    SlotTracked cfg t tlvs (done ++ [u]) (turn cfg env s) := by
  have hid : s.2.pawrSyncWork.buf.data (s.1.cur + 1) = Tlv.eslId u := by
    obtain ⟨op, params, hu, -⟩ := u.eq_cons
    rw [hu] at hreads
    exact hreads.eslId
  have hslot : s.1.tlvSlot + 1 = (done.length : ℤ) := by
    rw [h.tlvSlot]
    omega
  have hown : OwnTlv cfg t tlvs done.length ↔ Tlv.eslId u = s.2.tag.assoc.eslAddr.eslId := by
    rw [OwnTlv, hsplit, List.take_left' rfl, h.tag]
    simp
  have hne := s.2.tag.assoc.eslAddr.eslId_ne_broadcast
  refine ⟨?_, ?_, ?_⟩
  · rw [TagDevice.turn, hreads.tag_runTlv env, h.tag, executeTlvs, executeTlvs, List.foldl_concat]
  · simp only [TagDevice.turn, visitTlv, hslot, List.length_append, List.length_singleton]
    omega
  · intro b
    simp only [TagDevice.turn, visitTlv, hslot, hreads.addressed_iff, hid, List.length_append,
      List.length_singleton]
    by_cases hu : Tlv.eslId u = s.2.tag.assoc.eslAddr.eslId
    · rw [if_pos ⟨.inl hu, hu ▸ hne⟩]
      constructor
      · intro hb i hi _
        omega
      · intro hall
        have hlast := hall done.length (by omega) (hown.mpr hu)
        omega
    · rw [if_neg (by tauto), h.rspSlot_lt]
      constructor
      · intro hall i hi hi'
        rcases Nat.lt_succ_iff_lt_or_eq.mp hi with hlt | rfl
        · exact hall i hlt hi'
        · exact absurd (hown.mp hi') hu
      · exact fun hall i hi => hall i (by omega)

/-- **The slot of a tag** lies below a bound exactly when all its own TLVs do. -/
theorem rspSlot_lt_iff (hpacket : TiledPacket tlvs d) {f : ParserFrame} {d' : TagDevice}
    (hparse : d.parsePacket cfg env = some (f, d')) (b : ℕ) :
    f.rspSlot < b ↔ ∀ i, OwnTlv cfg d.tag tlvs i → i < b := by
  have hreads : Reads (atFirstTlv d) (flatten tlvs) :=
    hpacket.tiled ▸ reads_atFirstTlv hpacket.isEslAd hpacket.ownGroup hpacket.hasGroup
  rw [parsePacket_ownGroup cfg env hpacket.isEslAd hpacket.ownGroup, parseTlvs_whole hreads] at hparse
  have hf : (turns cfg env tlvs.length (atFirstTlv d)).1 = f :=
    congrArg Prod.fst (Option.some.inj hparse)
  have hstart : SlotTracked cfg d.tag tlvs [] (atFirstTlv d) := by
    refine ⟨by rw [atFirstTlv, tag_beginPacket]; rfl, rfl, fun b => ?_⟩
    refine iff_of_true ?_ fun i hi => absurd hi (Nat.not_lt_zero i)
    show (-1 : ℤ) < b
    omega
  have htracked : SlotTracked cfg d.tag tlvs tlvs (turns cfg env tlvs.length (atFirstTlv d)) :=
    (turns_rule (by rwa [List.append_nil]) hstart
      fun done u rest hsplit hread hinv => hinv.turn hsplit hread).1
  rw [← hf, htracked.rspSlot_lt]
  exact ⟨fun h i hi => h i hi.lt_length hi, fun h i _ => h i⟩

end Slot

/-! ## Payloads -/

section Payload

variable {cfg : Config} {apCfg : ApConfig} {env : ℕ → HandlerEnv} {d : TagDevice}
  {tlvs : List Tlv} {groupId : UInt8} {g : ℕ}

/-- A payload that the access point accepts is a packet of TLVs for the tags of its group. -/
lemma tiledPacket_of_payload (hpush : Ap.PushArgs apCfg (syncPayload groupId tlvs) g)
    (hbuf : d.pawrSyncWork.buf.bytes = eslAd (syncPayload groupId tlvs)) (hgroup : OwnGroup d) :
    TiledPacket tlvs d where
  isEslAd := isEslAd_of_bytes hpush.2.1 hbuf
  hasGroup := by
    rw [← NetBuf.length_bytes, hbuf, length_eslAd, syncPayload, List.length_cons]
    omega
  ownGroup := hgroup
  tiled := by
    rw [hbuf]
    rfl

/-- Every TLV has at least two bytes. -/
lemma two_mul_length_le (tlvs : List Tlv) : 2 * tlvs.length ≤ (flatten tlvs).length := by
  induction tlvs with
  | nil => exact Nat.zero_le _
  | cons t tlvs ih =>
      obtain ⟨op, params, -, hlen⟩ := t.eq_cons
      have h2 := two_le_ecpLen op
      rw [flatten_cons, List.length_append, List.length_cons]
      omega

/-- A payload has room for 23 TLVs. -/
lemma length_tlvs_le (hpush : Ap.PushArgs apCfg (syncPayload groupId tlvs) g) :
    tlvs.length ≤ 23 := by
  have hmax : (syncPayload groupId tlvs).length ≤ 48 := hpush.2.1
  have hmin := two_mul_length_le tlvs
  rw [syncPayload, List.length_cons] at hmax
  omega

/-- **Limits of 23 are enough** for every payload. -/
theorem slotAgrees_of_limits (hnum : 23 ≤ apCfg.numResponseSlots)
    (hmax : 23 ≤ apCfg.maxResponseSlotBuffer)
    (hpush : Ap.PushArgs apCfg (syncPayload groupId tlvs) g)
    (hbuf : d.pawrSyncWork.buf.bytes = eslAd (syncPayload groupId tlvs)) (hgroup : OwnGroup d) :
    SlotAgrees cfg apCfg env d := by
  intro f d' hparse
  have hlt : f.rspSlot < (23 : ℕ) := by
    refine (rspSlot_lt_iff (tiledPacket_of_payload hpush hbuf hgroup) hparse 23).mpr fun i hi => ?_
    exact lt_of_lt_of_le hi.lt_length (length_tlvs_le hpush)
  constructor <;> omega

/-- **Slot agreement.**  The tag derives a slot that the access point has exactly when the packet is
for another group, or no TLV with the tag's own ID stands behind the slots of the access point. -/
theorem slotAgrees_iff (hpush : Ap.PushArgs apCfg (syncPayload groupId tlvs) g)
    (hbuf : d.pawrSyncWork.buf.bytes = eslAd (syncPayload groupId tlvs)) (hidle : d.parser = none) :
    SlotAgrees cfg apCfg env d
      ↔ (OwnGroup d → ∀ i, OwnTlv cfg d.tag tlvs i →
          i < apCfg.numResponseSlots ∧ i < apCfg.maxResponseSlotBuffer) := by
  by_cases hgroup : OwnGroup d
  · have hpacket := tiledPacket_of_payload hpush hbuf hgroup
    have hparse := parsePacket_ownGroup cfg env hpacket.isEslAd hpacket.ownGroup
    have hlt := rspSlot_lt_iff hpacket hparse
    constructor
    · intro h _ i hi
      obtain ⟨hnum, hmax⟩ := h _ _ hparse
      exact ⟨(hlt _).mp hnum i hi, (hlt _).mp hmax i hi⟩
    · intro h f d' hparse'
      have hlt' := rspSlot_lt_iff hpacket hparse'
      exact ⟨(hlt' _).mpr fun i hi => (h hgroup i hi).1, (hlt' _).mpr fun i hi => (h hgroup i hi).2⟩
  · refine iff_of_true ?_ fun h => absurd h hgroup
    intro f d' hparse
    rw [parsePacket, beginPacket_otherGroup hidle hgroup] at hparse
    cases hparse

end Payload

/-! ### Packets of Pings -/

/-- Pings for the tag with ID 0. -/
def pings (n : ℕ) : List Tlv := List.replicate n (Tlv.ping 0x00)

/-- **Smaller limits are never enough**: 23 Pings are answered in slot 22. -/
theorem not_slotAgrees_of_limits (apCfg : ApConfig)
    (hsmall : apCfg.numResponseSlots < 23 ∨ apCfg.maxResponseSlotBuffer < 23) :
    Ap.PushArgs apCfg (syncPayload 0 (pings 23)) 0
      ∧ ¬ SlotAgrees .sample apCfg (fun _ => {}) (holding (eslAd (syncPayload 0 (pings 23)))) := by
  have hslot : ((holding (eslAd (syncPayload 0 (pings 23)))).parsePacket .sample fun _ => {}).map
      (fun x => x.1.rspSlot) = some 22 := by decide +kernel
  have hgroup : 0 < apCfg.maxGroup := apCfg.maxGroup_mem.1
  refine ⟨⟨by decide, by decide, hgroup⟩, fun h => ?_⟩
  obtain ⟨⟨f, d'⟩, hparse, hf⟩ := Option.map_eq_some_iff.mp hslot
  obtain ⟨hnum, hmax⟩ := h f d' hparse
  rw [show f.rspSlot = 22 from hf] at hnum hmax
  omega

/-- Eight Pings are answered in the last slot of the default configuration. -/
theorem slotAgrees_eightPings :
    SlotAgrees .sample .default (fun _ => {}) (holding (eslAd (syncPayload 0 (pings 8)))) := by
  have hpush : Ap.PushArgs .default (syncPayload 0 (pings 8)) 0 := by decide
  refine (slotAgrees_iff hpush (NetBuf.bytes_ofBytes _ _) rfl).mpr ?_
  rintro - i hi
  exact ⟨hi.lt_length, hi.lt_length⟩

/-- The access point accepts nine Pings; the answer goes to a slot it neither opens nor stores. -/
theorem slotAgrees_fails :
    Ap.PushArgs .default (syncPayload 0 (pings 9)) 0
      ∧ ((holding (eslAd (syncPayload 0 (pings 9)))).parsePacket .sample fun _ => {}).map
          (fun x => x.1.rspSlot) = some 8
      ∧ ¬ SlotAgrees .sample .default (fun _ => {}) (holding (eslAd (syncPayload 0 (pings 9)))) := by
  have hslot : ((holding (eslAd (syncPayload 0 (pings 9)))).parsePacket .sample fun _ => {}).map
      (fun x => x.1.rspSlot) = some 8 := by decide +kernel
  refine ⟨by decide, hslot, fun h => ?_⟩
  obtain ⟨⟨f, d'⟩, hparse, hf⟩ := Option.map_eq_some_iff.mp hslot
  have hhas := h f d' hparse
  rw [show f.rspSlot = 8 from hf] at hhas
  exact absurd hhas (by decide)

end NrfEsl
