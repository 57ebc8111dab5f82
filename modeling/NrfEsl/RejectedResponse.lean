import NrfEsl.ReceivedData

/-!
# Responses that are not accepted

A response that is no legal encrypted AD structure, or that does not decrypt under the key of its slot,
should leave nothing behind.  `pawr_response` copies it into the slot before anything is looked at, its
worker gives the group a new status before the header check, and the slot one before the decryption.

So a rejected response leaves no trace in two cases only (`leavesNoTrace_iff`): it is empty, or what it
would leave is there already.
-/

namespace NrfEsl

/-- A legal encrypted AD structure: its length byte and its AD type. -/
def LegalEad (bs : List UInt8) : Prop :=
  bs.length = (bs.headD 0).toNat + 1 ∧ bs[1]? = some btDataEncryptedAdData

instance (bs : List UInt8) : Decidable (LegalEad bs) := inferInstanceAs (Decidable (_ ∧ _))

/-- The response is not legal, or does not decrypt under the key. -/
def RejectedResponse (ead : Ead) (key : KeyMaterial) (bs : List UInt8) : Prop :=
  ¬ LegalEad bs ∨ ead.decrypt key.sessionKey key.iv (bs.drop adHeaderLen) = none

instance (ead : Ead) (key : KeyMaterial) (bs : List UInt8) : Decidable (RejectedResponse ead key bs) :=
  inferInstanceAs (Decidable (_ ∨ _))

/-- **No trace**: the status of the group, and the status, the length and the bytes of the slot are
what they were, and no memory access goes astray. -/
structure LeavesNoTrace (info : ResponseInfo) (s : Ap) (r : Traced Ap) : Prop where
  inBounds : r.InBounds
  groupStatus : (r.val.syncBuf info.subevent.toNat).status = (s.syncBuf info.subevent.toNat).status
  slotStatus : ((r.val.syncBuf info.subevent.toNat).rspBuffer info.responseSlot.toNat).status
    = ((s.syncBuf info.subevent.toNat).rspBuffer info.responseSlot.toNat).status
  rspLen : ((r.val.syncBuf info.subevent.toNat).rspBuffer info.responseSlot.toNat).rspLen
    = ((s.syncBuf info.subevent.toNat).rspBuffer info.responseSlot.toNat).rspLen
  response : ((r.val.syncBuf info.subevent.toNat).rspBuffer info.responseSlot.toNat).bytes
    = ((s.syncBuf info.subevent.toNat).rspBuffer info.responseSlot.toNat).bytes

namespace RspBuffer

variable {ead : Ead} {r : RspBuffer}

/-- The slot after the copy of `pawr_response`. -/
def received (r : RspBuffer) (buf : NetBuf) : RspBuffer :=
  { r with data := r.data.write 0 buf.bytes, rspLen := UInt8.ofNat buf.len }

lemma bytes_received {buf : NetBuf} (hlen : buf.len ≤ eslEncryptedDataMaxLen) :
    (r.received buf).bytes = buf.bytes := by
  have hmax : buf.len ≤ 61 := hlen
  have hrspLen : (UInt8.ofNat buf.len).toNat = buf.bytes.length := by
    rw [UInt8.toNat_ofNat', NetBuf.length_bytes]
    omega
  rw [bytes, received, hrspLen, Mem.read_write]

/-- A slot that holds the response already does not change. -/
lemma received_of_bytes {buf : NetBuf} (h : r.bytes = buf.bytes) : r.received buf = r := by
  have hlen : r.rspLen.toNat = buf.len := by
    rw [← buf.length_bytes, ← h, bytes, Mem.length_read]
  have hdata : r.data.write 0 buf.bytes = r.data := by
    rw [← h]
    funext i
    refine (NetBuf.write_bytes r.data ⟨r.data, r.rspLen.toNat⟩ i).trans ?_
    split <;> rfl
  rw [received, hdata, ← hlen, UInt8.ofNat_toNat]

/-- The check of the header, on the bytes in the slot. -/
lemma legitEad_iff_legalEad (hlen : 2 ≤ r.rspLen.toNat) : r.LegitEad ↔ LegalEad r.bytes := by
  have hbytes : r.bytes = r.data 0 :: r.data 1 :: r.data.read 2 (r.rspLen.toNat - 2) := by
    rw [bytes, show r.rspLen.toNat = r.rspLen.toNat - 2 + 1 + 1 by omega, Mem.read_succ,
      Mem.read_succ]
    rfl
  have hlength : r.bytes.length = r.rspLen.toNat := Mem.length_read _ _ _
  rw [LegitEad, LegalEad, hlength, hbytes]
  simp only [List.headD_cons, List.getElem?_cons_succ, List.getElem?_cons_zero, Option.some_inj]

variable (ead) in
/-- A response whose header does not pass only gets its slot number. -/
lemma takeUp_of_not_legit (h : ¬ r.LegitEad) (stack : Mem) (responseSlot : UInt8) :
    r.takeUp ead stack responseSlot = pure { r with rspSlot := responseSlot } := by
  have hlegit : ¬ { r with rspSlot := responseSlot }.LegitEad := h
  rw [takeUp]
  exact if_neg hlegit

/-- What is decrypted is the response without its header. -/
lemma bytes_pull_header (hlen : 2 ≤ r.rspLen.toNat) :
    (NetBuf.pull ⟨r.data, r.rspLen.toNat⟩ adHeaderLen).bytes = r.bytes.drop adHeaderLen := by
  have hlt := r.rspLen.toNat_lt
  have hlength : (r.bytes.take adHeaderLen).length = adHeaderLen := by
    rw [List.length_take, bytes, Mem.length_read]
    exact Nat.min_eq_left hlen
  have hpull := NetBuf.bytes_pull (b := ⟨r.data, r.rspLen.toNat⟩) (r.bytes.take adHeaderLen)
    (List.take_append_drop adHeaderLen r.bytes).symm (by dsimp only; omega)
  rw [hlength] at hpull
  exact hpull

/-- A response that does not decrypt makes its slot full. -/
lemma takeUp_of_none (hlegit : r.LegitEad) (hlen : 2 ≤ r.rspLen.toNat)
    (hmax : r.rspLen.toNat ≤ eslEncryptedDataMaxLen)
    (hnone : ead.decrypt r.rspKey.sessionKey r.rspKey.iv (r.bytes.drop adHeaderLen) = none)
    (stack : Mem) (responseSlot : UInt8) :
    (r.takeUp ead stack responseSlot).InBounds
      ∧ (r.takeUp ead stack responseSlot).val
        = { r with rspSlot := responseSlot, status := .respFull } := by
  have hlegit' : { r with rspSlot := responseSlot }.LegitEad := hlegit
  have hmax' : r.rspLen.toNat ≤ 61 := hmax
  have hlen' : (NetBuf.pull ⟨r.data, r.rspLen.toNat⟩ adHeaderLen).len = r.rspLen.toNat - 2 :=
    NetBuf.len_pull hlen (by dsimp only; omega)
  have hbytes := bytes_pull_header hlen
  rw [← hbytes] at hnone
  rw [takeUp]
  simp only [if_pos hlegit', decrypt, Traced.inBounds_bind, Traced.inBounds_access,
    Traced.val_bind, hnone, Traced.inBounds_pure, Traced.val_pure, and_true]
  refine ⟨fun h => h.elim, fun h => h.elim, fun _ => ?_⟩
  rw [hlen', Access.Safe]
  have hmaxLen : eslEncryptedDataMaxLen = 61 := rfl
  omega

/-- A response of one byte whose header passes has no header to take off: the length wraps. -/
lemma not_inBounds_takeUp (hlegit : r.LegitEad) (hlen : r.rspLen.toNat = 1) (stack : Mem)
    (responseSlot : UInt8) : ¬ (r.takeUp ead stack responseSlot).InBounds := by
  have hlegit' : { r with rspSlot := responseSlot }.LegitEad := hlegit
  have hlen' : (NetBuf.pull ⟨r.data, r.rspLen.toNat⟩ adHeaderLen).len = 65535 := by
    rw [NetBuf.pull, hlen]
    rfl
  rw [takeUp]
  simp only [if_pos hlegit', decrypt, Traced.inBounds_bind, Traced.inBounds_access]
  rintro ⟨-, -, hwrite, -⟩
  have hwrite := hwrite trivial
  rw [hlen', Access.Safe] at hwrite
  exact absurd hwrite (by decide)

end RspBuffer

namespace Ap

variable {cfg : ApConfig} {ead : Ead} {stack : Mem} {info : ResponseInfo} {buf : NetBuf} {s : Ap}

/-- An empty response changes nothing. -/
lemma leavesNoTrace_empty (h : buf.len = 0) :
    LeavesNoTrace info s (s.receiveResponse cfg ead stack info buf) := by
  have hrecv : s.receiveResponse cfg ead stack info buf = pure { s with respPending := false } := by
    rw [receiveResponse, pawrResponse, if_pos h]
    rfl
  rw [hrecv]
  exact ⟨Traced.inBounds_pure _, rfl, rfl, rfl, rfl⟩

variable (cfg ead stack info buf s) in
/-- The slot a response goes to, taken up after the copy. -/
def takenUp : Traced RspBuffer :=
  (((s.syncBuf info.subevent.toNat).rspBuffer info.responseSlot.toNat).received buf).takeUp ead stack
    info.responseSlot

variable (cfg info s) in
/-- The response when it has been copied. -/
lemma val_pawrResponse (h : buf.len ≠ 0) :
    (s.pawrResponse cfg info buf).val
      = { s.updateGroup info.subevent.toNat fun b => { b with
            rspBuffer := Function.update b.rspBuffer info.responseSlot.toNat
              ((b.rspBuffer info.responseSlot.toNat).received buf) } with
          respInfo := info, respPending := true } := by
  simp only [pawrResponse, if_neg h]
  rfl

lemma inBounds_pawrResponse (h : buf.len ≠ 0) :
    (s.pawrResponse cfg info buf).InBounds ↔ info.subevent.toNat < cfg.maxGroup
      ∧ info.responseSlot.toNat < cfg.maxResponseSlotBuffer ∧ buf.len ≤ eslEncryptedDataMaxLen := by
  simp only [pawrResponse, if_neg h, SyncBuffer.storeResponse, Traced.inBounds_bind,
    Traced.inBounds_access, Traced.inBounds_pure, Access.Touches, Access.Safe, forall_const,
    Nat.zero_add, and_true]

variable (cfg ead stack info s) in
/-- What a response leaves. -/
lemma receiveResponse_eq (h : buf.len ≠ 0) :
    ((s.receiveResponse cfg ead stack info buf).InBounds ↔
      info.subevent.toNat < cfg.maxGroup ∧ info.responseSlot.toNat < cfg.maxResponseSlotBuffer
        ∧ buf.len ≤ eslEncryptedDataMaxLen ∧ (takenUp ead stack info buf s).InBounds)
    ∧ ((s.receiveResponse cfg ead stack info buf).val.syncBuf info.subevent.toNat).status = .respFull
    ∧ ((s.receiveResponse cfg ead stack info buf).val.syncBuf info.subevent.toNat).rspBuffer
        info.responseSlot.toNat = (takenUp ead stack info buf s).val := by
  have hval := val_pawrResponse cfg info { s with respPending := false } h
  refine ⟨?_, ?_, ?_⟩
  · rw [receiveResponse, Traced.inBounds_bind, inBounds_pawrResponse h, hval]
    simp only [if_true, respFillBufWorkFn, SyncBuffer.respFillBufWorkFn, Traced.inBounds_bind,
      Traced.inBounds_access, Traced.inBounds_pure, Access.Touches, Access.Safe, forall_const,
      syncBuf_updateGroup_same, Function.update_self, and_true]
    constructor
    · rintro ⟨⟨hg, hslot, hlen⟩, -, -, htaken⟩
      exact ⟨hg, hslot, hlen, htaken⟩
    · rintro ⟨hg, hslot, hlen, htaken⟩
      exact ⟨⟨hg, hslot, hlen⟩, hg, hslot, htaken⟩
  · rw [receiveResponse, Traced.val_bind, hval]
    simp only [if_true, val_respFillBufWorkFn, syncBuf_updateGroup_same]
    rfl
  · rw [receiveResponse, Traced.val_bind, hval]
    simp only [if_true, val_respFillBufWorkFn, syncBuf_updateGroup_same,
      SyncBuffer.respFillBufWorkFn, Traced.val_bind, Traced.val_pure, Function.update_self]
    rfl

variable (stack) in
/-- **What a rejected response makes of its slot**: the copy with its slot number, and a slot that is
full when the header passes. -/
lemma takenUp_rejected (h : buf.len ≠ 0) (hlen : buf.len ≤ eslEncryptedDataMaxLen)
    (hrejected : RejectedResponse ead
      ((s.syncBuf info.subevent.toNat).rspBuffer info.responseSlot.toNat).rspKey buf.bytes) :
    let r := ((s.syncBuf info.subevent.toNat).rspBuffer info.responseSlot.toNat).received buf
    ((takenUp ead stack info buf s).InBounds ↔ (r.LegitEad → 2 ≤ buf.len))
      ∧ ((takenUp ead stack info buf s).InBounds → (takenUp ead stack info buf s).val
        = { r with
            rspSlot := info.responseSlot
            status := if r.LegitEad then .respFull else r.status }) := by
  intro r
  have hbytes : r.bytes = buf.bytes := RspBuffer.bytes_received hlen
  have hrspLen : r.rspLen.toNat = buf.len := by
    rw [← buf.length_bytes, ← hbytes, RspBuffer.bytes, Mem.length_read]
  by_cases hlegit : r.LegitEad
  · rcases Nat.lt_or_ge buf.len 2 with hone | htwo
    · have hout : ¬ (takenUp ead stack info buf s).InBounds :=
        RspBuffer.not_inBounds_takeUp hlegit (by omega) stack info.responseSlot
      exact ⟨iff_of_false hout fun h => absurd (h hlegit) (Nat.not_le.mpr hone),
        fun h => absurd h hout⟩
    · rw [← hrspLen] at htwo hlen
      have hnone : ead.decrypt r.rspKey.sessionKey r.rspKey.iv (r.bytes.drop adHeaderLen) = none := by
        rw [hbytes]
        refine hrejected.resolve_left (not_not.mpr ?_)
        rw [← hbytes]
        exact (RspBuffer.legitEad_iff_legalEad htwo).mp hlegit
      obtain ⟨hin, hval⟩ := RspBuffer.takeUp_of_none hlegit htwo hlen hnone stack info.responseSlot
      rw [hrspLen] at htwo
      refine ⟨iff_of_true hin fun _ => htwo, fun _ => ?_⟩
      rw [if_pos hlegit]
      exact hval
  · have hpure := RspBuffer.takeUp_of_not_legit ead hlegit stack info.responseSlot
    have hin : (takenUp ead stack info buf s).InBounds := by
      rw [takenUp, hpure]
      exact Traced.inBounds_pure _
    refine ⟨iff_of_true hin fun h => absurd h hlegit, fun _ => ?_⟩
    rw [if_neg hlegit, takenUp, hpure]
    rfl

end Ap

/-- **When a rejected response leaves no trace**: it is empty, or the group and the slot are already as
it would leave them. -/
theorem leavesNoTrace_iff (cfg : ApConfig) (ead : Ead) (stack : Mem) (info : ResponseInfo)
    (buf : NetBuf) (s : Ap)
    (hrejected : RejectedResponse ead
      ((s.syncBuf info.subevent.toNat).rspBuffer info.responseSlot.toNat).rspKey buf.bytes) :
    let b := s.syncBuf info.subevent.toNat
    let r := b.rspBuffer info.responseSlot.toNat
    LeavesNoTrace info s (s.receiveResponse cfg ead stack info buf) ↔ buf.len = 0
      ∨ (info.subevent.toNat < cfg.maxGroup ∧ info.responseSlot.toNat < cfg.maxResponseSlotBuffer
        ∧ buf.len ≤ eslEncryptedDataMaxLen ∧ b.status = .respFull ∧ r.bytes = buf.bytes
        ∧ (r.LegitEad → r.status = .respFull ∧ 2 ≤ buf.len)) := by
  intro b r
  by_cases hempty : buf.len = 0
  · exact iff_of_true (Ap.leavesNoTrace_empty hempty) (.inl hempty)
  obtain ⟨hbounds, hgroup, hslot⟩ := Ap.receiveResponse_eq cfg ead stack info s hempty
  rw [or_iff_right hempty]
  constructor
  · rintro ⟨hin, hstatus, hslotStatus, hrspLen, hresponse⟩
    obtain ⟨hg, hs, hlen, htaken⟩ := hbounds.mp hin
    obtain ⟨hlegit, hval⟩ := Ap.takenUp_rejected stack hempty hlen hrejected
    have hval := hval htaken
    rw [hslot, hval] at hslotStatus hresponse
    have hsame : r.bytes = buf.bytes := by
      rw [← RspBuffer.bytes_received (r := r) hlen]
      exact hresponse.symm
    have hreceived := RspBuffer.received_of_bytes hsame
    refine ⟨hg, hs, hlen, hstatus.symm.trans hgroup, hsame, fun h => ?_⟩
    rw [← hreceived] at h
    refine ⟨?_, hlegit.mp htaken h⟩
    rw [← hslotStatus]
    exact if_pos h
  · rintro ⟨hg, hs, hlen, hstatus, hsame, hfull⟩
    obtain ⟨hlegit, hval⟩ := Ap.takenUp_rejected stack hempty hlen hrejected
    have hreceived : r.received buf = r := RspBuffer.received_of_bytes hsame
    have htaken := hlegit.mpr fun h => (hfull (by rw [← hreceived]; exact h)).2
    have hval := hval htaken
    refine ⟨hbounds.mpr ⟨hg, hs, hlen, htaken⟩, hgroup.trans hstatus.symm, ?_, ?_, ?_⟩
    · rw [hslot, hval]
      show (if (r.received buf).LegitEad then _ else (r.received buf).status) = r.status
      rw [hreceived]
      split
      · rename_i h
        exact (hfull h).1.symm
      · rfl
    · rw [hslot, hval]
      show (r.received buf).rspLen = r.rspLen
      rw [hreceived]
    · rw [hslot, hval]
      show (r.received buf).bytes = r.bytes
      rw [hreceived]

/-- A slot that holds the byte 5, in a group that is answered. -/
def answeredFive : Ap :=
  (Ap.init .zero).updateGroup 0 fun b => { b with
    status := .respFull
    rspBuffer := fun _ => ⟨.zero, Mem.ofBytes [5] fun _ => 0, 1, 0, .empty⟩ }

/-- The byte 5 once more. -/
theorem leavesNoTrace_again :
    LeavesNoTrace ⟨0, 0⟩ answeredFive
      (answeredFive.receiveResponse .default .clear (fun _ => 0) ⟨0, 0⟩
        (.ofBytes [5] fun _ => 0)) := by
  have hrejected : RejectedResponse .clear
      ((answeredFive.syncBuf 0).rspBuffer 0).rspKey (NetBuf.ofBytes [5] fun _ => 0).bytes := by
    decide
  have hbytes : ((answeredFive.syncBuf 0).rspBuffer 0).bytes
      = (NetBuf.ofBytes [5] fun _ => 0).bytes := by decide
  have hlegit : ¬ ((answeredFive.syncBuf 0).rspBuffer 0).LegitEad := by decide
  exact (leavesNoTrace_iff .default .clear (fun _ => 0) ⟨0, 0⟩ (.ofBytes [5] fun _ => 0)
    answeredFive hrejected).mpr
    (.inr ⟨by decide, by decide, by decide, by decide, hbytes, fun h => absurd h hlegit⟩)

/-- The byte 5 to a group without responses: the group counts as answered. -/
theorem not_leavesNoTrace :
    RejectedResponse .clear KeyMaterial.zero (NetBuf.ofBytes [5] fun _ => 0).bytes
      ∧ ¬ LeavesNoTrace ⟨0, 0⟩ (Ap.init .zero)
        ((Ap.init .zero).receiveResponse .default .clear (fun _ => 0) ⟨0, 0⟩
          (.ofBytes [5] fun _ => 0)) := by
  refine ⟨by decide, fun h => ?_⟩
  exact absurd h.groupStatus (by decide)

end NrfEsl
