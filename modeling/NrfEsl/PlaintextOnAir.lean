import NrfEsl.Ap.PushCommand
import NrfEsl.Framing
import NrfEsl.SubeventPush

/-!
# When the encryption of a packet fails

`esl_compose_ad_data` encrypts in place: `bt_ead_encrypt` reads the ESL AD structure from byte 7 of the
packet and writes the ciphertext from byte 2 on.  When it fails the buffer is as it was, the error is
only logged, and the length of an encrypted packet is returned.

Both callers hand on what they get.  `set_pawr_response` gives the packet to the controller of the tag,
`esl_c_push_sync_buf` makes the group ready, and the next request of the controller of the access point
takes it.  So a failed encryption is never withheld (`withheld_iff`).
-/

namespace NrfEsl

/-- Where `bt_ead_encrypt` finds its input in the packet. -/
def plainOffset : ℕ := adHeaderLen + eadRandomizerLen

/-- The packet when `bt_ead_encrypt` is called. -/
def plainPacket (rnd : Randomness) (paAdData : Mem) (eslPayload : List UInt8) : Mem :=
  let eslPayloadLen := UInt8.ofNat eslPayload.length
  let m := paAdData.write (plainOffset + adHeaderLen) (eslPayload.take eslPayloadLen.toNat)
  eslGenerateAdDataHeader (eslInitRandomizer rnd) m adHeaderLen eslPayloadLen

/-- Its input. -/
def plaintext (rnd : Randomness) (paAdData : Mem) (eslPayload : List UInt8) : List UInt8 :=
  (plainPacket rnd paAdData eslPayload).read plainOffset (UInt8.ofNat eslPayload.length + 2).toNat

/-- `bt_ead_encrypt` fails on its input. -/
def EncryptFails (ead : Ead) (rnd : Randomness) (paAdData : Mem) (eslPayload : List UInt8)
    (key : KeyMaterial) : Prop :=
  ead.encrypt key.sessionKey key.iv rnd.eadRandomizer (plaintext rnd paAdData eslPayload) = none

instance (ead : Ead) (rnd : Randomness) (paAdData : Mem) (eslPayload : List UInt8)
    (key : KeyMaterial) : Decidable (EncryptFails ead rnd paAdData eslPayload key) :=
  inferInstanceAs (Decidable (_ = _))

/-- **Withheld**: the payload does not overrun the packet buffer, and the packet handed on does not
have the plaintext in it. -/
def Withheld (rnd : Randomness) (paAdData : Mem) (eslPayload packet : List UInt8) : Prop :=
  plainOffset + adHeaderLen + eslPayload.length ≤ eslEncryptedDataMaxLen
    ∧ ¬ plaintext rnd paAdData eslPayload <+: packet.drop plainOffset

section Compose

variable {ead : Ead} {rnd : Randomness} {m : Mem} {payload : List UInt8} {key : KeyMaterial}

/-- A failed encryption leaves the packet as it was, but for the two bytes in front. -/
lemma eslComposeAdData_of_fails (h : EncryptFails ead rnd m payload key) :
    eslComposeAdData ead rnd m payload key
      = ((plainPacket rnd m payload).write 0
          [11 + (UInt8.ofNat payload.length + 2) - 1, btDataEncryptedAdData],
        11 + (UInt8.ofNat payload.length + 2)) := by
  simp only [eslComposeAdData]
  split
  · rename_i c hc
    exact absurd (h.symm.trans hc) (Option.some_ne_none c).symm
  · rfl

/-- **A packet whose encryption failed** has the plaintext in it. -/
lemma not_withheld (h : EncryptFails ead rnd m payload key) :
    ¬ Withheld rnd m payload (composedPacket ead rnd m payload key) := by
  rintro ⟨hfits, hno⟩
  have hmax : 9 + payload.length ≤ 61 := hfits
  have hplain : (UInt8.ofNat payload.length + 2).toNat = payload.length + 2 := by
    have htwo : (2 : UInt8).toNat = 2 := rfl
    rw [UInt8.toNat_add, UInt8.toNat_ofNat', htwo]
    omega
  have hout : (11 + (UInt8.ofNat payload.length + 2)).toNat
      = plainOffset + (payload.length + 2 + 4) := by
    have heleven : (11 : UInt8).toNat = 11 := rfl
    have hoffset : plainOffset = 7 := rfl
    rw [UInt8.toNat_add, hplain, heleven]
    omega
  refine hno ⟨((plainPacket rnd m payload).write 0
    [11 + (UInt8.ofNat payload.length + 2) - 1, btDataEncryptedAdData]).read
      (plainOffset + (payload.length + 2)) 4, ?_⟩
  rw [composedPacket, eslComposeAdData_of_fails h, hout, Mem.read_add, Nat.zero_add,
    List.drop_left' (Mem.length_read _ _ _), Mem.read_add, plaintext, hplain]
  have hheader : 0 + ([11 + (UInt8.ofNat payload.length + 2) - 1, btDataEncryptedAdData]).length
      ≤ plainOffset := by
    have hoffset : plainOffset = 7 := rfl
    have htwo : ([11 + (UInt8.ofNat payload.length + 2) - 1, btDataEncryptedAdData]).length = 2 := rfl
    omega
  rw [Mem.read_write_of_ge _ hheader]

end Compose

/-! ## The two callers -/

section Callers

variable (cfg : ApConfig) (ead : Ead) (rnd : Randomness)

/-- `esl_compose_ad_data` withholds a packet whose encryption fails. -/
def ComposeWithholds (paAdData : Mem) (eslPayload : List UInt8) (key : KeyMaterial) : Prop :=
  EncryptFails ead rnd paAdData eslPayload key →
    Withheld rnd paAdData eslPayload (composedPacket ead rnd paAdData eslPayload key)

/-- `set_pawr_response` does not hand such a packet to the controller of the tag. -/
def TagWithholds (rspSlot : ℤ) (d : TagDevice) : Prop :=
  EncryptFails ead rnd d.paRsp d.ecpRspNetBuf d.tag.assoc.eslRspKey →
    ∀ r ∈ (d.setPawrResponse ead rnd rspSlot).responses.drop d.responses.length,
      Withheld rnd d.paRsp d.ecpRspNetBuf r.data

/-- After `esl_c_push_sync_buf` no request for the subevent of the group gets such a packet. -/
def ApWithholds (txBuffers : ℕ) (c : ℕ) (data : List UInt8) (groupId : UInt8) (s : Ap) : Prop :=
  EncryptFails ead rnd (s.syncBuf groupId.toNat).data data s.eslApKey →
    ∀ s', s.eslCPushSyncBuf ead c rnd data groupId.toNat = some s' →
      ∀ setSubeventData params, (eslCPushSyncToController cfg txBuffers setSubeventData groupId 1
          s'.syncBuf).val.submitted = some params →
        ∀ p ∈ params, Withheld rnd (s.syncBuf groupId.toNat).data data p.data

variable {cfg ead rnd}

lemma composeWithholds_iff {m : Mem} {payload : List UInt8} {key : KeyMaterial} :
    ComposeWithholds ead rnd m payload key ↔ ¬ EncryptFails ead rnd m payload key := by
  constructor
  · exact fun h hfails => not_withheld hfails (h hfails)
  · exact fun h hfails => absurd hfails h

/-- The tag hands on whatever it composed. -/
lemma tagWithholds_iff {rspSlot : ℤ} {d : TagDevice} :
    TagWithholds ead rnd rspSlot d ↔ rspSlot = -1
      ∨ ¬ EncryptFails ead rnd d.paRsp d.ecpRspNetBuf d.tag.assoc.eslRspKey := by
  by_cases hfails : EncryptFails ead rnd d.paRsp d.ecpRspNetBuf d.tag.assoc.eslRspKey
  · rw [TagWithholds, TagDevice.setPawrResponse]
    by_cases hslot : rspSlot = -1
    · rw [if_pos hslot, List.drop_length]
      exact iff_of_true (fun _ r hr => absurd hr List.not_mem_nil) (.inl hslot)
    · rw [if_neg hslot, List.drop_left]
      refine iff_of_false (fun h => ?_) (not_or.mpr ⟨hslot, not_not.mpr hfails⟩)
      exact not_withheld hfails (h hfails _ (List.mem_singleton_self _))
  · exact iff_of_true (fun h => absurd h hfails) (.inr hfails)

/-- A request for the subevent of a ready group gets its packet. -/
lemma submitted_of_ready (txBuffers : ℕ) {groupId : UInt8} {syncBuf : ℕ → SyncBuffer}
    (hg : groupId.toNat < cfg.maxGroup) (hready : (syncBuf groupId.toNat).status = .readyToPush)
    (setSubeventData : List SubeventDataParams → ℤ) :
    (eslCPushSyncToController cfg txBuffers setSubeventData groupId 1 syncBuf).val.submitted
      = some [subeventDataParams cfg groupId.toNat (syncBuf groupId.toNat)] := by
  have hwindow : window cfg groupId 1 = [groupId.toNat] := by
    have hone : min (1 : UInt8).toNat cfg.maxGroup = 1 := Nat.min_eq_left (maxGroup_pos cfg)
    rw [window, hone, List.range_one, List.map_singleton, Sweep.ring, Nat.add_zero,
      Nat.mod_eq_of_lt hg]
  have hgroups : readyGroups cfg groupId 1 syncBuf = [groupId.toNat] := by
    rw [readyGroups, hwindow]
    simp [hready]
  have hparams : readyParams cfg groupId 1 syncBuf
      = [subeventDataParams cfg groupId.toNat (syncBuf groupId.toNat)] := by
    rw [readyParams, hgroups, List.map_singleton]
  rw [val_eslCPushSyncToController, hgroups, if_neg (List.cons_ne_nil _ _), hparams]
  split <;> rfl

/-- The access point makes ready whatever it composed. -/
lemma apWithholds_iff {txBuffers c : ℕ} {data : List UInt8} {groupId : UInt8} {s : Ap}
    (hg : groupId.toNat < cfg.maxGroup) :
    ApWithholds cfg ead rnd txBuffers c data groupId s ↔
      ¬ ((s.syncBuf groupId.toNat).status = .empty ∨ (s.syncBuf groupId.toNat).status = .pushed)
      ∨ ¬ EncryptFails ead rnd (s.syncBuf groupId.toNat).data data s.eslApKey := by
  by_cases hfails : EncryptFails ead rnd (s.syncBuf groupId.toNat).data data s.eslApKey
  · by_cases hfree : (s.syncBuf groupId.toNat).status = .empty
        ∨ (s.syncBuf groupId.toNat).status = .pushed
    · refine iff_of_false (fun h => ?_) (not_or.mpr ⟨not_not.mpr hfree, not_not.mpr hfails⟩)
      obtain ⟨s', hpush⟩ : ∃ s', s.eslCPushSyncBuf ead c rnd data groupId.toNat = some s' :=
        Ap.exists_eslCPushSyncBuf hfree
      have hpushes := (Ap.pushes_of_eslCPushSyncBuf hpush).1
      have hsubmitted := submitted_of_ready txBuffers hg hpushes.status fun _ => 0
      have hwithheld := h hfails s' hpush _ _ hsubmitted _ (List.mem_singleton_self _)
      have hpacket : (subeventDataParams cfg groupId.toNat (s'.syncBuf groupId.toNat)).data
          = composedPacket ead rnd (s.syncBuf groupId.toNat).data data s.eslApKey := by
        rw [composedPacket, ← hpushes.packet]
        rfl
      rw [hpacket] at hwithheld
      exact not_withheld hfails hwithheld
    · refine iff_of_true (fun _ s' hpush => ?_) (.inl hfree)
      rw [Ap.eslCPushSyncBuf, if_neg hfree] at hpush
      cases hpush
  · exact iff_of_true (fun h => absurd h hfails) (.inr hfails)

end Callers

/-- **No plaintext on the air** exactly when the encryption does not fail, or nothing is sent: a failed
encryption is withheld neither by `esl_compose_ad_data` nor by its two callers. -/
theorem withheld_iff (cfg : ApConfig) (ead : Ead) (rnd : Randomness) :
    (∀ m payload key,
      ComposeWithholds ead rnd m payload key ↔ ¬ EncryptFails ead rnd m payload key)
    ∧ (∀ rspSlot d, TagWithholds ead rnd rspSlot d ↔ rspSlot = -1
      ∨ ¬ EncryptFails ead rnd d.paRsp d.ecpRspNetBuf d.tag.assoc.eslRspKey)
    ∧ ∀ txBuffers c data (groupId : UInt8) s, groupId.toNat < cfg.maxGroup →
      (ApWithholds cfg ead rnd txBuffers c data groupId s ↔
        ¬ ((s.syncBuf groupId.toNat).status = .empty
          ∨ (s.syncBuf groupId.toNat).status = .pushed)
        ∨ ¬ EncryptFails ead rnd (s.syncBuf groupId.toNat).data data s.eslApKey) :=
  ⟨fun _ _ _ => composeWithholds_iff, fun _ _ => tagWithholds_iff,
    fun _ _ _ _ _ hg => apWithholds_iff hg⟩

/-- A stack whose `bt_ead_encrypt` always fails. -/
def Ead.failing : Ead where
  encrypt _ _ _ _ := none
  decrypt _ _ _ := none

/-- While the encryption does not fail, a push to group 0 is withheld, and so is a push to a group that
has a packet to send when it fails. -/
theorem withheld_zero :
    ApWithholds .default .clear .zero 5 0 [0, 0, 0xFF] 0 (Ap.init .zero)
      ∧ ApWithholds .default .failing .zero 5 0 [0, 0, 0xFF] 0
        ((Ap.init .zero).updateGroup 0 fun b => { b with status := .readyToPush }) := by
  refine ⟨((withheld_iff .default .clear .zero).2.2 _ _ _ 0 _ (by decide)).mpr (.inr ?_),
    ((withheld_iff .default .failing .zero).2.2 _ _ _ 0 _ (by decide)).mpr (.inl (by decide))⟩
  exact fun h => absurd h (Option.some_ne_none _)

/-- With `bt_ead_encrypt` failing, the basic state response of a tag goes out in the clear, and so does
the packet that unassociates all tags of group 0. -/
theorem not_withheld_failing :
    ¬ ComposeWithholds .failing .zero (fun _ => 0) [0, 0, 0xFF] .zero
      ∧ ¬ TagWithholds .failing .zero 0
        { TagDevice.boot .sample {} with ecpRspNetBuf := [0x10, 0x05, 0x00] }
      ∧ ¬ ApWithholds .default .failing .zero 5 0 [0, 0, 0xFF] 0 (Ap.init .zero) := by
  refine ⟨fun h => ?_, fun h => ?_, fun h => ?_⟩
  · exact composeWithholds_iff.mp h rfl
  · cases tagWithholds_iff.mp h with
    | inl hslot => exact absurd hslot (by decide)
    | inr hencrypts => exact hencrypts rfl
  · cases (apWithholds_iff (by decide)).mp h with
    | inl hbusy => exact hbusy (.inl rfl)
    | inr hencrypts => exact hencrypts rfl

end NrfEsl
