import NrfEsl.Ap.DummyCmd
import NrfEsl.Exchange
import NrfEsl.RspKeySlots

/-!
# Predefined packets, their answers, and the keys they are read with

Three parts of the access point depend on the slot in which a tag answers a predefined packet:
`esl_dummy_ap_ad_data` writes the ESL ID it expects there, `esl_c_rsp_key_update` has put the response
key of the tag in a slot, and `pawr_response` stores what comes in.  The tag has a rule of its own: it
answers in the slot of the last TLV with its ID.

**What the function sends** (`DummySent`) is a legal packet of whole TLVs, whatever the type.  Types C
and E write behind the slots of an access point that keeps fewer than four of them.

**What comes back** (`DummyAnswered`).  The answer comes in the slot where the ID of the tag is expected.
For the types that address the tags one after the other this is the slot of the key too, so that the
access point reads the answer.  Types C and E put two Pings in front of the commands for tags 3 and 4:
their answers come one slot before their keys.  The two test packets expect nobody.

`dummyShape` says once what the 23 types have in common.
-/

namespace NrfEsl

open Tiling TagDevice TransitionSystem

/-! ## Specification -/

/-- The IDs that predefined packets name lie behind the default one, below the broadcast ID. -/
def RoomForTags (acfg : AddrConfig) : Prop := acfg.defaultEslId.toNat + 10 < 0xFF

/-- "Special case, don't fill esl addr" -/
def IsTestPacket (syncPktType : UInt8) : Prop :=
  syncPktType.toNat = 0x10 ∨ syncPktType.toNat = 0x11

/-- Two Pings for all go before the commands for two tags. -/
def SkipsTwoSlots (syncPktType : UInt8) : Prop :=
  syncPktType.toNat = 0x0C ∨ syncPktType.toNat = 0x0E

instance : DecidablePred RoomForTags := fun _ => inferInstanceAs (Decidable (_ < _))

instance : DecidablePred IsTestPacket := fun _ => inferInstanceAs (Decidable (_ ∨ _))

instance : DecidablePred SkipsTwoSlots := fun _ => inferInstanceAs (Decidable (_ ∨ _))

/-- What a call of `esl_dummy_ap_ad_data` leaves. -/
structure DummySent (cfg : ApConfig) (ead : Ead) (syncPktType groupId : UInt8) (p : DummyPacket)
    (rnd : Randomness) (s : Ap) (expect : ExpectEslAddr) (x : Traced (Ap × ExpectEslAddr)) : Prop where
  /-- Memory is safe if the group has a buffer, and types C and E find four slots. -/
  safe : x.Safe ↔ groupId.toNat < cfg.maxGroup
    ∧ (SkipsTwoSlots syncPktType → 4 ≤ cfg.maxResponseSlotBuffer)
  /-- The buffer of the group holds a packet of the commands. -/
  packet : (encryptPayload ead rnd s.eslApKey (p.payload groupId)).isSome →
    IsPacketOf ead s.eslApKey (p.payload groupId) (x.val.1.syncBuf groupId.toNat).packet
  ready : (x.val.1.syncBuf groupId.toNat).status = .readyToPush
  expects : ∀ w ∈ p.expected, x.val.2 groupId.toNat w.1 = w.2
  keeps : ∀ slot, slot ∉ p.expected.map Prod.fst →
    x.val.2 groupId.toNat slot = expect groupId.toNat slot
  others : ∀ g, g ≠ groupId.toNat → x.val.1.syncBuf g = s.syncBuf g ∧ x.val.2 g = expect g

/-- The answer of a tag to a predefined packet. -/
structure DummyAnswer (cfg : ApConfig) (acfg : AddrConfig) (ead : Ead) (syncPktType groupId : UInt8)
    (p : DummyPacket) (d : TagDevice) (q : ParsedPacket) (r : PawrResponse) : Prop where
  /-- The tag has taken its commands from the packet. -/
  commands : q.commands = (addressed q.address.eslId p.commands).map Tlv.command
  /-- It answers in the slot where its ID is expected. -/
  expected : ¬ IsTestPacket syncPktType → ∀ slot < cfg.maxResponseSlotBuffer,
    r.responseSlot = slot ↔ (slot, q.address.eslId) ∈ p.expected
  /-- A key that is recorded for the tag is in this slot, or for types C and E in the next one. -/
  keySlot : ¬ IsTestPacket syncPktType → ∀ tagsPerGroup k,
    rspKeyTarget acfg tagsPerGroup q.address.val = some k → k.1 = groupId.toNat
      ∧ r.responseSlot = (k.2 : ℤ) - if SkipsTwoSlots syncPktType then 1 else 0
  /-- The access point reads the answer with the key it has recorded. -/
  received : ¬ IsTestPacket syncPktType → ¬ SkipsTwoSlots syncPktType →
    ∀ tagsPerGroup k, rspKeyTarget acfg tagsPerGroup q.address.val = some k → k.1 < cfg.maxGroup →
      k.2 < cfg.maxResponseSlotBuffer → ∀ (s wreck : Ap) (stack : Mem) (info : ResponseInfo)
        (buf : NetBuf), info.subevent = groupId → (info.responseSlot.toNat : ℤ) = r.responseSlot →
      ((s.syncBuf k.1).rspBuffer k.2).rspKey = d.tag.assoc.eslRspKey → buf.bytes = r.data →
      ∃ s', run (Ap.step cfg ead) s [.pawrResponse info buf wreck, .respFillBufWork stack wreck]
          = some s'
        ∧ ((s'.syncBuf k.1).rspBuffer k.2).bytes = eslAd (answerPayload d)
        ∧ ((s'.syncBuf k.1).rspBuffer k.2).status = .respFull

/-- Whatever the tag answers to a predefined packet is an answer as it should be. -/
def DummyAnswered (cfg : Config) (ead : Ead) (apCfg : ApConfig) (acfg : AddrConfig)
    (x : TagDevice × ParseHistory) (e : TagEvent) : Prop :=
  ∀ y, stepParse cfg ead x e = some y → ∀ r ∈ y.1.responses.drop x.1.responses.length,
    ∀ syncPktType groupId p, dummyPacket apCfg acfg syncPktType = some p →
      (x.2.current.map (·.payload)) = some (p.payload groupId) →
      ∃ q, x.2.current.map (·.address) = some q.address
        ∧ DummyAnswer apCfg acfg ead syncPktType groupId p x.1 q r

/-! ## IDs -/

section Ids

variable {acfg : AddrConfig} {n m : ℕ}

lemma toNat_dummyId (hroom : RoomForTags acfg) (hn : n ≤ 10) :
    (dummyId acfg n).toNat = acfg.defaultEslId.toNat + n := by
  rw [RoomForTags] at hroom
  rw [dummyId, UInt8.toNat_add, UInt8.toNat_ofNat']
  omega

lemma dummyId_inj (hroom : RoomForTags acfg) (hn : n ≤ 10) (hm : m ≤ 10)
    (h : dummyId acfg n = dummyId acfg m) : n = m := by
  have hnat := congrArg UInt8.toNat h
  rw [toNat_dummyId hroom hn, toNat_dummyId hroom hm] at hnat
  omega

/-- The slot of a key is the number of the tag. -/
lemma rspKeyTarget_dummyId (hn : n ≤ 10) {tagsPerGroup : UInt16} {address : EslAddr} {k : ℕ × ℕ}
    (hid : address.eslId = dummyId acfg n)
    (h : rspKeyTarget acfg tagsPerGroup address.val = some k) :
    k = (address.groupId.toNat, n) := by
  have hoffset : lowByte address.val - acfg.defaultEslId = UInt8.ofNat n := by
    have hlow : lowByte address.val = acfg.defaultEslId + UInt8.ofNat n := hid
    rw [hlow]
    grind
  have hnat : (UInt8.ofNat n).toNat = n := by
    rw [UInt8.toNat_ofNat']
    omega
  simp only [rspKeyTarget, hoffset, hnat, Option.ite_none_right_eq_some, Option.some_inj] at h
  exact h.2.symm

end Ids

/-! ## The shape of a packet -/

/-- What predefined packets look like. -/
inductive DummyShape (cfg : ApConfig) (acfg : AddrConfig) (syncPktType : UInt8) : DummyPacket → Prop
  | broadcast (cmd : Tlv) (hid : cmd.eslId = eslAddrBroadcast) (hlen : cmd.toList.length ≤ 47)
      (htest : ¬ IsTestPacket syncPktType) (htwo : ¬ SkipsTwoSlots syncPktType) :
      DummyShape cfg acfg syncPktType { commands := [cmd] }
  | tags (n len : ℕ) (cmd : UInt8 → Tlv) (hid : ∀ id, (cmd id).eslId = id)
      (hlen : ∀ id, (cmd id).toList.length = len) (hn : n ≤ 11) (hfit : n * len ≤ 47)
      (htest : ¬ IsTestPacket syncPktType) (htwo : ¬ SkipsTwoSlots syncPktType) :
      DummyShape cfg acfg syncPktType (forTags cfg acfg n cmd)
  | twoPings (cmd : UInt8 → Tlv) (hid : ∀ id, (cmd id).eslId = id)
      (hlen : ∀ id, (cmd id).toList.length = 13) (htest : ¬ IsTestPacket syncPktType)
      (htwo : SkipsTwoSlots syncPktType) : DummyShape cfg acfg syncPktType (behindTwoPings acfg cmd)
  | test (commands : List Tlv) (hlen : (flatten commands).length ≤ 47)
      (htest : IsTestPacket syncPktType) (htwo : ¬ SkipsTwoSlots syncPktType) :
      DummyShape cfg acfg syncPktType { commands := commands }

section Shape

variable {cfg : ApConfig} {acfg : AddrConfig} {syncPktType groupId : UInt8} {p : DummyPacket}

/-- The types that neither test nor skip slots. -/
lemma plainType {t : ℕ} (ht : syncPktType.toNat = t) (h : t ∉ [0x0C, 0x0E, 0x10, 0x11]) :
    ¬ IsTestPacket syncPktType ∧ ¬ SkipsTwoSlots syncPktType := by
  simp only [List.mem_cons, List.not_mem_nil, not_or] at h
  rw [IsTestPacket, SkipsTwoSlots, ht]
  omega

/-- **All 23 types.** -/
lemma dummyShape (h : dummyPacket cfg acfg syncPktType = some p) :
    DummyShape cfg acfg syncPktType p := by
  have hbroadcast : ∀ {t : ℕ} {cmd : Tlv}, syncPktType.toNat = t → t ∉ [0x0C, 0x0E, 0x10, 0x11] →
      cmd.eslId = eslAddrBroadcast → cmd.toList.length ≤ 47 →
      DummyShape cfg acfg syncPktType { commands := [cmd] } :=
    fun ht h hid hlen => .broadcast _ hid hlen (plainType ht h).1 (plainType ht h).2
  have htags : ∀ {t n : ℕ} (len : ℕ) {cmd : UInt8 → Tlv}, syncPktType.toNat = t →
      t ∉ [0x0C, 0x0E, 0x10, 0x11] → (∀ id, (cmd id).eslId = id) →
      (∀ id, (cmd id).toList.length = len) → n ≤ 11 → n * len ≤ 47 →
      DummyShape cfg acfg syncPktType (forTags cfg acfg n cmd) := by
    intro t n len cmd ht h hid hlen hn hfit
    exact .tags n len cmd hid hlen hn hfit (plainType ht h).1 (plainType ht h).2
  have htwo : ∀ {cmd : UInt8 → Tlv}, SkipsTwoSlots syncPktType → (∀ id, (cmd id).eslId = id) →
      (∀ id, (cmd id).toList.length = 13) →
      DummyShape cfg acfg syncPktType (behindTwoPings acfg cmd) := by
    intro cmd ht hid hlen
    refine .twoPings _ hid hlen ?_ ht
    rw [SkipsTwoSlots] at ht
    rw [IsTestPacket]
    omega
  have htest : ∀ {commands : List Tlv}, IsTestPacket syncPktType → (flatten commands).length ≤ 47 →
      DummyShape cfg acfg syncPktType { commands := commands } := by
    intro commands ht hlen
    refine .test _ hlen ht ?_
    rw [IsTestPacket] at ht
    rw [SkipsTwoSlots]
    omega
  rw [dummyPacket] at h
  split at h
  all_goals try cases h
  all_goals rename_i ht
  -- two test packets, and two of two Pings
  case h_13 => exact htwo (.inl ht) (fun _ => rfl) (fun _ => rfl)
  case h_15 => exact htwo (.inr ht) (fun _ => rfl) (fun _ => rfl)
  case h_17 => exact htest (.inl ht) (by simp [flatten, Tlv.serviceReset])
  case h_18 => exact htest (.inr ht) (by simp [flatten, Tlv.ping])
  -- one command for all
  any_goals exact hbroadcast ht (by decide) rfl (by decide)
  -- one command for each tag: a Ping, an LED, a sensor, a display
  any_goals exact htags 2 ht (by decide) (fun _ => rfl) (fun _ => rfl) (by decide) (by decide)
  any_goals exact htags 13 ht (by decide) (fun _ => rfl) (fun _ => rfl) (by decide) (by decide)
  any_goals exact htags 3 ht (by decide) (fun _ => rfl) (fun _ => rfl) (by decide) (by decide)
  any_goals exact htags 4 ht (by decide) (fun _ => rfl) (fun _ => rfl) (by decide) (by decide)

/-- Commands of one length. -/
lemma length_flatten_map {ι : Type*} {len : ℕ} {cmd : ι → Tlv}
    (h : ∀ i, (cmd i).toList.length = len) (is : List ι) :
    (flatten (is.map cmd)).length = is.length * len := by
  induction is with
  | nil => simp
  | cons i is ih =>
      rw [List.map_cons, flatten_cons, List.length_append, h, ih, List.length_cons, Nat.succ_mul,
        Nat.add_comm]

/-- **Every packet is legal.** -/
lemma DummyShape.length_payload (h : DummyShape cfg acfg syncPktType p) :
    (p.payload groupId).length ≤ eslSyncPktPayloadMaxLen := by
  have hmax : eslSyncPktPayloadMaxLen = 48 := rfl
  rw [DummyPacket.payload, List.length_cons, hmax]
  cases h with
  | broadcast cmd hid hlen =>
      rw [flatten_singleton]
      omega
  | tags n len cmd hid hlen hn hfit =>
      rw [forTags, length_flatten_map (fun idx => hlen (dummyId acfg idx)), List.length_range]
      omega
  | twoPings cmd hid hlen =>
      simp only [behindTwoPings, flatten_cons, flatten_nil, List.length_append, hlen]
      decide
  | test commands hlen => exact Nat.succ_le_succ hlen

end Shape

/-! ## The packet that is sent -/

section Sent

variable {cfg : ApConfig} {acfg : AddrConfig} {ead : Ead} {syncPktType groupId : UInt8}
  {p : DummyPacket} {g : ℕ} {ws : List (ℕ × UInt8)} {expect : ExpectEslAddr}

lemma safe_fillExpected :
    (fillExpected cfg g ws expect).Safe
      ↔ ∀ w ∈ ws, g < cfg.maxGroup ∧ w.1 < cfg.maxResponseSlotBuffer := by
  induction ws generalizing expect with
  | nil => simp [fillExpected]
  | cons w ws ih =>
      simp only [fillExpected, Traced.safe_bind, Traced.safe_access, Access.Safe,
        List.forall_mem_cons, ih, and_assoc]

/-- The other groups stay as they are. -/
lemma fillExpected_of_ne {g' : ℕ} (h : g' ≠ g) :
    (fillExpected cfg g ws expect).val g' = expect g' := by
  induction ws generalizing expect with
  | nil => rfl
  | cons w ws ih =>
      simp only [fillExpected, Traced.val_bind]
      rw [ih, Function.update_of_ne h]

/-- The other slots stay as they are. -/
lemma fillExpected_of_notMem {slot : ℕ} (h : slot ∉ ws.map Prod.fst) :
    (fillExpected cfg g ws expect).val g slot = expect g slot := by
  induction ws generalizing expect with
  | nil => rfl
  | cons w ws ih =>
      rw [List.map_cons, List.mem_cons, not_or] at h
      simp only [fillExpected, Traced.val_bind]
      rw [ih h.2, Function.update_self, Function.update_of_ne h.1]

/-- Each slot is filled in once. -/
lemma fillExpected_of_mem (hnodup : (ws.map Prod.fst).Nodup) {w : ℕ × UInt8} (h : w ∈ ws) :
    (fillExpected cfg g ws expect).val g w.1 = w.2 := by
  induction ws generalizing expect with
  | nil => cases h
  | cons v ws ih =>
      rw [List.map_cons, List.nodup_cons] at hnodup
      simp only [fillExpected, Traced.val_bind]
      rcases List.mem_cons.mp h with rfl | h
      · rw [fillExpected_of_notMem hnodup.1, Function.update_self, Function.update_self]
      · exact ih hnodup.2 h

lemma DummyShape.nodup_expected (h : DummyShape cfg acfg syncPktType p) :
    (p.expected.map Prod.fst).Nodup := by
  cases h with
  | broadcast => exact List.nodup_nil
  | tags n =>
      have hslots : (forTags cfg acfg n ‹_›).expected.map Prod.fst
          = List.range (min n cfg.maxResponseSlotBuffer) := by
        rw [forTags, List.map_map]
        exact List.map_id _
      rw [hslots]
      exact List.nodup_range
  | twoPings =>
      show [2, 3].Nodup
      decide
  | test => exact List.nodup_nil

/-- Only the slots behind two Pings may be missing. -/
lemma DummyShape.expected_lt_iff (h : DummyShape cfg acfg syncPktType p) :
    (∀ w ∈ p.expected, w.1 < cfg.maxResponseSlotBuffer)
      ↔ (SkipsTwoSlots syncPktType → 4 ≤ cfg.maxResponseSlotBuffer) := by
  cases h with
  | broadcast cmd hid hlen htest htwo => simp [htwo]
  | tags n len cmd hid hlen hn hfit htest htwo =>
      refine iff_of_true ?_ (fun h => absurd h htwo)
      intro w hw
      obtain ⟨idx, hidx, rfl⟩ := List.mem_map.mp hw
      exact (lt_min_iff.mp (List.mem_range.mp hidx)).2
  | twoPings cmd hid hlen htest htwo =>
      simp only [behindTwoPings, List.forall_mem_cons, List.not_mem_nil, false_imp_iff, implies_true,
        and_true, htwo, true_imp_iff]
      omega
  | test commands hlen htest htwo => simp [htwo]

/-- **What a call leaves.** -/
lemma dummySent (hl : ead.Lawful) (hp : dummyPacket cfg acfg syncPktType = some p) (rnd : Randomness)
    (s : Ap) (expect : ExpectEslAddr) :
    DummySent cfg ead syncPktType groupId p rnd s expect
      (eslDummyApAdData cfg acfg ead rnd syncPktType groupId s expect) := by
  have hshape : DummyShape cfg acfg syncPktType p := dummyShape hp
  have hlen : (p.payload groupId).length ≤ eslSyncPktPayloadMaxLen := hshape.length_payload
  have hcopy : 0 + (p.payload groupId).length ≤ eslEncryptedDataMaxLen :=
    (Nat.zero_add _).trans_le (hlen.trans (by decide))
  have hcall : eslDummyApAdData cfg acfg ead rnd syncPktType groupId s expect = (do
      Traced.access (.write eslEncryptedDataMaxLen 0 (p.payload groupId).length)
      let expect ← fillExpected cfg groupId.toNat p.expected expect
      Traced.access (.index cfg.maxGroup groupId.toNat)
      pure (s.updateGroup groupId.toNat fun b =>
        { b.compose ead rnd s.eslApKey (p.payload groupId) with
          dataLen := (eslComposeAdData ead rnd (s.syncBuf groupId.toNat).data (p.payload groupId)
            s.eslApKey).2
          status := .readyToPush }, expect)) := by
    rw [eslDummyApAdData, hp]
  rw [hcall]
  refine ⟨?_, ?_, ?_, ?_, ?_, ?_⟩
  · simp only [Traced.safe_bind, Traced.safe_access, Access.Safe, safe_fillExpected,
      Traced.safe_pure, and_true, hcopy, true_and, ← hshape.expected_lt_iff]
    exact ⟨fun h => ⟨h.2, fun w hw => (h.1 w hw).2⟩, fun h => ⟨fun w hw => ⟨h.1, h.2 w hw⟩, h.1⟩⟩
  · intro henc
    simp only [Traced.val_bind, Traced.val_pure, Ap.syncBuf_updateGroup_same]
    exact hl.isPacketOf_eslComposeAdData _ (List.cons_ne_nil _ _) hlen henc
  · simp only [Traced.val_bind, Traced.val_pure, Ap.syncBuf_updateGroup_same]
  · exact fun w hw => fillExpected_of_mem hshape.nodup_expected hw
  · exact fun slot hslot => fillExpected_of_notMem hslot
  · intro g hg
    simp only [Traced.val_bind, Traced.val_pure]
    exact ⟨Ap.syncBuf_updateGroup_ne _ _ _ hg, fillExpected_of_ne hg⟩

end Sent

/-! ## The slot of the answer -/

section Answer

variable {cfg : ApConfig} {acfg : AddrConfig} {syncPktType : UInt8} {p : DummyPacket}
  {address : EslAddr} {slot : ℤ}

/-- A slot and the number of the tag that answers in it. -/
structure AnswersIn (cfg : ApConfig) (acfg : AddrConfig) (syncPktType : UInt8) (p : DummyPacket)
    (address : EslAddr) (slot : ℤ) (n i : ℕ) : Prop where
  slot : slot = i
  eslId : address.eslId = dummyId acfg n
  le : n ≤ 10
  number : n = i + if SkipsTwoSlots syncPktType then 1 else 0
  expected : ∀ j < cfg.maxResponseSlotBuffer, j = i ↔ (j, address.eslId) ∈ p.expected

/-- **A tag answers where it is expected.** -/
lemma DummyShape.exists_answersIn (hroom : RoomForTags acfg) (h : DummyShape cfg acfg syncPktType p)
    (htest : ¬ IsTestPacket syncPktType) (hslot : IsResponseSlot address.eslId p.commands slot)
    (hne : slot ≠ -1) : ∃ n i, AnswersIn cfg acfg syncPktType p address slot n i := by
  obtain ⟨i, t, hi, ht, hid, -⟩ := hslot.resolve_left fun h => hne h.1
  have hown : t.eslId ≠ eslAddrBroadcast := hid ▸ address.eslId_ne_broadcast
  cases h with
  | broadcast cmd hcmd =>
      obtain rfl : t = cmd := List.mem_singleton.mp (List.mem_of_getElem? ht)
      exact absurd hcmd hown
  | tags n len cmd hcmd hlen hn hfit hplain htwo =>
      simp only [forTags, List.getElem?_map, Option.map_eq_some_iff, List.getElem?_eq_some_iff,
        List.length_range, List.getElem_range] at ht
      obtain ⟨_, ⟨hidx, rfl⟩, rfl⟩ := ht
      rw [hcmd] at hid
      refine ⟨i, i, hi, hid.symm, by omega, by rw [if_neg htwo]; rfl, fun j hj => ?_⟩
      rw [← hid]
      simp only [forTags, List.mem_map, List.mem_range, lt_min_iff, Prod.mk.injEq]
      constructor
      · rintro rfl
        exact ⟨j, ⟨hidx, hj⟩, rfl, rfl⟩
      · rintro ⟨idx, ⟨hidx', -⟩, rfl, heq⟩
        exact dummyId_inj hroom (by omega) (by omega) heq
  | twoPings cmd hcmd hlen hplain htwo =>
      have hthree : dummyId acfg 3 ≠ dummyId acfg 4 := fun h =>
        absurd (dummyId_inj hroom (by decide) (by decide) h) (by decide)
      have hexpected : ∀ (j : ℕ) (id : UInt8), (j, id) ∈ (behindTwoPings acfg cmd).expected
          ↔ j = 2 ∧ id = dummyId acfg 3 ∨ j = 3 ∧ id = dummyId acfg 4 := by
        intro j id
        simp [behindTwoPings]
      match i, ht with
      | 0, ht =>
          cases ht
          exact absurd rfl hown
      | 1, ht =>
          cases ht
          exact absurd rfl hown
      | 2, ht =>
          cases ht
          rw [hcmd] at hid
          refine ⟨3, 2, hi, hid.symm, by decide, by rw [if_pos htwo], fun j _ => ?_⟩
          simp [hexpected, ← hid, hthree]
      | 3, ht =>
          cases ht
          rw [hcmd] at hid
          refine ⟨4, 3, hi, hid.symm, by decide, by rw [if_pos htwo], fun j _ => ?_⟩
          simp [hexpected, ← hid, hthree.symm]
  | test commands hlen h => exact absurd h htest

/-- **One answer.** -/
lemma dummyAnswer {cfg : Config} {apCfg : ApConfig} {ead : Ead} {groupId : UInt8} (hl : ead.Lawful)
    (hroom : RoomForTags acfg) {x y : TagDevice × ParseHistory} {e : TagEvent} (hx : AnswerInv x)
    (hg : Answerable cfg ead x e) (hstep : stepParse cfg ead x e = some y) {q : ParsedPacket}
    {r : PawrResponse} (ha : AnswerInv.Answers ead x y e q r)
    (hr : r ∈ y.1.responses.drop x.1.responses.length)
    (hp : dummyPacket apCfg acfg syncPktType = some p) (hpayload : q.payload = p.payload groupId) :
    DummyAnswer apCfg acfg ead syncPktType groupId p x.1 q r := by
  have hserved : ServedInv y := ServedInv.preserved _ _ _ hx.served hg.orderly hstep
  obtain ⟨q', hq', harrives⟩ := hx.answerArrives hl hg hstep y hstep r hr
  obtain rfl : q = q' := Option.some.inj (ha.current.symm.trans hq')
  -- the TLVs the parser came to are those of the packet
  obtain ⟨tlvs, hvisits, hcommands, hslot⟩ := hserved.answered _ ha.answered
  rw [hpayload] at hvisits
  obtain rfl : tlvs = p.commands := Visits.eq_of_flatten hvisits
  have hgroup : groupId = q.address.groupId := by
    refine hserved.ownGroup q ?_ groupId (by rw [hpayload]; rfl)
    exact List.mem_append_left _ (List.mem_map.mpr ⟨_, ha.answered, rfl⟩)
  have hanswers : ¬ IsTestPacket syncPktType →
      ∃ n i, AnswersIn apCfg acfg syncPktType p q.address r.responseSlot n i :=
    fun htest => (dummyShape hp).exists_answersIn hroom htest hslot ha.slot
  have hkey : ¬ IsTestPacket syncPktType → ∀ tagsPerGroup k,
      rspKeyTarget acfg tagsPerGroup q.address.val = some k → k.1 = groupId.toNat
        ∧ r.responseSlot = (k.2 : ℤ) - if SkipsTwoSlots syncPktType then 1 else 0 := by
    intro htest tagsPerGroup k hk
    obtain ⟨n, i, hi⟩ := hanswers htest
    have hnumber := hi.number
    rw [rspKeyTarget_dummyId hi.le hi.eslId hk, hgroup, hi.slot]
    refine ⟨rfl, ?_⟩
    split at hnumber <;> simp only [*, if_true, if_false] <;> omega
  refine ⟨hcommands, ?_, hkey, ?_⟩
  · intro htest slot hslot
    obtain ⟨n, i, hi⟩ := hanswers htest
    rw [hi.slot, ← hi.expected slot hslot]
    exact Int.natCast_inj.trans eq_comm
  · intro htest htwo tagsPerGroup k hk hmax hbuf s wreck stack info buf hinfo hresp hskey hdata
    obtain ⟨h₁, h₂⟩ := hkey htest tagsPerGroup k hk
    rw [if_neg htwo, sub_zero] at h₂
    have hk₁ : k.1 = info.subevent.toNat := by rw [h₁, hinfo]
    have hk₂ : k.2 = info.responseSlot.toNat := Int.natCast_inj.mp (h₂.symm.trans hresp.symm)
    rw [hk₁, hk₂] at hskey ⊢
    rw [hk₁] at hmax
    rw [hk₂] at hbuf
    exact harrives.received apCfg s wreck stack info buf hmax hbuf hskey hdata

end Answer

/-- The payload of type A for group 0. -/
def eightPings : List UInt8 := (forTags .default .default 8 .ping).payload 0

/-- The sample tag, which is the second one, receives it; only its own Ping is executed. -/
def eightPingsAnswered : List TagEvent :=
  let rnd : Randomness := ⟨Vector.replicate 5 0, Vector.replicate 5 0⟩
  let packet := [29, 0x31, 0, 0, 0, 0, 0x80] ++ [18, 0x34] ++ eightPings ++ [0, 0, 0, 0]
  configuredAndUpdating.take 9 ++ [.recvCb 7 0 (.ofBytes packet fun _ => 0), .pawrSyncWork fun _ => 0]
    ++ List.replicate 2 (.parserStep rnd) ++ [.ecpWork {}] ++ List.replicate 8 (.parserStep rnd)

end NrfEsl
