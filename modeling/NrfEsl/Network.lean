import Mathlib.Data.List.GetD
import NrfEsl.Framing
import NrfEsl.PacketRuns

/-!
# One access point and its tags

The access point encrypts payloads under the AP Sync Key and broadcasts them; tags decrypt, execute and
answer.  Between them lies a radio that belongs to nobody: it may lose, delay, repeat, reorder and
corrupt packets, and anybody may send.  So a tag is handed **arbitrary bytes**, and so is the access
point.

**What should hold** (`NetworkSafe`).  A packet command that a tag executes is a TLV of a payload the
access point has encrypted, of the group of the tag and for the tag or for all.  And two tags never
answer one payload in the same slot.

**What it rests on** (`Unforged`): a ciphertext that decrypts under the key of a tag was made by the
access point.  That is the integrity of the cipher together with the secrecy of the key.  Repeated
packets are not excluded: nothing in a packet tells a tag that it has seen it before.

**The exception** is a payload with a cut tail of one byte.  Its ESL ID is then whatever lies behind the
payload, and two tags may each find their own ID there.
-/

namespace NrfEsl

open Tiling TagDevice TransitionSystem

/-! ## The system -/

/-- The access point, the tags with their histories, and the payloads encrypted under the AP Sync
Key. -/
structure Network (ι : Type*) where
  ap : Ap
  tags : ι → TagDevice × ParseHistory
  encrypted : List (List UInt8)

inductive NetworkEvent (ι : Type*)
  | ap (e : ApEvent)
  | tag (i : ι) (e : TagEvent)

/-- The payload that the access point encrypts in a step. -/
def Ap.encrypts (s : Ap) : ApEvent → List (List UInt8)
  | .pushCompose c _ => (s.callers c).toList.map (·.data)
  | .pingCompose _ => s.ping.toList.map fun ping => Ap.dummyPing ping.idx
  | _ => []

namespace Network

variable {ι : Type*} [DecidableEq ι] (apCfg : ApConfig) (cfg : ι → Config) (ead : Ead)

/-- One device makes a step. -/
def step (n : Network ι) : NetworkEvent ι → Option (Network ι)
  | .ap e => (n.ap.step apCfg ead e).map fun s =>
      { n with ap := s, encrypted := n.encrypted ++ n.ap.encrypts e }
  | .tag i e => (stepParse (cfg i) ead (n.tags i) e).map fun x =>
      { n with tags := Function.update n.tags i x }

/-- All devices have booted. -/
def boot (key : KeyMaterial) (p : ι → EslTag.BootParam) : Network ι where
  ap := .init key
  tags := fun i => (TagDevice.boot (cfg i) (p i), {})
  encrypted := []

/-- What a tag decrypts has been encrypted by the access point. -/
def Unforged (n : Network ι) (i : ι) : TagEvent → Prop
  | .pawrSyncWork _ =>
      let key := (n.tags i).1.tag.assoc.eslApKey
      ∀ dec, dec ∈ ead.decrypt key.sessionKey key.iv
          ((n.tags i).1.pawrSyncWork.buf.pull adHeaderLen).bytes →
        ∃ payload ∈ n.encrypted, dec = eslAd payload
  | _ => True

/-- The tags are used in an orderly way, and packets are not forged. -/
def Guarded (n : Network ι) : NetworkEvent ι → Prop
  | .ap _ => True
  | .tag i e => Orderly (cfg i) ead (n.tags i) e ∧ n.Unforged ead i e

/-! ## Specification -/

/-- The command is a TLV of a payload, and the tag with this address has to execute it. -/
def TakenFrom (payload : List UInt8) (address : EslAddr) (c : Command) : Prop :=
  (∀ g, g ∈ payload.head? → g = address.groupId)
    ∧ ∃ tlvs : List Tlv, Visits payload.tail tlvs ∧ c ∈ (addressed address.eslId tlvs).map Tlv.command

/-- The safety of the network. -/
structure NetworkSafe (n : Network ι) : Prop where
  /-- Every packet command executed was sent by the access point. -/
  authentic : ∀ i, ∀ x ∈ (n.tags i).1.log.executed, x.command.src = .pawr →
    ∃ p ∈ (n.tags i).2.packets, p.payload ∈ n.encrypted ∧ TakenFrom p.payload p.address x.command
  /-- Tags with different IDs answer a payload in different slots. -/
  exclusive : ∀ i j, ∀ a ∈ (n.tags i).2.answered, ∀ b ∈ (n.tags j).2.answered,
    a.1.payload = b.1.payload → (split ecpLen a.1.payload.tail).2.length ≠ 1 →
    a.1.address.eslId ≠ b.1.address.eslId → a.2 = b.2 → a.2 = -1

end Network

/-! ## The payload of a packet -/

section Payload

variable {cfg : Config} {ead : Ead} {d : TagDevice} {stack : Mem} {f : ParserFrame}

/-- A packet that is taken up is parsed as far as its payload goes. -/
lemma payload_beginPacket {payload : List UInt8} (hidle : d.parser = none)
    (hb : d.pawrSyncWork.buf.bytes = eslAd payload) (h : d.beginPacket.parser = some f) :
    d.beginPacket.pawrSyncWork.buf.data.read 0 f.payloadLen = payload := by
  by_cases had : IsEslAd d.pawrSyncWork.buf
  · by_cases hgroup : OwnGroup d
    · rw [beginPacket_ownGroup had hgroup] at h ⊢
      obtain rfl := (Option.some.inj h).symm
      have h₀ : d.pawrSyncWork.buf.data 0 = UInt8.ofNat (payload.length + 1) :=
        NetBuf.data_of_bytes [] hb
      have hlen : d.pawrSyncWork.buf.len = payload.length + 2 := by
        rw [← NetBuf.length_bytes, hb, length_eslAd]
      -- the length byte has been compared with the length
      have hbyte := had.1
      have hsub : (d.pawrSyncWork.buf.data 0 - 1).toNat = payload.length := by
        rw [UInt8.toNat_sub_of_le _ _ (UInt8.le_iff_toNat_le.mpr (by rw [UInt8.toNat_one]; omega)),
          UInt8.toNat_one]
        omega
      have hread : d.pawrSyncWork.buf.data.read 0 2 ++ d.pawrSyncWork.buf.data.read 2 payload.length
          = [UInt8.ofNat (payload.length + 1), btDataEsl] ++ payload := by
        rw [NetBuf.bytes, hlen, Nat.add_comm, Mem.read_add] at hb
        exact hb
      show (d.pawrSyncWork.buf.data.shift adHeaderLen).read 0 (d.pawrSyncWork.buf.data 0 - 1).toNat
        = payload
      rw [hsub, Mem.read_shift]
      exact (List.append_inj hread rfl).2
    · rw [beginPacket_otherGroup hidle hgroup] at h
      cases h
  · rw [beginPacket, if_pos had, hidle] at h
    cases h

/-- **The parser works on what has been decrypted.**  The lengths in a packet need not be trusted for
that. -/
lemma payload_pawrSyncWorkFn (hl : ead.Lawful) (hidle : d.parser = none)
    (h : (d.pawrSyncWorkFn cfg ead stack).parser = some f) :
    ∃ dec, ead.decrypt d.tag.assoc.eslApKey.sessionKey d.tag.assoc.eslApKey.iv
        (d.pawrSyncWork.buf.pull adHeaderLen).bytes = some dec
      ∧ ∀ payload, dec = eslAd payload →
        (d.pawrSyncWorkFn cfg ead stack).pawrSyncWork.buf.data.read 0 f.payloadLen = payload := by
  cases hdec : ead.decrypt d.tag.assoc.eslApKey.sessionKey d.tag.assoc.eslApKey.iv
      (d.pawrSyncWork.buf.pull adHeaderLen).bytes with
  | none =>
      have hval : (decryptPacket ead d.tag.assoc.eslApKey stack d.pawrSyncWork.buf).val
          = (false, d.pawrSyncWork.buf.pull adHeaderLen) := by
        simp only [decryptPacket, Traced.val_bind, hdec, Traced.val_pure]
      simp [pawrSyncWorkFn, hval, hidle] at h
  | some dec =>
      refine ⟨dec, rfl, ?_⟩
      rintro payload rfl
      have hlen : (2 ^ 16 + d.pawrSyncWork.buf.len - 11) % 2 ^ 16 = payload.length + 2 := by
        have hc := hl.length_decrypt hdec
        rw [NetBuf.length_bytes, length_eslAd, NetBuf.pull, adHeaderLen] at hc
        dsimp only at hc
        omega
      set b : NetBuf := ⟨stack.write 0 (eslAd payload), payload.length + 2⟩
      have hb : b.bytes = eslAd payload := Mem.read_write stack 0 (eslAd payload)
      have hval : (decryptPacket ead d.tag.assoc.eslApKey stack d.pawrSyncWork.buf).val
          = (true, b) := by
        simp only [decryptPacket, Traced.val_bind, hdec, Traced.val_pure, hlen, b]
      rw [pawrSyncWorkFn_of_decrypted hval (Nat.succ_ne_zero _), takeUpPacket] at h ⊢
      set d₁ : TagDevice :=
        { d with pawrSyncWork := { d.pawrSyncWork with pending := false, buf := b } }
      by_cases hsome : d₁.beginPacket.parser.isSome
      · rw [if_pos hsome] at h ⊢
        exact payload_beginPacket hidle hb h
      · rw [if_neg hsome] at h
        rw [show d₁.beginPacket.parser = some f from h] at hsome
        exact absurd rfl hsome

/-- Where the packets of a tag come from. -/
lemma packets_stepParse (hl : ead.Lawful) {x y : TagDevice × ParseHistory} {e : TagEvent}
    (h : stepParse cfg ead x e = some y) {p : ParsedPacket} (hp : p ∈ y.2.packets) :
    (∃ q ∈ x.2.packets, p.payload = q.payload)
      ∨ ∃ stack, e = .pawrSyncWork stack ∧ ∃ dec,
        ead.decrypt x.1.tag.assoc.eslApKey.sessionKey x.1.tag.assoc.eslApKey.iv
          (x.1.pawrSyncWork.buf.pull adHeaderLen).bytes = some dec
        ∧ ∀ payload, dec = eslAd payload → p.payload = payload := by
  obtain ⟨hd, hy⟩ := withHistory_eq_some.mp h
  cases e with
  | reboot q =>
      rw [hy] at hp
      cases hp
  | pawrSyncWork stack =>
      obtain ⟨hready, hd'⟩ := step_pawrSyncWork_eq_some.mp hd
      rw [hy] at hp
      simp only [parseHistoryAfter] at hp
      split at hp
      · rename_i f hf
        rcases List.mem_append.mp hp with hp | hp
        · exact .inl ⟨p, List.mem_append_left _ hp, rfl⟩
        · obtain rfl := Option.some.inj (Option.mem_toList.mp hp)
          obtain ⟨dec, hdec, hpayload⟩ := payload_pawrSyncWorkFn hl hready.2 (hd'.symm ▸ hf)
          rw [hd'] at hpayload
          exact .inr ⟨stack, rfl, dec, hdec, hpayload⟩
      · exact .inl ⟨p, hp, rfl⟩
  | parserStep rnd =>
      rw [hy] at hp
      simp only [parseHistoryAfter] at hp
      split at hp
      · exact .inl ⟨p, hp, rfl⟩
      · rename_i q hq
        have hcurrent : q ∈ x.2.packets := List.mem_append_right _ (Option.mem_toList.mpr hq)
        split at hp
        · rcases List.mem_append.mp hp with hp | hp
          · exact .inl ⟨p, List.mem_append_left _ hp, rfl⟩
          · obtain rfl := Option.some.inj (Option.mem_toList.mp hp)
            exact .inl ⟨q, hcurrent, rfl⟩
        · rw [ParseHistory.packets, List.map_append] at hp
          rcases List.mem_append.mp hp with hp | hp
          · rcases List.mem_append.mp hp with hp | hp
            · exact .inl ⟨p, List.mem_append_left _ hp, rfl⟩
            · obtain rfl := List.mem_singleton.mp hp
              exact .inl ⟨q, hcurrent, rfl⟩
          · cases hp
  | _ =>
      rw [show y.2 = x.2 from hy] at hp
      exact .inl ⟨p, hp, rfl⟩

end Payload

/-! ## Slots -/

/-- The slot depends on the ESL IDs of the TLVs only. -/
lemma IsResponseSlot.congr {eslId : UInt8} {tlvs us : List Tlv} {slot : ℤ}
    (h : IsResponseSlot eslId tlvs slot) (heq : tlvs.map Tlv.eslId = us.map Tlv.eslId) :
    IsResponseSlot eslId us slot := by
  have hget : ∀ i : ℕ, us[i]?.map Tlv.eslId = tlvs[i]?.map Tlv.eslId := by
    intro i
    rw [← List.getElem?_map, ← List.getElem?_map, heq]
  rcases h with ⟨hslot, hnone⟩ | ⟨i, t, hi, ht, hid, hlast⟩
  · refine .inl ⟨hslot, fun u hu => ?_⟩
    have hmem : Tlv.eslId u ∈ tlvs.map Tlv.eslId := by
      rw [heq]
      exact List.mem_map_of_mem hu
    obtain ⟨t, ht, hid⟩ := List.mem_map.mp hmem
    rw [← hid]
    exact hnone t ht
  · have hui := hget i
    rw [ht, Option.map_some, Option.map_eq_some_iff] at hui
    obtain ⟨u, hu, huid⟩ := hui
    refine .inr ⟨i, u, hi, hu, huid.trans hid, fun j v hj hv => ?_⟩
    have hvj := hget j
    rw [hv, Option.map_some] at hvj
    obtain ⟨w, hw, hwid⟩ := Option.map_eq_some_iff.mp hvj.symm
    rw [← hwid]
    exact hlast j w hj hw

/-- Two readers of a list see the same ESL IDs, unless a single byte is cut off. -/
lemma map_eslId_of_visits {bytes : List UInt8} {tlvs us : List Tlv} (h : Visits bytes tlvs)
    (h' : Visits bytes us) (hcut : (split ecpLen bytes).2.length ≠ 1) :
    tlvs.map Tlv.eslId = us.map Tlv.eslId := by
  rcases h with ⟨hnil, rfl⟩ | ⟨t, hne, ht, rfl⟩
  · rcases h' with ⟨-, rfl⟩ | ⟨u, hne, -⟩
    · rfl
    · exact absurd hnil hne
  · rcases h' with ⟨hnil, -⟩ | ⟨u, -, hu, rfl⟩
    · exact absurd hnil hne
    · -- the ID is the second byte of the tail
      have hid : Tlv.eslId t = Tlv.eslId u := by
        obtain ⟨xs, hxs⟩ := ht
        obtain ⟨ys, hys⟩ := hu
        have hlen : 1 < (split ecpLen bytes).2.length := by
          have := List.length_pos_iff.mpr hne
          omega
        rw [Tlv.eslId, Tlv.eslId, ← hxs, ← hys, List.getD_append _ _ _ _ hlen,
          List.getD_append _ _ _ _ hlen]
      rw [List.map_append, List.map_append, List.map_singleton, List.map_singleton, hid]

/-! ## The invariant -/

/-- Every packet in the history of a tag has been encrypted by the access point. -/
structure NetworkInv {ι : Type*} (n : Network ι) : Prop where
  served : ∀ i, ServedInv (n.tags i)
  payload : ∀ i, ∀ p ∈ (n.tags i).2.packets, p.payload ∈ n.encrypted

/-- Every command of a packet is one of its TLVs. -/
lemma PacketsServed.takenFrom {x : TagDevice × ParseHistory} (h : PacketsServed x) {p : ParsedPacket}
    (hp : p ∈ x.2.packets) {c : Command} (hc : c ∈ p.commands) :
    Network.TakenFrom p.payload p.address c := by
  refine ⟨h.ownGroup p hp, ?_⟩
  rcases List.mem_append.mp hp with hp | hp
  · obtain ⟨a, ha, rfl⟩ := List.mem_map.mp hp
    obtain ⟨tlvs, hvisits, hcommands, -⟩ := h.answered a ha
    exact ⟨tlvs, hvisits, hcommands ▸ hc⟩
  · obtain ⟨tlvs, done, hvisits, ⟨rest, rfl⟩, hcommands⟩ := h.current p (Option.mem_toList.mp hp)
    refine ⟨_, hvisits, ?_⟩
    rw [addressed, List.filter_append, List.map_append, ← addressed, ← hcommands]
    exact List.mem_append_left _ hc

/-- A packet command that has been executed belongs to a packet in the history. -/
lemma PacketsServed.exists_packet {x : TagDevice × ParseHistory} (h : PacketsServed x)
    {ex : Execution} (hex : ex ∈ x.1.log.executed) (hsrc : ex.command.src = .pawr) :
    ∃ p ∈ x.2.packets, ex.command ∈ p.commands := by
  have hmem : ex.command ∈ x.2.commands := by
    rw [← h.executed]
    refine List.mem_append_left _ (List.mem_filter.mpr ⟨List.mem_map_of_mem hex, ?_⟩)
    simpa using hsrc
  rcases List.mem_append.mp hmem with hmem | hmem
  · obtain ⟨a, ha, hc⟩ := List.mem_flatMap.mp hmem
    exact ⟨a.1, List.mem_append_left _ (List.mem_map_of_mem ha), hc⟩
  · cases hcurrent : x.2.current with
    | none =>
        rw [hcurrent] at hmem
        cases hmem
    | some p =>
        rw [hcurrent] at hmem
        exact ⟨p, List.mem_append_right _ (Option.mem_toList.mpr hcurrent), hmem⟩

namespace NetworkInv

variable {ι : Type*}

lemma networkSafe {n : Network ι} (h : NetworkInv n) : Network.NetworkSafe n where
  authentic i ex hex hsrc := by
    obtain ⟨p, hp, hc⟩ := (h.served i).packetsServed.exists_packet hex hsrc
    exact ⟨p, hp, h.payload i p hp, (h.served i).packetsServed.takenFrom hp hc⟩
  exclusive i j a ha b hb hpayload hcut hne hslot := by
    obtain ⟨tlvs, hvisits, -, hown⟩ := (h.served i).answered a ha
    obtain ⟨us, hvisits', -, hown'⟩ := (h.served j).answered b hb
    rw [← hpayload] at hvisits'
    rw [← hslot] at hown'
    exact hown.unique hne (hown'.congr (map_eslId_of_visits hvisits' hvisits hcut))

variable [DecidableEq ι] {apCfg : ApConfig} {cfg : ι → Config} {ead : Ead}

/-- **One step** of one device. -/
theorem preserved (hl : ead.Lawful) :
    PreservedUnder (Network.step apCfg cfg ead) (Network.Guarded cfg ead) NetworkInv := by
  intro n e n' h hg hstep
  cases e with
  | ap e =>
      obtain ⟨s, -, rfl⟩ := Option.map_eq_some_iff.mp hstep
      exact ⟨h.served, fun i p hp => List.mem_append_left _ (h.payload i p hp)⟩
  | tag i e =>
      obtain ⟨x, hx, rfl⟩ := Option.map_eq_some_iff.mp hstep
      refine ⟨fun j => ?_, fun j p hp => ?_⟩
      · show ServedInv (Function.update n.tags i x j)
        by_cases hj : j = i
        · subst hj
          rw [Function.update_self]
          exact ServedInv.preserved _ _ _ (h.served j) hg.1 hx
        · rw [Function.update_of_ne hj]
          exact h.served j
      · replace hp : p ∈ (Function.update n.tags i x j).2.packets := hp
        by_cases hj : j = i
        · subst hj
          rw [Function.update_self] at hp
          rcases packets_stepParse hl hx hp with ⟨q, hq, heq⟩ | ⟨stack, rfl, dec, hdec, heq⟩
          · rw [heq]
            exact h.payload j q hq
          · obtain ⟨payload, hmem, rfl⟩ := hg.2 dec hdec
            rw [heq payload rfl]
            exact hmem
        · rw [Function.update_of_ne hj] at hp
          exact h.payload j p hp

end NetworkInv

instance {ι : Type*} (ead : Ead) (n : Network ι) (i : ι) (e : TagEvent) :
    Decidable (n.Unforged ead i e) :=
  match e with
  | .pawrSyncWork _ => inferInstanceAs (Decidable (∀ dec, dec ∈ ead.decrypt _ _ _ → _))
  | .tick _ | .connected _ | .disconnected _ | .securityChanged _ | .eslAddrWrite _ | .apKeyWrite _
  | .eslRspKeyWrite _ | .absTimeWrite _ | .eslControlWrite _ | .ecpWork _ | .notifySent | .syncCb
  | .termCb | .recvCb _ _ _ | .parserStep _ | .stateTimeout | .ledWork _ | .displayWork _ | .advWork
  | .imageWritten _ _ | .factoryReset | .unassociate | .busy | .reboot _ => isTrue trivial

instance {ι : Type*} [DecidableEq ι] (cfg : ι → Config) (ead : Ead) (n : Network ι)
    (e : NetworkEvent ι) : Decidable (n.Guarded cfg ead e) :=
  match e with
  | .ap _ => isTrue trivial
  | .tag _ _ => inferInstanceAs (Decidable (_ ∧ _))

/-- A tag gets this ID in group 0, and synchronises. -/
def associated (id : UInt8) : List TagEvent :=
  [ .connected 0
  , .eslAddrWrite (.ofBytes [id, 0x00])
  , .apKeyWrite (.ofBytes (List.replicate 24 0x11))
  , .eslRspKeyWrite (.ofBytes (List.replicate 24 0x22))
  , .absTimeWrite (.ofBytes [0, 0, 0, 0])
  , .eslControlWrite (.ofBytes [0x04, id]), .ecpWork {}, .notifySent
  , .syncCb ]

/-- A Ping for each of two tags, and the packet as both receive it. -/
def pingEach : List UInt8 := [0x00, 0x00, 0x01, 0x00, 0x02]

def pingEachReceived : TagEvent :=
  .recvCb 7 0 (.ofBytes ([17, 0x31, 0, 0, 0, 0, 0x80] ++ eslAd pingEach ++ [0, 0, 0, 0]) fun _ => 0)

/-- The tags take turns. -/
def twoTags : List (NetworkEvent (Fin 2)) :=
  (associated 1).map (.tag 0) ++ (associated 2).map (.tag 1)
    ++ [.ap (.pushSyncBuf 0 pingEach 0), .ap (.pushClaim 0), .ap (.pushCompose 0 .zero)]
    ++ [ .tag 0 pingEachReceived, .tag 1 pingEachReceived
       , .tag 1 (.pawrSyncWork fun _ => 0), .tag 0 (.pawrSyncWork fun _ => 0)
       , .tag 0 (.parserStep .zero), .tag 1 (.parserStep .zero), .tag 1 (.parserStep .zero)
       , .tag 1 (.ecpWork {}), .tag 0 (.ecpWork {})
       , .tag 0 (.parserStep .zero), .tag 0 (.parserStep .zero), .tag 0 (.parserStep .zero)
       , .tag 1 (.parserStep .zero), .tag 1 (.parserStep .zero) ]

/-- Each of them answers in its own slot. -/
example : ((run (Network.step .default (fun _ => .sample) .clear)
    (Network.boot (fun _ : Fin 2 => .sample) .zero fun _ => {}) twoTags).map fun n =>
      ((n.tags 0).2.answered.map (·.2), (n.tags 1).2.answered.map (·.2))) = some ([0], [1]) := by
  decide +kernel

end NrfEsl
