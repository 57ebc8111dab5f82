import NrfEsl.Packet

/-!
# Dispatch of a packet

What the parser makes of a packet of the tag's group whose payload behind the group ID is tiled
exactly by TLVs (`TiledPacket`), while the tag keeps its address.

* **Commands.**  The handler runs once for each TLV with the tag's or the broadcast ID, in packet
  order, on exactly the bytes of the TLV (`addressed`).
* **Response slot.**  It is the index of the last TLV with the tag's own ID (`IsResponseSlot`).  A
  slot names one TLV, and a TLV carries one ID, so two tags never share a slot
  (`IsResponseSlot.unique`).

`dispatch_tiled` is the result, with the run of the step system that gets there.
-/

namespace NrfEsl

open Tiling TagDevice

/-! ## What is to be dispatched -/

/-- The TLVs for the tag with this ESL ID, in packet order. -/
def addressed (eslId : UInt8) (tlvs : List Tlv) : List Tlv :=
  tlvs.filter fun t => Tlv.eslId t = eslId ∨ Tlv.eslId t = eslAddrBroadcast

/-- The slot is the index of the last TLV with this ESL ID, or -1 when there is none. -/
def IsResponseSlot (eslId : UInt8) (tlvs : List Tlv) (slot : ℤ) : Prop :=
  (slot = -1 ∧ ∀ t ∈ tlvs, Tlv.eslId t ≠ eslId)
    ∨ ∃ (i : ℕ) (t : Tlv), slot = i ∧ tlvs[i]? = some t ∧ Tlv.eslId t = eslId
      ∧ ∀ (j : ℕ) (u : Tlv), i < j → tlvs[j]? = some u → Tlv.eslId u ≠ eslId

section Slot

variable {eslId : UInt8} {tlvs : List Tlv} {slot : ℤ} {t : Tlv}

/-- A TLV with the ID takes the slot. -/
lemma IsResponseSlot.concat_own (h : Tlv.eslId t = eslId) :
    IsResponseSlot eslId (tlvs ++ [t]) tlvs.length := by
  refine .inr ⟨tlvs.length, t, rfl, by simp, h, ?_⟩
  intro j u hj hu
  rw [List.getElem?_eq_none (by simp; omega)] at hu
  cases hu

/-- Any other TLV leaves it. -/
lemma IsResponseSlot.concat_other (hslot : IsResponseSlot eslId tlvs slot)
    (h : Tlv.eslId t ≠ eslId) : IsResponseSlot eslId (tlvs ++ [t]) slot := by
  rcases hslot with ⟨hslot, hnone⟩ | ⟨i, u, hi, hu, hid, hlast⟩
  · refine .inl ⟨hslot, ?_⟩
    intro u hu
    rcases List.mem_append.mp hu with hu | hu
    · exact hnone u hu
    · rwa [List.mem_singleton.mp hu]
  · have hlt : i < tlvs.length := (List.getElem?_eq_some_iff.mp hu).1
    refine .inr ⟨i, u, hi, by rwa [List.getElem?_append_left hlt], hid, ?_⟩
    intro j v hj hv
    rcases Nat.lt_or_ge j tlvs.length with hjl | hjl
    · rw [List.getElem?_append_left hjl] at hv
      exact hlast j v hj hv
    · rw [List.getElem?_append_right hjl, List.getElem?_singleton] at hv
      split at hv
      · cases hv
        exact h
      · cases hv

/-- **Two tags with different IDs never share a slot.** -/
theorem IsResponseSlot.unique {eslId' : UInt8} (hne : eslId ≠ eslId')
    (h : IsResponseSlot eslId tlvs slot) (h' : IsResponseSlot eslId' tlvs slot) : slot = -1 := by
  rcases h with ⟨hslot, -⟩ | ⟨i, t, hi, ht, hid, -⟩
  · exact hslot
  · rcases h' with ⟨hslot, -⟩ | ⟨j, u, hj, hu, hid', -⟩
    · exact hslot
    · have hij : i = j := by
        have := hi.symm.trans hj
        omega
      subst hij
      rw [ht] at hu
      cases hu
      exact absurd (hid.symm.trans hid') hne

/-- The TLVs determine the slot. -/
theorem IsResponseSlot.eq {slot' : ℤ} (h : IsResponseSlot eslId tlvs slot)
    (h' : IsResponseSlot eslId tlvs slot') : slot = slot' := by
  rcases h with ⟨hslot, hnone⟩ | ⟨i, t, hi, ht, hid, hlast⟩
  · rcases h' with ⟨hslot', -⟩ | ⟨j, u, -, hu, hid', -⟩
    · rw [hslot, hslot']
    · exact absurd hid' (hnone u (List.mem_of_getElem? hu))
  · rcases h' with ⟨-, hnone⟩ | ⟨j, u, hj, hu, hid', hlast'⟩
    · exact absurd hid (hnone t (List.mem_of_getElem? ht))
    · rcases lt_trichotomy i j with hij | rfl | hij
      · exact absurd hid' (hlast j u hij hu)
      · rw [hi, hj]
      · exact absurd hid (hlast' i t hij ht)

end Slot

/-- No command of the packet changes the address before the last TLV is reached. -/
def AddressKept (cfg : Config) (tlvs : List Tlv) (d : TagDevice) : Prop :=
  ∀ n < tlvs.length,
    (executeTlvs cfg d.tag (tlvs.take n)).assoc.eslAddr = d.tag.assoc.eslAddr

/-! ## One turn -/

section Dispatch

variable {cfg : Config} {ead : Ead} {env : ℕ → HandlerEnv} {d : TagDevice}

/-- What the parser has done after some TLVs. -/
structure Dispatched (eslId : UInt8) (d : TagDevice) (done : List Tlv)
    (s : ParserFrame × TagDevice) : Prop where
  tlvSlot : s.1.tlvSlot = done.length - 1
  rspSlot : IsResponseSlot eslId done s.1.rspSlot
  executed : s.2.log.executed.map (·.command)
    = d.log.executed.map (·.command) ++ (addressed eslId done).map fun t => ⟨.pawr, t.toList⟩
  responses : s.2.responses = d.responses

lemma Dispatched.start (eslId : UInt8) (had : IsEslAd d.pawrSyncWork.buf) (hgroup : OwnGroup d) :
    Dispatched eslId d [] (atFirstTlv d) where
  tlvSlot := rfl
  rspSlot := .inl ⟨rfl, by simp⟩
  executed := by simp [atFirstTlv, beginPacket_ownGroup had hgroup, addressed]
  responses := by simp [atFirstTlv, beginPacket_ownGroup had hgroup]

/-- One more TLV, read by a tag that still has the ID. -/
lemma Dispatched.turn {done : List Tlv} {s : ParserFrame × TagDevice} {t : Tlv}
    {rest : List UInt8} (hreads : Reads s (t.toList ++ rest))
    (h : Dispatched s.2.tag.assoc.eslAddr.eslId d done s) :
    Dispatched s.2.tag.assoc.eslAddr.eslId d (done ++ [t]) (turn cfg env s) := by
  obtain ⟨op, params, ht, -⟩ := t.eq_cons
  have hid : s.2.pawrSyncWork.buf.data (s.1.cur + 1) = Tlv.eslId t := by
    rw [ht] at hreads
    exact hreads.eslId
  have hslot : s.1.tlvSlot + 1 = (done.length : ℤ) := by
    rw [h.tlvSlot]
    omega
  have hne := s.2.tag.assoc.eslAddr.eslId_ne_broadcast
  refine ⟨?_, ?_, ?_, ?_⟩
  · simp only [TagDevice.turn, visitTlv, hslot, List.length_append, List.length_singleton]
    omega
  · -- the slot moves for the tag's own ID only
    simp only [TagDevice.turn, visitTlv, hslot, hreads.addressed_iff, hid]
    by_cases hown : Tlv.eslId t = s.2.tag.assoc.eslAddr.eslId
    · rw [if_pos ⟨.inl hown, hown ▸ hne⟩]
      exact .concat_own hown
    · rw [if_neg (by tauto)]
      exact h.rspSlot.concat_other hown
  · rw [TagDevice.turn, addressed, List.filter_append, List.map_append, ← List.append_assoc,
      ← addressed, ← h.executed]
    by_cases ha : Addressed s.1 s.2
    · rw [(hreads.runTlv_addressed env ha).1, List.map_append,
        List.filter_cons_of_pos (by simpa using hreads.addressed_iff.mp ha)]
      rfl
    · rw [runTlv, if_neg ha,
        List.filter_cons_of_neg (by simpa using (not_congr hreads.addressed_iff).mp ha)]
      simp
  · rw [TagDevice.turn, ← h.responses]
    by_cases ha : Addressed s.1 s.2
    · exact (hreads.runTlv_addressed env ha).2.2
    · rw [runTlv, if_neg ha]

/-- The whole loop. -/
lemma Dispatched.parseTlvs (env : ℕ → HandlerEnv) {tlvs : List Tlv} (hpacket : TiledPacket tlvs d)
    (haddr : AddressKept cfg tlvs d) :
    Dispatched d.tag.assoc.eslAddr.eslId d tlvs
      (parseTlvs cfg env (atFirstTlv d).1 (atFirstTlv d).2) := by
  have hreads : Reads (atFirstTlv d) (flatten tlvs) :=
    hpacket.tiled ▸ reads_atFirstTlv hpacket.isEslAd hpacket.ownGroup hpacket.hasGroup
  rw [parseTlvs_whole hreads]
  refine (turns_rule (I := Dispatched d.tag.assoc.eslAddr.eslId d)
    (by rwa [List.append_nil]) (.start _ hpacket.isEslAd hpacket.ownGroup) ?_).1
  intro done t rest hsplit hread hinv
  have htag : (turns cfg env done.length (atFirstTlv d)).2.tag = executeTlvs cfg d.tag done := by
    rw [hsplit, flatten_append] at hreads
    rw [tag_turns hreads, atFirstTlv, tag_beginPacket]
  have hkept : (turns cfg env done.length (atFirstTlv d)).2.tag.assoc.eslAddr
      = d.tag.assoc.eslAddr := by
    have h := haddr done.length (by simp [hsplit])
    rwa [hsplit, List.take_left', ← htag] at h
    rfl
  rw [← hkept] at hinv ⊢
  exact hinv.turn hread

end Dispatch

/-! ## The packet -/

/-- **Packet dispatch.** -/
theorem dispatch_tiled {cfg : Config} {ead : Ead} {env : ℕ → HandlerEnv} {rnd : Randomness}
    {tlvs : List Tlv} {d : TagDevice} (hpacket : TiledPacket tlvs d)
    (haddr : AddressKept cfg tlvs d) :
    ∃ f d', d.parsePacket cfg env = some (f, d')
      -- one run for each addressed TLV, in packet order, on its bytes
      ∧ d'.log.executed.map (·.command) = d.log.executed.map (·.command)
        ++ (addressed d.tag.assoc.eslAddr.eslId tlvs).map (fun t => ⟨.pawr, t.toList⟩)
      -- the response goes to the slot of the last own TLV, if there is one
      ∧ IsResponseSlot d.tag.assoc.eslAddr.eslId tlvs f.rspSlot
      ∧ (d.eslParseSyncPacket cfg ead env rnd).responses.map (·.responseSlot)
        = d.responses.map (·.responseSlot) ++ (if f.rspSlot = -1 then [] else [f.rspSlot])
      -- the parser ends: parser turns and command runs lead out of the loop
      ∧ (∃ es, (∀ e ∈ es, e = TagEvent.parserStep rnd ∨ ∃ n, e = .ecpWork (env n))
        ∧ TransitionSystem.run (step cfg ead) d.beginPacket es
          = some (d.eslParseSyncPacket cfg ead env rnd)
        ∧ (d.eslParseSyncPacket cfg ead env rnd).parser = none)
      -- another tag of the group answers in another slot
      ∧ ∀ cfg' env' d' f' d'', TiledPacket tlvs d' → AddressKept cfg' tlvs d' →
        d'.tag.assoc.eslAddr.eslId ≠ d.tag.assoc.eslAddr.eslId →
        d'.parsePacket cfg' env' = some (f', d'') → f'.rspSlot = f.rspSlot → f.rspSlot = -1 := by
  have hparse := parsePacket_ownGroup cfg env hpacket.isEslAd hpacket.ownGroup
  have hdone := Dispatched.parseTlvs env hpacket haddr
  have hend : d.eslParseSyncPacket cfg ead env rnd
      = (parseTlvs cfg env (atFirstTlv d).1 (atFirstTlv d).2).2.endPacket cfg ead rnd
        (parseTlvs cfg env (atFirstTlv d).1 (atFirstTlv d).2).1 := by
    rw [eslParseSyncPacket, hparse]
  refine ⟨_, _, hparse, hdone.executed, hdone.rspSlot, ?_, ?_, ?_⟩
  · rw [hend, endPacket, ← hdone.responses]
    simp only [renewTimeout, setPawrResponse]
    split <;> simp
  · obtain ⟨es, hes, hrun⟩ := @parseTlvs_eq_run cfg ead env rnd (atFirstTlv d).1
      (atFirstTlv d).2 rfl
    refine ⟨es, hes, ?_, by rw [hend]; rfl⟩
    rw [hend, ← hrun, atFirstTlv, beginPacket_ownGroup hpacket.isEslAd hpacket.ownGroup]
    rfl
  · intro cfg' env' d' f' d'' hpacket' haddr' hne hparse' hslot
    rw [parsePacket_ownGroup cfg' env' hpacket'.isEslAd hpacket'.ownGroup] at hparse'
    have hf : (parseTlvs cfg' env' (atFirstTlv d').1 (atFirstTlv d').2).1 = f' :=
      congrArg Prod.fst (Option.some.inj hparse')
    have hdone' := (Dispatched.parseTlvs env' hpacket' haddr').rspSlot
    rw [hf, hslot] at hdone'
    exact IsResponseSlot.unique hne.symm hdone.rspSlot hdone'

/-- A Ping for ID 5, one for the tag and a broadcast Ping. -/
def threePings : List Tlv := [Tlv.ping 0x05, Tlv.ping 0x00, Tlv.ping 0xFF]

/-- Of three Pings the tag executes two and answers in slot 1. -/
theorem dispatch_threePings :
    ∃ f d', (holding [8, 0x34, 0, 0, 5, 0, 0, 0, 0xFF]).parsePacket .sample (fun _ => {})
        = some (f, d')
      ∧ d'.log.executed.map (·.command) = [⟨.pawr, [0, 0]⟩, ⟨.pawr, [0, 0xFF]⟩]
      ∧ f.rspSlot = 1 := by
  have hpacket : TiledPacket threePings (holding [8, 0x34, 0, 0, 5, 0, 0, 0, 0xFF]) := by
    constructor <;> decide +kernel
  have haddr : AddressKept .sample threePings
      (holding [8, 0x34, 0, 0, 5, 0, 0, 0, 0xFF]) := by
    unfold AddressKept
    decide +kernel
  have hown : IsResponseSlot 0 (threePings.take 1 ++ [Tlv.ping 0x00]) 1 :=
    .concat_own (by decide)
  have hlast : IsResponseSlot 0 threePings 1 :=
    hown.concat_other (show Tlv.eslId (Tlv.ping 0xFF) ≠ 0 by decide)
  obtain ⟨f, d', hparse, hexec, hslot, -⟩ := @dispatch_tiled .sample .clear _
    ⟨Vector.replicate 5 0, Vector.replicate 5 0⟩ _ _ hpacket haddr
  refine ⟨f, d', hparse, ?_, ?_⟩
  · rw [hexec]
    decide +kernel
  · exact hslot.eq hlast

end NrfEsl
