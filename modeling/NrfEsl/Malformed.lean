import NrfEsl.Packet

/-!
# Malformed packets

The parser dispatches a TLV before it checks that the TLV fits in the payload, and it takes the
payload length from the AD length byte.  `StaysInside` is the law a parser of packets should keep:
every header and every ESL ID it reads lies in the payload, and what it dispatches ends there.

**When it does** (`staysInside_iff`).  Behind the group ID every payload is whole TLVs and a cut
tail (`Tiling.split`).  Whole TLVs are harmless.  A cut tail is only harmless when its ESL ID is
there and is neither the broadcast ID nor the one the tag has by then; and a length byte of zero
makes the payload length wrap to 255.
-/

namespace NrfEsl

open Tiling TagDevice

/-- Header and ESL ID lie in a payload of that many bytes, and a dispatched TLV ends there. -/
def TlvVisit.Inside (payloadLen : ℕ) (v : TlvVisit) : Prop :=
  v.off + 1 < payloadLen ∧ (v.dispatched = true → v.off + v.len ≤ payloadLen)

instance (payloadLen : ℕ) (v : TlvVisit) : Decidable (v.Inside payloadLen) :=
  inferInstanceAs (Decidable (_ ∧ _))

/-- The parser reads and dispatches inside the payload, the bytes behind the AD header. -/
def StaysInside (cfg : Config) (env : ℕ → HandlerEnv) (d : TagDevice) : Prop :=
  ∀ f d', d.parsePacket cfg env = some (f, d') →
    ∀ v ∈ f.visits, v.Inside (d.pawrSyncWork.buf.len - adHeaderLen)

/-- Nothing is behind the whole TLVs, or a TLV for another tag. -/
def TailIgnored (eslId : UInt8) (tail : List UInt8) : Prop :=
  tail = [] ∨ ∃ op id params, tail = op :: id :: params ∧ id ≠ eslId ∧ id ≠ eslAddrBroadcast

/-- The bytes behind the group ID, as TLVs and a tail. -/
def payloadTlvs (d : TagDevice) : List Tlv × List UInt8 :=
  split ecpLen (d.pawrSyncWork.buf.bytes.drop 3)

section Visits

variable {cfg : Config} {env : ℕ → HandlerEnv} {d : TagDevice}

/-- Whole TLVs are read inside the payload. -/
lemma visits_turns {tlvs : List Tlv} {tail : List UInt8} {s : ParserFrame × TagDevice}
    (hreads : Reads s (flatten tlvs ++ tail)) (hfirst : s.1.visits = []) :
    ∀ v ∈ (turns cfg env tlvs.length s).1.visits,
      2 ≤ v.len ∧ v.off + v.len ≤ (turns cfg env tlvs.length s).1.cur := by
  refine (turns_rule
    (I := fun _ s' => ∀ v ∈ s'.1.visits, 2 ≤ v.len ∧ v.off + v.len ≤ s'.1.cur)
    hreads (by simp [hfirst]) ?_).1
  intro done t rest _ _ hinv v hv
  simp only [turn, visitTlv, List.mem_append, List.mem_singleton] at hv ⊢
  rcases hv with hv | rfl
  · have h := hinv v hv
    omega
  · exact ⟨two_le_ecpLen _, le_rfl⟩

/-- A turn leaves the payload length alone. -/
lemma payloadLen_turns {tlvs : List Tlv} {tail : List UInt8} {s : ParserFrame × TagDevice}
    (hreads : Reads s (flatten tlvs ++ tail)) :
    (turns cfg env tlvs.length s).1.payloadLen = s.1.payloadLen := by
  refine (turns_rule (I := fun _ s' => s'.1.payloadLen = s.1.payloadLen) hreads rfl ?_).1
  intro done t rest _ _ hinv
  exact hinv

/-- The visit of a cut tail is inside exactly when the tail is ignored. -/
lemma visit_cut_iff {tail : List UInt8} {s : ParserFrame × TagDevice} (hreads : Reads s tail)
    (hcut : IsCut ecpLen tail) :
    TlvVisit.Inside s.1.payloadLen ⟨s.1.cur, ecpLen (s.2.pawrSyncWork.buf.data s.1.cur),
        decide (Addressed s.1 s.2)⟩
      ↔ TailIgnored s.2.tag.assoc.eslAddr.eslId tail := by
  obtain ⟨op, xs, rfl, hlt⟩ := hcut.exists_head
  have hlen := hreads.payloadLen
  simp only [TlvVisit.Inside, TailIgnored, decide_eq_true_eq, hreads.opcode, hlen]
  cases xs with
  | nil => simp
  | cons id params =>
      have haddr : Addressed s.1 s.2
          ↔ id = s.2.tag.assoc.eslAddr.eslId ∨ id = eslAddrBroadcast := by
        rw [Addressed, hreads.eslId]
      simp only [List.length_cons] at hlt ⊢
      constructor
      · rintro ⟨-, hfit⟩
        have hnot : ¬ Addressed s.1 s.2 := fun ha => by
          have := hfit ha
          omega
        rw [haddr, not_or] at hnot
        exact .inr ⟨op, id, params, rfl, hnot⟩
      · rintro (h | ⟨op', id', params', heq, hne⟩)
        · cases h
        · cases heq
          refine ⟨by omega, fun ha => ?_⟩
          exact absurd (haddr.mp ha) (not_or.mpr hne)

/-- The law is about the visits the loop ends with. -/
lemma staysInside_iff_visits {s : ParserFrame × TagDevice}
    (hparse : d.parsePacket cfg env = some s) :
    StaysInside cfg env d
      ↔ ∀ v ∈ s.1.visits, v.Inside (d.pawrSyncWork.buf.len - adHeaderLen) := by
  constructor
  · intro h
    exact h _ _ hparse
  · intro h f d' hf
    rw [hparse] at hf
    obtain rfl := Option.some.inj hf
    exact h

/-- The payload length of a packet that carries its group ID is what lies behind the header. -/
lemma payloadLen_atFirstTlv (had : IsEslAd d.pawrSyncWork.buf) (hgroup : OwnGroup d)
    (hlen : 3 ≤ d.pawrSyncWork.buf.len) :
    (atFirstTlv d).1.payloadLen = d.pawrSyncWork.buf.len - adHeaderLen := by
  have h := (reads_atFirstTlv had hgroup hlen).payloadLen
  simp only [List.length_drop, NetBuf.length_bytes] at h
  rw [h, cur_atFirstTlv, adHeaderLen]
  omega

/-- The law for a packet of the tag's group that carries its group ID. -/
lemma staysInside_payload (had : IsEslAd d.pawrSyncWork.buf) (hgroup : OwnGroup d)
    (hlen : 3 ≤ d.pawrSyncWork.buf.len) :
    StaysInside cfg env d
      ↔ TailIgnored (executeTlvs cfg d.tag (payloadTlvs d).1).assoc.eslAddr.eslId
          (payloadTlvs d).2 := by
  have hreads : Reads (atFirstTlv d) (flatten (payloadTlvs d).1 ++ (payloadTlvs d).2) := by
    rw [payloadTlvs, flatten_split]
    exact reads_atFirstTlv had hgroup hlen
  have hparse := parsePacket_ownGroup cfg env had hgroup
  have hread : Reads (turns cfg env (payloadTlvs d).1.length (atFirstTlv d)) (payloadTlvs d).2 :=
    (turns_rule (I := fun _ _ => True) hreads trivial fun _ _ _ _ _ _ => trivial).2
  have htag : (turns cfg env (payloadTlvs d).1.length (atFirstTlv d)).2.tag
      = executeTlvs cfg d.tag (payloadTlvs d).1 := by
    rw [tag_turns hreads, atFirstTlv, tag_beginPacket]
  have hpayload : (turns cfg env (payloadTlvs d).1.length (atFirstTlv d)).1.payloadLen
      = d.pawrSyncWork.buf.len - adHeaderLen := by
    rw [payloadLen_turns hreads, payloadLen_atFirstTlv had hgroup hlen]
  -- what the loop has visited before the tail
  have hwhole : ∀ v ∈ (turns cfg env (payloadTlvs d).1.length (atFirstTlv d)).1.visits,
      v.Inside (d.pawrSyncWork.buf.len - adHeaderLen) := by
    intro v hv
    have hv' := visits_turns hreads rfl v hv
    have hcur := hread.payloadLen
    rw [← hpayload]
    exact ⟨by omega, fun _ => by omega⟩
  rcases isCut_split (fun x => lt_of_lt_of_le Nat.two_pos (two_le_ecpLen x))
    (d.pawrSyncWork.buf.bytes.drop 3) with hnil | hcut
  · have hnil' : (payloadTlvs d).2 = [] := hnil
    rw [hnil', List.append_nil] at hreads
    rw [parseTlvs_whole hreads] at hparse
    exact iff_of_true ((staysInside_iff_visits hparse).mpr hwhole) (.inl hnil')
  · have hcut' : IsCut ecpLen (payloadTlvs d).2 := hcut
    rw [parseTlvs_cut hreads hcut'] at hparse
    rw [staysInside_iff_visits hparse, ← htag, ← visit_cut_iff hread hcut', hpayload]
    constructor
    · intro h
      exact h _ (by simp [visitTlv])
    · intro h v hv
      simp only [visitTlv, List.mem_append, List.mem_singleton] at hv
      rcases hv with hv | rfl
      · exact hwhole v hv
      · exact h

/-- The loop keeps the visits it has made. -/
lemma mem_visits_parseTlvs {v : TlvVisit} (f : ParserFrame) (d : TagDevice) (hv : v ∈ f.visits) :
    v ∈ (parseTlvs cfg env f d).1.visits := by
  induction f, d using parseTlvs.induct cfg env with
  | case1 f d hlt cpLen d' hfit ih =>
      rw [parseTlvs, if_pos hlt, if_pos hfit]
      exact ih (List.mem_append_left _ hv)
  | case2 f d hlt cpLen hfit =>
      rw [parseTlvs, if_pos hlt, if_neg hfit]
      exact List.mem_append_left _ hv
  | case3 f d hlt =>
      rwa [parseTlvs, if_neg hlt]

/-- The loop visits whatever is at its cursor. -/
lemma visit_parseTlvs {f : ParserFrame} {d : TagDevice} (hlt : f.cur < f.payloadLen) :
    ∃ v ∈ (parseTlvs cfg env f d).1.visits, v.off = f.cur := by
  refine ⟨⟨f.cur, ecpLen (d.pawrSyncWork.buf.data f.cur), decide (Addressed f d)⟩, ?_, rfl⟩
  have hmem : (⟨f.cur, ecpLen (d.pawrSyncWork.buf.data f.cur), decide (Addressed f d)⟩ : TlvVisit)
      ∈ (d.visitTlv f).visits := by
    simp [visitTlv]
  by_cases hfit : f.cur + ecpLen (d.pawrSyncWork.buf.data f.cur) ≤ f.payloadLen
  · rw [parseTlvs, if_pos hlt, if_pos hfit]
    exact mem_visits_parseTlvs _ _ hmem
  · rw [parseTlvs, if_pos hlt, if_neg hfit]
    exact hmem

/-- A zero length byte makes the parser read behind the packet. -/
lemma not_staysInside_wrapped (had : IsEslAd d.pawrSyncWork.buf) (hgroup : OwnGroup d)
    (hzero : d.pawrSyncWork.buf.data 0 = 0) : ¬ StaysInside cfg env d := by
  have hparse := parsePacket_ownGroup cfg env had hgroup
  have hlen : d.pawrSyncWork.buf.len = 1 := by
    rw [had.1, hzero]
    rfl
  have hpl : (atFirstTlv d).1.payloadLen = 255 := by
    rw [atFirstTlv, hzero]
    rfl
  rw [staysInside_iff_visits hparse, hlen]
  intro h
  obtain ⟨v, hv, hoff⟩ : ∃ v ∈ (parseTlvs cfg env (atFirstTlv d).1 (atFirstTlv d).2).1.visits,
      v.off = (atFirstTlv d).1.cur := visit_parseTlvs (by rw [hpl, cur_atFirstTlv]; decide)
  have hin := (h v hv).1
  rw [hoff, cur_atFirstTlv] at hin
  exact absurd hin (by decide)

/-- A packet that ends behind its AD header is not parsed. -/
lemma staysInside_headerOnly (had : IsEslAd d.pawrSyncWork.buf) (hgroup : OwnGroup d)
    (hone : d.pawrSyncWork.buf.data 0 = 1) : StaysInside cfg env d := by
  have hparse := parsePacket_ownGroup cfg env had hgroup
  have hpl : (atFirstTlv d).1.payloadLen = 0 := by
    rw [atFirstTlv, hone]
    rfl
  rw [staysInside_iff_visits hparse, parseTlvs, if_neg (by rw [hpl, cur_atFirstTlv]; decide)]
  intro v hv
  cases hv

end Visits

/-- **Malformed packets are not executed**, and nothing outside the payload is read, exactly when
the packet is for another group, or its length byte is not zero and what follows the whole TLVs of
its payload is ignored by its ID. -/
theorem staysInside_iff {cfg : Config} {env : ℕ → HandlerEnv} {d : TagDevice}
    (had : IsEslAd d.pawrSyncWork.buf) (hidle : d.parser = none) :
    StaysInside cfg env d
      ↔ ¬ OwnGroup d ∨ (d.pawrSyncWork.buf.data 0 ≠ 0
        ∧ TailIgnored (executeTlvs cfg d.tag (payloadTlvs d).1).assoc.eslAddr.eslId
            (payloadTlvs d).2) := by
  by_cases hgroup : OwnGroup d
  · rw [or_iff_right (not_not.mpr hgroup)]
    by_cases hzero : d.pawrSyncWork.buf.data 0 = 0
    · exact iff_of_false (not_staysInside_wrapped had hgroup hzero) fun h => h.1 hzero
    · rw [and_iff_right hzero]
      by_cases hone : d.pawrSyncWork.buf.data 0 = 1
      · refine iff_of_true (staysInside_headerOnly had hgroup hone) (.inl ?_)
        have hlen : d.pawrSyncWork.buf.len = 2 := by
          rw [had.1, hone]
          rfl
        have hnil : d.pawrSyncWork.buf.bytes.drop 3 = [] :=
          List.drop_eq_nil_of_le (by simp [hlen])
        rw [payloadTlvs, hnil]
        rfl
      · refine staysInside_payload had hgroup ?_
        have h := had.1
        have h₀ : (d.pawrSyncWork.buf.data 0).toNat ≠ 0 := fun e => hzero (UInt8.toNat_inj.mp e)
        have h₁ : (d.pawrSyncWork.buf.data 0).toNat ≠ 1 := fun e => hone (UInt8.toNat_inj.mp e)
        omega
  · refine iff_of_true ?_ (.inl hgroup)
    intro f d' hf
    rw [parsePacket, beginPacket_otherGroup hidle hgroup] at hf
    cases hf

/-- A Ping for the tag and a cut LED Control for ID 5. -/
theorem staysInside_cutForeign :
    StaysInside .sample (fun _ => {}) (holding [7, 0x34, 0, 0x00, 0x00, 0xB0, 0x05, 0x02]) :=
  (staysInside_iff (by decide +kernel) rfl).mpr (.inr ⟨by decide, .inr
    ⟨0xB0, 0x05, [0x02], by decide +kernel, by decide +kernel, by decide⟩⟩)

/-- The first three bytes of a 13-byte LED Control for the tag are dispatched as a command. -/
theorem staysInside_fails :
    ¬ StaysInside .sample (fun _ => {}) (holding [5, 0x34, 0, 0xB0, 0x00, 0x02]) := by
  rw [staysInside_payload (by decide +kernel) (by decide +kernel) (by decide)]
  rintro (h | ⟨op, id, params, h, hne, -⟩)
  · revert h
    decide +kernel
  · have hid : [0xB0, 0x00, 0x02] = op :: id :: params := h ▸ (by decide +kernel)
    cases hid
    revert hne
    decide +kernel

end NrfEsl
