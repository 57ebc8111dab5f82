import NrfEsl.CommandSlot

/-!
# The response buffer of a packet

While a packet is parsed, its commands put their responses into a buffer of 48 bytes; the length of the
last one is kept for a rollback.  Responses have any length up to 17 bytes, and the limit may be hit
any number of times.

* **In every state** (`PacketBuffer`) the buffer is whole TLVs, 48 bytes at most, and the length kept
  is that of the last one, as long as nothing but commands of the packet was run.
* **At every command** (`AnswersWhole`) its response is put behind those TLVs, or exactly the last
  whole TLV is replaced by the Error with Capacity Limit; the length kept is that of the new last TLV.

A Control Point command that is run while a packet is parsed leaves its own response in the buffer,
and the length as it was.  That does no harm to a rollback (`BufferInv`): the response is short, so
that the next one fits behind it.
-/

namespace NrfEsl

open Tiling TagDevice TransitionSystem

/-! ## What is to hold -/

/-- The callbacks of the application return a length that matches the length nibble. -/
def TagEvent.MatchesNibble (cfg : Config) : TagEvent → Prop
  | .ecpWork env => env.MatchesNibble cfg
  | _ => True

/-- The length is that of the last TLV. -/
def LastTlvLen (ts : List Tlv) (lastTlvLen : ℕ) : Prop :=
  ∀ us t, ts = us ++ [t] → lastTlvLen = t.toList.length

/-- What was run since the packet began came in the packet. -/
def OnlyPacket (d : TagDevice) : Prop :=
  ∀ x ∈ d.log.executed.drop d.log.packetStart, x.command.src = .pawr

/-- What the buffer holds while a packet is parsed. -/
structure PacketBuffer (d : TagDevice) (ts : List Tlv) : Prop where
  tlvs : d.ecpRspNetBuf = flatten ts
  fits : d.ecpRspNetBuf.length ≤ eslSyncPktPayloadMaxLen
  last : OnlyPacket d → LastTlvLen ts d.ecpRspLastTlvLen

/-- A command of the packet is about to be run, and is answered. -/
structure AnswersTlv (cfg : Config) (d : TagDevice) : Prop where
  parser : d.parser.isSome
  src : d.ecpWorkSrc = .pawr
  answered : (d.tag.executeCommand cfg d.ecpNetBuf).2 = true

/-- The Error with Capacity Limit. -/
def capLimitTlv : Tlv := ⟨[EslRespCode.err.toByte, EslRspErrCode.capLimit.toByte], rfl⟩

/-- A response is put in the buffer whole, or takes the place of one whole TLV.  `ts` are the TLVs that
stay, `t` is the new last one. -/
structure PutsWhole (buf : List UInt8) (rsp : List UInt8) (ts : List Tlv) (t : Tlv)
    (buf' : List UInt8) (lastTlvLen : ℕ) : Prop where
  tlvs : buf' = flatten (ts ++ [t])
  last : lastTlvLen = t.toList.length
  append : buf.length + rsp.length ≤ eslSyncPktPayloadMaxLen → buf = flatten ts ∧ t.toList = rsp
  rollback : eslSyncPktPayloadMaxLen < buf.length + rsp.length →
    t = capLimitTlv ∧ ∃ u : Tlv, buf = flatten (ts ++ [u])

/-- What a command of the packet does to the buffer. -/
def AnswersWhole (cfg : Config) (d : TagDevice) : TagEvent → Prop
  | .ecpWork env => AnswersTlv cfg d → ∃ ts t,
      PutsWhole d.ecpRspNetBuf (response cfg env d.ecpNetBuf d.tag) ts t
        (d.ecpCommandHandler cfg env).ecpRspNetBuf (d.ecpCommandHandler cfg env).ecpRspLastTlvLen
  | _ => True

/-! ## Putting a response into the buffer -/

lemma lastTlvLen_nil (n : ℕ) : LastTlvLen [] n := by
  intro us t h
  exact absurd h (by simp)

lemma lastTlvLen_concat (ts : List Tlv) (t : Tlv) : LastTlvLen (ts ++ [t]) t.toList.length := by
  intro us u h
  rw [List.singleton_inj.mp (List.append_inj' h rfl).2]

/-- Two bytes at least. -/
lemma two_le_length_tlv (t : Tlv) : 2 ≤ t.toList.length := by
  obtain ⟨x, xs, -, hlen⟩ := t.exists_head
  rw [hlen]
  exact two_le_ecpLen x

/-- Where there is room, the response is the new last TLV. -/
lemma appendResponse_of_fits {ts : List Tlv} {lastTlvLen : ℕ} {rsp : List UInt8}
    (hrsp : IsItem ecpLen rsp) (hfit : (flatten ts).length + rsp.length ≤ eslSyncPktPayloadMaxLen) :
    appendResponse (flatten ts) lastTlvLen rsp = (flatten (ts ++ [⟨rsp, hrsp⟩]), rsp.length) := by
  rw [appendResponse, if_neg (Nat.not_lt.mpr hfit), flatten_concat]

/-- Where there is none, the last TLV goes. -/
lemma appendResponse_of_over {us : List Tlv} {u : Tlv} {rsp : List UInt8}
    (hover : eslSyncPktPayloadMaxLen < (flatten (us ++ [u])).length + rsp.length) :
    appendResponse (flatten (us ++ [u])) u.toList.length rsp
      = (flatten (us ++ [capLimitTlv]), 2) := by
  have htake : (flatten (us ++ [u])).take ((flatten (us ++ [u])).length - u.toList.length)
      = flatten us := by
    rw [flatten_concat, List.length_append, Nat.add_sub_cancel, List.take_left]
  rw [appendResponse, if_pos hover, htake, flatten_concat]
  rfl

/-- The Error is not longer than the TLV whose place it takes. -/
lemma length_capLimit_le {us : List Tlv} {u : Tlv} {n : ℕ} (h : (flatten (us ++ [u])).length ≤ n) :
    (flatten (us ++ [capLimitTlv])).length ≤ n := by
  have htwo := two_le_length_tlv u
  have hcap : capLimitTlv.toList.length = 2 := rfl
  rw [flatten_concat, List.length_append] at h ⊢
  omega

/-- **One response.**  The last TLV has the length that is kept, or the buffer has room for any
response. -/
lemma appendResponse_whole {ts : List Tlv} {lastTlvLen : ℕ} {rsp : List UInt8}
    (hfits : (flatten ts).length ≤ eslSyncPktPayloadMaxLen) (hrsp : IsItem ecpLen rsp)
    (h : LastTlvLen ts lastTlvLen ∨ (flatten ts).length ≤ 17) :
    ∃ us t, PutsWhole (flatten ts) rsp us t (appendResponse (flatten ts) lastTlvLen rsp).1
        (appendResponse (flatten ts) lastTlvLen rsp).2
      ∧ (appendResponse (flatten ts) lastTlvLen rsp).1.length ≤ eslSyncPktPayloadMaxLen := by
  have hlen := length_le_of_isItem hrsp
  rcases Nat.lt_or_ge eslSyncPktPayloadMaxLen ((flatten ts).length + rsp.length) with hover | hfit
  · -- the buffer is too full to be a single response, so the length kept is right
    have hmax : eslSyncPktPayloadMaxLen = 48 := rfl
    have hlast : LastTlvLen ts lastTlvLen := h.resolve_right (by omega)
    obtain ⟨us, u, rfl⟩ : ∃ us u, ts = us ++ [u] := by
      rcases List.eq_nil_or_concat ts with rfl | ⟨us, u, rfl⟩
      · rw [flatten_nil, List.length_nil] at hover
        omega
      · exact ⟨us, u, List.concat_eq_append⟩
    rw [hlast us u rfl, appendResponse_of_over hover]
    exact ⟨us, capLimitTlv, ⟨rfl, rfl, fun hle => by omega, fun _ => ⟨rfl, u, rfl⟩⟩,
      length_capLimit_le hfits⟩
  · rw [appendResponse_of_fits hrsp hfit]
    refine ⟨ts, ⟨rsp, hrsp⟩, ⟨rfl, rfl, fun _ => ⟨rfl, rfl⟩, fun hlt => by omega⟩, ?_⟩
    rw [flatten_concat, List.length_append]
    exact hfit

/-! ## The invariant -/

/-- While a packet is parsed, the last TLV has the length that is kept, or a Control Point command
left its response in the buffer. -/
structure BufferInv (d : TagDevice) : Prop where
  start : d.log.packetStart ≤ d.log.executed.length
  buffer : d.parser.isSome → ∃ ts, d.ecpRspNetBuf = flatten ts
    ∧ d.ecpRspNetBuf.length ≤ eslSyncPktPayloadMaxLen
    ∧ (LastTlvLen ts d.ecpRspLastTlvLen ∨ ¬ OnlyPacket d ∧ d.ecpRspNetBuf.length ≤ 17)

lemma BufferInv.packetBuffer {d : TagDevice} (h : BufferInv d) (hp : d.parser.isSome) :
    ∃ ts, PacketBuffer d ts := by
  obtain ⟨ts, htlvs, hfits, hlast⟩ := h.buffer hp
  exact ⟨ts, htlvs, hfits, fun honly => hlast.resolve_right fun hother => hother.1 honly⟩

section Step

variable {cfg : Config} {ead : Ead} {d d' : TagDevice} {e : TagEvent}

/-- The invariant only depends on the packet, the buffer and the log. -/
lemma BufferInv.congr (hd : BufferInv d) (hbuf : d'.ecpRspNetBuf = d.ecpRspNetBuf)
    (hlast : d'.ecpRspLastTlvLen = d.ecpRspLastTlvLen)
    (hparser : d'.parser.isSome → d.parser.isSome) (hexec : d'.log.executed = d.log.executed)
    (hstart : d'.log.packetStart = d.log.packetStart) : BufferInv d' := by
  have honly : OnlyPacket d' ↔ OnlyPacket d := by rw [OnlyPacket, hexec, hstart, OnlyPacket]
  refine ⟨by rw [hexec, hstart]; exact hd.start, fun hp => ?_⟩
  rw [hbuf, hlast, honly]
  exact hd.buffer (hparser hp)

/-- What was run before stays in the log of the packet. -/
lemma onlyPacket_append {x : Execution} (hstart : d.log.packetStart ≤ d.log.executed.length)
    (hlog : d'.log = { d.log with executed := d.log.executed ++ [x] }) :
    OnlyPacket d' ↔ OnlyPacket d ∧ x.command.src = .pawr := by
  rw [OnlyPacket, hlog]
  simp only
  rw [List.drop_append_of_le_length hstart, List.forall_mem_append, List.forall_mem_singleton]
  exact Iff.rfl

/-- A run of the handler that is answered on the Control Point leaves its response. -/
lemma ecpRspNetBuf_ecp (env : HandlerEnv) (hsrc : d.ecpWorkSrc = .ecp)
    (hans : (d.tag.executeCommand cfg d.ecpNetBuf).2 = true) :
    (d.ecpCommandHandler cfg env).ecpRspNetBuf = response cfg env d.ecpNetBuf d.tag := by
  simp only [ecpCommandHandler, hans, if_true, ecpResponseHandler, hsrc]
  split <;> rfl

/-- The command is answered with a whole TLV. -/
lemma isItem_response {env : HandlerEnv} (henv : env.MatchesNibble cfg) (buf : NetBuf) (t : EslTag) :
    IsItem ecpLen (response cfg env buf t) := isItem_responseBytes henv _

/-- **A command of the packet**, and what it leaves. -/
lemma BufferInv.answersTlv (hd : BufferInv d) {env : HandlerEnv} (henv : env.MatchesNibble cfg)
    (h : AnswersTlv cfg d) :
    ∃ ts t, PutsWhole d.ecpRspNetBuf (response cfg env d.ecpNetBuf d.tag) ts t
        (d.ecpCommandHandler cfg env).ecpRspNetBuf (d.ecpCommandHandler cfg env).ecpRspLastTlvLen
      ∧ (d.ecpCommandHandler cfg env).ecpRspNetBuf.length ≤ eslSyncPktPayloadMaxLen := by
  obtain ⟨ts, htlvs, hfits, hlast⟩ := hd.buffer h.parser
  rw [htlvs] at hfits hlast
  have hput := appendResponse_whole hfits (isItem_response henv d.ecpNetBuf d.tag)
    (hlast.imp_right And.right)
  rw [ecpCommandHandler_pawr env h.src h.answered, htlvs]
  exact hput

lemma BufferInv.run (hd : BufferInv d) {env : HandlerEnv} (henv : env.MatchesNibble cfg) :
    BufferInv (d.ecpCommandHandler cfg env) := by
  obtain ⟨x, hx⟩ := handlerRun cfg env d
  have honly := onlyPacket_append hd.start hx.log
  refine ⟨?_, fun hp => ?_⟩
  · have hstart := hd.start
    rw [hx.log, List.length_append]
    exact Nat.le_add_right_of_le hstart
  rw [hx.parser] at hp
  cases hans : (d.tag.executeCommand cfg d.ecpNetBuf).2 with
  | false =>
      -- another tag's command: nothing is put in the buffer
      obtain ⟨ts, htlvs, hfits, hlast⟩ := hd.buffer hp
      have hsame : (d.ecpCommandHandler cfg env).ecpRspNetBuf = d.ecpRspNetBuf
          ∧ (d.ecpCommandHandler cfg env).ecpRspLastTlvLen = d.ecpRspLastTlvLen := by
        simp only [ecpCommandHandler, hans]
        exact ⟨rfl, rfl⟩
      rw [hsame.1, hsame.2, honly]
      exact ⟨ts, htlvs, hfits, hlast.imp_right fun hother => ⟨fun h => hother.1 h.1, hother.2⟩⟩
  | true =>
      cases hsrc : d.ecpWorkSrc with
      | pawr =>
          obtain ⟨ts, t, hput, hfits⟩ := hd.answersTlv henv ⟨hp, hsrc, hans⟩
          refine ⟨ts ++ [t], hput.tlvs, hfits, .inl ?_⟩
          rw [hput.last]
          exact lastTlvLen_concat ts t
      | ecp =>
          have hitem := isItem_response henv d.ecpNetBuf d.tag
          have hlen := length_le_of_isItem hitem
          rw [ecpRspNetBuf_ecp env hsrc hans, honly, hx.command, hsrc]
          refine ⟨[⟨_, hitem⟩], (flatten_singleton ⟨_, hitem⟩).symm, hlen.trans (by decide), ?_⟩
          refine .inr ⟨?_, hlen⟩
          rintro ⟨-, ⟨⟩⟩

/-- Every event keeps the invariant. -/
lemma BufferInv.step (hd : BufferInv d) (hg : e.MatchesNibble cfg)
    (h : d.step cfg ead e = some d') : BufferInv d' := by
  cases step_slot h with
  | same hs =>
      exact hd.congr hs.ecpRspNetBuf hs.ecpRspLastTlvLen (fun hp => hs.parser ▸ hp)
        (congrArg CommandLog.executed hs.log) (congrArg CommandLog.packetStart hs.log)
  | write hlen =>
      rw [eslControlWrite, if_neg (by omega)]
      exact hd.congr rfl rfl id rfl rfl
  | run hpend => exact hd.run hg
  | begin hq hbuf hstart =>
      refine ⟨by rw [hq.executed, hstart], fun _ => ⟨[], hbuf, ?_, .inl (lastTlvLen_nil _)⟩⟩
      rw [hbuf]
      exact Nat.zero_le _
  | dispatch hdisp =>
      obtain ⟨f, hp, -⟩ := hdisp
      exact hd.congr rfl rfl (fun _ => by rw [hp]; rfl) rfl rfl
  | finish hq hparser hstart =>
      refine ⟨by rw [hq.executed, hstart]; exact hd.start, fun hp => ?_⟩
      rw [hparser] at hp
      cases hp
  | reboot => exact ⟨le_rfl, by rintro ⟨⟩⟩

/-- **At every command** the response is put in whole, or takes the place of one whole TLV. -/
lemma BufferInv.answersWhole (hd : BufferInv d) (hg : e.MatchesNibble cfg) : AnswersWhole cfg d e := by
  cases e with
  | ecpWork env =>
      intro h
      obtain ⟨ts, t, hput, -⟩ := hd.answersTlv hg h
      exact ⟨ts, t, hput⟩
  | _ => trivial

end Step

/-- **The response buffer.**  In every run from boot in which the callbacks match the nibble: while a
packet is parsed the buffer is whole TLVs of 48 bytes at most, and the length kept is that of the last
one; each command of a packet puts its response in whole or replaces exactly the last whole TLV. -/
theorem packetBuffer_runs {cfg : Config} {ead : Ead} (p : EslTag.BootParam) {es : List TagEvent}
    (henv : ∀ e ∈ es, e.MatchesNibble cfg) :
    AlongRun (step cfg ead) (fun d => d.parser.isSome → ∃ ts, PacketBuffer d ts) (boot cfg p) es
      ∧ StepsMeet (step cfg ead) (AnswersWhole cfg) (boot cfg p) es := by
  have hboot : BufferInv (boot cfg p) := ⟨le_rfl, by rintro ⟨⟩⟩
  have hsteps : StepsMeet (step cfg ead) (fun _ e => e.MatchesNibble cfg) (boot cfg p) es :=
    .of_forall_mem henv
  have hkept : PreservedUnder (step cfg ead) (fun _ e => e.MatchesNibble cfg) BufferInv :=
    fun _ _ _ hd hg h => hd.step hg h
  refine ⟨(alongRun_of_stepsMeet hkept hboot hsteps).imp fun d hd => hd.packetBuffer, ?_⟩
  exact hsteps.strengthen hkept (fun _ _ _ hd hg _ => hd.answersWhole hg) hboot

/-- A packet of broadcast Pings. -/
def pingsPacket (n : ℕ) : NetBuf :=
  .ofBytes ([UInt8.ofNat (13 + 2 * n), 0x31, 0, 0, 0, 0, 0x80] ++ [UInt8.ofNat (2 + 2 * n), 0x34, 0x00]
    ++ (List.replicate n [0x00, 0xFF]).flatten ++ [0, 0, 0, 0]) fun _ => 0

/-- The tag synchronises, receives the packet and executes its Pings. -/
def pingsExecuted (n : ℕ) : List TagEvent :=
  let rnd : Randomness := ⟨Vector.replicate 5 0, Vector.replicate 5 0⟩
  [.syncCb, .recvCb 7 0 (pingsPacket n), .pawrSyncWork fun _ => 0]
    ++ (List.replicate n [.parserStep rnd, .ecpWork {}, .parserStep rnd]).flatten

/-- Sixteen responses to a Ping fill the buffer; the next one takes the place of the last. -/
theorem packetBuffer_seventeenPings :
    (AlongRun (step .sample .clear) (fun d => d.parser.isSome → ∃ ts, PacketBuffer d ts)
        (boot .sample {}) (pingsExecuted 17)
      ∧ StepsMeet (step .sample .clear) (AnswersWhole .sample) (boot .sample {}) (pingsExecuted 17))
    ∧ ((run (step .sample .clear) (boot .sample {}) (pingsExecuted 17)).map fun d =>
        (d.parser.isSome, d.ecpRspNetBuf, d.ecpRspLastTlvLen))
      = some (true, (List.replicate 15 [0x10, 0x02, 0x00]).flatten ++ [0x00, 0x07], 2) := by
  refine ⟨packetBuffer_runs {} fun e he => ?_, by decide +kernel⟩
  rcases List.mem_append.mp he with he | he
  · simp only [List.mem_cons, List.not_mem_nil, or_false] at he
    rcases he with rfl | rfl | rfl <;> trivial
  · obtain ⟨turn, hturn, he⟩ := List.mem_flatten.mp he
    rw [List.eq_of_mem_replicate hturn] at he
    simp only [List.mem_cons, List.not_mem_nil, or_false] at he
    rcases he with rfl | rfl | rfl
    · trivial
    · exact ⟨by rintro _ _ _ ⟨⟩, by rintro ⟨⟩⟩
    · trivial

end NrfEsl
