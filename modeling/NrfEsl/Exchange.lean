import NrfEsl.Framing
import NrfEsl.PacketBuffer
import NrfEsl.PacketRuns

/-!
# Commands out, responses back

A packet carries commands to a tag; what the tag executes it answers in one encrypted packet, and the
access point decrypts that into the buffer of a response slot.  This module follows the responses from
the handler to that buffer.

**What should hold** (`Arrives`).  The access point finds the responses to the commands of the packet,
to all of them and in their order, each a whole TLV, and nothing else.  If they do not fit in 48 bytes,
whole responses make room for the Error with Capacity Limit.

**When it does** (`arrives_of_answerable`).  Packets and writes keep out of each other's way
(`Orderly`, `PacketUndisturbed`), and the stack encrypts the response.  Time, links, timers and workers
may do what they like.

**The invariant** (`AnswerInv`): a command of a packet that waits is one for the tag, so that it will be
answered; and what was executed before the packet began are the commands of the packets answered.
-/

namespace NrfEsl

open Tiling TagDevice RollbackBuffer TransitionSystem

/-! ## Specification -/

/-- The payload of the answer to a packet. -/
def answerPayload (d : TagDevice) : List UInt8 := (responseTlvs (packetAnswers d)).flatMap rspBytes

/-- The response slot of an access point that the response came in. -/
def Ap.slotOf (s : Ap) (info : ResponseInfo) : RspBuffer :=
  (s.syncBuf info.subevent.toNat).rspBuffer info.responseSlot.toNat

/-- A response that goes on the air, and what an access point with the key makes of it. -/
structure Arrives (ead : Ead) (d : TagDevice) (p : ParsedPacket) (r : PawrResponse) : Prop where
  /-- Every command of the packet was answered. -/
  commands : (packetAnswers d).map (·.command) = p.commands
  whole : ∀ x ∈ packetAnswers d, IsItem ecpLen x.response
  tiled : ∃ ts : List Tlv, answerPayload d = flatten ts
  /-- No answer is missing unless they are too long. -/
  complete : total (fun x => x.response.length) (packetAnswers d) ≤ eslSyncPktPayloadMaxLen →
    answerPayload d = (packetAnswers d).flatMap Execution.response
  received : ∀ (apCfg : ApConfig) (s wreck : Ap) (stack : Mem) (info : ResponseInfo) (buf : NetBuf),
    info.subevent.toNat < apCfg.maxGroup → info.responseSlot.toNat < apCfg.maxResponseSlotBuffer →
    (s.slotOf info).rspKey = d.tag.assoc.eslRspKey → buf.bytes = r.data →
    ∃ s', run (Ap.step apCfg ead) s [.pawrResponse info buf wreck, .respFillBufWork stack wreck]
        = some s'
      ∧ (s'.slotOf info).bytes = eslAd (answerPayload d) ∧ (s'.slotOf info).status = .respFull

/-- Whatever the tag puts on the air in a step arrives. -/
def AnswerArrives (cfg : Config) (ead : Ead) (x : TagDevice × ParseHistory) (e : TagEvent) : Prop :=
  ∀ y, stepParse cfg ead x e = some y → ∀ r ∈ y.1.responses.drop x.1.responses.length,
    ∃ p, x.2.current = some p ∧ Arrives ead x.1 p r

/-- The stack encrypts a response. -/
def EncryptsResponse (ead : Ead) (d : TagDevice) : TagEvent → Prop
  | .parserStep rnd => d.ecpRspNetBuf ≠ [] →
      (encryptPayload ead rnd d.tag.assoc.eslRspKey d.ecpRspNetBuf).isSome
  | _ => True

/-- Packets and writes keep out of each other's way, and responses are encrypted. -/
structure Answerable (cfg : Config) (ead : Ead) (x : TagDevice × ParseHistory) (e : TagEvent) :
    Prop where
  orderly : Orderly cfg ead x e
  undisturbed : PacketUndisturbed cfg x.1 e
  encrypts : EncryptsResponse ead x.1 e

/-! ## The access point -/

/-- **A packet comes in** and is taken up: its payload lies in the slot. -/
lemma Ap.run_pawrResponse {apCfg : ApConfig} {ead : Ead} (hl : ead.Lawful) {s wreck : Ap}
    {stack : Mem} {info : ResponseInfo} {buf : NetBuf} {key : KeyMaterial} {payload : List UInt8}
    (hgroup : info.subevent.toNat < apCfg.maxGroup)
    (hslot : info.responseSlot.toNat < apCfg.maxResponseSlotBuffer)
    (hkey : (s.slotOf info).rspKey = key) (hp : payload.length ≤ eslSyncPktPayloadMaxLen)
    (h : IsPacketOf ead key payload buf.bytes) :
    ∃ s', run (Ap.step apCfg ead) s [.pawrResponse info buf wreck, .respFillBufWork stack wreck]
        = some s'
      ∧ (s'.slotOf info).bytes = eslAd payload ∧ (s'.slotOf info).status = .respFull := by
  have hmax : payload.length ≤ 48 := hp
  have hlen : buf.len = payload.length + 13 := (h.lengths hl).1
  set b := (s.syncBuf info.subevent.toNat).storeResponse apCfg info.responseSlot buf with hb
  have hbsafe : b.Safe := by
    simp only [hb, SyncBuffer.storeResponse, Traced.safe_bind, Traced.safe_access, Access.Safe,
      Traced.safe_pure, hslot, true_and, and_true]
    show 0 + buf.len ≤ 61
    omega
  have hreceived : s.pawrResponse apCfg info buf = (do
      Traced.access (.index apCfg.maxGroup info.subevent.toNat)
      let b ← b
      pure { s.updateGroup info.subevent.toNat fun _ => b with
        respInfo := info, respPending := true }) := by
    rw [Ap.pawrResponse, if_neg (by omega)]
  set s₁ : Ap := { s.updateGroup info.subevent.toNat fun _ => b.val with
    respInfo := info, respPending := true } with hs₁
  have hstep₁ : s.step apCfg ead (.pawrResponse info buf wreck) = some s₁ := by
    have hsafe : (s.pawrResponse apCfg info buf).Safe := by
      simp only [hreceived, Traced.safe_bind, Traced.safe_access, Access.Safe, Traced.safe_pure,
        hgroup, hbsafe, and_true]
    rw [Ap.step, orWreck_of_safe hsafe, hreceived]
    rfl
  -- the slot holds the packet, under the same key
  set r := b.val.rspBuffer info.responseSlot.toNat with hr
  have hpacket : IsPacketOf ead key payload r.bytes := by
    rw [show r.bytes = buf.bytes from bytes_storeResponse hl hp h]
    exact h
  have hrkey : r.rspKey = key := by
    simp only [hr, hb, SyncBuffer.storeResponse, Traced.val_bind, Traced.val_pure,
      Function.update_self]
    exact hkey
  obtain ⟨hsafe, hbytes, -, hstatus⟩ := hpacket.takeUp hl hp hrkey stack info.responseSlot
  have hstep₂ : s₁.step apCfg ead (.respFillBufWork stack wreck)
      = some (s₁.respFillBufWorkFn apCfg ead stack).val := by
    refine step_respFillBufWork_eq_some.mpr ⟨rfl, orWreck_of_safe ?_ _ _⟩
    simp only [hs₁, Ap.respFillBufWorkFn, SyncBuffer.respFillBufWorkFn, Traced.safe_bind,
      Traced.safe_access, Access.Safe, Traced.safe_pure, Ap.syncBuf_updateGroup_same, hgroup, hslot,
      true_and, and_true]
    exact hsafe
  have hslotOf : (s₁.respFillBufWorkFn apCfg ead stack).val.slotOf info
      = (r.takeUp ead stack info.responseSlot).val := by
    rw [Ap.slotOf, Ap.val_respFillBufWorkFn]
    simp [hs₁, SyncBuffer.respFillBufWorkFn, hr]
  refine ⟨_, ?_, by rw [hslotOf, hbytes], by rw [hslotOf, hstatus]⟩
  rw [run_cons, hstep₁, Option.bind_some, run_cons, hstep₂, Option.bind_some, run_nil]

/-! ## The contents of an answer -/

lemma ne_nil_of_isItem {xs : List UInt8} (h : IsItem ecpLen xs) : xs ≠ [] := by
  rintro rfl
  exact h

/-- There is always something to answer to a command. -/
lemma answerPayload_ne_nil {d : TagDevice} (h : packetAnswers d ≠ [])
    (hitem : ∀ x ∈ packetAnswers d, IsItem ecpLen x.response) : answerPayload d ≠ [] := by
  obtain ⟨xs, x, hxs⟩ := (List.eq_nil_or_concat (packetAnswers d)).resolve_left h
  rw [List.concat_eq_append] at hxs
  -- the last entry is the response to the last command, or the Error
  obtain ⟨ys, y, hys, hy⟩ : ∃ ys y, responseTlvs (packetAnswers d) = ys ++ [y] ∧ rspBytes y ≠ [] := by
    rw [responseTlvs, hxs, pushAll_concat, push]
    split
    · exact ⟨_, none, rfl, by simp [rspBytes]⟩
    · exact ⟨_, some x, rfl, ne_nil_of_isItem (hitem x (by simp [hxs]))⟩
  rw [answerPayload, hys, List.flatMap_append, List.flatMap_singleton]
  exact List.append_ne_nil_of_right_ne_nil _ hy

/-! ## The invariant -/

/-- The command in the slot is for the tag. -/
def ForTag (d : TagDevice) : Prop :=
  d.ecpNetBuf.len = ecpLen (d.ecpNetBuf.data 0)
    ∧ (d.ecpNetBuf.data 1 = d.tag.assoc.eslAddr.eslId ∨ d.ecpNetBuf.data 1 = eslAddrBroadcast)

/-- The log tells the commands of one packet from those of the next, and all of them are answered. -/
structure AnswerInv (x : TagDevice × ParseHistory) : Prop where
  served : ServedInv x
  path : PathInv x.1
  buffer : BufferInv x.1
  earlier : x.1.parser.isSome →
    pawrCommands ((x.1.log.executed.take x.1.log.packetStart).map (·.command))
      = x.2.answered.flatMap (·.1.commands)
  forTag : PawrQueued x.1 → ForTag x.1
  appended : ∀ ex ∈ x.1.log.executed, ex.command.src = .pawr →
    ex.isAppended = true ∧ IsItem ecpLen ex.response

namespace AnswerInv

variable {cfg : Config} {ead : Ead} {x y : TagDevice × ParseHistory} {e : TagEvent}

/-- A tag that has booted. -/
lemma boot (p : EslTag.BootParam) : AnswerInv (TagDevice.boot cfg p, {}) where
  served := .boot p
  path := ⟨by rintro _ ⟨⟩, le_rfl, by rintro ⟨⟩⟩
  buffer := ⟨le_rfl, by rintro ⟨⟩⟩
  earlier := by rintro ⟨⟩
  forTag := by rintro ⟨⟨⟩, -⟩
  appended := by rintro _ ⟨⟩

/-! ### What holds when a packet is answered -/

/-- **The answers of the packet** that is parsed are those to its commands. -/
lemma commands_packetAnswers (h : AnswerInv x) {p : ParsedPacket} (hp : x.2.current = some p)
    (hparser : x.1.parser.isSome) (hquiet : ¬ PawrQueued x.1) :
    (packetAnswers x.1).map (·.command) = p.commands := by
  have hall : pawrCommands (x.1.log.executed.map (·.command))
      = x.2.answered.flatMap (·.1.commands) ++ p.commands := by
    have hexecuted := h.served.packetsServed.executed
    have hnone : pawrCommands (queued x.1) = [] := by
      rw [queued]
      split
      · rename_i hpend
        have hsrc : x.1.ecpWorkSrc ≠ .pawr := fun hsrc => hquiet ⟨hpend, hsrc⟩
        simp [pawrCommands, hsrc]
      · rfl
    rw [hnone, List.append_nil, ParseHistory.commands, hp] at hexecuted
    exact hexecuted
  rw [← List.take_append_drop x.1.log.packetStart x.1.log.executed, List.map_append, pawrCommands,
    List.filter_append, ← pawrCommands, ← pawrCommands, h.earlier hparser] at hall
  rw [← List.append_cancel_left hall, packetAnswers, pawrCommands, List.filter_map]
  congr 1
  refine List.filter_congr fun ex hex => ?_
  have hmem : ex ∈ x.1.log.executed := List.mem_of_mem_drop hex
  rw [Function.comp_apply]
  by_cases hsrc : ex.command.src = .pawr
  · rw [(h.appended ex hmem hsrc).1, hsrc]
    rfl
  · -- only a command of a packet is answered in the buffer
    have hpath := h.path.onPath ex hmem
    have hnot : ex.isAppended = false := by
      cases hans : ex.answer with
      | appended value =>
          rw [Execution.OnPath, hans] at hpath
          exact absurd hpath hsrc
      | _ => simp [Execution.isAppended, hans]
    rw [hnot]
    simp [hsrc]

lemma isItem_packetAnswers (h : AnswerInv x) :
    ∀ ex ∈ packetAnswers x.1, IsItem ecpLen ex.response := by
  intro ex hex
  obtain ⟨hdrop, happ⟩ := List.mem_filter.mp hex
  have hmem : ex ∈ x.1.log.executed := List.mem_of_mem_drop hdrop
  refine (h.appended ex hmem ?_).2
  have hpath := h.path.onPath ex hmem
  cases hans : ex.answer with
  | appended value =>
      rw [Execution.OnPath, hans] at hpath
      exact hpath
  | _ => simp [Execution.isAppended, hans] at happ

/-- **The response of a packet arrives.** -/
lemma arrives (hl : ead.Lawful) (h : AnswerInv x) {p : ParsedPacket} (hp : x.2.current = some p)
    (hparser : x.1.parser.isSome) (hquiet : ¬ PawrQueued x.1) (hcommands : p.commands ≠ [])
    {rnd : Randomness} (henc : EncryptsResponse ead x.1 (.parserStep rnd)) {r : PawrResponse}
    (hr : r.data = composedPacket ead rnd x.1.paRsp x.1.ecpRspNetBuf x.1.tag.assoc.eslRspKey) :
    Arrives ead x.1 p r := by
  have hmap := h.commands_packetAnswers hp hparser hquiet
  have hbuf : x.1.ecpRspNetBuf = answerPayload x.1 := (h.path.buffer hparser).1
  have hne : answerPayload x.1 ≠ [] := by
    refine answerPayload_ne_nil ?_ h.isItem_packetAnswers
    intro hnil
    rw [hnil, List.map_nil] at hmap
    exact hcommands hmap.symm
  obtain ⟨ts, htlvs, hfits, -⟩ := h.buffer.buffer hparser
  rw [hbuf] at htlvs hfits
  have hpacket : IsPacketOf ead x.1.tag.assoc.eslRspKey (answerPayload x.1) r.data := by
    rw [EncryptsResponse, hbuf] at henc
    rw [hr, hbuf]
    exact hl.isPacketOf_eslComposeAdData _ hne hfits (henc hne)
  refine ⟨hmap, h.isItem_packetAnswers, ⟨ts, htlvs⟩, ?_, ?_⟩
  · intro htotal
    rw [answerPayload, responseTlvs, pushAll_fits htotal, List.flatMap_map]
    rfl
  · intro apCfg s wreck stack info buf hgroup hslot hkey hdata
    exact Ap.run_pawrResponse hl hgroup hslot hkey hfits (hdata ▸ hpacket)

/-! ### One step -/

/-- The other events leave the slot alone. -/
lemma sameSlot_step {d d' : TagDevice} (h : d.step cfg ead e = some d')
    (hwrite : ∀ w, e ≠ .eslControlWrite w) (hrun : ∀ env, e ≠ .ecpWork env)
    (hwork : ∀ stack, e ≠ .pawrSyncWork stack) (hparser : ∀ rnd, e ≠ .parserStep rnd)
    (hboot : ∀ p, e ≠ .reboot p) : SameSlot d d' := by
  cases e with
  | eslControlWrite w => exact absurd rfl (hwrite w)
  | ecpWork env => exact absurd rfl (hrun env)
  | pawrSyncWork stack => exact absurd rfl (hwork stack)
  | parserStep rnd => exact absurd rfl (hparser rnd)
  | reboot p => exact absurd rfl (hboot p)
  | notifySent =>
      obtain ⟨n, rest, -, rfl⟩ := step_notifySent_eq_some.mp h
      exact sameSlot_notifyComplete _ _
  | recvCb counter subevent buf =>
      cases h
      exact sameSlot_recvCb _ _ _
  | stateTimeout =>
      obtain ⟨-, rfl⟩ := step_stateTimeout_eq_some.mp h
      exact sameSlot_onTag _
  | ledWork idx =>
      obtain ⟨-, rfl⟩ := step_ledWork_eq_some.mp h
      exact sameSlot_onTag _
  | displayWork idx =>
      obtain ⟨-, rfl⟩ := step_displayWork_eq_some.mp h
      exact sameSlot_onTag _
  | advWork =>
      obtain ⟨-, rfl⟩ := step_advWork_eq_some.mp h
      exact sameSlot_onTag _
  | _ =>
      cases h
      exact sameSlot_onTag _

/-- A command waits on, and the address of the tag stays. -/
lemma forTag_of_waits (h : AnswerInv x) (hserved : ServedInv y)
    (hbuf : y.1.ecpNetBuf = x.1.ecpNetBuf) (hq : PawrQueued y.1 → PawrQueued x.1)
    (haddr : x.1.parser.isSome → y.1.parser.isSome → y.1.tag.assoc.eslAddr = x.1.tag.assoc.eslAddr) :
    PawrQueued y.1 → ForTag y.1 := by
  intro hwaits
  obtain ⟨f, hf, -⟩ := h.served.waits (hq hwaits)
  obtain ⟨g, hg, -⟩ := hserved.waits hwaits
  rw [ForTag, hbuf, haddr (by rw [hf]; rfl) (by rw [hg]; rfl)]
  exact h.forTag (hq hwaits)

/-- An event that leaves log and packets alone. -/
lemma same (h : AnswerInv x) (hserved : ServedInv y) (hpath : PathInv y.1) (hbuffer : BufferInv y.1)
    (hexec : y.1.log.executed = x.1.log.executed) (hstart : y.1.log.packetStart = x.1.log.packetStart)
    (hparser : y.1.parser.isSome → x.1.parser.isSome) (hy : y.2 = x.2)
    (hforTag : PawrQueued y.1 → ForTag y.1) : AnswerInv y := by
  refine ⟨hserved, hpath, hbuffer, ?_, hforTag, by rw [hexec]; exact h.appended⟩
  intro hsome
  rw [hexec, hstart, hy]
  exact h.earlier (hparser hsome)

/-- The handler runs a command. -/
lemma ecpWork (h : AnswerInv x) {env : HandlerEnv} (henv : env.MatchesNibble cfg)
    (hpend : x.1.ecpWorkPending = true) (hd : x.1.ecpCommandHandler cfg env = y.1) (hy : y.2 = x.2)
    (hserved : ServedInv y) (hpath : PathInv y.1) (hbuffer : BufferInv y.1) : AnswerInv y := by
  obtain ⟨ex, hex⟩ := handlerRun cfg env x.1
  have hlog := hex.log
  have hidle := hex.idle
  have hparser := hex.parser
  rw [hd] at hlog hidle hparser
  refine ⟨hserved, hpath, hbuffer, ?_, ?_, ?_⟩
  · intro hsome
    rw [hparser] at hsome
    rw [hlog, hy]
    simp only
    rw [List.take_append_of_le_length h.path.start]
    exact h.earlier hsome
  · intro hq
    rw [PawrQueued, hidle] at hq
    cases hq.1
  · intro ex' hex' hsrc
    rw [hlog] at hex'
    rcases List.mem_append.mp hex' with hex' | hex'
    · exact h.appended ex' hex' hsrc
    · obtain rfl := List.mem_singleton.mp hex'
      -- a command of a packet is for the tag, so it was answered
      rw [hex.command] at hsrc
      have hans : (x.1.tag.executeCommand cfg x.1.ecpNetBuf).2 = true :=
        EslTag.executeCommand_answered (h.forTag ⟨hpend, hsrc⟩).1 (h.forTag ⟨hpend, hsrc⟩).2
      have hrun := congrArg (fun d : TagDevice => d.log.executed)
        (ecpCommandHandler_pawr env hsrc hans)
      simp only [hd, hlog] at hrun
      obtain rfl := List.singleton_inj.mp (List.append_cancel_left hrun)
      exact ⟨rfl, isItem_response henv _ _⟩

/-- The worker marks where a packet begins. -/
lemma log_pawrSyncWorkFn {d : TagDevice} (stack : Mem) (hidle : d.parser = none) :
    (d.pawrSyncWorkFn cfg ead stack).log.executed = d.log.executed
      ∧ ((d.pawrSyncWorkFn cfg ead stack).parser.isSome →
        (d.pawrSyncWorkFn cfg ead stack).log.packetStart = d.log.executed.length) := by
  simp only [pawrSyncWorkFn]
  split
  · set d₁ : TagDevice :=
      { d with pawrSyncWork := { d.pawrSyncWork with
          pending := false
          buf := (decryptPacket ead d.tag.assoc.eslApKey stack d.pawrSyncWork.buf).val.2 } }
    rcases slotStep_beginPacket d₁ hidle with ⟨hs, hnone⟩ | ⟨hs, -, hstart, hsome⟩
    · rw [hnone]
      exact ⟨congrArg CommandLog.executed hs.log,
        fun hsome => absurd hsome (by simp [renewTimeout, hnone])⟩
    · rw [if_pos hsome]
      exact ⟨hs.executed, fun _ => hstart⟩
  · exact ⟨rfl, fun hsome => absurd hsome (by simp [hidle])⟩

/-- The worker takes up a packet, or not. -/
lemma pawrSyncWork (h : AnswerInv x) {stack : Mem}
    (hd : x.1.step cfg ead (.pawrSyncWork stack) = some y.1)
    (hy : y.2 = parseHistoryAfter x.1 (.pawrSyncWork stack) y.1 x.2)
    (hserved : ServedInv y) (hpath : PathInv y.1) (hbuffer : BufferInv y.1) : AnswerInv y := by
  obtain ⟨hready, hd'⟩ := step_pawrSyncWork_eq_some.mp hd
  have hanswered : y.2.answered = x.2.answered := by
    rw [hy]
    simp only [parseHistoryAfter]
    split <;> rfl
  have hquiet : ¬ PawrQueued x.1 := by
    intro hq
    obtain ⟨f, hf, -⟩ := h.served.waits hq
    rw [hready.2] at hf
    cases hf
  have hn : NoDispatch x.1 y.1 := noDispatch_step hd (by rintro _ ⟨⟩) (by rintro _ ⟨⟩)
  have hidle : x.2.current = none := h.served.idle hready.2
  -- all packets so far are answered, and their commands executed
  have hall : pawrCommands (x.1.log.executed.map (·.command))
      = x.2.answered.flatMap (·.1.commands) := by
    have hexecuted := h.served.packetsServed.executed
    rw [h.served.packetsServed.settled hidle, List.append_nil, ParseHistory.commands,
      hidle] at hexecuted
    simpa using hexecuted
  have hlog := @log_pawrSyncWorkFn cfg ead _ stack hready.2
  rw [hd'] at hlog
  refine ⟨hserved, hpath, hbuffer, ?_, fun hq => absurd (hn.queued hq) hquiet, ?_⟩
  · intro hsome
    rw [hlog.1, hlog.2 hsome, List.take_length, hanswered]
    exact hall
  · rw [hlog.1]
    exact h.appended

/-- The parser makes a turn. -/
lemma parserStep (h : AnswerInv x) {rnd : Randomness}
    (hd : x.1.step cfg ead (.parserStep rnd) = some y.1)
    (hy : y.2 = parseHistoryAfter x.1 (.parserStep rnd) y.1 x.2)
    (hserved : ServedInv y) (hpath : PathInv y.1) (hbuffer : BufferInv y.1) : AnswerInv y := by
  have hturn : x.1.parserStep cfg ead rnd = some y.1 := hd
  cases hf : x.1.parser with
  | none =>
      rw [TagDevice.parserStep, hf] at hturn
      cases hturn
  | some f =>
      obtain ⟨p, -, hp, -⟩ := h.served.parsing f hf
      have hsome : x.1.parser.isSome := by rw [hf]; rfl
      have hgoes : y.1.parser.isSome → y.1.log.executed = x.1.log.executed →
          y.1.log.packetStart = x.1.log.packetStart →
          pawrCommands ((y.1.log.executed.take y.1.log.packetStart).map (·.command))
            = y.2.answered.flatMap (·.1.commands) := by
        intro hy₁ hexec hstart
        have hanswered : y.2.answered = x.2.answered := by
          rw [hy]
          simp only [parseHistoryAfter, hp, hy₁, if_true]
        rw [hexec, hstart, hanswered]
        exact h.earlier hsome
      have hquiet : y.1.parser = none → ¬ PawrQueued y.1 := by
        intro hnone hq
        obtain ⟨g, hg, -⟩ := hserved.waits hq
        rw [hnone] at hg
        cases hg
      -- the queue only changes when a TLV is dispatched
      have hend : ∀ g, x.1.endPacket cfg ead rnd g = y.1 → AnswerInv y := by
        intro g hend
        have hnone : y.1.parser = none := by rw [← hend]; rfl
        have hexec : y.1.log.executed = x.1.log.executed := by
          rw [← hend, endPacket, setPawrResponse]
          split <;> rfl
        refine ⟨hserved, hpath, hbuffer, ?_, fun hq => absurd hq (hquiet hnone), ?_⟩
        · rw [hnone]
          rintro ⟨⟩
        · rw [hexec]
          exact h.appended
      have hmove := parserMove hf hturn
      generalize hy₁ : y.1 = d' at hmove
      cases hmove with
      | goOn cpLen hw hidle hfit =>
          refine ⟨hserved, hpath, hbuffer, ?_, ?_, ?_⟩
          · exact fun hparser => hgoes hparser (by rw [hy₁]; rfl) (by rw [hy₁]; rfl)
          · rw [hy₁]
            intro hq
            have hpend : x.1.ecpWorkPending = true := hq.1
            rw [hidle] at hpend
            cases hpend
          · rw [hy₁]
            exact h.appended
      | stop cpLen hw hidle hover => exact hend _ hy₁.symm
      | dispatch hw hlt ha =>
          refine ⟨hserved, hpath, hbuffer, ?_, ?_, ?_⟩
          · exact fun hparser => hgoes hparser (by rw [hy₁]; rfl) (by rw [hy₁]; rfl)
          · rw [hy₁]
            exact fun _ => ⟨rfl, ha⟩
          · rw [hy₁]
            exact h.appended
      | skip hw hlt ha hfit =>
          refine ⟨hserved, hpath, hbuffer, ?_, ?_, ?_⟩
          · exact fun hparser => hgoes hparser (by rw [hy₁]; rfl) (by rw [hy₁]; rfl)
          · rw [hy₁]
            intro hq
            obtain ⟨g, hg, hne⟩ := h.served.waits hq
            rw [hf] at hg
            cases hg
            exact absurd hw hne
          · rw [hy₁]
            exact h.appended
      | skipStop hw hlt ha hover => exact hend _ hy₁.symm
      | finish hw hover => exact hend _ hy₁.symm

/-- **One step.** -/
theorem preserved : PreservedUnder (stepParse cfg ead)
    (fun x e => Answerable cfg ead x e ∧ e.MatchesNibble cfg) AnswerInv := by
  intro x e y h hg hstep
  obtain ⟨hd, hy⟩ := withHistory_eq_some.mp hstep
  have hserved : ServedInv y := ServedInv.preserved _ _ _ h.served hg.1.orderly hstep
  have hpath : PathInv y.1 := h.path.step hg.1.undisturbed hd
  have hbuffer : BufferInv y.1 := h.buffer.step hg.2 hd
  have hother : (∀ w, e ≠ .eslControlWrite w) → (∀ env, e ≠ .ecpWork env) →
      (∀ stack, e ≠ .pawrSyncWork stack) → (∀ rnd, e ≠ .parserStep rnd) → (∀ p, e ≠ .reboot p) →
      parseHistoryAfter x.1 e y.1 x.2 = x.2 → AnswerInv y := by
    intro h₁ h₂ h₃ h₄ h₅ hh
    have hs : SameSlot x.1 y.1 := sameSlot_step hd h₁ h₂ h₃ h₄ h₅
    refine h.same hserved hpath hbuffer (by rw [hs.log]) (by rw [hs.log])
      (fun hsome => hs.parser ▸ hsome) (hy.trans hh) ?_
    exact h.forTag_of_waits hserved hs.ecpNetBuf hs.noDispatch.queued (hg.1.orderly.address y.1 hd)
  cases e with
  | eslControlWrite w =>
      have hw : (x.1.eslControlWrite w).2 = y.1 := Option.some.inj hd
      have hy₂ : y.2 = x.2 := hy
      by_cases hlen : w.buf.len < 2
      · rw [eslControlWrite, if_pos hlen] at hw
        refine h.same hserved hpath hbuffer (by rw [← hw]) (by rw [← hw]) (by rw [← hw]; exact id)
          hy₂ ?_
        rw [← hw]
        exact h.forTag
      · rw [eslControlWrite, if_neg hlen] at hw
        refine h.same hserved hpath hbuffer (by rw [← hw]) (by rw [← hw]) (by rw [← hw]; exact id)
          hy₂ ?_
        rw [← hw]
        rintro ⟨-, ⟨⟩⟩
  | ecpWork env =>
      obtain ⟨hpend, hrun⟩ := step_ecpWork_eq_some.mp hd
      exact h.ecpWork hg.2 hpend hrun hy hserved hpath hbuffer
  | pawrSyncWork stack => exact h.pawrSyncWork hd hy hserved hpath hbuffer
  | parserStep rnd => exact h.parserStep hd hy hserved hpath hbuffer
  | reboot p =>
      have hboot : y = (TagDevice.boot cfg { p with settings := x.1.tag.assoc.settings }, {}) :=
        Prod.ext (Option.some.inj hd).symm hy
      rw [hboot]
      exact .boot _
  | _ =>
      exact hother (by rintro _ ⟨⟩) (by rintro _ ⟨⟩) (by rintro _ ⟨⟩) (by rintro _ ⟨⟩)
        (by rintro _ ⟨⟩) rfl

/-- The response that a packet ends with. -/
lemma responses_endPacket {d : TagDevice} {rnd : Randomness} {f : ParserFrame} {r : PawrResponse}
    (h : r ∈ (d.endPacket cfg ead rnd f).responses.drop d.responses.length) :
    (d.endPacket cfg ead rnd f).responses = d.responses ++ [r] ∧ r.responseSlot ≠ -1
      ∧ r.data = composedPacket ead rnd d.paRsp d.ecpRspNetBuf d.tag.assoc.eslRspKey := by
  rw [endPacket, setPawrResponse] at h ⊢
  split at h
  · simp [renewTimeout] at h
  · rename_i hslot
    simp only [renewTimeout, List.drop_left, List.mem_singleton] at h
    rw [h, if_neg hslot]
    exact ⟨rfl, hslot, rfl⟩

/-- The packet that a response ends is answered in its slot. -/
lemma answered_of_endPacket {rnd : Randomness} {p : ParsedPacket} (hp : x.2.current = some p)
    (hy : y.2 = parseHistoryAfter x.1 (.parserStep rnd) y.1 x.2) (hnone : y.1.parser = none)
    (hlog : y.1.log = x.1.log) {r : PawrResponse} (hr : y.1.responses = x.1.responses ++ [r]) :
    (p, r.responseSlot) ∈ y.2.answered := by
  rw [hy]
  simp only [parseHistoryAfter, hp, hnone, hlog, List.drop_length, List.append_nil,
    Option.isSome_none, hr, List.getElem?_concat_length, Option.elim_some]
  exact List.mem_concat_self

/-- A packet that is answered had a command for the tag. -/
lemma commands_ne_nil {p : ParsedPacket} {slot : ℤ} (hserved : ServedInv y)
    (ha : (p, slot) ∈ y.2.answered) (hslot : slot ≠ -1) : p.commands ≠ [] := by
  obtain ⟨tlvs, -, hcommands, hown⟩ := hserved.answered _ ha
  rcases hown with ⟨heq, -⟩ | ⟨i, t, -, ht, hid, -⟩
  · exact absurd heq hslot
  · have hmem : t ∈ addressed p.address.eslId tlvs :=
      List.mem_filter.mpr ⟨List.mem_of_getElem? ht, by simp [hid]⟩
    rw [hcommands]
    exact List.ne_nil_of_mem (List.mem_map_of_mem hmem)

/-- Only the parser puts a response on the air. -/
lemma responses_step {d d' : TagDevice} (h : d.step cfg ead e = some d')
    (hparser : ∀ rnd, e ≠ .parserStep rnd) : d'.responses.drop d.responses.length = [] := by
  have hdrop : d'.responses = d.responses → d'.responses.drop d.responses.length = [] := by
    intro hresp
    rw [hresp, List.drop_length]
  cases e with
  | recvCb counter subevent buf =>
      cases h
      refine hdrop ?_
      simp only [recvCb]
      split
      · rfl
      · split <;> split <;> rfl
  | pawrSyncWork stack =>
      obtain ⟨hready, rfl⟩ := step_pawrSyncWork_eq_some.mp h
      exact hdrop (@pawrSyncWorkFn_spec cfg ead d stack hready.2).1
  | parserStep rnd => exact absurd rfl (hparser rnd)
  | reboot p =>
      cases h
      exact List.drop_nil
  | _ =>
      exact hdrop (sameReception_step h (by rintro _ _ _ ⟨⟩) (by rintro _ ⟨⟩) (by rintro _ ⟨⟩)
        (by rintro _ ⟨⟩)).responses

/-- What ends with a response: a packet all of whose commands have run. -/
structure Answers (ead : Ead) (x y : TagDevice × ParseHistory) (e : TagEvent) (p : ParsedPacket)
    (r : PawrResponse) : Prop where
  parser : x.1.parser.isSome
  current : x.2.current = some p
  quiet : ¬ PawrQueued x.1
  answered : (p, r.responseSlot) ∈ y.2.answered
  slot : r.responseSlot ≠ -1
  data : ∃ rnd, e = .parserStep rnd
    ∧ r.data = composedPacket ead rnd x.1.paRsp x.1.ecpRspNetBuf x.1.tag.assoc.eslRspKey

/-- A response goes on the air when its packet ends. -/
lemma answers (h : ServedInv x) (hstep : stepParse cfg ead x e = some y) {r : PawrResponse}
    (hr : r ∈ y.1.responses.drop x.1.responses.length) : ∃ p, Answers ead x y e p r := by
  obtain ⟨hd, hy⟩ := withHistory_eq_some.mp hstep
  cases e with
  | parserStep rnd =>
      have hturn : x.1.parserStep cfg ead rnd = some y.1 := hd
      cases hf : x.1.parser with
      | none =>
          rw [TagDevice.parserStep, hf] at hturn
          cases hturn
      | some f =>
          obtain ⟨p, -, hp, -⟩ := h.parsing f hf
          have hwaits : f.waiting = none → ¬ PawrQueued x.1 := by
            intro hw hq
            obtain ⟨g, hg, hne⟩ := h.waits hq
            rw [hf] at hg
            cases hg
            exact hne hw
          have hend : ∀ g, x.1.endPacket cfg ead rnd g = y.1 → ¬ PawrQueued x.1 →
              ∃ p, Answers ead x y (.parserStep rnd) p r := by
            intro g hend hquiet
            rw [← hend] at hr
            obtain ⟨hresp, hslot, hdata⟩ := responses_endPacket hr
            have hlog : y.1.log = x.1.log := by
              rw [← hend, endPacket, setPawrResponse]
              split <;> rfl
            have ha : (p, r.responseSlot) ∈ y.2.answered :=
              answered_of_endPacket hp hy (by rw [← hend]; rfl) hlog (by rw [← hend, hresp])
            exact ⟨p, by rw [hf]; rfl, hp, hquiet, ha, hslot, rnd, rfl, hdata⟩
          have hsame : y.1.responses = x.1.responses →
              ∃ p, Answers ead x y (.parserStep rnd) p r := by
            intro hresp
            rw [hresp, List.drop_length] at hr
            cases hr
          have hmove := parserMove hf hturn
          generalize hy₁ : y.1 = d' at hmove
          cases hmove with
          | goOn cpLen hw hidle hfit => exact hsame (by rw [hy₁]; rfl)
          | stop cpLen hw hidle hover =>
              refine hend _ hy₁.symm fun hq => ?_
              rw [hq.1] at hidle
              cases hidle
          | dispatch hw hlt ha => exact hsame (by rw [hy₁]; rfl)
          | skip hw hlt ha hfit => exact hsame (by rw [hy₁]; rfl)
          | skipStop hw hlt ha hover => exact hend _ hy₁.symm (hwaits hw)
          | finish hw hover => exact hend _ hy₁.symm (hwaits hw)
  | _ =>
      rw [responses_step hd (by rintro _ ⟨⟩)] at hr
      cases hr

/-- **Whatever goes on the air arrives.** -/
lemma answerArrives (hl : ead.Lawful) (h : AnswerInv x) (hg : Answerable cfg ead x e)
    (hstep : stepParse cfg ead x e = some y) : AnswerArrives cfg ead x e := by
  intro y' hstep' r hr
  obtain rfl : y = y' := Option.some.inj (hstep.symm.trans hstep')
  obtain ⟨p, ha⟩ := answers h.served hstep hr
  have hserved : ServedInv y := ServedInv.preserved _ _ _ h.served hg.orderly hstep
  obtain ⟨rnd, rfl, hdata⟩ := ha.data
  have hne : p.commands ≠ [] := commands_ne_nil hserved ha.answered ha.slot
  exact ⟨p, ha.current, h.arrives hl ha.current ha.parser ha.quiet hne hg.encrypts hdata⟩

end AnswerInv

/-- **Commands out, responses back.**  In every run in which packets and writes keep out of each other's
way and the stack encrypts, every response a tag puts on the air carries the answers to the commands of
its packet, and every access point with the key finds them in the slot. -/
theorem arrives_of_answerable (cfg : Config) (ead : Ead) (hl : ead.Lawful) (p : EslTag.BootParam)
    (es : List TagEvent) (henv : ∀ e ∈ es, e.MatchesNibble cfg)
    (hG : StepsMeet (stepParse cfg ead) (Answerable cfg ead) (TagDevice.boot cfg p, {}) es) :
    StepsMeet (stepParse cfg ead) (AnswerArrives cfg ead) (TagDevice.boot cfg p, {}) es :=
  (hG.and (.of_forall_mem henv)).strengthen AnswerInv.preserved
    (fun _ _ _ h hg hstep => h.answerArrives hl hg.1 hstep) (.boot p)

/-! ### One exchange -/

instance (ead : Ead) (d : TagDevice) (e : TagEvent) : Decidable (EncryptsResponse ead d e) :=
  match e with
  | .parserStep _ => inferInstanceAs (Decidable (_ → _ = true))
  | .tick _ | .connected _ | .disconnected _ | .securityChanged _ | .eslAddrWrite _ | .apKeyWrite _
  | .eslRspKeyWrite _ | .absTimeWrite _ | .eslControlWrite _ | .ecpWork _ | .notifySent | .syncCb
  | .termCb | .recvCb _ _ _ | .pawrSyncWork _ | .stateTimeout | .ledWork _ | .displayWork _
  | .advWork | .imageWritten _ _ | .factoryReset | .unassociate | .busy | .reboot _ => isTrue trivial

instance (cfg : Config) (ead : Ead) (x : TagDevice × ParseHistory) (e : TagEvent) :
    Decidable (Answerable cfg ead x e) :=
  decidable_of_iff (Orderly cfg ead x e ∧ PacketUndisturbed cfg x.1 e ∧ EncryptsResponse ead x.1 e)
    ⟨fun h => ⟨h.1, h.2.1, h.2.2⟩, fun h => ⟨h.orderly, h.undisturbed, h.encrypts⟩⟩

/-- The answers to three of the TLVs of a packet arrive, and a write comes behind it. -/
theorem arrives_commandsInTurn :
    StepsMeet (stepParse .sample .clear) (AnswerArrives .sample .clear) (TagDevice.boot .sample {}, {})
        commandsInTurn
      ∧ (run (stepParse .sample .clear) (TagDevice.boot .sample {}, {}) commandsInTurn).map
          (fun x => x.1.responses.map (·.data.length)) = some [21] := by
  have hquiet : HandlerEnv.MatchesNibble .sample {} := ⟨by rintro _ _ _ ⟨⟩, by rintro ⟨⟩⟩
  have henv : ∀ e ∈ commandsInTurn, e.MatchesNibble .sample := by
    refine List.forall_iff_forall_mem.mp ?_
    simp only [commandsInTurn, configuredAndUpdating, List.take, List.cons_append, List.nil_append,
      List.Forall]
    exact ⟨trivial, trivial, trivial, trivial, trivial, trivial, hquiet, trivial, trivial, trivial,
      trivial, trivial, trivial, trivial, hquiet, trivial, trivial, hquiet, trivial, trivial, trivial,
      hquiet, trivial, trivial, trivial, hquiet, trivial⟩
  exact ⟨arrives_of_answerable .sample .clear Ead.lawful_clear {} _ henv (by decide +kernel),
    by decide +kernel⟩

end NrfEsl
