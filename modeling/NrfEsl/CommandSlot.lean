import NrfEsl.ResponseSequence

/-!
# The command slot

A Control Point write and the parser of a packet hand their command to the work queue through one
buffer, one source flag and one work item.  The slot holds one command (`queued`).

* **Exactly once** — `ExactlyOnce`: the accepted commands are the executed ones, in order and with
  their bytes and path, followed by the queued one.  It holds along a run exactly when no command
  is accepted while another one is queued (`OneAtATime`).  The parser waits for its own commands
  only, and a write does not look at the slot at all.
* **On its path** — `AnsweredOnPath`: a run for a write notifies, a run for a TLV puts its response
  in the buffer of the packet, and that buffer holds the responses of the packet and nothing else.
  It holds along a run in which no answered write is executed while a packet is being parsed
  (`PacketUndisturbed`); such a run clears the buffer and leaves its own response there.

Every event changes the slot in one of seven ways (`SlotStep`).
-/

namespace NrfEsl

open TagDevice RollbackBuffer Tiling TransitionSystem

/-! ## What is to hold -/

/-- The command that waits in the slot. -/
def queued (d : TagDevice) : List Command :=
  if d.ecpWorkPending then [⟨d.ecpWorkSrc, d.ecpNetBuf.bytes⟩] else []

/-- Every accepted command has been executed once, in order, or is the queued one. -/
def ExactlyOnce (d : TagDevice) : Prop :=
  d.log.accepted = d.log.executed.map (·.command) ++ queued d

instance (d : TagDevice) : Decidable (ExactlyOnce d) := inferInstanceAs (Decidable (_ = _))

/-- A run answers on the path of its command.  By design there is no answer to another tag's
command and to a Factory Reset that was carried out. -/
def Execution.OnPath (x : Execution) : Prop :=
  match x.answer with
  | .notified _ => x.command.src = .ecp
  | .appended _ => x.command.src = .pawr
  | .foreign => x.command.bytes[1]? ≠ some eslAddrBroadcast
  | .factoryReset =>
      x.command.src = .ecp ∧ x.command.bytes[0]? = some EslOpCode.factoryReset.toByte

/-- The run put a response in the buffer of a packet. -/
def Execution.isAppended (x : Execution) : Bool :=
  match x.answer with
  | .appended _ => true
  | _ => false

/-- The runs that answered TLVs of the current packet. -/
def packetAnswers (d : TagDevice) : List Execution :=
  (d.log.executed.drop d.log.packetStart).filter Execution.isAppended

/-- Every run answered on its path, and the responses of the packet being parsed are in its
buffer. -/
def AnsweredOnPath (d : TagDevice) : Prop :=
  (∀ x ∈ d.log.executed, x.OnPath)
    ∧ (d.parser.isSome → d.ecpRspNetBuf = (responseTlvs (packetAnswers d)).flatMap rspBytes)

/-- The parser is about to dispatch a TLV. -/
def Dispatches (d : TagDevice) : Prop :=
  ∃ f, d.parser = some f ∧ f.waiting = none ∧ f.cur < f.payloadLen ∧ Addressed f d

/-- A command is only accepted while none is queued. -/
def OneAtATime (d : TagDevice) : TagEvent → Prop
  | .eslControlWrite w => 2 ≤ w.buf.len → d.ecpWorkPending = false
  | .parserStep _ => Dispatches d → d.ecpWorkPending = false
  | _ => True

/-- While a packet is being parsed no write is executed that gets an answer. -/
def PacketUndisturbed (cfg : Config) (d : TagDevice) : TagEvent → Prop
  | .ecpWork _ => d.parser.isSome → d.ecpWorkSrc = .ecp →
      (d.tag.executeCommand cfg d.ecpNetBuf).2 = false
  | _ => True

instance (d : TagDevice) : Decidable (Dispatches d) :=
  match h : d.parser with
  | none => isFalse (by
      rintro ⟨f, hf, -⟩
      rw [h] at hf
      cases hf)
  | some f => decidable_of_iff (f.waiting = none ∧ f.cur < f.payloadLen ∧ Addressed f d) (by
      rw [Dispatches, h]
      simp)

instance (d : TagDevice) (e : TagEvent) : Decidable (OneAtATime d e) :=
  match e with
  | .eslControlWrite w => inferInstanceAs (Decidable (2 ≤ w.buf.len → d.ecpWorkPending = false))
  | .parserStep _ => inferInstanceAs (Decidable (Dispatches d → d.ecpWorkPending = false))
  | .tick _ | .connected _ | .disconnected _ | .securityChanged _ | .eslAddrWrite _ | .apKeyWrite _
  | .eslRspKeyWrite _ | .absTimeWrite _ | .ecpWork _ | .notifySent | .syncCb | .termCb | .recvCb _ _ _
  | .pawrSyncWork _ | .stateTimeout | .ledWork _ | .displayWork _ | .advWork | .imageWritten _ _
  | .factoryReset | .unassociate | .busy | .reboot _ => isTrue trivial

instance (cfg : Config) (d : TagDevice) (e : TagEvent) : Decidable (PacketUndisturbed cfg d e) :=
  match e with
  | .ecpWork _ => inferInstanceAs (Decidable (_ → _ → _ = false))
  | .tick _ | .connected _ | .disconnected _ | .securityChanged _ | .eslAddrWrite _ | .apKeyWrite _
  | .eslRspKeyWrite _ | .absTimeWrite _ | .eslControlWrite _ | .notifySent | .syncCb | .termCb
  | .recvCb _ _ _ | .pawrSyncWork _ | .parserStep _ | .stateTimeout | .ledWork _ | .displayWork _
  | .advWork | .imageWritten _ _ | .factoryReset | .unassociate | .busy | .reboot _ => isTrue trivial

/-! ## What an event may do to the slot -/

/-- The slot, the buffers of the packet and the log are as before. -/
structure SameSlot (d d' : TagDevice) : Prop where
  ecpNetBuf : d'.ecpNetBuf = d.ecpNetBuf
  ecpWorkSrc : d'.ecpWorkSrc = d.ecpWorkSrc
  ecpWorkPending : d'.ecpWorkPending = d.ecpWorkPending
  ecpRspNetBuf : d'.ecpRspNetBuf = d.ecpRspNetBuf
  ecpRspLastTlvLen : d'.ecpRspLastTlvLen = d.ecpRspLastTlvLen
  parser : d'.parser.isSome = d.parser.isSome
  log : d'.log = d.log

/-- Only the parser and its buffer change, and the mark in the log where its packet began. -/
structure SameQueue (d d' : TagDevice) : Prop where
  ecpNetBuf : d'.ecpNetBuf = d.ecpNetBuf
  ecpWorkSrc : d'.ecpWorkSrc = d.ecpWorkSrc
  ecpWorkPending : d'.ecpWorkPending = d.ecpWorkPending
  accepted : d'.log.accepted = d.log.accepted
  executed : d'.log.executed = d.log.executed

/-- The ways an event may change the slot. -/
inductive SlotStep (cfg : Config) (d : TagDevice) : TagEvent → TagDevice → Prop
  | same {e d'} (h : SameSlot d d') : SlotStep cfg d e d'
  | write {w} (hlen : 2 ≤ w.buf.len) : SlotStep cfg d (.eslControlWrite w) (d.eslControlWrite w).2
  | run {env} (hpend : d.ecpWorkPending = true) :
      SlotStep cfg d (.ecpWork env) (d.ecpCommandHandler cfg env)
  | begin {e d'} (h : SameQueue d d') (hbuf : d'.ecpRspNetBuf = [])
      (hstart : d'.log.packetStart = d.log.executed.length) : SlotStep cfg d e d'
  | dispatch {rnd f p} (hdisp : Dispatches d) :
      SlotStep cfg d (.parserStep rnd) ((d.dispatchTlv f).withParser p)
  | finish {e d'} (h : SameQueue d d') (hparser : d'.parser = none)
      (hstart : d'.log.packetStart = d.log.packetStart) : SlotStep cfg d e d'
  | reboot {e p} : SlotStep cfg d e (boot cfg p)

section Step

variable {cfg : Config} {ead : Ead} {d d' : TagDevice}

lemma SameSlot.rfl : SameSlot d d := by constructor <;> rfl

lemma sameSlot_onTag (f : EslTag → EslTag) : SameSlot d (d.onTag f) := by constructor <;> rfl

lemma sameSlot_recvCb (counter subevent buf) : SameSlot d (d.recvCb cfg counter subevent buf) := by
  simp only [recvCb]
  split
  · exact .rfl
  · split <;> split <;> constructor <;> rfl

lemma sameSlot_notifyComplete (rest : List Notification) (func : NotifyFunc) :
    SameSlot d ({ d with notifications := rest }.notifyComplete cfg func) := by
  cases func <;> constructor <;> rfl

lemma SameSlot.trans {d₁ d₂ : TagDevice} (h₁ : SameSlot d d₁) (h₂ : SameSlot d₁ d₂) :
    SameSlot d d₂ where
  ecpNetBuf := h₂.ecpNetBuf.trans h₁.ecpNetBuf
  ecpWorkSrc := h₂.ecpWorkSrc.trans h₁.ecpWorkSrc
  ecpWorkPending := h₂.ecpWorkPending.trans h₁.ecpWorkPending
  ecpRspNetBuf := h₂.ecpRspNetBuf.trans h₁.ecpRspNetBuf
  ecpRspLastTlvLen := h₂.ecpRspLastTlvLen.trans h₁.ecpRspLastTlvLen
  parser := h₂.parser.trans h₁.parser
  log := h₂.log.trans h₁.log

/-- An idle parser takes up a packet, or leaves the slot alone. -/
lemma slotStep_beginPacket (d : TagDevice) (hidle : d.parser = none) :
    (SameSlot d d.beginPacket ∧ d.beginPacket.parser = none)
      ∨ (SameQueue d d.beginPacket ∧ d.beginPacket.ecpRspNetBuf = []
        ∧ d.beginPacket.log.packetStart = d.log.executed.length
        ∧ d.beginPacket.parser.isSome) := by
  by_cases had : IsEslAd d.pawrSyncWork.buf
  · by_cases hgroup : OwnGroup d
    · rw [beginPacket_ownGroup had hgroup]
      exact .inr ⟨by constructor <;> rfl, rfl, rfl, rfl⟩
    · refine .inl ⟨?_, beginPacket_otherGroup hidle hgroup⟩
      have hg : (d.pawrSyncWork.buf.pull adHeaderLen).data 0 ≠ d.tag.assoc.eslAddr.groupId := hgroup
      simp only [beginPacket, if_neg (not_not.mpr had), if_pos hg]
      constructor <;> rfl
  · rw [beginPacket, if_pos had]
    exact .inl ⟨.rfl, hidle⟩

/-- The PAwR work takes up a packet for the tag, or leaves the slot alone. -/
lemma slotStep_pawrSyncWorkFn (stack : Mem) (hidle : d.parser = none) :
    SlotStep cfg d (.pawrSyncWork stack) (d.pawrSyncWorkFn cfg ead stack) := by
  simp only [pawrSyncWorkFn]
  split
  · set d₁ : TagDevice :=
      { d with pawrSyncWork := { d.pawrSyncWork with
          pending := false
          buf := (decryptPacket ead d.tag.assoc.eslApKey stack d.pawrSyncWork.buf).val.2 } }
    have hsame : SameSlot d d₁ := by constructor <;> rfl
    rcases slotStep_beginPacket d₁ hidle with ⟨h, hnone⟩ | ⟨h, hbuf, hstart, hsome⟩
    · rw [hnone]
      exact .same ((hsame.trans h).trans (by constructor <;> rfl))
    · rw [if_pos hsome]
      exact .begin ⟨h.ecpNetBuf, h.ecpWorkSrc, h.ecpWorkPending, h.accepted, h.executed⟩ hbuf hstart
  · exact .same (by constructor <;> rfl)

/-- The end of a packet. -/
lemma slotStep_endPacket (e : TagEvent) (rnd : Randomness) (f : ParserFrame) :
    SlotStep cfg d e (d.endPacket cfg ead rnd f) := by
  refine .finish ?_ rfl ?_
  · simp only [endPacket, setPawrResponse]
    split <;> constructor <;> rfl
  · simp only [endPacket, setPawrResponse]
    split <;> rfl

/-- The parser dispatches a TLV, moves on or ends its packet. -/
lemma slotStep_parserStep (rnd : Randomness) (h : d.parserStep cfg ead rnd = some d') :
    SlotStep cfg d (.parserStep rnd) d' := by
  cases parserTurn h with
  | move f f' hp =>
      refine .same ?_
      constructor <;> simp [hp]
  | dispatch f f' hp hw hcur haddr => exact .dispatch ⟨f, hp, hw, hcur, haddr⟩
  | finish f f' => exact slotStep_endPacket _ rnd f'

/-- **Every event changes the slot in one of these ways.** -/
theorem step_slot {e : TagEvent} (h : d.step cfg ead e = some d') : SlotStep cfg d e d' := by
  cases e with
  | eslControlWrite w =>
      cases h
      by_cases hlen : 2 ≤ w.buf.len
      · exact .write hlen
      · rw [eslControlWrite, if_pos (by omega)]
        exact .same .rfl
  | ecpWork env =>
      obtain ⟨hpend, rfl⟩ := step_ecpWork_eq_some.mp h
      exact .run hpend
  | notifySent =>
      obtain ⟨n, rest, -, rfl⟩ := step_notifySent_eq_some.mp h
      exact .same (sameSlot_notifyComplete _ _)
  | recvCb counter subevent buf =>
      cases h
      exact .same (sameSlot_recvCb _ _ _)
  | pawrSyncWork stack =>
      obtain ⟨hp, rfl⟩ := step_pawrSyncWork_eq_some.mp h
      exact slotStep_pawrSyncWorkFn stack hp.2
  | parserStep rnd => exact slotStep_parserStep rnd h
  | stateTimeout =>
      obtain ⟨-, rfl⟩ := step_stateTimeout_eq_some.mp h
      exact .same (sameSlot_onTag _)
  | ledWork idx =>
      obtain ⟨-, rfl⟩ := step_ledWork_eq_some.mp h
      exact .same (sameSlot_onTag _)
  | displayWork idx =>
      obtain ⟨-, rfl⟩ := step_displayWork_eq_some.mp h
      exact .same (sameSlot_onTag _)
  | advWork =>
      obtain ⟨-, rfl⟩ := step_advWork_eq_some.mp h
      exact .same (sameSlot_onTag _)
  | reboot p =>
      cases h
      exact .reboot
  | _ =>
      cases h
      exact .same (sameSlot_onTag _)

end Step

/-! ## A run of the handler -/

section Handler

variable {cfg : Config} {d : TagDevice}

lemma getElem?_bytes {buf : NetBuf} {i : ℕ} (h : i < buf.len) : buf.bytes[i]? = some (buf.data i) := by
  simp [NetBuf.bytes, Mem.read, h]

/-- Only another tag's command goes without an answer. -/
lemma foreign_executeCommand {t : EslTag} {buf : NetBuf}
    (h : (t.executeCommand cfg buf).2 = false) : buf.bytes[1]? ≠ some eslAddrBroadcast := by
  simp only [EslTag.executeCommand] at h
  split_ifs at h with hlen hvendor hid
  have h2 : 1 < buf.len := by
    have := two_le_ecpLen (buf.data 0)
    rw [not_not.mp hlen]
    omega
  rw [getElem?_bytes h2]
  exact fun e => hid.2 (Option.some.inj e)

/-- Only Factory Reset is carried out without a response. -/
lemma factoryReset_executeCommand {t : EslTag} {buf : NetBuf}
    (h : ((t.executeCommand cfg buf).1.prepareResponse cfg).ecp.respNeeded = false) :
    buf.bytes[0]? = some EslOpCode.factoryReset.toByte := by
  have hresp : (t.executeCommand cfg buf).1.ecp.respNeeded = false := by
    rw [← h]
    simp only [EslTag.prepareResponse]
    split <;> rfl
  have hop : buf.data 0 = EslOpCode.factoryReset.toByte := by
    by_contra hne
    rw [EslTag.respNeeded_executeCommand t buf hne] at hresp
    cases hresp
  have hlen : buf.len = ecpLen (buf.data 0) := by
    by_contra hne
    simp only [EslTag.executeCommand, hne, ne_eq, not_false_eq_true, if_true] at hresp
    cases hresp
  rw [getElem?_bytes (by rw [hlen, hop]; decide), hop]

/-- What a run of the handler leaves: the command of the slot is executed and answered on its
path, and a TLV's response is the only thing put in the buffer of a packet. -/
structure HandlerRun (cfg : Config) (d d' : TagDevice) (x : Execution) : Prop where
  command : x.command = ⟨d.ecpWorkSrc, d.ecpNetBuf.bytes⟩
  onPath : x.OnPath
  log : d'.log = { d.log with executed := d.log.executed ++ [x] }
  idle : d'.ecpWorkPending = false
  parser : d'.parser = d.parser
  appended : x.isAppended = true → (d'.ecpRspNetBuf, d'.ecpRspLastTlvLen)
    = appendResponse d.ecpRspNetBuf d.ecpRspLastTlvLen x.response
  quiet : x.isAppended = false →
    d.ecpWorkSrc = .pawr ∨ (d.tag.executeCommand cfg d.ecpNetBuf).2 = false →
    d'.ecpRspNetBuf = d.ecpRspNetBuf ∧ d'.ecpRspLastTlvLen = d.ecpRspLastTlvLen

/-- **One run of the handler.** -/
theorem handlerRun (cfg : Config) (env : HandlerEnv) (d : TagDevice) :
    ∃ x, HandlerRun cfg d (d.ecpCommandHandler cfg env) x := by
  cases hans : (d.tag.executeCommand cfg d.ecpNetBuf).2 with
  | false =>
      refine ⟨⟨⟨d.ecpWorkSrc, d.ecpNetBuf.bytes⟩, .foreign⟩, ?_⟩
      simp only [ecpCommandHandler, hans]
      exact ⟨rfl, foreign_executeCommand hans, rfl, rfl, rfl, by rintro ⟨⟩,
        fun _ _ => ⟨rfl, rfl⟩⟩
  | true =>
      cases hsrc : d.ecpWorkSrc with
      | pawr =>
          refine ⟨⟨⟨.pawr, d.ecpNetBuf.bytes⟩,
            .appended (response cfg env d.ecpNetBuf d.tag)⟩, ?_⟩
          rw [ecpCommandHandler_pawr env hsrc hans]
          exact ⟨by rw [hsrc], rfl, rfl, rfl, rfl, fun _ => rfl, by rintro ⟨⟩⟩
      | ecp =>
          simp only [ecpCommandHandler, hans, if_true, ecpResponseHandler, hsrc]
          split
          · exact ⟨⟨⟨.ecp, d.ecpNetBuf.bytes⟩, .notified _⟩, by rw [hsrc], rfl, rfl, rfl, rfl,
              by rintro ⟨⟩, fun _ h => by simp [hsrc, hans] at h⟩
          · rename_i hresp
            exact ⟨⟨⟨.ecp, d.ecpNetBuf.bytes⟩, .factoryReset⟩, by rw [hsrc],
              ⟨rfl, factoryReset_executeCommand (by simpa using hresp)⟩, rfl, rfl, rfl,
              by rintro ⟨⟩, fun _ h => by simp [hsrc, hans] at h⟩

end Handler

/-! ## Exactly once -/

section ExactlyOnce

variable {cfg : Config} {ead : Ead} {d d' : TagDevice} {e : TagEvent}

lemma SameQueue.exactlyOnce (h : SameQueue d d') (hd : ExactlyOnce d) : ExactlyOnce d' := by
  simp only [ExactlyOnce, queued, h.accepted, h.executed, h.ecpWorkPending, h.ecpWorkSrc,
    h.ecpNetBuf]
  exact hd

/-- Accepting a command overwrites the slot, so it must be empty. -/
lemma exactlyOnce_accept {c : Command} (hd : ExactlyOnce d)
    (hacc : d'.log.accepted = d.log.accepted ++ [c]) (hexec : d'.log.executed = d.log.executed)
    (hqueued : queued d' = [c]) : ExactlyOnce d' ↔ d.ecpWorkPending = false := by
  rw [ExactlyOnce, hacc, hexec, hqueued, List.append_cancel_right_eq, hd, queued]
  cases d.ecpWorkPending <;> simp

/-- A write that is accepted. -/
lemma exactlyOnce_write {w : AttWrite} (hd : ExactlyOnce d) (hlen : 2 ≤ w.buf.len) :
    ExactlyOnce (d.eslControlWrite w).2 ↔ d.ecpWorkPending = false := by
  rw [eslControlWrite, if_neg (by omega)]
  exact exactlyOnce_accept hd rfl rfl rfl

/-- A dispatch. -/
lemma exactlyOnce_dispatch (f : ParserFrame) (p : Option ParserFrame) (hd : ExactlyOnce d) :
    ExactlyOnce ((d.dispatchTlv f).withParser p) ↔ d.ecpWorkPending = false :=
  exactlyOnce_accept hd rfl rfl rfl

/-- A run takes the command out of the slot. -/
lemma exactlyOnce_run (env : HandlerEnv) (hd : ExactlyOnce d) (hpend : d.ecpWorkPending = true) :
    ExactlyOnce (d.ecpCommandHandler cfg env) := by
  obtain ⟨x, hx⟩ := handlerRun cfg env d
  rw [ExactlyOnce, queued, hx.idle, hx.log]
  simp only [Bool.false_eq_true, if_false, List.append_nil, List.map_append, List.map_singleton,
    hx.command]
  rw [hd, queued, if_pos hpend]

/-- Every event keeps the slot in order, if a command is only accepted while none is queued. -/
lemma exactlyOnce_step (hd : ExactlyOnce d) (hg : OneAtATime d e)
    (h : d.step cfg ead e = some d') : ExactlyOnce d' := by
  cases step_slot h with
  | same hs => exact SameQueue.exactlyOnce ⟨hs.ecpNetBuf, hs.ecpWorkSrc, hs.ecpWorkPending,
      congrArg CommandLog.accepted hs.log, congrArg CommandLog.executed hs.log⟩ hd
  | write hlen => exact (exactlyOnce_write hd hlen).mpr (hg hlen)
  | run hpend => exact exactlyOnce_run _ hd hpend
  | begin hq => exact hq.exactlyOnce hd
  | dispatch hdisp => exact (exactlyOnce_dispatch _ _ hd).mpr (hg hdisp)
  | finish hq => exact hq.exactlyOnce hd
  | reboot => exact rfl

/-- Nothing less will do. -/
lemma oneAtATime_of_exactlyOnce (hd : ExactlyOnce d) (h : d.step cfg ead e = some d')
    (hd' : ExactlyOnce d') : OneAtATime d e := by
  cases e with
  | eslControlWrite w =>
      intro hlen
      cases h
      exact (exactlyOnce_write hd hlen).mp hd'
  | parserStep rnd =>
      rintro ⟨f, hp, hwait, hlt, ha⟩
      have hself : d.withParser (some f) = d := by
        rw [withParser, ← hp]
      have hdisp := @step_dispatch cfg ead f d rnd hwait hlt ha
      rw [hself, h] at hdisp
      rw [Option.some.inj hdisp] at hd'
      exact (exactlyOnce_dispatch f _ hd).mp hd'
  | _ => trivial

end ExactlyOnce

/-! ## On its path -/

section OnPath

variable {cfg : Config} {ead : Ead} {d d' : TagDevice} {e : TagEvent}

/-- `AnsweredOnPath` with what its preservation needs: the length kept for a rollback is that of
the last entry. -/
structure PathInv (d : TagDevice) : Prop where
  onPath : ∀ x ∈ d.log.executed, x.OnPath
  start : d.log.packetStart ≤ d.log.executed.length
  buffer : d.parser.isSome → d.ecpRspNetBuf = (responseTlvs (packetAnswers d)).flatMap rspBytes
    ∧ LastLen (responseTlvs (packetAnswers d)) d.ecpRspLastTlvLen

lemma PathInv.answeredOnPath (h : PathInv d) : AnsweredOnPath d :=
  ⟨h.onPath, fun hp => (h.buffer hp).1⟩

/-- A run adds its answer to those of the packet. -/
lemma packetAnswers_run {x : Execution} (hstart : d.log.packetStart ≤ d.log.executed.length)
    (hx : HandlerRun cfg d d' x) :
    packetAnswers d' = packetAnswers d ++ [x].filter Execution.isAppended := by
  rw [packetAnswers, hx.log, packetAnswers]
  simp only
  rw [List.drop_append_of_le_length hstart, List.filter_append]

lemma PathInv.run (env : HandlerEnv) (hd : PathInv d)
    (hg : d.parser.isSome → d.ecpWorkSrc = .ecp →
      (d.tag.executeCommand cfg d.ecpNetBuf).2 = false) :
    PathInv (d.ecpCommandHandler cfg env) := by
  obtain ⟨x, hx⟩ := handlerRun cfg env d
  have hans := packetAnswers_run hd.start hx
  refine ⟨?_, ?_, ?_⟩
  · intro y hy
    rw [hx.log] at hy
    rcases List.mem_append.mp hy with hy | hy
    · exact hd.onPath y hy
    · rw [List.mem_singleton.mp hy]
      exact hx.onPath
  · have := hd.start
    simp only [hx.log, List.length_append]
    omega
  · intro hsome
    rw [hx.parser] at hsome
    obtain ⟨hbuf, hlast⟩ := hd.buffer hsome
    rw [hans]
    cases happ : x.isAppended with
    | true =>
        have hpush := appendResponse_push hlast x
        have happend := hx.appended happ
        rw [hbuf] at happend
        have hconcat : responseTlvs (packetAnswers d ++ [x])
            = push (fun x => x.response.length) eslSyncPktPayloadMaxLen 2
              (responseTlvs (packetAnswers d)) x := pushAll_concat _ _
        rw [List.filter_cons_of_pos happ, List.filter_nil, hconcat]
        have h₁ : (d.ecpCommandHandler cfg env).ecpRspNetBuf = _ := congrArg Prod.fst happend
        have h₂ : (d.ecpCommandHandler cfg env).ecpRspLastTlvLen = _ := congrArg Prod.snd happend
        rw [h₁, h₂]
        exact hpush
    | false =>
        have hquiet := hx.quiet happ (by
          cases hsrc : d.ecpWorkSrc with
          | pawr => exact .inl rfl
          | ecp => exact .inr (hg hsome hsrc))
        rw [List.filter_cons_of_neg (by simp [happ]), List.filter_nil, List.append_nil, hquiet.1,
          hquiet.2]
        exact ⟨hbuf, hlast⟩

/-- The invariant only depends on the packet, the buffer and the log. -/
lemma PathInv.congr (hd : PathInv d) (hbuf : d'.ecpRspNetBuf = d.ecpRspNetBuf)
    (hlast : d'.ecpRspLastTlvLen = d.ecpRspLastTlvLen)
    (hparser : d'.parser.isSome → d.parser.isSome)
    (hexec : d'.log.executed = d.log.executed)
    (hstart : d'.log.packetStart = d.log.packetStart) : PathInv d' := by
  have hans : packetAnswers d' = packetAnswers d := by rw [packetAnswers, hexec, hstart, packetAnswers]
  refine ⟨by rw [hexec]; exact hd.onPath, by rw [hexec, hstart]; exact hd.start, fun h => ?_⟩
  rw [hbuf, hlast, hans]
  exact hd.buffer (hparser h)

/-- Every event keeps the answers on their path, if the packet is left undisturbed. -/
lemma PathInv.step (hd : PathInv d) (hg : PacketUndisturbed cfg d e)
    (h : d.step cfg ead e = some d') : PathInv d' := by
  cases step_slot h with
  | same hs =>
      exact hd.congr hs.ecpRspNetBuf hs.ecpRspLastTlvLen (fun h => hs.parser ▸ h)
        (congrArg CommandLog.executed hs.log) (congrArg CommandLog.packetStart hs.log)
  | write hlen =>
      rw [eslControlWrite, if_neg (by omega)]
      exact hd.congr rfl rfl id rfl rfl
  | run hpend => exact hd.run _ hg
  | begin hq hbuf hstart =>
      have hans : packetAnswers d' = [] := by
        rw [packetAnswers, hq.executed, hstart, List.drop_length, List.filter_nil]
      refine ⟨by rw [hq.executed]; exact hd.onPath, by rw [hq.executed, hstart], fun _ => ?_⟩
      rw [hbuf, hans]
      exact ⟨rfl, fun zs y hy => absurd hy (by simp [responseTlvs, pushAll])⟩
  | dispatch hdisp =>
      obtain ⟨f, hp, -⟩ := hdisp
      exact hd.congr rfl rfl (fun _ => by rw [hp]; rfl) rfl rfl
  | finish hq hparser hstart =>
      refine ⟨by rw [hq.executed]; exact hd.onPath, ?_, fun h => ?_⟩
      · rw [hq.executed, hstart]
        exact hd.start
      · rw [hparser] at h
        cases h
  | reboot => exact ⟨by rintro _ ⟨⟩, le_rfl, by rintro ⟨⟩⟩

end OnPath

/-- **The command slot.**  From boot on, every accepted command is executed exactly once, on its
bytes and in order, exactly along the runs in which no command is accepted while another one is
queued; and every run answers on the path of its command along the runs in which no answered write
is executed while a packet is being parsed. -/
theorem commandSlot_iff {cfg : Config} {ead : Ead} (p : EslTag.BootParam) (es : List TagEvent) :
    (AlongRun (step cfg ead) ExactlyOnce (boot cfg p) es
        ↔ StepsMeet (step cfg ead) OneAtATime (boot cfg p) es)
      ∧ (StepsMeet (step cfg ead) (PacketUndisturbed cfg) (boot cfg p) es →
        AlongRun (step cfg ead) AnsweredOnPath (boot cfg p) es) := by
  constructor
  · exact alongRun_iff_stepsMeet (fun _ h => h) (fun _ _ _ hd hg h => exactlyOnce_step hd hg h)
      (fun _ _ _ hd h hd' => oneAtATime_of_exactlyOnce hd h hd') rfl
  · intro hg
    have hinv := alongRun_of_stepsMeet (I := PathInv)
      (fun _ _ _ hd hg h => PathInv.step hd hg h)
      (⟨by rintro _ ⟨⟩, le_rfl, by rintro ⟨⟩⟩ : PathInv (boot cfg p)) hg
    exact hinv.imp fun _ h => h.answeredOnPath

/-- The packet of `mixedTlvs` for the sample tag, without encryption. -/
def mixedPacket : NetBuf :=
  .ofBytes ([34, 0x31, 0, 0, 0, 0, 0x80] ++ eslAd (0 :: flatten (mixedTlvs 1)) ++ [0, 0, 0, 0])
    fun _ => 0

/-- The sample tag is provisioned and executes a write; then it receives the packet, and executes
another write behind it. -/
def commandsInTurn : List TagEvent :=
  let rnd : Randomness := ⟨Vector.replicate 5 0, Vector.replicate 5 0⟩
  configuredAndUpdating.take 9 ++
    [ .recvCb 7 0 mixedPacket, .pawrSyncWork fun _ => 0
    , .parserStep rnd, .parserStep rnd, .tick 100, .ecpWork {}
    , .parserStep rnd, .parserStep rnd, .ecpWork {}
    , .parserStep rnd, .parserStep rnd, .parserStep rnd, .ecpWork {}, .parserStep rnd, .parserStep rnd
    , .eslControlWrite (.ofBytes [0x00, 0x01]), .ecpWork {}, .notifySent ]

/-- Two writes and three TLVs, and each is executed once and answered on its path. -/
theorem commandSlot_inTurn :
    AlongRun (step .sample .clear) ExactlyOnce (boot .sample {}) commandsInTurn
      ∧ AlongRun (step .sample .clear) AnsweredOnPath (boot .sample {}) commandsInTurn
      ∧ (run (step .sample .clear) (boot .sample {}) commandsInTurn).map (fun d =>
          (d.log.executed.map (·.command.src), d.responses.map (·.data.length)))
        = some ([.ecp, .pawr, .pawr, .pawr, .ecp], [21]) := by
  have h := @commandSlot_iff .sample .clear {} commandsInTurn
  exact ⟨h.1.mpr (by decide +kernel), h.2 (by decide +kernel), by decide +kernel⟩

/-- Two writes before the work queue runs. -/
def twoWrites : List TagEvent :=
  [ .connected 0, .eslControlWrite (.ofBytes [0x00, 0x00]), .eslControlWrite (.ofBytes [0x02, 0x00])
  , .ecpWork {} ]

/-- The first of two writes is accepted and never executed. -/
theorem commandSlot_fails :
    ((run (step .sample .clear) (boot .sample {}) twoWrites).map fun d =>
      (d.log.accepted, d.log.executed.map (·.command), d.ecpWorkPending, decide (ExactlyOnce d)))
      = some ([⟨.ecp, [0x00, 0x00]⟩, ⟨.ecp, [0x02, 0x00]⟩], [⟨.ecp, [0x02, 0x00]⟩], false, false) := by
  decide +kernel

end NrfEsl
