import NrfEsl.CommandSlot
import NrfEsl.Packet

/-!
# Error responses change nothing

A command that the handler answers with an Error is refused before it has written anything: the
checks of an opcode stand in front of its updates, the two commands that update first
(Unassociate, Factory Reset) check in another branch.

* `untouched_commandSwitch` — **every error exit of the switch** leaves the tag alone.
* `commandReads` — the offsets of the command that a run of the handler reads.
  `executeCommand_congr_reads` says that these are all of them, `commandReads_lt` that they lie
  inside the command.
* `errorChangesNothing` — both for every reachable tag.  An empty command would be read beyond its
  length; no path delivers one.
-/

namespace NrfEsl

namespace EslTag

variable {cfg : Config} {t : EslTag} {cmd : Mem} {buf : NetBuf}

/-! ## Error exits -/

lemma Untouched.refl (t : EslTag) : Untouched t t := by constructor <;> rfl

lemma Untouched.trans {t₁ t₂ t₃ : EslTag} (h : Untouched t₁ t₂) (h' : Untouched t₂ t₃) :
    Untouched t₁ t₃ where
  assoc := h'.assoc.trans h.assoc
  elems := h'.elems.trans h.elems
  basicState := h'.basicState.trans h.basicState
  uptime := h'.uptime.trans h.uptime
  out := h'.out.trans h.out

/-- Setting an Error only writes the response. -/
lemma untouched_setError (e : EslRspErrCode) : Untouched t (t.setError e) := by constructor <;> rfl

lemma untouched_opUnassociate {eslId : UInt8}
    (h : (t.opUnassociate eslId).ecp.resp.respOp = .err) : Untouched t (t.opUnassociate eslId) := by
  simp only [opUnassociate] at h ⊢
  split at h
  · cases h
  · rename_i hid
    rw [if_neg hid]
    exact untouched_setError _

lemma untouched_opFactoryReset {eslId : UInt8}
    (hresp : t.ecp.resp.respOp ≠ .err)
    (h : (t.opFactoryReset cfg eslId).ecp.resp.respOp = .err) :
    Untouched t (t.opFactoryReset cfg eslId) := by
  have hreset : (t.btEslFactoryReset cfg).ecp.resp.respOp ≠ .err := by
    rw [ecp_btEslFactoryReset]
    exact hresp
  simp only [opFactoryReset] at h ⊢
  split_ifs at h ⊢
  · exact untouched_setError _
  · exact untouched_setError _
  · exact absurd h hreset

/-- Update Complete is never refused. -/
lemma respOp_opUpdateComplete (hresp : t.ecp.resp.respOp ≠ .err) :
    (t.opUpdateComplete cfg).ecp.resp.respOp ≠ .err := by
  simp only [opUpdateComplete, eslIsConfiguringState]
  split_ifs <;> simpa using hresp

lemma untouched_opReadSensorData (h : (t.opReadSensorData cfg cmd).ecp.resp.respOp = .err) :
    Untouched t (t.opReadSensorData cfg cmd) := by
  simp only [opReadSensorData] at h ⊢
  split_ifs at h ⊢
  · exact untouched_setError _
  · exact untouched_setError _

lemma untouched_opRefreshDisplay (h : (t.opRefreshDisplay cfg cmd).ecp.resp.respOp = .err) :
    Untouched t (t.opRefreshDisplay cfg cmd) := by
  simp only [opRefreshDisplay] at h ⊢
  split_ifs at h ⊢
  · exact untouched_setError _
  · exact untouched_setError _
  · exact untouched_setError _
  · cases h

lemma untouched_opDisplayImage (h : (t.opDisplayImage cfg cmd).ecp.resp.respOp = .err) :
    Untouched t (t.opDisplayImage cfg cmd) := by
  simp only [opDisplayImage] at h ⊢
  cases hcheck : t.displayImageError cfg (cmd 2) (cmd 3) with
  | some e => exact untouched_setError _
  | none =>
      rw [hcheck] at h
      cases h

lemma untouched_opDisplayTimedImage (h : (t.opDisplayTimedImage cfg cmd).ecp.resp.respOp = .err) :
    Untouched t (t.opDisplayTimedImage cfg cmd) := by
  simp only [opDisplayTimedImage] at h ⊢
  cases hcheck : t.displayImageError cfg (cmd 2) (cmd 3) with
  | some e => exact untouched_setError _
  | none =>
      simp only [hcheck] at h ⊢
      split_ifs at h ⊢
      · cases h
      · exact untouched_setError _
      · cases h
      · exact untouched_setError _

lemma untouched_opLedControl (h : (t.opLedControl cfg cmd).ecp.resp.respOp = .err) :
    Untouched t (t.opLedControl cfg cmd) := by
  simp only [opLedControl] at h ⊢
  split_ifs at h ⊢
  · exact untouched_setError _
  · exact untouched_setError _
  · cases h

lemma untouched_opLedTimedControl (h : (t.opLedTimedControl cfg cmd).ecp.resp.respOp = .err) :
    Untouched t (t.opLedTimedControl cfg cmd) := by
  simp only [opLedTimedControl] at h ⊢
  split_ifs at h ⊢
  · exact untouched_setError _
  · exact untouched_setError _
  · cases h
  · exact untouched_setError _
  · cases h
  · exact untouched_setError _

lemma untouched_opDefault {opCode : UInt8} (hresp : t.ecp.resp.respOp ≠ .err)
    (h : (t.opDefault cfg opCode).ecp.resp.respOp = .err) :
    Untouched t (t.opDefault cfg opCode) := by
  simp only [opDefault] at h ⊢
  split_ifs at h ⊢
  · cases h
  · exact absurd h hresp
  · exact untouched_setError _

/-- **Every error exit of the switch leaves the tag alone.** -/
lemma untouched_commandSwitch (hresp : t.ecp.resp.respOp ≠ .err)
    (h : (t.commandSwitch cfg cmd).ecp.resp.respOp = .err) :
    Untouched t (t.commandSwitch cfg cmd) := by
  unfold commandSwitch at h ⊢
  cases hop : EslOpCode.ofByte? (cmd 0) with
  | none =>
      rw [hop] at h
      exact untouched_opDefault hresp h
  | some op =>
      rw [hop] at h
      cases op with
      | ping => cases h
      | unassociate => exact untouched_opUnassociate h
      | serviceReset => cases h
      | factoryReset => exact untouched_opFactoryReset hresp h
      | updateComplete => exact absurd h (respOp_opUpdateComplete hresp)
      | readSensorData => exact untouched_opReadSensorData h
      | refreshDisplay => exact untouched_opRefreshDisplay h
      | displayImage => exact untouched_opDisplayImage h
      | displayTimedImage => exact untouched_opDisplayTimedImage h
      | ledControl => exact untouched_opLedControl h
      | ledTimedControl => exact untouched_opLedTimedControl h

/-- A command that is answered with an Error leaves the tag alone. -/
lemma untouched_of_error (h : (t.executeCommand cfg buf).1.ecp.resp.respOp = .err) :
    Untouched t (t.executeCommand cfg buf).1 := by
  by_cases hsw : ReachesSwitch cfg buf t
  · have hstart : Untouched t t.startCommand := by constructor <;> rfl
    have hresp : t.startCommand.ecp.resp.respOp ≠ .err := by
      rintro ⟨⟩
    rw [hsw.executeCommand] at h ⊢
    exact hstart.trans (untouched_commandSwitch hresp h)
  · exact untouched_executeCommand hsw

/-! ## What is read of a command -/

/-- The offsets of the parameters of an LED: colour, pattern, periods, repeat. -/
def ledParamReads : List ℕ := [4, 5, 6, 7, 8, 9, 10, 11, 12]

/-- The offsets an opcode of the switch reads behind the header.  Both LED commands take the index
and the colour first and go on when the index is one; the timed one reads its time, and the rest
when it is accepted. -/
def switchReads (cfg : Config) (cmd : Mem) (t : EslTag) : List ℕ :=
  match EslOpCode.ofByte? (cmd 0) with
  | some .readSensorData => [2]
  | some .refreshDisplay => [2]
  | some .displayImage => [2, 3]
  | some .displayTimedImage => [2, 3, 4, 5, 6, 7]
  | some .ledControl =>
      [2, 3] ++ if cfg.ledMax ≤ (cmd 2).toNat then [] else ledParamReads
  | some .ledTimedControl =>
      let newAbsTime := sysGetLe32 cmd 13
      let start := (t.elems.ledDworks (cmd 2).toNat).startAbsTime
      [2, 3] ++ if cfg.ledMax ≤ (cmd 2).toNat then []
        else [13, 14, 15, 16] ++ if newAbsTime ≠ 0 ∧ (newAbsTime - t.absTime).toNat < eslTimedAbsMax
          ∧ (start = 0 ∨ start = newAbsTime) then ledParamReads else []
  | _ => []

/-- The offsets `ecp_command_handler` reads of a command: the opcode, the ESL ID when the length is
right and the opcode one the build supports, and what the switch reads. -/
def commandReads (cfg : Config) (buf : NetBuf) (t : EslTag) : List ℕ :=
  let opCode := buf.data 0
  if buf.len ≠ ecpLen opCode ∨ opCode &&& vendorSpecificStateMask = vendorSpecificStateMask
      ∧ cfg.vendorSpecificSupport = false then [0]
  else if ReachesSwitch cfg buf t then [0, 1] ++ switchReads cfg buf.data t
  else [0, 1]

lemma lt_of_mem_of_forall {reads : List ℕ} {len i : ℕ} (h : reads.all (· < len) = true)
    (hi : i ∈ reads) : i < len := by
  simpa using List.all_eq_true.mp h i hi

lemma switchReads_lt {i : ℕ} (hi : i ∈ switchReads cfg cmd t) : i < ecpLen (cmd 0) := by
  simp only [switchReads] at hi
  cases hop : EslOpCode.ofByte? (cmd 0) with
  | none =>
      rw [hop] at hi
      cases hi
  | some op =>
      rw [hop] at hi
      have hlen : ecpLen (cmd 0) = ecpLen op.toByte := by rw [EslOpCode.ofByte?_eq_some.mp hop]
      rw [hlen]
      cases op with
      | readSensorData => exact lt_of_mem_of_forall rfl hi
      | refreshDisplay => exact lt_of_mem_of_forall rfl hi
      | displayImage => exact lt_of_mem_of_forall rfl hi
      | displayTimedImage => exact lt_of_mem_of_forall rfl hi
      | ledControl =>
          have hlen : ecpLen EslOpCode.ledControl.toByte = 13 := by decide
          rw [hlen]
          dsimp only at hi
          split at hi <;> simp [ledParamReads] at hi <;> omega
      | ledTimedControl =>
          have hlen : ecpLen EslOpCode.ledTimedControl.toByte = 17 := by decide
          rw [hlen]
          dsimp only at hi
          split_ifs at hi <;> simp [ledParamReads] at hi <;> omega
      | _ => cases hi

/-- **The handler reads inside the command**, if there is a command at all. -/
lemma commandReads_lt (hlen : 0 < buf.len) {i : ℕ} (hi : i ∈ commandReads cfg buf t) :
    i < buf.len := by
  simp only [commandReads] at hi
  split_ifs at hi with hshort hsw
  · simp only [List.mem_singleton] at hi
    omega
  · simp only [List.mem_append, List.mem_cons, List.not_mem_nil, or_false] at hi
    have h2 := two_le_ecpLen (buf.data 0)
    rcases hi with hi | hi
    · have := hsw.1
      omega
    · rw [hsw.1]
      exact switchReads_lt hi
  · simp only [List.mem_cons, List.not_mem_nil, or_false] at hi
    have h2 := two_le_ecpLen (buf.data 0)
    have heq : buf.len = ecpLen (buf.data 0) := by
      by_contra hne
      exact hshort (.inl hne)
    omega

/-! ### Nothing else is read -/

section Congr

variable {cmd' : Mem} {buf' : NetBuf}

lemma sysGetLe32_congr_reads {off : ℕ}
    (h : ∀ i ∈ [off, off + 1, off + 2, off + 3], cmd' i = cmd i) :
    sysGetLe32 cmd' off = sysGetLe32 cmd off := by
  simp only [List.forall_mem_cons] at h
  obtain ⟨h₀, h₁, h₂, h₃, -⟩ := h
  rw [sysGetLe32, h₀, h₁, h₂, h₃, sysGetLe32]

/-- The LED object is read from the colour and the parameters. -/
lemma storeLedObj_congr_reads (t : EslTag) (ledIdx : UInt8) (h₃ : cmd' 3 = cmd 3)
    (h : ∀ i ∈ ledParamReads, cmd' i = cmd i) :
    t.storeLedObj ledIdx cmd' = t.storeLedObj ledIdx cmd := by
  have hpattern : ∀ i : Fin 5, 4 + i.val ∈ ledParamReads := by decide
  have hp : (Vector.ofFn fun i : Fin 5 => cmd' (4 + i)) = Vector.ofFn fun i => cmd (4 + i) :=
    congrArg Vector.ofFn (funext fun i => h _ (hpattern i))
  simp only [storeLedObj, ledObjOfCommand, hp, h₃, h 9 (by decide), h 10 (by decide),
    h 11 (by decide), h 12 (by decide)]

/-- The switch reads the header and what `switchReads` lists. -/
lemma commandSwitch_congr_reads (h₀ : cmd' 0 = cmd 0) (h₁ : cmd' 1 = cmd 1)
    (h : ∀ i ∈ switchReads cfg cmd t, cmd' i = cmd i) :
    t.commandSwitch cfg cmd' = t.commandSwitch cfg cmd := by
  unfold commandSwitch
  unfold switchReads at h
  rw [h₀, h₁]
  cases hop : EslOpCode.ofByte? (cmd 0) with
  | none => rfl
  | some op =>
      rw [hop] at h
      cases op with
      | readSensorData =>
          have h₂ : cmd' 2 = cmd 2 := h 2 (by simp)
          simp only [opReadSensorData, h₂]
      | refreshDisplay =>
          have h₂ : cmd' 2 = cmd 2 := h 2 (by simp)
          simp only [opRefreshDisplay, h₂]
      | displayImage =>
          have h₂ : cmd' 2 = cmd 2 := h 2 (by simp)
          have h₃ : cmd' 3 = cmd 3 := h 3 (by simp)
          simp only [opDisplayImage, h₂, h₃]
      | displayTimedImage =>
          have h₂ : cmd' 2 = cmd 2 := h 2 (by simp)
          have h₃ : cmd' 3 = cmd 3 := h 3 (by simp)
          have htime : sysGetLe32 cmd' 4 = sysGetLe32 cmd 4 :=
            sysGetLe32_congr_reads fun i hi => h i (List.mem_cons_of_mem 2 (List.mem_cons_of_mem 3 hi))
          simp only [opDisplayTimedImage, h₂, h₃, htime]
      | ledControl =>
          dsimp only at h
          have h₂ : cmd' 2 = cmd 2 := h 2 (by simp)
          simp only [opLedControl, h₂]
          split_ifs with hzero hidx
          · rfl
          · rfl
          · rw [if_neg hidx] at h
            have hled : t.storeLedObj (cmd 2) cmd' = t.storeLedObj (cmd 2) cmd :=
              storeLedObj_congr_reads t (cmd 2) (h 3 (by simp)) fun i hi =>
                h i (List.mem_append_right _ hi)
            rw [hled]
      | ledTimedControl =>
          dsimp only at h
          have h₂ : cmd' 2 = cmd 2 := h 2 (by simp)
          have h₃ : cmd' 3 = cmd 3 := h 3 (by simp)
          by_cases hidx : cfg.ledMax ≤ (cmd 2).toNat
          · simp only [opLedTimedControl, h₂, hidx, if_true]
          · rw [if_neg hidx] at h
            have htime : sysGetLe32 cmd' 13 = sysGetLe32 cmd 13 :=
              sysGetLe32_congr_reads fun i hi => h i (by
                exact List.mem_append_right _ (List.mem_append_left _ hi))
            simp only [opLedTimedControl, h₂, htime]
            split_ifs with hzero hdelete himplausible hfree
            · rfl
            · rfl
            · rfl
            · -- accepted: the parameters of the LED are read as well
              rw [if_pos ⟨hdelete, Nat.lt_of_not_le himplausible, hfree⟩] at h
              rw [storeLedObj_congr_reads _ (cmd 2) h₃ fun i hi =>
                h i (List.mem_append_right _ (List.mem_append_right _ hi))]
            · rfl
      | _ => rfl

/-- **A run of the handler depends on what it reads**: the length, and the bytes at the offsets of
`commandReads`. -/
lemma executeCommand_congr_reads (hlen : buf'.len = buf.len)
    (h : ∀ i ∈ commandReads cfg buf t, buf'.data i = buf.data i) :
    t.executeCommand cfg buf' = t.executeCommand cfg buf := by
  simp only [commandReads] at h
  have h₀ : buf'.data 0 = buf.data 0 := h 0 (by split_ifs <;> simp)
  simp only [executeCommand, hlen, h₀]
  by_cases hshort : buf.len ≠ ecpLen (buf.data 0)
  · rw [if_pos hshort, if_pos hshort]
  · by_cases hvendor : buf.data 0 &&& vendorSpecificStateMask = vendorSpecificStateMask
        ∧ cfg.vendorSpecificSupport = false
    · rw [if_neg hshort, if_pos hvendor, if_neg hshort, if_pos hvendor]
    · rw [if_neg hshort, if_neg hvendor, if_neg hshort, if_neg hvendor]
      rw [if_neg (not_or.mpr ⟨hshort, hvendor⟩)] at h
      have h₁ : buf'.data 1 = buf.data 1 := h 1 (by split_ifs <;> simp)
      rw [h₁]
      by_cases hsw : ReachesSwitch cfg buf t
      · rw [if_pos hsw] at h
        have hcheck : t.startCommand.checkBusy = t.startCommand := by
          have hbusy : t.startCommand.ecp.busy = false := hsw.2.2.2
          simp [checkBusy, hbusy]
        have hswitch : t.startCommand.commandSwitch cfg buf'.data
            = t.startCommand.commandSwitch cfg buf.data :=
          commandSwitch_congr_reads h₀ h₁ fun i hi => h i (List.mem_append_right _ hi)
        rw [hcheck, hswitch]
      · by_cases hid : buf.data 1 ≠ t.startCommand.assoc.eslAddr.eslId
            ∧ buf.data 1 ≠ eslAddrBroadcast
        · rw [if_pos hid, if_pos hid]
        · -- a command for the tag that does not reach the switch finds it busy
          have hbusy : t.startCommand.ecp.busy = true := by
            by_contra hb
            refine hsw ⟨not_not.mp hshort, ?_, hvendor, by simpa [startCommand] using hb⟩
            rw [assoc_startCommand] at hid
            tauto
          have hresp : t.startCommand.checkBusy.ecp.resp.respOp = .err := by
            rw [checkBusy, if_pos hbusy]
            rfl
          rw [if_neg hid, if_neg hid, if_pos hresp, if_pos hresp]

end Congr

end EslTag

/-! ## Every command that is delivered -/

namespace TagDevice

variable {cfg : Config} {ead : Ead} {d d' : TagDevice} {e : TagEvent}

/-- The command that waits for the handler has a header. -/
def HasHeader (d : TagDevice) : Prop := d.ecpWorkPending = true → 2 ≤ d.ecpNetBuf.len

/-- Neither path puts a shorter command into the slot. -/
lemma hasHeader_step (hd : d.HasHeader) (h : d.step cfg ead e = some d') : d'.HasHeader := by
  intro hpend
  cases step_slot h with
  | same hs =>
      rw [hs.ecpNetBuf]
      exact hd (hs.ecpWorkPending ▸ hpend)
  | write hlen =>
      rw [eslControlWrite, if_neg (by omega)]
      exact hlen
  | run =>
      rw [ecpWorkPending_ecpCommandHandler] at hpend
      cases hpend
  | begin hs | finish hs =>
      rw [hs.ecpNetBuf]
      exact hd (hs.ecpWorkPending ▸ hpend)
  | dispatch => exact two_le_ecpLen _
  | reboot => cases hpend

lemma Reachable.hasHeader (h : Reachable cfg ead d) : d.HasHeader := by
  refine TransitionSystem.Reachable.induction (I := HasHeader) ?_ ?_ h
  · rintro _ ⟨p, -, rfl⟩ hpend
    cases hpend
  · intro d e d' hd hstep
    exact hasHeader_step hd hstep

/-- Building the answer to an Error leaves the tag alone as well. -/
lemma untouched_ecpCommandHandler (env : HandlerEnv)
    (h : (d.tag.executeCommand cfg d.ecpNetBuf).1.ecp.resp.respOp = .err) :
    EslTag.Untouched d.tag (d.ecpCommandHandler cfg env).tag := by
  have hun := EslTag.untouched_of_error h
  simp only [ecpCommandHandler]
  split
  · rw [tag_ecpResponseHandler]
    refine hun.trans ?_
    have hbasic : (d.tag.executeCommand cfg d.ecpNetBuf).1.ecp.resp.respOp ≠ .basicState := by
      rw [h]
      decide
    dsimp only
    rw [EslTag.prepareResponse, if_neg hbasic]
    constructor <;> rfl
  · exact hun

end TagDevice

/-- **An Error response changes nothing.**  Whatever command a reachable tag runs, if it is answered
with an Error then LEDs, displays, images, state bits, provisioned data and state are as before, and
nothing was asked of the application or the stack; and a run of the handler reads the offsets of
`commandReads` and no other byte, inside the command if it has one byte.  A command that waits for
the handler has two. -/
theorem errorChangesNothing {cfg : Config} {ead : Ead} {d : TagDevice}
    (hd : TagDevice.Reachable cfg ead d) (buf : NetBuf) (env : HandlerEnv)
    (herr : (d.tag.executeCommand cfg buf).1.ecp.resp.respOp = .err) :
    EslTag.Untouched d.tag ({ d with ecpNetBuf := buf }.ecpCommandHandler cfg env).tag
      ∧ (0 < buf.len → ∀ i ∈ d.tag.commandReads cfg buf, i < buf.len)
      ∧ (∀ buf' : NetBuf, buf'.len = buf.len →
          (∀ i ∈ d.tag.commandReads cfg buf, buf'.data i = buf.data i) →
          d.tag.executeCommand cfg buf' = d.tag.executeCommand cfg buf)
      ∧ (d.ecpWorkPending = true → 2 ≤ d.ecpNetBuf.len) := by
  refine ⟨?_, ?_, ?_, hd.hasHeader⟩
  · exact TagDevice.untouched_ecpCommandHandler (d := { d with ecpNetBuf := buf }) env herr
  · intro hlen i hi
    exact EslTag.commandReads_lt hlen hi
  · intro buf' hlen h
    exact EslTag.executeCommand_congr_reads hlen h

/-- Refresh Display for a display the tag has not got. -/
theorem errorChangesNothing_refresh :
    EslTag.Untouched (TagDevice.boot .sample {}).tag
      ({ TagDevice.boot .sample {} with
        ecpNetBuf := .ofBytes [0x11, 0xFF, 5] fun _ => 0 }.ecpCommandHandler .sample {}).tag
    ∧ (TagDevice.boot .sample {}).tag.commandReads .sample (.ofBytes [0x11, 0xFF, 5] fun _ => 0)
      = [0, 1, 2] :=
  have hd : TagDevice.Reachable .sample .clear (TagDevice.boot .sample {}) :=
    ⟨_, [], ⟨{}, rfl, rfl⟩, rfl⟩
  ⟨(errorChangesNothing hd (.ofBytes [0x11, 0xFF, 5] fun _ => 0) {} (by decide +kernel)).1,
    by decide +kernel⟩

end NrfEsl
