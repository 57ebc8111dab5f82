import NrfEsl.Tag.Step

/-!
# One command, two paths

A command reaches the tag as a Control Point write or as a TLV of a PAwR packet, and the two paths
end differently: a write is answered by a notification whose completion callback may finish the
command, a TLV by the response of its packet.

`viaControlPoint` is the write, the run of the handler and the completion of the notification;
`viaPacket` the dispatch of the TLV, the run and `set_pawr_response`.  **Both leave the same
association, elements and Basic State for every command but one** (`sameEffect_iff`): the
completion callback of Unassociate, which calls `bt_esl_unassociate`, exists on the first path
only.
-/

namespace NrfEsl

open EslTag

namespace TagDevice

variable (cfg : Config) (ead : Ead)

/-- A Control Point write, executed and answered: every notification it causes completes. -/
def viaControlPoint (env : HandlerEnv) (w : AttWrite) (d : TagDevice) : TagDevice :=
  let d' := (d.eslControlWrite w).2.ecpCommandHandler cfg env
  (d'.notifications.drop d.notifications.length).foldl (fun d n => d.notifyComplete cfg n.func) d'

/-- The TLV at the cursor of a packet, executed and answered in response slot `rspSlot`. -/
def viaPacket (env : HandlerEnv) (rnd : Randomness) (rspSlot : ℤ) (f : ParserFrame)
    (d : TagDevice) : TagDevice :=
  ((d.dispatchTlv f).ecpCommandHandler cfg env).setPawrResponse ead rnd rspSlot

end TagDevice

/-- Association, LEDs, displays and Basic State agree. -/
def SameEffect (d d' : TagDevice) : Prop :=
  d.tag.assoc = d'.tag.assoc ∧ d.tag.elems = d'.tag.elems ∧ d.tag.basicState = d'.tag.basicState

/-- The command is an Unassociate the handler carries out. -/
def ExecutesUnassociate (d : TagDevice) (w : AttWrite) : Prop :=
  w.buf.data 0 = 0x01 ∧ d.tag.ecp.busy = false

section Paths

variable {cfg : Config} {ead : Ead} {d : TagDevice} {w : AttWrite} {f : ParserFrame}

/-- The TLV at the cursor is the written command. -/
def SameCommand (d : TagDevice) (w : AttWrite) (f : ParserFrame) : Prop :=
  w.buf.bytes = (d.dispatchTlv f).ecpNetBuf.bytes

lemma SameCommand.len (h : SameCommand d w f) : w.buf.len = ecpLen (w.buf.data 0) := by
  have hl : w.buf.len = ecpLen (d.pawrSyncWork.buf.data f.cur) := by
    simpa [TagDevice.dispatchTlv] using congrArg List.length h
  have hpos : 0 < w.buf.len := by
    have := two_le_ecpLen (d.pawrSyncWork.buf.data f.cur)
    omega
  have h₀ : w.buf.data 0 = d.pawrSyncWork.buf.data f.cur := by
    have := congrArg (·[0]?) h
    simpa [NetBuf.bytes, Mem.read, TagDevice.dispatchTlv, hpos, hl ▸ hpos] using this
  rw [hl, h₀]

/-- The callback an own command leaves to the notification. -/
lemma notifyFunc_executeCommand (cfg : Config) (buf : NetBuf) (t : EslTag)
    (hlen : buf.len = ecpLen (buf.data 0)) (hid : buf.data 1 = t.assoc.eslAddr.eslId) :
    (t.executeCommand cfg buf).1.ecp.notifyFunc
      = if buf.data 0 = 0x01 ∧ t.ecp.busy = false then some .unassociatedCb else none := by
  have hne : t.assoc.eslAddr.eslId ≠ eslAddrBroadcast := t.assoc.eslAddr.eslId_ne_broadcast
  by_cases hv : buf.data 0 &&& vendorSpecificStateMask = vendorSpecificStateMask
      ∧ cfg.vendorSpecificSupport = false
  · have h₁ : buf.data 0 ≠ 0x01 := by
      intro h
      rw [h] at hv
      exact absurd hv.1 (by decide)
    simp [executeCommand, hlen, hv, h₁, setError, startCommand]
  · cases hb : t.ecp.busy with
    | true =>
        rw [executeCommand_busy hlen (.inl hid) hv hb]
        simp [setError, startCommand]
    | false =>
        have hn : t.startCommand.ecp.notifyFunc = none := rfl
        rw [executeCommand_switch hlen (.inl hid) hv hb, notifyFunc_commandSwitch, hn]
        simp [hid, hne]

/-- Unassociate itself only asks for a response; the association stays. -/
lemma executeCommand_unassociate (cfg : Config) (buf : NetBuf) (t : EslTag)
    (hlen : buf.len = ecpLen (buf.data 0)) (hid : buf.data 1 = t.assoc.eslAddr.eslId)
    (hop : buf.data 0 = 0x01) (hbusy : t.ecp.busy = false) :
    (t.executeCommand cfg buf).1.ecp.respNeeded = true
      ∧ (t.executeCommand cfg buf).1.assoc = t.assoc := by
  have hne : t.assoc.eslAddr.eslId ≠ eslAddrBroadcast := t.assoc.eslAddr.eslId_ne_broadcast
  have hmask : (0x01 : UInt8) &&& vendorSpecificStateMask ≠ vendorSpecificStateMask := by decide
  rw [executeCommand_switch hlen (.inl hid) (by simp [hop, hmask]) hbusy,
    commandSwitch_unassociate _ hop, hid, opUnassociate, if_pos hne]
  exact ⟨rfl, rfl⟩

/-- A notification without the unassociating callback changes nothing. -/
lemma tag_foldl_notifyComplete (l : List Notification) (h : ∀ n ∈ l, n.func = .notifyCb)
    (d : TagDevice) :
    (l.foldl (fun d n => d.notifyComplete cfg n.func) d).tag = d.tag := by
  induction l generalizing d with
  | nil => rfl
  | cons n l ih =>
      rw [List.foldl_cons, ih (fun m hm => h m (List.mem_cons_of_mem _ hm)),
        h n List.mem_cons_self]
      rfl

/-- What a run for a Control Point write queues, and the tag it leaves. -/
lemma ecpCommandHandler_ecp (cfg : Config) (env : HandlerEnv) (d : TagDevice) (hsrc : d.ecpWorkSrc = .ecp)
    (hans : (d.tag.executeCommand cfg d.ecpNetBuf).2 = true) :
    let t := (d.tag.executeCommand cfg d.ecpNetBuf).1
    (d.ecpCommandHandler cfg env).tag = t.prepareResponse cfg
      ∧ ∃ value, (d.ecpCommandHandler cfg env).notifications.drop d.notifications.length
        = if t.ecp.respNeeded ∧ env.notifyAccepted then
            [⟨value, t.ecp.notifyFunc.getD .notifyCb⟩] else [] := by
  intro t
  have hresp : (t.prepareResponse cfg).ecp.respNeeded = t.ecp.respNeeded := by
    simp only [prepareResponse]
    split <;> rfl
  have hfunc : (t.prepareResponse cfg).ecp.notifyFunc = some (t.ecp.notifyFunc.getD .notifyCb) := by
    simp only [prepareResponse]
    split <;> rfl
  refine ⟨by simp [TagDevice.ecpCommandHandler, hans, t], ?_⟩
  refine ⟨(t.prepareResponse cfg).responseBytes cfg env, ?_⟩
  simp only [TagDevice.ecpCommandHandler, hans, if_true, TagDevice.ecpResponseHandler, hsrc]
  by_cases hr : t.ecp.respNeeded <;> by_cases ha : env.notifyAccepted <;>
    simp [t, hr, ha, hresp, hfunc, TagDevice.logExecution] at hr ⊢

/-- Sending the response of the packet does not touch what the command did. -/
lemma tag_viaPacket (ead : Ead) (env : HandlerEnv) (rnd : Randomness) (rspSlot : ℤ)
    (hans : (d.tag.executeCommand cfg (d.dispatchTlv f).ecpNetBuf).2 = true) :
    let t := ((d.tag.executeCommand cfg (d.dispatchTlv f).ecpNetBuf).1.prepareResponse cfg)
    let t' := (d.viaPacket cfg ead env rnd rspSlot f).tag
    t'.assoc = t.assoc ∧ t'.elems = t.elems ∧ t'.basicState = t.basicState := by
  have htag : ((d.dispatchTlv f).ecpCommandHandler cfg env).tag
      = (d.tag.executeCommand cfg (d.dispatchTlv f).ecpNetBuf).1.prepareResponse cfg := by
    simp [TagDevice.ecpCommandHandler, hans]
  simp only [TagDevice.viaPacket, TagDevice.setPawrResponse]
  split <;> simp [htag]

/-- **Same command, same effect, except for Unassociate.**  In `SM_SYNCHRONIZED` a command with
the tag's own ID leaves the same association, elements and Basic State on both paths exactly when
it is not an Unassociate the handler carries out. -/
theorem sameEffect_iff {env env' : HandlerEnv} {rnd : Randomness} {rspSlot : ℤ}
    (hstate : d.tag.assoc.eslState = .synchronized)
    (hcmd : SameCommand d w f)
    (hown : w.buf.data 1 = d.tag.assoc.eslAddr.eslId)
    (hsent : env.notifyAccepted = true) :
    SameEffect (d.viaControlPoint cfg env w) (d.viaPacket cfg ead env' rnd rspSlot f)
      ↔ ¬ ExecutesUnassociate d w := by
  have hlen := hcmd.len
  have h2 : 2 ≤ w.buf.len := by
    rw [hlen]
    exact two_le_ecpLen _
  -- both runs execute the same command on the same tag
  have hexec : d.tag.executeCommand cfg (d.dispatchTlv f).ecpNetBuf
      = d.tag.executeCommand cfg w.buf := (d.tag.executeCommand_congr h2 hcmd).symm
  have hans : (d.tag.executeCommand cfg w.buf).2 = true := executeCommand_answered hlen (.inl hown)
  have hfunc := notifyFunc_executeCommand cfg w.buf d.tag hlen hown
  obtain ⟨ha, he, hb⟩ := tag_viaPacket ead env' rnd rspSlot (hexec ▸ hans)
  rw [hexec] at ha he hb
  -- the write, and what its run queues
  set d₁ := (d.eslControlWrite w).2 with hd₁
  have hw : d₁.ecpNetBuf = w.buf ∧ d₁.ecpWorkSrc = .ecp ∧ d₁.tag = d.tag
      ∧ d₁.notifications = d.notifications := by
    simp [hd₁, TagDevice.eslControlWrite, Nat.not_lt.mpr h2]
  obtain ⟨hbuf, hsrc, htag, hnot⟩ := hw
  have hrun := ecpCommandHandler_ecp cfg env d₁ hsrc (by rw [hbuf, htag]; exact hans)
  rw [hbuf, htag, hnot] at hrun
  obtain ⟨htag₁, value, hqueue⟩ := hrun
  by_cases hu : ExecutesUnassociate d w
  · refine iff_of_false (fun hsame => ?_) (not_not.mpr hu)
    rw [if_pos (show w.buf.data 0 = 0x01 ∧ d.tag.ecp.busy = false from hu)] at hfunc
    have hneeded := executeCommand_unassociate cfg w.buf d.tag hlen hown hu.1 hu.2
    have hcp : (d.viaControlPoint cfg env w).tag.assoc.eslState = .unassociated := by
      simp only [TagDevice.viaControlPoint, ← hd₁, hqueue, hneeded.1, hsent, hfunc]
      simp [TagDevice.notifyComplete]
    have hpk := congrArg Assoc.eslState hsame.1
    rw [hcp, ha, assoc_prepareResponse, hneeded.2, hstate] at hpk
    cases hpk
  · refine iff_of_true ?_ hu
    rw [if_neg (show ¬ (w.buf.data 0 = 0x01 ∧ d.tag.ecp.busy = false) from hu)] at hfunc
    have hcp : (d.viaControlPoint cfg env w).tag
        = (d.tag.executeCommand cfg w.buf).1.prepareResponse cfg := by
      rw [TagDevice.viaControlPoint, tag_foldl_notifyComplete, htag₁]
      intro n hn
      rw [hqueue, hfunc] at hn
      split at hn <;> simp at hn
      simp [hn]
    exact ⟨by rw [hcp, ha], by rw [hcp, he], by rw [hcp, hb]⟩

end Paths

/-- A freshly synchronised tag with an LED Control for it at the cursor of its packet. -/
def ledControlAtCursor : TagDevice :=
  { (TagDevice.boot .sample {}).onTag (EslTag.syncCb .sample) with
    pawrSyncWork := ⟨NetBuf.ofBytes (0x00 :: flashOnce 0) fun _ => 0, 0, 0, false⟩ }

/-- On both paths the LED is going to flash. -/
theorem sameEffect_ledControl :
    SameEffect (ledControlAtCursor.viaControlPoint .sample {} (.ofBytes (flashOnce 0)))
        (ledControlAtCursor.viaPacket .sample .clear {} ⟨Vector.replicate 5 0, Vector.replicate 5 0⟩ 0
          (.first 14))
      ∧ ((ledControlAtCursor.viaControlPoint .sample {}
        (.ofBytes (flashOnce 0))).tag.elems.ledDworks 0).work = some 0 :=
  ⟨(sameEffect_iff (by decide +kernel) (by unfold SameCommand; decide +kernel)
    (by decide +kernel) rfl).mpr (by unfold ExecutesUnassociate; decide +kernel), by decide +kernel⟩

/-- The tag of `configuredAndUpdating` right after it synchronised, the link still up, when it
takes up a packet with an Unassociate for it. -/
def unassociateInPacket : List TagEvent :=
  configuredAndUpdating.take 9 ++
    [ .recvCb 7 0 (.ofBytes ([15, 0x31, 0, 0, 0, 0, 0x80] ++ [4, 0x34, 0x00, 0x01, 0x01]
        ++ [0, 0, 0, 0]) fun _ => 0)
    , .pawrSyncWork fun _ => 0 ]

/-- In that state an Unassociate ends in `SM_UNASSOCIATED` over the Control Point and leaves
`SM_SYNCHRONIZED` over PAwR. -/
theorem sameEffect_fails :
    ∃ d f, TransitionSystem.run (TagDevice.step .sample .clear) (TagDevice.boot .sample {})
        unassociateInPacket = some d
      ∧ d.parser = some f ∧ d.tag.assoc.eslState = .synchronized ∧ d.tag.assoc.linkUp = true
      ∧ ¬ SameEffect (d.viaControlPoint .sample {} (.ofBytes [0x01, 0x01]))
          (d.viaPacket .sample .clear {} ⟨Vector.replicate 5 0, Vector.replicate 5 0⟩ 0 f) := by
  have hrun : ((TransitionSystem.run (TagDevice.step .sample .clear) (TagDevice.boot .sample {})
        unassociateInPacket).bind fun d => d.parser.map fun f =>
      (d.tag.assoc.eslState, d.tag.assoc.linkUp,
        (d.viaControlPoint .sample {} (.ofBytes [0x01, 0x01])).tag.assoc.eslState,
        (d.viaPacket .sample .clear {} ⟨Vector.replicate 5 0, Vector.replicate 5 0⟩ 0
          f).tag.assoc.eslState))
      = some (.synchronized, true, .unassociated, .synchronized) := by
    decide +kernel
  obtain ⟨d, hd, hf⟩ := Option.bind_eq_some_iff.mp hrun
  obtain ⟨f, hf, heq⟩ := Option.map_eq_some_iff.mp hf
  simp only [Prod.mk.injEq] at heq
  obtain ⟨hstate, hlink, hcp, hpk⟩ := heq
  refine ⟨d, f, hd, hf, hstate, hlink, fun hsame => ?_⟩
  have hassoc := congrArg Assoc.eslState hsame.1
  rw [hcp, hpk] at hassoc
  cases hassoc

end NrfEsl
