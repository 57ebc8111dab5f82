import NrfEsl.Tag.Display

/-!
# Handlers take no time

The uptime of a tag is a number that the handlers read: it dates the works they schedule and it is what
the absolute time is counted from.  None of them sets it, so between two ticks it stands still
(`uptime_step`).  What time a worker takes shows in the model as a tick before it.
-/

namespace NrfEsl

namespace EslTag

variable {cfg : Config} (t : EslTag)

/-! ## The state machine -/

@[simp] lemma uptime_btEslAdvStop : (t.btEslAdvStop cfg).uptime = t.uptime := by
  unfold btEslAdvStop
  split <;> rfl

@[simp] lemma uptime_btEslStateTransition (state : EslState) :
    (t.btEslStateTransition cfg state).uptime = t.uptime :=
  frame_btEslStateTransition t (fun _ _ _ => rfl) (fun t => uptime_btEslAdvStop t.btEslDisconnect) state

@[simp] lemma uptime_eslIsConfiguringState : (t.eslIsConfiguringState cfg).2.uptime = t.uptime := by
  unfold eslIsConfiguringState
  split
  · exact uptime_btEslStateTransition t _
  · rfl

@[simp] lemma uptime_termCbTail : (t.termCbTail cfg).uptime = t.uptime :=
  uptime_btEslStateTransition { t with assoc.smTimeoutUpdateNeeded := true } _

@[simp] lemma uptime_eslStopSyncPawr : (t.eslStopSyncPawr cfg).uptime = t.uptime := by
  simp only [eslStopSyncPawr]
  split_ifs <;> simp

@[simp] lemma uptime_termCb : (t.termCb cfg).uptime = t.uptime := by
  simp [termCb]

@[simp] lemma uptime_syncCb : (t.syncCb cfg).uptime = t.uptime := by
  simp only [syncCb]
  split_ifs <;> simp

@[simp] lemma uptime_btEslUnassociate : (t.btEslUnassociate cfg).uptime = t.uptime := by
  have hclear : ∀ t : EslTag,
      t.eslInitProvisionedData.eslSettingsDeleteProvisionedData.uptime = t.uptime := fun _ => rfl
  have hdisconnect : ∀ t : EslTag, t.btEslDisconnect.uptime = t.uptime := fun _ => rfl
  simp only [btEslUnassociate, uptime_btEslStateTransition]
  split_ifs <;> simp [hclear, hdisconnect]

@[simp] lemma uptime_btEslFactoryReset : (t.btEslFactoryReset cfg).uptime = t.uptime := by
  rw [btEslFactoryReset, uptime_btEslUnassociate, btEslDeleteImages]
  split <;> rfl

lemma uptime_eslStateTimeoutWorkFn : (t.eslStateTimeoutWorkFn cfg).uptime = t.uptime := by
  unfold eslStateTimeoutWorkFn
  split <;> simp

/-! ## Links and provisioning -/

lemma uptime_connected (err : UInt8) : (t.connected cfg err).uptime = t.uptime := by
  simp only [connected]
  split_ifs <;> rfl

lemma uptime_disconnected (reason : UInt8) : (t.disconnected cfg reason).uptime = t.uptime := by
  have hstate : ∀ t : EslTag, (t.disconnectedState cfg reason).uptime = t.uptime := by
    intro t
    simp only [disconnectedState, eslIsConfiguringState]
    split_ifs <;> simp
    split <;> simp
  simp only [disconnected]
  split
  · exact hstate _
  · exact hstate _

lemma uptime_securityChanged (err : Bool) : (t.securityChanged cfg err).uptime = t.uptime := by
  simp only [securityChanged]
  split_ifs <;> simp

lemma uptime_eslAddrWrite (w : AttWrite) : (t.eslAddrWrite cfg w).2.uptime = t.uptime := by
  simp only [eslAddrWrite]
  split
  · rfl
  · exact uptime_eslIsConfiguringState _

/-! ## Workers -/

lemma uptime_ledDelayWorkerFn (idx : ℕ) : (t.ledDelayWorkerFn cfg idx).uptime = t.uptime := by
  have honOff : ∀ (t : EslTag) onoff, (t.ledOnOff idx onoff).uptime = t.uptime := fun _ _ => rfl
  have henable : ∀ t : EslTag, (t.ledEnable idx).uptime = t.uptime := by
    intro t
    simp only [ledEnable]
    split <;> rfl
  have hstop : ∀ t : EslTag, (t.ledStopByTime idx).uptime = t.uptime := by
    intro t
    simp only [ledStopByTime]
    split <;> rfl
  have hbit : ∀ t : EslTag, (t.ledShowBit idx).uptime = t.uptime := fun _ => rfl
  simp only [ledDelayWorkerFn]
  split_ifs <;> simp only [ledContinuous, uptime_updateLed, honOff, henable, hstop, hbit]

lemma uptime_displayDelayWorkerFn (idx : ℕ) :
    (t.displayDelayWorkerFn cfg idx).uptime = t.uptime := by
  simp only [displayDelayWorkerFn]
  split_ifs <;> rfl

lemma uptime_eslAdvertisingFn : (t.eslAdvertisingFn cfg).uptime = t.uptime := by
  simp only [eslAdvertisingFn]
  split <;> rfl

/-! ## Commands -/

lemma uptime_opUpdateComplete : (t.opUpdateComplete cfg).uptime = t.uptime := by
  simp only [opUpdateComplete, eslIsConfiguringState]
  split_ifs <;> simp

lemma uptime_commandSwitch (cmd : Mem) : (t.commandSwitch cfg cmd).uptime = t.uptime := by
  unfold commandSwitch
  cases EslOpCode.ofByte? (cmd 0) with
  | none =>
      simp only [opDefault]
      split_ifs <;> rfl
  | some op =>
      cases op with
      | ping => rfl
      | unassociate =>
          simp only [opUnassociate]
          split <;> rfl
      | serviceReset => rfl
      | factoryReset =>
          simp only [opFactoryReset]
          split_ifs
          · rfl
          · rfl
          · exact uptime_btEslFactoryReset t
      | updateComplete => exact uptime_opUpdateComplete t
      | readSensorData =>
          simp only [opReadSensorData]
          split_ifs <;> rfl
      | refreshDisplay =>
          simp only [opRefreshDisplay]
          split_ifs <;> rfl
      | displayImage =>
          simp only [opDisplayImage]
          split <;> rfl
      | displayTimedImage =>
          simp only [opDisplayTimedImage]
          split
          · rfl
          · split_ifs <;> rfl
      | ledControl =>
          simp only [opLedControl]
          split_ifs <;> rfl
      | ledTimedControl =>
          simp only [opLedTimedControl]
          split_ifs <;> rfl

lemma uptime_executeCommand (buf : NetBuf) : (t.executeCommand cfg buf).1.uptime = t.uptime := by
  by_cases h : t.ReachesSwitch cfg buf
  · rw [h.executeCommand]
    exact uptime_commandSwitch t.startCommand buf.data
  · exact (untouched_executeCommand h).uptime

lemma uptime_prepareResponse : (t.prepareResponse cfg).uptime = t.uptime := by
  simp only [prepareResponse]
  split <;> rfl

end EslTag

namespace TagDevice

open EslTag

variable {cfg : Config} {ead : Ead} {d d' : TagDevice} {e : TagEvent}

/-! ## Events -/

lemma uptime_recvCb (counter subevent buf) :
    (d.recvCb cfg counter subevent buf).tag.uptime = d.tag.uptime := by
  simp only [recvCb]
  split
  · rfl
  · split <;> split <;> rfl

lemma uptime_pawrSyncWorkFn (stack : Mem) :
    (d.pawrSyncWorkFn cfg ead stack).tag.uptime = d.tag.uptime := by
  simp only [pawrSyncWorkFn]
  split
  · split
    · rw [tag_beginPacket]
    · simp only [renewTimeout, tag_beginPacket]
      rfl
  · rfl

lemma uptime_parserStep {rnd : Randomness} (h : d.parserStep cfg ead rnd = some d') :
    d'.tag.uptime = d.tag.uptime := by
  cases parserTurn h with
  | move => rfl
  | dispatch => rfl
  | finish =>
      simp only [endPacket, setPawrResponse]
      split <;> rfl

/-- **Only a tick and a boot set the uptime.** -/
theorem uptime_step (h : d.step cfg ead e = some d') (htick : ∀ ms, e ≠ .tick ms)
    (hboot : ∀ p, e ≠ .reboot p) : d'.tag.uptime = d.tag.uptime := by
  cases e with
  | tick ms => exact absurd rfl (htick ms)
  | connected err =>
      cases h
      exact uptime_connected d.tag err
  | disconnected reason =>
      cases h
      exact uptime_disconnected d.tag reason
  | securityChanged err =>
      cases h
      exact uptime_securityChanged d.tag err
  | eslAddrWrite w =>
      cases h
      exact uptime_eslAddrWrite d.tag w
  | apKeyWrite | eslRspKeyWrite | absTimeWrite =>
      cases h
      exact uptime_eslIsConfiguringState _
  | eslControlWrite w =>
      cases h
      rw [tag_eslControlWrite]
  | ecpWork env =>
      obtain ⟨-, rfl⟩ := step_ecpWork_eq_some.mp h
      rw [ecpCommandHandler_frame d (·.uptime) uptime_prepareResponse env, uptime_executeCommand]
  | notifySent =>
      obtain ⟨n, rest, -, rfl⟩ := step_notifySent_eq_some.mp h
      cases n.func with
      | unassociatedCb => exact uptime_btEslUnassociate d.tag
      | notifyCb => rfl
  | syncCb =>
      cases h
      exact uptime_syncCb d.tag
  | termCb =>
      cases h
      exact uptime_termCb d.tag
  | recvCb counter subevent buf =>
      cases h
      exact uptime_recvCb counter subevent buf
  | pawrSyncWork stack =>
      obtain ⟨-, rfl⟩ := step_pawrSyncWork_eq_some.mp h
      exact uptime_pawrSyncWorkFn stack
  | parserStep rnd => exact uptime_parserStep h
  | stateTimeout =>
      obtain ⟨-, rfl⟩ := step_stateTimeout_eq_some.mp h
      exact uptime_eslStateTimeoutWorkFn _
  | ledWork idx =>
      obtain ⟨-, rfl⟩ := step_ledWork_eq_some.mp h
      exact uptime_ledDelayWorkerFn d.tag idx
  | displayWork idx =>
      obtain ⟨-, rfl⟩ := step_displayWork_eq_some.mp h
      exact uptime_displayDelayWorkerFn d.tag idx
  | advWork =>
      obtain ⟨-, rfl⟩ := step_advWork_eq_some.mp h
      exact uptime_eslAdvertisingFn d.tag
  | factoryReset =>
      cases h
      exact uptime_btEslFactoryReset d.tag
  | unassociate =>
      cases h
      exact uptime_btEslUnassociate d.tag
  | imageWritten | busy =>
      cases h
      rfl
  | reboot p => exact absurd rfl (hboot p)

/-- Between two boots time does not go back. -/
lemma uptime_le_of_step (h : d.step cfg ead e = some d') (hboot : ∀ p, e ≠ .reboot p) :
    d.tag.uptime ≤ d'.tag.uptime := by
  by_cases htick : ∃ ms, e = .tick ms
  · obtain ⟨ms, rfl⟩ := htick
    cases h
    exact Nat.le_add_right _ _
  · exact (uptime_step h (fun ms he => htick ⟨ms, he⟩) hboot).ge

end TagDevice

end NrfEsl
