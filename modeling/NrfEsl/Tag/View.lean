import NrfEsl.Tag.Step

/-!
# The association as the state machine sees it

`View` is the part of a tag that decides about its ESL state: the state itself, which of the four
provisioning values are set and which are stored, the state timeout, and whether a PAwR sync runs.
Everything else a handler does (advertising, LEDs, displays, answers, the values of the keys) makes
no difference to it.

**Two levels.**  The operations of `View` are the state machine without its surroundings; the lemmas
`view_...` say that each handler of the tag is its operation.  `step_view` collects them: the view
moves on its own, an event takes it to `viewAfter`.  `effect_viewAfter` is the same as a case
distinction: **every event of a tag is one of eleven operations on its view, or leaves it alone**.
An invariant of the association is then checked against eleven operations and not against every
handler; `consistent_step` is the first one.

Deadlines are left out: a view knows whether the timeout is scheduled and in which mode.
-/

namespace NrfEsl

/-- The four provisioned values. -/
inductive Characteristic
  | addr | apSyncKey | responseKey | absTime
  deriving DecidableEq, Repr

/-- Which of the four values are there. -/
structure Provision where
  addr : Bool := false
  apSyncKey : Bool := false
  responseKey : Bool := false
  absTime : Bool := false
  deriving DecidableEq, Repr

namespace Provision

def has (v : Provision) : Characteristic → Bool
  | .addr => v.addr
  | .apSyncKey => v.apSyncKey
  | .responseKey => v.responseKey
  | .absTime => v.absTime

/-- All four are there. -/
def Complete (v : Provision) : Prop := ∀ c, v.has c = true

instance (v : Provision) : Decidable v.Complete :=
  decidable_of_iff (v.addr = true ∧ v.apSyncKey = true ∧ v.responseKey = true ∧ v.absTime = true)
    ⟨fun h c => by cases c <;> simp [has, h],
      fun h => ⟨h .addr, h .apSyncKey, h .responseKey, h .absTime⟩⟩

/-- Add one. -/
def add (c : Characteristic) (v : Provision) : Provision :=
  match c with
  | .addr => { v with addr := true }
  | .apSyncKey => { v with apSyncKey := true }
  | .responseKey => { v with responseKey := true }
  | .absTime => { v with absTime := true }

lemma has_add (c c' : Characteristic) (v : Provision) :
    (v.add c).has c' = (decide (c' = c) || v.has c') := by
  cases c <;> cases c' <;> simp [add, has]

@[simp] lemma has_empty (c : Characteristic) : ({} : Provision).has c = false := by
  cases c <;> rfl

lemma not_complete_empty : ¬ ({} : Provision).Complete := fun h => by simpa using h .addr

end Provision

/-- The provisioning bits. -/
def ConfiguringState.provision (c : ConfiguringState) : Provision :=
  ⟨c.addrSet, c.apSyncKeySet, c.responseKeySet, c.absTimeSet⟩

/-- The values in the settings store. -/
def Settings.provision (s : Settings) : Provision :=
  ⟨s.eslAddr.isSome, s.eslApKey.isSome, s.eslRspKey.isSome, s.eslAbsTime⟩

lemma ConfiguringState.complete_provision (c : ConfiguringState) :
    c.provision.Complete ↔ c.Provisioned :=
  ⟨fun h => ⟨h .addr, h .apSyncKey, h .responseKey, h .absTime⟩,
    fun h c => by obtain ⟨h₁, h₂, h₃, h₄⟩ := h; cases c <;> assumption⟩

/-- What the state machine of a tag depends on. -/
structure View where
  state : EslState
  provision : Provision
  stored : Provision
  scheduled : Bool
  mode : EslTimeoutMode
  synced : Bool
  synchronized : Bool
  deriving DecidableEq, Repr

/-- The view of a tag. -/
def EslTag.view (t : EslTag) : View where
  state := t.assoc.eslState
  provision := t.assoc.configuringState.provision
  stored := t.assoc.settings.provision
  scheduled := t.assoc.stateTimeoutWork.work.isSome
  mode := t.assoc.stateTimeoutWork.mode
  synced := t.assoc.pawrSynced
  synchronized := t.basicState.synchronized

/-! ## Operations -/

namespace View

variable (cfg : Config) (v : View)

/-- Schedule the state timeout in a mode. -/
def renew (mode : EslTimeoutMode) : View := { v with scheduled := true, mode := mode }

/-- `SM_UNSYNCHRONIZED` is entered with a renewed timeout: the sync is lost. -/
def lose : View := { v.renew .unassociated with state := .unsynchronized, synchronized := false }

/-- `SM_SYNCHRONIZED` is entered with a renewed timeout. -/
def synchronize : View := { v.renew .unsynced with state := .synchronized, synchronized := true }

/-- `esl_stop_sync_pawr` -/
def stopSync : View :=
  if v.synced then
    if cfg.termOnDelete then { v with synced := false }.lose else { v with synced := false }
  else v

/-- `bt_esl_unassociate` -/
def unassociate : View :=
  let v := if v.synchronized then v.stopSync cfg else v
  { v with state := .unassociated, provision := {}, stored := {}, mode := .unassociated }

/-- `sync_cb` -/
def sync : View :=
  let v := { v with synced := true }
  if v.state ≠ .synchronized then v.synchronize else v

/-- `term_cb` -/
def term : View := { v with synced := false }.lose

/-- `esl_state_timeout_work_fn`, with the work taken off the schedule. -/
def timeout : View :=
  let v := { v with scheduled := false }
  match v.mode with
  | .unsynced => v.lose.stopSync cfg
  | .unassociated => v.unassociate cfg

/-- `esl_is_configuring_state` -/
def checkConfiguring : View := if v.provision.Complete then { v with state := .configuring } else v

/-- A provisioning write before its check. -/
def provide (c : Characteristic) : View :=
  { v with
    provision := v.provision.add c
    stored := if cfg.forgetProvisionData then v.stored else v.stored.add c }

/-- `OP_UPDATE_COMPLETE` -/
def updateComplete : View :=
  if v.state = .updating ∧ v.synchronized = true then v.synchronize
  else if v.provision.Complete then { v with state := .configured } else v

/-- A loss of the link for this reason is not ignored by `disconnected`. -/
def CountsAsLoss (reason : UInt8) : Prop :=
  (reason ≠ btHciErrLocalhostTermConn ∨ reason = btHciErrAuthFail)
    ∧ ¬ (reason = btHciErrAuthFail ∧ v.synchronized = true)

instance (reason : UInt8) : Decidable (v.CountsAsLoss reason) := inferInstanceAs (Decidable (_ ∧ _))

/-- `disconnected` -/
def disconnect (reason : UInt8) : View :=
  if v.CountsAsLoss reason then
    if v.provision.Complete then { v with state := .unsynchronized, synchronized := false }
    else if v.state = .configuring ∨ v.state = .unassociated then { v with state := .unassociated }
    else v
  else v

/-- `security_changed` without an error. -/
def secure : View :=
  if v.state = .unsynchronized ∨ v.state = .synchronized then
    { v with state := .updating, scheduled := false }
  else v

/-- `bt_esl_init` with some values in the settings store. -/
def boot (stored : Provision) : View :=
  let v : View := ⟨.unassociated, stored, stored, false, .unassociated, false, false⟩
  if stored.Complete then v.lose else v

end View

/-! ## The handlers are the operations -/

namespace EslTag

variable {cfg : Config} (t : EslTag)

lemma view_congr {t t' : EslTag} (ha : t'.assoc = t.assoc) (hb : t'.basicState = t.basicState) :
    t'.view = t.view := by
  simp only [view, ha, hb]

@[simp] lemma view_emit (o : TagOutput) : (t.emit o).view = t.view := rfl

@[simp] lemma view_btEslAdvStop : (t.btEslAdvStop cfg).view = t.view :=
  view_congr (by simp) (by simp)

lemma view_rescheduleStateTimeout (mode : EslTimeoutMode) (n : ℕ) :
    (t.rescheduleStateTimeout mode n).view = t.view.renew mode := rfl

variable (cfg) in
lemma view_btEslStateTransition_synchronized (h : t.assoc.smTimeoutUpdateNeeded = true) :
    (t.btEslStateTransition cfg .synchronized).view = t.view.synchronize := by
  simp only [btEslStateTransition, smSynchronizedEntry, assoc_btEslAdvStop, assoc_btEslDisconnect, h,
    if_true, view_rescheduleStateTimeout, view_btEslAdvStop]
  rfl

variable (cfg) in
lemma view_btEslStateTransition_unsynchronized (h : t.assoc.smTimeoutUpdateNeeded = true) :
    (t.btEslStateTransition cfg .unsynchronized).view = t.view.lose := by
  have hf : ({ t with assoc.eslState := .unsynchronized } : EslTag).btEslAdvStart.assoc.smTimeoutUpdateNeeded
      = true := h
  simp only [btEslStateTransition, smUnsynchronizedEntry, hf, if_true, view_rescheduleStateTimeout]
  rfl

@[simp] lemma view_termCbTail : (t.termCbTail cfg).view = t.view.lose :=
  congrArg (fun v : View => { v with synchronized := false })
    (view_btEslStateTransition_unsynchronized cfg
      { t with assoc.smTimeoutUpdateNeeded := true } rfl)

@[simp] lemma view_eslStopSyncPawr : (t.eslStopSyncPawr cfg).view = t.view.stopSync cfg := by
  have hsynced : t.view.synced = t.assoc.pawrSynced := rfl
  by_cases hs : t.assoc.pawrSynced
  · simp only [eslStopSyncPawr, View.stopSync, hsynced, hs, if_true]
    split
    · exact view_termCbTail { t with assoc.pastSubscribed := false, assoc.pawrSynced := false }
    · rfl
  · have hv : ¬ t.view.synced = true := hs
    rw [eslStopSyncPawr, View.stopSync, if_neg hs, if_neg hv]
    rfl

@[simp] lemma view_ledDworkResetAll : (t.ledDworkResetAll cfg).view = t.view :=
  view_congr (by simp) (by simp)

lemma view_eslInitProvisionedData : t.eslInitProvisionedData.view = { t.view with mode := .unassociated } :=
  rfl

lemma view_eslSettingsDeleteProvisionedData :
    t.eslSettingsDeleteProvisionedData.view = { t.view with provision := {}, stored := {} } := rfl

lemma view_btEslUnassociate : (t.btEslUnassociate cfg).view = t.view.unassociate cfg := by
  have hbit : t.view.synchronized = t.basicState.synchronized := rfl
  have hlast : ∀ t : EslTag, ((if cfg.hasDisplayUnassociated then t.emit .displayUnassociated
      else t).btEslStateTransition cfg .unassociated).view
        = { t.view with state := .unassociated } := by
    intro t
    split <;> rfl
  have hfirst : (if t.basicState.synchronized then t.eslStopSyncPawr cfg else t).view
      = if t.view.synchronized then t.view.stopSync cfg else t.view := by
    rw [hbit]
    split <;> simp
  simp only [btEslUnassociate, hlast, view_ledDworkResetAll, view_eslSettingsDeleteProvisionedData,
    view_eslInitProvisionedData, View.unassociate, ← hfirst]
  rfl

lemma view_syncCb : (t.syncCb cfg).view = t.view.sync := by
  have hstate : t.view.state = t.assoc.eslState := rfl
  by_cases hs : t.assoc.eslState = .synchronized
  · simp only [syncCb, View.sync, hstate, hs]
    rfl
  · have h := view_btEslStateTransition_synchronized cfg
      { t with assoc.pawrSynced := true, assoc.smTimeoutUpdateNeeded := true } rfl
    simp only [syncCb, View.sync, hstate, ne_eq, hs, not_false_eq_true, if_true]
    split <;> exact h

lemma view_termCb : (t.termCb cfg).view = t.view.term := by
  simp only [termCb, view_termCbTail, view_eslStopSyncPawr]
  rfl

/-- The timeout worker runs with its work taken off the schedule. -/
lemma view_eslStateTimeoutWorkFn :
    ({ t with assoc.stateTimeoutWork.work := none }.eslStateTimeoutWorkFn cfg).view
      = t.view.timeout cfg := by
  have hmode : t.view.mode = t.assoc.stateTimeoutWork.mode := rfl
  simp only [eslStateTimeoutWorkFn, View.timeout, hmode]
  cases t.assoc.stateTimeoutWork.mode with
  | unsynced =>
      dsimp only
      rw [view_eslStopSyncPawr, view_btEslStateTransition_unsynchronized cfg _ rfl]
      rfl
  | unassociated =>
      dsimp only
      rw [view_btEslUnassociate]
      rfl

lemma view_eslIsConfiguringState :
    (t.eslIsConfiguringState cfg).2.view = t.view.checkConfiguring := by
  have hp : t.view.provision.Complete ↔ t.assoc.configuringState.Provisioned :=
    ConfiguringState.complete_provision _
  simp only [eslIsConfiguringState, View.checkConfiguring, hp]
  split <;> rfl

lemma view_opUpdateComplete : (t.opUpdateComplete cfg).view = t.view.updateComplete := by
  have hp : t.view.provision.Complete ↔ t.assoc.configuringState.Provisioned :=
    ConfiguringState.complete_provision _
  have hp' : ConfiguringState.Provisioned { t.assoc.configuringState with updateCompleteSet := true }
      ↔ t.assoc.configuringState.Provisioned := Iff.rfl
  have hstate : t.view.state = t.assoc.eslState := rfl
  have hbit : t.view.synchronized = t.basicState.synchronized := rfl
  simp only [opUpdateComplete, View.updateComplete, hstate, hbit]
  split_ifs with hu hc
  · exact view_btEslStateTransition_synchronized cfg
      { t with
        assoc.configuringState.updateCompleteSet := true, assoc.smTimeoutUpdateNeeded := true } rfl
  · have hc' := hp.mp hc
    simp only [eslIsConfiguringState, hp', hc', if_true]
    rfl
  · have hc' := mt hp.mpr hc
    simp only [eslIsConfiguringState, hp', hc', if_false]
    rfl

variable (cfg) in
lemma view_disconnectedState (reason : UInt8) :
    (t.disconnectedState cfg reason).view = t.view.disconnect reason := by
  have hp : t.view.provision.Complete ↔ t.assoc.configuringState.Provisioned :=
    ConfiguringState.complete_provision _
  have hstate : t.view.state = t.assoc.eslState := rfl
  have hbit : t.view.synchronized = t.basicState.synchronized := rfl
  have hun : ∀ t : EslTag, t.assoc.smTimeoutUpdateNeeded = false →
      (t.btEslStateTransition cfg .unsynchronized).view
        = { t.view with state := .unsynchronized, synchronized := false } := by
    intro t hf
    have hf' : ({ t with assoc.eslState := .unsynchronized } : EslTag).btEslAdvStart.assoc.smTimeoutUpdateNeeded
        = false := hf
    simp only [btEslStateTransition, smUnsynchronizedEntry, hf', Bool.false_eq_true, if_false]
    rfl
  simp only [disconnectedState, View.disconnect, View.CountsAsLoss, hstate, hbit, hp]
  by_cases hr : reason ≠ btHciErrLocalhostTermConn ∨ reason = btHciErrAuthFail
  · by_cases hauth : reason = btHciErrAuthFail ∧ t.basicState.synchronized = true
    · rw [if_pos hr, if_pos hauth, if_neg (fun h => h.2 hauth)]
    · rw [if_pos hr, if_neg hauth, if_pos ⟨hr, hauth⟩]
      by_cases hc : t.assoc.configuringState.Provisioned
      · simp only [eslIsConfiguringState, hc, if_true]
        exact hun _ rfl
      · simp only [eslIsConfiguringState, hc, if_false]
        split <;> rfl
  · rw [if_neg hr, if_neg (fun h => hr h.1)]

lemma view_disconnected (reason : UInt8) :
    (t.disconnected cfg reason).view = t.view.disconnect reason := by
  have h := view_disconnectedState cfg { t with assoc.linkUp := false } reason
  simp only [disconnected]
  split <;> exact h

lemma view_securityChanged : (t.securityChanged cfg false).view = t.view.secure := by
  have hstate : t.view.state = t.assoc.eslState := rfl
  simp only [securityChanged, View.secure, hstate, Bool.false_eq_true, if_false]
  split <;> rfl

lemma view_connected (err : UInt8) : (t.connected cfg err).view = t.view := by
  simp only [connected]
  split_ifs <;> rfl

variable (cfg) in
/-- A booting tag loads the values in its settings store. -/
lemma view_restored (p : BootParam) :
    (restored cfg p).view
      = ⟨.unassociated, p.settings.provision, p.settings.provision, false, .unassociated, false,
          false⟩ := by
  let t₀ : EslTag := { cleared p with basicState.serviceNeeded := cfg.condServiceRequired }
  have hassoc : ((t₀.ledDworkResetAll cfg).displayDworkResetAll cfg).assoc = (cleared p).assoc := by
    rw [assoc_displayDworkResetAll, assoc_ledDworkResetAll]
  have hbasic : ((t₀.ledDworkResetAll cfg).displayDworkResetAll cfg).basicState = t₀.basicState :=
    (foldl_frame (fun t idx => t.displayDworkReset cfg idx) (·.basicState) (fun _ _ => rfl) _ _).trans
      (basicState_ledDworkResetAll _)
  have hview : ∀ t : EslTag, t.smUnassociatedEntry.eslInitProvisionedData.loadSettings.view
      = { t.view with
          state := .unassociated
          provision :=
            ⟨t.view.provision.addr || t.view.stored.addr,
              t.view.provision.apSyncKey || t.view.stored.apSyncKey,
              t.view.provision.responseKey || t.view.stored.responseKey,
              t.view.provision.absTime || t.view.stored.absTime⟩
          mode := .unassociated } := fun _ => rfl
  have hcleared : (cleared p).view
      = ⟨.unassociated, {}, p.settings.provision, false, .unsynced, false, false⟩ := rfl
  have hreset : ((t₀.ledDworkResetAll cfg).displayDworkResetAll cfg).view = (cleared p).view := by
    simp only [view, hassoc, hbasic]
    rfl
  simp only [restored, hview]
  rw [hreset, hcleared]
  simp only [Bool.false_or]

/-- A tag boots with the values in its settings store. -/
lemma view_btEslInit (p : BootParam) :
    (btEslInit cfg p).view = View.boot p.settings.provision := by
  have hp : (restored cfg p).assoc.configuringState.Provisioned ↔ p.settings.provision.Complete := by
    rw [← ConfiguringState.complete_provision]
    exact iff_of_eq (congrArg (fun v : View => v.provision.Complete) (view_restored cfg p))
  have hflag : (restored cfg p).assoc.smTimeoutUpdateNeeded = true := rfl
  have hview := view_restored cfg p
  simp only [btEslInit, eslIsConfiguringState, View.boot, hp]
  generalize restored cfg p = t at hflag hview
  split
  · rename_i t' heq
    split at heq
    · cases heq
    · rename_i hc
      cases heq
      rw [if_neg hc, ← hview]
      split <;> rfl
  · rename_i t' heq
    split at heq
    · rename_i hc
      cases heq
      have hlose : ∀ t : EslTag, t.assoc.smTimeoutUpdateNeeded = true →
          ((if cfg.hasDisplayAssociated then t.emit .displayAssociated else t).btEslStateTransition cfg
            .unsynchronized).view = t.view.lose := by
        intro t ht
        split <;> exact view_btEslStateTransition_unsynchronized cfg _ ht
      rw [hlose (t.btEslStateTransition cfg .configuring) hflag, if_pos hc, ← hview]
      rfl
    · cases heq

end EslTag

/-! ## The events are the operations -/

/-- The value a characteristic write provides; the broadcast ID is refused as an address. -/
def TagEvent.provides? : TagEvent → Option Characteristic
  | .eslAddrWrite w =>
      if lowByte (sysGetLe16 w.buf.data 0 &&& 0x7FFF) = eslAddrBroadcast then none else some .addr
  | .apKeyWrite _ => some .apSyncKey
  | .eslRspKeyWrite _ => some .responseKey
  | .absTimeWrite _ => some .absTime
  | _ => none

namespace TagDevice

variable (cfg : Config) (ead : Ead)

/-- The queued command has this opcode and passes every check before the switch. -/
def Runs (op : EslOpCode) (d : TagDevice) : Prop :=
  d.tag.ReachesSwitch cfg d.ecpNetBuf ∧ d.ecpNetBuf.data 0 = op.toByte

instance (op : EslOpCode) (d : TagDevice) : Decidable (d.Runs cfg op) :=
  inferInstanceAs (Decidable (_ ∧ _))

/-- The queued command is an Unassociate for this tag and not a broadcast. -/
def RunsUnassociate (d : TagDevice) : Prop :=
  d.Runs cfg .unassociate ∧ d.ecpNetBuf.data 1 ≠ eslAddrBroadcast

instance (d : TagDevice) : Decidable (d.RunsUnassociate cfg) := inferInstanceAs (Decidable (_ ∧ _))

/-- The queued command is a Factory Reset that is carried out. -/
def RunsFactoryReset (d : TagDevice) : Prop :=
  d.Runs cfg .factoryReset ∧ d.tag.assoc.eslState ≠ .synchronized
    ∧ d.ecpNetBuf.data 1 ≠ eslAddrBroadcast

instance (d : TagDevice) : Decidable (d.RunsFactoryReset cfg) :=
  inferInstanceAs (Decidable (_ ∧ _ ∧ _))

/-- The stack is about to report that the notification of an Unassociate is sent. -/
def UnassociatedCbNext (d : TagDevice) : Prop :=
  d.notifications.head?.map Notification.func = some .unassociatedCb

instance (d : TagDevice) : Decidable d.UnassociatedCbNext := inferInstanceAs (Decidable (_ = _))

/-- A decrypted packet is an ESL AD structure for the group of this tag. -/
def IsForTag (buf : NetBuf) (d : TagDevice) : Prop :=
  IsEslAd buf ∧ (buf.pull adHeaderLen).data 0 = d.tag.assoc.eslAddr.groupId

instance (buf : NetBuf) (d : TagDevice) : Decidable (IsForTag buf d) :=
  inferInstanceAs (Decidable (_ ∧ _))

/-- The packet is decrypted and then dropped by the parser. -/
def DropsPacket (stack : Mem) (d : TagDevice) : Prop :=
  let r := (decryptPacket ead d.tag.assoc.eslApKey stack d.pawrSyncWork.buf).val
  (r.1 = true ∧ r.2.len ≠ 0) ∧ ¬ d.IsForTag r.2

instance (stack : Mem) (d : TagDevice) : Decidable (d.DropsPacket ead stack) :=
  inferInstanceAs (Decidable (_ ∧ _))

/-- The parser, at this place, leaves its loop with the next turn. -/
def LeavesLoop (d : TagDevice) (f : ParserFrame) : Prop :=
  match f.waiting with
  | some cpLen => f.payloadLen < f.cur + cpLen
  | none => f.cur < f.payloadLen →
      ¬ Addressed f d ∧ f.payloadLen < f.cur + ecpLen (d.pawrSyncWork.buf.data f.cur)

instance (d : TagDevice) (f : ParserFrame) : Decidable (d.LeavesLoop f) :=
  match f with
  | ⟨_, _, _, _, some _, _⟩ => inferInstanceAs (Decidable (_ < _))
  | ⟨_, _, _, _, none, _⟩ => inferInstanceAs (Decidable (_ → _))

/-- The next turn of the parser ends the packet. -/
def PacketEnds (d : TagDevice) : Prop := ∃ f, d.parser = some f ∧ d.LeavesLoop f

instance (d : TagDevice) : Decidable d.PacketEnds :=
  match h : d.parser with
  | none => isFalse (by rintro ⟨f, hf, -⟩; rw [h] at hf; cases hf)
  | some f => decidable_of_iff (d.LeavesLoop f)
      ⟨fun hl => ⟨f, h, hl⟩, by rintro ⟨g, hg, hl⟩; rw [h] at hg; cases hg; exact hl⟩

/-- **What an event does to the view of a tag.** -/
def viewAfter (d : TagDevice) (e : TagEvent) : View :=
  let v := d.tag.view
  match e with
  | .disconnected reason => v.disconnect reason
  | .securityChanged err => if err then v else v.secure
  | .ecpWork _ =>
      if d.RunsUnassociate cfg then { v with synchronized := false }
      else if d.RunsFactoryReset cfg then v.unassociate cfg
      else if d.Runs cfg .updateComplete then v.updateComplete
      else v
  | .notifySent => if d.UnassociatedCbNext then v.unassociate cfg else v
  | .syncCb => v.sync
  | .termCb => v.term
  | .pawrSyncWork stack => if d.DropsPacket ead stack then v.renew .unsynced else v
  | .parserStep _ => if d.PacketEnds then v.renew .unsynced else v
  | .stateTimeout => v.timeout cfg
  | .factoryReset => v.unassociate cfg
  | .unassociate => v.unassociate cfg
  | .reboot _ => View.boot v.stored
  | e =>
      match e.provides? with
      | some c => (v.provide cfg c).checkConfiguring
      | none => v

lemma viewAfter_disconnected (d : TagDevice) (reason : UInt8) :
    d.viewAfter cfg ead (.disconnected reason) = d.tag.view.disconnect reason := rfl

lemma viewAfter_secured (d : TagDevice) :
    d.viewAfter cfg ead (.securityChanged false) = d.tag.view.secure := rfl

lemma viewAfter_ecpWork (d : TagDevice) (env : HandlerEnv) :
    d.viewAfter cfg ead (.ecpWork env) =
      if d.RunsUnassociate cfg then { d.tag.view with synchronized := false }
      else if d.RunsFactoryReset cfg then d.tag.view.unassociate cfg
      else if d.Runs cfg .updateComplete then d.tag.view.updateComplete
      else d.tag.view := rfl

lemma viewAfter_notifySent (d : TagDevice) :
    d.viewAfter cfg ead .notifySent =
      if d.UnassociatedCbNext then d.tag.view.unassociate cfg else d.tag.view := rfl

lemma viewAfter_syncCb (d : TagDevice) : d.viewAfter cfg ead .syncCb = d.tag.view.sync := rfl

lemma viewAfter_pawrSyncWork (d : TagDevice) (stack : Mem) :
    d.viewAfter cfg ead (.pawrSyncWork stack) =
      if d.DropsPacket ead stack then d.tag.view.renew .unsynced else d.tag.view := rfl

lemma viewAfter_parserStep (d : TagDevice) (rnd : Randomness) :
    d.viewAfter cfg ead (.parserStep rnd) =
      if d.PacketEnds then d.tag.view.renew .unsynced else d.tag.view := rfl

lemma viewAfter_stateTimeout (d : TagDevice) :
    d.viewAfter cfg ead .stateTimeout = d.tag.view.timeout cfg := rfl

lemma viewAfter_eslAddrWrite (d : TagDevice) (w : AttWrite) :
    d.viewAfter cfg ead (.eslAddrWrite w) =
      match (TagEvent.eslAddrWrite w).provides? with
      | some c => (d.tag.view.provide cfg c).checkConfiguring
      | none => d.tag.view := rfl

/-- The event gets to the tail of `esl_pawr_sync_work_fn`, which renews the state timeout. -/
def RenewsTimeout (d : TagDevice) : TagEvent → Prop
  | .pawrSyncWork stack => d.DropsPacket ead stack
  | .parserStep _ => d.PacketEnds
  | _ => False

/-- The event calls `bt_esl_unassociate` (a run of the timeout worker apart). -/
def Unassociates (d : TagDevice) : TagEvent → Prop
  | .unassociate => True
  | .factoryReset => True
  | .notifySent => d.UnassociatedCbNext
  | .ecpWork _ => d.RunsFactoryReset cfg
  | _ => False

/-- The operations as cases: what an event may do to the view. -/
inductive Effect (d : TagDevice) : TagEvent → View → Prop
  | keep (e : TagEvent) : Effect d e d.tag.view
  | renew (e : TagEvent) (h : d.RenewsTimeout ead e) : Effect d e (d.tag.view.renew .unsynced)
  | disconnect (reason : UInt8) : Effect d (.disconnected reason) (d.tag.view.disconnect reason)
  | secure : Effect d (.securityChanged false) d.tag.view.secure
  | provide (e : TagEvent) (c : Characteristic) (h : e.provides? = some c) :
      Effect d e (d.tag.view.provide cfg c).checkConfiguring
  | clearSynchronized (env : HandlerEnv) (h : d.RunsUnassociate cfg) :
      Effect d (.ecpWork env) { d.tag.view with synchronized := false }
  | updateComplete (env : HandlerEnv) (h : d.Runs cfg .updateComplete) :
      Effect d (.ecpWork env) d.tag.view.updateComplete
  | unassociate (e : TagEvent) (h : d.Unassociates cfg e) : Effect d e (d.tag.view.unassociate cfg)
  | sync : Effect d .syncCb d.tag.view.sync
  | term : Effect d .termCb d.tag.view.term
  | timeout : Effect d .stateTimeout (d.tag.view.timeout cfg)
  | reboot (p : EslTag.BootParam) : Effect d (.reboot p) (View.boot d.tag.view.stored)

end TagDevice

/-! ### One lemma for each group of events -/

section Step

variable {cfg : Config} {ead : Ead} {d d' : TagDevice}

namespace EslTag

lemma view_prepareResponse (t : EslTag) : (t.prepareResponse cfg).view = t.view := by
  simp only [prepareResponse]
  split <;> rfl

lemma view_btEslDeleteImages (t : EslTag) : (t.btEslDeleteImages cfg).view = t.view := by
  unfold btEslDeleteImages
  split <;> rfl

lemma view_btEslFactoryReset (t : EslTag) :
    (t.btEslFactoryReset cfg).view = t.view.unassociate cfg := by
  rw [btEslFactoryReset, view_btEslUnassociate, view_btEslDeleteImages]

/-- The commands that change the view. -/
lemma view_commandSwitch (t : EslTag) (cmd : Mem) :
    (t.commandSwitch cfg cmd).view
      = match EslOpCode.ofByte? (cmd 0) with
        | some .unassociate =>
            if cmd 1 ≠ eslAddrBroadcast then { t.view with synchronized := false } else t.view
        | some .factoryReset =>
            if t.assoc.eslState ≠ .synchronized ∧ cmd 1 ≠ eslAddrBroadcast then t.view.unassociate cfg
            else t.view
        | some .updateComplete => t.view.updateComplete
        | _ => t.view := by
  have hbasic : ∀ t : EslTag, (t.btEslBasicStateUpdate cfg).view = t.view := fun _ => rfl
  unfold commandSwitch
  cases EslOpCode.ofByte? (cmd 0) with
  | none =>
      simp only [opDefault]
      split_ifs <;> rfl
  | some op =>
      cases op with
      | unassociate =>
          simp only [opUnassociate]
          split <;> rfl
      | factoryReset =>
          simp only [opFactoryReset]
          by_cases hs : t.assoc.eslState = .synchronized
          · rw [if_pos hs, if_neg (fun h => h.1 hs)]
            rfl
          · by_cases hid : cmd 1 = eslAddrBroadcast
            · rw [if_neg hs, if_pos hid, if_neg (fun h => h.2 hid)]
              rfl
            · rw [if_neg hs, if_neg hid, if_pos ⟨hs, hid⟩]
              exact view_btEslFactoryReset t
      | updateComplete => exact view_opUpdateComplete t
      | readSensorData =>
          simp only [opReadSensorData]
          split_ifs <;> rfl
      | refreshDisplay =>
          simp only [opRefreshDisplay]
          split_ifs <;> rfl
      | displayImage =>
          simp only [opDisplayImage]
          split <;> rfl
      | displayTimedImage =>
          simp only [opDisplayTimedImage]
          split
          · rfl
          · split_ifs <;> rfl
      | ledControl =>
          simp only [opLedControl]
          split_ifs <;> rfl
      | ledTimedControl =>
          simp only [opLedTimedControl]
          split_ifs <;> rfl
      | _ => rfl

/-- A command changes the view by its opcode. -/
lemma view_executeCommand (d : TagDevice) (env : HandlerEnv) :
    (d.tag.executeCommand cfg d.ecpNetBuf).1.view = d.viewAfter cfg ead (.ecpWork env) := by
  simp only [TagDevice.viewAfter_ecpWork, TagDevice.RunsUnassociate, TagDevice.RunsFactoryReset]
  by_cases hsw : d.tag.ReachesSwitch cfg d.ecpNetBuf
  · have hstart : d.tag.startCommand.view = d.tag.view := rfl
    have hstate : d.tag.startCommand.assoc.eslState = d.tag.assoc.eslState := rfl
    have hruns : ∀ op, d.Runs cfg op ↔ EslOpCode.ofByte? (d.ecpNetBuf.data 0) = some op := fun op =>
      ⟨fun h => EslOpCode.ofByte?_eq_some.mpr h.2, fun h => ⟨hsw, EslOpCode.ofByte?_eq_some.mp h⟩⟩
    rw [hsw.executeCommand, view_commandSwitch, hstart, hstate]
    simp only [hruns]
    cases EslOpCode.ofByte? (d.ecpNetBuf.data 0) with
    | none => simp
    | some op => cases op <;> simp
  · have hruns : ∀ op, ¬ d.Runs cfg op := fun op h => hsw h.1
    have hun := untouched_executeCommand hsw
    simp only [hruns, false_and, if_false, view_congr hun.assoc hun.basicState]

lemma view_eslAdvertisingFn (t : EslTag) : (t.eslAdvertisingFn cfg).view = t.view := by
  simp only [eslAdvertisingFn]
  split <;> rfl

end EslTag

namespace TagDevice

lemma view_ecpCommandHandler (env : HandlerEnv) :
    (d.ecpCommandHandler cfg env).tag.view
      = (d.tag.executeCommand cfg d.ecpNetBuf).1.view :=
  ecpCommandHandler_frame d (·.view) EslTag.view_prepareResponse env

lemma view_recvCb (counter subevent buf) :
    (d.recvCb cfg counter subevent buf).tag.view = d.tag.view := by
  refine EslTag.view_congr (by simp) ?_
  simp only [recvCb]
  split
  · rfl
  · split <;> split <;> rfl

lemma parser_beginPacket_isSome (hidle : d.parser = none) :
    d.beginPacket.parser.isSome = true ↔ d.IsForTag d.pawrSyncWork.buf := by
  simp only [beginPacket, IsForTag]
  by_cases had : IsEslAd d.pawrSyncWork.buf
  · rw [if_neg (not_not.mpr had)]
    by_cases hgroup : (d.pawrSyncWork.buf.pull adHeaderLen).data 0 = d.tag.assoc.eslAddr.groupId
    · rw [if_neg (not_not.mpr hgroup)]
      exact ⟨fun _ => ⟨had, hgroup⟩, fun _ => rfl⟩
    · rw [if_pos hgroup]
      exact ⟨fun h => by simp [hidle] at h, fun h => absurd h.2 hgroup⟩
  · rw [if_pos had]
    exact ⟨fun h => by simp [hidle] at h, fun h => absurd h.1 had⟩

/-- The worker renews the timeout itself when the packet is not for this tag. -/
lemma view_pawrSyncWorkFn (stack : Mem) (hidle : d.parser = none) :
    (d.pawrSyncWorkFn cfg ead stack).tag.view = d.viewAfter cfg ead (.pawrSyncWork stack) := by
  obtain ⟨r, hr⟩ : ∃ r, (decryptPacket ead d.tag.assoc.eslApKey stack d.pawrSyncWork.buf).val = r :=
    ⟨_, rfl⟩
  have hdrops : d.DropsPacket ead stack ↔ (r.1 = true ∧ r.2.len ≠ 0) ∧ ¬ d.IsForTag r.2 := by
    rw [DropsPacket, hr]
  simp only [pawrSyncWorkFn, viewAfter_pawrSyncWork, hr, hdrops]
  by_cases hok : r.1 = true ∧ r.2.len ≠ 0
  · have hsome := parser_beginPacket_isSome
      (d := { d with pawrSyncWork := { d.pawrSyncWork with pending := false, buf := r.2 } }) hidle
    rw [if_pos hok]
    by_cases hfor : d.IsForTag r.2
    · rw [if_pos (hsome.mpr hfor), if_neg (fun h => h.2 hfor), tag_beginPacket]
    · rw [if_neg (mt hsome.mp hfor), if_pos ⟨hok, hfor⟩, renewTimeout, tag_beginPacket]
      rfl
  · rw [if_neg hok, if_neg (fun h => hok h.1)]

/-- The parser renews the timeout at the end of a packet. -/
lemma view_parserStep {rnd : Randomness} (h : d.parserStep cfg ead rnd = some d') :
    d'.tag.view = d.viewAfter cfg ead (.parserStep rnd) := by
  have hend : ∀ f, (d.endPacket cfg ead rnd f).tag.view = d.tag.view.renew .unsynced := by
    intro f
    simp only [endPacket, setPawrResponse]
    split <;> rfl
  have hends : ∀ f, d.parser = some f → (d.PacketEnds ↔ d.LeavesLoop f) := by
    intro f hf
    constructor
    · rintro ⟨g, hg, hl⟩
      rw [hf] at hg
      cases hg
      exact hl
    · exact fun hl => ⟨f, hf, hl⟩
  simp only [parserStep] at h
  cases hp : d.parser with
  | none =>
      rw [hp] at h
      cases h
  | some f =>
      rw [hp] at h
      rw [viewAfter_parserStep]
      cases hw : f.waiting with
      | some cpLen =>
          have hiff : d.PacketEnds ↔ f.payloadLen < f.cur + cpLen := by
            rw [hends f hp, LeavesLoop, hw]
          simp only [hw, advance] at h
          split_ifs at h with hpend hfit
          · cases h
            rw [if_neg (mt hiff.mp (not_lt.mpr hfit))]
          · cases h
            rw [if_pos (hiff.mpr (not_le.mp hfit)), hend]
      | none =>
          have hiff : d.PacketEnds ↔ (f.cur < f.payloadLen → ¬ Addressed f d
              ∧ f.payloadLen < f.cur + ecpLen (d.pawrSyncWork.buf.data f.cur)) := by
            rw [hends f hp, LeavesLoop, hw]
          simp only [hw, advance] at h
          split_ifs at h with hcur haddr hfit
          · cases h
            rw [if_neg (fun hpe => (hiff.mp hpe hcur).1 haddr)]
            rfl
          · cases h
            rw [if_neg (fun hpe => absurd hfit (not_le.mpr (hiff.mp hpe hcur).2))]
          · cases h
            rw [if_pos (hiff.mpr fun _ => ⟨haddr, not_le.mp hfit⟩), hend]
          · cases h
            rw [if_pos (hiff.mpr fun hc => absurd hc hcur), hend]

/-- **The view moves on its own**: what an event does to the view of a tag is `viewAfter`. -/
theorem step_view {e : TagEvent} (h : d.step cfg ead e = some d') :
    d'.tag.view = d.viewAfter cfg ead e := by
  cases e with
  | tick | imageWritten | busy =>
      cases h
      rfl
  | connected err =>
      cases h
      exact EslTag.view_connected d.tag err
  | disconnected reason =>
      cases h
      exact EslTag.view_disconnected d.tag reason
  | securityChanged err =>
      cases h
      cases err with
      | false => exact EslTag.view_securityChanged d.tag
      | true => rfl
  | eslAddrWrite w =>
      cases h
      simp only [onTag, EslTag.eslAddrWrite, viewAfter_eslAddrWrite, TagEvent.provides?]
      by_cases hid : lowByte (sysGetLe16 w.buf.data 0 &&& 0x7FFF) = eslAddrBroadcast
      · rw [dif_pos hid, if_pos hid]
      · rw [dif_neg hid, if_neg hid, EslTag.view_eslIsConfiguringState]
        refine congrArg View.checkConfiguring ?_
        simp only [EslTag.view, View.provide]
        split <;> rfl
  | apKeyWrite | eslRspKeyWrite | absTimeWrite =>
      cases h
      refine (EslTag.view_eslIsConfiguringState _).trans (congrArg View.checkConfiguring ?_)
      simp only [EslTag.view, View.provide]
      split <;> rfl
  | eslControlWrite w =>
      cases h
      rw [tag_eslControlWrite]
      rfl
  | ecpWork env =>
      obtain ⟨-, rfl⟩ := step_ecpWork_eq_some.mp h
      rw [view_ecpCommandHandler]
      exact EslTag.view_executeCommand d env
  | notifySent =>
      obtain ⟨n, rest, hn, rfl⟩ := step_notifySent_eq_some.mp h
      simp only [viewAfter_notifySent, UnassociatedCbNext, hn, List.head?_cons, Option.map_some,
        Option.some.injEq, notifyComplete]
      cases n.func with
      | unassociatedCb => exact EslTag.view_btEslUnassociate d.tag
      | notifyCb => rfl
  | syncCb =>
      cases h
      exact EslTag.view_syncCb d.tag
  | termCb =>
      cases h
      exact EslTag.view_termCb d.tag
  | recvCb counter subevent buf =>
      cases h
      exact view_recvCb counter subevent buf
  | pawrSyncWork stack =>
      obtain ⟨hp, rfl⟩ := step_pawrSyncWork_eq_some.mp h
      exact view_pawrSyncWorkFn stack hp.2
  | parserStep rnd => exact view_parserStep h
  | stateTimeout =>
      obtain ⟨-, rfl⟩ := step_stateTimeout_eq_some.mp h
      exact EslTag.view_eslStateTimeoutWorkFn d.tag
  | ledWork idx =>
      obtain ⟨-, rfl⟩ := step_ledWork_eq_some.mp h
      exact EslTag.view_congr (EslTag.assoc_ledDelayWorkerFn _ _)
        (EslTag.basicState_ledDelayWorkerFn _ _)
  | displayWork idx =>
      obtain ⟨-, rfl⟩ := step_displayWork_eq_some.mp h
      exact EslTag.view_congr (EslTag.assoc_displayDelayWorkerFn _ _)
        (EslTag.basicState_displayDelayWorkerFn _ _)
  | advWork =>
      obtain ⟨-, rfl⟩ := step_advWork_eq_some.mp h
      exact EslTag.view_eslAdvertisingFn d.tag
  | factoryReset =>
      cases h
      exact EslTag.view_btEslFactoryReset d.tag
  | unassociate =>
      cases h
      exact EslTag.view_btEslUnassociate d.tag
  | reboot p =>
      cases h
      exact EslTag.view_btEslInit _

/-- **Every event of a tag is one of the operations on its view.** -/
theorem effect_viewAfter (d : TagDevice) (e : TagEvent) :
    d.Effect cfg ead e (d.viewAfter cfg ead e) := by
  cases e with
  | disconnected reason => exact .disconnect reason
  | securityChanged err =>
      cases err with
      | false => exact .secure
      | true => exact .keep _
  | ecpWork env =>
      rw [viewAfter_ecpWork]
      split_ifs with hun hfr huc
      · exact .clearSynchronized env hun
      · exact .unassociate _ hfr
      · exact .updateComplete env huc
      · exact .keep _
  | notifySent =>
      rw [viewAfter_notifySent]
      split_ifs with h
      · exact .unassociate _ h
      · exact .keep _
  | syncCb => exact .sync
  | termCb => exact .term
  | pawrSyncWork stack =>
      rw [viewAfter_pawrSyncWork]
      split_ifs with h
      · exact .renew _ h
      · exact .keep _
  | parserStep rnd =>
      rw [viewAfter_parserStep]
      split_ifs with h
      · exact .renew _ h
      · exact .keep _
  | stateTimeout => exact .timeout
  | factoryReset => exact .unassociate _ trivial
  | unassociate => exact .unassociate _ trivial
  | reboot p => exact .reboot p
  | eslAddrWrite w =>
      rw [viewAfter_eslAddrWrite]
      split
      · rename_i c hc
        exact .provide _ c hc
      · exact .keep _
  | apKeyWrite | eslRspKeyWrite | absTimeWrite => exact .provide _ _ rfl
  | _ => exact .keep _

/-! Events whose operation does not show in their name. -/

lemma viewAfter_of_renewsTimeout {e : TagEvent} (h : d.RenewsTimeout ead e) :
    d.viewAfter cfg ead e = d.tag.view.renew .unsynced := by
  cases e with
  | pawrSyncWork stack => exact if_pos h
  | parserStep rnd => exact if_pos h
  | _ => cases h

lemma viewAfter_of_provides {e : TagEvent} {c : Characteristic} (h : e.provides? = some c) :
    d.viewAfter cfg ead e = (d.tag.view.provide cfg c).checkConfiguring := by
  cases e with
  | eslAddrWrite w => rw [viewAfter_eslAddrWrite, h]
  | apKeyWrite | eslRspKeyWrite | absTimeWrite =>
      cases h
      rfl
  | _ => cases h

lemma viewAfter_of_runsUnassociate {env : HandlerEnv} (h : d.RunsUnassociate cfg) :
    d.viewAfter cfg ead (.ecpWork env) = { d.tag.view with synchronized := false } := by
  rw [viewAfter_ecpWork, if_pos h]

lemma viewAfter_of_unassociates {e : TagEvent} (h : d.Unassociates cfg e) :
    d.viewAfter cfg ead e = d.tag.view.unassociate cfg := by
  cases e with
  | factoryReset | unassociate => rfl
  | notifySent => exact if_pos h
  | ecpWork env =>
      have hfr : d.RunsFactoryReset cfg := h
      have hun : ¬ d.RunsUnassociate cfg := fun h' => absurd (h'.1.2.symm.trans hfr.1.2) (by decide)
      rw [viewAfter_ecpWork, if_neg hun, if_pos hfr]
  | _ => cases h

lemma viewAfter_of_updateComplete {env : HandlerEnv} (h : d.Runs cfg .updateComplete) :
    d.viewAfter cfg ead (.ecpWork env) = d.tag.view.updateComplete := by
  have hun : ¬ d.RunsUnassociate cfg := fun h' => absurd (h'.1.2.symm.trans h.2) (by decide)
  have hfr : ¬ d.RunsFactoryReset cfg := fun h' => absurd (h'.1.2.symm.trans h.2) (by decide)
  rw [viewAfter_ecpWork, if_neg hun, if_neg hfr, if_pos h]

lemma step_effect {e : TagEvent} (h : d.step cfg ead e = some d') :
    d.Effect cfg ead e d'.tag.view :=
  step_view h ▸ effect_viewAfter d e

end TagDevice

/-! ## What holds of every view -/

/-- State, provisioning bits and stored values agree, as far as every handler checks them. -/
structure View.Consistent (v : View) : Prop where
  unassociated : v.state = .unassociated → ¬ v.provision.Complete
  configuring : v.state = .configuring ∨ v.state = .configured → v.provision.Complete
  stored : ∀ c, v.stored.has c = true → v.provision.has c = true

namespace View.Consistent

variable {v : View}

/-- In the later states only the stored values count. -/
lemma of_later (hs : v.state = .synchronized ∨ v.state = .updating ∨ v.state = .unsynchronized)
    (hst : ∀ c, v.stored.has c = true → v.provision.has c = true) : v.Consistent := by
  refine ⟨fun h => ?_, fun h => ?_, hst⟩
  · rcases hs with hs | hs | hs <;> simp [hs] at h
  · rcases hs with hs | hs | hs <;> simp [hs] at h

lemma of_unassociated (hs : v.state = .unassociated) (hc : ¬ v.provision.Complete)
    (hst : ∀ c, v.stored.has c = true → v.provision.has c = true) : v.Consistent := by
  refine ⟨fun _ => hc, fun h => ?_, hst⟩
  rcases h with h | h <;> simp [hs] at h

lemma of_complete (hs : v.state ≠ .unassociated) (hc : v.provision.Complete)
    (hst : ∀ c, v.stored.has c = true → v.provision.has c = true) : v.Consistent :=
  ⟨fun h => absurd h hs, fun _ => hc, hst⟩

lemma lose (h : v.Consistent) : v.lose.Consistent := of_later (.inr (.inr rfl)) h.stored

lemma synchronize (h : v.Consistent) : v.synchronize.Consistent := of_later (.inl rfl) h.stored

lemma unassociate : (v.unassociate cfg).Consistent :=
  of_unassociated rfl Provision.not_complete_empty fun c hc => by simp [View.unassociate] at hc

lemma disconnect (h : v.Consistent) (reason : UInt8) : (v.disconnect reason).Consistent := by
  unfold View.disconnect
  split_ifs with hloss hc hs
  · exact of_later (.inr (.inr rfl)) h.stored
  · exact of_unassociated rfl hc h.stored
  · exact h
  · exact h

lemma provide (h : v.Consistent) (c : Characteristic) :
    (v.provide cfg c).checkConfiguring.Consistent := by
  have hst : ∀ c', (v.provide cfg c).stored.has c' = true
      → (v.provide cfg c).provision.has c' = true := by
    intro c' hc'
    simp only [View.provide, Provision.has_add, Bool.or_eq_true] at hc' ⊢
    split at hc'
    · exact .inr (h.stored c' hc')
    · rw [Provision.has_add, Bool.or_eq_true] at hc'
      exact hc'.imp_right (h.stored c')
  unfold View.checkConfiguring
  split_ifs with hc
  · exact of_complete (fun h => by cases h) hc hst
  · refine ⟨fun _ => hc, fun hs c' => ?_, hst⟩
    have hold := h.configuring hs c'
    simp only [View.provide, Provision.has_add, hold, Bool.or_true]

lemma updateComplete (h : v.Consistent) : v.updateComplete.Consistent := by
  unfold View.updateComplete
  split_ifs with hs hc
  · exact h.synchronize
  · exact of_complete (fun h => by cases h) hc h.stored
  · exact h

lemma secure (h : v.Consistent) : v.secure.Consistent := by
  unfold View.secure
  split_ifs
  · exact of_later (.inr (.inl rfl)) h.stored
  · exact h

lemma sync (h : v.Consistent) : v.sync.Consistent := by
  simp only [View.sync]
  split_ifs with hs
  · exact of_later (.inl rfl) h.stored
  · exact ⟨h.unassociated, h.configuring, h.stored⟩

lemma timeout (h : v.Consistent) : (v.timeout cfg).Consistent := by
  simp only [View.timeout]
  split
  · unfold View.stopSync
    split_ifs
    · exact of_later (.inr (.inr rfl)) h.stored
    · exact of_later (.inr (.inr rfl)) h.stored
    · exact of_later (.inr (.inr rfl)) h.stored
  · exact unassociate

/-- A tag boots into a consistent view. -/
lemma boot (stored : Provision) : (View.boot stored).Consistent := by
  simp only [View.boot]
  split_ifs with hc
  · exact of_later (.inr (.inr rfl)) fun _ h => h
  · exact of_unassociated rfl hc fun _ h => h

end View.Consistent

/-- **Every event keeps the view consistent.** -/
theorem TagDevice.consistent_step {e : TagEvent} (h : d.tag.view.Consistent)
    (hstep : d.step cfg ead e = some d') : d'.tag.view.Consistent := by
  have heff := step_effect hstep
  generalize d'.tag.view = v' at heff ⊢
  cases heff with
  | keep => exact h
  | renew => exact ⟨h.unassociated, h.configuring, h.stored⟩
  | disconnect reason => exact h.disconnect reason
  | secure => exact h.secure
  | provide _ c => exact h.provide c
  | clearSynchronized => exact ⟨h.unassociated, h.configuring, h.stored⟩
  | updateComplete => exact h.updateComplete
  | unassociate => exact .unassociate
  | sync => exact h.sync
  | term => exact .lose ⟨h.unassociated, h.configuring, h.stored⟩
  | timeout => exact h.timeout
  | reboot => exact .boot _

/-- A tag boots into a consistent state. -/
lemma TagDevice.consistent_boot (p : EslTag.BootParam) :
    (TagDevice.boot cfg p).tag.view.Consistent := by
  rw [TagDevice.boot, EslTag.view_btEslInit]
  exact .boot _

/-- **Every state a tag can be in is consistent.** -/
theorem TagDevice.Reachable.consistent (h : Reachable cfg ead d) : d.tag.view.Consistent := by
  refine TransitionSystem.Reachable.induction (I := fun d => d.tag.view.Consistent) ?_ ?_ h
  · rintro _ ⟨p, -, rfl⟩
    exact consistent_boot p
  · intro d e d' hd hstep
    exact consistent_step hd hstep

end Step

end NrfEsl
