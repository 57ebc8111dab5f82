import Mathlib.Control.Monad.Writer
import NrfEsl.Tag.View

/-!
# Edges of the state machine

`bt_esl_state_transition` enters whatever state it is asked for.  Here the handlers are written once
more as computations that **record every transition they make**, as a pair of the state left and the
state entered (`Recorded`); `val_step` says that without the record they are the handlers.

**Which edges are taken** (`stateGraph_iff`).  Three of the four restricted edges come from
`esl_is_configuring_state`, which enters `SM_CONFIGURING` on its way to answering a question.  It is
asked by the provisioning writes, Update Complete and a link loss, and only boot asks it in a known
state.  All edges of a run belong to the state graph exactly when the question is answered with yes
in `SM_UNASSOCIATED` and `SM_CONFIGURING` only.
-/

namespace NrfEsl

/-! ## Specification -/

/-- The edges of the ESL state machine. -/
def EslState.MayEnter (s : EslState) : EslState → Prop
  | .configuring => s = .unassociated ∨ s = .configuring
  | .configured => s = .configuring
  | .updating => s = .synchronized ∨ s = .unsynchronized
  | _ => True

/-- A computation that records its transitions: the state left and the state entered. -/
abbrev Recorded := Writer (List (EslState × EslState))

namespace Recorded

variable {α β : Type}

def val (x : Recorded α) : α := x.run.run.1

def edges (x : Recorded α) : List (EslState × EslState) := x.run.run.2

/-- Every recorded transition is an edge of the state machine. -/
def Legal (x : Recorded α) : Prop := ∀ edge ∈ x.edges, edge.1.MayEnter edge.2

@[simp] lemma val_pure (a : α) : val (pure a) = a := rfl

@[simp] lemma val_bind (x : Recorded α) (f : α → Recorded β) :
    val (x >>= f) = val (f (val x)) := rfl

@[simp] lemma val_ite (p : Prop) [Decidable p] (x y : Recorded α) :
    val (if p then x else y) = if p then val x else val y := by
  split <;> rfl

@[simp] lemma edges_pure (a : α) : edges (pure a) = [] := rfl

@[simp] lemma edges_bind (x : Recorded α) (f : α → Recorded β) :
    edges (x >>= f) = edges x ++ edges (f (val x)) := rfl

@[simp] lemma legal_pure (a : α) : Legal (pure a) := by simp [Legal]

@[simp] lemma legal_bind (x : Recorded α) (f : α → Recorded β) :
    Legal (x >>= f) ↔ Legal x ∧ Legal (f (val x)) := by
  simp only [Legal, edges_bind, List.mem_append]
  constructor
  · intro h
    exact ⟨fun e he => h e (.inl he), fun e he => h e (.inr he)⟩
  · rintro ⟨h₁, h₂⟩ e (he | he)
    · exact h₁ e he
    · exact h₂ e he

end Recorded

/-! ## The handlers, recorded -/

namespace Recorded

open EslTag

variable (cfg : Config)

/-- `bt_esl_state_transition` -/
def btEslStateTransition (state : EslState) (t : EslTag) : Recorded EslTag := do
  tell [(t.assoc.eslState, state)]
  return t.btEslStateTransition cfg state

/-- `esl_is_configuring_state` -/
def eslIsConfiguringState (t : EslTag) : Recorded (Bool × EslTag) :=
  if t.assoc.configuringState.Provisioned then do
    let t ← btEslStateTransition cfg .configuring t
    return (true, t)
  else return (false, t)

/-- `term_cb` after its `esl_stop_sync_pawr`. -/
def termCbTail (t : EslTag) : Recorded EslTag := do
  let t := { t with assoc.smTimeoutUpdateNeeded := true }
  let t ← btEslStateTransition cfg .unsynchronized t
  return { t with basicState.synchronized := false }

/-- `esl_stop_sync_pawr` -/
def eslStopSyncPawr (t : EslTag) : Recorded EslTag :=
  let t := { t with assoc.pastSubscribed := false }
  if t.assoc.pawrSynced then
    let t := { t with assoc.pawrSynced := false }
    if cfg.termOnDelete then termCbTail cfg t else return t
  else return t

/-- `sync_cb` -/
def syncCb (t : EslTag) : Recorded EslTag :=
  let t := { t with assoc.pawrSynced := true }
  if t.assoc.eslState ≠ .synchronized then do
    let t := { t with assoc.smTimeoutUpdateNeeded := true }
    let t ← btEslStateTransition cfg .synchronized t
    return if cfg.hasDisplayAssociated then t.emit .displayAssociated else t
  else return t

/-- `term_cb` -/
def termCb (t : EslTag) : Recorded EslTag := do
  let t := { t with assoc.pawrSynced := false }
  let t ← eslStopSyncPawr cfg t
  termCbTail cfg t

/-- `bt_esl_unassociate` -/
def btEslUnassociate (t : EslTag) : Recorded EslTag := do
  let t ← (if t.basicState.synchronized then eslStopSyncPawr cfg t else pure t)
  let t := t.btEslDisconnect.emit .unpair
  let t := t.eslInitProvisionedData.eslSettingsDeleteProvisionedData
  let t := t.ledDworkResetAll cfg
  let t := if cfg.hasDisplayUnassociated then t.emit .displayUnassociated else t
  btEslStateTransition cfg .unassociated t

/-- `bt_esl_factory_reset` -/
def btEslFactoryReset (t : EslTag) : Recorded EslTag := btEslUnassociate cfg (t.btEslDeleteImages cfg)

/-- `esl_state_timeout_work_fn` -/
def eslStateTimeoutWorkFn (t : EslTag) : Recorded EslTag :=
  match t.assoc.stateTimeoutWork.mode with
  | .unsynced => do
      let t := { t with assoc.smTimeoutUpdateNeeded := true }
      let t ← btEslStateTransition cfg .unsynchronized t
      eslStopSyncPawr cfg t
  | .unassociated => btEslUnassociate cfg t

/-- The state machine part of `disconnected`. -/
def disconnectedState (reason : UInt8) (t : EslTag) : Recorded EslTag :=
  if reason ≠ btHciErrLocalhostTermConn ∨ reason = btHciErrAuthFail then
    if reason = btHciErrAuthFail ∧ t.basicState.synchronized = true then return t
    else do
      let r ← eslIsConfiguringState cfg t
      if r.1 then
        btEslStateTransition cfg .unsynchronized { r.2 with assoc.smTimeoutUpdateNeeded := false }
      else if r.2.assoc.eslState = .configuring ∨ r.2.assoc.eslState = .unassociated then
        btEslStateTransition cfg .unassociated r.2
      else return r.2
  else return t

/-- `disconnected` -/
def disconnected (reason : UInt8) (t : EslTag) : Recorded EslTag := do
  let t ← disconnectedState cfg reason { t with assoc.linkUp := false }
  let t := { t with assoc.connectFrom := .notConnected }
  return if cfg.ledIndication then t.emit (.ledControl cfg.indicationLedIdx 0 false) else t

/-- `security_changed` -/
def securityChanged (err : Bool) (t : EslTag) : Recorded EslTag :=
  if err then return t
  else if t.assoc.eslState = .unsynchronized ∨ t.assoc.eslState = .synchronized then
    btEslStateTransition cfg .updating t
  else return t

/-- The end of a provisioning write. -/
def checkConfiguring (t : EslTag) : Recorded EslTag := do
  let r ← eslIsConfiguringState cfg t
  return r.2

/-- `esl_addr_write` -/
def eslAddrWrite (w : AttWrite) (t : EslTag) : Recorded EslTag :=
  let newEslAddr := sysGetLe16 w.buf.data 0 &&& 0x7FFF
  if h : lowByte newEslAddr = eslAddrBroadcast then return t
  else
    let addr : EslAddr := ⟨newEslAddr, h⟩
    checkConfiguring cfg { t with
      assoc.eslAddr := addr
      assoc.configuringState.addrSet := true
      assoc.settings.eslAddr :=
        if cfg.forgetProvisionData then t.assoc.settings.eslAddr else some addr }

/-- `ap_key_write` -/
def apKeyWrite (w : AttWrite) (t : EslTag) : Recorded EslTag :=
  checkConfiguring cfg { t with
    assoc.eslApKey := storedKey w
    assoc.configuringState.apSyncKeySet := true
    assoc.settings.eslApKey :=
      if cfg.forgetProvisionData then t.assoc.settings.eslApKey else some (storedKey w) }

/-- `esl_rsp_key_write` -/
def eslRspKeyWrite (w : AttWrite) (t : EslTag) : Recorded EslTag :=
  checkConfiguring cfg { t with
    assoc.eslRspKey := storedKey w
    assoc.configuringState.responseKeySet := true
    assoc.settings.eslRspKey :=
      if cfg.forgetProvisionData then t.assoc.settings.eslRspKey else some (storedKey w) }

/-- `abs_time_write` -/
def absTimeWrite (w : AttWrite) (t : EslTag) : Recorded EslTag :=
  let t := t.absTimeUpdate (sysGetLe32 w.buf.data 0)
  checkConfiguring cfg { t with
    assoc.configuringState.absTimeSet := true
    assoc.settings.eslAbsTime := if cfg.forgetProvisionData then t.assoc.settings.eslAbsTime
      else true }

/-- `bt_esl_init`, from where the settings are loaded. -/
def btEslInit (p : BootParam) : Recorded EslTag := do
  let r ← eslIsConfiguringState cfg (restored cfg p)
  if r.1 then
    btEslStateTransition cfg .unsynchronized
      (if cfg.hasDisplayAssociated then r.2.emit .displayAssociated else r.2)
  else return if cfg.hasDisplayUnassociated then r.2.emit .displayUnassociated else r.2

/-- `OP_FACTORY_RESET` -/
def opFactoryReset (eslId : UInt8) (t : EslTag) : Recorded EslTag :=
  if t.assoc.eslState = .synchronized then return t.setError .invState
  else if eslId = eslAddrBroadcast then return t.setError .retry
  else do
    let t ← btEslFactoryReset cfg t
    return { t with ecp.respNeeded := false }

/-- `OP_UPDATE_COMPLETE` -/
def opUpdateComplete (t : EslTag) : Recorded EslTag :=
  let t := { t with assoc.configuringState.updateCompleteSet := true }
  if t.assoc.eslState = .updating ∧ t.basicState.synchronized = true then
    btEslStateTransition cfg .synchronized { t with assoc.smTimeoutUpdateNeeded := true }
  else do
    let r ← eslIsConfiguringState cfg t
    if r.1 then btEslStateTransition cfg .configured r.2 else return r.2

/-- The command switch; the other commands make no transition. -/
def commandSwitch (cmd : Mem) (t : EslTag) : Recorded EslTag :=
  if EslOpCode.ofByte? (cmd 0) = some .factoryReset then opFactoryReset cfg (cmd 1) t
  else if EslOpCode.ofByte? (cmd 0) = some .updateComplete then opUpdateComplete cfg t
  else return t.commandSwitch cfg cmd

/-- `ecp_command_handler` before `ecp_response`. -/
def executeCommand (buf : NetBuf) (t : EslTag) : Recorded (EslTag × Bool) :=
  if t.ReachesSwitch cfg buf then do
    let t ← commandSwitch cfg buf.data t.startCommand
    return (t, true)
  else return t.executeCommand cfg buf

/-- Apply a recorded handler that only touches the tag proper. -/
def onTag (f : EslTag → Recorded EslTag) (d : TagDevice) : Recorded (Option TagDevice) := do
  let t ← f d.tag
  return some { d with tag := t }

/-- `ecp_command_handler` -/
def ecpCommandHandler (env : HandlerEnv) (d : TagDevice) : Recorded TagDevice := do
  let r ← executeCommand cfg d.ecpNetBuf d.tag
  let d := { d with ecpWorkPending := false, tag := r.1 }
  return if r.2 then d.ecpResponseHandler cfg env
    else d.logExecution ⟨⟨d.ecpWorkSrc, d.ecpNetBuf.bytes⟩, .foreign⟩

/-- The completion callback of a notification. -/
def notifyComplete (func : NotifyFunc) (d : TagDevice) : Recorded TagDevice :=
  match func with
  | .unassociatedCb => do
      let t ← btEslUnassociate cfg d.tag
      return { d with tag := { t with ecp.notifyFunc := none } }
  | .notifyCb => return d

/-- One event, with its transitions. -/
def step (ead : Ead) (d : TagDevice) : TagEvent → Recorded (Option TagDevice)
  | .disconnected reason => onTag (disconnected cfg reason) d
  | .securityChanged err => onTag (securityChanged cfg err) d
  | .eslAddrWrite w => onTag (eslAddrWrite cfg w) d
  | .apKeyWrite w => onTag (apKeyWrite cfg w) d
  | .eslRspKeyWrite w => onTag (eslRspKeyWrite cfg w) d
  | .absTimeWrite w => onTag (absTimeWrite cfg w) d
  | .ecpWork env =>
      if d.ecpWorkPending then do
        let d ← ecpCommandHandler cfg env d
        return some d
      else return none
  | .notifySent =>
      match d.notifications with
      | [] => return none
      | n :: rest => do
          let d ← notifyComplete cfg n.func { d with notifications := rest }
          return some d
  | .syncCb => onTag (syncCb cfg) d
  | .termCb => onTag (termCb cfg) d
  | .stateTimeout =>
      if d.tag.assoc.stateTimeoutWork.work.Due d.tag.uptime then
        onTag (fun t => eslStateTimeoutWorkFn cfg { t with assoc.stateTimeoutWork.work := none }) d
      else return none
  | .factoryReset => onTag (btEslFactoryReset cfg) d
  | .unassociate => onTag (btEslUnassociate cfg) d
  | .reboot p => do
      let p := { p with settings := d.tag.assoc.settings }
      let t ← btEslInit cfg p
      return some { TagDevice.boot cfg p with tag := t }
  -- no other handler makes a transition
  | e => return d.step cfg ead e

/-! ### Without the record -/

section Val

variable {cfg} (t : EslTag)

@[simp] lemma val_btEslStateTransition (state : EslState) :
    val (btEslStateTransition cfg state t) = t.btEslStateTransition cfg state := rfl

@[simp] lemma val_eslIsConfiguringState :
    val (eslIsConfiguringState cfg t) = t.eslIsConfiguringState cfg := by
  simp only [eslIsConfiguringState, EslTag.eslIsConfiguringState]
  split <;> rfl

@[simp] lemma val_eslStopSyncPawr : val (eslStopSyncPawr cfg t) = t.eslStopSyncPawr cfg := by
  simp only [eslStopSyncPawr, EslTag.eslStopSyncPawr]
  split
  · split <;> rfl
  · rfl

lemma val_syncCb : val (syncCb cfg t) = t.syncCb cfg := by
  simp only [syncCb, EslTag.syncCb]
  split <;> rfl

lemma val_termCb : val (termCb cfg t) = t.termCb cfg := by
  simp only [termCb, val_bind, val_eslStopSyncPawr]
  rfl

@[simp] lemma val_btEslUnassociate : val (btEslUnassociate cfg t) = t.btEslUnassociate cfg := by
  simp only [btEslUnassociate, val_bind, val_ite, val_eslStopSyncPawr, val_pure]
  rfl

@[simp] lemma val_btEslFactoryReset : val (btEslFactoryReset cfg t) = t.btEslFactoryReset cfg :=
  val_btEslUnassociate _

lemma val_eslStateTimeoutWorkFn :
    val (eslStateTimeoutWorkFn cfg t) = t.eslStateTimeoutWorkFn cfg := by
  simp only [eslStateTimeoutWorkFn, EslTag.eslStateTimeoutWorkFn]
  cases t.assoc.stateTimeoutWork.mode with
  | unsynced => exact val_eslStopSyncPawr _
  | unassociated => exact val_btEslUnassociate t

lemma val_disconnectedState (reason : UInt8) :
    val (disconnectedState cfg reason t) = t.disconnectedState cfg reason := by
  simp only [disconnectedState, EslTag.disconnectedState, eslIsConfiguringState,
    EslTag.eslIsConfiguringState]
  split
  · split
    · rfl
    · by_cases hp : t.assoc.configuringState.Provisioned
      · simp only [hp, if_true]
        rfl
      · simp only [hp, if_false, val_bind, val_pure, Bool.false_eq_true]
        exact val_ite _ _ _
  · rfl

lemma val_disconnected (reason : UInt8) :
    val (disconnected cfg reason t) = t.disconnected cfg reason := by
  simp only [disconnected, val_bind, val_disconnectedState]
  rfl

lemma val_securityChanged (err : Bool) :
    val (securityChanged cfg err t) = t.securityChanged cfg err := by
  simp only [securityChanged, EslTag.securityChanged]
  split
  · rfl
  · split <;> rfl

@[simp] lemma val_checkConfiguring :
    val (checkConfiguring cfg t) = (t.eslIsConfiguringState cfg).2 := by
  simp only [checkConfiguring, val_bind, val_eslIsConfiguringState, val_pure]

lemma val_eslAddrWrite (w : AttWrite) : val (eslAddrWrite cfg w t) = (t.eslAddrWrite cfg w).2 := by
  simp only [eslAddrWrite, EslTag.eslAddrWrite]
  split
  · rfl
  · exact val_checkConfiguring _

lemma val_btEslInit (p : BootParam) : val (btEslInit cfg p) = EslTag.btEslInit cfg p := by
  simp only [btEslInit, EslTag.btEslInit, val_bind, val_eslIsConfiguringState,
    EslTag.eslIsConfiguringState]
  by_cases hp : (restored cfg p).assoc.configuringState.Provisioned
  · simp only [hp, if_true]
    rfl
  · simp only [hp, if_false]
    rfl

lemma val_opFactoryReset (eslId : UInt8) :
    val (opFactoryReset cfg eslId t) = t.opFactoryReset cfg eslId := by
  simp only [opFactoryReset, EslTag.opFactoryReset]
  split
  · rfl
  · split
    · rfl
    · simp only [val_bind, val_btEslFactoryReset, val_pure]

lemma val_opUpdateComplete : val (opUpdateComplete cfg t) = t.opUpdateComplete cfg := by
  simp only [opUpdateComplete, EslTag.opUpdateComplete]
  split
  · rfl
  · simp only [val_bind, val_eslIsConfiguringState, EslTag.eslIsConfiguringState]
    split <;> rfl

lemma val_commandSwitch (cmd : Mem) : val (commandSwitch cfg cmd t) = t.commandSwitch cfg cmd := by
  simp only [commandSwitch]
  split_ifs with hfr huc
  · rw [EslTag.commandSwitch, hfr]
    exact val_opFactoryReset t _
  · rw [EslTag.commandSwitch, huc]
    exact val_opUpdateComplete t
  · rfl

lemma val_executeCommand (buf : NetBuf) :
    val (executeCommand cfg buf t) = t.executeCommand cfg buf := by
  simp only [executeCommand]
  split
  · rename_i hsw
    rw [hsw.executeCommand, val_bind, val_commandSwitch]
    rfl
  · rfl

lemma val_onTag {f : EslTag → Recorded EslTag} {g : EslTag → EslTag} (h : ∀ t, val (f t) = g t)
    (d : TagDevice) : val (onTag f d) = some (d.onTag g) := by
  simp only [onTag, val_bind, h]
  rfl

/-- **The recorded step is the step.** -/
theorem val_step (ead : Ead) (d : TagDevice) (e : TagEvent) :
    val (step cfg ead d e) = d.step cfg ead e := by
  cases e with
  | disconnected reason => exact val_onTag (fun t => val_disconnected t reason) d
  | securityChanged err => exact val_onTag (fun t => val_securityChanged t err) d
  | eslAddrWrite w => exact val_onTag (fun t => val_eslAddrWrite t w) d
  | apKeyWrite w => exact val_onTag (fun t => val_checkConfiguring _) d
  | eslRspKeyWrite w => exact val_onTag (fun t => val_checkConfiguring _) d
  | absTimeWrite w => exact val_onTag (fun t => val_checkConfiguring _) d
  | ecpWork env =>
      simp only [step, TagDevice.step]
      split
      · simp only [val_bind, ecpCommandHandler, val_executeCommand]
        rfl
      · rfl
  | notifySent =>
      simp only [step, TagDevice.step]
      cases d.notifications with
      | nil => rfl
      | cons n rest =>
          simp only [val_bind, notifyComplete, TagDevice.notifyComplete]
          cases n.func with
          | unassociatedCb =>
              simp only [val_bind, val_btEslUnassociate]
              rfl
          | notifyCb => rfl
  | syncCb => exact val_onTag val_syncCb d
  | termCb => exact val_onTag val_termCb d
  | stateTimeout =>
      simp only [step, TagDevice.step]
      split
      · exact val_onTag (fun t => val_eslStateTimeoutWorkFn _) d
      · rfl
  | factoryReset => exact val_onTag val_btEslFactoryReset d
  | unassociate => exact val_onTag val_btEslUnassociate d
  | reboot p =>
      simp only [step, val_bind, val_btEslInit]
      rfl
  | _ => rfl

end Val

/-! ### Which transitions are legal -/

section Legal

variable {cfg} (t : EslTag)

@[simp] lemma legal_btEslStateTransition (state : EslState) :
    Legal (btEslStateTransition cfg state t) ↔ t.assoc.eslState.MayEnter state := by
  have hedges : edges (btEslStateTransition cfg state t) = [(t.assoc.eslState, state)] := rfl
  simp only [Legal, hedges, List.mem_singleton, forall_eq]

/-- `SM_SYNCHRONIZED`, `SM_UNSYNCHRONIZED` and `SM_UNASSOCIATED` may be entered from anywhere. -/
lemma legal_transition {state : EslState}
    (h : state = .synchronized ∨ state = .unsynchronized ∨ state = .unassociated) :
    Legal (btEslStateTransition cfg state t) := by
  rw [legal_btEslStateTransition]
  rcases h with rfl | rfl | rfl <;> trivial

lemma legal_termCbTail : Legal (termCbTail cfg t) :=
  (legal_bind _ _).mpr ⟨legal_transition _ (.inr (.inl rfl)), legal_pure _⟩

lemma legal_eslStopSyncPawr : Legal (eslStopSyncPawr cfg t) := by
  simp only [eslStopSyncPawr]
  split
  · split
    · exact legal_termCbTail _
    · exact legal_pure _
  · exact legal_pure _

lemma legal_syncCb : Legal (syncCb cfg t) := by
  simp only [syncCb]
  split
  · exact (legal_bind _ _).mpr ⟨legal_transition _ (.inl rfl), legal_pure _⟩
  · exact legal_pure _

lemma legal_termCb : Legal (termCb cfg t) :=
  (legal_bind _ _).mpr ⟨legal_eslStopSyncPawr _, legal_termCbTail _⟩

lemma legal_btEslUnassociate : Legal (btEslUnassociate cfg t) := by
  refine (legal_bind _ _).mpr ⟨?_, legal_transition _ (.inr (.inr rfl))⟩
  split
  · exact legal_eslStopSyncPawr t
  · exact legal_pure t

lemma legal_eslStateTimeoutWorkFn : Legal (eslStateTimeoutWorkFn cfg t) := by
  simp only [eslStateTimeoutWorkFn]
  split
  · exact (legal_bind _ _).mpr ⟨legal_transition _ (.inr (.inl rfl)), legal_eslStopSyncPawr _⟩
  · exact legal_btEslUnassociate t

lemma legal_securityChanged (err : Bool) : Legal (securityChanged cfg err t) := by
  simp only [securityChanged]
  split
  · exact legal_pure t
  · split
    · rename_i h
      exact (legal_btEslStateTransition _ _).mpr h.symm
    · exact legal_pure t

/-- The check enters `SM_CONFIGURING` from wherever the tag is. -/
lemma legal_eslIsConfiguringState :
    Legal (eslIsConfiguringState cfg t)
      ↔ (t.assoc.configuringState.Provisioned →
          t.assoc.eslState = .unassociated ∨ t.assoc.eslState = .configuring) := by
  simp only [eslIsConfiguringState]
  split_ifs with hp
  · rw [legal_bind, legal_btEslStateTransition]
    exact ⟨fun h _ => h.1, fun h => ⟨h hp, legal_pure _⟩⟩
  · exact iff_of_true (legal_pure _) fun h => absurd h hp

/-- What follows the check adds nothing, if it is legal from `SM_CONFIGURING`. -/
lemma legal_eslIsConfiguringState_bind {k : Bool × EslTag → Recorded EslTag}
    (htrue : ∀ t : EslTag, t.assoc.eslState = .configuring → Legal (k (true, t)))
    (hfalse : ∀ t, Legal (k (false, t))) :
    Legal (eslIsConfiguringState cfg t >>= k)
      ↔ (t.assoc.configuringState.Provisioned →
          t.assoc.eslState = .unassociated ∨ t.assoc.eslState = .configuring) := by
  rw [legal_bind, legal_eslIsConfiguringState, val_eslIsConfiguringState]
  refine and_iff_left ?_
  rw [EslTag.eslIsConfiguringState]
  split
  · exact htrue _ (eslState_btEslStateTransition _ _)
  · exact hfalse t

lemma legal_checkConfiguring :
    Legal (checkConfiguring cfg t)
      ↔ (t.assoc.configuringState.Provisioned →
          t.assoc.eslState = .unassociated ∨ t.assoc.eslState = .configuring) :=
  legal_eslIsConfiguringState_bind t (fun _ _ => legal_pure _) fun _ => legal_pure _

lemma legal_disconnected (reason : UInt8) :
    Legal (disconnected cfg reason t)
      ↔ (t.view.CountsAsLoss reason ∧ t.assoc.configuringState.Provisioned →
          t.assoc.eslState = .unassociated ∨ t.assoc.eslState = .configuring) := by
  have hbit : t.view.synchronized = t.basicState.synchronized := rfl
  rw [disconnected, legal_bind, and_iff_left (legal_pure _)]
  simp only [disconnectedState, View.CountsAsLoss, hbit]
  split_ifs with hr hauth
  · exact iff_of_true (legal_pure _) fun h => absurd hauth h.1.2
  · refine (legal_eslIsConfiguringState_bind _ (fun t _ => ?_) fun t => ?_).trans
      ⟨fun h h' => h h'.2, fun h h' => h ⟨⟨hr, hauth⟩, h'⟩⟩
    · exact legal_transition _ (.inr (.inl rfl))
    · simp only [Bool.false_eq_true, if_false]
      split
      · exact legal_transition _ (.inr (.inr rfl))
      · exact legal_pure _
  · exact iff_of_true (legal_pure _) fun h => absurd h.1.1 hr

lemma legal_opUpdateComplete :
    Legal (opUpdateComplete cfg t)
      ↔ (¬ (t.assoc.eslState = .updating ∧ t.basicState.synchronized = true)
          ∧ t.assoc.configuringState.Provisioned →
          t.assoc.eslState = .unassociated ∨ t.assoc.eslState = .configuring) := by
  simp only [opUpdateComplete]
  split_ifs with hu
  · exact iff_of_true (legal_transition _ (.inl rfl)) fun h => absurd hu h.1
  · exact (legal_eslIsConfiguringState_bind _
      (fun t hs => (legal_btEslStateTransition t .configured).mpr hs) fun t => legal_pure t).trans
        ⟨fun h h' => h h'.2, fun h h' => h ⟨hu, h'⟩⟩

lemma legal_btEslInit (p : BootParam) : Legal (btEslInit cfg p) := by
  have hu : (restored cfg p).assoc.eslState = .unassociated := rfl
  exact (legal_eslIsConfiguringState_bind _ (fun t _ => legal_transition _ (.inr (.inl rfl)))
    fun t => legal_pure _).mpr fun _ => .inl hu

end Legal

end Recorded

/-! ## Runs -/

/-- The event asks `esl_is_configuring_state` and is answered with yes. -/
def TagDevice.FindsConfigured (cfg : Config) (d : TagDevice) : TagEvent → Prop
  | .disconnected reason =>
      d.tag.view.CountsAsLoss reason ∧ d.tag.assoc.configuringState.Provisioned
  | .ecpWork _ =>
      d.Runs cfg .updateComplete
        ∧ ¬ (d.tag.assoc.eslState = .updating ∧ d.tag.basicState.synchronized = true)
        ∧ d.tag.assoc.configuringState.Provisioned
  | e => ∃ c, e.provides? = some c ∧ (d.tag.view.provision.add c).Complete

/-- The check for a complete configuration succeeds only on the way to one. -/
def ChecksWhileConfiguring (cfg : Config) (d : TagDevice) (e : TagEvent) : Prop :=
  d.FindsConfigured cfg e →
    d.tag.assoc.eslState = .unassociated ∨ d.tag.assoc.eslState = .configuring

section Runs

variable {cfg : Config} {ead : Ead} {d d' : TagDevice}

open Recorded

lemma legal_onTag {f : EslTag → Recorded EslTag} (h : Legal (f d.tag)) : Legal (onTag f d) :=
  (legal_bind _ _).mpr ⟨h, legal_pure _⟩

/-- A run of the command handler makes an illegal transition only for Update Complete. -/
lemma legal_ecpCommandHandler (env : HandlerEnv) :
    Legal (Recorded.ecpCommandHandler cfg env d) ↔ ChecksWhileConfiguring cfg d (.ecpWork env) := by
  rw [Recorded.ecpCommandHandler, legal_bind, and_iff_left (legal_pure _), Recorded.executeCommand]
  simp only [ChecksWhileConfiguring, TagDevice.FindsConfigured, TagDevice.Runs]
  split_ifs with hsw
  · rw [legal_bind, and_iff_left (legal_pure _), Recorded.commandSwitch]
    split_ifs with hfr huc
    · have hne : d.ecpNetBuf.data 0 ≠ EslOpCode.updateComplete.toByte := by
        rw [EslOpCode.ofByte?_eq_some.mp hfr]
        decide
      refine iff_of_true ?_ fun h => absurd h.1.2 hne
      simp only [Recorded.opFactoryReset]
      split_ifs
      · exact legal_pure _
      · exact legal_pure _
      · exact (legal_bind _ _).mpr ⟨legal_btEslUnassociate _, legal_pure _⟩
    · rw [legal_opUpdateComplete]
      exact ⟨fun h h' => h h'.2, fun h h' => h ⟨⟨hsw, EslOpCode.ofByte?_eq_some.mp huc⟩, h'⟩⟩
    · exact iff_of_true (legal_pure _) fun h => absurd (EslOpCode.ofByte?_eq_some.mpr h.1.2) huc
  · exact iff_of_true (legal_pure _) fun h => absurd h.1.1 hsw

/-- A write makes an illegal transition when it finds the bits complete in a later state. -/
lemma legal_write {e : TagEvent} (c : Characteristic) (hc : e.provides? = some c) {t : EslTag}
    (ht : t.assoc.configuringState.provision = d.tag.view.provision.add c)
    (hs : t.assoc.eslState = d.tag.assoc.eslState) :
    Legal (checkConfiguring cfg t)
      ↔ ((∃ c, e.provides? = some c ∧ (d.tag.view.provision.add c).Complete) →
          d.tag.assoc.eslState = .unassociated ∨ d.tag.assoc.eslState = .configuring) := by
  rw [legal_checkConfiguring, ← ConfiguringState.complete_provision, ht, hs]
  refine imp_congr_left ⟨fun h => ⟨c, hc, h⟩, ?_⟩
  rintro ⟨c', hc', h⟩
  rw [hc] at hc'
  cases hc'
  exact h

/-- **One step.**  Its transitions are edges exactly when it checks on the way to a configuration
only. -/
theorem legal_step {e : TagEvent} (hstep : d.step cfg ead e = some d') :
    Legal (Recorded.step cfg ead d e) ↔ ChecksWhileConfiguring cfg d e := by
  have hquiet : ∀ {x : Recorded (Option TagDevice)}, Legal x → e.provides? = none →
      d.FindsConfigured cfg e = (∃ c, e.provides? = some c ∧ (d.tag.view.provision.add c).Complete) →
      (Legal x ↔ ChecksWhileConfiguring cfg d e) := by
    intro x hx hnone hfinds
    refine iff_of_true hx fun h => ?_
    rw [hfinds, hnone] at h
    obtain ⟨c, hc, -⟩ := h
    cases hc
  cases e with
  | disconnected reason =>
      rw [Recorded.step, onTag, legal_bind, and_iff_left (legal_pure _)]
      exact legal_disconnected d.tag reason
  | eslAddrWrite w =>
      rw [Recorded.step, onTag, legal_bind, and_iff_left (legal_pure _), Recorded.eslAddrWrite]
      split
      · rename_i hid
        refine hquiet (x := pure none) (legal_pure _) ?_ rfl
        simp only [TagEvent.provides?, hid, if_true]
      · rename_i hid
        refine legal_write .addr ?_ rfl rfl
        simp only [TagEvent.provides?, hid, if_false]
  | apKeyWrite w =>
      rw [Recorded.step, onTag, legal_bind, and_iff_left (legal_pure _)]
      exact legal_write .apSyncKey rfl rfl rfl
  | eslRspKeyWrite w =>
      rw [Recorded.step, onTag, legal_bind, and_iff_left (legal_pure _)]
      exact legal_write .responseKey rfl rfl rfl
  | absTimeWrite w =>
      rw [Recorded.step, onTag, legal_bind, and_iff_left (legal_pure _)]
      exact legal_write .absTime rfl rfl rfl
  | ecpWork env =>
      obtain ⟨hpending, -⟩ := TagDevice.step_ecpWork_eq_some.mp hstep
      rw [Recorded.step, if_pos hpending, legal_bind, and_iff_left (legal_pure _)]
      exact legal_ecpCommandHandler env
  | securityChanged err => exact hquiet (legal_onTag (legal_securityChanged _ err)) rfl rfl
  | notifySent =>
      refine hquiet ?_ rfl rfl
      simp only [Recorded.step]
      split
      · exact legal_pure _
      · refine (legal_bind _ _).mpr ⟨?_, legal_pure _⟩
        simp only [Recorded.notifyComplete]
        split
        · exact (legal_bind _ _).mpr ⟨legal_btEslUnassociate _, legal_pure _⟩
        · exact legal_pure _
  | syncCb => exact hquiet (legal_onTag (legal_syncCb _)) rfl rfl
  | termCb => exact hquiet (legal_onTag (legal_termCb _)) rfl rfl
  | stateTimeout =>
      refine hquiet ?_ rfl rfl
      simp only [Recorded.step]
      split
      · exact legal_onTag (legal_eslStateTimeoutWorkFn _)
      · exact legal_pure _
  | factoryReset => exact hquiet (legal_onTag (legal_btEslUnassociate _)) rfl rfl
  | unassociate => exact hquiet (legal_onTag (legal_btEslUnassociate _)) rfl rfl
  | reboot p => exact hquiet ((legal_bind _ _).mpr ⟨legal_btEslInit _, legal_pure _⟩) rfl rfl
  | _ => exact hquiet (legal_pure _) rfl rfl

/-- **State graph.**  Boot only takes edges of the state graph, and a run takes only edges of it
exactly when `esl_is_configuring_state` is answered with yes in `SM_UNASSOCIATED` and
`SM_CONFIGURING` only. -/
theorem stateGraph_iff (cfg : Config) (ead : Ead) (p : EslTag.BootParam) (es : List TagEvent) :
    Legal (Recorded.btEslInit cfg p)
    ∧ (TransitionSystem.StepsMeet (TagDevice.step cfg ead)
          (fun d e => Legal (Recorded.step cfg ead d e)) (TagDevice.boot cfg p) es
        ↔ TransitionSystem.StepsMeet (TagDevice.step cfg ead) (ChecksWhileConfiguring cfg)
            (TagDevice.boot cfg p) es) :=
  ⟨legal_btEslInit p,
    TransitionSystem.stepsMeet_congr (I := fun _ => True) (fun _ _ _ _ _ => trivial)
      (fun _ _ _ _ hstep => legal_step hstep) trivial⟩

end Runs

/-! ## The states an event enters -/

namespace View

variable (cfg : Config) (v : View)

/-- The states `disconnected` enters. -/
def enteredByDisconnect (reason : UInt8) : List EslState :=
  if v.CountsAsLoss reason then
    if v.provision.Complete then [.configuring, .unsynchronized]
    else if v.state = .configuring ∨ v.state = .unassociated then [.unassociated]
    else []
  else []

/-- The states `security_changed` enters without an error. -/
def enteredBySecure : List EslState :=
  if v.state = .unsynchronized ∨ v.state = .synchronized then [.updating] else []

/-- The states `OP_UPDATE_COMPLETE` enters. -/
def enteredByUpdateComplete : List EslState :=
  if v.state = .updating ∧ v.synchronized = true then [.synchronized]
  else if v.provision.Complete then [.configuring, .configured] else []

/-- The states `esl_stop_sync_pawr` enters, through `term_cb`. -/
def enteredByStopSync : List EslState :=
  if v.synced ∧ cfg.termOnDelete then [.unsynchronized] else []

/-- The states `bt_esl_unassociate` enters. -/
def enteredByUnassociate : List EslState :=
  (if v.synchronized then v.enteredByStopSync cfg else []) ++ [.unassociated]

/-- The states the timeout worker enters. -/
def enteredByTimeout : List EslState :=
  match v.mode with
  | .unsynced => .unsynchronized :: v.enteredByStopSync cfg
  | .unassociated => v.enteredByUnassociate cfg

end View

/-- The states an event enters on a tag with this view, in order. -/
def TagDevice.enteredStates (cfg : Config) (d : TagDevice) (e : TagEvent) : List EslState :=
  let v := d.tag.view
  match e with
  | .disconnected reason => v.enteredByDisconnect reason
  | .securityChanged err => if err then [] else v.enteredBySecure
  | .ecpWork _ =>
      if d.RunsUnassociate cfg then []
      else if d.RunsFactoryReset cfg then v.enteredByUnassociate cfg
      else if d.Runs cfg .updateComplete then v.enteredByUpdateComplete
      else []
  | .notifySent => if d.UnassociatedCbNext then v.enteredByUnassociate cfg else []
  | .syncCb => if v.state ≠ .synchronized then [.synchronized] else []
  | .termCb => [.unsynchronized]
  | .stateTimeout => v.enteredByTimeout cfg
  | .factoryReset => v.enteredByUnassociate cfg
  | .unassociate => v.enteredByUnassociate cfg
  | .reboot _ => if v.stored.Complete then [.configuring, .unsynchronized] else []
  | e =>
      match e.provides? with
      | some c => if (v.provision.add c).Complete then [.configuring] else []
      | none => []

namespace Recorded

open EslTag

/-- The states entered, in order. -/
def entered {α : Type} (x : Recorded α) : List EslState := x.edges.map Prod.snd

section Entered

variable {α β : Type} {cfg : Config} (t : EslTag)

@[simp] lemma entered_pure (a : α) : entered (pure a) = [] := rfl

@[simp] lemma entered_bind (x : Recorded α) (f : α → Recorded β) :
    entered (x >>= f) = entered x ++ entered (f (val x)) := List.map_append

@[simp] lemma entered_ite (p : Prop) [Decidable p] (x y : Recorded α) :
    entered (if p then x else y) = if p then entered x else entered y := by
  split <;> rfl

@[simp] lemma entered_btEslStateTransition (state : EslState) :
    entered (btEslStateTransition cfg state t) = [state] := rfl

lemma entered_termCbTail : entered (termCbTail cfg t) = [.unsynchronized] := rfl

lemma entered_eslStopSyncPawr :
    entered (eslStopSyncPawr cfg t) = t.view.enteredByStopSync cfg := by
  have hsynced : t.view.synced = t.assoc.pawrSynced := rfl
  simp only [eslStopSyncPawr, View.enteredByStopSync, hsynced]
  by_cases hs : t.assoc.pawrSynced = true <;> by_cases ht : cfg.termOnDelete = true <;>
    simp [hs, ht, entered_termCbTail]

lemma entered_syncCb :
    entered (syncCb cfg t) = if t.view.state ≠ .synchronized then [.synchronized] else [] := by
  have hstate : t.view.state = t.assoc.eslState := rfl
  simp only [syncCb, hstate]
  split <;> rfl

lemma entered_termCb : entered (termCb cfg t) = [.unsynchronized] := by
  rw [termCb, entered_bind, entered_eslStopSyncPawr, entered_termCbTail]
  rfl

lemma entered_btEslUnassociate :
    entered (btEslUnassociate cfg t) = t.view.enteredByUnassociate cfg := by
  have hbit : t.view.synchronized = t.basicState.synchronized := rfl
  rw [btEslUnassociate, entered_bind, entered_ite, entered_eslStopSyncPawr]
  rfl

lemma entered_btEslFactoryReset :
    entered (btEslFactoryReset cfg t) = t.view.enteredByUnassociate cfg := by
  rw [btEslFactoryReset, entered_btEslUnassociate, view_btEslDeleteImages]

/-- The timeout worker runs with its work taken off the schedule. -/
lemma entered_eslStateTimeoutWorkFn :
    entered (eslStateTimeoutWorkFn cfg { t with assoc.stateTimeoutWork.work := none })
      = t.view.enteredByTimeout cfg := by
  have hmode : t.view.mode = t.assoc.stateTimeoutWork.mode := rfl
  simp only [eslStateTimeoutWorkFn, View.enteredByTimeout, hmode]
  cases t.assoc.stateTimeoutWork.mode with
  | unsynced =>
      simp only [entered_bind, entered_btEslStateTransition, entered_eslStopSyncPawr,
        val_btEslStateTransition, view_btEslStateTransition_unsynchronized]
      rfl
  | unassociated => exact entered_btEslUnassociate _

lemma entered_eslIsConfiguringState :
    entered (eslIsConfiguringState cfg t)
      = if t.view.provision.Complete then [.configuring] else [] := by
  have hp : t.view.provision.Complete ↔ t.assoc.configuringState.Provisioned :=
    ConfiguringState.complete_provision _
  simp only [eslIsConfiguringState, hp]
  split <;> rfl

lemma entered_checkConfiguring :
    entered (checkConfiguring cfg t)
      = if t.view.provision.Complete then [.configuring] else [] := by
  rw [checkConfiguring, entered_bind, entered_eslIsConfiguringState, entered_pure, List.append_nil]

/-- What follows the check, by its answer. -/
lemma entered_eslIsConfiguringState_bind (k : Bool × EslTag → Recorded EslTag) :
    entered (eslIsConfiguringState cfg t >>= k)
      = if t.view.provision.Complete then
          .configuring :: entered (k (true, t.btEslStateTransition cfg .configuring))
        else entered (k (false, t)) := by
  have hp : t.view.provision.Complete ↔ t.assoc.configuringState.Provisioned :=
    ConfiguringState.complete_provision _
  rw [entered_bind, entered_eslIsConfiguringState, val_eslIsConfiguringState,
    EslTag.eslIsConfiguringState]
  simp only [hp]
  split <;> rfl

lemma entered_disconnected (reason : UInt8) :
    entered (disconnected cfg reason t) = t.view.enteredByDisconnect reason := by
  have hbit : t.view.synchronized = t.basicState.synchronized := rfl
  rw [disconnected, entered_bind, entered_pure, List.append_nil]
  simp only [disconnectedState, View.enteredByDisconnect, View.CountsAsLoss, hbit]
  by_cases hr : reason ≠ btHciErrLocalhostTermConn ∨ reason = btHciErrAuthFail
  · by_cases hauth : reason = btHciErrAuthFail ∧ t.basicState.synchronized = true
    · rw [if_pos hr, if_pos hauth, if_neg (fun h => h.2 hauth), entered_pure]
    · rw [if_pos hr, if_neg hauth, if_pos ⟨hr, hauth⟩, entered_eslIsConfiguringState_bind]
      simp only [if_true, Bool.false_eq_true, if_false, entered_ite, entered_btEslStateTransition,
        entered_pure]
      rfl
  · rw [if_neg hr, if_neg (fun h => hr h.1), entered_pure]

lemma entered_securityChanged (err : Bool) :
    entered (securityChanged cfg err t) = if err then [] else t.view.enteredBySecure := by
  have hstate : t.view.state = t.assoc.eslState := rfl
  simp only [securityChanged, View.enteredBySecure, hstate, entered_ite, entered_pure,
    entered_btEslStateTransition]

lemma entered_opUpdateComplete :
    entered (opUpdateComplete cfg t) = t.view.enteredByUpdateComplete := by
  simp only [opUpdateComplete, View.enteredByUpdateComplete]
  rw [entered_ite, entered_eslIsConfiguringState_bind]
  rfl

lemma entered_btEslInit (p : BootParam) :
    entered (btEslInit cfg p)
      = if p.settings.provision.Complete then [.configuring, .unsynchronized] else [] := by
  rw [btEslInit, entered_eslIsConfiguringState_bind, view_restored]
  rfl

lemma entered_ecpCommandHandler (d : TagDevice) (env : HandlerEnv) :
    entered (ecpCommandHandler cfg env d) = d.enteredStates cfg (.ecpWork env) := by
  have hstart : d.tag.startCommand.view = d.tag.view := rfl
  have hstate : d.tag.startCommand.assoc.eslState = d.tag.assoc.eslState := rfl
  simp only [ecpCommandHandler, entered_bind, entered_pure, List.append_nil, executeCommand,
    TagDevice.enteredStates, TagDevice.RunsUnassociate, TagDevice.RunsFactoryReset]
  by_cases hsw : d.tag.ReachesSwitch cfg d.ecpNetBuf
  · have hruns : ∀ op, d.Runs cfg op ↔ EslOpCode.ofByte? (d.ecpNetBuf.data 0) = some op := fun op =>
      ⟨fun h => EslOpCode.ofByte?_eq_some.mpr h.2, fun h => ⟨hsw, EslOpCode.ofByte?_eq_some.mp h⟩⟩
    rw [if_pos hsw, entered_bind, entered_pure, List.append_nil]
    simp only [commandSwitch, hruns]
    cases EslOpCode.ofByte? (d.ecpNetBuf.data 0) with
    | none => simp
    | some op =>
        cases op with
        | factoryReset =>
            simp only [opFactoryReset, if_true, entered_ite, entered_pure, entered_bind,
              entered_btEslFactoryReset, List.append_nil, hstart, hstate]
            by_cases hs : d.tag.assoc.eslState = .synchronized <;>
              by_cases hid : d.ecpNetBuf.data 1 = eslAddrBroadcast <;> simp [hs, hid]
        | updateComplete => simp [entered_opUpdateComplete, hstart]
        | _ => simp
  · have hruns : ∀ op, ¬ d.Runs cfg op := fun op h => hsw h.1
    simp only [hsw, hruns, false_and, if_false, entered_pure]

lemma entered_onTag (f : EslTag → Recorded EslTag) (d : TagDevice) :
    entered (onTag f d) = entered (f d.tag) := by
  rw [onTag, entered_bind, entered_pure, List.append_nil]

/-- **The record lists the states an event enters.** -/
theorem entered_step {ead : Ead} {d d' : TagDevice} {e : TagEvent}
    (hstep : d.step cfg ead e = some d') : entered (step cfg ead d e) = d.enteredStates cfg e := by
  cases e with
  | disconnected reason => rw [step, entered_onTag, entered_disconnected]; rfl
  | securityChanged err => rw [step, entered_onTag, entered_securityChanged]; rfl
  | eslAddrWrite w =>
      rw [step, entered_onTag, eslAddrWrite]
      simp only [TagDevice.enteredStates, TagEvent.provides?]
      by_cases hid : lowByte (sysGetLe16 w.buf.data 0 &&& 0x7FFF) = eslAddrBroadcast
      · rw [dif_pos hid, if_pos hid, entered_pure]
      · rw [dif_neg hid, if_neg hid, entered_checkConfiguring]
        rfl
  | apKeyWrite | eslRspKeyWrite | absTimeWrite =>
      rw [step, entered_onTag]
      exact entered_checkConfiguring _
  | ecpWork env =>
      obtain ⟨hpending, -⟩ := TagDevice.step_ecpWork_eq_some.mp hstep
      rw [step, if_pos hpending, entered_bind, entered_pure, List.append_nil]
      exact entered_ecpCommandHandler d env
  | notifySent =>
      obtain ⟨n, rest, hn, -⟩ := TagDevice.step_notifySent_eq_some.mp hstep
      simp only [step, hn, entered_bind, entered_pure, List.append_nil, notifyComplete,
        TagDevice.enteredStates, TagDevice.UnassociatedCbNext, List.head?_cons, Option.map_some,
        Option.some.injEq]
      cases n.func with
      | unassociatedCb =>
          rw [entered_bind, entered_pure, List.append_nil]
          exact entered_btEslUnassociate d.tag
      | notifyCb => rfl
  | syncCb => rw [step, entered_onTag, entered_syncCb]; rfl
  | termCb => rw [step, entered_onTag, entered_termCb]; rfl
  | stateTimeout =>
      obtain ⟨hdue, -⟩ := TagDevice.step_stateTimeout_eq_some.mp hstep
      rw [step, if_pos hdue, entered_onTag]
      exact entered_eslStateTimeoutWorkFn d.tag
  | factoryReset => rw [step, entered_onTag, entered_btEslFactoryReset]; rfl
  | unassociate => rw [step, entered_onTag, entered_btEslUnassociate]; rfl
  | reboot p =>
      rw [step, entered_bind, entered_pure, List.append_nil, entered_btEslInit]
      rfl
  | _ => rfl

end Entered

end Recorded

/-! ### A write while the tag is updated -/

/-- In `SM_UPDATING` all bits are set, so writing the address again enters `SM_CONFIGURING`. -/
theorem stateGraph_fails :
    ((TransitionSystem.run (TagDevice.step .sample .clear) (TagDevice.boot .sample {})
        configuredAndUpdating).map fun d =>
      (Recorded.step .sample .clear d (.eslAddrWrite (.ofBytes [0x02, 0x00]))).edges)
        = some [(.updating, .configuring)]
    ∧ ¬ TransitionSystem.StepsMeet (TagDevice.step .sample .clear)
        (fun d e => (Recorded.step .sample .clear d e).Legal) (TagDevice.boot .sample {})
        (configuredAndUpdating ++ [.eslAddrWrite (.ofBytes [0x02, 0x00])]) := by
  have hrun : ((TransitionSystem.run (TagDevice.step .sample .clear) (TagDevice.boot .sample {})
        configuredAndUpdating).map fun d =>
      (Recorded.step .sample .clear d (.eslAddrWrite (.ofBytes [0x02, 0x00]))).edges)
        = some [(.updating, .configuring)] := by decide +kernel
  refine ⟨hrun, fun hall => ?_⟩
  obtain ⟨d, hd, hedges⟩ := Option.map_eq_some_iff.mp hrun
  have hlegal := (hall.of_append hd _ rfl).1 (.updating, .configuring) (by rw [hedges]; simp)
  rcases hlegal with h | h <;> cases h

end NrfEsl
