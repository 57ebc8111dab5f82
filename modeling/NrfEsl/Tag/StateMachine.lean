import NrfEsl.Tag.State

/-!
# The ESL state machine

The entry actions of the six states, what starts and stops the PAwR sync, and the way back to
`SM_UNASSOCIATED`.  The exit actions of the source only reset `sync_count`, which nothing reads,
so a transition is the entry action of its target.

**Recursion.**  `bt_le_per_adv_sync_delete` of a running sync may call `term_cb` before it
returns (`Config.termOnDelete`), and `term_cb` calls `esl_stop_sync_pawr` again.  The inner call
finds no sync, so the nesting ends there; `termCbTail` is what `term_cb` does after it.
-/

namespace NrfEsl

namespace EslTag

variable (cfg : Config)

/-! ## Resets and advertising -/

/-- `led_dwork_reset` -/
def ledDworkReset (idx : ℕ) (t : EslTag) : EslTag :=
  (t.updateLed idx fun w =>
    { w with
      workEnable := false, active := false, startAbsTime := 0, stopAbsTime := 0
      patternIdx := 0, repeatCounts := 0, work := w.work.cancel }).emit (.ledControl idx 0 false)

/-- `display_dwork_reset` -/
def displayDworkReset (idx : ℕ) (t : EslTag) : EslTag :=
  t.updateDisplay idx fun w =>
    { w with
      startAbsTime := 0, active := false, work := w.work.cancel
      imgIdx := if cfg.pts then 0 else UInt8.ofNat cfg.imageMax }

/-- `led_dwork_reset` of every LED. -/
def ledDworkResetAll (t : EslTag) : EslTag :=
  (List.range cfg.ledMax).foldl (fun t idx => t.ledDworkReset idx) t

/-- `display_dwork_reset` of every display. -/
def displayDworkResetAll (t : EslTag) : EslTag :=
  (List.range cfg.displayMax).foldl (fun t idx => t.displayDworkReset cfg idx) t

/-- `bt_esl_adv_start`, after a delay of 150 ms. -/
def btEslAdvStart (t : EslTag) : EslTag :=
  { t with assoc.advWork := t.assoc.advWork.reschedule t.uptime 150 }

/-- `bt_esl_adv_stop` -/
def btEslAdvStop (t : EslTag) : EslTag :=
  if cfg.ledIndication then (t.emit .advStop).ledDworkReset cfg.indicationLedIdx
  else t.emit .advStop

/-- `bt_esl_disconnect`: the link goes down later, with its own callback. -/
def btEslDisconnect (t : EslTag) : EslTag := t.emit .disconnect

/-! ## Entry actions -/

/-- `k_work_reschedule` of the state timeout in a mode, `seconds` from now. -/
def rescheduleStateTimeout (mode : EslTimeoutMode) (seconds : ℕ) (t : EslTag) : EslTag :=
  { t with assoc.stateTimeoutWork :=
      ⟨t.assoc.stateTimeoutWork.work.reschedule t.uptime (seconds * msecPerSec), mode⟩ }

def smUnassociatedEntry (t : EslTag) : EslTag :=
  { t with assoc.eslState := .unassociated }.btEslAdvStart

def smConfiguringEntry (t : EslTag) : EslTag := { t with assoc.eslState := .configuring }

/-- Subscribes to PAST: `esl_create_pawr_sync`. -/
def smConfiguredEntry (t : EslTag) : EslTag :=
  { t with assoc.eslState := .configured, assoc.pastSubscribed := true }

def smSynchronizedEntry (t : EslTag) : EslTag :=
  let t := { t with assoc.eslState := .synchronized, basicState.synchronized := true }
  let t := t.btEslDisconnect.btEslAdvStop cfg
  if t.assoc.smTimeoutUpdateNeeded then
    t.rescheduleStateTimeout .unsynced cfg.unsynchronizedTimeout
  else t

def smUpdatingEntry (t : EslTag) : EslTag :=
  { t with
    assoc.eslState := .updating
    assoc.stateTimeoutWork.work := t.assoc.stateTimeoutWork.work.cancel }

def smUnsynchronizedEntry (t : EslTag) : EslTag :=
  let t := { t with assoc.eslState := .unsynchronized }.btEslAdvStart
  let t := { t with basicState.synchronized := false }
  if t.assoc.smTimeoutUpdateNeeded then
    t.rescheduleStateTimeout .unassociated cfg.unassociatedTimeout
  else t

/-- `bt_esl_state_transition` -/
def btEslStateTransition (state : EslState) (t : EslTag) : EslTag :=
  match state with
  | .unassociated => t.smUnassociatedEntry
  | .configuring => t.smConfiguringEntry
  | .configured => t.smConfiguredEntry
  | .synchronized => t.smSynchronizedEntry cfg
  | .updating => t.smUpdatingEntry
  | .unsynchronized => t.smUnsynchronizedEntry cfg

/-- `esl_is_configuring_state`: with all provisioning bits set, enter `SM_CONFIGURING`. -/
def eslIsConfiguringState (t : EslTag) : Bool × EslTag :=
  if t.assoc.configuringState.Provisioned then (true, t.btEslStateTransition cfg .configuring)
  else (false, t)

/-! ## Synchronisation -/

/-- `term_cb` after its `esl_stop_sync_pawr`. -/
def termCbTail (t : EslTag) : EslTag :=
  let t := { t with assoc.smTimeoutUpdateNeeded := true }
  let t := t.btEslStateTransition cfg .unsynchronized
  { t with basicState.synchronized := false }

/-- `esl_stop_sync_pawr` -/
def eslStopSyncPawr (t : EslTag) : EslTag :=
  let t := { t with assoc.pastSubscribed := false }
  if t.assoc.pawrSynced then
    let t := { t with assoc.pawrSynced := false }
    if cfg.termOnDelete then t.termCbTail cfg else t
  else t

/-- `sync_cb` -/
def syncCb (t : EslTag) : EslTag :=
  let t := { t with assoc.pawrSynced := true }
  if t.assoc.eslState ≠ .synchronized then
    let t := { t with assoc.smTimeoutUpdateNeeded := true }
    let t := t.btEslStateTransition cfg .synchronized
    if cfg.hasDisplayAssociated then t.emit .displayAssociated else t
  else t

/-- `term_cb`, called by the stack once the sync is gone. -/
def termCb (t : EslTag) : EslTag :=
  let t := { t with assoc.pawrSynced := false }
  (t.eslStopSyncPawr cfg).termCbTail cfg

/-! ## Back to unassociated -/

/-- `esl_init_provisioned_data` -/
def eslInitProvisionedData (t : EslTag) : EslTag :=
  { t with
    assoc.eslAddr := .unset
    assoc.connectFrom := .notConnected
    assoc.stateTimeoutWork.mode := .unassociated
    assoc.eslApKey := .zero
    eslRandomizer := Vector.replicate 5 0
    assoc.eslRspKey := .zero
    assoc.smTimeoutUpdateNeeded := true }

/-- `esl_settings_delete_provisioned_data` -/
def eslSettingsDeleteProvisionedData (t : EslTag) : EslTag :=
  { t with
    assoc.settings := {}
    assoc.configuringState := {} }

/-- `bt_esl_unassociate` -/
def btEslUnassociate (t : EslTag) : EslTag :=
  let t := if t.basicState.synchronized then t.eslStopSyncPawr cfg else t
  let t := t.btEslDisconnect.emit .unpair
  let t := t.eslInitProvisionedData.eslSettingsDeleteProvisionedData
  let t := t.ledDworkResetAll cfg
  let t := if cfg.hasDisplayUnassociated then t.emit .displayUnassociated else t
  t.btEslStateTransition cfg .unassociated

/-- `bt_esl_delete_images`; `ots_create_obj` afterwards only renames the objects. -/
def btEslDeleteImages (t : EslTag) : EslTag :=
  if cfg.hasDeleteImgs then
    { t.emit .deleteImgs with elems.storedImageSize := fun i =>
        if i < cfg.imageMax then 0 else t.elems.storedImageSize i }
  else t

/-- `bt_esl_factory_reset` -/
def btEslFactoryReset (t : EslTag) : EslTag := (t.btEslDeleteImages cfg).btEslUnassociate cfg

/-- `esl_state_timeout_work_fn` -/
def eslStateTimeoutWorkFn (t : EslTag) : EslTag :=
  match t.assoc.stateTimeoutWork.mode with
  | .unsynced =>
      let t := { t with assoc.smTimeoutUpdateNeeded := true }
      (t.btEslStateTransition cfg .unsynchronized).eslStopSyncPawr cfg
  | .unassociated => t.btEslUnassociate cfg

/-! ## What the helpers leave alone -/

section Frame

variable {cfg} (t : EslTag)

@[simp] lemma assoc_ledDworkReset (idx : ℕ) : (t.ledDworkReset idx).assoc = t.assoc := rfl

@[simp] lemma basicState_ledDworkReset (idx : ℕ) :
    (t.ledDworkReset idx).basicState = t.basicState := rfl

@[simp] lemma uptime_ledDworkReset (idx : ℕ) : (t.ledDworkReset idx).uptime = t.uptime := rfl

@[simp] lemma assoc_displayDworkReset (idx : ℕ) :
    (t.displayDworkReset cfg idx).assoc = t.assoc := rfl

/-- What every step of a fold keeps, the fold keeps. -/
lemma foldl_frame {α β : Type*} (g : EslTag → α → EslTag) (f : EslTag → β)
    (hf : ∀ t a, f (g t a) = f t) (l : List α) (t : EslTag) : f (l.foldl g t) = f t := by
  induction l generalizing t with
  | nil => rfl
  | cons a l ih => rw [List.foldl_cons, ih, hf]

@[simp] lemma assoc_ledDworkResetAll : (t.ledDworkResetAll cfg).assoc = t.assoc :=
  foldl_frame (fun t idx => t.ledDworkReset idx) (·.assoc) (fun _ _ => rfl) _ t

@[simp] lemma basicState_ledDworkResetAll :
    (t.ledDworkResetAll cfg).basicState = t.basicState :=
  foldl_frame (fun t idx => t.ledDworkReset idx) (·.basicState) (fun _ _ => rfl) _ t

@[simp] lemma uptime_ledDworkResetAll : (t.ledDworkResetAll cfg).uptime = t.uptime :=
  foldl_frame (fun t idx => t.ledDworkReset idx) (·.uptime) (fun _ _ => rfl) _ t

@[simp] lemma assoc_displayDworkResetAll : (t.displayDworkResetAll cfg).assoc = t.assoc :=
  foldl_frame (fun t idx => t.displayDworkReset cfg idx) (·.assoc) (fun _ _ => rfl) _ t

@[simp] lemma assoc_btEslAdvStop : (t.btEslAdvStop cfg).assoc = t.assoc := by
  unfold btEslAdvStop
  split <;> rfl

@[simp] lemma basicState_btEslAdvStop : (t.btEslAdvStop cfg).basicState = t.basicState := by
  unfold btEslAdvStop
  split <;> rfl

@[simp] lemma assoc_btEslDisconnect : t.btEslDisconnect.assoc = t.assoc := rfl

@[simp] lemma basicState_btEslDisconnect : t.btEslDisconnect.basicState = t.basicState := rfl

end Frame

/-! ## State and provisioning bits -/

section Transition

variable {cfg} (t : EslTag)

/-- Only the entry of `SM_SYNCHRONIZED` changes more than the association and the basic state. -/
lemma btEslStateTransition_of_ne (cfg : Config) {state : EslState} (h : state ≠ .synchronized) :
    ∃ assoc basicState, t.btEslStateTransition cfg state
      = { t with assoc := assoc, basicState := basicState } := by
  cases state with
  | synchronized => exact absurd rfl h
  | unsynchronized =>
      simp only [btEslStateTransition, smUnsynchronizedEntry]
      split
      · exact ⟨_, _, rfl⟩
      · exact ⟨_, _, rfl⟩
  | _ => exact ⟨_, _, rfl⟩

/-- **What a transition leaves alone**: whatever reads neither the association nor the basic state and
is not changed by stopping to advertise. -/
lemma frame_btEslStateTransition {α : Type*} {f : EslTag → α}
    (hframe : ∀ (t : EslTag) assoc basicState,
      f { t with assoc := assoc, basicState := basicState } = f t)
    (hstop : ∀ t : EslTag, f (t.btEslDisconnect.btEslAdvStop cfg) = f t) (state : EslState) :
    f (t.btEslStateTransition cfg state) = f t := by
  by_cases h : state = .synchronized
  · subst h
    simp only [btEslStateTransition, smSynchronizedEntry]
    split
    · exact (hframe _ _ _).trans ((hstop _).trans (hframe t _ _))
    · exact (hstop _).trans (hframe t _ _)
  · obtain ⟨assoc, basicState, heq⟩ := btEslStateTransition_of_ne t cfg h
    rw [heq]
    exact hframe t assoc basicState

/-- **A transition ends in its target.** -/
@[simp] lemma eslState_btEslStateTransition (state : EslState) :
    (t.btEslStateTransition cfg state).assoc.eslState = state := by
  cases state with
  | synchronized =>
      simp only [btEslStateTransition, smSynchronizedEntry]
      split <;> simp [rescheduleStateTimeout]
  | unsynchronized =>
      simp only [btEslStateTransition, smUnsynchronizedEntry]
      split <;> rfl
  | _ => rfl

/-- A transition never touches the provisioning bits. -/
@[simp] lemma configuringState_btEslStateTransition (state : EslState) :
    (t.btEslStateTransition cfg state).assoc.configuringState = t.assoc.configuringState := by
  cases state with
  | synchronized =>
      simp only [btEslStateTransition, smSynchronizedEntry]
      split <;> simp [rescheduleStateTimeout]
  | unsynchronized =>
      simp only [btEslStateTransition, smUnsynchronizedEntry]
      split <;> rfl
  | _ => rfl

@[simp] lemma eslState_termCbTail :
    (t.termCbTail cfg).assoc.eslState = .unsynchronized := by
  simp [termCbTail]

@[simp] lemma configuringState_termCbTail :
    (t.termCbTail cfg).assoc.configuringState = t.assoc.configuringState := by
  simp [termCbTail]

/-- Stopping the sync leaves the state, or ends in `SM_UNSYNCHRONIZED` through `term_cb`. -/
lemma eslState_eslStopSyncPawr :
    (t.eslStopSyncPawr cfg).assoc.eslState
      = if t.assoc.pawrSynced ∧ cfg.termOnDelete then .unsynchronized else t.assoc.eslState := by
  simp only [eslStopSyncPawr]
  by_cases hs : t.assoc.pawrSynced <;> by_cases ht : cfg.termOnDelete <;> simp [hs, ht]

@[simp] lemma configuringState_eslStopSyncPawr :
    (t.eslStopSyncPawr cfg).assoc.configuringState = t.assoc.configuringState := by
  simp only [eslStopSyncPawr]
  by_cases hs : t.assoc.pawrSynced <;> by_cases ht : cfg.termOnDelete <;> simp [hs, ht]

@[simp] lemma eslState_syncCb : (t.syncCb cfg).assoc.eslState = .synchronized := by
  simp only [syncCb]
  by_cases h : t.assoc.eslState = .synchronized
  · simp [h]
  · rw [if_pos h]
    split <;> simp

@[simp] lemma configuringState_syncCb :
    (t.syncCb cfg).assoc.configuringState = t.assoc.configuringState := by
  simp only [syncCb]
  split
  · split <;> simp
  · rfl

@[simp] lemma eslState_termCb : (t.termCb cfg).assoc.eslState = .unsynchronized := by
  simp [termCb]

@[simp] lemma configuringState_termCb :
    (t.termCb cfg).assoc.configuringState = t.assoc.configuringState := by
  simp [termCb]

@[simp] lemma eslState_btEslUnassociate :
    (t.btEslUnassociate cfg).assoc.eslState = .unassociated := by
  simp [btEslUnassociate]

end Transition

end EslTag

end NrfEsl
