import NrfEsl.Tag.StateMachine

/-!
# Connections, provisioning and boot

The connection callbacks, the four writable provisioning characteristics, the settings store and
`bt_esl_init`.

A write arrives as an `AttWrite`: the bytes behind the pointer the stack passes, their length and
the offset.  The handlers of the source use neither the length nor the offset, and neither do the
definitions here; they read as many bytes as the characteristic is long.
-/

namespace NrfEsl

/-- A characteristic write as the stack hands it over. -/
structure AttWrite where
  buf : NetBuf
  offset : ℕ

/-- A write of some bytes at offset 0. -/
def AttWrite.ofBytes (bytes : List UInt8) : AttWrite := ⟨NetBuf.ofBytes bytes fun _ => 0, 0⟩

/-- The ATT errors the service returns. -/
inductive AttError
  | valueNotAllowed | invalidAttributeLen
  deriving DecidableEq, Repr

namespace EslTag

variable (cfg : Config)

/-! ## Connection callbacks -/

/-- `BT_HCI_ERR_ADV_TIMEOUT` -/
def btHciErrAdvTimeout : UInt8 := 0x3c

/-- `connected` -/
def connected (err : UInt8) (t : EslTag) : EslTag :=
  if err ≠ 0 ∧ err ≠ btHciErrAdvTimeout then t
  else
    let t := if err = btHciErrAdvTimeout then t.btEslAdvStart else t
    let t := { t with
      assoc.configuringState.updateCompleteSet := false
      assoc.linkUp := t.assoc.linkUp || err = 0
      assoc.connectFrom := if t.basicState.synchronized then .fromPawr else .fromScan }
    if cfg.ledIndication then
      (t.ledDworkReset cfg.indicationLedIdx).emit (.ledControl cfg.indicationLedIdx 0 true)
    else t

/-- The state machine part of `disconnected`. -/
def disconnectedState (reason : UInt8) (t : EslTag) : EslTag :=
  if reason ≠ btHciErrLocalhostTermConn ∨ reason = btHciErrAuthFail then
    if reason = btHciErrAuthFail ∧ t.basicState.synchronized = true then t
    else
      match t.eslIsConfiguringState cfg with
      | (true, t) =>
          let t := { t with assoc.smTimeoutUpdateNeeded := false }
          t.btEslStateTransition cfg .unsynchronized
      | (false, t) =>
          if t.assoc.eslState = .configuring ∨ t.assoc.eslState = .unassociated then
            t.btEslStateTransition cfg .unassociated
          else t
  else t

/-- `disconnected` -/
def disconnected (reason : UInt8) (t : EslTag) : EslTag :=
  let t := { t with assoc.linkUp := false }.disconnectedState cfg reason
  let t := { t with assoc.connectFrom := .notConnected }
  if cfg.ledIndication then t.emit (.ledControl cfg.indicationLedIdx 0 false) else t

/-- `security_changed` -/
def securityChanged (err : Bool) (t : EslTag) : EslTag :=
  if err then t
  else if t.assoc.eslState = .unsynchronized ∨ t.assoc.eslState = .synchronized then
    t.btEslStateTransition cfg .updating
  else t

/-! ## Provisioning writes -/

/-- `esl_addr_write` -/
def eslAddrWrite (w : AttWrite) (t : EslTag) : Except AttError ℕ × EslTag :=
  -- the RFU bit of the group ID is ignored
  let newEslAddr := sysGetLe16 w.buf.data 0 &&& 0x7FFF
  if h : lowByte newEslAddr = eslAddrBroadcast then (.error .valueNotAllowed, t)
  else
    let addr : EslAddr := ⟨newEslAddr, h⟩
    let t := { t with
      assoc.eslAddr := addr
      assoc.configuringState.addrSet := true
      assoc.settings.eslAddr :=
        if cfg.forgetProvisionData then t.assoc.settings.eslAddr else some addr }
    (.ok 2, (t.eslIsConfiguringState cfg).2)

/-- The key material stored for 24 written bytes. -/
def storedKey (w : AttWrite) : KeyMaterial := (KeyMaterial.ofKeyV w.buf.data).swapSessionKey

/-- `ap_key_write` -/
def apKeyWrite (w : AttWrite) (t : EslTag) : Except AttError ℕ × EslTag :=
  let t := { t with
    assoc.eslApKey := storedKey w
    assoc.configuringState.apSyncKeySet := true
    assoc.settings.eslApKey :=
      if cfg.forgetProvisionData then t.assoc.settings.eslApKey else some (storedKey w) }
  (.ok 24, (t.eslIsConfiguringState cfg).2)

/-- `esl_rsp_key_write` -/
def eslRspKeyWrite (w : AttWrite) (t : EslTag) : Except AttError ℕ × EslTag :=
  let t := { t with
    assoc.eslRspKey := storedKey w
    assoc.configuringState.responseKeySet := true
    assoc.settings.eslRspKey :=
      if cfg.forgetProvisionData then t.assoc.settings.eslRspKey else some (storedKey w) }
  (.ok 24, (t.eslIsConfiguringState cfg).2)

/-- `abs_time_write` -/
def absTimeWrite (w : AttWrite) (t : EslTag) : Except AttError ℕ × EslTag :=
  let t := t.absTimeUpdate (sysGetLe32 w.buf.data 0)
  let t := { t with
    assoc.configuringState.absTimeSet := true
    assoc.settings.eslAbsTime := if cfg.forgetProvisionData then t.assoc.settings.eslAbsTime
      else true }
  (.ok 4, (t.eslIsConfiguringState cfg).2)

/-! ## Boot -/

/-- What the application and the flash give to `bt_esl_init`. -/
structure BootParam where
  settings : Settings := {}
  ledType : ℕ → UInt8 := fun _ => 0
  storedImageSize : ℕ → UInt32 := fun _ => 0

/-- RAM before `bt_esl_init`: zero, as the static objects of the program start. -/
def cleared (p : BootParam) : EslTag where
  assoc :=
    { eslState := .unassociated, configuringState := {}, eslAddr := .unset
      eslApKey := .zero, eslRspKey := .zero, absTimeAnchor := 0
      connectFrom := .notConnected, smTimeoutUpdateNeeded := false
      stateTimeoutWork := ⟨none, .unsynced⟩, advWork := none
      settings := p.settings, pastSubscribed := false, pawrSynced := false, linkUp := false }
  elems :=
    { ledObjs := fun _ => ⟨0, Vector.replicate 5 0, 0, 0, 0, 0⟩
      ledType := p.ledType
      ledDworks := fun _ => ⟨none, 0, 0, 0, 0, false, false⟩
      displayWorks := fun _ => ⟨none, 0, 0, false⟩
      storedImageSize := p.storedImageSize }
  basicState := {}
  ecp := ⟨⟨.err, .invOpcode, 0, 0⟩, none, false, false⟩
  eslRandomizer := Vector.replicate 5 0
  uptime := 0
  out := []

/-- `settings_load_subtree("esl")` through `esl_settings_set`. -/
def loadSettings (t : EslTag) : EslTag :=
  let s := t.assoc.settings
  { t with
    assoc.eslAddr := s.eslAddr.getD t.assoc.eslAddr
    assoc.eslApKey := s.eslApKey.getD t.assoc.eslApKey
    assoc.eslRspKey := s.eslRspKey.getD t.assoc.eslRspKey
    assoc.configuringState.addrSet := t.assoc.configuringState.addrSet || s.eslAddr.isSome
    assoc.configuringState.apSyncKeySet :=
      t.assoc.configuringState.apSyncKeySet || s.eslApKey.isSome
    assoc.configuringState.responseKeySet :=
      t.assoc.configuringState.responseKeySet || s.eslRspKey.isSome
    assoc.configuringState.absTimeSet := t.assoc.configuringState.absTimeSet || s.eslAbsTime }

/-- `bt_esl_init` up to `esl_settings_init`: works reset, `SM_UNASSOCIATED` entered, settings
loaded. -/
def restored (p : BootParam) : EslTag :=
  let t := { cleared p with basicState.serviceNeeded := cfg.condServiceRequired }
  let t := (t.ledDworkResetAll cfg).displayDworkResetAll cfg
  t.smUnassociatedEntry.eslInitProvisionedData.loadSettings

/-- `bt_esl_init` -/
def btEslInit (p : BootParam) : EslTag :=
  match (restored cfg p).eslIsConfiguringState cfg with
  | (false, t) => if cfg.hasDisplayUnassociated then t.emit .displayUnassociated else t
  | (true, t) =>
      let t := if cfg.hasDisplayAssociated then t.emit .displayAssociated else t
      t.btEslStateTransition cfg .unsynchronized

end EslTag

end NrfEsl
