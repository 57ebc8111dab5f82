import NrfEsl.Tag.Led

/-!
# The work table

Every LED and every display has one delayed work and one record beside it: the absolute time a timed
command waits for, whether a command is active, and for a display the image.  Six commands, two
workers, the advertising LED and the resets write these tables; `WorkTable` is what holds between
their fields.

**Time and schedule.**  A time is written together with the schedule and cleared by whatever cancels
or runs the work, so a time that is set means a work that is scheduled.

**Image and schedule.**  `CONFIG_BT_ESL_IMAGE_MAX` in a record stands for no image, and Refresh
Display is the only command that shows what the record holds.  Only the display worker calls
`display_control` (`displayCalls_step`).

**When it holds** (`workTable_iff`).  `max_image_index` is `CONFIG_BT_ESL_IMAGE_MAX - 1` in 8 bits.  In
a build without images that is 255, and the sentinel is the index 0 that Display Image then accepts.

**Answers.**  A Basic State response is built from bits that `bt_esl_basic_state_update` has just
computed over both tables (`reportsWorkTable`).
-/

namespace NrfEsl

open EslTag TransitionSystem

/-! ## Specification -/

/-- An image index of the build: at most `max_image_index`, and not the sentinel. -/
def Config.ValidImage (cfg : Config) (imgIdx : UInt8) : Prop :=
  imgIdx ≤ cfg.maxImageIndex ∧ imgIdx.toNat ≠ cfg.imageMax

instance (cfg : Config) (imgIdx : UInt8) : Decidable (cfg.ValidImage imgIdx) :=
  inferInstanceAs (Decidable (_ ∧ _))

/-- The calls of `display_control`: display and image. -/
def EslTag.displayCalls (t : EslTag) : List (ℕ × UInt8) :=
  t.out.filterMap fun
    | .displayControl displayIdx imgIdx => some (displayIdx, imgIdx)
    | _ => none

/-- What holds between the fields of the work tables. -/
structure WorkTable (cfg : Config) (t : EslTag) : Prop where
  led : ∀ i < cfg.ledMax,
    (t.elems.ledDworks i).startAbsTime ≠ 0 → (t.elems.ledDworks i).work ≠ none
  display : ∀ i < cfg.displayMax,
    (t.elems.displayWorks i).startAbsTime ≠ 0 → (t.elems.displayWorks i).work ≠ none
  image : ∀ i < cfg.displayMax,
    (t.elems.displayWorks i).work ≠ none → cfg.ValidImage (t.elems.displayWorks i).imgIdx
  shown : ∀ call ∈ t.displayCalls, cfg.ValidImage call.2

/-- The bytes are a Basic State response that reports what the work tables hold. -/
structure ReportsWorkTable (cfg : Config) (t : EslTag) (rsp : List UInt8) (state : UInt16) : Prop where
  bytes : rsp = [EslRespCode.basicState.toByte, lowByte state, highByte state]
  activeLed : state.toNat.testBit 2 = true ↔ ∃ i < cfg.ledMax, (t.elems.ledDworks i).active = true
  pendingLedUpdate : state.toNat.testBit 3 = true ↔
    ∃ i < cfg.ledMax, (t.elems.ledDworks i).startAbsTime ≠ 0
  pendingDisplayUpdate : state.toNat.testBit 4 = true ↔
    ∃ i < cfg.displayMax, (t.elems.displayWorks i).startAbsTime ≠ 0

/-- The response an execution of the handler ends with. -/
def Answer.response? : Answer → Option (List UInt8)
  | .notified rsp | .appended rsp => some rsp
  | .foreign | .factoryReset => none

/-- The Basic State response of a command that runs now reports the work tables it leaves. -/
def AnswersExactly (cfg : Config) (d : TagDevice) (e : TagEvent) : Prop :=
  ∀ env, e = .ecpWork env →
    (d.ecpCommandHandler cfg env).tag.ecp.resp.respOp = .basicState →
    ∀ x ∈ (d.ecpCommandHandler cfg env).log.executed.getLast?, ∀ rsp ∈ x.answer.response?,
      ∃ state, ReportsWorkTable cfg (d.ecpCommandHandler cfg env).tag rsp state

/-- The operation does not show image 0 of a build that has none. -/
def DisplayOp.ShowsImage (cfg : Config) : DisplayOp → Prop
  | .display imgIdx | .arm _ imgIdx => cfg.imageMax = 0 → imgIdx ≠ 0
  | .refresh | .delete | .run | .boot => True

/-- In a build without images, no display accepts a command for image 0. -/
def ShowsImages (cfg : Config) (d : TagDevice) (e : TagEvent) : Prop :=
  ∀ i < cfg.displayMax, ∀ op ∈ d.displayOp? cfg i e, op.ShowsImage cfg

/-! ## LEDs -/

namespace EslTag

variable {cfg : Config} (t : EslTag) {i : ℕ}

/-- A run of the LED worker clears the time. -/
lemma startAbsTime_ledDelayWorkerFn (hi : i < cfg.ledMax) :
    ((t.ledDelayWorkerFn cfg i).elems.ledDworks i).startAbsTime = 0 := by
  have hupdate : ∀ (t : EslTag) (f : LedDwork → LedDwork),
      (∀ w, (f w).startAbsTime = w.startAbsTime) →
        ((t.updateLed i f).elems.ledDworks i).startAbsTime
          = (t.elems.ledDworks i).startAbsTime := by
    intro t f hf
    rw [ledDworks_updateLed, if_pos rfl, hf]
  have hon : ∀ (t : EslTag) (onoff : Bool), ((t.ledOnOff i onoff).elems.ledDworks i).startAbsTime
      = (t.elems.ledDworks i).startAbsTime := fun _ _ => rfl
  have henable : ∀ t : EslTag, ((t.ledEnable i).elems.ledDworks i).startAbsTime
      = (t.elems.ledDworks i).startAbsTime := by
    intro t
    simp only [ledEnable]
    split
    · rfl
    · exact hupdate _ _ fun _ => rfl
  have hstop : ∀ t : EslTag, ((t.ledStopByTime i).elems.ledDworks i).startAbsTime
      = (t.elems.ledDworks i).startAbsTime := by
    intro t
    simp only [ledStopByTime]
    split
    · exact hupdate _ _ fun _ => rfl
    · rfl
  have hbit : ∀ t : EslTag, ((t.ledShowBit i).elems.ledDworks i).startAbsTime
      = (t.elems.ledDworks i).startAbsTime := by
    intro t
    simp only [ledShowBit]
    refine (hupdate _ _ ?_).trans ((hupdate _ _ ?_).trans rfl)
    · exact fun _ => rfl
    · exact fun _ => rfl
  have htaken : ((t.updateLed i fun w => { w with work := none, startAbsTime := 0 }).elems.ledDworks
      i).startAbsTime = 0 := by
    rw [ledDworks_updateLed, if_pos rfl]
  simp only [ledDelayWorkerFn, if_neg (not_le.mpr hi)]
  split_ifs <;>
    simp only [ledContinuous, hbit, hupdate, hstop, henable, hon, htaken, implies_true]

/-- **Whatever happens to an LED**, a time that is set has its work scheduled. -/
lemma work_ledApply (hi : i < cfg.ledMax) (op : LedOp)
    (hstart : (t.ledApply cfg i op).dwork.startAbsTime ≠ 0) :
    (t.ledApply cfg i op).dwork.work ≠ none := by
  cases op with
  | control | delete | unassociate | reset | boot => exact absurd rfl hstart
  | arm absTime obj => exact Option.some_ne_none _
  | run => exact absurd (startAbsTime_ledDelayWorkerFn t hi) hstart
  | flash restart =>
      -- the work is scheduled, unless it is already
      simp only [ledApply, DelayableWork.schedule]
      split <;> simp

end EslTag

/-! ## Displays -/

/-- What holds of the record of one display. -/
structure DisplayDwork.Sound (cfg : Config) (w : DisplayDwork) : Prop where
  time : w.startAbsTime ≠ 0 → w.work ≠ none
  scheduled : w.work ≠ none → w.imgIdx.toNat ≠ cfg.imageMax
  bounded : w.imgIdx.toNat ≠ cfg.imageMax → w.imgIdx ≤ cfg.maxImageIndex

/-- A scheduled work has a valid image. -/
lemma DisplayDwork.Sound.validImage {cfg : Config} {w : DisplayDwork} (h : w.Sound cfg)
    (hw : w.work ≠ none) : cfg.ValidImage w.imgIdx :=
  ⟨h.bounded (h.scheduled hw), h.scheduled hw⟩

/-- What the checks of a command leave to be shown. -/
def DisplayOp.Passed (cfg : Config) (w : DisplayDwork) : DisplayOp → Prop
  | .refresh => w.imgIdx.toNat ≠ cfg.imageMax
  | .display imgIdx | .arm _ imgIdx => imgIdx ≤ cfg.maxImageIndex
  | .delete | .run | .boot => True

section Display

variable {cfg : Config}

lemma Config.toNat_maxImageIndex (h : cfg.imageMax ≠ 0) :
    cfg.maxImageIndex.toNat = cfg.imageMax - 1 := by
  have hle := cfg.imageMax_le
  simp only [maxImageIndex, UInt8.toNat_sub, UInt8.toNat_ofNat', UInt8.toNat_one]
  omega

/-- An index up to `max_image_index` is the sentinel only in a build without images. -/
lemma Config.validImage_iff {imgIdx : UInt8} (h : imgIdx ≤ cfg.maxImageIndex) :
    cfg.ValidImage imgIdx ↔ (cfg.imageMax = 0 → imgIdx ≠ 0) := by
  have hle : imgIdx.toNat ≤ cfg.maxImageIndex.toNat := UInt8.le_iff_toNat_le.mp h
  constructor
  · rintro ⟨-, hne⟩ hzero rfl
    exact hne hzero.symm
  · intro himg
    refine ⟨h, fun heq => ?_⟩
    by_cases hzero : cfg.imageMax = 0
    · exact himg hzero (UInt8.toNat_inj.mp (heq.trans hzero))
    · rw [Config.toNat_maxImageIndex hzero] at hle
      omega

/-- The sentinel after a reset is not shown. -/
lemma Config.resetImgIdx_le (h : cfg.resetImgIdx.toNat ≠ cfg.imageMax) :
    cfg.resetImgIdx ≤ cfg.maxImageIndex := by
  have hle := cfg.imageMax_le
  unfold resetImgIdx at h ⊢
  split_ifs at h ⊢
  · exact UInt8.le_iff_toNat_le.mpr (Nat.zero_le _)
  · exact absurd (UInt8.toNat_ofNat_of_lt' (by rw [UInt8.size]; omega)) h

/-- A record after a reset. -/
lemma DisplayDwork.sound_reset : DisplayDwork.Sound cfg ⟨none, cfg.resetImgIdx, 0, false⟩ where
  time h := absurd rfl h
  scheduled h := absurd rfl h
  bounded := Config.resetImgIdx_le

/-- **An operation that shows an image keeps the record sound.** -/
lemma DisplayOp.sound_apply {w : DisplayDwork} (hw : w.Sound cfg) {op : DisplayOp}
    (hpassed : op.Passed cfg w) (himg : op.ShowsImage cfg) (uptime : ℕ) (absTime : UInt32) :
    (op.apply cfg uptime absTime w).Sound cfg := by
  cases op with
  | refresh => exact ⟨fun _ => Option.some_ne_none _, fun _ => hpassed, hw.bounded⟩
  | display imgIdx =>
      have hvalid := (Config.validImage_iff hpassed).mpr himg
      exact ⟨fun _ => Option.some_ne_none _, fun _ => hvalid.2, fun _ => hvalid.1⟩
  | arm start imgIdx =>
      have hvalid := (Config.validImage_iff hpassed).mpr himg
      exact ⟨fun _ => Option.some_ne_none _, fun _ => hvalid.2, fun _ => hvalid.1⟩
  | run => exact ⟨fun h => absurd rfl h, fun h => absurd rfl h, hw.bounded⟩
  | delete | boot => exact DisplayDwork.sound_reset

/-- An operation that shows image 0 of a build that has none leaves it scheduled. -/
lemma DisplayOp.showsImage_of_validImage {w : DisplayDwork} {op : DisplayOp}
    (hpassed : op.Passed cfg w) {uptime : ℕ} {absTime : UInt32}
    (h : (op.apply cfg uptime absTime w).work ≠ none →
      cfg.ValidImage (op.apply cfg uptime absTime w).imgIdx) : op.ShowsImage cfg := by
  cases op with
  | display imgIdx => exact (Config.validImage_iff hpassed).mp (h (Option.some_ne_none _))
  | arm start imgIdx => exact (Config.validImage_iff hpassed).mp (h (Option.some_ne_none _))
  | refresh | delete | run | boot => trivial

end Display

section Command

variable {cfg : Config} {i : ℕ}

lemma EslTag.le_maxImageIndex {t : EslTag} {displayIdx imgIdx : UInt8}
    (h : t.displayImageError cfg displayIdx imgIdx = none) : imgIdx ≤ cfg.maxImageIndex := by
  simp only [displayImageError] at h
  split_ifs at h with h₁ h₂ h₃
  exact UInt8.not_lt.mp h₃

/-- **What the commands check.** -/
lemma TagDevice.passed_of_displayOp? {d : TagDevice} {e : TagEvent} {op : DisplayOp}
    (h : d.displayOp? cfg i e = some op) : op.Passed cfg (d.tag.elems.displayWorks i) := by
  cases e with
  | ecpWork env =>
      simp only [displayOp?, Option.ite_none_right_eq_some, displayCommand?,
        Option.ite_none_left_eq_some] at h
      obtain ⟨-, -, h⟩ := h
      split at h
      · obtain ⟨hne, h⟩ := Option.ite_none_left_eq_some.mp h
        cases h
        exact hne
      · obtain ⟨herr, h⟩ := Option.ite_none_right_eq_some.mp h
        cases h
        exact le_maxImageIndex herr
      · split_ifs at h with herr
        · cases h
          trivial
        · cases h
          exact le_maxImageIndex (not_not.mp herr)
      · cases h
  | displayWork idx =>
      obtain ⟨-, h⟩ := Option.ite_none_right_eq_some.mp h
      cases h
      trivial
  | reboot p =>
      cases h
      trivial
  | _ => cases h

end Command

/-! ## Calls of `display_control` -/

namespace EslTag

section Calls

variable {cfg : Config} (t : EslTag)

lemma displayCalls_of_out {t t' : EslTag} (h : t'.out = t.out) :
    t'.displayCalls = t.displayCalls := by
  rw [displayCalls, h, displayCalls]

lemma displayCalls_emit {o : TagOutput} (ho : ∀ i img, o ≠ .displayControl i img) :
    (t.emit o).displayCalls = t.displayCalls := by
  rw [displayCalls, emit, List.filterMap_append]
  cases o with
  | displayControl i img => exact absurd rfl (ho i img)
  | _ => exact List.append_nil _

@[simp] lemma displayCalls_ledDworkReset (idx : ℕ) :
    (t.ledDworkReset idx).displayCalls = t.displayCalls :=
  displayCalls_emit (t.updateLed idx _) (by rintro _ _ ⟨⟩)

@[simp] lemma displayCalls_ledDworkResetAll :
    (t.ledDworkResetAll cfg).displayCalls = t.displayCalls :=
  foldl_frame (fun t idx => t.ledDworkReset idx) displayCalls displayCalls_ledDworkReset _ t

@[simp] lemma displayCalls_ledOnOff (idx : ℕ) (onoff : Bool) :
    (t.ledOnOff idx onoff).displayCalls = t.displayCalls :=
  displayCalls_emit t (by rintro _ _ ⟨⟩)

@[simp] lemma displayCalls_btEslAdvStop : (t.btEslAdvStop cfg).displayCalls = t.displayCalls := by
  unfold btEslAdvStop
  split
  · rw [displayCalls_ledDworkReset, displayCalls_emit t (by rintro _ _ ⟨⟩)]
  · exact displayCalls_emit t (by rintro _ _ ⟨⟩)

@[simp] lemma displayCalls_btEslStateTransition (state : EslState) :
    (t.btEslStateTransition cfg state).displayCalls = t.displayCalls := by
  refine frame_btEslStateTransition t (fun _ _ _ => rfl) ?_ state
  intro t
  rw [displayCalls_btEslAdvStop]
  exact displayCalls_emit t (by rintro _ _ ⟨⟩)

@[simp] lemma displayCalls_eslIsConfiguringState :
    (t.eslIsConfiguringState cfg).2.displayCalls = t.displayCalls := by
  simp only [eslIsConfiguringState]
  split
  · exact displayCalls_btEslStateTransition t _
  · rfl

@[simp] lemma displayCalls_termCbTail : (t.termCbTail cfg).displayCalls = t.displayCalls :=
  displayCalls_btEslStateTransition _ _

@[simp] lemma displayCalls_eslStopSyncPawr :
    (t.eslStopSyncPawr cfg).displayCalls = t.displayCalls := by
  simp only [eslStopSyncPawr]
  split
  · split
    · exact displayCalls_termCbTail _
    · rfl
  · rfl

@[simp] lemma displayCalls_btEslUnassociate :
    (t.btEslUnassociate cfg).displayCalls = t.displayCalls := by
  have hclear : ∀ t : EslTag,
      t.eslInitProvisionedData.eslSettingsDeleteProvisionedData.displayCalls = t.displayCalls :=
    fun _ => rfl
  have hunpair : ∀ t : EslTag, (t.btEslDisconnect.emit .unpair).displayCalls = t.displayCalls := by
    intro t
    rw [displayCalls_emit _ (by rintro _ _ ⟨⟩)]
    exact displayCalls_emit t (by rintro _ _ ⟨⟩)
  have hshow : ∀ t : EslTag, (t.emit .displayUnassociated).displayCalls = t.displayCalls :=
    fun t => displayCalls_emit t (by rintro _ _ ⟨⟩)
  simp only [btEslUnassociate, displayCalls_btEslStateTransition]
  split <;> split <;>
    simp only [hshow, displayCalls_ledDworkResetAll, hclear, hunpair, displayCalls_eslStopSyncPawr]

@[simp] lemma displayCalls_btEslFactoryReset :
    (t.btEslFactoryReset cfg).displayCalls = t.displayCalls := by
  rw [btEslFactoryReset, displayCalls_btEslUnassociate, btEslDeleteImages]
  split
  · exact displayCalls_emit t (by rintro _ _ ⟨⟩)
  · rfl

lemma displayCalls_ledDelayWorkerFn (idx : ℕ) :
    (t.ledDelayWorkerFn cfg idx).displayCalls = t.displayCalls := by
  have hupdate : ∀ (t : EslTag) (f : LedDwork → LedDwork),
      (t.updateLed idx f).displayCalls = t.displayCalls := fun _ _ => rfl
  have henable : ∀ t : EslTag, (t.ledEnable idx).displayCalls = t.displayCalls := by
    intro t
    simp only [ledEnable]
    split <;> rfl
  have hstop : ∀ t : EslTag, (t.ledStopByTime idx).displayCalls = t.displayCalls := by
    intro t
    simp only [ledStopByTime]
    split
    · rw [hupdate, displayCalls_ledOnOff]
    · rfl
  have hbit : ∀ t : EslTag, (t.ledShowBit idx).displayCalls = t.displayCalls := by
    intro t
    simp only [ledShowBit, scheduleLed, hupdate, displayCalls_ledOnOff]
  simp only [ledDelayWorkerFn]
  split_ifs <;>
    simp only [ledContinuous, hbit, hstop, henable, hupdate, displayCalls_ledOnOff]

lemma displayCalls_btEslInit (p : BootParam) : (btEslInit cfg p).displayCalls = [] := by
  have hrestored : (restored cfg p).displayCalls = [] := by
    have hdisplays : ∀ t : EslTag, (t.displayDworkResetAll cfg).displayCalls = t.displayCalls :=
      fun t => foldl_frame (fun t idx => t.displayDworkReset cfg idx) displayCalls (fun _ _ => rfl) _ t
    exact (hdisplays _).trans (displayCalls_ledDworkResetAll _)
  have hshow : ∀ (t : EslTag) (c : Bool) {o : TagOutput}, (∀ i img, o ≠ .displayControl i img) →
      (if c = true then t.emit o else t).displayCalls = t.displayCalls := by
    intro t c o ho
    split
    · exact displayCalls_emit t ho
    · rfl
  by_cases hp : (restored cfg p).assoc.configuringState.Provisioned
  · rw [btEslInit, eslIsConfiguringState, if_pos hp]
    dsimp only
    rw [displayCalls_btEslStateTransition, hshow _ _ (by rintro _ _ ⟨⟩),
      displayCalls_btEslStateTransition, hrestored]
  · rw [btEslInit, eslIsConfiguringState, if_neg hp]
    dsimp only
    rw [hshow _ _ (by rintro _ _ ⟨⟩), hrestored]

lemma displayCalls_commandSwitch (cmd : Mem) :
    (t.commandSwitch cfg cmd).displayCalls = t.displayCalls := by
  unfold commandSwitch
  cases EslOpCode.ofByte? (cmd 0) with
  | none =>
      simp only [opDefault]
      split_ifs <;> rfl
  | some op =>
      cases op with
      | ping | serviceReset => rfl
      | unassociate =>
          simp only [opUnassociate]
          split <;> rfl
      | factoryReset =>
          simp only [opFactoryReset]
          split_ifs
          · rfl
          · rfl
          · exact displayCalls_btEslFactoryReset t
      | updateComplete =>
          simp only [opUpdateComplete, eslIsConfiguringState]
          split_ifs
          · exact displayCalls_btEslStateTransition _ _
          · exact displayCalls_btEslStateTransition _ _
          · rfl
      | readSensorData =>
          simp only [opReadSensorData]
          split_ifs <;> rfl
      | refreshDisplay =>
          simp only [opRefreshDisplay]
          split_ifs <;> rfl
      | displayImage =>
          simp only [opDisplayImage]
          split <;> rfl
      | displayTimedImage =>
          simp only [opDisplayTimedImage]
          split
          · rfl
          · split_ifs <;> rfl
      | ledControl =>
          simp only [opLedControl]
          split_ifs
          · rfl
          · rfl
          · exact displayCalls_ledDworkReset _ _
      | ledTimedControl =>
          simp only [opLedTimedControl]
          split_ifs
          · rfl
          · rfl
          · exact displayCalls_ledDworkReset _ _
          · rfl
          · exact displayCalls_ledDworkReset _ _
          · rfl

lemma displayCalls_syncCb : (t.syncCb cfg).displayCalls = t.displayCalls := by
  simp only [syncCb]
  split
  · split
    · rw [displayCalls_emit _ (by rintro _ _ ⟨⟩), displayCalls_btEslStateTransition]
      rfl
    · exact displayCalls_btEslStateTransition _ _
  · rfl

lemma displayCalls_connected (err : UInt8) :
    (t.connected cfg err).displayCalls = t.displayCalls := by
  have hlit : ∀ t : EslTag, ((t.ledDworkReset cfg.indicationLedIdx).emit
      (.ledControl cfg.indicationLedIdx 0 true)).displayCalls = t.displayCalls := by
    intro t
    rw [displayCalls_emit _ (by rintro _ _ ⟨⟩), displayCalls_ledDworkReset]
  simp only [connected]
  split_ifs
  · rfl
  all_goals first | rfl | exact (hlit _).trans rfl

lemma displayCalls_disconnected (reason : UInt8) :
    (t.disconnected cfg reason).displayCalls = t.displayCalls := by
  have hstate : ∀ t : EslTag,
      (t.disconnectedState cfg reason).displayCalls = t.displayCalls := by
    intro t
    simp only [disconnectedState, eslIsConfiguringState]
    split_ifs
    · rfl
    · rw [displayCalls_btEslStateTransition]
      exact displayCalls_btEslStateTransition _ _
    · dsimp only
      split
      · exact displayCalls_btEslStateTransition _ _
      · rfl
    · rfl
  simp only [disconnected]
  split
  · rw [displayCalls_emit _ (by rintro _ _ ⟨⟩)]
    exact hstate _
  · exact hstate _

lemma displayCalls_securityChanged (err : Bool) :
    (t.securityChanged cfg err).displayCalls = t.displayCalls := by
  simp only [securityChanged]
  split_ifs
  · rfl
  · exact displayCalls_btEslStateTransition _ _
  · rfl

lemma displayCalls_eslStateTimeoutWorkFn :
    (t.eslStateTimeoutWorkFn cfg).displayCalls = t.displayCalls := by
  unfold eslStateTimeoutWorkFn
  cases t.assoc.stateTimeoutWork.mode with
  | unsynced =>
      dsimp only
      rw [displayCalls_eslStopSyncPawr]
      exact displayCalls_btEslStateTransition _ _
  | unassociated => exact displayCalls_btEslUnassociate t

lemma displayCalls_eslAdvertisingFn :
    (t.eslAdvertisingFn cfg).displayCalls = t.displayCalls := by
  simp only [eslAdvertisingFn]
  rw [displayCalls_emit _ (by rintro _ _ ⟨⟩)]
  split <;> rfl

/-- The display worker calls `display_control` with the image in its record. -/
lemma mem_displayCalls_displayDelayWorkerFn {idx : ℕ} {call : ℕ × UInt8}
    (h : call ∈ (t.displayDelayWorkerFn cfg idx).displayCalls) :
    call ∈ t.displayCalls
      ∨ idx < cfg.displayMax ∧ call = (idx, (t.elems.displayWorks idx).imgIdx) := by
  simp only [displayDelayWorkerFn] at h
  split_ifs at h with hidx hcontrol
  · exact .inl h
  · rw [displayCalls, emit, List.filterMap_append, List.mem_append] at h
    refine h.imp id fun hlast => ⟨not_le.mp hidx, ?_⟩
    rw [displayWorks_updateDisplay, if_pos rfl] at hlast
    exact List.mem_singleton.mp hlast
  · exact .inl h

end Calls

end EslTag

namespace TagDevice

section Step

variable {cfg : Config} {ead : Ead} {d d' : TagDevice} {e : TagEvent}

lemma displayCalls_ecpCommandHandler (env : HandlerEnv) :
    (d.ecpCommandHandler cfg env).tag.displayCalls = d.tag.displayCalls := by
  have hexec : (d.ecpCommandHandler cfg env).tag.out
      = (d.tag.executeCommand cfg d.ecpNetBuf).1.out := out_ecpCommandHandler env
  have hout := displayCalls_of_out hexec
  by_cases hsw : d.tag.ReachesSwitch cfg d.ecpNetBuf
  · rw [hout, hsw.executeCommand, displayCalls_commandSwitch]
    rfl
  · exact hout.trans (displayCalls_of_out (untouched_executeCommand hsw).out)

lemma displayCalls_recvCb (counter subevent buf) :
    (d.recvCb cfg counter subevent buf).tag.displayCalls = d.tag.displayCalls := by
  simp only [recvCb]
  split_ifs
  · rfl
  · exact displayCalls_ledDworkReset _ _
  · rfl
  · exact displayCalls_ledDworkReset _ _
  · rfl

lemma displayCalls_parserStep {rnd : Randomness} (h : d.parserStep cfg ead rnd = some d') :
    d'.tag.displayCalls = d.tag.displayCalls := by
  cases parserTurn h with
  | move => rfl
  | dispatch => rfl
  | finish =>
      simp only [endPacket, setPawrResponse]
      split <;> rfl

lemma displayCalls_pawrSyncWorkFn (stack : Mem) :
    (d.pawrSyncWorkFn cfg ead stack).tag.displayCalls = d.tag.displayCalls := by
  simp only [pawrSyncWorkFn]
  split_ifs
  · rw [tag_beginPacket]
  · simp only [renewTimeout, tag_beginPacket]
    rfl
  · rfl

/-- **Only the display worker calls `display_control`.** -/
theorem displayCalls_step (h : d.step cfg ead e = some d') {call : ℕ × UInt8}
    (hcall : call ∈ d'.tag.displayCalls) :
    call ∈ d.tag.displayCalls
      ∨ ∃ i < cfg.displayMax, e = .displayWork i
        ∧ call = (i, (d.tag.elems.displayWorks i).imgIdx) := by
  have hkept : d'.tag.displayCalls = d.tag.displayCalls →
      call ∈ d.tag.displayCalls ∨ ∃ i < cfg.displayMax, e = .displayWork i
        ∧ call = (i, (d.tag.elems.displayWorks i).imgIdx) :=
    fun hcalls => .inl (hcalls ▸ hcall)
  cases e with
  | tick | imageWritten | busy =>
      cases h
      exact .inl hcall
  | connected err =>
      cases h
      exact hkept (displayCalls_connected d.tag err)
  | disconnected reason =>
      cases h
      exact hkept (displayCalls_disconnected d.tag reason)
  | securityChanged err =>
      cases h
      exact hkept (displayCalls_securityChanged d.tag err)
  | eslAddrWrite w =>
      cases h
      refine hkept ?_
      simp only [onTag, eslAddrWrite]
      split
      · rfl
      · exact displayCalls_eslIsConfiguringState _
  | apKeyWrite | eslRspKeyWrite | absTimeWrite =>
      cases h
      exact hkept (displayCalls_eslIsConfiguringState _)
  | eslControlWrite w =>
      cases h
      exact hkept (by rw [tag_eslControlWrite])
  | ecpWork env =>
      obtain ⟨-, rfl⟩ := step_ecpWork_eq_some.mp h
      exact hkept (displayCalls_ecpCommandHandler env)
  | notifySent =>
      obtain ⟨n, rest, -, rfl⟩ := step_notifySent_eq_some.mp h
      cases hf : n.func with
      | unassociatedCb =>
          rw [hf] at hcall
          exact .inl ((displayCalls_btEslUnassociate d.tag) ▸ hcall)
      | notifyCb =>
          rw [hf] at hcall
          exact .inl hcall
  | syncCb =>
      cases h
      exact hkept (displayCalls_syncCb d.tag)
  | termCb =>
      cases h
      refine hkept ((displayCalls_termCbTail _).trans ?_)
      exact displayCalls_eslStopSyncPawr _
  | recvCb counter subevent buf =>
      cases h
      exact hkept (displayCalls_recvCb counter subevent buf)
  | pawrSyncWork stack =>
      obtain ⟨-, rfl⟩ := step_pawrSyncWork_eq_some.mp h
      exact hkept (displayCalls_pawrSyncWorkFn stack)
  | parserStep rnd => exact hkept (displayCalls_parserStep h)
  | stateTimeout =>
      obtain ⟨-, rfl⟩ := step_stateTimeout_eq_some.mp h
      exact hkept (displayCalls_eslStateTimeoutWorkFn _)
  | ledWork idx =>
      obtain ⟨-, rfl⟩ := step_ledWork_eq_some.mp h
      exact hkept (displayCalls_ledDelayWorkerFn d.tag idx)
  | displayWork idx =>
      obtain ⟨-, rfl⟩ := step_displayWork_eq_some.mp h
      rcases mem_displayCalls_displayDelayWorkerFn d.tag hcall with hold | ⟨hi, hnew⟩
      · exact .inl hold
      · exact .inr ⟨idx, hi, rfl, hnew⟩
  | advWork =>
      obtain ⟨-, rfl⟩ := step_advWork_eq_some.mp h
      exact hkept (displayCalls_eslAdvertisingFn d.tag)
  | factoryReset =>
      cases h
      exact hkept (displayCalls_btEslFactoryReset d.tag)
  | unassociate =>
      cases h
      exact hkept (displayCalls_btEslUnassociate d.tag)
  | reboot p =>
      cases h
      have hinit : (btEslInit cfg { p with settings := d.tag.assoc.settings }).displayCalls = [] :=
        displayCalls_btEslInit _
      exact absurd (hinit ▸ hcall) (List.not_mem_nil)

end Step

end TagDevice

/-! ## Answers -/

/-- Bits 2, 3 and 4 of the Basic State. -/
lemma BasicState.testBits_toUInt16 (b : BasicState) :
    b.toUInt16.toNat.testBit 2 = b.activeLed
      ∧ b.toUInt16.toNat.testBit 3 = b.pendingLedUpdate
      ∧ b.toUInt16.toNat.testBit 4 = b.pendingDisplayUpdate := by
  obtain ⟨s, y, a, l, p⟩ := b
  cases s <;> cases y <;> cases a <;> cases l <;> cases p <;> decide

/-- **Fresh bits.**  A Basic State response is built over the tables as they are. -/
lemma EslTag.reportsWorkTable {cfg : Config} (t : EslTag) (env : HandlerEnv)
    (h : t.ecp.resp.respOp = .basicState) :
    ReportsWorkTable cfg (t.prepareResponse cfg) ((t.prepareResponse cfg).responseBytes cfg env)
      (t.prepareResponse cfg).basicState.toUInt16 := by
  have hprep : t.prepareResponse cfg =
      { t with ecp.notifyFunc := some (t.ecp.notifyFunc.getD .notifyCb) }.btEslBasicStateUpdate
        cfg := if_pos h
  obtain ⟨hactive, hled, hdisplay⟩ :=
    BasicState.testBits_toUInt16 (t.prepareResponse cfg).basicState
  refine ⟨?_, ?_, ?_, ?_⟩
  · have hop : (t.prepareResponse cfg).ecp.resp.respOp = .basicState := by
      rw [hprep]
      exact h
    rw [responseBytes, hop]
  · rw [hactive, hprep]
    simp [btEslBasicStateUpdate]
  · rw [hled, hprep]
    simp [btEslBasicStateUpdate]
  · rw [hdisplay, hprep]
    simp [btEslBasicStateUpdate]

/-- The response of a run of the handler is the one it has just built. -/
lemma TagDevice.response_ecpResponseHandler {cfg : Config} (d : TagDevice) (env : HandlerEnv)
    {x : Execution} (hx : x ∈ (d.ecpResponseHandler cfg env).log.executed.getLast?)
    {rsp : List UInt8} (hrsp : rsp ∈ x.answer.response?) :
    rsp = (d.tag.prepareResponse cfg).responseBytes cfg env := by
  simp only [ecpResponseHandler, logExecution] at hx
  split at hx
  · obtain rfl := Option.mem_some_iff.mp (List.getLast?_concat ▸ hx)
    exact (Option.some.inj hrsp).symm
  · split at hx
    · obtain rfl := Option.mem_some_iff.mp (List.getLast?_concat ▸ hx)
      exact (Option.some.inj hrsp).symm
    · obtain rfl := Option.mem_some_iff.mp (List.getLast?_concat ▸ hx)
      cases hrsp

lemma EslTag.respOp_prepareResponse {cfg : Config} (t : EslTag) :
    (t.prepareResponse cfg).ecp.resp.respOp = t.ecp.resp.respOp := by
  simp only [prepareResponse]
  split <;> rfl

/-- **Every Basic State response is exact.** -/
theorem answersExactly (cfg : Config) (d : TagDevice) (e : TagEvent) : AnswersExactly cfg d e := by
  rintro env - hop x hx rsp hrsp
  simp only [TagDevice.ecpCommandHandler] at hop hx ⊢
  split at hop
  · rename_i hbuilt
    rw [if_pos hbuilt] at hx ⊢
    rw [TagDevice.tag_ecpResponseHandler, respOp_prepareResponse] at hop
    rw [TagDevice.tag_ecpResponseHandler, TagDevice.response_ecpResponseHandler _ env hx hrsp]
    exact ⟨_, reportsWorkTable _ env hop⟩
  · rename_i hbuilt
    rw [if_neg hbuilt] at hx
    obtain rfl := Option.mem_some_iff.mp (List.getLast?_concat ▸ hx)
    cases hrsp

/-! ## Runs -/

section Runs

variable {cfg : Config} {ead : Ead}

/-- The invariant of a run: every display record is sound. -/
structure SoundTables (cfg : Config) (t : EslTag) : Prop where
  led : ∀ i < cfg.ledMax, (t.led i).dwork.startAbsTime ≠ 0 → (t.led i).dwork.work ≠ none
  display : ∀ i < cfg.displayMax, (t.elems.displayWorks i).Sound cfg
  shown : ∀ call ∈ t.displayCalls, cfg.ValidImage call.2

lemma SoundTables.workTable {t : EslTag} (h : SoundTables cfg t) : WorkTable cfg t where
  led := h.led
  display i hi := (h.display i hi).time
  image i hi hw := (h.display i hi).validImage hw
  shown := h.shown

/-- **One step.** -/
theorem soundTables_step :
    PreservedUnder (TagDevice.step cfg ead) (ShowsImages cfg) (fun d => SoundTables cfg d.tag) := by
  intro d e d' h hg hstep
  refine ⟨fun i hi hstart => ?_, fun i hi => ?_, fun call hcall => ?_⟩
  · have hled := TagDevice.led_step hi hstep
    cases hop : d.ledOp? cfg i e with
    | none =>
        rw [hop] at hled
        rw [hled] at hstart ⊢
        exact h.led i hi hstart
    | some op =>
        rw [hop] at hled
        rw [hled] at hstart ⊢
        exact work_ledApply d.tag hi op hstart
  · rw [TagDevice.displayWorks_step hi hstep]
    cases hop : d.displayOp? cfg i e with
    | none => exact h.display i hi
    | some op =>
        exact DisplayOp.sound_apply (h.display i hi) (TagDevice.passed_of_displayOp? hop)
          (hg i hi op hop) _ _
  · rcases TagDevice.displayCalls_step hstep hcall with hold | ⟨i, hi, rfl, rfl⟩
    · exact h.shown call hold
    · -- the worker runs only when its work is due
      obtain ⟨⟨due, hdue, -⟩, -⟩ := TagDevice.step_displayWork_eq_some.mp hstep
      exact (h.display i hi).validImage (by rw [hdue]; exact Option.some_ne_none _)

lemma soundTables_boot (p : BootParam) : SoundTables cfg (TagDevice.boot cfg p).tag where
  led i hi hstart := by
    rw [TagDevice.led_boot hi] at hstart
    exact absurd rfl hstart
  display i hi := by
    rw [TagDevice.displayWorks_boot hi]
    exact DisplayDwork.sound_reset
  shown call hcall := by
    have hinit : (btEslInit cfg p).displayCalls = [] := displayCalls_btEslInit p
    exact absurd (hinit ▸ hcall) (List.not_mem_nil)

/-- Outside the guard, image 0 of a build that has none is scheduled at once. -/
lemma showsImages_of_workTable {d d' : TagDevice} {e : TagEvent}
    (hstep : d.step cfg ead e = some d') (h' : WorkTable cfg d'.tag) : ShowsImages cfg d e := by
  intro i hi op hop
  have himage := h'.image i hi
  rw [TagDevice.displayWorks_step hi hstep, Option.mem_def.mp hop] at himage
  exact DisplayOp.showsImage_of_validImage (TagDevice.passed_of_displayOp? hop) himage

/-- Along the run the work tables are consistent and every answer reports them. -/
structure WorkTableKept (cfg : Config) (ead : Ead) (d : TagDevice) (es : List TagEvent) : Prop where
  tables : AlongRun (TagDevice.step cfg ead) (fun d => WorkTable cfg d.tag) d es
  answers : StepsMeet (TagDevice.step cfg ead) (AnswersExactly cfg) d es

/-- **Work table.**  From boot, the work tables are consistent in every state of a run and every
Basic State response reports them exactly when no display of a build without images accepts a command
for image 0. -/
theorem workTable_iff (cfg : Config) (ead : Ead) (p : BootParam) (es : List TagEvent) :
    WorkTableKept cfg ead (TagDevice.boot cfg p) es
      ↔ StepsMeet (TagDevice.step cfg ead) (ShowsImages cfg) (TagDevice.boot cfg p) es := by
  have hiff : AlongRun (TagDevice.step cfg ead) (fun d => WorkTable cfg d.tag)
        (TagDevice.boot cfg p) es
      ↔ StepsMeet (TagDevice.step cfg ead) (ShowsImages cfg) (TagDevice.boot cfg p) es :=
    alongRun_iff_stepsMeet (I := fun d => SoundTables cfg d.tag) (fun _ h => h.workTable)
      soundTables_step (fun _ _ _ _ hstep h' => showsImages_of_workTable hstep h')
      (soundTables_boot p)
  exact ⟨fun h => hiff.mp h.tables, fun hg => ⟨hiff.mpr hg, .of_forall (answersExactly cfg)⟩⟩

end Runs

/-! ### A build without images -/

/-- The sample with a display and `CONFIG_BT_ESL_IMAGE_MAX` left at its default. -/
def Config.noImages : Config :=
  { Config.sample with
    imageMax := 0
    imageMax_le := Nat.zero_le _ }

/-- Display Image with image 0 is accepted. -/
def imageZeroShown : List TagEvent :=
  configuredAndUpdating ++ [.eslControlWrite (.ofBytes [0x20, 0x01, 0, 0]), .ecpWork {}]

/-- The display work is scheduled with the sentinel. -/
theorem workTable_fails :
    ((run (TagDevice.step .noImages .clear) (TagDevice.boot .noImages {}) imageZeroShown).map fun d =>
      ((d.tag.elems.displayWorks 0).work, (d.tag.elems.displayWorks 0).imgIdx))
        = some (some 0, 0)
    ∧ ¬ WorkTableKept .noImages .clear (TagDevice.boot .noImages {}) imageZeroShown := by
  have hrun : ((run (TagDevice.step .noImages .clear) (TagDevice.boot .noImages {})
      imageZeroShown).map fun d =>
        ((d.tag.elems.displayWorks 0).work, (d.tag.elems.displayWorks 0).imgIdx))
          = some (some 0, 0) := by
    decide +kernel
  refine ⟨hrun, fun h => ?_⟩
  obtain ⟨d, hproj, htables⟩ := h.tables.exists_of_map hrun
  simp only [Prod.mk.injEq] at hproj
  have himage := htables.image 0 (by decide)
  rw [hproj.1, hproj.2] at himage
  exact (himage (Option.some_ne_none _)).2 rfl

end NrfEsl
