import NrfEsl.Packet
import NrfEsl.Tag.Uptime

/-!
# The image on a display

Refresh Display should show the image that the display showed last, and be refused before there is
one.  The image is what `display_control` was last called with, a fact about the past
(`DisplayHistory`).

The tag has one field for it, `img_idx`, and the same field holds the image of a command that waits
for its time; deleting that command overwrites it too.  So Refresh Display does not read the image
shown last but the one **named last** by an accepted command (`namesLatest_step`), and it answers
right exactly when the two agree (`refreshShows_iff`).

Showing the image again is work of the same record.  A command that is accepted before the worker has
run takes the record over, and the image is not shown again (`reshowKept_iff`).
-/

namespace NrfEsl

open EslTag TransitionSystem

/-! ## Specification -/

/-- The image of an index; `CONFIG_BT_ESL_IMAGE_MAX` stands for none. -/
def Config.imageOf (cfg : Config) (imgIdx : UInt8) : Option UInt8 :=
  if imgIdx.toNat = cfg.imageMax then none else some imgIdx

/-- The image a display showed last, and the one that an accepted command named last. -/
structure DisplayHistory where
  shown : Option UInt8
  latest : Option UInt8
  /-- An accepted Refresh Display has reported this image, and the worker has not shown it since. -/
  refreshing : Option UInt8

/-- Nothing has been shown; a PTS build has named image 0. -/
def DisplayHistory.boot (cfg : Config) : DisplayHistory :=
  ⟨none, cfg.imageOf cfg.resetImgIdx, none⟩

/-- The history after one more event.  Only the worker shows an image. -/
def displayHistoryAfter (cfg : Config) (i : ℕ) (d : TagDevice) (e : TagEvent) (_ : TagDevice)
    (h : DisplayHistory) : DisplayHistory :=
  match d.displayOp? cfg i e with
  | some .refresh => { h with refreshing := some (d.tag.elems.displayWorks i).imgIdx }
  | some (.display imgIdx) | some (.arm _ imgIdx) =>
      { h with latest := cfg.imageOf imgIdx, refreshing := none }
  | some .delete => { h with latest := cfg.imageOf cfg.resetImgIdx, refreshing := none }
  | some .run =>
      if cfg.hasDisplayControl then
        { h with shown := some (d.tag.elems.displayWorks i).imgIdx, refreshing := none }
      else { h with refreshing := none }
  | some .boot => .boot cfg
  | none => h

/-- The tag, with the history of display `i`. -/
def stepDisplay (cfg : Config) (ead : Ead) (i : ℕ) :
    TagDevice × DisplayHistory → TagEvent → Option (TagDevice × DisplayHistory) :=
  withHistory (displayHistoryAfter cfg i) (TagDevice.step cfg ead)

/-- The queued command is a Refresh Display for display `i`. -/
def TagDevice.RunsRefresh (cfg : Config) (i : ℕ) (d : TagDevice) : Prop :=
  d.Runs cfg .refreshDisplay ∧ (d.ecpNetBuf.data 2).toNat = i

instance (cfg : Config) (i : ℕ) (d : TagDevice) : Decidable (d.RunsRefresh cfg i) :=
  inferInstanceAs (Decidable (_ ∧ _))

/-- The response that reports an image. -/
def displayStateResponse (i : ℕ) (imgIdx : UInt8) : List UInt8 :=
  [EslRespCode.displayState.toByte, UInt8.ofNat i, imgIdx]

/-- Refresh Display on display `i`: accepted when an image has been shown, and then it reports the
image shown last and shows it again at once. -/
structure RefreshShows (cfg : Config) (i : ℕ) (env : HandlerEnv) (shown : Option UInt8)
    (d d' : TagDevice) : Prop where
  accepted : (∃ imgIdx, TagDevice.response cfg env d.ecpNetBuf d.tag = displayStateResponse i imgIdx)
    ↔ shown.isSome
  reported : ∀ imgIdx ∈ shown,
    TagDevice.response cfg env d.ecpNetBuf d.tag = displayStateResponse i imgIdx
  reshown : ∀ imgIdx ∈ shown, (d'.tag.elems.displayWorks i).imgIdx = imgIdx
    ∧ (d'.tag.elems.displayWorks i).work = some d.tag.uptime

/-- An image that is to be shown again stays so until the worker shows it: the worker has it in its
record and can run at once.  A boot starts over. -/
def ReshowKept (cfg : Config) (ead : Ead) (i : ℕ) (x : TagDevice × DisplayHistory)
    (e : TagEvent) : Prop :=
  ∀ imgIdx ∈ x.2.refreshing, ∀ y, stepDisplay cfg ead i x e = some y →
    (∃ p, e = .reboot p)
      ∨ (e = .displayWork i ∧ y.2.shown = some imgIdx)
      ∨ ((y.1.tag.elems.displayWorks i).imgIdx = imgIdx
        ∧ (y.1.tag.elems.displayWorks i).work.Due y.1.tag.uptime)

/-- Every Refresh Display that is executed answers right and shows its image again. -/
def RefreshAgrees (cfg : Config) (ead : Ead) (i : ℕ) (x : TagDevice × DisplayHistory)
    (e : TagEvent) : Prop :=
  (∀ env, e = .ecpWork env → x.1.RunsRefresh cfg i →
    ∀ d', x.1.step cfg ead e = some d' → RefreshShows cfg i env x.2.shown x.1 d')
  ∧ ReshowKept cfg ead i x e

/-- The event runs the command work. -/
def TagEvent.isEcpWork : TagEvent → Bool
  | .ecpWork _ => true
  | _ => false

/-- A Refresh Display that is executed finds the image shown last to be the one named last. -/
def ShownIsLatest (cfg : Config) (i : ℕ) (x : TagDevice × DisplayHistory) (e : TagEvent) : Prop :=
  e.isEcpWork = true → x.1.RunsRefresh cfg i → x.2.shown = x.2.latest

instance (cfg : Config) (i : ℕ) (x : TagDevice × DisplayHistory) (e : TagEvent) :
    Decidable (ShownIsLatest cfg i x e) :=
  inferInstanceAs (Decidable (_ → _ → _))

/-- An operation leaves an image to be shown again: a command names the same one, for now. -/
def DisplayOp.LeavesReshow (cfg : Config) (absTime : UInt32) (imgIdx : UInt8) : DisplayOp → Prop
  | .display other => other = imgIdx
  | .arm start other => other = imgIdx ∧ start = absTime
  | .delete => False
  | .run => cfg.hasDisplayControl = true
  | .refresh | .boot => True

instance (cfg : Config) (absTime : UInt32) (imgIdx : UInt8) :
    DecidablePred (DisplayOp.LeavesReshow cfg absTime imgIdx)
  | .display other => inferInstanceAs (Decidable (other = imgIdx))
  | .arm start other => inferInstanceAs (Decidable (other = imgIdx ∧ start = absTime))
  | .delete => isFalse id
  | .run => inferInstanceAs (Decidable (cfg.hasDisplayControl = true))
  | .refresh | .boot => isTrue trivial

/-- Between a Refresh Display and the worker no command takes the record over. -/
def SparesReshow (cfg : Config) (i : ℕ) (x : TagDevice × DisplayHistory) (e : TagEvent) : Prop :=
  ∀ imgIdx ∈ x.2.refreshing, ∀ op ∈ x.1.displayOp? cfg i e, op.LeavesReshow cfg x.1.tag.absTime imgIdx

instance (cfg : Config) (i : ℕ) (x : TagDevice × DisplayHistory) (e : TagEvent) :
    Decidable (SparesReshow cfg i x e) :=
  inferInstanceAs (Decidable (∀ imgIdx ∈ x.2.refreshing, ∀ op ∈ x.1.displayOp? cfg i e,
    op.LeavesReshow cfg x.1.tag.absTime imgIdx))

/-- What the steps of a run have to meet. -/
def RefreshSpared (cfg : Config) (i : ℕ) (x : TagDevice × DisplayHistory) (e : TagEvent) : Prop :=
  ShownIsLatest cfg i x e ∧ SparesReshow cfg i x e

instance (cfg : Config) (i : ℕ) (x : TagDevice × DisplayHistory) (e : TagEvent) :
    Decidable (RefreshSpared cfg i x e) :=
  inferInstanceAs (Decidable (_ ∧ _))

/-! ## The image named last -/

section Runs

variable {cfg : Config} {ead : Ead} {i : ℕ}

/-- The record of the display holds the image named last. -/
def NamesLatest (cfg : Config) (i : ℕ) (x : TagDevice × DisplayHistory) : Prop :=
  cfg.imageOf (x.1.tag.elems.displayWorks i).imgIdx = x.2.latest

/-- **`img_idx` is the image named last**, whatever the tag does. -/
lemma namesLatest_step (hi : i < cfg.displayMax) {x y : TagDevice × DisplayHistory} {e : TagEvent}
    (hx : NamesLatest cfg i x) (h : stepDisplay cfg ead i x e = some y) : NamesLatest cfg i y := by
  obtain ⟨hstep, hhist⟩ := withHistory_eq_some.mp h
  rw [NamesLatest, TagDevice.displayWorks_step hi hstep, hhist, displayHistoryAfter]
  cases x.1.displayOp? cfg i e with
  | none => exact hx
  | some op =>
      cases op with
      | run =>
          dsimp only [displayAfter, DisplayOp.apply]
          split
          · exact hx
          · exact hx
      | refresh => exact hx
      | _ => rfl

/-- What Refresh Display answers: the image in the record, or Invalid Image Index. -/
lemma response_refreshDisplay (hi : i < cfg.displayMax) {d : TagDevice} (hd : d.RunsRefresh cfg i)
    (env : HandlerEnv) :
    TagDevice.response cfg env d.ecpNetBuf d.tag =
      match cfg.imageOf (d.tag.elems.displayWorks i).imgIdx with
      | some imgIdx => displayStateResponse i imgIdx
      | none => [EslRespCode.err.toByte, EslRspErrCode.invImgIdx.toByte] := by
  obtain ⟨⟨hsw, hop⟩, rfl⟩ := hd
  have hmax : cfg.displayMax ≠ 0 := by omega
  rw [TagDevice.response, hsw.executeCommand, commandSwitch, EslOpCode.ofByte?_eq_some.mpr hop]
  simp only [opRefreshDisplay, if_neg hmax, if_neg (not_le.mpr hi), Config.imageOf]
  rw [show d.tag.startCommand.elems = d.tag.elems from rfl]
  split
  · rfl
  · simp only [displayStateResponse, UInt8.ofNat_toNat]
    rfl

/-- An accepted Refresh Display leaves the image and makes the worker run at once. -/
lemma displayWorks_refreshDisplay (hi : i < cfg.displayMax) {d d' : TagDevice} {env : HandlerEnv}
    (hd : d.RunsRefresh cfg i) (h : d.step cfg ead (.ecpWork env) = some d') {imgIdx : UInt8}
    (himg : cfg.imageOf (d.tag.elems.displayWorks i).imgIdx = some imgIdx) :
    d'.tag.elems.displayWorks i
      = { d.tag.elems.displayWorks i with imgIdx := imgIdx, work := some d.tag.uptime } := by
  obtain ⟨⟨hsw, hop⟩, hidx⟩ := hd
  have hnot : ¬ ((d.ecpNetBuf.data 2).toNat ≠ i ∨ cfg.displayMax ≤ i) := by
    rintro (h | h)
    · exact h hidx
    · omega
  rw [Config.imageOf] at himg
  split at himg
  · cases himg
  · rename_i hne
    have hop? : d.displayOp? cfg i (.ecpWork env) = some .refresh := by
      rw [TagDevice.displayOp?, if_pos hsw, displayCommand?, if_neg hnot,
        EslOpCode.ofByte?_eq_some.mpr hop]
      exact if_neg hne
    rw [TagDevice.displayWorks_step hi h, hop?, ← Option.some.inj himg]
    rfl

/-- **One Refresh Display** is right exactly when the image shown last is the one named last. -/
lemma refreshShows_iff (hi : i < cfg.displayMax) {x : TagDevice × DisplayHistory} {d' : TagDevice}
    {env : HandlerEnv} (hx : NamesLatest cfg i x) (hd : x.1.RunsRefresh cfg i)
    (h : x.1.step cfg ead (.ecpWork env) = some d') :
    RefreshShows cfg i env x.2.shown x.1 d' ↔ x.2.shown = x.2.latest := by
  have hresponse := response_refreshDisplay hi hd env
  have hworks : ∀ imgIdx, cfg.imageOf (x.1.tag.elems.displayWorks i).imgIdx = some imgIdx →
      d'.tag.elems.displayWorks i
        = { x.1.tag.elems.displayWorks i with imgIdx := imgIdx, work := some x.1.tag.uptime } :=
    fun _ himg => displayWorks_refreshDisplay hi hd h himg
  rw [hx] at hresponse hworks
  cases hlatest : x.2.latest with
  | none =>
      rw [hlatest] at hresponse
      constructor
      · intro hshows
        refine Option.not_isSome_iff_eq_none.mp fun hsome => ?_
        obtain ⟨imgIdx, himg⟩ := hshows.accepted.mpr hsome
        rw [hresponse] at himg
        cases himg
      · intro hnone
        rw [hnone]
        refine ⟨iff_of_false ?_ (by simp), by rintro _ ⟨⟩, by rintro _ ⟨⟩⟩
        rintro ⟨imgIdx, himg⟩
        rw [hresponse] at himg
        cases himg
  | some latest =>
      rw [hlatest] at hresponse
      constructor
      · intro hshows
        obtain ⟨shown, hshown⟩ := Option.isSome_iff_exists.mp (hshows.accepted.mp ⟨latest, hresponse⟩)
        have hsame := hresponse.symm.trans (hshows.reported shown hshown)
        rw [hshown]
        simpa [displayStateResponse] using hsame.symm
      · intro hshown
        rw [hshown]
        refine ⟨iff_of_true ⟨latest, hresponse⟩ rfl, ?_, ?_⟩
        · rintro _ ⟨⟩
          exact hresponse
        · rintro _ ⟨⟩
          rw [hworks latest hlatest]
          exact ⟨rfl, rfl⟩

/-! ## Showing it again -/

/-- The record still has the image that is to be shown again, and the worker can run; only a build
with a display shows anything. -/
structure KeepsReshow (cfg : Config) (i : ℕ) (x : TagDevice × DisplayHistory) : Prop where
  record : ∀ imgIdx ∈ x.2.refreshing, (x.1.tag.elems.displayWorks i).imgIdx = imgIdx
    ∧ (x.1.tag.elems.displayWorks i).work.Due x.1.tag.uptime
  control : x.2.shown.isSome = true → cfg.hasDisplayControl = true

/-- Only a boot starts a display over, and the commands take no time. -/
lemma event_of_displayOp? {d : TagDevice} {e : TagEvent} {op : DisplayOp}
    (h : d.displayOp? cfg i e = some op) (hrun : op ≠ .run) (hboot : op ≠ .boot) :
    ∃ env, e = .ecpWork env := by
  cases e with
  | ecpWork env => exact ⟨env, rfl⟩
  | displayWork idx =>
      simp only [TagDevice.displayOp?, Option.ite_none_right_eq_some, Option.some_inj] at h
      exact absurd h.2.symm hrun
  | reboot p => exact absurd (Option.some.inj h).symm hboot
  | _ => cases h

lemma reboot_of_displayOp? {d : TagDevice} {e : TagEvent} (h : d.displayOp? cfg i e = some .boot) :
    ∃ p, e = .reboot p := by
  cases e with
  | reboot p => exact ⟨p, rfl⟩
  | ecpWork env =>
      simp only [TagDevice.displayOp?, displayCommand?, Option.ite_none_right_eq_some,
        Option.ite_none_left_eq_some] at h
      obtain ⟨-, -, h⟩ := h
      split at h <;> first | cases h | (split_ifs at h <;> cases h)
  | displayWork idx =>
      simp only [TagDevice.displayOp?, Option.ite_none_right_eq_some, Option.some_inj] at h
      cases h.2
  | _ => cases h

/-- **What is to be shown again stays in the record**, whatever the tag does: what takes the record
over ends the wait. -/
lemma keepsReshow_step (hi : i < cfg.displayMax) {x y : TagDevice × DisplayHistory} {e : TagEvent}
    (hx : KeepsReshow cfg i x) (h : stepDisplay cfg ead i x e = some y) : KeepsReshow cfg i y := by
  obtain ⟨hstep, hhist⟩ := withHistory_eq_some.mp h
  have hdisplay := TagDevice.displayWorks_step hi hstep
  cases hop : x.1.displayOp? cfg i e with
  | none =>
      rw [displayHistoryAfter, hop] at hhist
      rw [hop] at hdisplay
      have hboot : ∀ p, e ≠ .reboot p := by
        rintro p rfl
        cases hop
      refine ⟨fun imgIdx himg => ?_, hhist ▸ hx.control⟩
      rw [hhist] at himg
      obtain ⟨hrecord, due, hdue, hle⟩ := hx.record imgIdx himg
      rw [hdisplay]
      exact ⟨hrecord, due, hdue, hle.trans (TagDevice.uptime_le_of_step hstep hboot)⟩
  | some op =>
      rw [displayHistoryAfter, hop] at hhist
      rw [hop] at hdisplay
      cases op with
      | refresh =>
          obtain ⟨env, rfl⟩ := event_of_displayOp? hop (by rintro ⟨⟩) (by rintro ⟨⟩)
          have huptime := TagDevice.uptime_step hstep (by rintro _ ⟨⟩) (by rintro _ ⟨⟩)
          refine ⟨fun imgIdx himg => ?_, hhist ▸ hx.control⟩
          rw [hhist] at himg
          cases himg
          rw [hdisplay]
          exact ⟨rfl, _, rfl, huptime.ge⟩
      | run =>
          by_cases hcontrol : cfg.hasDisplayControl = true
          · refine ⟨fun imgIdx himg => ?_, fun _ => hcontrol⟩
            dsimp only at hhist
            rw [hhist, if_pos hcontrol] at himg
            cases himg
          · dsimp only at hhist
            rw [if_neg hcontrol] at hhist
            refine ⟨fun imgIdx himg => ?_, hhist ▸ hx.control⟩
            rw [hhist] at himg
            cases himg
      | boot =>
          refine ⟨fun imgIdx himg => ?_, fun hsome => ?_⟩
          · rw [hhist] at himg
            cases himg
          · rw [hhist] at hsome
            cases hsome
      | display | arm | delete =>
          refine ⟨fun imgIdx himg => ?_, hhist ▸ hx.control⟩
          rw [hhist] at himg
          cases himg

/-- After a command the record alone tells whether the image is shown again. -/
lemma reshow_of_command {x y : TagDevice × DisplayHistory} {e : TagEvent} {op : DisplayOp}
    (hop : x.1.displayOp? cfg i e = some op) (hrun : op ≠ .run) (hboot : op ≠ .boot)
    (hstep : x.1.step cfg ead e = some y.1) {imgIdx : UInt8} :
    ((∃ p, e = .reboot p) ∨ (e = .displayWork i ∧ y.2.shown = some imgIdx)
        ∨ ((y.1.tag.elems.displayWorks i).imgIdx = imgIdx
          ∧ (y.1.tag.elems.displayWorks i).work.Due y.1.tag.uptime))
      ↔ (y.1.tag.elems.displayWorks i).imgIdx = imgIdx
        ∧ (y.1.tag.elems.displayWorks i).work.Due x.1.tag.uptime := by
  obtain ⟨env, rfl⟩ := event_of_displayOp? hop hrun hboot
  rw [TagDevice.uptime_step hstep (by rintro _ ⟨⟩) (by rintro _ ⟨⟩)]
  constructor
  · rintro (⟨p, ⟨⟩⟩ | ⟨⟨⟩, -⟩ | h)
    exact h
  · exact fun h => .inr (.inr h)

lemma due_some_iff {due now : ℕ} : DelayableWork.Due (some due) now ↔ due ≤ now := by
  constructor
  · rintro ⟨_, ⟨⟩, hle⟩
    exact hle
  · exact fun hle => ⟨due, rfl, hle⟩

/-- A timed command for a time is run at once when it is that time. -/
lemma add_toNat_sub_le_iff {now : ℕ} {start absTime : UInt32} :
    now + (start - absTime).toNat ≤ now ↔ start = absTime := by
  constructor
  · intro hle
    have hzero : start - absTime = 0 := by
      refine UInt32.toNat_inj.mp ?_
      have h0 : (0 : UInt32).toNat = 0 := rfl
      omega
    rw [UInt32.sub_eq_iff_eq_add] at hzero
    rw [hzero, UInt32.zero_add]
  · rintro rfl
    simp

/-- **One step and an image to be shown again.** -/
lemma reshowKept_iff (hi : i < cfg.displayMax) {x y : TagDevice × DisplayHistory} {e : TagEvent}
    (hx : KeepsReshow cfg i x) (h : stepDisplay cfg ead i x e = some y) :
    ReshowKept cfg ead i x e ↔ SparesReshow cfg i x e := by
  refine forall₂_congr fun imgIdx himg => ?_
  obtain ⟨hrecord, due, hdue, hle⟩ := hx.record imgIdx himg
  obtain ⟨hstep, hhist⟩ := withHistory_eq_some.mp h
  have hdisplay := TagDevice.displayWorks_step hi hstep
  have honly : ∀ P : TagDevice × DisplayHistory → Prop,
      (∀ z, stepDisplay cfg ead i x e = some z → P z) ↔ P y :=
    fun P => ⟨fun hall => hall y h, fun hy z hz => Option.some.inj (h.symm.trans hz) ▸ hy⟩
  rw [honly]
  cases hop : x.1.displayOp? cfg i e with
  | none =>
      rw [hop] at hdisplay
      have hboot : ∀ p, e ≠ .reboot p := by
        rintro p rfl
        cases hop
      refine iff_of_true (.inr (.inr ?_)) (by rintro _ ⟨⟩)
      rw [hdisplay]
      exact ⟨hrecord, due, hdue, hle.trans (TagDevice.uptime_le_of_step hstep hboot)⟩
  | some op =>
      have hleaves : (∀ op' ∈ some op, op'.LeavesReshow cfg x.1.tag.absTime imgIdx)
          ↔ op.LeavesReshow cfg x.1.tag.absTime imgIdx := by simp
      rw [hleaves]
      rw [displayHistoryAfter, hop] at hhist
      rw [hop] at hdisplay
      cases op with
      | refresh =>
          rw [reshow_of_command hop (by rintro ⟨⟩) (by rintro ⟨⟩) hstep, hdisplay]
          exact iff_of_true ⟨hrecord, due_some_iff.mpr le_rfl⟩ trivial
      | display other =>
          rw [reshow_of_command hop (by rintro ⟨⟩) (by rintro ⟨⟩) hstep, hdisplay]
          exact and_iff_left (due_some_iff.mpr le_rfl)
      | arm start other =>
          rw [reshow_of_command hop (by rintro ⟨⟩) (by rintro ⟨⟩) hstep, hdisplay]
          exact and_congr_right fun _ => due_some_iff.trans add_toNat_sub_le_iff
      | delete =>
          rw [reshow_of_command hop (by rintro ⟨⟩) (by rintro ⟨⟩) hstep, hdisplay]
          refine iff_of_false ?_ id
          rintro ⟨-, _, ⟨⟩, -⟩
      | run =>
          have he := TagDevice.eq_displayWork_of_displayOp? hop
          constructor
          · rintro (⟨p, rfl⟩ | ⟨-, hshown⟩ | ⟨-, hwork⟩)
            · cases he
            · by_contra hleft
              have hcontrol : ¬ cfg.hasDisplayControl = true := hleft
              dsimp only at hhist
              rw [if_neg hcontrol] at hhist
              rw [hhist] at hshown
              exact hcontrol (hx.control (Option.isSome_of_eq_some hshown))
            · -- the worker has run, and nothing is scheduled any more
              rw [hdisplay] at hwork
              obtain ⟨_, ⟨⟩, -⟩ := hwork
          · intro hcontrol
            dsimp only at hhist
            rw [if_pos (show cfg.hasDisplayControl = true from hcontrol)] at hhist
            refine .inr (.inl ⟨he, ?_⟩)
            rw [hhist, ← hrecord]
      | boot => exact iff_of_true (.inl (reboot_of_displayOp? hop)) trivial

/-- What holds of the record in every run. -/
structure RefreshInv (cfg : Config) (i : ℕ) (x : TagDevice × DisplayHistory) : Prop where
  latest : NamesLatest cfg i x
  reshow : KeepsReshow cfg i x

lemma refreshInv_boot (hi : i < cfg.displayMax) (p : BootParam) :
    RefreshInv cfg i (TagDevice.boot cfg p, .boot cfg) where
  latest := by
    show cfg.imageOf _ = cfg.imageOf cfg.resetImgIdx
    rw [TagDevice.displayWorks_boot hi]
  reshow := ⟨by rintro _ ⟨⟩, by rintro ⟨⟩⟩

/-- **The image on a display.**  From boot, every Refresh Display reports the image shown last, is
refused while there is none, and shows the image again, exactly when each of them finds it to be the
image named last and no command takes the record over before the worker has run. -/
theorem refreshAgrees_iff (cfg : Config) (ead : Ead) {i : ℕ} (hi : i < cfg.displayMax)
    (p : BootParam) (es : List TagEvent) :
    StepsMeet (stepDisplay cfg ead i) (RefreshAgrees cfg ead i)
        (TagDevice.boot cfg p, .boot cfg) es
      ↔ StepsMeet (stepDisplay cfg ead i) (RefreshSpared cfg i)
          (TagDevice.boot cfg p, .boot cfg) es := by
  refine stepsMeet_congr (I := RefreshInv cfg i) ?_ ?_ (refreshInv_boot hi p)
  · intro x e y hx hstep
    exact ⟨namesLatest_step hi hx.latest hstep, keepsReshow_step hi hx.reshow hstep⟩
  · intro x e y hx hstep
    have hstep' := (withHistory_eq_some.mp hstep).1
    refine and_congr ?_ (reshowKept_iff hi hx.reshow hstep)
    constructor
    · intro hagrees he hd
      cases e with
      | ecpWork env =>
          exact (refreshShows_iff hi hx.latest hd hstep').mp (hagrees env rfl hd _ hstep')
      | _ => cases he
    · rintro hlatest env rfl hd d' hd'
      exact (refreshShows_iff hi hx.latest hd hd').mpr (hlatest rfl hd)

end Runs

/-! ### A refresh between a timed command and its time -/

/-- Display Image with image 0 is executed and shown. -/
def imageShown : List TagEvent :=
  configuredAndUpdating ++
    [.eslControlWrite (.ofBytes [0x20, 0x01, 0, 0]), .ecpWork {}, .displayWork 0]

/-- Then Display Timed Image with image 1, for a second later. -/
def timedImagePending : List TagEvent :=
  imageShown ++ [.eslControlWrite (.ofBytes [0x60, 0x01, 0, 1, 0xE8, 0x03, 0, 0]), .ecpWork {}]

/-- A Refresh Display is queued. -/
def refreshQueued (es : List TagEvent) : List TagEvent :=
  es ++ [.eslControlWrite (.ofBytes [0x11, 0x01, 0])]

/-- Refresh Display shows image 0 again. -/
theorem refreshAgrees_shown : 0 < Config.sample.displayMax
    ∧ StepsMeet (stepDisplay .sample .clear 0) (RefreshAgrees .sample .clear 0)
        (TagDevice.boot .sample {}, .boot .sample)
        (refreshQueued imageShown ++ [.ecpWork {}, .tick 5, .displayWork 0]) :=
  ⟨by decide, (refreshAgrees_iff .sample .clear (by decide) {} _).mpr (by decide +kernel)⟩

/-- The display shows image 0, and Refresh Display reports image 1, which is still to come. -/
lemma reportsPending :
    ((run (stepDisplay .sample .clear 0) (TagDevice.boot .sample {}, .boot .sample)
        (refreshQueued timedImagePending)).map fun x =>
      (x.2.shown, TagDevice.response .sample {} x.1.ecpNetBuf x.1.tag))
        = some (some 0, displayStateResponse 0 1) := by
  decide +kernel

lemma not_refreshAgrees_pending :
    ¬ StepsMeet (stepDisplay .sample .clear 0) (RefreshAgrees .sample .clear 0)
      (TagDevice.boot .sample {}, .boot .sample)
      (refreshQueued timedImagePending ++ [.ecpWork {}]) := by
  have hready : ((run (stepDisplay .sample .clear 0) (TagDevice.boot .sample {}, .boot .sample)
        (refreshQueued timedImagePending)).map fun x =>
      (x.1.ecpWorkPending, decide (x.1.RunsRefresh .sample 0))) = some (true, true) := by
    decide +kernel
  intro hall
  obtain ⟨x, hx, hproj⟩ := Option.map_eq_some_iff.mp reportsPending
  rw [hx] at hready
  simp only [Option.map_some, Option.some_inj, Prod.mk.injEq, decide_eq_true_eq] at hready hproj
  have hstep : x.1.step .sample .clear (.ecpWork {}) = some (x.1.ecpCommandHandler .sample {}) :=
    if_pos hready.1
  have hagrees := (hall.of_append hx _ (withHistory_of_step hstep)).1
  have hreported := (hagrees.1 {} rfl hready.2 _ hstep).reported 0 (by rw [hproj.1]; rfl)
  rw [hproj.2] at hreported
  revert hreported
  decide

/-- Refresh Display is accepted, and before the worker has run, Display Timed Image with image 1. -/
def refreshTakenOver : List TagEvent :=
  refreshQueued imageShown ++
    [.ecpWork {}, .eslControlWrite (.ofBytes [0x60, 0x01, 0, 1, 0xE8, 0x03, 0, 0])]

/-- The image that Refresh Display has reported is not shown again. -/
lemma not_refreshAgrees_takenOver :
    ¬ StepsMeet (stepDisplay .sample .clear 0) (RefreshAgrees .sample .clear 0)
      (TagDevice.boot .sample {}, .boot .sample) (refreshTakenOver ++ [.ecpWork {}]) := by
  have hready : ((run (stepDisplay .sample .clear 0) (TagDevice.boot .sample {}, .boot .sample)
        refreshTakenOver).map fun x =>
      (x.2.refreshing, x.1.ecpWorkPending,
        ((x.1.ecpCommandHandler .sample {}).tag.elems.displayWorks 0).imgIdx))
        = some (some 0, true, 1) := by
    decide +kernel
  intro hall
  obtain ⟨x, hx, hproj⟩ := Option.map_eq_some_iff.mp hready
  simp only [Prod.mk.injEq] at hproj
  obtain ⟨hrefreshing, hpending, himg⟩ := hproj
  have hstep : x.1.step .sample .clear (.ecpWork {}) = some (x.1.ecpCommandHandler .sample {}) :=
    if_pos hpending
  have hkept := (hall.of_append hx _ (withHistory_of_step hstep)).1.2 0 hrefreshing _
    (withHistory_of_step hstep)
  rcases hkept with ⟨p, ⟨⟩⟩ | ⟨⟨⟩, -⟩ | ⟨hrecord, -⟩
  rw [himg] at hrecord
  cases hrecord

/-- A timed command that waits is reported, and one that is accepted between a Refresh Display and the
worker takes the image away. -/
theorem refreshAgrees_fails :
    ((run (stepDisplay .sample .clear 0) (TagDevice.boot .sample {}, .boot .sample)
        (refreshQueued timedImagePending)).map fun x =>
      (x.2.shown, TagDevice.response .sample {} x.1.ecpNetBuf x.1.tag))
        = some (some 0, displayStateResponse 0 1)
    ∧ ¬ StepsMeet (stepDisplay .sample .clear 0) (RefreshAgrees .sample .clear 0)
        (TagDevice.boot .sample {}, .boot .sample)
        (refreshQueued timedImagePending ++ [.ecpWork {}])
    ∧ ¬ StepsMeet (stepDisplay .sample .clear 0) (RefreshAgrees .sample .clear 0)
        (TagDevice.boot .sample {}, .boot .sample) (refreshTakenOver ++ [.ecpWork {}]) :=
  ⟨reportsPending, not_refreshAgrees_pending, not_refreshAgrees_takenOver⟩

end NrfEsl
