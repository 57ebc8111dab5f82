import NrfEsl.Framing
import NrfEsl.Persistence
import NrfEsl.ProvisioningWrites
import NrfEsl.TagConfiguration

/-!
# A configured tag and its access point

`esl_ap_config_work_fn` writes an address, the AP Sync Key, a response key and the time to the tag of a
connection.  Between the writes the connection may be lost, the work item may be taken over by another
connection, and the tag goes on with whatever it does.

**When `#CONFIGURED: 1` is due** on a connection that has kept to its lifecycle, the two sides agree
(`Associated`): the tag has the address and all four provisioning bits, it decrypts what the access
point encrypts, and with what has been saved of it the access point decrypts what the tag answers.

**The invariant** (`StageAgrees`) is one condition on each stage: every characteristic written so far
holds, on the tag, the value of the record, and of what has been saved of it.  A write adds its
characteristic to the ones that hold and keeps the others (`holdsValue_attWrite`), and whatever else
the tag does keeps them all, as long as nobody else provisions the tag, unassociates or restarts it
(`LeavesProvisioned`).

`disconnected` clears the response key of the record.  Before the last write the next one fails then,
and after the save the key is in the file; in between the access point saves a tag without its key.

A write that fails may have arrived at the tag all the same.  The stage of its connection is `failed`
from then on, and nothing is said of it.
-/

namespace NrfEsl

open EslTag TransitionSystem

/-! ## The system -/

/-- The characteristic of a write. -/
def ConfigWrite.characteristic : ConfigWrite → Characteristic
  | .eslAddr _ => .addr
  | .apKey _ => .apSyncKey
  | .rspKey _ => .responseKey
  | .absTime _ => .absTime

/-- The bytes that are written. -/
def ConfigWrite.bytes : ConfigWrite → List UInt8
  | .eslAddr a => [lowByte a, highByte a]
  | .apKey key | .rspKey key => key.keyV
  | .absTime time => le32Bytes time

/-- The tag takes up a write; some memory lies behind the bytes. -/
def EslTag.takeUpWrite (cfg : Config) (chrc : ConfigWrite) (beyond : Mem) (t : EslTag) :
    Except AttError ℕ × EslTag :=
  (t.attWrite cfg chrc.characteristic ⟨.ofBytes chrc.bytes beyond, 0⟩).val

/-- The access point, and the tag at the other end of each connection. -/
structure Fleet where
  ap : Configuration
  tags : UInt8 → TagDevice

inductive FleetEvent
  /-- A step of the access point.  A write that fails for it may still arrive at the tag. -/
  | ap (e : ConfigEvent) (arrives : Bool) (beyond : Mem)
  | tag (connIdx : UInt8) (e : TagEvent)

/-- The write that the access point has completed in a step, and its outcome. -/
def Configuration.wrote? (s s' : Configuration) : Option (UInt8 × ConfigWrite × Bool) :=
  match s'.log.drop s.log.length with
  | [(connIdx, .write chrc succeeded)] => some (connIdx, chrc, succeeded)
  | _ => none

namespace Fleet

variable (connCfg : ConnConfig) (apKey : KeyMaterial) (cfg : UInt8 → Config) (ead : Ead)

/-- A write succeeds only if the tag has accepted it. -/
def deliver (arrives : Bool) (beyond : Mem) (tags : UInt8 → TagDevice) :
    Option (UInt8 × ConfigWrite × Bool) → Option (UInt8 → TagDevice)
  | none => some tags
  | some (connIdx, chrc, succeeded) =>
      let r := (tags connIdx).tag.takeUpWrite (cfg connIdx) chrc beyond
      if succeeded = false ∧ arrives = false then some tags
      else if succeeded = true ∧ r.1.isOk = false then none
      else some (Function.update tags connIdx { tags connIdx with tag := r.2 })

/-- One event. -/
def step (x : Fleet) : FleetEvent → Option Fleet
  | .ap e arrives beyond =>
      (x.ap.step connCfg apKey e).bind fun s =>
        (deliver cfg arrives beyond x.tags (x.ap.wrote? s)).map fun tags => ⟨s, tags⟩
  | .tag connIdx e =>
      ((x.tags connIdx).step (cfg connIdx) ead e).map fun d =>
        { x with tags := Function.update x.tags connIdx d }

end Fleet

/-! ## Specification -/

/-- The tag and the record of the access point agree on the association. -/
structure Associated (apKey : KeyMaterial) (ead : Ead) (a : UInt16) (t : EslTag)
    (device : EslChrcData) : Prop where
  addr : t.assoc.eslAddr.val = a &&& 0x7FFF
  recorded : device.eslAddr = a
  provisioned : t.assoc.configuringState.Provisioned
  /-- The tag decrypts the packets of the access point. -/
  hears : ∀ (payload : List UInt8) (buf : NetBuf) (stack : Mem),
    payload.length ≤ eslSyncPktPayloadMaxLen → IsPacketOf ead apKey payload buf.bytes →
      ∃ b : NetBuf, (TagDevice.decryptPacket ead t.assoc.eslApKey stack buf).val = (true, b)
        ∧ b.bytes = eslAd payload
  /-- The access point decrypts the responses of the tag. -/
  heard : ∀ (payload : List UInt8) (r : RspBuffer) (stack : Mem) (responseSlot : UInt8),
    payload.length ≤ eslSyncPktPayloadMaxLen → r.rspKey = device.eslRspKey →
      IsPacketOf ead t.assoc.eslRspKey payload r.bytes →
        (r.takeUp ead stack responseSlot).val.bytes = eslAd payload

/-- The same address and response key. -/
def EslChrcData.SameKeys (device device' : EslChrcData) : Prop :=
  device'.eslAddr = device.eslAddr ∧ device'.eslRspKey = device.eslRspKey

/-- What an action saves of a connection. -/
def savedOf (connIdx : UInt8) : UInt8 × ConfigAction → Option EslChrcData
  | (c, .save saved) => if c = connIdx then some saved else none
  | _ => none

/-- What has been saved last of a connection. -/
def Configuration.lastSaved (s : Configuration) (connIdx : UInt8) : Option EslChrcData :=
  (s.log.filterMap (savedOf connIdx)).getLast?

/-- What has been saved of a connection that is through agrees with its tag, and is what the record
holds as long as the connection is up. -/
def Fleet.AllAssociated (apKey : KeyMaterial) (ead : Ead) (x : Fleet) : Prop :=
  ∀ connIdx a, x.ap.connStages connIdx = some (.completed a) →
    ∃ saved, x.ap.lastSaved connIdx = some saved
      ∧ Associated apKey ead a (x.tags connIdx).tag saved
      ∧ saved.eslRspKey = (x.tags connIdx).tag.assoc.eslRspKey
      ∧ (x.ap.live connIdx = true → saved.SameKeys (x.ap.eslDevice connIdx))

namespace ConfigStage

/-- The characteristics that have been written. -/
def characteristics : ConfigStage → List Characteristic
  | .idle | .asked _ | .failed => []
  | .addrWritten _ => [.addr]
  | .apKeyWritten _ => [.addr, .apSyncKey]
  | .rspKeyWritten _ => [.addr, .apSyncKey, .responseKey]
  | .written _ | .saved _ | .completed _ => [.addr, .apSyncKey, .responseKey, .absTime]

/-- The address the connection was asked to get. -/
def eslAddr : ConfigStage → UInt16
  | .idle | .failed => 0
  | .asked a | .addrWritten a | .apKeyWritten a | .rspKeyWritten a | .written a | .saved a
  | .completed a => a

/-- All has been written and nothing saved. -/
def awaitsSave : ConfigStage → Bool
  | .written _ => true
  | _ => false

/-- The tag has been saved. -/
def isSaved : ConfigStage → Bool
  | .saved _ | .completed _ => true
  | _ => false

end ConfigStage

/-- Nobody else provisions a tag that is being configured, unassociates or restarts it, and no
connection is lost between the last write and the save. -/
def LeavesProvisioned (cfg : UInt8 → Config) (x : Fleet) : FleetEvent → Prop
  | .ap (.disconnected connIdx) _ _ => ∀ stage ∈ x.ap.connStages connIdx, stage.awaitsSave = false
  | .ap (.configure _ _) _ _ | .ap .begin _ _ | .ap (.work _) _ _ => True
  | .tag connIdx e =>
      (∀ stage ∈ x.ap.connStages connIdx, stage.characteristics = [])
        ∨ ¬ e.WritesOrBoots ∧ (x.tags connIdx).unassociates (cfg connIdx) e = false

instance (e : TagEvent) : Decidable e.WritesOrBoots :=
  match e with
  | .eslAddrWrite w =>
      inferInstanceAs (Decidable (lowByte (sysGetLe16 w.buf.data 0 &&& 0x7FFF) ≠ eslAddrBroadcast))
  | .apKeyWrite _ | .eslRspKeyWrite _ | .absTimeWrite _ | .reboot _ => isTrue trivial
  | .tick _ | .connected _ | .disconnected _ | .securityChanged _ | .eslControlWrite _ | .ecpWork _
  | .notifySent | .syncCb | .termCb | .recvCb _ _ _ | .pawrSyncWork _ | .parserStep _
  | .stateTimeout | .ledWork _ | .displayWork _ | .advWork | .imageWritten _ _ | .factoryReset
  | .unassociate | .busy => isFalse id

instance (cfg : UInt8 → Config) (x : Fleet) : DecidablePred (LeavesProvisioned cfg x)
  | .ap (.disconnected connIdx) _ _ =>
      inferInstanceAs (Decidable (∀ stage ∈ x.ap.connStages connIdx, stage.awaitsSave = false))
  | .ap (.configure _ _) _ _ | .ap .begin _ _ | .ap (.work _) _ _ => isTrue trivial
  | .tag connIdx e =>
      inferInstanceAs (Decidable ((∀ stage ∈ x.ap.connStages connIdx, stage.characteristics = [])
        ∨ ¬ e.WritesOrBoots ∧ (x.tags connIdx).unassociates (cfg connIdx) e = false))

/-! ## What a step of the access point does -/

/-- What an action tells of the record of its connection, before and after. -/
def ConfigAction.Updates (apKey : KeyMaterial) (device device' : EslChrcData) : ConfigAction → Prop
  | .write (.eslAddr a) _ => device'.eslAddr = a ∧ device'.eslRspKey = device.eslRspKey
  | .write (.apKey key) _ => key = apKey.swapSessionKey ∧ device.SameKeys device'
  | .write (.rspKey key) _ =>
      key = device'.eslRspKey.swapSessionKey ∧ device'.eslAddr = device.eslAddr
  | .save saved => saved = device ∧ device.SameKeys device'
  | _ => device.SameKeys device'

namespace Configuration

variable {connCfg : ConnConfig} {apKey : KeyMaterial} {s s' : Configuration}

/-- What an action needs of its connection. -/
def NeedsLink (live : Bool) : ConfigAction → Prop
  | .write _ succeeded => succeeded = true → live = true
  | _ => True

/-- A step does one action on one connection, or none, and keeps the addresses and the response keys
of all others. -/
inductive Acts (apKey : KeyMaterial) (s s' : Configuration) : Prop
  | none (hlog : s'.log = s.log) (hlive : s'.live = s.live)
      (hdevice : ∀ c, (s.eslDevice c).SameKeys (s'.eslDevice c))
  | one (connIdx : UInt8) (action : ConfigAction) (hlog : s'.log = s.log ++ [(connIdx, action)])
      (hlive : s'.live = s.live) (hup : NeedsLink (s.live connIdx) action)
      (hdevice : action.Updates apKey (s.eslDevice connIdx) (s'.eslDevice connIdx))
      (hothers : ∀ c ≠ connIdx, s'.eslDevice c = s.eslDevice c)

lemma eslDevice_setDevice_self (f : EslChrcData → EslChrcData) :
    (s.setDevice f).eslDevice s.connIdx = f (s.eslDevice s.connIdx) := Function.update_self ..

lemma eslDevice_setDevice_of_ne (f : EslChrcData → EslChrcData) {c : UInt8} (h : c ≠ s.connIdx) :
    (s.setDevice f).eslDevice c = s.eslDevice c := Function.update_of_ne h ..

/-- A write, after an update of the record. -/
lemma acts_gattWrite {f : EslChrcData → EslChrcData} {chrc : ConfigWrite} {succeeded : Bool}
    (hstep : (s.setDevice f).gattWrite chrc succeeded = some s')
    (h : (ConfigAction.write chrc succeeded).Updates apKey (s.eslDevice s.connIdx)
      (f (s.eslDevice s.connIdx))) : Acts apKey s s' := by
  rw [gattWrite] at hstep
  split_ifs at hstep with hlost
  cases hstep
  refine .one s.connIdx (.write chrc succeeded) rfl rfl ?_ ?_ fun c hc => eslDevice_setDevice_of_ne f hc
  · exact fun hyes => Bool.of_not_eq_false fun hdown => hlost ⟨hyes, hdown⟩
  · rw [← eslDevice_setDevice_self f] at h
    exact h

/-- A write that updates nothing. -/
lemma acts_gattWrite_same {chrc : ConfigWrite} {succeeded : Bool}
    (hstep : s.gattWrite chrc succeeded = some s')
    (h : (ConfigAction.write chrc succeeded).Updates apKey (s.eslDevice s.connIdx)
      (s.eslDevice s.connIdx)) : Acts apKey s s' := by
  rw [gattWrite] at hstep
  split_ifs at hstep with hlost
  cases hstep
  refine .one s.connIdx (.write chrc succeeded) rfl rfl ?_ h fun _ _ => rfl
  exact fun hyes => Bool.of_not_eq_false fun hdown => hlost ⟨hyes, hdown⟩

/-- Where the worker is does not matter. -/
lemma Acts.of_worker {w : Option ConfigStep} (h : Acts apKey { s with worker := w } s') :
    Acts apKey s s' := by
  cases h with
  | none hlog hlive hdevice => exact .none hlog hlive hdevice
  | one connIdx action hlog hlive hup hdevice hothers =>
      exact .one connIdx action hlog hlive hup hdevice hothers

/-- A step of the worker. -/
lemma acts_eslApConfigWorkFn {input : WorkInput} {now : ConfigStep}
    (hstep : s.eslApConfigWorkFn apKey input now = some s') : Acts apKey s s' := by
  refine Acts.of_worker (w := now.next) ?_
  unfold eslApConfigWorkFn at hstep
  extract_lets t at hstep
  change Acts apKey t s'
  clear_value t
  have hsame : ∀ device : EslChrcData, device.SameKeys device := fun _ => ⟨rfl, rfl⟩
  cases now with
  | check =>
      dsimp only at hstep
      split_ifs at hstep
      · cases hstep
        exact .none rfl rfl fun _ => hsame _
      · cases hstep
        exact .one t.connIdx (.refused t.eslAddr) rfl rfl trivial (hsame _) fun _ _ => rfl
  | writeEslAddr => exact acts_gattWrite hstep ⟨rfl, rfl⟩
  | apKeyUpdate => exact acts_gattWrite_same hstep ⟨rfl, hsame _⟩
  | rspKeyUpdate => exact acts_gattWrite hstep ⟨rfl, rfl⟩
  | tagAbsTimerUpdate => exact acts_gattWrite_same hstep (hsame _)
  | readChrc =>
      cases hstep
      exact .none rfl rfl fun _ => hsame _
  | pastNeeded =>
      cases hstep
      refine .none rfl rfl fun c => ?_
      by_cases hc : c = t.connIdx
      · rw [hc, eslDevice_setDevice_self]
        exact ⟨rfl, rfl⟩
      · rw [eslDevice_setDevice_of_ne _ hc]
        exact hsame _
  | saveTag =>
      cases hstep
      exact .one t.connIdx (.save (t.eslDevice t.connIdx)) rfl rfl trivial ⟨rfl, hsame _⟩ fun _ _ => rfl
  | updateComplete =>
      cases hstep
      exact .one t.connIdx (.updateComplete (t.live t.connIdx)) rfl rfl trivial (hsame _) fun _ _ => rfl
  | report =>
      cases hstep
      exact .one t.connIdx (.configured t.eslAddr) rfl rfl trivial (hsame _) fun _ _ => rfl

/-- **One step**, short of a lost connection. -/
lemma acts_step {e : ConfigEvent} (hup : ∀ connIdx, e ≠ .disconnected connIdx)
    (hstep : s.step connCfg apKey e = some s') : Acts apKey s s' := by
  have hsame : ∀ device : EslChrcData, device.SameKeys device := fun _ => ⟨rfl, rfl⟩
  cases e with
  | configure connIdx a =>
      cases hstep
      rw [btEslConfigure]
      split_ifs
      · exact .none rfl rfl fun _ => hsame _
      · exact .one connIdx (.configure a) rfl rfl trivial (hsame _) fun _ _ => rfl
  | begin =>
      rw [step] at hstep
      split_ifs at hstep
      cases hstep
      exact .none rfl rfl fun _ => hsame _
  | disconnected connIdx => exact absurd rfl (hup connIdx)
  | work input =>
      obtain ⟨now, -, hstep⟩ := Option.bind_eq_some_iff.mp hstep
      exact acts_eslApConfigWorkFn hstep

end Configuration

/-! ## What holds on the tag -/

/-- A characteristic has the value of the record: the address `a`, the AP Sync Key or the response key,
or some time. -/
def EslTag.HoldsValue (apKey rspKey : KeyMaterial) (a : UInt16) (t : EslTag) : Characteristic → Prop
  | .addr => t.assoc.eslAddr.val = a &&& 0x7FFF ∧ t.assoc.configuringState.addrSet = true
  | .apSyncKey => t.assoc.eslApKey = apKey ∧ t.assoc.configuringState.apSyncKeySet = true
  | .responseKey => t.assoc.eslRspKey = rspKey ∧ t.assoc.configuringState.responseKeySet = true
  | .absTime => t.assoc.configuringState.absTimeSet = true

section Tag

variable {cfg : Config} {ead : Ead} {apKey rspKey : KeyMaterial} {a : UInt16} {t : EslTag}
  {chr : Characteristic}

/-- What holds is read off the provisioned data. -/
lemma holdsValue_congr {t' : EslTag} (h : t'.provisioned = t.provisioned) :
    t'.HoldsValue apKey rspKey a chr ↔ t.HoldsValue apKey rspKey a chr := by
  simp only [provisioned, ProvisionedData.mk.injEq, ConfiguringState.provision, Provision.mk.injEq] at h
  obtain ⟨haddr, hap, hrsp, ⟨hbit, hbit', hbit'', hbit'''⟩, -⟩ := h
  cases chr with
  | addr => simp only [HoldsValue, haddr, hbit]
  | apSyncKey => simp only [HoldsValue, hap, hbit']
  | responseKey => simp only [HoldsValue, hrsp, hbit'']
  | absTime => simp only [HoldsValue, hbit''']

/-- The check of the provisioning bits changes no value. -/
lemma holdsValue_eslIsConfiguringState :
    (t.eslIsConfiguringState cfg).2.HoldsValue apKey rspKey a chr ↔ t.HoldsValue apKey rspKey a chr := by
  rw [eslIsConfiguringState]
  split
  · cases chr <;> rfl
  · rfl

/-- **A write keeps the other characteristics.** -/
lemma holdsValue_attWrite {c : Characteristic} (hne : chr ≠ c) (w : AttWrite) :
    (t.attWrite cfg c w).val.2.HoldsValue apKey rspKey a chr ↔ t.HoldsValue apKey rspKey a chr := by
  cases c with
  | addr =>
      show (t.eslAddrWrite cfg w).2.HoldsValue apKey rspKey a chr ↔ _
      rw [eslAddrWrite]
      split
      · rfl
      · rw [holdsValue_eslIsConfiguringState]
        cases chr with
        | addr => exact absurd rfl hne
        | apSyncKey | responseKey | absTime => rfl
  | apSyncKey =>
      refine holdsValue_eslIsConfiguringState.trans ?_
      cases chr with
      | apSyncKey => exact absurd rfl hne
      | addr | responseKey | absTime => rfl
  | responseKey =>
      refine holdsValue_eslIsConfiguringState.trans ?_
      cases chr with
      | responseKey => exact absurd rfl hne
      | addr | apSyncKey | absTime => rfl
  | absTime =>
      refine holdsValue_eslIsConfiguringState.trans ?_
      cases chr with
      | absTime => exact absurd rfl hne
      | addr | apSyncKey | responseKey => rfl

end Tag

/-- The value of a write is what the record says. -/
def ConfigWrite.Carries (apKey rspKey : KeyMaterial) (a : UInt16) : ConfigWrite → Prop
  | .eslAddr b => b = a
  | .apKey key => key = apKey.swapSessionKey
  | .rspKey key => key = rspKey.swapSessionKey
  | .absTime _ => True

/-- **A write that the tag accepts holds.** -/
lemma holdsValue_takeUpWrite {cfg : Config} {apKey rspKey : KeyMaterial} {a : UInt16} {t : EslTag}
    {chrc : ConfigWrite} (beyond : Mem) (hcarries : chrc.Carries apKey rspKey a)
    (hok : (t.takeUpWrite cfg chrc beyond).1.isOk = true) :
    (t.takeUpWrite cfg chrc beyond).2.HoldsValue apKey rspKey a chrc.characteristic := by
  cases chrc with
  | eslAddr b =>
      obtain rfl : b = a := hcarries
      have hid : Characteristic.addr = .addr →
          (AttWrite.mk (.ofBytes [lowByte b, highByte b] beyond) 0).buf.data 0 ≠ eslAddrBroadcast := by
        intro _ hbroadcast
        have hrefused := attWrite_broadcast cfg t hbroadcast
        rw [takeUpWrite] at hok
        rw [show (t.attWrite cfg (ConfigWrite.eslAddr b).characteristic
          ⟨.ofBytes (ConfigWrite.eslAddr b).bytes beyond, 0⟩).val = _ from hrefused] at hok
        cases hok
      obtain ⟨haddr, hset⟩ := (attWrite_stores cfg t hid).2
      refine ⟨haddr.trans ?_, hset⟩
      exact congrArg (· &&& 0x7FFF) (sysGetLe16_bytes b beyond)
  | apKey key =>
      obtain rfl : key = apKey.swapSessionKey := hcarries
      obtain ⟨hkey, hset⟩ := (attWrite_stores (c := .apSyncKey) cfg t nofun).2
      exact ⟨hkey.trans (storedKey_keyV apKey beyond 0), hset⟩
  | rspKey key =>
      obtain rfl : key = rspKey.swapSessionKey := hcarries
      obtain ⟨hkey, hset⟩ := (attWrite_stores (c := .responseKey) cfg t nofun).2
      exact ⟨hkey.trans (storedKey_keyV rspKey beyond 0), hset⟩
  | absTime time => exact (attWrite_stores (c := .absTime) cfg t nofun).2.2

/-! ## The stages -/

namespace ConfigStage

variable {x y : ConfigStage}

lemma isSaved_of_characteristics (h : x.characteristics = []) : x.isSaved = false := by
  cases x with
  | saved | completed => cases h
  | idle | asked | failed | addrWritten | apKeyWritten | rspKeyWritten | written => rfl

/-- A write that fails. -/
lemma next_write_false {chrc : ConfigWrite} (h : x.next (.write chrc false) = some y) : y = .failed := by
  cases x <;> cases chrc <;> grind [next, wrote]

/-- What a write that succeeds makes of a stage. -/
structure TakenOn (x y : ConfigStage) (chrc : ConfigWrite) : Prop where
  characteristics : y.characteristics = x.characteristics ++ [chrc.characteristic]
  new : chrc.characteristic ∉ x.characteristics
  first : x.characteristics = [] → chrc.characteristic = .addr
  eslAddr : y.eslAddr = x.eslAddr
  isSaved : y.isSaved = false
  value : ∀ b, chrc = .eslAddr b → b = x.eslAddr

/-- **A write that succeeds** takes a connection on by its characteristic, if it has not failed. -/
lemma next_write_true {chrc : ConfigWrite} (h : x.next (.write chrc true) = some y) :
    y = .failed ∨ x.TakenOn y chrc := by
  cases x with
  | asked a =>
      cases chrc with
      | eslAddr b =>
          simp only [next] at h
          split_ifs at h with hb
          cases h
          refine .inr ⟨rfl, List.not_mem_nil, fun _ => rfl, rfl, rfl, ?_⟩
          rintro b' ⟨⟩
          exact hb
      | apKey | rspKey | absTime => cases h
  | addrWritten a =>
      cases chrc with
      | apKey key =>
          cases h
          exact .inr ⟨rfl, by simp [characteristics, ConfigWrite.characteristic], nofun, rfl, rfl, nofun⟩
      | eslAddr | rspKey | absTime => cases h
  | apKeyWritten a =>
      cases chrc with
      | rspKey key =>
          cases h
          exact .inr ⟨rfl, by simp [characteristics, ConfigWrite.characteristic], nofun, rfl, rfl, nofun⟩
      | eslAddr | apKey | absTime => cases h
  | rspKeyWritten a =>
      cases chrc with
      | absTime time =>
          cases h
          exact .inr ⟨rfl, by simp [characteristics, ConfigWrite.characteristic], nofun, rfl, rfl, nofun⟩
      | eslAddr | apKey | rspKey => cases h
  | failed =>
      cases h
      exact .inl rfl
  | idle | written | saved | completed => cases h

/-- What any other action makes of a stage. -/
structure PassedOn (x y : ConfigStage) (action : ConfigAction) : Prop where
  characteristics : y.characteristics = x.characteristics
  eslAddr : y.eslAddr = x.eslAddr
  awaitsSave : y.awaitsSave = false
  isSaved : (∃ saved, action = .save saved ∧ x.awaitsSave = true)
    ∨ (∀ saved, action ≠ .save saved) ∧ x.isSaved = true

/-- **Any other action** keeps what has been written, or begins anew. -/
lemma next_other {action : ConfigAction} (hother : ∀ chrc succeeded, action ≠ .write chrc succeeded)
    (h : x.next action = some y) : y.characteristics = [] ∨ x.PassedOn y action := by
  cases action with
  | write chrc succeeded => exact absurd rfl (hother chrc succeeded)
  | configure b | refused b | configured b =>
      left
      cases x <;> grind [next, characteristics]
  | save saved =>
      cases x with
      | written a =>
          simp only [next] at h
          split_ifs at h
          cases h
          exact .inr ⟨rfl, rfl, rfl, .inl ⟨saved, rfl, rfl⟩⟩
      | idle | asked | failed | addrWritten | apKeyWritten | rspKeyWritten | saved | completed => cases h
  | updateComplete sent =>
      cases x with
      | saved a =>
          cases h
          exact .inr ⟨rfl, rfl, rfl, .inr ⟨nofun, rfl⟩⟩
      | idle | asked | failed | addrWritten | apKeyWritten | rspKeyWritten | written | completed => cases h

end ConfigStage

/-! ## The invariant -/

/-- What holds of a connection at a stage, its tag and a record of it. -/
structure StageAgrees (apKey : KeyMaterial) (t : EslTag) (device : EslChrcData) (x : ConfigStage) :
    Prop where
  holds : ∀ chr ∈ x.characteristics, t.HoldsValue apKey device.eslRspKey x.eslAddr chr
  recorded : x.characteristics ≠ [] → device.eslAddr = x.eslAddr

namespace StageAgrees

variable {apKey : KeyMaterial} {t : EslTag} {device : EslChrcData} {x y : ConfigStage}

/-- Before the first write nothing is said. -/
lemma of_nil (h : x.characteristics = []) : StageAgrees apKey t device x where
  holds chr hchr := by
    rw [h] at hchr
    cases hchr
  recorded hne := absurd h hne

/-- The rest of the record and of the tag does not matter. -/
lemma congr (h : StageAgrees apKey t device x) {t' : EslTag} {device' : EslChrcData}
    (hdevice : device.SameKeys device') (ht : t'.provisioned = t.provisioned) :
    StageAgrees apKey t' device' x where
  holds chr hchr := by
    rw [hdevice.2]
    exact (holdsValue_congr ht).mpr (h.holds chr hchr)
  recorded hne := hdevice.1.trans (h.recorded hne)

/-- An action that writes nothing passes on what holds. -/
lemma passOn {action : ConfigAction} (h : StageAgrees apKey t device x) (hon : x.PassedOn y action) :
    StageAgrees apKey t device y where
  holds chr hchr := by
    rw [hon.eslAddr]
    exact h.holds chr (hon.characteristics ▸ hchr)
  recorded hne := by
    rw [hon.eslAddr]
    exact h.recorded (hon.characteristics ▸ hne)

/-- What a write carries is what the record says then. -/
lemma carries_of_updates {chrc : ConfigWrite} {device' : EslChrcData} {a : UInt16}
    (hupdates : (ConfigAction.write chrc true).Updates apKey device device')
    (ha : ∀ b, chrc = .eslAddr b → b = a) : chrc.Carries apKey device'.eslRspKey a := by
  cases chrc with
  | eslAddr b => exact ha b rfl
  | apKey key => exact hupdates.1
  | rspKey key => exact hupdates.1
  | absTime time => trivial

/-- A write updates the response key only with its own characteristic. -/
lemma eslRspKey_of_updates {chrc : ConfigWrite} {succeeded : Bool} {device' : EslChrcData}
    (hupdates : (ConfigAction.write chrc succeeded).Updates apKey device device')
    (hne : chrc.characteristic ≠ .responseKey) : device'.eslRspKey = device.eslRspKey := by
  cases chrc with
  | eslAddr b => exact hupdates.2
  | apKey key => exact hupdates.2.2
  | rspKey key => exact absurd rfl hne
  | absTime time => exact hupdates.2

/-- And the address likewise. -/
lemma eslAddr_of_updates {chrc : ConfigWrite} {succeeded : Bool} {device' : EslChrcData}
    (hupdates : (ConfigAction.write chrc succeeded).Updates apKey device device') :
    (∃ b, chrc = .eslAddr b ∧ device'.eslAddr = b) ∨ device'.eslAddr = device.eslAddr
      ∧ chrc.characteristic ≠ .addr := by
  cases chrc with
  | eslAddr b => exact .inl ⟨b, rfl, hupdates.1⟩
  | apKey key => exact .inr ⟨hupdates.2.1, nofun⟩
  | rspKey key => exact .inr ⟨hupdates.2, nofun⟩
  | absTime time => exact .inr ⟨hupdates.1, nofun⟩

/-- **A write that succeeds** adds its characteristic. -/
lemma write {cfg : Config} {chrc : ConfigWrite} {beyond : Mem} {device' : EslChrcData}
    (h : StageAgrees apKey t device x)
    (hnext : x.next (.write chrc true) = some y)
    (hupdates : (ConfigAction.write chrc true).Updates apKey device device')
    (hok : (t.takeUpWrite cfg chrc beyond).1.isOk = true) :
    StageAgrees apKey (t.takeUpWrite cfg chrc beyond).2 device' y := by
  rcases ConfigStage.next_write_true hnext with rfl | hon
  · exact .of_nil rfl
  refine ⟨fun chr hmem => ?_, fun _ => ?_⟩
  · rw [hon.characteristics] at hmem
    rw [hon.eslAddr]
    rcases List.mem_append.mp hmem with hold | hlast
    · have hne : chr ≠ chrc.characteristic := fun heq => hon.new (heq ▸ hold)
      have hvalue := h.holds chr hold
      refine (holdsValue_attWrite hne _).mpr ?_
      cases chr with
      | responseKey =>
          rw [eslRspKey_of_updates hupdates hne.symm]
          exact hvalue
      | addr | apSyncKey | absTime => exact hvalue
    · rw [List.mem_singleton.mp hlast]
      exact holdsValue_takeUpWrite beyond (carries_of_updates hupdates hon.value) hok
  · rw [hon.eslAddr]
    rcases eslAddr_of_updates hupdates with ⟨b, hb, hdevice⟩ | ⟨hdevice, hne⟩
    · rw [hdevice, hon.value b hb]
    · rw [hdevice]
      exact h.recorded (mt hon.first hne)

end StageAgrees

/-! ## What has been saved -/

namespace Configuration

variable {s s' : Configuration} {connIdx c : UInt8} {action : ConfigAction}

/-- What has been saved of a connection that does not save. -/
lemma lastSaved_of_not_save (hlog : s'.log = s.log ++ [(connIdx, action)])
    (hnot : c = connIdx → ∀ saved, action ≠ .save saved) : s'.lastSaved c = s.lastSaved c := by
  have hnone : savedOf c (connIdx, action) = none := by
    cases action with
    | save saved => exact if_neg fun h => hnot h.symm saved rfl
    | configure | write | updateComplete | configured | refused => rfl
  rw [lastSaved, lastSaved, hlog, List.filterMap_append, List.filterMap_cons_none hnone,
    List.filterMap_nil, List.append_nil]

lemma lastSaved_save {saved : EslChrcData} (hlog : s'.log = s.log ++ [(connIdx, .save saved)]) :
    s'.lastSaved connIdx = some saved := by
  have hsome : savedOf connIdx (connIdx, .save saved) = some saved := if_pos rfl
  rw [lastSaved, hlog, List.filterMap_append, List.filterMap_cons_some hsome, List.filterMap_nil,
    List.getLast?_concat]

end Configuration

/-- A connection agrees with its tag as far as it has come: its record, while it is up or is to be
saved, and what has been saved. -/
structure ConnAgrees (apKey : KeyMaterial) (s : Configuration) (connIdx : UInt8) (t : EslTag)
    (x : ConfigStage) : Prop where
  record : s.live connIdx = true ∨ x.awaitsSave = true →
    StageAgrees apKey t (s.eslDevice connIdx) x
  saved : x.isSaved = true → ∃ saved, s.lastSaved connIdx = some saved ∧ StageAgrees apKey t saved x

namespace ConnAgrees

variable {apKey : KeyMaterial} {s s' : Configuration} {connIdx : UInt8} {t t' : EslTag}
  {x y : ConfigStage} {action : ConfigAction}

lemma of_nil (h : x.characteristics = []) : ConnAgrees apKey s connIdx t x where
  record _ := .of_nil h
  saved hyes := by
    rw [ConfigStage.isSaved_of_characteristics h] at hyes
    cases hyes

/-- A connection that has not acted. -/
lemma congr (h : ConnAgrees apKey s connIdx t x) (hlive : s'.live connIdx = s.live connIdx)
    (hdevice : (s.eslDevice connIdx).SameKeys (s'.eslDevice connIdx))
    (hlast : s'.lastSaved connIdx = s.lastSaved connIdx) (ht : t'.provisioned = t.provisioned) :
    ConnAgrees apKey s' connIdx t' x where
  record hyes := by
    rw [hlive] at hyes
    exact (h.record hyes).congr hdevice ht
  saved hyes := by
    obtain ⟨saved, hsome, hagrees⟩ := h.saved hyes
    exact ⟨saved, hlast.trans hsome, hagrees.congr ⟨rfl, rfl⟩ ht⟩

/-- A connection that is lost, when it is not between the last write and the save. -/
lemma lost (h : ConnAgrees apKey s connIdx t x) (hnot : x.awaitsSave = false) :
    ConnAgrees apKey (s.disconnected connIdx) connIdx t x where
  record hyes := by
    have hdown : (s.disconnected connIdx).live connIdx = false := Function.update_self ..
    rw [hdown, hnot] at hyes
    simp at hyes
  saved hyes := h.saved hyes

/-- **A write that succeeds.** -/
lemma write {cfg : Config} {chrc : ConfigWrite} {beyond : Mem} (h : ConnAgrees apKey s connIdx t x)
    (hup : s.live connIdx = true) (hnext : x.next (.write chrc true) = some y)
    (hupdates : (ConfigAction.write chrc true).Updates apKey (s.eslDevice connIdx)
      (s'.eslDevice connIdx))
    (hok : (t.takeUpWrite cfg chrc beyond).1.isOk = true) :
    ConnAgrees apKey s' connIdx (t.takeUpWrite cfg chrc beyond).2 y where
  record _ := (h.record (.inl hup)).write hnext hupdates hok
  saved hyes := by
    rcases ConfigStage.next_write_true hnext with rfl | hon
    · cases hyes
    · rw [hon.isSaved] at hyes
      cases hyes

/-- **Any other action**, with what it says of the record. -/
lemma other (h : ConnAgrees apKey s connIdx t x)
    (hother : ∀ chrc succeeded, action ≠ .write chrc succeeded) (hnext : x.next action = some y)
    (hlog : s'.log = s.log ++ [(connIdx, action)]) (hlive : s'.live = s.live)
    (hupdates : action.Updates apKey (s.eslDevice connIdx) (s'.eslDevice connIdx)) :
    ConnAgrees apKey s' connIdx t y := by
  have hsame : (s.eslDevice connIdx).SameKeys (s'.eslDevice connIdx) := by
    cases action with
    | write chrc succeeded => exact absurd rfl (hother chrc succeeded)
    | save saved => exact hupdates.2
    | configure | updateComplete | configured | refused => exact hupdates
  rcases ConfigStage.next_other hother hnext with hnil | hon
  · exact .of_nil hnil
  refine ⟨fun hyes => ?_, fun _ => ?_⟩
  · rw [hlive, hon.awaitsSave] at hyes
    have hup : s.live connIdx = true := hyes.resolve_right Bool.false_ne_true
    exact ((h.record (.inl hup)).passOn hon).congr hsame rfl
  · rcases hon.isSaved with ⟨saved, rfl, hawaits⟩ | ⟨hnot, hsaved⟩
    · -- what is saved is the record
      obtain rfl : saved = s.eslDevice connIdx := hupdates.1
      exact ⟨_, Configuration.lastSaved_save hlog, (h.record (.inr hawaits)).passOn hon⟩
    · obtain ⟨saved, hsome, hagrees⟩ := h.saved hsaved
      have hlast := Configuration.lastSaved_of_not_save (c := connIdx) hlog fun _ => hnot
      exact ⟨saved, hlast.trans hsome, hagrees.passOn hon⟩

end ConnAgrees

/-! ## Runs -/

namespace Fleet

variable {connCfg : ConnConfig} {apKey : KeyMaterial} {cfg : UInt8 → Config} {ead : Ead} {x y : Fleet}

/-- Every connection agrees with its tag as far as it has come. -/
def Inv (apKey : KeyMaterial) (x : Fleet) : Prop :=
  ∀ c, ∀ stage ∈ x.ap.connStages c, ConnAgrees apKey x.ap c (x.tags c).tag stage

/-- A connection that has not acted. -/
lemma stage_of_ne {s s' : Configuration} {connIdx c : UInt8} {action : ConfigAction}
    (hlog : s'.log = s.log ++ [(connIdx, action)]) (hc : c ≠ connIdx) :
    s'.connStages c = s.connStages c := by
  rw [Configuration.connStages, hlog, Lifecycle.stages_concat, Lifecycle.advance,
    Function.update_of_ne hc]
  rfl

/-- The connection that has acted. -/
lemma stage_of_acted {s s' : Configuration} {connIdx : UInt8} {action : ConfigAction}
    (hlog : s'.log = s.log ++ [(connIdx, action)]) {stage : ConfigStage}
    (h : stage ∈ s'.connStages connIdx) :
    ∃ before ∈ s.connStages connIdx, before.next action = some stage := by
  rw [Configuration.connStages, hlog, Lifecycle.stages_concat, Lifecycle.advance,
    Function.update_self] at h
  exact Option.bind_eq_some_iff.mp h

lemma wrote?_of_none {s s' : Configuration} (hlog : s'.log = s.log) : s.wrote? s' = none := by
  rw [Configuration.wrote?, hlog, List.drop_length]

lemma wrote?_write {s s' : Configuration} {connIdx : UInt8} {chrc : ConfigWrite} {succeeded : Bool}
    (hlog : s'.log = s.log ++ [(connIdx, .write chrc succeeded)]) :
    s.wrote? s' = some (connIdx, chrc, succeeded) := by
  rw [Configuration.wrote?, hlog, List.drop_left]

lemma wrote?_other {s s' : Configuration} {connIdx : UInt8} {action : ConfigAction}
    (hlog : s'.log = s.log ++ [(connIdx, action)])
    (hother : ∀ chrc succeeded, action ≠ .write chrc succeeded) : s.wrote? s' = none := by
  rw [Configuration.wrote?, hlog, List.drop_left]
  cases action with
  | write chrc succeeded => exact absurd rfl (hother chrc succeeded)
  | configure | save | updateComplete | configured | refused => rfl

/-- What a delivery leaves: the other tags as they were, and after a write that succeeded a tag that
has accepted it. -/
lemma deliver_eq_some {arrives : Bool} {beyond : Mem} {tags tags' : UInt8 → TagDevice}
    {connIdx : UInt8} {chrc : ConfigWrite} {succeeded : Bool}
    (h : deliver cfg arrives beyond tags (some (connIdx, chrc, succeeded)) = some tags') :
    (∀ c ≠ connIdx, tags' c = tags c)
      ∧ (succeeded = true → ((tags connIdx).tag.takeUpWrite (cfg connIdx) chrc beyond).1.isOk = true
        ∧ (tags' connIdx).tag = ((tags connIdx).tag.takeUpWrite (cfg connIdx) chrc beyond).2) := by
  simp only [deliver] at h
  split_ifs at h with hlost hrefused
  · cases h
    refine ⟨fun _ _ => rfl, fun hyes => ?_⟩
    rw [hlost.1] at hyes
    cases hyes
  · cases h
    refine ⟨fun c hc => Function.update_of_ne hc _ _, fun hyes => ⟨?_, ?_⟩⟩
    · exact Bool.of_not_eq_false fun hno => hrefused ⟨hyes, hno⟩
    · rw [Function.update_self]

/-- The tag of a connection that has not acted. -/
lemma deliver_of_ne {s s' : Configuration} {connIdx c : UInt8} {action : ConfigAction}
    {arrives : Bool} {beyond : Mem} {tags tags' : UInt8 → TagDevice}
    (hlog : s'.log = s.log ++ [(connIdx, action)])
    (htags : deliver cfg arrives beyond tags (s.wrote? s') = some tags') (hc : c ≠ connIdx) :
    tags' c = tags c := by
  by_cases hwrite : ∃ chrc succeeded, action = .write chrc succeeded
  · obtain ⟨chrc, succeeded, rfl⟩ := hwrite
    rw [wrote?_write hlog] at htags
    exact (deliver_eq_some htags).1 c hc
  · rw [wrote?_other hlog fun chrc succeeded hw => hwrite ⟨chrc, succeeded, hw⟩] at htags
    cases htags
    rfl

/-- **A step of the access point**, short of a lost connection. -/
lemma inv_ap {e : ConfigEvent} {arrives : Bool} {beyond : Mem} (h : x.Inv apKey)
    (hup : ∀ connIdx, e ≠ .disconnected connIdx)
    (hstep : x.step connCfg apKey cfg ead (.ap e arrives beyond) = some y) : y.Inv apKey := by
  obtain ⟨s, hs, hdeliver⟩ := Option.bind_eq_some_iff.mp hstep
  obtain ⟨tags, htags, rfl⟩ := Option.map_eq_some_iff.mp hdeliver
  intro c stage hstage
  cases Configuration.acts_step hup hs with
  | none hlog hlive hdevice =>
      rw [wrote?_of_none hlog] at htags
      cases htags
      have hstage' : stage ∈ x.ap.connStages c := by
        rwa [Configuration.connStages, hlog] at hstage
      have hlast : s.lastSaved c = x.ap.lastSaved c := by
        rw [Configuration.lastSaved, hlog, Configuration.lastSaved]
      exact (h c stage hstage').congr (congrFun hlive c) (hdevice c) hlast rfl
  | one connIdx action hlog hlive hlink hupdates hothers =>
      by_cases hc : c = connIdx
      · subst hc
        obtain ⟨before, hbefore, hnext⟩ := stage_of_acted hlog hstage
        have hagrees := h c before hbefore
        by_cases hwrite : ∃ chrc succeeded, action = .write chrc succeeded
        · obtain ⟨chrc, succeeded, rfl⟩ := hwrite
          rw [wrote?_write hlog] at htags
          cases succeeded with
          | false =>
              rw [ConfigStage.next_write_false hnext]
              exact .of_nil rfl
          | true =>
              obtain ⟨hok, htag⟩ := (deliver_eq_some htags).2 rfl
              dsimp only
              rw [htag]
              exact hagrees.write (hlink rfl) hnext hupdates hok
        · have hother : ∀ chrc succeeded, action ≠ .write chrc succeeded :=
            fun chrc succeeded hw => hwrite ⟨chrc, succeeded, hw⟩
          rw [wrote?_other hlog hother] at htags
          cases htags
          exact hagrees.other hother hnext hlog hlive hupdates
      · have hstage' : stage ∈ x.ap.connStages c := by
          rwa [stage_of_ne hlog hc] at hstage
        have hdevice : (x.ap.eslDevice c).SameKeys (s.eslDevice c) := by
          rw [hothers c hc]
          exact ⟨rfl, rfl⟩
        have hlast : s.lastSaved c = x.ap.lastSaved c :=
          Configuration.lastSaved_of_not_save hlog fun heq => absurd heq hc
        dsimp only
        rw [deliver_of_ne hlog htags hc]
        exact (h c stage hstage').congr (congrFun hlive c) hdevice hlast rfl

/-- **A connection is lost.** -/
lemma inv_disconnected {connIdx : UInt8} {arrives : Bool} {beyond : Mem} (h : x.Inv apKey)
    (hG : LeavesProvisioned cfg x (.ap (.disconnected connIdx) arrives beyond))
    (hstep : x.step connCfg apKey cfg ead (.ap (.disconnected connIdx) arrives beyond) = some y) :
    y.Inv apKey := by
  rw [step] at hstep
  obtain ⟨s, hs, hdeliver⟩ := Option.bind_eq_some_iff.mp hstep
  obtain ⟨tags, htags, rfl⟩ := Option.map_eq_some_iff.mp hdeliver
  cases hs
  have hlog : (x.ap.disconnected connIdx).log = x.ap.log := rfl
  rw [wrote?_of_none hlog] at htags
  cases htags
  intro c stage hstage
  have hagrees := h c stage hstage
  by_cases hc : c = connIdx
  · subst hc
    exact hagrees.lost (hG stage hstage)
  · have hdevice : (x.ap.disconnected connIdx).eslDevice c = x.ap.eslDevice c :=
      Function.update_of_ne hc _ _
    refine hagrees.congr (Function.update_of_ne hc _ _) ?_ rfl rfl
    rw [hdevice]
    exact ⟨rfl, rfl⟩

/-- **A step of a tag.** -/
lemma inv_tag {connIdx : UInt8} {e : TagEvent} (h : x.Inv apKey)
    (hG : LeavesProvisioned cfg x (.tag connIdx e))
    (hstep : x.step connCfg apKey cfg ead (.tag connIdx e) = some y) : y.Inv apKey := by
  obtain ⟨d, hd, rfl⟩ := Option.map_eq_some_iff.mp hstep
  intro c stage hstage
  have hold := h c stage hstage
  dsimp only
  by_cases hc : c = connIdx
  · subst hc
    rw [Function.update_self]
    rcases hG with hnil | ⟨hother, hkeeps⟩
    · exact .of_nil (hnil stage hstage)
    · have hsame := TagDevice.provisioned_step hd hother
      rw [hkeeps] at hsame
      exact hold.congr rfl ⟨rfl, rfl⟩ rfl hsame
  · rw [Function.update_of_ne hc]
    exact hold

/-- **The step lemma.** -/
lemma inv_step : PreservedUnder (step connCfg apKey cfg ead) (LeavesProvisioned cfg) (Inv apKey) := by
  intro x e y h hG hstep
  cases e with
  | ap e arrives beyond =>
      cases e with
      | disconnected connIdx => exact inv_disconnected h hG hstep
      | configure | begin | work => exact inv_ap h (by rintro _ ⟨⟩) hstep
  | tag connIdx e => exact inv_tag h hG hstep

/-- **What has been saved of a connection that is through** agrees with its tag. -/
lemma Inv.allAssociated (hl : ead.Lawful) (h : x.Inv apKey) : x.AllAssociated apKey ead := by
  intro connIdx a hstage
  have hconn := h connIdx _ hstage
  obtain ⟨saved, hlast, hagrees⟩ := hconn.saved rfl
  have hall : ∀ chr, (x.tags connIdx).tag.HoldsValue apKey saved.eslRspKey a chr :=
    fun chr => hagrees.holds chr (by cases chr <;> simp [ConfigStage.characteristics])
  obtain ⟨haddr, haddrSet⟩ := hall .addr
  obtain ⟨hapKey, hapKeySet⟩ := hall .apSyncKey
  obtain ⟨hrspKey, hrspKeySet⟩ := hall .responseKey
  have hsavedAddr : saved.eslAddr = a := hagrees.recorded (List.cons_ne_nil _ _)
  refine ⟨saved, hlast,
    ⟨haddr, hsavedAddr, ⟨haddrSet, hapKeySet, hrspKeySet, hall .absTime⟩, ?_, ?_⟩, hrspKey.symm, ?_⟩
  · intro payload buf stack hp hpacket
    rw [hapKey]
    exact (hpacket.decryptPacket hl hp stack).2
  · intro payload r stack responseSlot hp hkey hpacket
    exact (hpacket.takeUp hl hp (hkey.trans hrspKey.symm) stack responseSlot).2.1
  · intro hup
    have hrecord := hconn.record (.inl hup)
    have hkey : (x.tags connIdx).tag.assoc.eslRspKey = (x.ap.eslDevice connIdx).eslRspKey :=
      (hrecord.holds .responseKey (by simp [ConfigStage.characteristics])).1
    exact ⟨(hrecord.recorded (List.cons_ne_nil _ _)).trans hsavedAddr.symm,
      hkey.symm.trans hrspKey⟩

/-- **Whoever is configured is associated**, in every run in which nobody else provisions a tag that is
being configured and no connection is lost between its last write and the save. -/
theorem allAssociated_of_leavesProvisioned (connCfg : ConnConfig) (apKey : KeyMaterial)
    (cfg : UInt8 → Config) (hl : ead.Lawful) {x : Fleet} (hx : x.ap.log = []) {es : List FleetEvent}
    (hG : StepsMeet (step connCfg apKey cfg ead) (LeavesProvisioned cfg) x es) :
    AlongRun (step connCfg apKey cfg ead) (AllAssociated apKey ead) x es := by
  have hinv : x.Inv apKey := by
    intro c stage hstage
    rw [Configuration.connStages, hx] at hstage
    obtain rfl : .idle = stage := Option.some.inj hstage
    exact .of_nil rfl
  exact (alongRun_of_stepsMeet inv_step hinv hG).imp fun y hy => hy.allAssociated hl

/-- Connection 0 is asked to get address 7; its tag connects, and waits between two writes.  The
connection is lost when the tag has been saved. -/
def configuredOnce : List FleetEvent :=
  .ap (.configure 0 7) false (fun _ => 0) :: .tag 0 (.connected 0)
    :: .ap .begin false (fun _ => 0)
    :: List.replicate 3 (.ap (.work ⟨true, Ead.Sample.key, 5⟩) false fun _ => 0)
    ++ .tag 0 (.tick 20) :: List.replicate 5 (.ap (.work ⟨true, Ead.Sample.key, 5⟩) false fun _ => 0)
    ++ [ .ap (.disconnected 0) false (fun _ => 0)
       , .ap (.work ⟨true, Ead.Sample.key, 5⟩) false fun _ => 0 ]

/-- All tags have just booted. -/
def newFleet : Fleet := ⟨.init (fun _ => true) fun _ => .zero, fun _ => TagDevice.boot .sample {}⟩

/-- The connection is through, and it is associated, though the record has no key any more. -/
theorem allAssociated_configuredOnce :
    ((TransitionSystem.run (step .two Ead.Sample.key (fun _ => .sample) .sample) newFleet
        configuredOnce).map fun x => (x.ap.connStages 0, (x.ap.eslDevice 0).eslRspKey))
        = some (some (.completed 7), .zero)
      ∧ AlongRun (step .two Ead.Sample.key (fun _ => .sample) .sample)
        (AllAssociated Ead.Sample.key .sample) newFleet configuredOnce := by
  refine ⟨by decide +kernel, ?_⟩
  exact allAssociated_of_leavesProvisioned .two Ead.Sample.key (fun _ => .sample) Ead.lawful_sample
    (x := newFleet) rfl (by decide +kernel)

end Fleet

end NrfEsl
