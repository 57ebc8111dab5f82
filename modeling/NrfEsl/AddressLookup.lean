import NrfEsl.RecordOwnership

/-!
# From an ESL address to a connection

`esl_addr_to_conn_idx` goes through the records and returns the first index whose record has the address.
It is right when that connection is up and its tag has the address.  Three things stand against it.

* **Records are not cleared.**  One that has never been used has address 0, and `disconnected` keeps the
  address, so a connection that is gone is found, in front of the one that is up or instead of it.
* **Records may be late**: the load worker has not come to the new connection yet, or never will
  (`RecordOwnership`).
* **The comparison assigns.**  The RFU bit is cleared in the records and not in a copy.

`rightLookUps_of_keepsLookUp`: for an address that none of this happens to, every look-up of a run is
right.
-/

namespace NrfEsl

open TransitionSystem

/-- `BIT_UNSET(esl_addr, ESL_ADDR_RFU_BIT)` -/
def unsetRfu (eslAddr : UInt16) : UInt16 := eslAddr &&& 0x7FFF

/-- The tag is stored with the address. -/
def TagStorage.HasAddr (s : TagStorage) (peer : BtAddrLe) (eslAddr : UInt16) : Prop :=
  (s.ble.lookup peer.a).map (fun file => unsetRfu file.eslAddr) = some eslAddr

instance (s : TagStorage) (peer : BtAddrLe) (eslAddr : UInt16) : Decidable (s.HasAddr peer eslAddr) :=
  inferInstanceAs (Decidable (_ = _))

/-- No tag is stored with the RFU bit. -/
def TagStorage.NoRfu (s : TagStorage) : Prop :=
  ∀ a file, s.ble.lookup a = some file → unsetRfu file.eslAddr = file.eslAddr

namespace ConnTable

/-- The loop of `esl_addr_to_conn_idx`, over the indexes that are left. -/
def findAddr (eslAddr : UInt16) : List UInt8 → ConnTable → Option UInt8 × ConnTable
  | [], s => (none, s)
  | idx :: idxs, s =>
      let s := s.setDevice idx fun tag => { tag with eslAddr := unsetRfu tag.eslAddr }
      if (s.eslDevice idx).eslAddr = eslAddr then (some idx, s) else findAddr eslAddr idxs s

/-- `esl_addr_to_conn_idx` -/
def eslAddrToConnIdx (cfg : ConnConfig) (eslAddr : UInt16) (s : ConnTable) : Option UInt8 × ConnTable :=
  s.findAddr (unsetRfu eslAddr) cfg.connIdxs

inductive LookUpEvent
  | conn (e : ConnEvent)
  | lookUp (eslAddr : UInt16)
  deriving DecidableEq, Repr

/-- One event, or a look-up. -/
def lookUpStep (cfg : ConnConfig) (atNull : BtAddrLe) (s : ConnTable) : LookUpEvent → Option ConnTable
  | .conn e => s.step cfg atNull e
  | .lookUp eslAddr => some (s.eslAddrToConnIdx cfg eslAddr).2

/-- **A look-up is right**: it changes no record, and a look-up of `a` finds the connection that is up to
the tag with `a`. -/
def RightLookUp (cfg : ConnConfig) (a : UInt16) (s : ConnTable) : LookUpEvent → Prop
  | .conn _ => True
  | .lookUp eslAddr =>
      (s.eslAddrToConnIdx cfg eslAddr).2.eslDevice = s.eslDevice
        ∧ (unsetRfu eslAddr = a → ∀ i, (s.eslAddrToConnIdx cfg eslAddr).1 = some i
            ↔ s.conn i = true ∧ s.storage.HasAddr (s.dst i) a)

/-- No load that is waiting or running is still needed. -/
def Loaded (s : ConnTable) : Prop :=
  (s.loadQueued = true → s.conn s.loadIdx = true → s.Right s.loadIdx)
    ∧ ∀ args ∈ s.loading, s.conn args.1 = true → s.Right args.1

instance (s : ConnTable) : Decidable s.Loaded := inferInstanceAs (Decidable (_ ∧ _))

/-- What must not happen to an address `a`.  Loads are in time; of the tags that are connected one at most
has `a`; it does not disconnect, and is not configured while a lost connection to it is still to be loaded;
no address with the RFU bit is configured.  It is looked up when the records are loaded. -/
def KeepsLookUp (cfg : ConnConfig) (atNull : BtAddrLe) (a : UInt16) (s : ConnTable) : LookUpEvent → Prop
  | .conn (.connected connIdx peer source) =>
      s.LoadsInTime cfg atNull (.connected connIdx peer source)
        ∧ (s.storage.HasAddr peer a → ∀ i ∈ cfg.connIdxs, s.conn i = true → ¬ s.storage.HasAddr (s.dst i) a)
  | .conn (.disconnected connIdx) =>
      (s.eslDevice connIdx).eslAddr ≠ a ∧ ¬ s.storage.HasAddr (s.dst connIdx) a
  | .conn (.eslDiscovered connIdx) => s.LoadsInTime cfg atNull (.eslDiscovered connIdx)
  | .conn (.configured connIdx eslAddr random) =>
      s.LoadsInTime cfg atNull (.configured connIdx eslAddr random) ∧ unsetRfu eslAddr = eslAddr
        ∧ (eslAddr = a →
          (∀ i ∈ cfg.connIdxs, s.conn i = true → i ≠ connIdx → ¬ s.storage.HasAddr (s.dst i) a)
            ∧ (s.loadQueued = true → s.conn s.loadIdx = false → (s.dst s.loadIdx).a ≠ (s.dst connIdx).a)
            ∧ ∀ args ∈ s.loading, s.conn args.1 = false → args.2.a ≠ (s.dst connIdx).a)
  | .conn .loadBegin | .conn .loadEnd => True
  | .lookUp eslAddr => unsetRfu eslAddr = a → s.Loaded

variable {cfg : ConnConfig} {atNull : BtAddrLe} {s s' : ConnTable} {connIdx i : UInt8}
  {a eslAddr : UInt16}

/-! ## The loop -/

lemma setDevice_eq_self {f : EslChrcData → EslChrcData} (h : f (s.eslDevice connIdx) = s.eslDevice connIdx) :
    s.setDevice connIdx f = s := by
  rw [setDevice, h, Function.update_eq_self]

/-- Without RFU bits in the records the loop is a search. -/
lemma findAddr_eq (h : ∀ i, unsetRfu (s.eslDevice i).eslAddr = (s.eslDevice i).eslAddr)
    (idxs : List UInt8) :
    s.findAddr a idxs = (idxs.find? fun i => decide ((s.eslDevice i).eslAddr = a), s) := by
  induction idxs with
  | nil => rfl
  | cons idx idxs ih =>
      have hself : s.setDevice idx (fun tag => { tag with eslAddr := unsetRfu tag.eslAddr }) = s := by
        refine setDevice_eq_self ?_
        rw [h idx]
      rw [findAddr, hself, List.find?_cons]
      by_cases haddr : (s.eslDevice idx).eslAddr = a
      · rw [if_pos haddr, decide_eq_true haddr]
      · rw [if_neg haddr, decide_eq_false haddr, ih]

/-! ## Records of one address -/

/-- The records with address `a` are those of the connections that are up to the tag with `a`, or will be. -/
structure OneRecord (cfg : ConnConfig) (a : UInt16) (s : ConnTable) : Prop where
  sound : Sound cfg s
  rfu : ∀ i, unsetRfu (s.eslDevice i).eslAddr = (s.eslDevice i).eslAddr
  stored : s.storage.NoRfu
  up : ∀ i, (s.eslDevice i).eslAddr = a → s.conn i = true
  queued : s.loadQueued = true → s.conn s.loadIdx = false → ¬ s.storage.HasAddr (s.dst s.loadIdx) a
  loading : ∀ args, s.loading = some args → s.conn args.1 = false → ¬ s.storage.HasAddr args.2 a
  unique : ∀ i j, s.conn i = true → s.conn j = true → s.storage.HasAddr (s.dst i) a →
    s.storage.HasAddr (s.dst j) a → i = j

/-- What is due to a tag has the address it is stored with. -/
lemma hasAddr_iff_due (ha : a ≠ 0) {storage : TagStorage} {peer : BtAddrLe} :
    storage.HasAddr peer a ↔ unsetRfu (storage.due peer).1 = a := by
  rw [TagStorage.HasAddr, TagStorage.due]
  cases storage.ble.lookup peer.a with
  | none =>
      refine iff_of_false (fun h => by cases h) ?_
      rintro rfl
      exact ha rfl
  | some file => exact Option.some_inj

/-- The record of a connection that needs no load has the address of its tag. -/
lemma OneRecord.eslAddr_iff (h : OneRecord cfg a s) (ha : a ≠ 0) (hloaded : s.Loaded)
    (hconn : s.conn i = true) :
    (s.eslDevice i).eslAddr = a ↔ s.storage.HasAddr (s.dst i) a := by
  have hright : s.Right i := by
    rcases h.sound.right i hconn with hright | ⟨-, ⟨hqueued, hidx⟩ | ⟨bleAddr, hload⟩⟩
    · exact hright
    · subst hidx
      exact hloaded.1 hqueued hconn
    · exact hloaded.2 _ hload hconn
  have haddr : (s.eslDevice i).eslAddr = (s.storage.due (s.dst i)).1 := congrArg Prod.fst hright
  rw [hasAddr_iff_due ha, ← haddr, h.rfu]

/-- **What is found** when the records are loaded. -/
lemma OneRecord.find?_eq_some_iff (h : OneRecord cfg a s) (ha : a ≠ 0) (hloaded : s.Loaded) :
    (cfg.connIdxs.find? fun i => decide ((s.eslDevice i).eslAddr = a)) = some i
      ↔ s.conn i = true ∧ s.storage.HasAddr (s.dst i) a := by
  have hfound : ∀ j, (cfg.connIdxs.find? fun i => decide ((s.eslDevice i).eslAddr = a)) = some j →
      s.conn j = true ∧ s.storage.HasAddr (s.dst j) a := by
    intro j hj
    have haddr : (s.eslDevice j).eslAddr = a := by
      have hdecide := List.find?_some hj
      exact of_decide_eq_true hdecide
    have hconn := h.up j haddr
    exact ⟨hconn, (h.eslAddr_iff ha hloaded hconn).mp haddr⟩
  refine ⟨hfound i, ?_⟩
  rintro ⟨hconn, hhas⟩
  cases hcase : cfg.connIdxs.find? fun i => decide ((s.eslDevice i).eslAddr = a) with
  | none =>
      rw [List.find?_eq_none] at hcase
      have hnot := hcase i (mem_connIdxs.mpr (h.sound.range i hconn))
      exact absurd (decide_eq_true ((h.eslAddr_iff ha hloaded hconn).mpr hhas)) hnot
  | some j =>
      obtain ⟨hconn', hhas'⟩ := hfound j hcase
      rw [h.unique j i hconn' hconn hhas' hhas]

/-- A look-up is a search that changes nothing. -/
lemma OneRecord.rightLookUp (h : OneRecord cfg a s) (ha : a ≠ 0) {e : LookUpEvent}
    (hG : s.KeepsLookUp cfg atNull a e) : s.RightLookUp cfg a e := by
  cases e with
  | conn e => trivial
  | lookUp eslAddr =>
      have hsearch := findAddr_eq (a := unsetRfu eslAddr) h.rfu cfg.connIdxs
      refine ⟨congrArg (fun r => r.2.eslDevice) hsearch, ?_⟩
      rintro rfl i
      rw [eslAddrToConnIdx, hsearch]
      exact h.find?_eq_some_iff ha (hG rfl)

/-! ## One event -/

section Events

variable {peer : BtAddrLe} {source : EslAclSource} {random : KeyMaterial}

lemma eslAddr_connected :
    ((s.connected connIdx peer source).eslDevice i).eslAddr = (s.eslDevice i).eslAddr := by
  by_cases hi : i = connIdx
  · subst hi
    exact congrArg Prod.fst addrKey_connected_self
  · rw [(connected_of_ne hi).2.2.2]

lemma eslAddr_disconnected :
    ((s.disconnected connIdx).eslDevice i).eslAddr = (s.eslDevice i).eslAddr := by
  by_cases hi : i = connIdx
  · subst hi
    rw [disconnected, eslDevice_setDevice_self]
    rfl
  · rw [disconnected, eslDevice_setDevice_of_ne _ hi]

lemma oneRecord_connected (h : OneRecord cfg a s) (hrange : connIdx.toNat < cfg.maxConn)
    (hfree : s.conn connIdx = false) (hpeer : s.hasPeer cfg peer = false)
    (hG : s.KeepsLookUp cfg atNull a (.conn (.connected connIdx peer source))) :
    OneRecord cfg a (s.connected connIdx peer source) := by
  obtain ⟨hloads, hone⟩ := hG
  have hup : (s.connected connIdx peer source).conn connIdx = true := Function.update_self ..
  refine ⟨sound_connected h.sound hrange hpeer hloads, fun i => ?_, h.stored, fun i hi => ?_, ?_,
    fun args hargs hc => ?_, fun i j hi hj hhi hhj => ?_⟩
  · rw [eslAddr_connected]
    exact h.rfu i
  · rw [eslAddr_connected] at hi
    have hconn := h.up i hi
    have hne : i ≠ connIdx := by
      rintro rfl
      rw [hfree] at hconn
      cases hconn
    rw [(connected_of_ne hne).1]
    exact hconn
  · -- the load that is waiting is the one of the new connection
    intro _ hc
    have hdown : (s.connected connIdx peer source).conn connIdx = false := hc
    rw [hup] at hdown
    cases hdown
  · have hne := hloads.2.1 args hargs
    rw [(connected_of_ne hne).1] at hc
    exact h.loading args hargs hc
  · have hother : ∀ k, k ≠ connIdx → (s.connected connIdx peer source).conn k = true →
        s.storage.HasAddr ((s.connected connIdx peer source).dst k) a →
        ¬ s.storage.HasAddr peer a := by
      intro k hk hck hhk hnew
      rw [(connected_of_ne hk).1] at hck
      rw [(connected_of_ne hk).2.1] at hhk
      exact hone hnew k (mem_connIdxs.mpr (h.sound.range k hck)) hck hhk
    by_cases hii : i = connIdx
    · by_cases hjj : j = connIdx
      · rw [hii, hjj]
      · rw [hii, dst_connected_self] at hhi
        exact absurd hhi (hother j hjj hj hhj)
    · by_cases hjj : j = connIdx
      · rw [hjj, dst_connected_self] at hhj
        exact absurd hhj (hother i hii hi hhi)
      · rw [(connected_of_ne hii).1] at hi
        rw [(connected_of_ne hjj).1] at hj
        rw [(connected_of_ne hii).2.1] at hhi
        rw [(connected_of_ne hjj).2.1] at hhj
        exact h.unique i j hi hj hhi hhj

lemma oneRecord_disconnected (h : OneRecord cfg a s) (hconn : s.conn connIdx = true)
    (hG : s.KeepsLookUp cfg atNull a (.conn (.disconnected connIdx))) :
    OneRecord cfg a (s.disconnected connIdx) := by
  obtain ⟨haddr, hhas⟩ := hG
  refine ⟨sound_disconnected h.sound, fun i => ?_, h.stored, fun i hi => ?_, fun hq hc => ?_,
    fun args hargs hc => ?_, fun i j hi hj =>
      h.unique i j (of_conn_disconnected hi).2 (of_conn_disconnected hj).2⟩
  · rw [eslAddr_disconnected]
    exact h.rfu i
  · rw [eslAddr_disconnected] at hi
    have hne : i ≠ connIdx := by
      rintro rfl
      exact haddr hi
    rw [(disconnected_of_ne hne).1]
    exact h.up i hi
  · by_cases hne : s.loadIdx = connIdx
    · show ¬ s.storage.HasAddr (s.dst s.loadIdx) a
      rw [hne]
      exact hhas
    · have hc' : (s.disconnected connIdx).conn s.loadIdx = false := hc
      rw [(disconnected_of_ne hne).1] at hc'
      exact h.queued hq hc'
  · by_cases hne : args.1 = connIdx
    · have hdst := h.sound.loading args hargs (by rw [hne]; exact hconn)
      rw [hdst, hne]
      exact hhas
    · rw [(disconnected_of_ne hne).1] at hc
      exact h.loading args hargs hc

lemma oneRecord_eslDiscoveryComplete (h : OneRecord cfg a s) (hrange : connIdx.toNat < cfg.maxConn)
    (hG : s.KeepsLookUp cfg atNull a (.conn (.eslDiscovered connIdx))) :
    OneRecord cfg a (s.eslDiscoveryComplete cfg atNull connIdx) := by
  have hsound : Sound cfg (s.eslDiscoveryComplete cfg atNull connIdx) :=
    sound_eslDiscoveryComplete h.sound hrange hG
  rw [eslDiscoveryComplete, bleAddrToConnIdx] at hsound ⊢
  split at hsound
  · exact ⟨hsound, h.rfu, h.stored, h.up, h.queued, h.loading, h.unique⟩
  · rename_i j _
    have haddr : ∀ i, ((({ s with
        discovered := Function.update s.discovered connIdx (s.conn connIdx) } : ConnTable).setDevice j
          fun tag => { tag with bleAddr := s.dst connIdx }).eslDevice i).eslAddr
        = (s.eslDevice i).eslAddr := by
      intro i
      by_cases hi : i = j
      · subst hi
        rw [eslDevice_setDevice_self]
      · rw [eslDevice_setDevice_of_ne _ hi]
    refine ⟨hsound, fun i => ?_, h.stored, fun i hi => ?_, h.queued, h.loading, h.unique⟩
    · rw [haddr]
      exact h.rfu i
    · rw [haddr] at hi
      exact h.up i hi

lemma oneRecord_loadBegin (h : OneRecord cfg a s) (hq : s.loadQueued = true) (hidle : s.loading = none) :
    OneRecord cfg a { s with loadQueued := false, loading := some (s.loadIdx, s.dst s.loadIdx) } := by
  refine ⟨sound_loadBegin h.sound hidle, h.rfu, h.stored, h.up, nofun, ?_, h.unique⟩
  rintro args hargs hc
  cases hargs
  exact h.queued hq hc

/-- What a load makes of the address of a record. -/
lemma eslAddr_load (storage : TagStorage) (peer : BtAddrLe) (tag : EslChrcData) :
    (storage.loadTagInStorage peer tag).eslAddr = tag.eslAddr
      ∨ ∃ file, storage.ble.lookup peer.a = some file
        ∧ (storage.loadTagInStorage peer tag).eslAddr = file.eslAddr := by
  rw [TagStorage.loadTagInStorage]
  cases hfile : storage.ble.lookup peer.a with
  | none => exact .inl rfl
  | some file => exact .inr ⟨file, rfl, rfl⟩

lemma oneRecord_eslTagLoadWorkFn {bleAddr : BtAddrLe} (h : OneRecord cfg a s)
    (hload : s.loading = some (connIdx, bleAddr)) :
    OneRecord cfg a (s.eslTagLoadWorkFn connIdx bleAddr) := by
  refine ⟨sound_eslTagLoadWorkFn h.sound hload, fun i => ?_, h.stored, fun i hi => ?_, h.queued, nofun,
    h.unique⟩
  · by_cases hii : i = connIdx
    · subst hii
      rw [eslTagLoadWorkFn, eslDevice_setDevice_self]
      rcases eslAddr_load s.storage bleAddr (s.eslDevice i) with
        hold | ⟨file, hfile, hnew⟩
      · exact hold ▸ h.rfu i
      · exact hnew ▸ h.stored _ _ hfile
    · rw [eslTagLoadWorkFn, eslDevice_setDevice_of_ne _ hii]
      exact h.rfu i
  · by_cases hii : i = connIdx
    · subst hii
      rw [eslTagLoadWorkFn, eslDevice_setDevice_self] at hi
      rcases eslAddr_load s.storage bleAddr (s.eslDevice i) with
        hold | ⟨file, hfile, hnew⟩
      · exact h.up i (hold.symm.trans hi)
      · -- a lost connection has no load for a tag with `a`
        by_contra hdown
        refine h.loading _ hload (Bool.eq_false_iff.mpr hdown) ?_
        have hfileAddr : file.eslAddr = a := hnew.symm.trans hi
        rw [TagStorage.HasAddr, hfile, Option.map_some, h.stored _ _ hfile, hfileAddr]
    · rw [eslTagLoadWorkFn, eslDevice_setDevice_of_ne _ hii] at hi
      exact h.up i hi

/-- What is stored after a configuration for tags with the same address. -/
lemma hasAddr_configured_self (hpeer : peer.a = (s.eslDevice connIdx).bleAddr.a) :
    (s.configured connIdx eslAddr random).storage.HasAddr peer a ↔ unsetRfu eslAddr = a := by
  have hfile : (s.configured connIdx eslAddr random).storage.ble.lookup peer.a
      = some ⟨eslAddr, Configuration.drawnRspKey random (s.eslDevice connIdx),
          (s.eslDevice connIdx).bleAddr.type⟩ := by
    rw [hpeer]
    exact AList.lookup_insert _
  rw [TagStorage.HasAddr, hfile]
  exact Option.some_inj

/-- And for the others. -/
lemma hasAddr_configured_of_ne (hpeer : peer.a ≠ (s.eslDevice connIdx).bleAddr.a) :
    (s.configured connIdx eslAddr random).storage.HasAddr peer a ↔ s.storage.HasAddr peer a := by
  have hfile : (s.configured connIdx eslAddr random).storage.ble.lookup peer.a
      = s.storage.ble.lookup peer.a := AList.lookup_insert_ne hpeer
  rw [TagStorage.HasAddr, TagStorage.HasAddr, hfile]

lemma noRfu_configured (h : s.storage.NoRfu) (haddr : unsetRfu eslAddr = eslAddr) :
    (s.configured connIdx eslAddr random).storage.NoRfu := by
  intro b file hfile
  by_cases hb : b = (s.eslDevice connIdx).bleAddr.a
  · subst hb
    cases (AList.lookup_insert _).symm.trans hfile
    exact haddr
  · exact h b file ((AList.lookup_insert_ne hb).symm.trans hfile)

lemma eslAddr_configured_self :
    ((s.configured connIdx eslAddr random).eslDevice connIdx).eslAddr = eslAddr := by
  rw [configured, eslDevice_setDevice_self]
  rfl

lemma oneRecord_configured (h : OneRecord cfg a s) (hdisc : s.discovered connIdx = true)
    (hG : s.KeepsLookUp cfg atNull a (.conn (.configured connIdx eslAddr random))) :
    OneRecord cfg a (s.configured connIdx eslAddr random) := by
  obtain ⟨hloads, hbit, honly⟩ := hG
  obtain ⟨hconn, hble⟩ := h.sound.discovered connIdx hdisc
  have hself : ∀ peer : BtAddrLe, peer.a = (s.dst connIdx).a →
      (s.configured connIdx eslAddr random).storage.HasAddr peer a → eslAddr = a := by
    intro peer hpeer hhas
    rw [← hble] at hpeer
    exact hbit.symm.trans ((hasAddr_configured_self hpeer).mp hhas)
  have hother : ∀ peer : BtAddrLe, peer.a ≠ (s.dst connIdx).a →
      ((s.configured connIdx eslAddr random).storage.HasAddr peer a ↔ s.storage.HasAddr peer a) := by
    intro peer hpeer
    rw [← hble] at hpeer
    exact hasAddr_configured_of_ne hpeer
  have hup : ∀ i, s.conn i = true → i ≠ connIdx →
      (s.configured connIdx eslAddr random).storage.HasAddr (s.dst i) a →
      s.storage.HasAddr (s.dst i) a ∧ eslAddr ≠ a := by
    intro i hi hne hhas
    have hmem := mem_connIdxs.mpr (h.sound.range i hi)
    have hhas' := (hother (s.dst i) (hloads i hmem hi hne)).mp hhas
    exact ⟨hhas', fun haddr => (honly haddr).1 i hmem hi hne hhas'⟩
  have hrecord : ∀ i, i ≠ connIdx →
      (s.configured connIdx eslAddr random).eslDevice i = s.eslDevice i := fun i hi =>
    eslDevice_setDevice_of_ne _ hi
  refine ⟨sound_configured h.sound hdisc hloads, fun i => ?_, noRfu_configured h.stored hbit,
    fun i hi => ?_, fun hq hc hhas => ?_, fun args hargs hc hhas => ?_, fun i j hi hj hhi hhj => ?_⟩
  · by_cases hii : i = connIdx
    · rw [hii, eslAddr_configured_self]
      exact hbit
    · rw [hrecord i hii]
      exact h.rfu i
  · by_cases hii : i = connIdx
    · rw [hii]
      exact hconn
    · rw [hrecord i hii] at hi
      exact h.up i hi
  · by_cases hpeer : (s.dst s.loadIdx).a = (s.dst connIdx).a
    · exact (honly (hself _ hpeer hhas)).2.1 hq hc hpeer
    · exact h.queued hq hc ((hother _ hpeer).mp hhas)
  · by_cases hpeer : args.2.a = (s.dst connIdx).a
    · exact (honly (hself _ hpeer hhas)).2.2 args hargs hc hpeer
    · exact h.loading args hargs hc ((hother _ hpeer).mp hhas)
  · by_cases hii : i = connIdx
    · by_cases hjj : j = connIdx
      · rw [hii, hjj]
      · rw [hii] at hhi
        exact absurd (hself _ rfl hhi) (hup j hj hjj hhj).2
    · by_cases hjj : j = connIdx
      · rw [hjj] at hhj
        exact absurd (hself _ rfl hhj) (hup i hi hii hhi).2
      · exact h.unique i j hi hj (hup i hi hii hhi).1 (hup j hj hjj hhj).1

/-- **Every event keeps the records of the address**, if nothing happens to it. -/
lemma oneRecord_step {e : LookUpEvent} (h : OneRecord cfg a s) (hG : s.KeepsLookUp cfg atNull a e)
    (hstep : s.lookUpStep cfg atNull e = some s') : OneRecord cfg a s' := by
  cases e with
  | lookUp b =>
      cases hstep
      rw [eslAddrToConnIdx, findAddr_eq h.rfu]
      exact h
  | conn e =>
      rw [lookUpStep] at hstep
      cases e with
      | connected connIdx peer source =>
          rw [step] at hstep
          split_ifs at hstep with hfree
          cases hstep
          exact oneRecord_connected h hfree.1 hfree.2.1 hfree.2.2 hG
      | disconnected connIdx =>
          rw [step] at hstep
          split_ifs at hstep with hconn
          cases hstep
          exact oneRecord_disconnected h hconn hG
      | eslDiscovered connIdx =>
          rw [step] at hstep
          split_ifs at hstep with hrange
          cases hstep
          exact oneRecord_eslDiscoveryComplete h hrange hG
      | loadBegin =>
          rw [step] at hstep
          split_ifs at hstep with hrun
          cases hstep
          exact oneRecord_loadBegin h hrun.1 hrun.2
      | loadEnd =>
          obtain ⟨args, hload, rfl⟩ := Option.map_eq_some_iff.mp hstep
          exact oneRecord_eslTagLoadWorkFn h hload
      | configured connIdx eslAddr random =>
          rw [step] at hstep
          split_ifs at hstep with hdisc
          cases hstep
          exact oneRecord_configured h hdisc hG

end Events

lemma oneRecord_init (ha : a ≠ 0) {storage : TagStorage} (hstored : storage.NoRfu) :
    OneRecord cfg a (init storage) where
  sound := ⟨nofun, nofun, nofun, nofun, nofun⟩
  rfu _ := (by decide : unsetRfu 0 = 0)
  stored := hstored
  up _ hi := absurd hi.symm ha
  queued := nofun
  loading := nofun
  unique := nofun

instance (cfg : ConnConfig) (atNull : BtAddrLe) (a : UInt16) (s : ConnTable) :
    DecidablePred (s.KeepsLookUp cfg atNull a) := fun e =>
  match e with
  | .conn (.connected _ _ _) => inferInstanceAs (Decidable (_ ∧ _))
  | .conn (.disconnected _) => inferInstanceAs (Decidable (_ ∧ _))
  | .conn (.eslDiscovered connIdx) =>
      inferInstanceAs (Decidable (s.LoadsInTime cfg atNull (.eslDiscovered connIdx)))
  | .conn (.configured _ _ _) => inferInstanceAs (Decidable (_ ∧ _ ∧ _))
  | .conn .loadBegin | .conn .loadEnd => isTrue trivial
  | .lookUp _ => inferInstanceAs (Decidable (_ → _))

/-- **The look-ups of an address other than 0 are right in every run** whose steps leave its record
alone. -/
theorem rightLookUps_of_keepsLookUp (cfg : ConnConfig) (atNull : BtAddrLe) (storage : TagStorage)
    (hstored : storage.NoRfu) (a : UInt16) (ha : a ≠ 0) {es : List LookUpEvent}
    (h : StepsMeet (lookUpStep cfg atNull) (KeepsLookUp cfg atNull a) (init storage) es) :
    StepsMeet (lookUpStep cfg atNull) (RightLookUp cfg a) (init storage) es :=
  h.strengthen (I := OneRecord cfg a) (fun _ _ _ hs hG hstep => oneRecord_step hs hG hstep)
    (fun _ _ _ hs hG _ => hs.rightLookUp ha hG) (oneRecord_init ha hstored)

/-- A tag comes up and is configured; another one comes, is configured, and goes. -/
def lookedUp : List LookUpEvent :=
  [ .conn (.connected 1 ⟨0, Vector.replicate 6 1⟩ .fromScan), .lookUp 6, .conn .loadBegin
  , .conn .loadEnd, .conn (.eslDiscovered 1), .lookUp 5, .conn (.configured 1 5 .zero), .lookUp 0x8005
  , .conn (.connected 0 ⟨0, Vector.replicate 6 2⟩ .fromScan), .conn .loadBegin, .conn .loadEnd
  , .conn (.eslDiscovered 0), .conn (.configured 0 6 .zero), .lookUp 5, .conn (.disconnected 0)
  , .lookUp 5 ]

/-- Its address is looked up before and after it has it, and after the other tag has gone. -/
theorem rightLookUps_lookedUp :
    StepsMeet (lookUpStep .two ⟨0, Vector.replicate 6 0⟩) (RightLookUp .two 5) (init .empty) lookedUp
      ∧ (run (lookUpStep .two ⟨0, Vector.replicate 6 0⟩) (init .empty) lookedUp).map
          (fun s => (s.eslAddrToConnIdx .two 0x8005).1) = some (some 1) :=
  ⟨rightLookUps_of_keepsLookUp .two _ .empty nofun 5 (by decide) (by decide +kernel), by decide +kernel⟩

/-- A tag comes up and is configured. -/
def configuredAs (eslAddr : UInt16) : List LookUpEvent :=
  [ .conn (.connected 0 ⟨0, Vector.replicate 6 1⟩ .fromScan), .conn .loadBegin, .conn .loadEnd
  , .conn (.eslDiscovered 0), .conn (.configured 0 eslAddr .zero) ]

/-- At start-up address 0 is found.  A tag with address 5 is found after it has gone, and is not found
before it is loaded.  An address with the RFU bit is changed by a look-up. -/
theorem not_rightLookUps :
    ¬ StepsMeet (lookUpStep .two ⟨0, Vector.replicate 6 0⟩) (RightLookUp .two 0) (init .empty)
        [.lookUp 0]
      ∧ ¬ StepsMeet (lookUpStep .two ⟨0, Vector.replicate 6 0⟩) (RightLookUp .two 5) (init .empty)
        (configuredAs 5 ++ [.conn (.disconnected 0), .lookUp 5])
      ∧ ¬ StepsMeet (lookUpStep .two ⟨0, Vector.replicate 6 0⟩) (RightLookUp .two 5) (init oneStored)
        [.conn (.connected 0 ⟨0, Vector.replicate 6 1⟩ .fromScan), .lookUp 5]
      ∧ ¬ StepsMeet (lookUpStep .two ⟨0, Vector.replicate 6 0⟩) (RightLookUp .two 5) (init .empty)
        (configuredAs 0x8005 ++ [.lookUp 5]) := by
  refine ⟨fun h => ?_, fun h => ?_, fun h => ?_, fun h => ?_⟩
  · have hfound := ((h _ rfl).1.2 rfl 0).mp (by decide)
    exact absurd hfound.1 (by decide)
  · have hlook := (((h.of_append rfl) _ rfl).2 _ rfl).1.2 rfl 0
    have hfound := hlook.mp (by decide)
    exact absurd hfound.1 (by decide)
  · have hlook := ((h _ rfl).2 _ rfl).1.2 rfl 0
    exact absurd (hlook.mpr (by decide)) (by decide)
  · have hkeeps := ((h.of_append rfl) _ rfl).1.1
    have hkept := congrArg (fun devices => (devices 0).eslAddr) hkeeps
    exact absurd hkept (by decide)

end ConnTable

end NrfEsl
