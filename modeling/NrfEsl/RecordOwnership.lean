import NrfEsl.Ap.Connections
import NrfEsl.Lib.TransitionSystem

/-!
# Whose data a connection record holds

The access point `KeepsOwners` when, while the load worker is idle, the record of every connection that
has completed ESL discovery holds the Bluetooth address of its peer and the ESL address and response
key that are stored for the peer, or none when nothing is stored.

**Loads that are let finish, and clean records**, keep it so: `keepsOwners_of_loadsInTime`.  A
connection may come up when no load is waiting that another connection needs, the load of the
connection that had the index before is not running, and the tag is stored or the record has no address
and key; the last fails where a tag that is not stored follows one that was, as `disconnected` keeps
the ESL address.  A connection is discovered at its own index (`FindsOwn`), which the search by address
may miss when an index in front is unused.
-/

namespace NrfEsl

open TransitionSystem

/-- The ESL address and the response key of a record. -/
def EslChrcData.addrKey (tag : EslChrcData) : UInt16 × KeyMaterial := (tag.eslAddr, tag.eslRspKey)

namespace TagStorage

variable {s : TagStorage} {peer : BtAddrLe} {tag : EslChrcData}

/-- Something is stored for the tag. -/
def Stores (s : TagStorage) (peer : BtAddrLe) : Prop := (s.ble.lookup peer.a).isSome = true

instance (s : TagStorage) : DecidablePred s.Stores := fun peer =>
  inferInstanceAs (Decidable ((s.ble.lookup peer.a).isSome = true))

/-- What the record of a tag has to hold. -/
def due (s : TagStorage) (peer : BtAddrLe) : UInt16 × KeyMaterial :=
  match s.ble.lookup peer.a with
  | none => (0, .zero)
  | some file => (file.eslAddr, file.rspKey)

lemma due_of_not_stores (h : ¬ s.Stores peer) : s.due peer = (0, .zero) := by
  have hnone : s.ble.lookup peer.a = none := by simpa [Stores] using h
  rw [due, hnone]

/-- A load brings what is stored. -/
lemma addrKey_load (h : s.Stores peer) :
    (s.loadTagInStorage peer tag).addrKey = s.due peer := by
  obtain ⟨file, hfile⟩ := Option.isSome_iff_exists.mp h
  rw [loadTagInStorage, due, hfile]
  rfl

/-- A load without a file changes nothing. -/
lemma load_of_not_stores (h : ¬ s.Stores peer) : s.loadTagInStorage peer tag = tag := by
  have hnone : s.ble.lookup peer.a = none := by simpa [Stores] using h
  rw [loadTagInStorage, hnone]

lemma bleAddr_load : (s.loadTagInStorage peer tag).bleAddr = tag.bleAddr := by
  rw [loadTagInStorage]
  split
  · rfl
  · rfl

lemma due_save_self (h : tag.bleAddr = peer) : (s.saveTagInStorage tag).due peer = tag.addrKey := by
  subst h
  rw [due, saveTagInStorage, AList.lookup_insert]
  rfl

lemma lookup_save_of_ne (h : peer.a ≠ tag.bleAddr.a) :
    (s.saveTagInStorage tag).ble.lookup peer.a = s.ble.lookup peer.a := AList.lookup_insert_ne h

lemma due_save_of_ne (h : peer.a ≠ tag.bleAddr.a) :
    (s.saveTagInStorage tag).due peer = s.due peer := by
  rw [due, lookup_save_of_ne h, due]

lemma stores_save (h : s.Stores peer) : (s.saveTagInStorage tag).Stores peer := by
  by_cases ha : peer.a = tag.bleAddr.a
  · rw [Stores, saveTagInStorage, ha, AList.lookup_insert]
    rfl
  · rw [Stores, lookup_save_of_ne ha]
    exact h

end TagStorage

namespace ConnTable

/-- The record of a connection holds what is due to its peer. -/
def Right (s : ConnTable) (connIdx : UInt8) : Prop :=
  (s.eslDevice connIdx).addrKey = s.storage.due (s.dst connIdx)

/-- Every connection that has completed ESL discovery has its own record, when the load worker is
idle. -/
def KeepsOwners (s : ConnTable) : Prop :=
  s.loadQueued = false → s.loading = none → ∀ connIdx, s.discovered connIdx = true →
    (s.eslDevice connIdx).bleAddr = s.dst connIdx ∧ s.Right connIdx

instance (s : ConnTable) : DecidablePred s.Right := fun connIdx =>
  inferInstanceAs (Decidable ((s.eslDevice connIdx).addrKey = s.storage.due (s.dst connIdx)))

/-- The peer's address is not what is read where there is no connection, or every index in front is in
use. -/
def FindsOwn (cfg : ConnConfig) (atNull : BtAddrLe) (s : ConnTable) (connIdx : UInt8) : Prop :=
  s.dst connIdx = atNull → ∀ i ∈ cfg.connIdxs, i < connIdx → s.conn i = true

instance (cfg : ConnConfig) (atNull : BtAddrLe) (s : ConnTable) :
    DecidablePred (s.FindsOwn cfg atNull) := fun connIdx =>
  inferInstanceAs (Decidable (s.dst connIdx = atNull →
    ∀ i ∈ cfg.connIdxs, i < connIdx → s.conn i = true))

/-- A connection comes up only when no load is waiting that a connection needs, none is running for its
index, and the tag is stored or the record has no address and key.  A tag is configured only when no
other connected one has the same address with another type.  A connection that is discovered finds its
own index. -/
def LoadsInTime (cfg : ConnConfig) (atNull : BtAddrLe) (s : ConnTable) : ConnEvent → Prop
  | .connected connIdx peer _ =>
      (s.loadQueued = true → s.conn s.loadIdx = true → s.Right s.loadIdx)
        ∧ (∀ args ∈ s.loading, args.1 ≠ connIdx)
        ∧ (s.storage.Stores peer ∨ (s.eslDevice connIdx).addrKey = (0, .zero))
  | .configured connIdx _ _ =>
      ∀ i ∈ cfg.connIdxs, s.conn i = true → i ≠ connIdx → (s.dst i).a ≠ (s.dst connIdx).a
  | .eslDiscovered connIdx => s.conn connIdx = true → s.FindsOwn cfg atNull connIdx
  | .disconnected _ | .loadBegin | .loadEnd => True

instance (cfg : ConnConfig) (atNull : BtAddrLe) (s : ConnTable) :
    DecidablePred (s.LoadsInTime cfg atNull)
  | .connected connIdx peer _ => inferInstanceAs (Decidable (
      (s.loadQueued = true → s.conn s.loadIdx = true → s.Right s.loadIdx)
        ∧ (∀ args ∈ s.loading, args.1 ≠ connIdx)
        ∧ (s.storage.Stores peer ∨ (s.eslDevice connIdx).addrKey = (0, .zero))))
  | .configured connIdx _ _ => List.decidableBAll
      (fun i => s.conn i = true → i ≠ connIdx → (s.dst i).a ≠ (s.dst connIdx).a) cfg.connIdxs
  | .eslDiscovered connIdx => inferInstanceAs (Decidable (
      s.conn connIdx = true → s.FindsOwn cfg atNull connIdx))
  | .disconnected _ | .loadBegin | .loadEnd => isTrue trivial

variable {cfg : ConnConfig} {atNull : BtAddrLe} {s s' : ConnTable} {connIdx i : UInt8}

lemma mem_connIdxs : i ∈ cfg.connIdxs ↔ i.toNat < cfg.maxConn := by
  rw [ConnConfig.connIdxs, List.mem_map]
  constructor
  · rintro ⟨n, hn, rfl⟩
    have hlt := List.mem_range.mp hn
    have hmax := cfg.maxConn_mem.2
    rwa [UInt8.toNat_ofNat_of_lt' (by rw [UInt8.size]; omega)]
  · intro hi
    exact ⟨i.toNat, List.mem_range.mpr hi, UInt8.ofNat_toNat⟩

lemma eslDevice_setDevice_self (f : EslChrcData → EslChrcData) :
    (s.setDevice connIdx f).eslDevice connIdx = f (s.eslDevice connIdx) := Function.update_self ..

lemma eslDevice_setDevice_of_ne (f : EslChrcData → EslChrcData) (h : i ≠ connIdx) :
    (s.setDevice connIdx f).eslDevice i = s.eslDevice i := Function.update_of_ne h ..

/-! ## The look-up by address -/

lemma dst_ne_of_hasPeer {peer : BtAddrLe} (h : s.hasPeer cfg peer = false)
    (hi : i.toNat < cfg.maxConn) (hconn : s.conn i = true) : s.dst i ≠ peer := by
  intro hdst
  have hnot := List.any_eq_false.mp h i (mem_connIdxs.mpr hi)
  simp [hconn, hdst] at hnot

lemma btConnGetDst_of_conn (hconn : s.conn i = true) : s.btConnGetDst atNull i = s.dst i := if_pos hconn

/-- A connection that is found has the address. -/
lemma dst_of_connIdxOf {addr : BtAddrLe} (h : s.connIdxOf cfg atNull addr = some i)
    (hconn : s.conn i = true) : s.dst i = addr := by
  rw [connIdxOf, Option.or_eq_some_iff] at h
  rcases h with h | ⟨-, h⟩
  · have hfound := List.find?_some h
    rw [btConnGetDst_of_conn hconn] at hfound
    exact of_decide_eq_true hfound
  · have hfree := List.find?_some h
    rw [hconn] at hfree
    cases hfree

/-- A connection object's address leads to an index, whether the connection is up or lost. -/
lemma exists_connIdxOf_dst (hrange : connIdx.toNat < cfg.maxConn) :
    ∃ i, s.connIdxOf cfg atNull (s.dst connIdx) = some i := by
  rw [← Option.isSome_iff_exists, connIdxOf, Option.isSome_or, Bool.or_eq_true]
  by_cases hconn : s.conn connIdx = true
  · refine .inl (List.find?_isSome.mpr ⟨connIdx, mem_connIdxs.mpr hrange, ?_⟩)
    rw [btConnGetDst_of_conn hconn, decide_eq_true rfl]
  · refine .inr (List.find?_isSome.mpr ⟨connIdx, mem_connIdxs.mpr hrange, ?_⟩)
    rw [Bool.eq_false_iff.mpr hconn, Bool.not_false]

/-- **A connection that is up finds its own index**, if no other one has its peer. -/
lemma connIdxOf_dst (hrange : connIdx.toNat < cfg.maxConn) (hconn : s.conn connIdx = true)
    (hdistinct : ∀ j, s.conn j = true → s.dst j = s.dst connIdx → j = connIdx)
    (hown : s.FindsOwn cfg atNull connIdx) :
    s.connIdxOf cfg atNull (s.dst connIdx) = some connIdx := by
  have hfind : (List.range cfg.maxConn).find?
      ((fun idx => decide (s.btConnGetDst atNull idx = s.dst connIdx)) ∘ UInt8.ofNat)
      = some connIdx.toNat := by
    rw [List.find?_range_eq_some]
    refine ⟨?_, List.mem_range.mpr hrange, ?_⟩
    · rw [Function.comp_apply, UInt8.ofNat_toNat, btConnGetDst_of_conn hconn]
      exact decide_eq_true rfl
    · -- an index in front is another connection's, or is in use
      intro j hj
      have hlt : UInt8.ofNat j < connIdx := by
        rw [UInt8.lt_iff_toNat_lt, UInt8.toNat_ofNat_of_lt' (hj.trans connIdx.toNat_lt)]
        exact hj
      have hmem : UInt8.ofNat j ∈ cfg.connIdxs :=
        List.mem_map.mpr ⟨j, List.mem_range.mpr (hj.trans hrange), rfl⟩
      rw [Function.comp_apply, Bool.not_eq_true', decide_eq_false_iff_not]
      intro hdst
      by_cases hup : s.conn (UInt8.ofNat j) = true
      · rw [btConnGetDst_of_conn hup] at hdst
        rw [hdistinct _ hup hdst] at hlt
        exact absurd hlt (UInt8.lt_irrefl _)
      · rw [btConnGetDst, if_neg hup] at hdst
        exact hup (hown hdst.symm _ hmem hlt)
  rw [connIdxOf, ConnConfig.connIdxs, List.find?_map, hfind, Option.map_some, UInt8.ofNat_toNat]
  rfl

/-! ## What the records hold -/

/-- The worker is going to load the record of a stored tag. -/
def LoadDue (s : ConnTable) (connIdx : UInt8) : Prop :=
  s.storage.Stores (s.dst connIdx)
    ∧ (s.loadQueued = true ∧ s.loadIdx = connIdx ∨ ∃ bleAddr, s.loading = some (connIdx, bleAddr))

/-- Every connection has its own record, or is about to. -/
structure Sound (cfg : ConnConfig) (s : ConnTable) : Prop where
  range : ∀ i, s.conn i = true → i.toNat < cfg.maxConn
  distinct : ∀ i j, s.conn i = true → s.conn j = true → s.dst i = s.dst j → i = j
  discovered : ∀ i, s.discovered i = true → s.conn i = true ∧ (s.eslDevice i).bleAddr = s.dst i
  loading : ∀ args, s.loading = some args → s.conn args.1 = true → args.2 = s.dst args.1
  right : ∀ i, s.conn i = true → s.Right i ∨ s.LoadDue i

section Connected

variable {peer : BtAddrLe} {source : EslAclSource}

/-- A new connection leaves the other indexes alone. -/
lemma connected_of_ne (hi : i ≠ connIdx) :
    (s.connected connIdx peer source).conn i = s.conn i
      ∧ (s.connected connIdx peer source).dst i = s.dst i
      ∧ (s.connected connIdx peer source).discovered i = s.discovered i
      ∧ (s.connected connIdx peer source).eslDevice i = s.eslDevice i :=
  ⟨Function.update_of_ne hi _ _, Function.update_of_ne hi _ _, Function.update_of_ne hi _ _,
    Function.update_of_ne hi _ _⟩

lemma dst_connected_self : (s.connected connIdx peer source).dst connIdx = peer :=
  Function.update_self ..

lemma range_connected (hrange : ∀ i, s.conn i = true → i.toNat < cfg.maxConn)
    (hnew : connIdx.toNat < cfg.maxConn) (hi : (s.connected connIdx peer source).conn i = true) :
    i.toNat < cfg.maxConn := by
  by_cases hii : i = connIdx
  · rwa [hii]
  · rw [(connected_of_ne hii).1] at hi
    exact hrange i hi

/-- No other connection has the new one's peer. -/
lemma dst_connected_ne (hrange : ∀ i, s.conn i = true → i.toNat < cfg.maxConn)
    (hpeer : s.hasPeer cfg peer = false) (hne : i ≠ connIdx)
    (hi : (s.connected connIdx peer source).conn i = true) :
    (s.connected connIdx peer source).dst i ≠ peer := by
  obtain ⟨hconn, hdst, -, -⟩ := connected_of_ne hne
  rw [hconn] at hi
  rw [hdst]
  exact dst_ne_of_hasPeer hpeer (hrange i hi) hi

/-- Connections keep having different peers. -/
lemma distinct_connected {j : UInt8} (hrange : ∀ i, s.conn i = true → i.toNat < cfg.maxConn)
    (hdistinct : ∀ i j, s.conn i = true → s.conn j = true → s.dst i = s.dst j → i = j)
    (hpeer : s.hasPeer cfg peer = false) (hi : (s.connected connIdx peer source).conn i = true)
    (hj : (s.connected connIdx peer source).conn j = true)
    (hij : (s.connected connIdx peer source).dst i = (s.connected connIdx peer source).dst j) :
    i = j := by
  by_cases hii : i = connIdx
  · by_cases hjj : j = connIdx
    · rw [hii, hjj]
    · rw [hii, dst_connected_self] at hij
      exact absurd hij.symm (dst_connected_ne hrange hpeer hjj hj)
  · by_cases hjj : j = connIdx
    · rw [hjj, dst_connected_self] at hij
      exact absurd hij (dst_connected_ne hrange hpeer hii hi)
    · rw [(connected_of_ne hii).1] at hi
      rw [(connected_of_ne hjj).1] at hj
      rw [(connected_of_ne hii).2.1, (connected_of_ne hjj).2.1] at hij
      exact hdistinct i j hi hj hij

/-- The new connection is not discovered yet. -/
lemma of_discovered_connected (hi : (s.connected connIdx peer source).discovered i = true) :
    i ≠ connIdx ∧ s.discovered i = true := by
  have hne : i ≠ connIdx := by
    rintro rfl
    have hnew : (s.connected i peer source).discovered i = false := Function.update_self ..
    rw [hnew] at hi
    cases hi
  exact ⟨hne, (connected_of_ne hne).2.2.1.symm.trans hi⟩

lemma addrKey_connected_self :
    ((s.connected connIdx peer source).eslDevice connIdx).addrKey
      = (s.eslDevice connIdx).addrKey := by
  rw [connected, eslDevice_setDevice_self]
  rfl

/-- The new connection itself: its load is due, or there is nothing to load and the record is unset. -/
lemma right_connected_self
    (hclean : s.storage.Stores peer ∨ (s.eslDevice connIdx).addrKey = (0, .zero)) :
    (s.connected connIdx peer source).Right connIdx
      ∨ (s.connected connIdx peer source).LoadDue connIdx := by
  by_cases hstores : s.storage.Stores peer
  · refine Or.inr ⟨?_, Or.inl ⟨rfl, rfl⟩⟩
    rw [dst_connected_self]
    exact hstores
  · refine Or.inl ?_
    rw [Right, dst_connected_self, addrKey_connected_self, hclean.resolve_left hstores]
    exact (TagStorage.due_of_not_stores hstores).symm

/-- Another connection: a load that is dropped was not needed. -/
lemma right_connected_of_ne (hi : i ≠ connIdx) (hconn : s.conn i = true)
    (hright : s.Right i ∨ s.LoadDue i)
    (hwaiting : s.loadQueued = true → s.conn s.loadIdx = true → s.Right s.loadIdx) :
    (s.connected connIdx peer source).Right i ∨ (s.connected connIdx peer source).LoadDue i := by
  have hdst : (s.connected connIdx peer source).dst i = s.dst i := (connected_of_ne hi).2.1
  have hdevice : (s.connected connIdx peer source).eslDevice i = s.eslDevice i :=
    (connected_of_ne hi).2.2.2
  have hkept : s.Right i → (s.connected connIdx peer source).Right i := by
    intro hright
    rw [Right, hdevice, hdst]
    exact hright
  rcases hright with hright | ⟨hstores, ⟨hq, rfl⟩ | hload⟩
  · exact Or.inl (hkept hright)
  · exact Or.inl (hkept (hwaiting hq hconn))
  · refine Or.inr ⟨?_, Or.inr hload⟩
    rw [hdst]
    exact hstores

lemma sound_connected (h : Sound cfg s) (hrange : connIdx.toNat < cfg.maxConn)
    (hpeer : s.hasPeer cfg peer = false) (hG : s.LoadsInTime cfg atNull (.connected connIdx peer source)) :
    Sound cfg (s.connected connIdx peer source) := by
  obtain ⟨hwaiting, hrunning, hclean⟩ := hG
  refine ⟨fun i => range_connected h.range hrange, fun i j => distinct_connected h.range h.distinct hpeer,
    ?_, ?_, ?_⟩
  · intro i hi
    obtain ⟨hii, hold⟩ := of_discovered_connected hi
    obtain ⟨hconn, hdst, -, hdevice⟩ := connected_of_ne hii
    rw [hconn, hdst, hdevice]
    exact h.discovered i hold
  · intro args hargs hc
    obtain ⟨hconn, hdst, -, -⟩ := connected_of_ne (hrunning args hargs)
    rw [hconn] at hc
    rw [hdst]
    exact h.loading args hargs hc
  · intro i hi
    by_cases hii : i = connIdx
    · subst hii
      exact right_connected_self hclean
    · rw [(connected_of_ne hii).1] at hi
      exact right_connected_of_ne hii hi (h.right i hi) hwaiting

end Connected

/-- A connection that is lost is no longer among those that are up. -/
lemma of_conn_disconnected (hi : (s.disconnected connIdx).conn i = true) :
    i ≠ connIdx ∧ s.conn i = true := by
  have hne : i ≠ connIdx := by
    rintro rfl
    have hgone : (s.disconnected i).conn i = false := Function.update_self ..
    rw [hgone] at hi
    cases hi
  exact ⟨hne, (Function.update_of_ne hne _ _).symm.trans hi⟩

lemma of_discovered_disconnected (hi : (s.disconnected connIdx).discovered i = true) :
    i ≠ connIdx ∧ s.discovered i = true := by
  have hne : i ≠ connIdx := by
    rintro rfl
    have hgone : (s.disconnected i).discovered i = false := Function.update_self ..
    rw [hgone] at hi
    cases hi
  exact ⟨hne, (Function.update_of_ne hne _ _).symm.trans hi⟩

/-- A lost connection leaves the other indexes alone. -/
lemma disconnected_of_ne (hi : i ≠ connIdx) :
    (s.disconnected connIdx).conn i = s.conn i
      ∧ (s.disconnected connIdx).discovered i = s.discovered i
      ∧ (s.disconnected connIdx).eslDevice i = s.eslDevice i :=
  ⟨Function.update_of_ne hi _ _, Function.update_of_ne hi _ _, Function.update_of_ne hi _ _⟩

lemma sound_disconnected (h : Sound cfg s) : Sound cfg (s.disconnected connIdx) := by
  refine ⟨fun i hi => h.range i (of_conn_disconnected hi).2, ?_, ?_, ?_, ?_⟩
  · intro i j hi hj hij
    exact h.distinct i j (of_conn_disconnected hi).2 (of_conn_disconnected hj).2 hij
  · intro i hi
    obtain ⟨hii, hold⟩ := of_discovered_disconnected hi
    obtain ⟨hconn, -, hdevice⟩ := disconnected_of_ne (s := s) hii
    rw [hconn, hdevice]
    exact h.discovered i hold
  · exact fun args hargs hc => h.loading args hargs (of_conn_disconnected hc).2
  · intro i hi
    obtain ⟨hii, hold⟩ := of_conn_disconnected hi
    refine (h.right i hold).imp ?_ id
    intro hright
    rw [Right, (disconnected_of_ne hii).2.2]
    exact hright

/-- Noting an address in the record of a connection that has it, or of no connection. -/
lemma Sound.setBleAddr (h : Sound cfg s) {addr : BtAddrLe}
    (haddr : s.conn connIdx = true → s.dst connIdx = addr) :
    Sound cfg (s.setDevice connIdx fun tag => { tag with bleAddr := addr }) := by
  refine ⟨h.range, h.distinct, ?_, h.loading, ?_⟩
  · intro i hi
    obtain ⟨hc, hble⟩ := h.discovered i hi
    refine ⟨hc, ?_⟩
    by_cases hii : i = connIdx
    · subst hii
      rw [eslDevice_setDevice_self]
      exact (haddr hc).symm
    · rw [eslDevice_setDevice_of_ne _ hii]
      exact hble
  · intro i hi
    refine (h.right i hi).imp ?_ id
    intro hright
    by_cases hii : i = connIdx
    · subst hii
      rw [Right, eslDevice_setDevice_self]
      exact hright
    · rw [Right, eslDevice_setDevice_of_ne _ hii]
      exact hright

lemma Sound.setDiscovered (h : Sound cfg s) {b : Bool}
    (hb : b = true → s.conn connIdx = true ∧ (s.eslDevice connIdx).bleAddr = s.dst connIdx) :
    Sound cfg { s with discovered := Function.update s.discovered connIdx b } := by
  refine ⟨h.range, h.distinct, ?_, h.loading, h.right⟩
  intro i hi
  by_cases hii : i = connIdx
  · subst hii
    have hnew : Function.update s.discovered i b i = b := Function.update_self ..
    exact hb (hnew.symm.trans hi)
  · have hold : Function.update s.discovered connIdx b i = s.discovered i :=
      Function.update_of_ne hii _ _
    exact h.discovered i (hold.symm.trans hi)

lemma sound_eslDiscoveryComplete (h : Sound cfg s) (hrange : connIdx.toNat < cfg.maxConn)
    (hG : s.LoadsInTime cfg atNull (.eslDiscovered connIdx)) :
    Sound cfg (s.eslDiscoveryComplete cfg atNull connIdx) := by
  have hidx : ∀ d, ({ s with discovered := d } : ConnTable).connIdxOf cfg atNull (s.dst connIdx)
      = s.connIdxOf cfg atNull (s.dst connIdx) := fun _ => rfl
  rw [eslDiscoveryComplete, bleAddrToConnIdx, hidx]
  by_cases hconn : s.conn connIdx = true
  · -- the connection is up, and its own record gets its address
    rw [connIdxOf_dst hrange hconn (fun j hj hdst => h.distinct j connIdx hj hconn hdst) (hG hconn)]
    refine (h.setBleAddr fun _ => rfl).setDiscovered fun _ => ⟨hconn, ?_⟩
    rw [eslDevice_setDevice_self]
    rfl
  · have hdown : Sound cfg { s with
        discovered := Function.update s.discovered connIdx (s.conn connIdx) } :=
      h.setDiscovered fun hup => absurd hup hconn
    obtain ⟨j, hfind⟩ : ∃ j, s.connIdxOf cfg atNull (s.dst connIdx) = some j :=
      exists_connIdxOf_dst hrange
    rw [hfind]
    exact hdown.setBleAddr fun hup => dst_of_connIdxOf hfind hup

lemma sound_loadBegin (h : Sound cfg s) (hidle : s.loading = none) :
    Sound cfg { s with loadQueued := false, loading := some (s.loadIdx, s.dst s.loadIdx) } := by
  refine ⟨h.range, h.distinct, h.discovered, ?_, ?_⟩
  · rintro args hargs -
    cases hargs
    rfl
  · intro i hi
    rcases h.right i hi with hright | ⟨hstores, ⟨-, hidx⟩ | ⟨_, hload⟩⟩
    · exact Or.inl hright
    · subst hidx
      exact Or.inr ⟨hstores, Or.inr ⟨_, rfl⟩⟩
    · rw [hidle] at hload
      cases hload

lemma sound_eslTagLoadWorkFn {bleAddr : BtAddrLe} (h : Sound cfg s)
    (hload : s.loading = some (connIdx, bleAddr)) :
    Sound cfg (s.eslTagLoadWorkFn connIdx bleAddr) := by
  refine ⟨h.range, h.distinct, ?_, nofun, ?_⟩
  · intro i hi
    obtain ⟨hc, hble⟩ := h.discovered i hi
    refine ⟨hc, ?_⟩
    by_cases hii : i = connIdx
    · subst hii
      rw [eslTagLoadWorkFn, eslDevice_setDevice_self, TagStorage.bleAddr_load]
      exact hble
    · rw [eslTagLoadWorkFn, eslDevice_setDevice_of_ne _ hii]
      exact hble
  · intro i hi
    by_cases hii : i = connIdx
    · subst hii
      have haddr : bleAddr = s.dst i := h.loading _ hload hi
      subst haddr
      refine Or.inl ?_
      rw [Right, eslTagLoadWorkFn, eslDevice_setDevice_self]
      by_cases hstores : s.storage.Stores (s.dst i)
      · exact TagStorage.addrKey_load hstores
      · rw [TagStorage.load_of_not_stores hstores]
        exact (h.right i hi).resolve_right fun hdue => hstores hdue.1
    · rcases h.right i hi with hright | ⟨hstores, hq | ⟨_, hload'⟩⟩
      · refine Or.inl ?_
        rw [Right, eslTagLoadWorkFn, eslDevice_setDevice_of_ne _ hii]
        exact hright
      · exact Or.inr ⟨hstores, Or.inl hq⟩
      · have hother := Option.some.inj (hload.symm.trans hload')
        exact absurd (congrArg Prod.fst hother).symm hii

lemma sound_configured {eslAddr : UInt16} {random : KeyMaterial} (h : Sound cfg s)
    (hdisc : s.discovered connIdx = true)
    (hG : s.LoadsInTime cfg atNull (.configured connIdx eslAddr random)) :
    Sound cfg (s.configured connIdx eslAddr random) := by
  obtain ⟨hconn, hble⟩ := h.discovered connIdx hdisc
  refine ⟨h.range, h.distinct, ?_, h.loading, ?_⟩
  · intro i hi
    obtain ⟨hc, hble'⟩ := h.discovered i hi
    refine ⟨hc, ?_⟩
    by_cases hii : i = connIdx
    · subst hii
      rw [configured, eslDevice_setDevice_self]
      exact hble
    · rw [configured, eslDevice_setDevice_of_ne _ hii]
      exact hble'
  · intro i hi
    by_cases hii : i = connIdx
    · subst hii
      refine Or.inl ?_
      have hsaved : (configure eslAddr random (s.eslDevice i)).bleAddr = s.dst i := hble
      rw [Right, configured, eslDevice_setDevice_self]
      exact (TagStorage.due_save_self hsaved).symm
    · have ha : (s.dst i).a ≠ (configure eslAddr random (s.eslDevice connIdx)).bleAddr.a := by
        have hother := hG i (mem_connIdxs.mpr (h.range i hi)) hi hii
        rwa [← hble] at hother
      rcases h.right i hi with hright | ⟨hstores, hload⟩
      · refine Or.inl ?_
        rw [Right, configured, eslDevice_setDevice_of_ne _ hii]
        exact hright.trans (TagStorage.due_save_of_ne ha).symm
      · exact Or.inr ⟨TagStorage.stores_save hstores, hload⟩

/-- **Every event keeps the records with their connections**, if loads are let finish and connections
come up on clean records. -/
lemma sound_step (h : Sound cfg s) {e : ConnEvent} (hG : s.LoadsInTime cfg atNull e)
    (hstep : s.step cfg atNull e = some s') : Sound cfg s' := by
  cases e with
  | connected connIdx peer source =>
      rw [step] at hstep
      split_ifs at hstep with hfree
      cases hstep
      exact sound_connected h hfree.1 hfree.2.2 hG
  | disconnected connIdx =>
      rw [step] at hstep
      split_ifs at hstep
      cases hstep
      exact sound_disconnected h
  | eslDiscovered connIdx =>
      rw [step] at hstep
      split_ifs at hstep with hrange
      cases hstep
      exact sound_eslDiscoveryComplete h hrange hG
  | loadBegin =>
      rw [step] at hstep
      split_ifs at hstep with hrun
      cases hstep
      exact sound_loadBegin h hrun.2
  | loadEnd =>
      obtain ⟨args, hload, rfl⟩ := Option.map_eq_some_iff.mp hstep
      exact sound_eslTagLoadWorkFn h hload
  | configured connIdx eslAddr random =>
      rw [step] at hstep
      split_ifs at hstep with hdisc
      cases hstep
      exact sound_configured h hdisc hG

lemma Sound.keepsOwners (h : Sound cfg s) : s.KeepsOwners := by
  intro hqueued hloading i hi
  obtain ⟨hconn, hble⟩ := h.discovered i hi
  refine ⟨hble, ?_⟩
  rcases h.right i hconn with hright | ⟨-, ⟨hq, -⟩ | ⟨_, hload⟩⟩
  · exact hright
  · exact absurd (hqueued.symm.trans hq) (by decide)
  · rw [hloading] at hload
    cases hload

/-- **Every connection keeps its own record, if the loads are in time**, whatever is stored. -/
theorem keepsOwners_of_loadsInTime (cfg : ConnConfig) (atNull : BtAddrLe) (storage : TagStorage)
    {es : List ConnEvent}
    (h : StepsMeet (step cfg atNull) (LoadsInTime cfg atNull) (init storage) es) :
    AlongRun (step cfg atNull) KeepsOwners (init storage) es := by
  refine (alongRun_of_stepsMeet (I := Sound cfg) ?_ ?_ h).imp fun s hs => hs.keepsOwners
  · exact fun s e s' hs hG hstep => sound_step hs hG hstep
  · exact ⟨nofun, nofun, nofun, nofun, nofun⟩

/-- Two tags are configured and lost, and the second one comes up at the index of the first. -/
def ownersReconnected : List ConnEvent :=
  [ .connected 0 ⟨0, Vector.replicate 6 1⟩ .fromScan, .loadBegin, .loadEnd, .eslDiscovered 0
  , .configured 0 5 .zero, .connected 1 ⟨0, Vector.replicate 6 2⟩ .fromScan, .loadBegin, .loadEnd
  , .eslDiscovered 1, .configured 1 6 .zero, .disconnected 0, .disconnected 1
  , .connected 0 ⟨0, Vector.replicate 6 2⟩ .fromPawr, .loadBegin, .loadEnd, .eslDiscovered 0 ]

/-- The records of the two tags, as they were configured, at both indexes and after the change. -/
theorem keepsOwners_reconnected :
    AlongRun (step .two ⟨0, Vector.replicate 6 1⟩) KeepsOwners (init .empty) ownersReconnected
      ∧ (run (step .two ⟨0, Vector.replicate 6 1⟩) (init .empty) (ownersReconnected.take 10)).map
          (fun s => (s.loading, (s.eslDevice 0).eslAddr, (s.eslDevice 1).eslAddr))
        = some (none, 5, 6)
      ∧ (run (step .two ⟨0, Vector.replicate 6 1⟩) (init .empty) ownersReconnected).map
          (fun s => (s.loadQueued, s.loading, s.discovered 0, (s.eslDevice 0).eslAddr))
        = some (false, none, true, 6) :=
  ⟨keepsOwners_of_loadsInTime .two _ .empty (by decide +kernel), by decide +kernel, by decide +kernel⟩

/-- A storage with one tag. -/
def oneStored : TagStorage :=
  TagStorage.empty.saveTagInStorage
    { EslChrcData.zero with bleAddr := ⟨0, Vector.replicate 6 1⟩, eslAddr := 5 }

/-- A new tag comes up at the index of the stored one: its record has the address of the other. -/
theorem keepsOwners_fails :
    ¬ ∀ (cfg : ConnConfig) (atNull : BtAddrLe) (storage : TagStorage) (es : List ConnEvent),
      AlongRun (step cfg atNull) KeepsOwners (init storage) es := by
  intro h
  have hrun := h .two ⟨0, Vector.replicate 6 0⟩ oneStored
    [ .connected 0 ⟨0, Vector.replicate 6 1⟩ .fromScan, .loadBegin, .loadEnd, .disconnected 0
    , .connected 0 ⟨0, Vector.replicate 6 2⟩ .fromScan, .loadBegin, .loadEnd, .eslDiscovered 0 ]
  have hlast := hrun.last (by rfl)
  have hright := (hlast rfl rfl 0 rfl).2
  revert hright
  rw [Right]
  decide

end ConnTable

end NrfEsl
