import NrfEsl.Ap.Configure

/-!
# Connections and their records on the access point

A connection has an index, and `gatt[]` has a record of its tag at that index.  `connected` puts the
peer into the one `esl_tag_load_work`, whose worker loads the record from the storage; ESL discovery
notes the Bluetooth address in the record; `disconnected` clears a part of it.

`esl_tag_load_work.ble_addr` points to the address in the connection object of index `conn_idx`, so it
is that object's address when the worker starts.  The stack has at most one connection with a peer.

`ble_addr_to_conn_idx` reads the address of every index, also where `conn[]` is NULL.  What it finds
there is the parameter `atNull`.

**Ghost.**  `discovered` is not in the source: which connections have completed ESL discovery.
-/

namespace NrfEsl

/-- The connection indexes, in order. -/
def ConnConfig.connIdxs (cfg : ConnConfig) : List UInt8 := (List.range cfg.maxConn).map UInt8.ofNat

structure ConnTable where
  /-- `check_ble_connection(conn[])` -/
  conn : UInt8 → Bool
  /-- `bt_conn_get_dst`, which stays in the connection object when the connection is lost. -/
  dst : UInt8 → BtAddrLe
  /-- `gatt[].esl_device` -/
  eslDevice : UInt8 → EslChrcData
  /-- `esl_tag_load_work.conn_idx` -/
  loadIdx : UInt8
  /-- `esl_tag_load_work.work` is in a queue. -/
  loadQueued : Bool
  /-- The worker's arguments while it runs. -/
  loading : Option (UInt8 × BtAddrLe)
  storage : TagStorage
  discovered : UInt8 → Bool

inductive ConnEvent
  /-- `esl_c_connect` and, when it succeeds, `connected` -/
  | connected (connIdx : UInt8) (peer : BtAddrLe) (source : EslAclSource)
  | disconnected (connIdx : UInt8)
  /-- `esl_discovery_complete` -/
  | eslDiscovered (connIdx : UInt8)
  /-- The load worker is taken from its queue. -/
  | loadBegin
  | loadEnd
  /-- `esl_ap_config_work_fn`, as far as the record and the storage go. -/
  | configured (connIdx : UInt8) (eslAddr : UInt16) (random : KeyMaterial)
  deriving DecidableEq, Repr

namespace ConnTable

/-- After start-up, with whatever the storage holds. -/
def init (storage : TagStorage) : ConnTable where
  conn := fun _ => false
  dst := fun _ => ⟨0, Vector.replicate 6 0⟩
  eslDevice := fun _ => .zero
  loadIdx := 0
  loadQueued := false
  loading := none
  storage := storage
  discovered := fun _ => false

def setDevice (connIdx : UInt8) (f : EslChrcData → EslChrcData) (s : ConnTable) : ConnTable :=
  { s with eslDevice := Function.update s.eslDevice connIdx (f (s.eslDevice connIdx)) }

/-- `esl_c_connect` and `connected` -/
def connected (connIdx : UInt8) (peer : BtAddrLe) (source : EslAclSource) (s : ConnTable) :
    ConnTable :=
  { s with
    conn := Function.update s.conn connIdx true
    dst := Function.update s.dst connIdx peer
    discovered := Function.update s.discovered connIdx false
    loadIdx := connIdx
    loadQueued := true }.setDevice connIdx fun tag => { tag with connectFrom := source }

/-- `disconnected` -/
def disconnected (connIdx : UInt8) (s : ConnTable) : ConnTable :=
  { s with
    conn := Function.update s.conn connIdx false
    discovered := Function.update s.discovered connIdx false }.setDevice connIdx
      EslChrcData.disconnected

section ByAddress

variable (cfg : ConnConfig) (atNull : BtAddrLe)

/-- A connection with the peer is up. -/
def hasPeer (peer : BtAddrLe) (s : ConnTable) : Bool :=
  cfg.connIdxs.any fun idx => s.conn idx && decide (s.dst idx = peer)

/-- `esl_c_get_free_conn_idx` -/
def eslCGetFreeConnIdx (s : ConnTable) : Option UInt8 := cfg.connIdxs.find? fun idx => !s.conn idx

/-- `bt_conn_get_dst(conn[idx])` -/
def btConnGetDst (idx : UInt8) (s : ConnTable) : BtAddrLe :=
  if s.conn idx = true then s.dst idx else atNull

/-- The index that `ble_addr_to_conn_idx` returns.  For the address of a connection object there always
is one: the connection is up and has it, or its index is free. -/
def connIdxOf (addr : BtAddrLe) (s : ConnTable) : Option UInt8 :=
  (cfg.connIdxs.find? fun idx => decide (s.btConnGetDst atNull idx = addr)).or
    (s.eslCGetFreeConnIdx cfg)

/-- `ble_addr_to_conn_idx`, which copies the address into the record it finds. -/
def bleAddrToConnIdx (addr : BtAddrLe) (s : ConnTable) : ConnTable :=
  match s.connIdxOf cfg atNull addr with
  | none => s
  | some idx => s.setDevice idx fun tag => { tag with bleAddr := addr }

/-- `esl_discovery_complete`, also for a connection that has just been lost. -/
def eslDiscoveryComplete (connIdx : UInt8) (s : ConnTable) : ConnTable :=
  { s with
    discovered := Function.update s.discovered connIdx (s.conn connIdx) }.bleAddrToConnIdx cfg atNull
      (s.dst connIdx)

end ByAddress

/-- `esl_tag_load_work_fn`, from its arguments. -/
def eslTagLoadWorkFn (connIdx : UInt8) (bleAddr : BtAddrLe) (s : ConnTable) : ConnTable :=
  { s with loading := none }.setDevice connIdx (s.storage.loadTagInStorage bleAddr)

/-- What the configuration worker makes of a record. -/
def configure (eslAddr : UInt16) (random : KeyMaterial) (tag : EslChrcData) : EslChrcData :=
  { tag with
    eslAddr := eslAddr
    eslRspKey := Configuration.drawnRspKey random tag
    pastNeeded := true }

/-- The configuration worker changes the record and saves it. -/
def configured (connIdx : UInt8) (eslAddr : UInt16) (random : KeyMaterial) (s : ConnTable) :
    ConnTable :=
  { s with
    storage := s.storage.saveTagInStorage (configure eslAddr random (s.eslDevice connIdx))
    }.setDevice connIdx (configure eslAddr random)

/-- One event. -/
def step (cfg : ConnConfig) (atNull : BtAddrLe) (s : ConnTable) : ConnEvent → Option ConnTable
  | .connected connIdx peer source =>
      if connIdx.toNat < cfg.maxConn ∧ s.conn connIdx = false ∧ s.hasPeer cfg peer = false then
        some (s.connected connIdx peer source)
      else none
  | .disconnected connIdx =>
      if s.conn connIdx = true then some (s.disconnected connIdx) else none
  | .eslDiscovered connIdx =>
      if connIdx.toNat < cfg.maxConn then some (s.eslDiscoveryComplete cfg atNull connIdx) else none
  | .loadBegin =>
      if s.loadQueued = true ∧ s.loading = none then
        some { s with loadQueued := false, loading := some (s.loadIdx, s.dst s.loadIdx) }
      else none
  | .loadEnd => s.loading.map fun args => s.eslTagLoadWorkFn args.1 args.2
  | .configured connIdx eslAddr random =>
      if s.discovered connIdx = true then some (s.configured connIdx eslAddr random) else none

end ConnTable

end NrfEsl
