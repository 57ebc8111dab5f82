import NrfEsl.Ap.TagStorage
import NrfEsl.Lib.FileSystem

/-!
# The list of scanned tags on the access point

A tag that advertises is appended to a linked list, and `scanned_count` counts the nodes.  One look-up,
`esl_c_get_tag_addr`, serves two searches: by index, with NULL for the address, and by address, with -1
for the index.

A node is given by its position.  `bt_addr_le_cmp` with the NULL address reads what lies at address 0;
the model takes that as a parameter, `atNull`, and notes that it happened.
-/

namespace NrfEsl

/-- `struct tag_addr_node` -/
structure TagAddrNode where
  addr : BtAddrLe
  connected : Bool
  deriving DecidableEq, Repr

/-- The result of `esl_c_get_tag_addr`. -/
structure TagLookUp where
  node : Option ℕ
  /-- An address was compared with the NULL address. -/
  comparedNull : Bool
  deriving DecidableEq, Repr

structure ScannedTags where
  /-- `scanned_tag_addr_list` -/
  nodes : List TagAddrNode
  scannedCount : UInt16
  deriving DecidableEq, Repr

inductive ScanEvent
  /-- `scan_filter_match`; `allocated` is the answer of `k_malloc`. -/
  | add (addr : BtAddrLe) (allocated : Bool)
  /-- `disconnected` -/
  | removeWithBleAddr (peerAddr : BtAddrLe)
  | remove (tagIdx : ℤ)
  /-- `esl_c_get_tag_addr(tag_idx, NULL)` -/
  | lookUp (tagIdx : ℤ)
  /-- `esl_c_get_tag_addr(-1, peer_addr)` -/
  | lookUpAddr (peerAddr : BtAddrLe)
  /-- `connected` -/
  | connected (peerAddr : BtAddrLe)
  deriving DecidableEq, Repr

/-- `-ENOBUFS` -/
def enobufs : ℤ := -105

namespace ScannedTags

/-- After `bt_esl_client_init`. -/
def init : ScannedTags := ⟨[], 0⟩

/-- `esl_c_scanned_tag_add` -/
def eslCScannedTagAdd (addr : BtAddrLe) (allocated : Bool) (s : ScannedTags) : ℤ × ScannedTags :=
  if s.nodes.any fun cur => decide (addr = cur.addr) then (0, s)
  else if allocated = false then (enobufs, s)
  else (1, { nodes := s.nodes ++ [⟨addr, false⟩], scannedCount := s.scannedCount + 1 })

section LookUp

variable (atNull : BtAddrLe)

/-- The loop of `esl_c_get_tag_addr`, from the node at `idx`. -/
def search (tagIdx : ℤ) (peerAddr : Option BtAddrLe) : List TagAddrNode → ℕ → TagLookUp
  | [], _ => ⟨none, false⟩
  | cur :: next, idx =>
      if (idx : ℤ) = tagIdx then ⟨some idx, false⟩
      else if peerAddr.getD atNull = cur.addr then ⟨some idx, peerAddr.isNone⟩
      else
        let rest := search tagIdx peerAddr next (idx + 1)
        { rest with comparedNull := peerAddr.isNone || rest.comparedNull }

/-- `esl_c_get_tag_addr` -/
def eslCGetTagAddr (tagIdx : ℤ) (peerAddr : Option BtAddrLe) (s : ScannedTags) : TagLookUp :=
  if tagIdx > s.scannedCount.toNat then ⟨none, false⟩
  else search atNull tagIdx peerAddr s.nodes 0

/-- `esl_c_scanned_tag_remove_with_ble_addr` -/
def eslCScannedTagRemoveWithBleAddr (peerAddr : BtAddrLe) (s : ScannedTags) : ℤ × ScannedTags :=
  match (s.eslCGetTagAddr atNull (-1) (some peerAddr)).node with
  | none => (FileSystem.enoent, s)
  | some idx => (0, { s with nodes := s.nodes.eraseIdx idx })

/-- `esl_c_scanned_tag_remove`, which returns whether something was removed. -/
def eslCScannedTagRemove (tagIdx : ℤ) (s : ScannedTags) : Bool × ScannedTags :=
  if tagIdx = -1 then (true, { nodes := [], scannedCount := 0 })
  else
    match (s.eslCGetTagAddr atNull tagIdx none).node with
    | none => (false, s)
    | some idx =>
        (true, { nodes := s.nodes.eraseIdx idx, scannedCount := s.scannedCount - 1 })

/-- What `connected` does to the node of the peer. -/
def setConnected (peerAddr : BtAddrLe) (s : ScannedTags) : ScannedTags :=
  match (s.eslCGetTagAddr atNull (-1) (some peerAddr)).node with
  | none => s
  | some idx => { s with nodes := s.nodes.modify idx fun tag => { tag with connected := true } }

/-- One event. -/
def step (s : ScannedTags) : ScanEvent → Option ScannedTags
  | .add addr allocated => some (s.eslCScannedTagAdd addr allocated).2
  | .removeWithBleAddr peerAddr => some (s.eslCScannedTagRemoveWithBleAddr atNull peerAddr).2
  | .remove tagIdx => some (s.eslCScannedTagRemove atNull tagIdx).2
  | .lookUp _ | .lookUpAddr _ => some s
  | .connected peerAddr => some (s.setConnected atNull peerAddr)

end LookUp

end ScannedTags

end NrfEsl
