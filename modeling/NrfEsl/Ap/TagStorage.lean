import NrfEsl.Common
import NrfEsl.Lib.KeyValueStore

/-!
# The access point's tag database

`esl_client_tag_storage.c` keeps each tag in two files: one in a directory of Bluetooth addresses,
with the ESL address and the response key, and one in a directory of ESL addresses, with the
Bluetooth address, the response key and the product ID.  A directory is a finite store from file
names to contents; a file name holds the six bytes of a Bluetooth address without its type, or the
four digits of an ESL address.

File operations on files that exist succeed.  `fs_open` does not truncate, but every file of a
directory has the same length, so a second save replaces the first.  `fs_readdir` lists a directory
in an order of its own, an `Enumeration`.
-/

namespace NrfEsl

open KeyValueStore

/-- `bt_addr_t` -/
abbrev BtAddr := Vector UInt8 6

/-- `bt_addr_le_t` -/
structure BtAddrLe where
  type : UInt8
  a : BtAddr
  deriving DecidableEq, Repr

/-- What the storage uses of `struct bt_esl_chrc_data`. -/
structure EslChrcData where
  bleAddr : BtAddrLe
  eslAddr : UInt16
  eslRspKey : KeyMaterial
  pnpVid : UInt16
  pnpPid : UInt16
  connectFrom : EslAclSource
  pastNeeded : Bool
  deriving DecidableEq, Repr

/-- A record of `gatt` that has never been used. -/
def EslChrcData.zero : EslChrcData where
  bleAddr := ⟨0, Vector.replicate 6 0⟩
  eslAddr := 0
  eslRspKey := .zero
  pnpVid := 0
  pnpPid := 0
  connectFrom := .notConnected
  pastNeeded := false

/-- What `disconnected` clears in the record of a connection. -/
def EslChrcData.disconnected (tag : EslChrcData) : EslChrcData :=
  { tag with
    eslRspKey := .zero
    pastNeeded := false
    connectFrom := .notConnected }

/-- A file under `TAG_BLE_ADDR_ROOT`. -/
structure BleFile where
  eslAddr : UInt16
  rspKey : KeyMaterial
  type : UInt8
  deriving DecidableEq, Repr

/-- A file under `TAG_ESL_ADDR_ROOT`. -/
structure EslFile where
  bleAddr : BtAddrLe
  rspKey : KeyMaterial
  pnpVid : UInt16
  pnpPid : UInt16
  deriving DecidableEq, Repr

/-- The two directories. -/
structure TagStorage where
  ble : KeyValueStore BtAddr BleFile
  esl : KeyValueStore UInt16 EslFile

namespace TagStorage

def empty : TagStorage := ⟨∅, ∅⟩

/-- `save_tag_in_storage` -/
def saveTagInStorage (tag : EslChrcData) (s : TagStorage) : TagStorage where
  ble := s.ble.insert tag.bleAddr.a
    { eslAddr := tag.eslAddr, rspKey := tag.eslRspKey, type := tag.bleAddr.type }
  esl := s.esl.insert tag.eslAddr
    { bleAddr := tag.bleAddr, rspKey := tag.eslRspKey, pnpVid := tag.pnpVid, pnpPid := tag.pnpPid }

/-- `load_tag_in_storage`; without a file the tag stays as it is. -/
def loadTagInStorage (bleAddr : BtAddrLe) (tag : EslChrcData) (s : TagStorage) : EslChrcData :=
  match s.ble.lookup bleAddr.a with
  | none => tag
  | some file =>
      { tag with
        eslAddr := file.eslAddr
        eslRspKey := file.rspKey
        pastNeeded := if tag.connectFrom = .fromScan then true else tag.pastNeeded }

/-- `find_tag_in_storage_with_esl_addr` -/
def findTagInStorageWithEslAddr (eslAddr : UInt16) (s : TagStorage) : Option BtAddrLe :=
  (s.esl.lookup eslAddr).map (·.bleAddr)

/-- `find_tag_in_storage_with_ble_addr` -/
def findTagInStorageWithBleAddr (bleAddr : BtAddrLe) (s : TagStorage) : Option UInt16 :=
  (s.ble.lookup bleAddr.a).map (·.eslAddr)

/-- The two `fs_unlink` of `remove_tag_in_storage`. -/
def unlink (bleAddr : BtAddrLe) (eslAddr : UInt16) (s : TagStorage) : TagStorage where
  ble := s.ble.erase bleAddr.a
  esl := s.esl.erase eslAddr

/-- The ESL address whose file `remove_tag_in_storage` unlinks when it is given a peer address. -/
def removedEslAddr (eslAddr : UInt16) (peerAddr : BtAddrLe) (s : TagStorage) : UInt16 :=
  if eslAddr = 0xFFFF then (s.findTagInStorageWithBleAddr peerAddr).getD eslAddr else eslAddr

/-- `remove_tag_in_storage` -/
def removeTagInStorage (eslAddr : UInt16) (peerAddr : Option BtAddrLe) (s : TagStorage) :
    TagStorage :=
  match peerAddr with
  | none =>
      match s.findTagInStorageWithEslAddr eslAddr with
      | none => s
      | some bleAddr => s.unlink bleAddr eslAddr
  | some peerAddr => s.unlink peerAddr (s.removedEslAddr eslAddr peerAddr)

/-- `remove_all_tags_in_storage`: unlink what `fs_readdir` lists. -/
def removeAllTagsInStorage (B : Enumeration BtAddr BleFile) (E : Enumeration UInt16 EslFile)
    (s : TagStorage) : TagStorage where
  ble := B.load (fun dir name _ => dir.erase name) s.ble s.ble
  esl := E.load (fun dir name _ => dir.erase name) s.esl s.esl

end TagStorage

end NrfEsl
