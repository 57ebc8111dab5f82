import NrfEsl.Ap.RspKeys
import NrfEsl.Ap.Step
import NrfEsl.Packet

/-!
# Predefined packets

`esl_dummy_ap_ad_data` puts one of 23 packets in the sync buffer of a group: the buttons of the sample,
the ping worker and `pawr set_pawr_data` call it.  It writes the commands byte by byte, and for a tag
that is to answer also the ESL ID that it expects in the slot, `expect_esl_addr`.

**Commands are TLVs.**  The function knows seven of them.  A `Tlv` carries that it is as long as its
opcode declares, so a packet is a list of them behind its group ID.

`expect_esl_addr` is kept apart from `Ap`: only a dump of the responses prints it.
-/

namespace NrfEsl

open Tiling

/-! ## Commands -/

/-- The LED control information of the packets that flash an LED. -/
def flashing : List UInt8 := [0xf0, 0x41, 0x10, 0x00, 0x00, 0x00, 0x32, 0xfa, 0x1f, 0x00]

/-- Continuously on or off: a repeat duration of 0, and the repeat type. -/
def solid (repeatType : UInt8) : List UInt8 :=
  [0xc0, 0x00, 0x00, 0x00, 0x00, 0x00, 0x00, 0x00, repeatType, 0x00]

namespace Tlv

def serviceReset (eslId : UInt8) : Tlv := ⟨[0x02, eslId], rfl⟩

def readSensorData (eslId sensorIdx : UInt8) : Tlv := ⟨[0x10, eslId, sensorIdx], rfl⟩

def displayImage (eslId displayIdx imgIdx : UInt8) : Tlv :=
  ⟨[0x20, eslId, displayIdx, imgIdx], (rfl : 4 = ecpLen 0x20)⟩

def ledFlashing (eslId ledIdx : UInt8) : Tlv := ⟨0xB0 :: eslId :: ledIdx :: flashing, rfl⟩

def ledSolid (eslId ledIdx repeatType : UInt8) : Tlv :=
  ⟨0xB0 :: eslId :: ledIdx :: solid repeatType, (rfl : 13 = ecpLen 0xB0)⟩

/-- "Vendor-specific command VS_DFU_REQ" -/
def vsDfuReq (eslId enable : UInt8) : Tlv := ⟨[0x1F, eslId, enable], rfl⟩

end Tlv

/-! ## Packets -/

/-- The commands of a packet, and the slots whose `expect_esl_addr` is filled in. -/
structure DummyPacket where
  commands : List Tlv
  expected : List (ℕ × UInt8) := []

/-- The bytes the function writes to its buffer. -/
def DummyPacket.payload (groupId : UInt8) (p : DummyPacket) : List UInt8 :=
  groupId :: flatten p.commands

section Packets

variable (cfg : ApConfig) (acfg : AddrConfig)

/-- `CONFIG_ESL_CLIENT_DEFAULT_ESL_ID + n` in a byte. -/
def dummyId (n : ℕ) : UInt8 := acfg.defaultEslId + UInt8.ofNat n

/-- One command for each tag from the default ID on, and the loop that expects their answers. -/
def forTags (n : ℕ) (cmd : UInt8 → Tlv) : DummyPacket where
  commands := (List.range n).map fun idx => cmd (dummyId acfg idx)
  expected := (List.range (min n cfg.maxResponseSlotBuffer)).map fun idx => (idx, dummyId acfg idx)

/-- "Fill first 2 slots with broadcast ping to make response slot begin with 2" -/
def behindTwoPings (cmd : UInt8 → Tlv) : DummyPacket where
  commands :=
    [.ping eslAddrBroadcast, .ping eslAddrBroadcast, cmd (dummyId acfg 3), cmd (dummyId acfg 4)]
  expected := [(2, dummyId acfg 3), (3, dummyId acfg 4)]

/-- The packet of a type; any other type is an error. -/
def dummyPacket (syncPktType : UInt8) : Option DummyPacket :=
  match syncPktType.toNat with
  | 0x00 => some { commands := [.ping eslAddrBroadcast] }
  | 0x01 => some { commands := [.ledFlashing eslAddrBroadcast 0] }
  | 0x02 => some { commands := [.ledFlashing eslAddrBroadcast 1] }
  | 0x03 => some { commands := [.ledSolid eslAddrBroadcast 0 1] }
  | 0x04 => some { commands := [.ledSolid eslAddrBroadcast 0 0] }
  -- "type 5 led 1 broadcast on" writes LED index 0
  | 0x05 => some { commands := [.ledSolid eslAddrBroadcast 0 1] }
  | 0x06 => some { commands := [.ledSolid eslAddrBroadcast 1 0] }
  | 0x07 => some { commands := [.displayImage eslAddrBroadcast 0 0] }
  | 0x08 => some { commands := [.displayImage eslAddrBroadcast 0 1] }
  | 0x09 => some { commands := [.readSensorData eslAddrBroadcast 0] }
  | 0x0A => some (forTags cfg acfg 8 .ping)
  | 0x0B => some (forTags cfg acfg 3 (.ledFlashing · 0))
  | 0x0C => some (behindTwoPings acfg (.ledFlashing · 0))
  | 0x0D => some (forTags cfg acfg 3 (.ledFlashing · 1))
  | 0x0E => some (behindTwoPings acfg (.ledFlashing · 1))
  | 0x0F => some (forTags cfg acfg 8 (.readSensorData · 0))
  | 0x10 => some { commands := List.replicate 17 (.serviceReset (dummyId acfg 0)) }
  -- the twelfth of 23 pings is for the tag with the default ID
  | 0x11 => some { commands := List.replicate 11 (.ping (dummyId acfg 1)) ++ .ping (dummyId acfg 0)
      :: List.replicate 11 (.ping (dummyId acfg 1)) }
  | 0x12 => some (forTags cfg acfg 11 (.displayImage · 0 0))
  | 0x13 => some (forTags cfg acfg 11 (.displayImage · 0 1))
  | 0x14 => some (forTags cfg acfg 11 (.displayImage · 0 2))
  | 0x15 => some (forTags cfg acfg 11 (.vsDfuReq · 1))
  | 0x16 => some (forTags cfg acfg 11 (.vsDfuReq · 0))
  | _ => none

/-! ## esl_dummy_ap_ad_data -/

/-- `expect_esl_addr` by group and slot. -/
abbrev ExpectEslAddr := ℕ → ℕ → UInt8

/-- The assignments to `expect_esl_addr`. -/
def fillExpected (groupId : ℕ) : List (ℕ × UInt8) → ExpectEslAddr → Traced ExpectEslAddr
  | [], expect => pure expect
  | (slot, eslId) :: rest, expect => do
      Traced.access (.index cfg.maxGroup groupId)
      Traced.access (.index cfg.maxResponseSlotBuffer slot)
      fillExpected groupId rest
        (Function.update expect groupId (Function.update (expect groupId) slot eslId))

/-- `esl_dummy_ap_ad_data` -/
def eslDummyApAdData (ead : Ead) (rnd : Randomness) (syncPktType groupId : UInt8) (s : Ap)
    (expect : ExpectEslAddr) : Traced (Ap × ExpectEslAddr) :=
  match dummyPacket cfg acfg syncPktType with
  | none => pure (s, expect)
  | some p => do
      Traced.access (.write eslEncryptedDataMaxLen 0 (p.payload groupId).length)
      let expect ← fillExpected cfg groupId.toNat p.expected expect
      Traced.access (.index cfg.maxGroup groupId.toNat)
      let b := s.syncBuf groupId.toNat
      let outLen := (eslComposeAdData ead rnd b.data (p.payload groupId) s.eslApKey).2
      let s := s.updateGroup groupId.toNat fun b =>
        { b.compose ead rnd s.eslApKey (p.payload groupId) with
          dataLen := outLen, status := .readyToPush }
      pure (s, expect)

end Packets

end NrfEsl
