import NrfEsl.WrittenResponse

/-!
# Responses, from the tag to the access point

What a response says is an `EcpRsp`: `EslTag.reports` is what the tag means by it, `ecpRspHandler` what
the access point takes it for.

**Recognition.**  The access point looks for the four fixed response codes, then for a bit of
`OP_SENSOR_VALUE_STATE_MASK` (0x0E), then for one of `OP_VENDOR_SPECIFIC_STATE_MASK` (0x0F).  A
vendor-specific code has all four bits of its low nibble set, so the first test takes it:
`ecpRspHandler_of_vendorNibble`.  And for what is left to the second test, the last two bytes are
dropped.

* `decodesAs_iff` — a response is read back as what the tag said, unless it is vendor-specific or a
  sensor value of more than 15 bytes.
-/

namespace NrfEsl

/-- What a response says. -/
inductive EcpRsp
  | err (errorCode : UInt8)
  | led (ledIdx : UInt8)
  | basicState (state : UInt16)
  | display (displayIdx imgIdx : UInt8)
  | sensor (sensorIdx : UInt8) (data : List UInt8)
  | vendor (bytes : List UInt8)
  deriving DecidableEq, Repr

/-! ## The access point -/

/-- `OP_SENSOR_VALUE_STATE_MASK` -/
def sensorValueStateMask : UInt8 := 0x0E

/-- `dump_sensor_data`: the number of bytes comes from the opcode; `len` is only compared with it. -/
def dumpSensorData (raw : Mem) : EcpRsp :=
  .sensor (raw 1) (raw.read 2 ((raw 0 &&& 0xf0) >>> 4).toNat)

/-- `ecp_rsp_handler`: what it prints.  `print_hex` takes a 32-bit length. -/
def ecpRspHandler (command : Mem) (len : ℕ) : EcpRsp :=
  if command 0 = EslRespCode.err.toByte then .err (command 1)
  else if command 0 = EslRespCode.ledState.toByte then .led (command 1)
  else if command 0 = EslRespCode.basicState.toByte then .basicState (sysGetLe16 command 1)
  else if command 0 = EslRespCode.displayState.toByte then .display (command 1) (command 2)
  else if command 0 &&& sensorValueStateMask ≠ 0 then dumpSensorData command
  else if command 0 &&& vendorSpecificStateMask ≠ 0 then
    .vendor (command.read 0 ((2 ^ 32 + len - 2) % 2 ^ 32))
  else .err (command 1)

/-- **A vendor-specific code is taken for a sensor value.** -/
lemma ecpRspHandler_of_vendorNibble {command : Mem}
    (h : command 0 &&& vendorSpecificStateMask = vendorSpecificStateMask) (len : ℕ) :
    ecpRspHandler command len = dumpSensorData command := by
  have hcodes : ∀ op : UInt8, op &&& vendorSpecificStateMask = vendorSpecificStateMask →
      op ≠ EslRespCode.err.toByte ∧ op ≠ EslRespCode.ledState.toByte
        ∧ op ≠ EslRespCode.basicState.toByte ∧ op ≠ EslRespCode.displayState.toByte
        ∧ op &&& sensorValueStateMask ≠ 0 :=
    fun op => forall_uint8 (P := fun op => op &&& vendorSpecificStateMask = vendorSpecificStateMask →
      op ≠ EslRespCode.err.toByte ∧ op ≠ EslRespCode.ledState.toByte
        ∧ op ≠ EslRespCode.basicState.toByte ∧ op ≠ EslRespCode.displayState.toByte
        ∧ op &&& sensorValueStateMask ≠ 0) (by decide +kernel) op
  obtain ⟨h₀, h₁, h₂, h₃, hmask⟩ := hcodes _ h
  rw [ecpRspHandler, if_neg h₀, if_neg h₁, if_neg h₂, if_neg h₃, if_pos hmask]

/-- What is taken for a vendor-specific response is not all of it. -/
lemma ecpRspHandler_ne_vendor {command : Mem} {bytes : List UInt8} (hlen : bytes.length < 2 ^ 32) :
    ecpRspHandler command bytes.length ≠ .vendor bytes := by
  rw [ecpRspHandler]
  split_ifs
  · rintro ⟨⟩
  · rintro ⟨⟩
  · rintro ⟨⟩
  · rintro ⟨⟩
  · rintro ⟨⟩
  · intro h
    have hread := congrArg List.length (EcpRsp.vendor.inj h)
    rw [Mem.length_read] at hread
    omega
  · rintro ⟨⟩

/-! ## The tag -/

namespace EslTag

variable (cfg : Config) (env : HandlerEnv) (t : EslTag)

/-- What the tag means by the response that it builds. -/
def reports : EcpRsp :=
  let r := t.ecp.resp
  match r.respOp with
  | .err => .err r.errorCode.toByte
  | .ledState => .led r.elemIdx
  | .basicState => .basicState t.basicState.toUInt16
  | .displayState => .display r.elemIdx r.imgIdx
  | .sensorValueStateMask =>
      if cfg.hasSensorControl then
        match env.sensor with
        | .busy => .err EslRspErrCode.retry.toByte
        | .reading len data => .sensor r.elemIdx (data.read 0 len.toNat)
      else .sensor r.elemIdx []
  | .vendorSpecificStateMask => .vendor (t.responseBytes cfg env)

/-- The access point reads the response as what the tag said, whatever lies behind it. -/
def DecodesAs : Prop :=
  ∀ beyond, ecpRspHandler (Mem.ofBytes (t.responseBytes cfg env) beyond)
    (t.responseBytes cfg env).length = t.reports cfg env

/-- The response is not vendor-specific, and a sensor value has at most 15 bytes.  Without a sensor
callback the byte for the index is what the stack holds. -/
def Decodable : Prop :=
  match t.ecp.resp.respOp with
  | .sensorValueStateMask =>
      if cfg.hasSensorControl then
        match env.sensor with
        | .busy => True
        | .reading len _ => len.toNat ≤ 15
      else env.stack 1 = t.ecp.resp.elemIdx
  | .vendorSpecificStateMask => False
  | _ => True

variable {cfg env t}

/-- The length of a vendor-specific response fits in a byte. -/
lemma length_responseBytes_vendor (hop : t.ecp.resp.respOp = .vendorSpecificStateMask) :
    (t.responseBytes cfg env).length < 2 ^ 32 := by
  have hlen := env.vendorLen.toNat_lt
  have hecp := ecpLen_le EslRespCode.vendorSpecificStateMask.toByte
  simp only [responseBytes, hop]
  split <;> rw [Mem.length_read] <;> omega

/-! ## Sensor values -/

/-- The opcode of a sensor value of `len` bytes is none of the fixed codes, passes the sensor test, and
declares the low nibble of the length. -/
lemma sensorValue_opcode (len : UInt8) :
    let op := (len &&& 0x0f) <<< 4 ||| EslRespCode.sensorValueStateMask.toByte
    op ≠ EslRespCode.err.toByte ∧ op ≠ EslRespCode.ledState.toByte
      ∧ op ≠ EslRespCode.basicState.toByte ∧ op ≠ EslRespCode.displayState.toByte
      ∧ op &&& sensorValueStateMask ≠ 0 ∧ ((op &&& 0xf0) >>> 4).toNat = len.toNat % 16 :=
  forall_uint8 (P := fun len =>
    let op := (len &&& 0x0f) <<< 4 ||| EslRespCode.sensorValueStateMask.toByte
    op ≠ EslRespCode.err.toByte ∧ op ≠ EslRespCode.ledState.toByte
      ∧ op ≠ EslRespCode.basicState.toByte ∧ op ≠ EslRespCode.displayState.toByte
      ∧ op &&& sensorValueStateMask ≠ 0 ∧ ((op &&& 0xf0) >>> 4).toNat = len.toNat % 16)
    (by decide +kernel) len

/-- A sensor value as the access point reads it: as many bytes as the low nibble of the length says. -/
lemma ecpRspHandler_sensorValue (len idx : UInt8) (data beyond : Mem) (n : ℕ) :
    ecpRspHandler (Mem.ofBytes (((len &&& 0x0f) <<< 4 ||| EslRespCode.sensorValueStateMask.toByte)
        :: idx :: data.read 0 len.toNat) beyond) n
      = .sensor idx (data.read 0 (len.toNat % 16)) := by
  set op := (len &&& 0x0f) <<< 4 ||| EslRespCode.sensorValueStateMask.toByte
  set bytes := op :: idx :: data.read 0 len.toNat
  have hop : Mem.ofBytes bytes beyond 0 = op := rfl
  obtain ⟨h₀, h₁, h₂, h₃, hmask, hnibble⟩ := sensorValue_opcode len
  have hdata : (Mem.ofBytes bytes beyond).read 2 (len.toNat % 16) = data.read 0 (len.toNat % 16) := by
    refine List.map_congr_left fun i hi => ?_
    have hi' := List.mem_range.mp hi
    have hlt : i < len.toNat := lt_of_lt_of_le hi' (Nat.mod_le _ _)
    have hbehind := Mem.ofBytes_append_right [op, idx] (data.read 0 len.toNat) beyond i
    have hread : Mem.ofBytes (data.read 0 len.toNat) beyond i = data i := Mem.ofBytes_read hlt
    rw [Nat.zero_add, ← hread, ← hbehind]
    rfl
  rw [ecpRspHandler, hop, if_neg h₀, if_neg h₁, if_neg h₂, if_neg h₃, if_pos hmask, dumpSensorData,
    hop, hnibble, hdata]
  rfl

/-- A sensor value comes back when its length fits in the nibble. -/
lemma decodesAs_reading_iff (hop : t.ecp.resp.respOp = .sensorValueStateMask)
    (hcb : cfg.hasSensorControl = true) {len : UInt8} {data : Mem}
    (henv : env.sensor = .reading len data) : t.DecodesAs cfg env ↔ len.toNat ≤ 15 := by
  have hlt := len.toNat_lt
  simp only [DecodesAs, reports, responseBytes, hop, hcb, if_true, henv, ecpRspHandler_sensorValue,
    forall_const]
  constructor
  · intro h
    have hread := congrArg List.length (EcpRsp.sensor.inj h).2
    rw [Mem.length_read, Mem.length_read] at hread
    omega
  · intro h
    rw [Nat.mod_eq_of_lt (by omega)]

/-- Without a callback the index is the byte behind the opcode. -/
lemma decodesAs_noCallback_iff (hop : t.ecp.resp.respOp = .sensorValueStateMask)
    (hcb : cfg.hasSensorControl = false) :
    t.DecodesAs cfg env ↔ env.stack 1 = t.ecp.resp.elemIdx := by
  have hbytes : t.responseBytes cfg env
      = (((0 : UInt8) &&& 0x0f) <<< 4 ||| EslRespCode.sensorValueStateMask.toByte)
        :: env.stack 1 :: env.stack.read 0 (0 : UInt8).toNat := by
    simp only [responseBytes, hop, hcb, Bool.false_eq_true, if_false]
    rfl
  rw [DecodesAs, hbytes]
  simp only [ecpRspHandler_sensorValue, reports, hop, hcb, Bool.false_eq_true, if_false,
    forall_const]
  constructor
  · intro h
    exact (EcpRsp.sensor.inj h).1
  · intro h
    rw [h]
    rfl

end EslTag

/-- **A response is read back as what the tag said** — the kind and every field — exactly when it is
not vendor-specific and no sensor value of more than 15 bytes; a sensor value of a build without the
callback is, when the stack happens to hold the index. -/
theorem decodesAs_iff (cfg : Config) (env : HandlerEnv) (t : EslTag) :
    t.DecodesAs cfg env ↔ t.Decodable cfg env := by
  cases hop : t.ecp.resp.respOp with
  | err | ledState | displayState =>
      simp only [EslTag.Decodable, hop, iff_true]
      intro beyond
      simp only [EslTag.responseBytes, EslTag.reports, hop]
      rfl
  | basicState =>
      simp only [EslTag.Decodable, hop, iff_true]
      intro beyond
      simp only [EslTag.responseBytes, EslTag.reports, hop]
      exact congrArg EcpRsp.basicState (sysGetLe16_bytes t.basicState.toUInt16 beyond)
  | sensorValueStateMask =>
      cases hcb : cfg.hasSensorControl with
      | true =>
          cases henv : env.sensor with
          | busy =>
              simp only [EslTag.Decodable, hop, hcb, if_true, henv, iff_true]
              intro beyond
              simp only [EslTag.responseBytes, EslTag.reports, hop, hcb, if_true, henv]
              rfl
          | reading len data =>
              rw [EslTag.decodesAs_reading_iff hop hcb henv]
              simp only [EslTag.Decodable, hop, hcb, if_true, henv]
      | false =>
          rw [EslTag.decodesAs_noCallback_iff hop hcb]
          simp only [EslTag.Decodable, hop, hcb, Bool.false_eq_true, if_false]
  | vendorSpecificStateMask =>
      simp only [EslTag.Decodable, hop, iff_false]
      intro h
      have hvendor := h fun _ => 0
      simp only [EslTag.reports, hop] at hvendor
      exact ecpRspHandler_ne_vendor (EslTag.length_responseBytes_vendor hop) hvendor

/-- A vendor-specific response with a payload of two bytes is taken for one byte of sensor 1. -/
theorem decodesAs_fails :
    let t := (TagDevice.boot .sample {}).tag.answering .withVendor
      (.ofBytes [0x1F, 0xFF, 1] fun _ => 0)
    let env : HandlerEnv := { vendorBytes := [0x1F, 1, 0], vendorLen := 3 }
    t.responseBytes .withVendor env = [0x1F, 1, 0]
      ∧ t.reports .withVendor env = .vendor [0x1F, 1, 0]
      ∧ ecpRspHandler (Mem.ofBytes [0x1F, 1, 0] fun _ => 0) 3 = .sensor 1 [0]
      ∧ ¬ t.DecodesAs .withVendor env := by
  have hbytes : ((TagDevice.boot .sample {}).tag.answering .withVendor
      (.ofBytes [0x1F, 0xFF, 1] fun _ => 0)).responseBytes .withVendor
        { vendorBytes := [0x1F, 1, 0], vendorLen := 3 } = [0x1F, 1, 0] := by
    decide +kernel
  have hmeant : ((TagDevice.boot .sample {}).tag.answering .withVendor
      (.ofBytes [0x1F, 0xFF, 1] fun _ => 0)).reports .withVendor
        { vendorBytes := [0x1F, 1, 0], vendorLen := 3 } = .vendor [0x1F, 1, 0] := by
    decide +kernel
  have hread : ecpRspHandler (Mem.ofBytes [0x1F, 1, 0] fun _ => 0) 3 = .sensor 1 [0] := by
    decide +kernel
  refine ⟨hbytes, hmeant, hread, fun h => ?_⟩
  have hdecoded := h fun _ => 0
  rw [hbytes, hmeant] at hdecoded
  cases hread.symm.trans hdecoded

end NrfEsl
