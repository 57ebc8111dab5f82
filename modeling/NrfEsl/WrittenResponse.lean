import NrfEsl.Lib.Cells
import NrfEsl.Tag.Device

/-!
# What a response is made of

`ecp_response_handler` builds the response in an array on its stack and declares its length beside
it.  The array starts unwritten, and so does the length that the sensor callback is to set.  Two of
the six response kinds leave the bytes to callbacks of the application, which may be absent, fail,
or write less than they declare.

* `ecpResponse` — the response with its unwritten cells; `responseBytes_of_writtenOnly` says that
  this is what the tag answers, whatever the stack held.
* `writtenResponse_iff` — **when a response holds written bytes only**, of the length its first byte
  declares: always for the four kinds the service builds itself, and for the other two when the
  callback is there and delivers.
* The callbacks of the sample: every sensor delivers (`sensorDelivers_sensorControl`), the vendor
  callback does not for the answer to `VS_DFU_REQ` (`vsDelivers_vsResponseHandler_iff`).
-/

namespace NrfEsl

/-! ## Callbacks -/

/-- `-EBUSY` and `-EIO` -/
def eBusy : ℤ := -16
def eIo : ℤ := -5

/-- A run of `cb.sensor_control`: its result, `*len` if it was set, and what was stored in `data`. -/
structure SensorReturn where
  err : ℤ
  len : Option UInt8
  data : Cells UInt8

/-- A run of `cb.vs_response_handler`: what it stored in the response, and the length it returned. -/
structure VsReturn where
  written : Cells UInt8
  len : UInt8

/-- What the callbacks do in a run of the response handler. -/
structure ResponseCallbacks where
  sensorControl : UInt8 → SensorReturn
  vsResponseHandler : VsReturn

/-! ## The response -/

/-- `buf` and `ecp_notify_params.len`, with what of them has been written. -/
structure EcpResponse where
  cells : Cells UInt8
  len : Option ℕ

/-- The sensor's part of `ecp_response_handler`.  From a length that is not set nothing is set. -/
def sensorResponse (sensorIdx : UInt8) (s : SensorReturn) (buf : Cells UInt8) : EcpResponse :=
  if s.err = eBusy then
    ⟨buf.write 0 [EslRespCode.err.toByte, EslRspErrCode.retry.toByte], some 2⟩
  else
    match s.len with
    | none => ⟨Cells.unset, none⟩
    | some len =>
        let op := (len &&& 0x0f) <<< 4 ||| EslRespCode.sensorValueStateMask.toByte
        ⟨((buf.write 0 [op]).write 1 [sensorIdx]).copy s.data 2 len.toNat, some (2 + len.toNat)⟩

/-- `ecp_response_handler` up to the response in `buf`. -/
def ecpResponse (cfg : Config) (cb : ResponseCallbacks) (t : EslTag) : EcpResponse :=
  let r := t.ecp.resp
  let op := r.respOp.toByte
  let buf := Cells.unset.write 0 [op]
  let len := some (ecpLen op)
  match r.respOp with
  | .err => ⟨buf.write 1 [r.errorCode.toByte], len⟩
  | .ledState => ⟨buf.write 1 [r.elemIdx], len⟩
  | .basicState =>
      ⟨buf.write 1 [lowByte t.basicState.toUInt16, highByte t.basicState.toUInt16], len⟩
  | .displayState => ⟨buf.write 1 [r.elemIdx, r.imgIdx], len⟩
  | .sensorValueStateMask =>
      if cfg.hasSensorControl then sensorResponse r.elemIdx (cb.sensorControl r.elemIdx) buf
      else ⟨buf, len⟩
  | .vendorSpecificStateMask =>
      if cfg.hasVsResponseHandler then
        ⟨buf.overlay cb.vsResponseHandler.written, some cb.vsResponseHandler.len.toNat⟩
      else ⟨buf, len⟩

/-- The length is set, it is the one that the first byte declares, at most 17, and every byte up to
it has been written. -/
def WrittenOnly (r : EcpResponse) : Prop :=
  ∃ len op, r.len = some len ∧ r.cells 0 = some op ∧ len = ecpLen op ∧ len ≤ 17
    ∧ r.cells.Written len

/-- The sensor is busy, or has set a length of at most 15 and stored as many bytes. -/
def SensorDelivers (s : SensorReturn) : Prop :=
  s.err = eBusy ∨ ∃ len, s.len = some len ∧ len.toNat ≤ 15 ∧ s.data.Written len.toNat

/-- The vendor callback returns the length that the first byte declares, and has stored all bytes but
perhaps the first, which holds the response code then. -/
def VsDelivers (v : VsReturn) : Prop :=
  v.len.toNat = ecpLen ((v.written 0).getD EslRespCode.vendorSpecificStateMask.toByte)
    ∧ ∀ i < v.len.toNat, i ≠ 0 → (v.written i).isSome = true

instance (v : VsReturn) : Decidable (VsDelivers v) :=
  inferInstanceAs (Decidable (_ ∧ ∀ i < v.len.toNat, i ≠ 0 → (v.written i).isSome = true))

/-- The callback that the response kind needs is there and delivers. -/
def CallbacksDeliver (cfg : Config) (cb : ResponseCallbacks) (t : EslTag) : Prop :=
  match t.ecp.resp.respOp with
  | .sensorValueStateMask =>
      cfg.hasSensorControl = true ∧ SensorDelivers (cb.sensorControl t.ecp.resp.elemIdx)
  | .vendorSpecificStateMask =>
      cfg.hasVsResponseHandler = true ∧ VsDelivers cb.vsResponseHandler
  | _ => True

/-! ## When only written bytes are sent -/

section Written

variable {cfg : Config} {cb : ResponseCallbacks} {t : EslTag}

lemma written_first (buf : Cells UInt8) (xs : List UInt8) :
    (buf.write 0 xs).Written xs.length := by
  have h : buf.Written 0 := fun i hi => absurd hi (Nat.not_lt_zero i)
  simpa using h.write xs

/-- A response of the opcode and the bytes behind it, whose number the opcode declares. -/
lemma writtenOnly_of_bytes {op : UInt8} {bytes : List UInt8}
    (hlen : ecpLen op = 1 + bytes.length) :
    WrittenOnly ⟨(Cells.unset.write 0 [op]).write 1 bytes, some (ecpLen op)⟩ := by
  refine ⟨ecpLen op, op, rfl, ?_, rfl, ecpLen_le op, ?_⟩
  · exact (Cells.write_of_lt bytes Nat.one_pos).trans rfl
  · rw [hlen]
    exact (written_first _ [op]).write bytes

/-- A response of which only the opcode has been written. -/
lemma not_writtenOnly_of_first (op : UInt8) :
    ¬ WrittenOnly ⟨Cells.unset.write 0 [op], some (ecpLen op)⟩ := by
  rintro ⟨len, op', hlen, -, -, -, hw⟩
  have h2 := two_le_ecpLen op
  have hlen' : ecpLen op = len := Option.some.inj hlen
  have h1 := hw 1 (by omega)
  cases h1

/-- The opcode of a sensor value declares its length when the length fits in a nibble. -/
lemma ecpLen_sensorValue_iff (len : UInt8) :
    2 + len.toNat = ecpLen ((len &&& 0x0f) <<< 4 ||| EslRespCode.sensorValueStateMask.toByte)
      ↔ len.toNat ≤ 15 := by
  have h := forall_uint8 (P := fun len => (2 + len.toNat
      = ecpLen ((len &&& 0x0f) <<< 4 ||| EslRespCode.sensorValueStateMask.toByte))
        ↔ len.toNat ≤ 15) (by decide +kernel) len
  exact h

lemma writtenOnly_sensorResponse_iff (idx : UInt8) (s : SensorReturn) (buf : Cells UInt8) :
    WrittenOnly (sensorResponse idx s buf) ↔ SensorDelivers s := by
  by_cases hbusy : s.err = eBusy
  · rw [sensorResponse, if_pos hbusy]
    refine iff_of_true ⟨2, EslRespCode.err.toByte, rfl, rfl, by decide, by decide, ?_⟩ (.inl hbusy)
    exact written_first buf _
  · rw [sensorResponse, if_neg hbusy, SensorDelivers, or_iff_right hbusy]
    cases s.len with
    | none =>
        constructor
        · rintro ⟨_, _, ⟨⟩, -⟩
        · rintro ⟨_, ⟨⟩, -⟩
    | some len =>
        have hfirst : ((buf.write 0 [(len &&& 0x0f) <<< 4
            ||| EslRespCode.sensorValueStateMask.toByte]).write 1 [idx]).Written 2 :=
          (written_first buf [_]).write [idx]
        constructor
        · rintro ⟨_, op, ⟨⟩, hop, hlen, -, hw⟩
          cases hop
          exact ⟨len, rfl, (ecpLen_sensorValue_iff len).mp hlen, (Cells.written_copy_iff hfirst).mp hw⟩
        · rintro ⟨_, ⟨⟩, hle, hw⟩
          exact ⟨_, _, rfl, rfl, (ecpLen_sensorValue_iff len).mpr hle, by omega,
            (Cells.written_copy_iff hfirst).mpr hw⟩

lemma writtenOnly_vendor_iff (v : VsReturn) :
    WrittenOnly ⟨(Cells.unset.write 0 [EslRespCode.vendorSpecificStateMask.toByte]).overlay v.written,
      some v.len.toNat⟩ ↔ VsDelivers v := by
  set buf : Cells UInt8 := Cells.unset.write 0 [EslRespCode.vendorSpecificStateMask.toByte] with hbuf
  have hzero : buf.overlay v.written 0
      = some ((v.written 0).getD EslRespCode.vendorSpecificStateMask.toByte) := by
    rw [Cells.overlay, hbuf]
    cases v.written 0 <;> rfl
  have hrest : ∀ i, i ≠ 0 → buf.overlay v.written i = v.written i := by
    intro i hi
    have hunset : buf i = none := by
      rw [hbuf, Cells.write, if_neg (by simp only [List.length_singleton]; omega)]
      rfl
    rw [Cells.overlay, hunset, Option.or_none]
  constructor
  · rintro ⟨_, op, ⟨⟩, hop, hlen, -, hw⟩
    cases hzero.symm.trans hop
    refine ⟨hlen, fun i hi h0 => ?_⟩
    rw [← hrest i h0]
    exact hw i hi
  · rintro ⟨hlen, hw⟩
    refine ⟨_, _, rfl, hzero, hlen, ?_, fun i hi => ?_⟩
    · rw [hlen]
      exact ecpLen_le _
    · by_cases h0 : i = 0
      · dsimp only
        rw [h0, hzero]
        rfl
      · dsimp only
        rw [hrest i h0]
        exact hw i hi h0

end Written

/-- A response holds written bytes only exactly when the callback it needs is there and delivers. -/
lemma writtenOnly_iff (cfg : Config) (cb : ResponseCallbacks) (t : EslTag) :
    WrittenOnly (ecpResponse cfg cb t) ↔ CallbacksDeliver cfg cb t := by
  simp only [ecpResponse, CallbacksDeliver]
  cases t.ecp.resp.respOp with
  | err => exact iff_of_true (writtenOnly_of_bytes rfl) trivial
  | ledState => exact iff_of_true (writtenOnly_of_bytes rfl) trivial
  | basicState => exact iff_of_true (writtenOnly_of_bytes rfl) trivial
  | displayState => exact iff_of_true (writtenOnly_of_bytes rfl) trivial
  | sensorValueStateMask =>
      dsimp only
      split_ifs with hcb
      · rw [writtenOnly_sensorResponse_iff, and_iff_right hcb]
      · exact iff_of_false (not_writtenOnly_of_first _) fun h => hcb h.1
  | vendorSpecificStateMask =>
      dsimp only
      split_ifs with hcb
      · rw [and_iff_right hcb]
        exact writtenOnly_vendor_iff _
      · exact iff_of_false (not_writtenOnly_of_first _) fun h => hcb h.1

/-! ## The response is what the tag answers -/

/-- The environment of a run of the handler has what the callbacks store and return; elsewhere its
buffers and its length hold anything. -/
structure HandlerEnv.Shows (env : HandlerEnv) (cb : ResponseCallbacks) (sensorIdx : UInt8) : Prop where
  sensor :
    match env.sensor with
    | .busy => (cb.sensorControl sensorIdx).err = eBusy
    | .reading len data =>
        (cb.sensorControl sensorIdx).err ≠ eBusy
          ∧ (∀ n, (cb.sensorControl sensorIdx).len = some n → len = n)
          ∧ (cb.sensorControl sensorIdx).data.Agrees data
  vendorLen : env.vendorLen = cb.vsResponseHandler.len
  vendorBytes : ∀ op, ((Cells.unset.write 0 [op]).overlay cb.vsResponseHandler.written).Agrees
    ((env.stack.write 0 [op]).write 0 env.vendorBytes)

section Answer

variable {cfg : Config} {cb : ResponseCallbacks} {t : EslTag} {env : HandlerEnv}

/-- The bytes of a sensor value, and its cells. -/
lemma read_sensorValue {buf w : Cells UInt8} {op idx len : UInt8} {data : Mem} (hdata : w.Agrees data)
    (hw : w.Written len.toNat) :
    (op :: idx :: data.read 0 len.toNat).map some
      = (((buf.write 0 [op]).write 1 [idx]).copy w 2 len.toNat).read (2 + len.toNat) := by
  have hread : (data.read 0 len.toNat).map some = w.read len.toNat := by
    rw [← hdata.read hw, Mem.read]
    simp only [Nat.zero_add]
  have hcopied : ((List.range len.toNat).map (2 + ·)).map
      (((buf.write 0 [op]).write 1 [idx]).copy w 2 len.toNat) = w.read len.toNat := by
    rw [List.map_map]
    refine List.map_congr_left fun i hi => ?_
    have hlt := List.mem_range.mp hi
    simp only [Function.comp_apply, Cells.copy]
    rw [if_pos (by omega), Nat.add_sub_cancel_left]
  have hcells : (((buf.write 0 [op]).write 1 [idx]).copy w 2 len.toNat).read (2 + len.toNat)
      = some op :: some idx :: w.read len.toNat := by
    rw [← hcopied, Cells.read, List.range_add, List.map_append]
    rfl
  rw [List.map_cons, List.map_cons, hread, hcells]

/-- A response of written bytes is what the tag answers, whatever its stack held. -/
lemma responseBytes_of_writtenOnly (henv : env.Shows cb t.ecp.resp.elemIdx)
    (hw : WrittenOnly (ecpResponse cfg cb t)) :
    ∃ len, (ecpResponse cfg cb t).len = some len
      ∧ (t.responseBytes cfg env).map some = (ecpResponse cfg cb t).cells.read len := by
  have hdeliver := (writtenOnly_iff cfg cb t).mp hw
  simp only [CallbacksDeliver] at hdeliver
  simp only [ecpResponse, EslTag.responseBytes]
  cases hop : t.ecp.resp.respOp with
  | err => exact ⟨_, rfl, rfl⟩
  | ledState => exact ⟨_, rfl, rfl⟩
  | basicState => exact ⟨_, rfl, rfl⟩
  | displayState => exact ⟨_, rfl, rfl⟩
  | sensorValueStateMask =>
      rw [hop] at hdeliver
      obtain ⟨hcb, hsensor⟩ := hdeliver
      have hshow := henv.sensor
      simp only [hcb, if_true, sensorResponse]
      cases henvs : env.sensor with
      | busy =>
          rw [henvs] at hshow
          rw [if_pos hshow]
          exact ⟨_, rfl, rfl⟩
      | reading len data =>
          rw [henvs] at hshow
          obtain ⟨hbusy, hlen, hdata⟩ := hshow
          obtain ⟨n, hn, -, hwritten⟩ := hsensor.resolve_left hbusy
          obtain rfl := hlen n hn
          rw [if_neg hbusy, hn]
          exact ⟨_, rfl, read_sensorValue hdata hwritten⟩
  | vendorSpecificStateMask =>
      rw [hop] at hdeliver
      obtain ⟨hcb, hvendor⟩ := hdeliver
      obtain ⟨len, _, hlen, -, -, -, hwritten⟩ := (writtenOnly_vendor_iff _).mpr hvendor
      simp only [hcb, if_true]
      refine ⟨_, rfl, ?_⟩
      have hread := (henv.vendorBytes EslRespCode.vendorSpecificStateMask.toByte).read hwritten
      have hlen' : cb.vsResponseHandler.len.toNat = len := Option.some.inj hlen
      rw [henv.vendorLen, hlen', ← hread, Mem.read]
      simp only [Nat.zero_add]

end Answer

/-! ## The callbacks of the sample -/

namespace Sample

/-- `struct esl_sensor_data` -/
structure EslSensorData where
  dataAvailable : Bool
  size : UInt8
  data : Vector UInt8 15

/-- The size `hw_init` gives to a sensor. -/
def sensorSize (idx : ℕ) : UInt8 := if idx = 0 then 2 else UInt8.ofNat ((idx + 2) % 15)

/-- `sensor_control`: sensor 0 is the temperature, which is busy while there is no reading; the others
show made-up values. -/
def sensorControl (cfg : Config) (sensorData : ℕ → EslSensorData) (sensorIdx : UInt8) : SensorReturn :=
  let s := sensorData sensorIdx.toNat
  let mockUp : Cells UInt8 := Cells.unset.write 0
    ((List.range s.size.toNat).map fun idx => 0x12 + UInt8.ofNat idx)
  if cfg.sensorMax ≤ sensorIdx.toNat then ⟨eIo, none, Cells.unset⟩
  else if sensorIdx = 0 then
    if cfg.pts = true ∨ s.dataAvailable = true then
      ⟨0, some s.size, Cells.unset.copy (fun i => s.data[i]?) 0 s.size.toNat⟩
    else ⟨eBusy, some s.size, Cells.unset⟩
  else ⟨0, some s.size, mockUp⟩

/-- **Every sensor of the sample delivers** when Read Sensor Data has accepted its index. -/
theorem sensorDelivers_sensorControl {cfg : Config} {sensorData : ℕ → EslSensorData}
    (hsize : ∀ idx, (sensorData idx).size = sensorSize idx) {sensorIdx : UInt8}
    (hidx : sensorIdx.toNat < cfg.sensorMax) :
    SensorDelivers (sensorControl cfg sensorData sensorIdx) := by
  have hle : (sensorData sensorIdx.toNat).size.toNat ≤ 14 := by
    rw [hsize, sensorSize]
    split
    · decide
    · rw [UInt8.toNat_ofNat']
      omega
  simp only [sensorControl]
  rw [if_neg (by omega)]
  split_ifs
  · refine .inr ⟨_, rfl, by omega, fun i hi => ?_⟩
    simp only [Cells.copy]
    rw [if_pos (by omega), Nat.sub_zero, getElem?_pos _ _ (by omega)]
    rfl
  · exact .inl rfl
  · refine .inr ⟨_, rfl, by omega, ?_⟩
    have h := written_first Cells.unset
      ((List.range (sensorData sensorIdx.toNat).size.toNat).map fun idx => 0x12 + UInt8.ofNat idx)
    rw [List.length_map, List.length_range] at h
    exact h

/-- `struct esl_vs_ecp_resp` -/
structure EslVsEcpResp where
  respOp : UInt8 := 0
  errorCode : UInt8 := 0
  dfuEnabled : UInt8 := 0

/-- `VS_DFU_REQ` and `ESL_VS_DFU` -/
def vsDfu : UInt8 := 0x1F
/-- `VS_ECP_NOT_SUPP` -/
def vsEcpNotSupp : UInt8 := 0xf0

/-- `vs_command_handler` -/
def vsCommandHandler (buf : NetBuf) (r : EslVsEcpResp) : EslVsEcpResp :=
  let command := buf.data 0
  if buf.len ≠ ecpLen command then
    { r with respOp := EslRespCode.err.toByte, errorCode := EslRspErrCode.invParams.toByte }
  else if command = vsDfu then { r with respOp := vsDfu, dfuEnabled := buf.data 2 }
  else { r with respOp := EslRespCode.err.toByte, errorCode := vsEcpNotSupp }

/-- `vs_response_handler` -/
def vsResponseHandler (r : EslVsEcpResp) : VsReturn :=
  let buf := Cells.unset.write 0 [r.respOp]
  ⟨buf.write 1 [if r.respOp = vsDfu then r.dfuEnabled else r.errorCode], UInt8.ofNat (ecpLen r.respOp)⟩

lemma length_vsResponseHandler (r : EslVsEcpResp) :
    (vsResponseHandler r).len.toNat = ecpLen r.respOp := by
  have h := ecpLen_le r.respOp
  rw [vsResponseHandler, UInt8.toNat_ofNat']
  omega

lemma first_vsResponseHandler (r : EslVsEcpResp) :
    (vsResponseHandler r).written 0 = some r.respOp := by
  simp only [vsResponseHandler]
  rw [Cells.write_of_lt _ Nat.one_pos]
  rfl

/-- The callback stores two bytes. -/
lemma vsDelivers_iff_ecpLen (r : EslVsEcpResp) :
    VsDelivers (vsResponseHandler r) ↔ ecpLen r.respOp = 2 := by
  rw [VsDelivers, length_vsResponseHandler, first_vsResponseHandler, Option.getD_some]
  have h2 := two_le_ecpLen r.respOp
  constructor
  · rintro ⟨-, h⟩
    by_contra hne
    exact Bool.false_ne_true (h 2 (by omega) (by decide))
  · intro h
    refine ⟨rfl, fun i hi h0 => ?_⟩
    obtain rfl : i = 1 := by omega
    rfl

/-- **The vendor callback of the sample delivers** but for the answer to `VS_DFU_REQ`: that declares
three bytes, and two are stored. -/
theorem vsDelivers_vsResponseHandler_iff {buf : NetBuf} (hlen : buf.len = ecpLen (buf.data 0))
    (r : EslVsEcpResp) :
    VsDelivers (vsResponseHandler (vsCommandHandler buf r)) ↔ buf.data 0 ≠ vsDfu := by
  rw [vsDelivers_iff_ecpLen, vsCommandHandler, if_neg (not_not.mpr hlen)]
  by_cases hdfu : buf.data 0 = vsDfu
  · rw [if_pos hdfu]
    have hlen : ecpLen vsDfu ≠ 2 := by decide
    exact iff_of_false hlen (not_not.mpr hdfu)
  · rw [if_neg hdfu]
    have hlen : ecpLen EslRespCode.err.toByte = 2 := by decide
    exact iff_of_true hlen hdfu

end Sample

/-! ## Responses to commands -/

/-- The tag when the response to a command is built. -/
def EslTag.answering (cfg : Config) (buf : NetBuf) (t : EslTag) : EslTag :=
  (t.executeCommand cfg buf).1.prepareResponse cfg

/-- **The response to a command holds written bytes only**, of the length that its first byte
declares, exactly when the callback it needs is there and delivers; then the tag answers these bytes,
whatever its stack held. -/
theorem writtenResponse_iff (cfg : Config) (cb : ResponseCallbacks) (t : EslTag) (buf : NetBuf) :
    (WrittenOnly (ecpResponse cfg cb (t.answering cfg buf))
        ↔ CallbacksDeliver cfg cb (t.answering cfg buf))
      ∧ ∀ env : HandlerEnv, env.Shows cb (t.answering cfg buf).ecp.resp.elemIdx →
        CallbacksDeliver cfg cb (t.answering cfg buf) →
        ∃ len, (ecpResponse cfg cb (t.answering cfg buf)).len = some len
          ∧ ((t.answering cfg buf).responseBytes cfg env).map some
            = (ecpResponse cfg cb (t.answering cfg buf)).cells.read len := by
  refine ⟨writtenOnly_iff cfg cb _, fun env henv hdeliver => ?_⟩
  exact responseBytes_of_writtenOnly henv ((writtenOnly_iff cfg cb _).mpr hdeliver)

/-- The sample with its vendor callbacks. -/
def Config.withVendor : Config :=
  { Config.sample with
    vendorSpecificSupport := true, hasVsCommandHandler := true, hasVsResponseHandler := true }

/-- A build without a sensor callback. -/
def Config.withoutSensor : Config := { Config.sample with hasSensorControl := false }

/-- The callbacks of the sample after a vendor command, and no sensor that answers. -/
def Sample.callbacks (buf : NetBuf) : ResponseCallbacks where
  sensorControl := fun _ => ⟨eIo, none, Cells.unset⟩
  vsResponseHandler := vsResponseHandler (vsCommandHandler buf {})

/-- The answer to `VS_DFU_REQ`, to Read Sensor Data when the callback fails without a length, and to
Read Sensor Data without a callback. -/
theorem writtenResponse_fails :
    let dfu := NetBuf.ofBytes [0x1F, 0xFF, 1] fun _ => 0
    let readSensor := NetBuf.ofBytes [0x10, 0xFF, 0] fun _ => 0
    let t := (TagDevice.boot .sample {}).tag
    ¬ WrittenOnly (ecpResponse .withVendor (Sample.callbacks dfu) (t.answering .withVendor dfu))
    ∧ ¬ WrittenOnly (ecpResponse .sample (Sample.callbacks readSensor) (t.answering .sample readSensor))
    ∧ ¬ WrittenOnly (ecpResponse .withoutSensor (Sample.callbacks readSensor)
        (t.answering .withoutSensor readSensor)) := by
  have hdfu : ((TagDevice.boot .sample {}).tag.answering .withVendor
      (NetBuf.ofBytes [0x1F, 0xFF, 1] fun _ => 0)).ecp.resp.respOp = .vendorSpecificStateMask := by
    decide +kernel
  have hsensor : ((TagDevice.boot .sample {}).tag.answering .sample
      (NetBuf.ofBytes [0x10, 0xFF, 0] fun _ => 0)).ecp.resp.respOp = .sensorValueStateMask := by
    decide +kernel
  have hsensor' : ((TagDevice.boot .sample {}).tag.answering .withoutSensor
      (NetBuf.ofBytes [0x10, 0xFF, 0] fun _ => 0)).ecp.resp.respOp = .sensorValueStateMask := by
    decide +kernel
  simp only [writtenOnly_iff, CallbacksDeliver, hdfu, hsensor, hsensor']
  refine ⟨fun h => ?_, fun h => ?_, fun h => ?_⟩
  · have hlen := (Sample.vsDelivers_iff_ecpLen _).mp h.2
    revert hlen
    decide
  · rcases h.2 with ⟨⟨⟩⟩ | ⟨_, ⟨⟩, -⟩
  · exact Bool.false_ne_true h.1

end NrfEsl
