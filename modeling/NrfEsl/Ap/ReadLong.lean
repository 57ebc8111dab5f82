import NrfEsl.Ap.ReadMulti

/-!
# Reading four characteristics in pieces

`bt_esl_c_read_chrc` reads the display, image, sensor and LED information of a tag one after the other.
The stack fetches a value in as many pieces as the connection asks for; it calls back for each of them,
and once more at the end.  `chrc_read_offset`, which counts values in a multiple read, here is the place
of the next piece.

Each read is waited for by a flag of its own.  A read that the stack has refused is never called back,
so that nothing sets its flag: the function does not return (`none`).
-/

namespace NrfEsl

/-! ## Reads -/

/-- What the stack makes of one read. -/
structure LongRead where
  /-- The result of `bt_gatt_read`. -/
  gattErr : ℤ
  /-- The pieces of the value. -/
  pieces : List (List UInt8)
  /-- The error the read ends with. -/
  err : UInt8

/-- One call. -/
structure LongReadProcedure where
  connIdx : ℕ
  /-- `check_ble_connection` -/
  connected : Bool
  /-- The handle is not `BT_ATT_INVALID_HANDLE`. -/
  available : ReadField → Bool
  reads : ReadField → LongRead

/-- The variables of both kinds of reads. -/
structure ClientReads extends MultiRead where
  /-- `read_disp_chrc`, `read_img_chrc`, `read_sensor_chrc` and `read_led_chrc` -/
  flag : ReadField → Bool

/-- What a callback returns. -/
inductive GattIter
  | stop | goOn
  deriving DecidableEq, Repr

namespace ClientReads

/-- `SET_FLAG` -/
def setFlag (field : ReadField) (s : ClientReads) : ClientReads :=
  { s with flag := Function.update s.flag field true }

/-- Change the record of a connection. -/
def onElements (connIdx : ℕ) (f : ElementInfo → ElementInfo) (s : ClientReads) : ClientReads :=
  { s with elements := Function.update s.elements connIdx (f (s.elements connIdx)) }

end ClientReads

/-! ## The callbacks -/

variable (cfg : ElementConfig) (connIdx : ℕ)

/-- `esl_c_read_disp_inf` -/
def eslCReadDispInf (err : UInt8) (data : Option (List UInt8)) (s : ClientReads) :
    Traced (GattIter × ClientReads) :=
  if err ≠ 0 then pure (.stop, s.setFlag .display)
  else
    match data with
    | some data => do
        Traced.access (.write (cfg.displayMax * dispInfSize) s.chrcReadOffset data.length)
        let s' := s.onElements connIdx fun e =>
          { e with displays := e.displays.write s.chrcReadOffset data }
        pure (.goOn, { s' with chrcReadOffset := s.chrcReadOffset + data.length })
    | none =>
        let s' := s.onElements connIdx fun e =>
          { e with displayCount := UInt16.ofNat (s.chrcReadOffset / dispInfSize) }
        pure (.stop, ({ s' with chrcReadOffset := 0 } : ClientReads).setFlag .display)

/-- `esl_c_read_img_inf` stops at the first piece. -/
def eslCReadImgInf (err : UInt8) (data : Option (List UInt8)) (s : ClientReads) :
    Traced (GattIter × ClientReads) :=
  if err ≠ 0 then pure (.stop, s.setFlag .image)
  else do
    let data := data.getD []
    Traced.access (.write 1 0 data.length)
    let s' := s.onElements connIdx fun e => { e with maxImageIndex := data.headD e.maxImageIndex }
    pure (.stop, s'.setFlag .image)

/-- `esl_c_read_sensor_inf` -/
def eslCReadSensorInf (err : UInt8) (data : Option (List UInt8)) (s : ClientReads) :
    Traced (GattIter × ClientReads) :=
  if err ≠ 0 then pure (.stop, s.setFlag .sensor)
  else
    match data with
    | some data => do
        Traced.access (.write btAttMaxAttributeLen s.chrcReadOffset data.length)
        pure (.goOn, { s with
          sensorTempBuf := s.sensorTempBuf.write s.chrcReadOffset data
          chrcReadOffset := s.chrcReadOffset + data.length })
    | none => do
        let r ← parseSensorInfoFromRaw cfg s.sensorTempBuf s.chrcReadOffset 0 0
          (s.elements connIdx).sensors
        let s' := s.onElements connIdx fun e =>
          { e with sensors := r.1, sensorCount := r.2.toUInt16 }
        pure (.stop, ({ s' with chrcReadOffset := 0 } : ClientReads).setFlag .sensor)

/-- `esl_c_read_led_inf` -/
def eslCReadLedInf (err : UInt8) (data : Option (List UInt8)) (s : ClientReads) :
    Traced (GattIter × ClientReads) :=
  if err ≠ 0 then pure (.stop, s.setFlag .led)
  else
    match data with
    | some data => do
        Traced.access (.write cfg.ledMax s.chrcReadOffset data.length)
        let s' := s.onElements connIdx fun e =>
          { e with ledType := e.ledType.write s.chrcReadOffset data }
        pure (.goOn, { s' with chrcReadOffset := s.chrcReadOffset + data.length })
    | none =>
        let s' := s.onElements connIdx fun e => { e with ledCount := UInt16.ofNat s.chrcReadOffset }
        pure (.stop, ({ s' with chrcReadOffset := 0 } : ClientReads).setFlag .led)

/-! ## `bt_esl_c_read_chrc` -/

/-- A callback of a read: its error, and a piece or the end. -/
abbrev ReadCallback := UInt8 → Option (List UInt8) → ClientReads → Traced (GattIter × ClientReads)

/-- The stack calls back for every piece, and at the end. -/
def deliverPieces (callback : ReadCallback) (err : UInt8) :
    List (List UInt8) → ClientReads → Traced ClientReads
  | [], s => do
      let r ← callback err none s
      pure r.2
  | data :: pieces, s => do
      let r ← callback 0 (some data) s
      match r.1 with
      | .stop => pure r.2
      | .goOn => deliverPieces callback err pieces r.2

/-- One of the four blocks: read a characteristic the tag has, and wait for the flag. -/
def readChrc (callback : ReadCallback) (field : ReadField) (p : LongReadProcedure) (s : ClientReads) :
    Traced (Option ClientReads) :=
  if p.available field = false then pure (some s)
  else do
    let s := { s with
      flag := Function.update s.flag field false
      chrcReadOffset := 0
      sensorTempBuf := if field = .sensor then fun _ => 0 else s.sensorTempBuf }
    let s ← if (p.reads field).gattErr ≠ 0 then pure s
      else deliverPieces callback (p.reads field).err (p.reads field).pieces s
    -- `WAIT_FOR_FLAG`
    pure (if s.flag field then some s else none)

/-- Go on, unless the function hangs. -/
def thenRead (x : Traced (Option ClientReads)) (f : ClientReads → Traced (Option ClientReads)) :
    Traced (Option ClientReads) := do
  match ← x with
  | some s => f s
  | none => pure none

/-- `bt_esl_c_read_chrc` -/
def btEslCReadChrc (p : LongReadProcedure) (s : ClientReads) : Traced (Option ClientReads) :=
  if p.connected = false then pure (some s)
  else
    let x := readChrc (eslCReadDispInf cfg p.connIdx) .display p s
    let x := thenRead x (readChrc (eslCReadImgInf p.connIdx) .image p)
    let x := thenRead x (readChrc (eslCReadSensorInf cfg p.connIdx) .sensor p)
    thenRead x (readChrc (eslCReadLedInf cfg p.connIdx) .led p)

end NrfEsl
