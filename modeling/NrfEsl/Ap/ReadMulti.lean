import NrfEsl.Common
import NrfEsl.Lib.Traced

/-!
# Reading five characteristics at once

`bt_esl_c_read_chrc_multi` requests the display, image, sensor, LED and PnP ID characteristics of a tag
in one ATT transaction.  `esl_c_read_multi` is called back for each value, and once more at the end; the
stack does not look at what it returns.  Which value it has is counted in `chrc_read_offset`, one variable
for all connections, and a value without bytes cannot be told from the end.

`log` is a ghost: what is stored where, and when `read_chrc` is set.
-/

namespace NrfEsl

/-! ## What is read from a tag -/

/-- The sizes of the arrays in `struct bt_esl_chrc_data`. -/
structure ElementConfig where
  displayMax : ℕ
  sensorMax : ℕ
  ledMax : ℕ
  /-- `esl_common.h` -/
  sensorMax_le : sensorMax ≤ 255

/-- `struct esl_sensor_inf`; `propertyId` and `company_id` are one place. -/
structure SensorInf where
  size : UInt8
  propertyId : UInt16
  sensorCode : UInt16

/-- The part of `struct bt_esl_chrc_data` that is read. -/
structure ElementInfo where
  maxImageIndex : UInt8
  displays : Mem
  displayCount : UInt16
  sensors : ℕ → SensorInf
  sensorCount : UInt16
  ledType : Mem
  ledCount : UInt16
  pnpVid : UInt16
  pnpPid : UInt16

/-- `DISP_INF_SIZE` -/
def dispInfSize : ℕ := 5

/-- `BT_ATT_MAX_ATTRIBUTE_LEN`, the size of `sensor_temp_buf`. -/
def btAttMaxAttributeLen : ℕ := 512

/-! ## `parse_sensor_info_from_raw` -/

/-- The bytes of an entry, by its first one. -/
def sensorLen (size : UInt8) : Option ℕ :=
  if size = 0 then some 3 else if size = 1 then some 5 else none

lemma sensorLen_eq {size : UInt8} {n : ℕ} (h : sensorLen size = some n) : n = 3 ∨ n = 5 := by
  simp only [sensorLen] at h
  split at h
  · cases h
    exact .inl rfl
  · split at h
    · cases h
      exact .inr rfl
    · cases h

lemma sensorLen_pos {size : UInt8} {n : ℕ} (h : sensorLen size = some n) : 0 < n := by
  rcases sensorLen_eq h with rfl | rfl
  · decide
  · decide

/-- An entry of length 3 has a property, one of length 5 a company and a code. -/
def SensorInf.read (raw : Mem) (idx : ℕ) (inf : SensorInf) : SensorInf :=
  if raw idx = 0 then { inf with size := raw idx, propertyId := sysGetLe16 raw (idx + 1) }
  else
    { inf with
      size := raw idx
      propertyId := sysGetLe16 raw (idx + 1)
      sensorCode := sysGetLe16 raw (idx + 3) }

/-- The loop of `parse_sensor_info_from_raw` from `idx` on. -/
def parseSensorInfoFromRaw (cfg : ElementConfig) (raw : Mem) (len : ℕ) (idx : ℕ) (count : UInt8)
    (sensors : ℕ → SensorInf) : Traced ((ℕ → SensorInf) × UInt8) :=
  if idx < len then
    match hn : sensorLen (raw idx) with
    | some n => do
        Traced.access (.index cfg.sensorMax count.toNat)
        Traced.access (.index btAttMaxAttributeLen (idx + (n - 1)))
        parseSensorInfoFromRaw cfg raw len (idx + n) (count + 1)
          (Function.update sensors count.toNat ((sensors count.toNat).read raw idx))
    | none => do
        -- `idx` stays where it is for ever, and `count` passes 255
        Traced.access (.index cfg.sensorMax 255)
        pure (sensors, count)
  else pure (sensors, count)
termination_by len - idx
decreasing_by
  have hpos := sensorLen_pos hn
  omega

/-- The number of entries of a sensor information, and the bytes they take. -/
def sensorLayout : List UInt8 → Option (ℕ × ℕ)
  | [] => some (0, 0)
  | size :: raw =>
      match sensorLen size with
      | some n => (sensorLayout (raw.drop (n - 1))).map fun p => (p.1 + 1, p.2 + n)
      | none => none
termination_by raw => raw.length

section Parse

variable {cfg : ElementConfig}

/-- The entries take at least the bytes there are. -/
lemma length_le_of_sensorLayout {v : List UInt8} {p : ℕ × ℕ} (h : sensorLayout v = some p) :
    v.length ≤ p.2 := by
  fun_induction sensorLayout v generalizing p with
  | case1 =>
      cases h
      exact Nat.le_refl 0
  | case2 size raw n hn ih =>
      obtain ⟨q, hq, rfl⟩ := Option.map_eq_some_iff.mp h
      have hlen := ih hq
      have hpos := sensorLen_pos hn
      simp only [List.length_drop, List.length_cons] at hlen ⊢
      omega
  | case3 => cases h

/-- The entries from a position on. -/
lemma sensorLayout_drop {v : List UInt8} {idx : ℕ} (hlt : idx < v.length) :
    sensorLayout (v.drop idx) = (sensorLen v[idx]).bind fun n =>
      (sensorLayout (v.drop (idx + n))).map fun p => (p.1 + 1, p.2 + n) := by
  rw [List.drop_eq_getElem_cons hlt, sensorLayout]
  cases hn : sensorLen v[idx] with
  | none => rfl
  | some n =>
      have hpos := sensorLen_pos hn
      have hdrop : (v.drop (idx + 1)).drop (n - 1) = v.drop (idx + n) := by
        rw [List.drop_drop]
        congr 1
        omega
      show (sensorLayout ((v.drop (idx + 1)).drop (n - 1))).map _ = (sensorLayout (v.drop (idx + n))).map _
      rw [hdrop]

/-- One turn of the loop over an entry of a known size. -/
lemma parseSensorInfoFromRaw_of_some {raw : Mem} {len idx n : ℕ} (hlt : idx < len)
    (hn : sensorLen (raw idx) = some n) (count : UInt8) (sensors : ℕ → SensorInf) :
    parseSensorInfoFromRaw cfg raw len idx count sensors = (do
      Traced.access (.index cfg.sensorMax count.toNat)
      Traced.access (.index btAttMaxAttributeLen (idx + (n - 1)))
      parseSensorInfoFromRaw cfg raw len (idx + n) (count + 1)
        (Function.update sensors count.toNat ((sensors count.toNat).read raw idx))) := by
  rw [parseSensorInfoFromRaw, if_pos hlt]
  split
  · rename_i n' hn'
    cases hn.symm.trans hn'
    rfl
  · rename_i hnone
    cases hn.symm.trans hnone

lemma parseSensorInfoFromRaw_of_ge {raw : Mem} {len idx : ℕ} (hge : len ≤ idx) (count : UInt8)
    (sensors : ℕ → SensorInf) :
    parseSensorInfoFromRaw cfg raw len idx count sensors = pure (sensors, count) := by
  rw [parseSensorInfoFromRaw, if_neg (Nat.not_lt.mpr hge)]

/-- **The parser stays in its arrays** exactly when every entry has a known size, and there are not too
many of them. -/
lemma safe_parseSensorInfoFromRaw {raw : Mem} {v : List UInt8}
    (hraw : ∀ i (h : i < v.length), raw i = v[i]) {idx : ℕ} {count : UInt8} {sensors : ℕ → SensorInf}
    (hcount : count.toNat ≤ cfg.sensorMax) (hidx : idx ≤ btAttMaxAttributeLen) :
    (parseSensorInfoFromRaw cfg raw v.length idx count sensors).Safe ↔
      ∃ p, sensorLayout (v.drop idx) = some p ∧ count.toNat + p.1 ≤ cfg.sensorMax
        ∧ idx + p.2 ≤ btAttMaxAttributeLen := by
  fun_induction parseSensorInfoFromRaw cfg raw v.length idx count sensors with
  | case1 idx count sensors hlt n hn ih =>
      have hpos := sensorLen_pos hn
      have hmax := cfg.sensorMax_le
      have hnext : count.toNat < cfg.sensorMax → (count + 1).toNat = count.toNat + 1 := by
        intro h
        rw [UInt8.toNat_add, UInt8.toNat_one]
        omega
      rw [sensorLayout_drop hlt, ← hraw idx hlt]
      simp only [hn, Option.bind_some, Traced.safe_bind, Traced.safe_access]
      constructor
      · rintro ⟨hc : count.toNat < cfg.sensorMax, hi : idx + (n - 1) < btAttMaxAttributeLen, hsafe⟩
        rw [ih (by rw [hnext hc]; omega) (by omega), hnext hc] at hsafe
        obtain ⟨p, hp, hc', hi'⟩ := hsafe
        refine ⟨(p.1 + 1, p.2 + n), ?_, ?_, ?_⟩
        · rw [hp]
          rfl
        · show count.toNat + (p.1 + 1) ≤ cfg.sensorMax
          omega
        · show idx + (p.2 + n) ≤ btAttMaxAttributeLen
          omega
      · rintro ⟨q, hq, hc', hi'⟩
        obtain ⟨p, hp, rfl⟩ := Option.map_eq_some_iff.mp hq
        dsimp only at hc' hi'
        have hc : count.toNat < cfg.sensorMax := by omega
        have hi : idx + (n - 1) < btAttMaxAttributeLen := by omega
        refine ⟨hc, hi, ?_⟩
        rw [ih (by rw [hnext hc]; omega) (by omega), hnext hc]
        exact ⟨p, hp, by omega, by omega⟩
  | case2 idx count sensors hlt hnone =>
      have hmax := cfg.sensorMax_le
      rw [sensorLayout_drop hlt, ← hraw idx hlt]
      simp only [hnone, Option.bind_none, Traced.safe_bind, Traced.safe_access]
      constructor
      · rintro ⟨hindex : 255 < cfg.sensorMax, -⟩
        omega
      · rintro ⟨p, hp, -⟩
        cases hp
  | case3 idx count sensors hge =>
      rw [List.drop_eq_nil_of_le (Nat.le_of_not_lt hge), sensorLayout]
      exact iff_of_true (Traced.safe_pure _) ⟨(0, 0), rfl, hcount, hidx⟩

/-- The same for the whole of a sensor information. -/
lemma safe_parseSensorInfoFromRaw_zero {raw : Mem} {v : List UInt8}
    (hraw : ∀ i (h : i < v.length), raw i = v[i]) (sensors : ℕ → SensorInf) :
    (parseSensorInfoFromRaw cfg raw v.length 0 0 sensors).Safe ↔
      ∃ p, sensorLayout v = some p ∧ p.1 ≤ cfg.sensorMax ∧ p.2 ≤ btAttMaxAttributeLen := by
  have hzero : (0 : UInt8).toNat = 0 := rfl
  rw [safe_parseSensorInfoFromRaw hraw (by rw [hzero]; exact Nat.zero_le _) (Nat.zero_le _)]
  simp only [List.drop_zero, hzero, Nat.zero_add]

end Parse

/-! ## `esl_c_read_multi` -/

/-- The characteristics, in the order of the handles. -/
inductive ReadField
  | display | image | sensor | led | pnpId
  deriving DecidableEq, Repr

/-- The cases of the switch. -/
def ReadField.all : List ReadField := [.display, .image, .sensor, .led, .pnpId]

/-- What a read does that is seen from outside. -/
inductive ReadAction
  | store (connIdx : ℕ) (field : ReadField) (data : List UInt8)
  | setFlag
  deriving DecidableEq, Repr

def ReadAction.isStore : ReadAction → Bool
  | .store _ _ _ => true
  | .setFlag => false

/-- The variables of `esl_client.c` for the reads. -/
structure MultiRead where
  chrcReadOffset : ℕ
  readChrc : Bool
  sensorTempBuf : Mem
  elements : ℕ → ElementInfo
  log : List ReadAction

/-- `SET_FLAG(read_chrc)` -/
def MultiRead.setReadChrc (s : MultiRead) : MultiRead :=
  { s with readChrc := true, log := s.log ++ [.setFlag] }

variable (cfg : ElementConfig)

/-- One case of the switch: `sensor_temp_buf` and the device afterwards. -/
def storeField (field : ReadField) (data : List UInt8) (sensorTempBuf : Mem) (e : ElementInfo) :
    Traced (Mem × ElementInfo) :=
  match field with
  | .display => do
      Traced.access (.write (cfg.displayMax * dispInfSize) 0 data.length)
      pure (sensorTempBuf, { e with
        displays := e.displays.write 0 data
        displayCount := UInt16.ofNat (data.length / dispInfSize) })
  | .image => do
      Traced.access (.write 1 0 data.length)
      pure (sensorTempBuf, { e with maxImageIndex := data.headD e.maxImageIndex })
  | .sensor => do
      Traced.access (.write btAttMaxAttributeLen 0 data.length)
      let raw := sensorTempBuf.write 0 data
      let r ← parseSensorInfoFromRaw cfg raw data.length 0 0 e.sensors
      pure (raw, { e with sensors := r.1, sensorCount := r.2.toUInt16 })
  | .led => do
      Traced.access (.write cfg.ledMax 0 data.length)
      pure (sensorTempBuf, { e with
        ledType := e.ledType.write 0 data
        ledCount := UInt16.ofNat data.length })
  | .pnpId => do
      Traced.access (.index data.length 4)
      let value := Mem.ofBytes data fun _ => 0
      pure (sensorTempBuf, { e with pnpVid := sysGetLe16 value 1, pnpPid := sysGetLe16 value 3 })

/-- `esl_c_read_multi`.  On an error nothing is reset and nothing set. -/
def eslCReadMulti (connIdx : ℕ) (err : UInt8) (data : List UInt8) (s : MultiRead) :
    Traced MultiRead :=
  if err ≠ 0 then pure s
  else if data.length ≠ 0 then
    match ReadField.all[s.chrcReadOffset]? with
    | some field => do
        let r ← storeField cfg field data s.sensorTempBuf (s.elements connIdx)
        pure { s with
          chrcReadOffset := s.chrcReadOffset + 1
          sensorTempBuf := r.1
          elements := Function.update s.elements connIdx r.2
          log := s.log ++ [.store connIdx field data] }
    | none => pure s.setReadChrc
  else pure ({ s with chrcReadOffset := 0 } : MultiRead).setReadChrc

/-! ## `bt_esl_c_read_chrc_multi` -/

/-- One call, and what the stack and the tag do with it. -/
structure ReadProcedure where
  connIdx : ℕ
  /-- `check_ble_connection` -/
  connected : Bool
  /-- The result of `bt_gatt_read`. -/
  gattErr : ℤ
  /-- The values delivered. -/
  values : List (List UInt8)
  /-- The error the read ends with. -/
  err : UInt8
  length_values_le : values.length ≤ 5
  /-- All five are delivered, unless it ends early. -/
  length_values : err = 0 → values.length = 5

/-- The callbacks with a value. -/
def deliver (connIdx : ℕ) : List (List UInt8) → MultiRead → Traced MultiRead
  | [], s => pure s
  | data :: values, s => do
      let s ← eslCReadMulti cfg connIdx 0 data s
      deliver connIdx values s

/-- `bt_esl_c_read_chrc_multi` and the callbacks of the read it starts. -/
def btEslCReadChrcMulti (p : ReadProcedure) (s : MultiRead) : Traced MultiRead :=
  if p.connected = false then pure s
  else
    let s := { s with sensorTempBuf := fun _ => 0 }
    if p.gattErr ≠ 0 then pure s.setReadChrc
    else do
      let s ← deliver cfg p.connIdx p.values s
      eslCReadMulti cfg p.connIdx p.err [] s

end NrfEsl
