import NrfEsl.Ap.ReadMulti

/-!
# Sensor information, from the tag to the access point

The tag serves its sensors one behind the other, each as the first bytes of `struct esl_sensor_inf`:
three if it has a property, five if it has a company and a code.  `parse_sensor_info_from_raw` takes
them apart again, by the first byte of each entry.

* **What is served is read back** (`sensorInformation_roundTrip`): the parser moves over an entry by as
  many bytes as the tag has copied.
* **What is not served by a tag**: the parser does not move over an entry of another size, and does not
  compare the end of an entry with the end of the information.  `parserSafe_iff` says that it is safe
  exactly on a sequence of whole entries, which is what `sensorLayout` describes.
-/

namespace NrfEsl

/-! ## `esl_sensor_read` -/

/-- `struct esl_sensor_inf`, packed. -/
def SensorInf.bytes (inf : SensorInf) : List UInt8 :=
  [inf.size, lowByte inf.propertyId, highByte inf.propertyId, lowByte inf.sensorCode,
    highByte inf.sensorCode]

/-- What is copied of a sensor. -/
def SensorInf.real (inf : SensorInf) : List UInt8 := inf.bytes.take ((sensorLen inf.size).getD 0)

/-- `real_sensor_inf_data` -/
def realSensorInfData (sensors : List SensorInf) : List UInt8 := sensors.flatMap SensorInf.real

/-- `esl_sensor_read`: one read at an offset. -/
def eslSensorRead (sensors : List SensorInf) (len offset : ℕ) : List UInt8 :=
  ((realSensorInfData sensors).drop offset).take len

/-- What a peer gets by `n` reads of `len` bytes each. -/
def servedBytes (sensors : List SensorInf) (len n : ℕ) : List UInt8 :=
  (List.range n).flatMap fun i => eslSensorRead sensors len (i * len)

/-- `esl_common.h`, for a client. -/
def ElementConfig.client : ElementConfig where
  displayMax := 102
  sensorMax := 170
  ledMax := 256
  sensorMax_le := by decide

/-- The fields in use are the same. -/
structure SensorInf.Same (a b : SensorInf) : Prop where
  size : a.size = b.size
  propertyId : a.propertyId = b.propertyId
  sensorCode : a.size = 1 → a.sensorCode = b.sensorCode

section Served

variable {sensors : List SensorInf}

/-- **However it is read**, the whole of the data is served. -/
lemma servedBytes_eq (sensors : List SensorInf) (len n : ℕ) :
    servedBytes sensors len n = (realSensorInfData sensors).take (n * len) := by
  induction n with
  | zero => rw [Nat.zero_mul, List.take_zero]; rfl
  | succ n ih =>
      have hstep : servedBytes sensors len (n + 1)
          = servedBytes sensors len n ++ eslSensorRead sensors len (n * len) := by
        rw [servedBytes, List.range_succ, List.flatMap_append, List.flatMap_singleton]
        rfl
      rw [hstep, ih, eslSensorRead, Nat.succ_mul, List.take_add]

/-- A sensor with one of the two sizes. -/
def SensorInf.IsReal (inf : SensorInf) : Prop := inf.size = 0 ∨ inf.size = 1

lemma SensorInf.IsReal.real_eq {inf : SensorInf} (h : inf.IsReal) :
    (inf.size = 0 ∧ inf.real = [inf.size, lowByte inf.propertyId, highByte inf.propertyId])
      ∨ inf.size = 1 ∧ inf.real = inf.bytes := by
  rcases h with h | h
  · have hlen : sensorLen inf.size = some 3 := by rw [h]; rfl
    exact .inl ⟨h, by rw [real, hlen]; rfl⟩
  · have hlen : sensorLen inf.size = some 5 := by rw [h]; rfl
    exact .inr ⟨h, by rw [real, hlen]; rfl⟩

/-- The bytes of a value, wherever they stand. -/
lemma sysGetLe16_eq {m : Mem} {off : ℕ} {x : UInt16} (hlow : m off = lowByte x)
    (hhigh : m (off + 1) = highByte x) : sysGetLe16 m off = x := by
  apply UInt16.toNat_inj.mp
  rw [toNat_sysGetLe16, hlow, hhigh, toNat_lowByte, toNat_highByte]
  omega

/-- **An entry is read back** from where it stands. -/
lemma same_read {inf : SensorInf} (h : inf.IsReal) {raw : Mem} {idx : ℕ}
    (hraw : raw.read idx inf.real.length = inf.real) (old : SensorInf) :
    sensorLen (raw idx) = some inf.real.length ∧ inf.Same (old.read raw idx) := by
  rcases h.real_eq with ⟨hsize, hreal⟩ | ⟨hsize, hreal⟩
  · rw [hreal] at hraw ⊢
    obtain ⟨h₀, h₁, h₂, -⟩ : raw idx = inf.size ∧ raw (idx + 1) = lowByte inf.propertyId
        ∧ raw (idx + 2) = highByte inf.propertyId ∧ True := by
      simpa [Mem.read, List.range_succ] using hraw
    have hzero : raw idx = 0 := h₀.trans hsize
    refine ⟨by rw [hzero]; rfl, ?_, ?_, fun hone => ?_⟩
    · rw [SensorInf.read, if_pos hzero]
      exact h₀.symm
    · rw [SensorInf.read, if_pos hzero]
      exact (sysGetLe16_eq h₁ h₂).symm
    · exact absurd (hsize.symm.trans hone) (by decide)
  · rw [hreal] at hraw ⊢
    obtain ⟨h₀, h₁, h₂, h₃, h₄⟩ : raw idx = inf.size ∧ raw (idx + 1) = lowByte inf.propertyId
        ∧ raw (idx + 2) = highByte inf.propertyId ∧ raw (idx + 3) = lowByte inf.sensorCode
        ∧ raw (idx + 4) = highByte inf.sensorCode := by
      simpa [SensorInf.bytes, Mem.read, List.range_succ] using hraw
    have hone : raw idx = 1 := h₀.trans hsize
    have hzero : raw idx ≠ 0 := by
      rw [hone]
      decide
    refine ⟨by rw [hone]; rfl, ?_, ?_, fun _ => ?_⟩
    · rw [SensorInf.read, if_neg hzero]
      exact h₀.symm
    · rw [SensorInf.read, if_neg hzero]
      exact (sysGetLe16_eq h₁ h₂).symm
    · rw [SensorInf.read, if_neg hzero]
      exact (sysGetLe16_eq h₃ h₄).symm

lemma realSensorInfData_cons (inf : SensorInf) (sensors : List SensorInf) :
    realSensorInfData (inf :: sensors) = inf.real ++ realSensorInfData sensors := rfl

/-- Every entry has three bytes at least. -/
lemma three_mul_length_le (h : ∀ inf ∈ sensors, inf.IsReal) :
    3 * sensors.length ≤ (realSensorInfData sensors).length := by
  induction sensors with
  | nil => exact Nat.le_refl 0
  | cons inf sensors ih =>
      obtain ⟨hinf, hrest⟩ := List.forall_mem_cons.mp h
      have hlen := ih hrest
      have hreal : 3 ≤ inf.real.length := by
        rcases hinf.real_eq with ⟨-, hreal⟩ | ⟨-, hreal⟩
        · rw [hreal]; exact Nat.le_refl 3
        · rw [hreal]; exact Nat.le_add_right 3 2
      rw [realSensorInfData_cons, List.length_append, List.length_cons]
      omega

/-- The sensors stand behind `start` old ones. -/
structure ReadBack (sensors : List SensorInf) (start : ℕ) (old : ℕ → SensorInf)
    (r : (ℕ → SensorInf) × UInt8) : Prop where
  count : r.2.toNat = start + sensors.length
  before : ∀ i < start, r.1 i = old i
  same : ∀ i (hi : i < sensors.length), sensors[i].Same (r.1 (start + i))

/-- **The parser on served bytes**, from any entry on. -/
lemma parse_realSensorInfData {cfg : ElementConfig} {raw : Mem} (h : ∀ inf ∈ sensors, inf.IsReal)
    {idx : ℕ} {count : UInt8} {old : ℕ → SensorInf}
    (hraw : raw.read idx (realSensorInfData sensors).length = realSensorInfData sensors)
    (hcount : count.toNat + sensors.length < 256) :
    ReadBack sensors count.toNat old
      (parseSensorInfoFromRaw cfg raw (idx + (realSensorInfData sensors).length) idx count old).val := by
  induction sensors generalizing idx count old with
  | nil =>
      have hend : idx + (realSensorInfData []).length = idx := rfl
      rw [hend, parseSensorInfoFromRaw_of_ge (Nat.le_refl idx)]
      exact ⟨rfl, fun i _ => rfl, fun i hi => absurd hi (Nat.not_lt_zero i)⟩
  | cons inf sensors ih =>
      obtain ⟨hinf, hrest⟩ := List.forall_mem_cons.mp h
      rw [realSensorInfData_cons, List.length_append] at hraw ⊢
      rw [List.length_cons] at hcount
      rw [Mem.read_add] at hraw
      obtain ⟨hhead, htail⟩ := List.append_inj hraw (Mem.length_read _ _ _)
      obtain ⟨hlen, hsame⟩ := same_read hinf hhead (old count.toNat)
      have hpos := sensorLen_pos hlen
      have hnext : (count + 1).toNat = count.toNat + 1 := by
        rw [UInt8.toNat_add, UInt8.toNat_one]
        omega
      have hsum : idx + (inf.real.length + (realSensorInfData sensors).length)
          = idx + inf.real.length + (realSensorInfData sensors).length := (Nat.add_assoc _ _ _).symm
      rw [hsum, parseSensorInfoFromRaw_of_some (by omega) hlen]
      obtain ⟨ihcount, ihbefore, ihsame⟩ : ReadBack sensors (count + 1).toNat
          (Function.update old count.toNat ((old count.toNat).read raw idx))
          (parseSensorInfoFromRaw cfg raw (idx + inf.real.length + (realSensorInfData sensors).length)
            (idx + inf.real.length) (count + 1) _).val :=
        ih hrest htail (by rw [hnext]; omega)
      rw [hnext] at ihcount ihbefore ihsame
      refine ⟨?_, fun i hi => ?_, fun i hi => ?_⟩
      · rw [List.length_cons]
        exact ihcount.trans (by omega)
      · refine (ihbefore i (Nat.lt_succ_of_lt hi)).trans ?_
        exact Function.update_of_ne (Nat.ne_of_lt hi) _ _
      · cases i with
        | zero =>
            have hstored := ihbefore count.toNat (Nat.lt_succ_self _)
            rw [Function.update_self] at hstored
            rw [← hstored] at hsame
            exact hsame
        | succ i =>
            have hi' := ihsame i (Nat.lt_of_succ_lt_succ hi)
            have hplace : count.toNat + 1 + i = count.toNat + (i + 1) := by omega
            rw [hplace] at hi'
            exact hi'

/-- The layout of served bytes. -/
lemma sensorLayout_realSensorInfData (h : ∀ inf ∈ sensors, inf.IsReal) :
    sensorLayout (realSensorInfData sensors)
      = some (sensors.length, (realSensorInfData sensors).length) := by
  induction sensors with
  | nil => rw [realSensorInfData, List.flatMap_nil, sensorLayout]; rfl
  | cons inf sensors ih =>
      obtain ⟨hinf, hrest⟩ := List.forall_mem_cons.mp h
      rw [realSensorInfData_cons]
      rcases hinf.real_eq with ⟨hsize, hreal⟩ | ⟨hsize, hreal⟩
      · have hlen : sensorLen inf.size = some 3 := by rw [hsize]; rfl
        rw [hreal, List.cons_append, sensorLayout, hlen]
        show (sensorLayout (realSensorInfData sensors)).map _ = _
        rw [ih hrest]
        rfl
      · have hlen : sensorLen inf.size = some 5 := by rw [hsize]; rfl
        rw [hreal, SensorInf.bytes, List.cons_append, sensorLayout, hlen]
        show (sensorLayout (realSensorInfData sensors)).map _ = _
        rw [ih hrest]
        rfl

end Served

/-- **Sensor information goes through unchanged**: what the tag serves, in reads of any length, is parsed
into as many sensors with the same fields in the same order, and inside the arrays of the client. -/
theorem sensorInformation_roundTrip (cfg : ElementConfig) (sensors : List SensorInf)
    (hreal : ∀ inf ∈ sensors, inf.size = 0 ∨ inf.size = 1)
    (hfits : (realSensorInfData sensors).length ≤ btAttMaxAttributeLen) (len n : ℕ)
    (hserved : (realSensorInfData sensors).length ≤ n * len) (beyond : Mem) (old : ℕ → SensorInf) :
    let served := servedBytes sensors len n
    let r := parseSensorInfoFromRaw cfg (Mem.ofBytes served beyond) served.length 0 0 old
    r.val.2.toNat = sensors.length
      ∧ (∀ i (hi : i < sensors.length), sensors[i].Same (r.val.1 i))
      ∧ (ElementConfig.client.sensorMax ≤ cfg.sensorMax → r.Safe) := by
  intro served r
  have hall : served = realSensorInfData sensors := by
    show servedBytes sensors len n = _
    rw [servedBytes_eq, List.take_of_length_le hserved]
  have hmax : btAttMaxAttributeLen = 512 := rfl
  have hthree := three_mul_length_le hreal
  have hzero : (0 : UInt8).toNat = 0 := rfl
  have hr : r = parseSensorInfoFromRaw cfg (Mem.ofBytes (realSensorInfData sensors) beyond)
      (0 + (realSensorInfData sensors).length) 0 0 old := by
    show parseSensorInfoFromRaw cfg (Mem.ofBytes served beyond) served.length 0 0 old = _
    rw [hall, Nat.zero_add]
  obtain ⟨hcount, -, hsame⟩ : ReadBack sensors (0 : UInt8).toNat old r.val := by
    rw [hr]
    exact parse_realSensorInfData hreal (Mem.read_ofBytes _ _) (by rw [hzero]; omega)
  rw [hzero] at hcount hsame
  refine ⟨hcount.trans (Nat.zero_add _), fun i hi => ?_, fun hclient => ?_⟩
  · have hi' := hsame i hi
    rw [Nat.zero_add] at hi'
    exact hi'
  · have hclientMax : ElementConfig.client.sensorMax = 170 := rfl
    rw [hr, Nat.zero_add]
    refine (safe_parseSensorInfoFromRaw_zero (fun i hi => Mem.ofBytes_of_lt hi) old).mpr
      ⟨_, sensorLayout_realSensorInfData hreal, ?_, hfits⟩
    show sensors.length ≤ cfg.sensorMax
    omega

/-- A temperature and a vendor sensor, in two reads of 5 bytes. -/
theorem sensorInformation_two :
    let sensors : List SensorInf := [⟨0, 0x004F, 0⟩, ⟨1, 0x0059, 0x1234⟩]
    let served := servedBytes sensors 5 2
    let r := parseSensorInfoFromRaw .client (Mem.ofBytes served fun _ => 0) served.length 0 0
      fun _ => ⟨0, 0, 0⟩
    r.val.2.toNat = 2 ∧ (∀ i (hi : i < 2), sensors[i].Same (r.val.1 i)) ∧ r.Safe := by
  intro sensors served r
  obtain ⟨hcount, hsame, hsafe⟩ := sensorInformation_roundTrip .client sensors (by decide) (by decide)
    5 2 (by decide) (fun _ => 0) fun _ => ⟨0, 0, 0⟩
  exact ⟨hcount, hsame, hsafe (Nat.le_refl _)⟩

end NrfEsl
