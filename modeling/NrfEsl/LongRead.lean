import NrfEsl.Ap.ReadLong
import NrfEsl.MultipleRead
import NrfEsl.SensorInformation

/-!
# Long reads

A long read fetches a value in pieces.  How many there are depends on the connection, and the tag
computes each of them anew from an offset.

**What should hold** (`ReadBackAll`).  Whatever reads there have been before, of whichever connection and
however they ended, `bt_esl_c_read_chrc` returns with the elements of the tag in the record of its
connection, and nothing else is changed.

**When it does** (`longRead_roundTrip`).  The stack takes the reads, they come to their end, and the
elements fit in the arrays of the access point.  What is stored is then what a multiple read stores when
each value comes in one piece.

**A read that is refused** is waited for all the same (`isSome_btEslCReadChrc`); an error in the middle of
one is not.

**The image information** is different on both sides.  `esl_image_read` claims a byte at every offset,
so that a client that goes on reading never comes to an end; `esl_c_read_img_inf` does not go on.
-/

namespace NrfEsl

/-! ## What a tag serves -/

/-- `struct esl_disp_inf`, packed. -/
structure DispInf where
  width : UInt16
  height : UInt16
  type : UInt8
  deriving DecidableEq, Repr

def DispInf.bytes (inf : DispInf) : List UInt8 :=
  [lowByte inf.width, highByte inf.width, lowByte inf.height, highByte inf.height, inf.type]

/-- Entry `i` of an array. -/
def DispInf.ofMem (m : Mem) (i : ℕ) : DispInf where
  width := sysGetLe16 m (dispInfSize * i)
  height := sysGetLe16 m (dispInfSize * i + 2)
  type := m (dispInfSize * i + 4)

/-- The elements of a tag. -/
structure TagElements where
  displays : List DispInf
  maxImageIndex : UInt8
  sensors : List SensorInf
  ledType : List UInt8

/-- `bt_gatt_attr_read`: at most `len` bytes from an offset on. -/
def btGattAttrRead (value : List UInt8) (len offset : ℕ) : List UInt8 := (value.drop offset).take len

/-- `esl_image_read` claims one byte, and behind the index it is what the buffer held. -/
def eslImageRead (maxImageIndex stale : UInt8) (len offset : ℕ) : List UInt8 :=
  btGattAttrRead [maxImageIndex] len offset ++ if btGattAttrRead [maxImageIndex] len offset = [] then
    [stale] else []

/-- `esl_disp_read`, `esl_image_read`, `esl_sensor_read` and `esl_led_read`. -/
def TagElements.read (t : TagElements) (stale : UInt8) : ReadField → ℕ → ℕ → List UInt8
  | .display => btGattAttrRead (t.displays.flatMap DispInf.bytes)
  | .image => eslImageRead t.maxImageIndex stale
  | .sensor => eslSensorRead t.sensors
  | .led => btGattAttrRead t.ledType
  | .pnpId => fun _ _ => []

/-- The value of a characteristic. -/
def TagElements.value (t : TagElements) : ReadField → List UInt8
  | .display => t.displays.flatMap DispInf.bytes
  | .image => [t.maxImageIndex]
  | .sensor => realSensorInfData t.sensors
  | .led => t.ledType
  | .pnpId => []

/-- Pieces that a client gets, each by a read where the last one ended. -/
def Pieces (read : ℕ → ℕ → List UInt8) : ℕ → List (List UInt8) → Prop
  | _, [] => True
  | offset, data :: pieces =>
      (∃ len, 0 < len ∧ read len offset = data) ∧ data ≠ [] ∧ Pieces read (offset + data.length) pieces

/-- A read of a tag that comes to its end. -/
structure LongRead.ServedBy (r : LongRead) (read : ℕ → ℕ → List UInt8) : Prop where
  gattErr : r.gattErr = 0
  err : r.err = 0
  pieces : Pieces read 0 r.pieces
  /-- The last read is empty. -/
  ends : ∃ len, 0 < len ∧ read len r.pieces.flatten.length = []

/-- A read of the image information, of which the stack delivers the first piece at least. -/
structure LongRead.ServedImage (r : LongRead) (read : ℕ → ℕ → List UInt8) : Prop where
  gattErr : r.gattErr = 0
  pieces : Pieces read 0 r.pieces
  starts : r.pieces ≠ []

/-! ## Specification -/

/-- What a long read has to leave in the record of its connection. -/
structure ReadBackAll (t : TagElements) (p : LongReadProcedure) (e : ElementInfo) : Prop where
  displays : p.available .display = true → e.displayCount.toNat = t.displays.length
    ∧ ∀ i (hi : i < t.displays.length), DispInf.ofMem e.displays i = t.displays[i]
  image : p.available .image = true → e.maxImageIndex = t.maxImageIndex
  /-- Sensors of unknown sizes are not served. -/
  sensors : p.available .sensor = true →
    let real := t.sensors.filter fun inf => inf.size = 0 ∨ inf.size = 1
    e.sensorCount.toNat = real.length ∧ ∀ i (hi : i < real.length), real[i].Same (e.sensors i)
  leds : p.available .led = true → e.ledCount.toNat = t.ledType.length
    ∧ e.ledType.read 0 t.ledType.length = t.ledType

/-- The elements of a tag fit in the arrays of an access point. -/
structure TagElements.Fit (t : TagElements) (cfg : ElementConfig) : Prop where
  displays : t.displays.length ≤ cfg.displayMax
  displayMax : cfg.displayMax < 2 ^ 16
  sensors : (t.sensors.filter fun inf => inf.size = 0 ∨ inf.size = 1).length ≤ cfg.sensorMax
  sensorBytes : (realSensorInfData t.sensors).length ≤ btAttMaxAttributeLen
  leds : t.ledType.length ≤ cfg.ledMax
  ledMax : cfg.ledMax < 2 ^ 16

/-- The stack takes all reads, and they come to their end. -/
structure LongReadProcedure.ServedBy (p : LongReadProcedure) (t : TagElements) (stale : UInt8) :
    Prop where
  connected : p.connected = true
  image : p.available .image = true → (p.reads .image).ServedImage (t.read stale .image)
  others : ∀ field, field ≠ .image → p.available field = true →
    (p.reads field).ServedBy (t.read stale field)

/-- The fields a long read is about. -/
def ReadField.long : List ReadField := [.display, .image, .sensor, .led]

/-- The values of the characteristics the tag has. -/
def LongReadProcedure.values (p : LongReadProcedure) (t : TagElements) : List (ReadField × List UInt8) :=
  (ReadField.long.filter p.available).map fun field => (field, t.value field)

/-! ## Pieces -/

section Pieces

variable {value : List UInt8} {offset : ℕ} {pieces : List (List UInt8)}

/-- **However a value is cut**, the pieces make up the value. -/
lemma flatten_pieces (h : Pieces (btGattAttrRead value) offset pieces) {len : ℕ} (hlen : 0 < len)
    (hend : btGattAttrRead value len (offset + pieces.flatten.length) = []) :
    pieces.flatten = value.drop offset := by
  induction pieces generalizing offset with
  | nil =>
      rw [List.flatten_nil, List.length_nil, Nat.add_zero, btGattAttrRead, List.take_eq_nil_iff] at hend
      rw [List.flatten_nil, hend.resolve_left (Nat.ne_of_gt hlen)]
  | cons data pieces ih =>
      obtain ⟨⟨n, -, hdata⟩, -, hrest⟩ := h
      rw [List.flatten_cons, List.length_append, ← Nat.add_assoc] at hend
      have hle : data = (value.drop offset).take data.length := by
        rw [btGattAttrRead] at hdata
        have htake := congrArg List.length hdata
        rw [List.length_take] at htake
        rw [← htake, ← hdata]
        simp
      rw [List.flatten_cons, ih hrest hend, ← List.drop_drop]
      calc data ++ (value.drop offset).drop data.length
          = (value.drop offset).take data.length ++ (value.drop offset).drop data.length := by rw [← hle]
        _ = value.drop offset := List.take_append_drop _ _

lemma LongRead.ServedBy.flatten_pieces {r : LongRead} (h : r.ServedBy (btGattAttrRead value)) :
    r.pieces.flatten = value := by
  obtain ⟨len, hlen, hend⟩ := h.ends
  rw [NrfEsl.flatten_pieces h.pieces hlen (by rwa [Nat.zero_add]), List.drop_zero]

/-- The first piece of the image information is all of it. -/
lemma LongRead.ServedImage.exists_pieces {r : LongRead} {maxImageIndex stale : UInt8}
    (h : r.ServedImage (eslImageRead maxImageIndex stale)) :
    ∃ rest, r.pieces = [maxImageIndex] :: rest := by
  obtain ⟨data, rest, hr⟩ := List.exists_cons_of_ne_nil h.starts
  have hpieces := h.pieces
  rw [hr] at hpieces ⊢
  obtain ⟨⟨len, hlen, hdata⟩, -, -⟩ := hpieces
  obtain ⟨n, rfl⟩ := Nat.exists_eq_add_of_le' (show 1 ≤ len from hlen)
  exact ⟨rest, by rw [← hdata]; simp [eslImageRead, btGattAttrRead]⟩

end Pieces

/-! ## One read -/

section Read

variable {cfg : ElementConfig} {connIdx : ℕ}

/-- A callback that puts the pieces one behind the other.  `store` is what it does with one. -/
structure Collects (callback : ReadCallback) (size : ℕ) (store : List UInt8 → ClientReads → ClientReads) :
    Prop where
  piece : ∀ data s, callback 0 (some data) s = (do
    Traced.access (.write size s.chrcReadOffset data.length)
    pure (.goOn, store data s))
  append : ∀ xs ys s, store ys (store xs s) = store (xs ++ ys) s
  nil : ∀ s, store [] s = s
  offset : ∀ data s, (store data s).chrcReadOffset = s.chrcReadOffset + data.length

/-- **The pieces are stored as one**, and within the bounds if the whole fits. -/
lemma Collects.deliverPieces {callback : ReadCallback} {size : ℕ}
    {store : List UInt8 → ClientReads → ClientReads} (h : Collects callback size store) (err : UInt8)
    (pieces : List (List UInt8)) {s : ClientReads}
    (hfits : s.chrcReadOffset + pieces.flatten.length ≤ size) :
    (deliverPieces callback err pieces s).val = (callback err none (store pieces.flatten s)).val.2
      ∧ ((callback err none (store pieces.flatten s)).Safe →
        (deliverPieces callback err pieces s).Safe) := by
  induction pieces generalizing s with
  | nil =>
      rw [List.flatten_nil, h.nil, NrfEsl.deliverPieces]
      exact ⟨rfl, fun hsafe => by simp [hsafe]⟩
  | cons data pieces ih =>
      rw [List.flatten_cons, List.length_append] at hfits
      obtain ⟨hval, hsafe⟩ := ih (s := store data s) (by rw [h.offset]; omega)
      rw [List.flatten_cons, ← h.append, NrfEsl.deliverPieces, h.piece]
      refine ⟨hval, fun hend => ?_⟩
      simp only [Traced.safe_bind, Traced.safe_access, Traced.safe_pure, and_true, Access.Safe]
      exact ⟨by omega, hsafe hend⟩

lemma collects_disp : Collects (eslCReadDispInf cfg connIdx) (cfg.displayMax * dispInfSize)
    (fun data s => { s.onElements connIdx fun e =>
      { e with displays := e.displays.write s.chrcReadOffset data } with
        chrcReadOffset := s.chrcReadOffset + data.length }) where
  piece _ _ := rfl
  append xs ys s := by
    simp [ClientReads.onElements, Mem.write_append, Nat.add_assoc]
  nil s := by simp [ClientReads.onElements]
  offset _ _ := rfl

lemma collects_sensor : Collects (eslCReadSensorInf cfg connIdx) btAttMaxAttributeLen
    (fun data s => { s with
      sensorTempBuf := s.sensorTempBuf.write s.chrcReadOffset data
      chrcReadOffset := s.chrcReadOffset + data.length }) where
  piece _ _ := rfl
  append xs ys s := by simp [Mem.write_append, Nat.add_assoc]
  nil s := by simp
  offset _ _ := rfl

lemma collects_led : Collects (eslCReadLedInf cfg connIdx) cfg.ledMax
    (fun data s => { s.onElements connIdx fun e =>
      { e with ledType := e.ledType.write s.chrcReadOffset data } with
        chrcReadOffset := s.chrcReadOffset + data.length }) where
  piece _ _ := rfl
  append xs ys s := by
    simp [ClientReads.onElements, Mem.write_append, Nat.add_assoc]
  nil s := by simp [ClientReads.onElements]
  offset _ _ := rfl

/-- A value as a whole in the fields of a record. -/
def storeWhole (cfg : ElementConfig) (field : ReadField) (v : List UInt8) (e : ElementInfo) : ElementInfo :=
  (storeField cfg field v (fun _ => 0) e).val.2

/-- A read is over, and the value is in the record if the tag has it. -/
structure ReadDone (cfg : ElementConfig) (field : ReadField) (p : LongReadProcedure) (v : List UInt8)
    (s : ClientReads) (x : Traced (Option ClientReads)) : Prop where
  safe : x.Safe
  returns : ∃ s', x.val = some s' ∧ s'.elements = Function.update s.elements p.connIdx
    (if p.available field then storeWhole cfg field v (s.elements p.connIdx)
      else s.elements p.connIdx)

variable {callback : ReadCallback} {field : ReadField} {p : LongReadProcedure} {v : List UInt8}
  {s : ClientReads}

/-- A characteristic that the tag does not have. -/
lemma readDone_of_not_available (h : p.available field = false) :
    ReadDone cfg field p v s (readChrc callback field p s) := by
  rw [readChrc, if_pos h]
  refine ⟨Traced.safe_pure _, s, rfl, ?_⟩
  simp [h]

/-- The state a read starts from. -/
def ClientReads.begin (field : ReadField) (s : ClientReads) : ClientReads :=
  { s with
    flag := Function.update s.flag field false
    chrcReadOffset := 0
    sensorTempBuf := if field = .sensor then fun _ => 0 else s.sensorTempBuf }

lemma readChrc_of_available (h : p.available field = true) (hgatt : (p.reads field).gattErr = 0) :
    readChrc callback field p s = (do
      let s ← deliverPieces callback (p.reads field).err (p.reads field).pieces (s.begin field)
      pure (if s.flag field then some s else none)) := by
  rw [readChrc, if_neg (by simp [h]), hgatt]
  rfl

/-- A read of which the callback sets the flag. -/
lemma readDone_of_deliver (h : p.available field = true) (hgatt : (p.reads field).gattErr = 0)
    {s' : ClientReads}
    (hval : (deliverPieces callback (p.reads field).err (p.reads field).pieces (s.begin field)).val = s')
    (hsafe : (deliverPieces callback (p.reads field).err (p.reads field).pieces (s.begin field)).Safe)
    (hflag : s'.flag field = true)
    (helements : s'.elements = Function.update s.elements p.connIdx
      (storeWhole cfg field v (s.elements p.connIdx))) :
    ReadDone cfg field p v s (readChrc callback field p s) := by
  rw [readChrc_of_available h hgatt]
  refine ⟨by simp [hsafe], s', ?_, by rw [if_pos h]; exact helements⟩
  rw [Traced.val_bind, hval, Traced.val_pure, if_pos hflag]

lemma readDone_disp {read : ℕ → ℕ → List UInt8}
    (h : p.available .display = true → (p.reads .display).ServedBy read)
    (hread : read = btGattAttrRead v) (hfits : v.length ≤ cfg.displayMax * dispInfSize) :
    ReadDone cfg .display p v s (readChrc (eslCReadDispInf cfg p.connIdx) .display p s) := by
  cases havail : p.available .display with
  | false => exact readDone_of_not_available havail
  | true =>
      have hr := h havail
      have hv : (p.reads .display).pieces.flatten = v := (hread ▸ hr).flatten_pieces
      have hdeliver := (@collects_disp cfg p.connIdx).deliverPieces (p.reads .display).err
        (p.reads .display).pieces (s := s.begin .display) (by
          rw [hv]
          simpa [ClientReads.begin] using hfits)
      rw [hv] at hdeliver
      refine readDone_of_deliver havail hr.gattErr hdeliver.1 (hdeliver.2 ?_) ?_ ?_
      · simp [eslCReadDispInf, hr.err]
      · simp [eslCReadDispInf, hr.err, ClientReads.setFlag]
      · simp [eslCReadDispInf, hr.err, ClientReads.setFlag, ClientReads.onElements, ClientReads.begin,
          storeWhole, storeField]

lemma readDone_img {maxImageIndex stale : UInt8}
    (h : p.available .image = true →
      (p.reads .image).ServedImage (eslImageRead maxImageIndex stale)) :
    ReadDone cfg .image p [maxImageIndex] s (readChrc (eslCReadImgInf p.connIdx) .image p s) := by
  cases havail : p.available .image with
  | false => exact readDone_of_not_available havail
  | true =>
      have hr := h havail
      obtain ⟨rest, hpieces⟩ := hr.exists_pieces
      have hval : ∀ s, (deliverPieces (eslCReadImgInf p.connIdx) (p.reads .image).err
          (p.reads .image).pieces s).val = (eslCReadImgInf p.connIdx 0 (some [maxImageIndex]) s).val.2 := by
        intro s
        rw [hpieces]
        rfl
      refine readDone_of_deliver havail hr.gattErr (hval _) ?_ ?_ ?_
      · rw [hpieces]
        simp [deliverPieces, eslCReadImgInf, Access.Safe]
      · simp [eslCReadImgInf, ClientReads.setFlag]
      · simp [eslCReadImgInf, ClientReads.setFlag, ClientReads.onElements, ClientReads.begin, storeWhole,
          storeField]

lemma readDone_sensor {read : ℕ → ℕ → List UInt8}
    (h : p.available .sensor = true → (p.reads .sensor).ServedBy read)
    (hread : read = btGattAttrRead v) (hfits : Fits cfg .sensor v) :
    ReadDone cfg .sensor p v s (readChrc (eslCReadSensorInf cfg p.connIdx) .sensor p s) := by
  cases havail : p.available .sensor with
  | false => exact readDone_of_not_available havail
  | true =>
      have hr := h havail
      have hv : (p.reads .sensor).pieces.flatten = v := (hread ▸ hr).flatten_pieces
      have hlen : v.length ≤ btAttMaxAttributeLen := by
        obtain ⟨q, hq, -, hle⟩ := hfits
        exact Nat.le_trans (length_le_of_sensorLayout hq) hle
      have hdeliver := (@collects_sensor cfg p.connIdx).deliverPieces (p.reads .sensor).err
        (p.reads .sensor).pieces (s := s.begin .sensor) (by
          rw [hv]
          simpa [ClientReads.begin] using hlen)
      rw [hv] at hdeliver
      have hparse : (parseSensorInfoFromRaw cfg (Mem.write (fun _ => 0) 0 v) v.length 0 0
          (s.elements p.connIdx).sensors).Safe := by
        have hstore := (@safe_storeField cfg .sensor v (fun _ => 0) (s.elements p.connIdx)).mpr hfits
        simp only [storeField, Traced.safe_bind] at hstore
        exact hstore.2.1
      refine readDone_of_deliver havail hr.gattErr hdeliver.1 (hdeliver.2 ?_) ?_ ?_
      · simpa [eslCReadSensorInf, hr.err, ClientReads.begin] using hparse
      · simp [eslCReadSensorInf, hr.err, ClientReads.setFlag]
      · simp [eslCReadSensorInf, hr.err, ClientReads.setFlag, ClientReads.onElements, ClientReads.begin,
          storeWhole, storeField]

lemma readDone_led {read : ℕ → ℕ → List UInt8}
    (h : p.available .led = true → (p.reads .led).ServedBy read)
    (hread : read = btGattAttrRead v) (hfits : v.length ≤ cfg.ledMax) :
    ReadDone cfg .led p v s (readChrc (eslCReadLedInf cfg p.connIdx) .led p s) := by
  cases havail : p.available .led with
  | false => exact readDone_of_not_available havail
  | true =>
      have hr := h havail
      have hv : (p.reads .led).pieces.flatten = v := (hread ▸ hr).flatten_pieces
      have hdeliver := (@collects_led cfg p.connIdx).deliverPieces (p.reads .led).err
        (p.reads .led).pieces (s := s.begin .led) (by
          rw [hv]
          simpa [ClientReads.begin] using hfits)
      rw [hv] at hdeliver
      refine readDone_of_deliver havail hr.gattErr hdeliver.1 (hdeliver.2 ?_) ?_ ?_
      · simp [eslCReadLedInf, hr.err]
      · simp [eslCReadLedInf, hr.err, ClientReads.setFlag]
      · simp [eslCReadLedInf, hr.err, ClientReads.setFlag, ClientReads.onElements, ClientReads.begin,
          storeWhole, storeField]

end Read

/-! ## All of them -/

section All

variable {cfg : ElementConfig} {p : LongReadProcedure} {vs : List (ReadField × List UInt8)}
  {s : ClientReads} {x : Traced (Option ClientReads)}

lemma storeAll_concat (vs : List (ReadField × List UInt8)) (y : ReadField × List UInt8)
    (e : ElementInfo) :
    storeAll cfg (vs ++ [y]) e = storeWhole cfg y.1 y.2 (storeAll cfg vs e) := by
  induction vs generalizing e with
  | nil => rfl
  | cons z vs ih => exact ih _

/-- Some reads are over, and their values are in the record. -/
structure AllDone (cfg : ElementConfig) (p : LongReadProcedure) (vs : List (ReadField × List UInt8))
    (s : ClientReads) (x : Traced (Option ClientReads)) : Prop where
  safe : x.Safe
  returns : ∃ s', x.val = some s' ∧ s'.elements = Function.update s.elements p.connIdx
    (storeAll cfg vs (s.elements p.connIdx))

/-- One more read. -/
lemma AllDone.thenRead (h : AllDone cfg p vs s x) {callback : ReadCallback} {field : ReadField}
    {v : List UInt8} (hread : ∀ s, ReadDone cfg field p v s (readChrc callback field p s)) :
    AllDone cfg p (vs ++ if p.available field then [(field, v)] else []) s
      (thenRead x (readChrc callback field p)) := by
  obtain ⟨s₁, hs₁, helements₁⟩ := h.returns
  obtain ⟨s₂, hs₂, helements₂⟩ := (hread s₁).returns
  refine ⟨?_, s₂, ?_, ?_⟩
  · rw [NrfEsl.thenRead, Traced.safe_bind, hs₁]
    exact ⟨h.safe, (hread s₁).safe⟩
  · rw [NrfEsl.thenRead, Traced.val_bind, hs₁]
    exact hs₂
  · rw [helements₂, helements₁, Function.update_self, Function.update_idem]
    cases p.available field with
    | false => rw [if_neg (by decide), if_neg (by decide), List.append_nil]
    | true => rw [if_pos rfl, if_pos rfl, storeAll_concat]

end All

section RoundTrip

variable {cfg : ElementConfig} {t : TagElements} {p : LongReadProcedure}

lemma length_flatMap_bytes (displays : List DispInf) :
    (displays.flatMap DispInf.bytes).length = dispInfSize * displays.length := by
  induction displays with
  | nil => rfl
  | cons inf displays ih =>
      rw [List.flatMap_cons, List.length_append, ih, List.length_cons, Nat.mul_succ, Nat.add_comm]
      rfl

/-- Every display information stands where the array has it. -/
lemma read_dispInf {m : Mem} {off : ℕ} {displays : List DispInf}
    (h : m.read off (displays.flatMap DispInf.bytes).length = displays.flatMap DispInf.bytes) (i : ℕ)
    (hi : i < displays.length) : m.read (off + dispInfSize * i) dispInfSize = displays[i].bytes := by
  induction displays generalizing off i with
  | nil => exact absurd hi (Nat.not_lt_zero i)
  | cons inf displays ih =>
      rw [List.flatMap_cons, List.length_append, Mem.read_add] at h
      obtain ⟨hhead, htail⟩ := List.append_inj h (by simp)
      cases i with
      | zero => exact hhead
      | succ i =>
          have hi' := ih htail i (Nat.lt_of_succ_lt_succ hi)
          rw [show off + dispInfSize * (i + 1) = off + inf.bytes.length + dispInfSize * i by
            show off + 5 * (i + 1) = off + 5 + 5 * i
            omega]
          exact hi'

lemma ofMem_of_read {m : Mem} {i : ℕ} {inf : DispInf}
    (h : m.read (dispInfSize * i) dispInfSize = inf.bytes) : DispInf.ofMem m i = inf := by
  obtain ⟨h₀, h₁, h₂, h₃, h₄⟩ : m (dispInfSize * i) = lowByte inf.width
      ∧ m (dispInfSize * i + 1) = highByte inf.width ∧ m (dispInfSize * i + 2) = lowByte inf.height
      ∧ m (dispInfSize * i + 3) = highByte inf.height ∧ m (dispInfSize * i + 4) = inf.type := by
    simpa [DispInf.bytes, Mem.read, List.range_succ, dispInfSize] using h
  rw [DispInf.ofMem, sysGetLe16_eq h₀ h₁, sysGetLe16_eq h₂ h₃, h₄]

/-- Sensors of unknown sizes take no bytes. -/
lemma realSensorInfData_filter (sensors : List SensorInf) :
    realSensorInfData (sensors.filter fun inf => inf.size = 0 ∨ inf.size = 1)
      = realSensorInfData sensors := by
  induction sensors with
  | nil => rfl
  | cons inf sensors ih =>
      rw [realSensorInfData_cons, ← ih]
      by_cases hreal : inf.size = 0 ∨ inf.size = 1
      · rw [List.filter_cons_of_pos (by simpa using hreal), realSensorInfData_cons]
      · have hnone : sensorLen inf.size = none := by
          rw [sensorLen, if_neg fun h => hreal (.inl h), if_neg fun h => hreal (.inr h)]
        rw [List.filter_cons_of_neg (by simpa using hreal), SensorInf.real, hnone]
        rfl

lemma isReal_of_mem {sensors : List SensorInf} :
    ∀ inf ∈ sensors.filter fun inf => inf.size = 0 ∨ inf.size = 1, inf.IsReal := by
  intro inf hinf
  simpa [SensorInf.IsReal] using (List.mem_filter.mp hinf).2

/-- The sensors the tag serves. -/
lemma fits_sensor (hfit : t.Fit cfg) : Fits cfg .sensor (realSensorInfData t.sensors) := by
  have hlayout := sensorLayout_realSensorInfData (@isReal_of_mem t.sensors)
  rw [realSensorInfData_filter] at hlayout
  exact ⟨_, hlayout, hfit.sensors, hfit.sensorBytes⟩

/-- A field of the record is that of its own characteristic, the values of the others do not matter. -/
lemma storeAll_values (cfg : ElementConfig) (p : LongReadProcedure) (t : TagElements)
    (e : ElementInfo) :
    (p.available .display = true → (storeAll cfg (p.values t) e).displays
        = e.displays.write 0 (t.value .display)
      ∧ (storeAll cfg (p.values t) e).displayCount
        = UInt16.ofNat ((t.value .display).length / dispInfSize))
    ∧ (p.available .image = true → (storeAll cfg (p.values t) e).maxImageIndex = t.maxImageIndex)
    ∧ (p.available .sensor = true → ∀ r,
      r = (parseSensorInfoFromRaw cfg (Mem.write (fun _ => 0) 0 (t.value .sensor))
        (t.value .sensor).length 0 0 e.sensors).val →
      (storeAll cfg (p.values t) e).sensors = r.1
        ∧ (storeAll cfg (p.values t) e).sensorCount = r.2.toUInt16)
    ∧ (p.available .led = true → (storeAll cfg (p.values t) e).ledType = e.ledType.write 0 (t.value .led)
      ∧ (storeAll cfg (p.values t) e).ledCount = UInt16.ofNat (t.value .led).length) := by
  cases hd : p.available .display <;> cases hi : p.available .image <;>
    cases hs : p.available .sensor <;> cases hl : p.available .led <;>
    simp [LongReadProcedure.values, ReadField.long, hd, hi, hs, hl, storeAll, storeField,
      TagElements.value]

/-- What is stored is what the tag has. -/
lemma readBackAll (hfit : t.Fit cfg) (e : ElementInfo) :
    ReadBackAll t p (storeAll cfg (p.values t) e) := by
  obtain ⟨hdisplay, himage, hsensor, hled⟩ := storeAll_values cfg p t e
  refine ⟨fun h => ?_, himage, fun h => ?_, fun h => ?_⟩
  · obtain ⟨hmem, hcount⟩ := hdisplay h
    have hlen : (t.value .display).length = dispInfSize * t.displays.length := length_flatMap_bytes _
    have hmax := hfit.displays
    have hsize := hfit.displayMax
    refine ⟨?_, fun i hi => ?_⟩
    · rw [hcount, hlen, Nat.mul_div_cancel_left _ (by decide), UInt16.toNat_ofNat']
      exact Nat.mod_eq_of_lt (by omega)
    · rw [hmem]
      refine ofMem_of_read ?_
      have hread := read_dispInf (Mem.read_write e.displays 0 (t.value .display)) i hi
      rwa [Nat.zero_add] at hread
  · intro real
    have hreal : ∀ inf ∈ real, inf.IsReal := isReal_of_mem
    have hvalue : t.value .sensor = realSensorInfData real := (realSensorInfData_filter _).symm
    obtain ⟨hsensors, hcount⟩ := hsensor h _ rfl
    have hthree := three_mul_length_le hreal
    have hbytes : (realSensorInfData real).length ≤ 512 := hvalue ▸ hfit.sensorBytes
    have hback : ReadBack real (0 : UInt8).toNat e.sensors (parseSensorInfoFromRaw cfg
        (Mem.write (fun _ => 0) 0 (t.value .sensor)) (0 + (realSensorInfData real).length) 0 0
        e.sensors).val := by
      refine parse_realSensorInfData hreal ?_ ?_
      · rw [hvalue]
        exact Mem.read_write _ 0 _
      · show 0 + real.length < 256
        omega
    rw [Nat.zero_add, ← hvalue] at hback
    have hzero : (0 : UInt8).toNat = 0 := rfl
    refine ⟨?_, fun i hi => ?_⟩
    · rw [hcount, UInt8.toNat_toUInt16, hback.count, hzero, Nat.zero_add]
    · have hsame := hback.same i hi
      rw [hzero, Nat.zero_add] at hsame
      rw [hsensors]
      exact hsame
  · obtain ⟨hmem, hcount⟩ := hled h
    have hmax := hfit.leds
    have hsize := hfit.ledMax
    refine ⟨?_, ?_⟩
    · rw [hcount, UInt16.toNat_ofNat']
      exact Nat.mod_eq_of_lt (show t.ledType.length < 2 ^ 16 by omega)
    · rw [hmem]
      exact Mem.read_write e.ledType 0 _

end RoundTrip

/-! ## When a long read returns -/

section Returns

variable {cfg : ElementConfig} {p : LongReadProcedure} {field : ReadField} {callback : ReadCallback}

/-- A callback does not stop without setting the flag, and stops at the end. -/
structure SetsFlag (callback : ReadCallback) (field : ReadField) : Prop where
  stop : ∀ err data s, (callback err data s).val.1 = .stop → (callback err data s).val.2.flag field = true
  ends : ∀ err s, (callback err none s).val.1 = .stop

lemma setsFlag_disp : SetsFlag (eslCReadDispInf cfg p.connIdx) .display := by
  refine ⟨fun err data s h => ?_, fun err s => ?_⟩
  · by_cases herr : err = 0
    · cases data <;> simp_all [eslCReadDispInf, ClientReads.setFlag]
    · simp [eslCReadDispInf, herr, ClientReads.setFlag]
  · by_cases herr : err = 0 <;> simp [eslCReadDispInf, herr]

lemma setsFlag_img : SetsFlag (eslCReadImgInf p.connIdx) .image := by
  refine ⟨fun err data s h => ?_, fun err s => ?_⟩
  · by_cases herr : err = 0 <;> simp [eslCReadImgInf, herr, ClientReads.setFlag]
  · by_cases herr : err = 0 <;> simp [eslCReadImgInf, herr]

lemma setsFlag_sensor : SetsFlag (eslCReadSensorInf cfg p.connIdx) .sensor := by
  refine ⟨fun err data s h => ?_, fun err s => ?_⟩
  · by_cases herr : err = 0
    · cases data <;> simp_all [eslCReadSensorInf, ClientReads.setFlag]
    · simp [eslCReadSensorInf, herr, ClientReads.setFlag]
  · by_cases herr : err = 0 <;> simp [eslCReadSensorInf, herr]

lemma setsFlag_led : SetsFlag (eslCReadLedInf cfg p.connIdx) .led := by
  refine ⟨fun err data s h => ?_, fun err s => ?_⟩
  · by_cases herr : err = 0
    · cases data <;> simp_all [eslCReadLedInf, ClientReads.setFlag]
    · simp [eslCReadLedInf, herr, ClientReads.setFlag]
  · by_cases herr : err = 0 <;> simp [eslCReadLedInf, herr]

/-- However the read goes, the flag is set in the end. -/
lemma SetsFlag.deliverPieces (h : SetsFlag callback field) (err : UInt8)
    (pieces : List (List UInt8)) (s : ClientReads) :
    (deliverPieces callback err pieces s).val.flag field = true := by
  induction pieces generalizing s with
  | nil => exact h.stop err none s (h.ends err s)
  | cons data pieces ih =>
      rw [NrfEsl.deliverPieces, Traced.val_bind]
      cases hiter : (callback 0 (some data) s).val.1 with
      | stop => exact h.stop 0 (some data) s hiter
      | goOn => exact ih _

/-- Nothing but a refusal keeps a read from its end. -/
lemma SetsFlag.isSome_readChrc (h : SetsFlag callback field) (s : ClientReads) :
    (readChrc callback field p s).val.isSome
      ↔ (p.available field = true → (p.reads field).gattErr = 0) := by
  cases havail : p.available field with
  | false => simp [readChrc, havail]
  | true =>
      by_cases hgatt : (p.reads field).gattErr = 0
      · rw [readChrc_of_available havail hgatt, Traced.val_bind, Traced.val_pure,
          if_pos (h.deliverPieces _ _ _)]
        exact iff_of_true rfl fun _ => hgatt
      · simp [readChrc, havail, hgatt]

lemma isSome_thenRead {x : Traced (Option ClientReads)}
    {f : ClientReads → Traced (Option ClientReads)} {c : Prop} (hf : ∀ s, (f s).val.isSome ↔ c) :
    (thenRead x f).val.isSome ↔ x.val.isSome ∧ c := by
  rw [thenRead, Traced.val_bind]
  cases x.val with
  | none => simp
  | some s => simp [hf s]

end Returns

/-- **A long read returns** exactly when the stack takes the reads; their errors do not matter. -/
theorem isSome_btEslCReadChrc (cfg : ElementConfig) (p : LongReadProcedure) (s : ClientReads) :
    (btEslCReadChrc cfg p s).val.isSome ↔ (p.connected = true → ∀ field ∈ ReadField.long,
      p.available field = true → (p.reads field).gattErr = 0) := by
  cases hconn : p.connected with
  | false => simp [btEslCReadChrc, hconn]
  | true =>
      rw [btEslCReadChrc, if_neg (by simp [hconn]), isSome_thenRead setsFlag_led.isSome_readChrc,
        isSome_thenRead setsFlag_sensor.isSome_readChrc, isSome_thenRead setsFlag_img.isSome_readChrc,
        setsFlag_disp.isSome_readChrc]
      simp [ReadField.long, and_assoc]

/-- **Long reads give the elements of the tag**, from any state of the variables, however the values are
cut into pieces; the record is what a multiple read makes of the whole values. -/
theorem longRead_roundTrip (cfg : ElementConfig) (t : TagElements) (stale : UInt8)
    (p : LongReadProcedure) (hserved : p.ServedBy t stale) (hfit : t.Fit cfg) (s : ClientReads) :
    (btEslCReadChrc cfg p s).Safe ∧ ∃ s', (btEslCReadChrc cfg p s).val = some s'
      ∧ (∀ connIdx ≠ p.connIdx, s'.elements connIdx = s.elements connIdx)
      ∧ s'.elements p.connIdx = storeAll cfg (p.values t) (s.elements p.connIdx)
      ∧ ReadBackAll t p (s'.elements p.connIdx) := by
  have hstart : AllDone cfg p [] s (pure (some s)) :=
    ⟨Traced.safe_pure _, s, rfl, (Function.update_eq_self p.connIdx s.elements).symm⟩
  have hdisp := hstart.thenRead fun s => readDone_disp (s := s) (hserved.others .display (by decide)) rfl
    (show (t.value .display).length ≤ cfg.displayMax * dispInfSize by
      rw [TagElements.value, length_flatMap_bytes, Nat.mul_comm]
      exact Nat.mul_le_mul_right _ hfit.displays)
  have himg := hdisp.thenRead fun s => readDone_img (s := s) hserved.image
  have hsensor := himg.thenRead fun s =>
    readDone_sensor (s := s) (hserved.others .sensor (by decide)) rfl (fits_sensor hfit)
  have hled := hsensor.thenRead fun s =>
    readDone_led (s := s) (hserved.others .led (by decide)) rfl hfit.leds
  have hvalues : ((([] ++ if p.available .display then [(ReadField.display, t.value .display)] else [])
      ++ if p.available .image then [(ReadField.image, t.value .image)] else [])
      ++ if p.available .sensor then [(ReadField.sensor, t.value .sensor)] else [])
      ++ (if p.available .led then [(ReadField.led, t.value .led)] else []) = p.values t := by
    cases hd : p.available .display <;> cases hi : p.available .image <;>
      cases hs : p.available .sensor <;> cases hl : p.available .led <;>
      simp [LongReadProcedure.values, ReadField.long, hd, hi, hs, hl]
  have hall : AllDone cfg p (p.values t) s (btEslCReadChrc cfg p s) := by
    rw [btEslCReadChrc, if_neg (by simp [hserved.connected]), ← hvalues]
    exact hled
  obtain ⟨s', hs', helements⟩ := hall.returns
  have hrecord : s'.elements p.connIdx = storeAll cfg (p.values t) (s.elements p.connIdx) := by
    rw [helements, Function.update_self]
  refine ⟨hall.safe, s', hs', fun connIdx hne => ?_, hrecord, ?_⟩
  · rw [helements, Function.update_of_ne hne]
  · rw [hrecord]
    exact readBackAll hfit _

/-- A tag with a display, two sensors and a LED. -/
def TagElements.sample : TagElements where
  displays := [⟨200, 300, 1⟩]
  maxImageIndex := 3
  sensors := [⟨0, 0x004F, 0⟩, ⟨1, 0x0059, 0x1234⟩]
  ledType := [0x40]

/-- It is read behind a multiple read that has broken off, in pieces of different lengths. -/
def sampleRead : LongReadProcedure where
  connIdx := 1
  connected := true
  available := fun _ => true
  reads
    | .display => ⟨0, [[200, 0, 44], [1, 1]], 0⟩
    | .image => ⟨0, [[3], [0xAA]], 0⟩
    | .sensor => ⟨0, [[0, 0x4F, 0, 1, 0x59], [0, 0x34], [0x12]], 0⟩
    | .led => ⟨0, [[0x40]], 0⟩
    | .pnpId => ⟨0, [], 0⟩

theorem longRead_sample : ∃ s', (btEslCReadChrc .client sampleRead
      { MultiRead.init fun _ => .zero with chrcReadOffset := 3, flag := fun _ => false }).val = some s'
    ∧ ReadBackAll .sample sampleRead (s'.elements 1) := by
  have hserved : sampleRead.ServedBy .sample 0xAA := by
    refine ⟨rfl, fun _ => ⟨rfl, ?_, by decide⟩, fun field hne _ => ?_⟩
    · exact ⟨⟨1, by decide, rfl⟩, by decide, ⟨1, by decide, rfl⟩, by decide, trivial⟩
    · cases field with
      | image => exact absurd rfl hne
      | display =>
          refine ⟨rfl, rfl, ?_, 1, by decide, by decide +kernel⟩
          exact ⟨⟨3, by decide, by decide +kernel⟩, by decide, ⟨22, by decide, by decide +kernel⟩, by decide,
            trivial⟩
      | sensor =>
          refine ⟨rfl, rfl, ?_, 1, by decide, by decide +kernel⟩
          exact ⟨⟨5, by decide, by decide +kernel⟩, by decide, ⟨2, by decide, by decide +kernel⟩, by decide,
            ⟨22, by decide, by decide +kernel⟩, by decide, trivial⟩
      | led =>
          refine ⟨rfl, rfl, ?_, 1, by decide, by decide +kernel⟩
          exact ⟨⟨1, by decide, by decide +kernel⟩, by decide, trivial⟩
      | pnpId => exact ⟨rfl, rfl, trivial, 1, by decide, rfl⟩
  have hfit : TagElements.Fit .sample .client := by
    constructor <;> decide +kernel
  obtain ⟨-, s', hs', -, -, hback⟩ := longRead_roundTrip .client .sample 0xAA sampleRead hserved hfit
    { MultiRead.init fun _ => .zero with chrcReadOffset := 3, flag := fun _ => false }
  exact ⟨s', hs', hback⟩

end NrfEsl
