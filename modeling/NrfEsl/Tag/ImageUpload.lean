import NrfEsl.Tag.ImageReference

/-!
# Image uploads

A client selects an object and writes its bytes in consecutive chunks; the last chunk is the one
behind which nothing remains.  `Upload` is such a transfer, of any split into chunks, and
`otsTransfer` what the tag does for it.

On reliable devices (`exec_transfer_lfs`, `exec_transfer_nvs`) an upload sets the size of its image
to the number of bytes sent.  With LittleFS the file then has that length, unless it was longer
before: nothing truncates it.  With ZMS the size record says so.
-/

namespace NrfEsl

/-- A complete transfer of an image.  Offsets are 32-bit values with a sign. -/
structure Upload (cfg : ImageConfig) where
  imgIdx : UInt8
  chunks : List (List UInt8)
  imgIdx_lt : imgIdx.toNat < cfg.imageMax
  chunks_ne : chunks ≠ []
  length_lt : chunks.flatten.length < 2 ^ 31

variable (cfg : ImageConfig)

/-- The bytes sent. -/
def Upload.bytes {cfg : ImageConfig} (u : Upload cfg) : List UInt8 := u.chunks.flatten

/-- The writes of a transfer from an offset on. -/
def otsTransfer (imgIdx : UInt8) : ℕ → List (List UInt8) → ImageProgram Unit
  | _, [] => return ()
  | off, c :: cs => do
      let _ ← otsObjWrite cfg imgIdx c off cs.flatten.length
      otsTransfer imgIdx (off + c.length) cs

/-- Selection and writes. -/
def Upload.program (u : Upload cfg) : ImageProgram Unit := do
  otsObjSelected u.imgIdx
  otsTransfer cfg u.imgIdx 0 u.chunks

/-- The length of a file; 0 if there is none. -/
def ImageStore.fileLength {F : Device (FileSystem.interface Path)}
    {Z : Device (RecordStore.interface ℕ)} (s : ImageStore F Z) (imgIdx : UInt8) : ℕ :=
  ((s.files.contents (imagePath imgIdx)).getD []).length

namespace RefStore

variable {cfg} {s t : RefStore} {imgIdx : UInt8}

lemma sizeAfter_eq (off : ℕ) (data : List UInt8) :
    sizeAfter off data = UInt32.ofNat (off + data.length) := by
  rw [sizeAfter, ← Int.natCast_add, UInt32.ofInt]
  apply UInt32.toNat_inj.mp
  rw [UInt32.toNat_ofNat', UInt32.toNat_ofNat']
  omega

/-! ## Transfers to LittleFS -/

/-- What writes to LittleFS up to the end `n` leave, and what they leave alone. -/
structure WrittenLfs (s t : RefStore) (imgIdx : UInt8) (n : ℕ) : Prop where
  closed : t.files.file = none
  contents : ∀ i ≠ imgIdx, t.files.contents (imagePath i) = s.files.contents (imagePath i)
  length : t.fileLength imgIdx = max (s.fileLength imgIdx) n

lemma WrittenLfs.trans {u : RefStore} {m n : ℕ} (hst : WrittenLfs s t imgIdx m)
    (htu : WrittenLfs t u imgIdx n) (hmn : m ≤ n) : WrittenLfs s u imgIdx n where
  closed := htu.closed
  contents i hi := (htu.contents i hi).trans (hst.contents i hi)
  length := by
    rw [htu.length, hst.length]
    omega

/-- One chunk. -/
lemma exec_chunk_lfs (hbuild : cfg.build = .lfs) (h : s.files.ReadyFor (imagePath imgIdx))
    (data : List UInt8) (off rem : ℕ) :
    let t := ((otsObjWrite cfg imgIdx data off rem).exec (callSem cfg) s).2
    WrittenLfs s t imgIdx (off + data.length)
      ∧ t.storedImageSize = if rem = 0 then
          Function.update s.storedImageSize imgIdx.toNat (UInt32.ofNat (off + data.length))
        else s.storedImageSize := by
  have hfiles : ∀ t : RefStore,
      t.files = ⟨s.written (imagePath imgIdx) off data, none⟩ →
        WrittenLfs s t imgIdx (off + data.length) := by
    intro t ht
    refine ⟨by rw [ht], fun i hi => ?_, ?_⟩
    · rw [ht]
      exact Function.update_of_ne (fun hp => hi (imagePath_injective hp)) _ _
    · have hcontents : t.files.contents (imagePath imgIdx) = some (FileSystem.overwrite
          ((s.files.contents (imagePath imgIdx)).getD []) off data) := by
        rw [ht]
        exact Function.update_self _ _ _
      rw [ImageStore.fileLength, hcontents]
      exact FileSystem.length_overwrite _ _ _
  rw [exec_otsObjWrite_lfs hbuild h, sizeAfter_eq]
  by_cases hrem : rem = 0
  · simp only [if_pos hrem]
    exact ⟨hfiles _ rfl, rfl⟩
  · simp only [if_neg hrem]
    exact ⟨hfiles _ rfl, rfl⟩

/-- **A transfer to LittleFS.** -/
lemma exec_transfer_lfs (hbuild : cfg.build = .lfs) {chunks : List (List UInt8)}
    (hne : chunks ≠ []) (off : ℕ) (h : s.files.ReadyFor (imagePath imgIdx)) :
    let t := ((otsTransfer cfg imgIdx off chunks).exec (callSem cfg) s).2
    WrittenLfs s t imgIdx (off + chunks.flatten.length)
      ∧ t.storedImageSize = Function.update s.storedImageSize imgIdx.toNat
          (UInt32.ofNat (off + chunks.flatten.length)) := by
  induction chunks generalizing s off with
  | nil => exact absurd rfl hne
  | cons c cs ih =>
      obtain ⟨hchunk, hsize⟩ := exec_chunk_lfs hbuild h c off cs.flatten.length
      have hexec : ((otsTransfer cfg imgIdx off (c :: cs)).exec (callSem cfg) s).2
          = ((otsTransfer cfg imgIdx (off + c.length) cs).exec (callSem cfg)
              ((otsObjWrite cfg imgIdx c off cs.flatten.length).exec (callSem cfg) s).2).2 := by
        rw [otsTransfer, Program.bind_eq_bind, Program.exec_bind]
      simp only [hexec, List.flatten_cons, List.length_append, ← Nat.add_assoc]
      by_cases hlast : cs = []
      · subst hlast
        rw [List.flatten_nil, List.length_nil, if_pos rfl] at hsize
        exact ⟨hchunk, hsize⟩
      · obtain ⟨hrest, hsize'⟩ := ih hlast (off + c.length) (.inl hchunk.closed)
        refine ⟨hchunk.trans hrest (Nat.le_add_right _ _), ?_⟩
        rw [hsize', hsize]
        split
        · exact Function.update_idem _ _ _
        · rfl

/-! ## Transfers to ZMS -/

/-- What writes to ZMS leave alone. -/
structure KeptNvs (s t : RefStore) (imgIdx : UInt8) : Prop where
  files : t.files = s.files
  records : ∀ id, id ≠ imgIdx.toNat → id ≠ imgIdx.toNat + imgSizeOffset → t.records id = s.records id

lemma KeptNvs.trans {u : RefStore} (hst : KeptNvs s t imgIdx) (htu : KeptNvs t u imgIdx) :
    KeptNvs s u imgIdx where
  files := htu.files.trans hst.files
  records id h h' := (htu.records id h h').trans (hst.records id h h')

/-- One chunk; the last one leaves the size record and the size. -/
lemma exec_chunk_nvs (hbuild : cfg.build = .nvs) (s : RefStore) (imgIdx : UInt8)
    (data : List UInt8) (off rem : ℕ) :
    let t := ((otsObjWrite cfg imgIdx data off rem).exec (callSem cfg) s).2
    KeptNvs s t imgIdx
      ∧ (rem = 0 → t.records (imgIdx.toNat + imgSizeOffset)
          = some (le32Bytes (UInt32.ofNat (off + data.length))))
      ∧ t.storedImageSize = if rem = 0 then
          Function.update s.storedImageSize imgIdx.toNat (UInt32.ofNat (off + data.length))
        else s.storedImageSize := by
  rw [exec_otsObjWrite_nvs hbuild, sizeAfter_eq]
  by_cases hrem : rem = 0
  · simp only [if_pos hrem]
    refine ⟨⟨rfl, fun id hid hid' => ?_⟩, fun _ => ?_, rfl⟩
    · simp only [records_withSize, records_withRecords, recorded]
      rw [Function.update_of_ne hid', Function.update_of_ne hid]
      rfl
    · simp only [records_withSize, records_withRecords, recorded]
      rw [Function.update_self, UInt32.ofNat_toNat]
  · simp only [if_neg hrem]
    exact ⟨⟨rfl, fun _ _ _ => rfl⟩, fun h => absurd h hrem, rfl⟩

/-- **A transfer to ZMS.** -/
lemma exec_transfer_nvs (hbuild : cfg.build = .nvs) (s : RefStore) (imgIdx : UInt8)
    {chunks : List (List UInt8)} (hne : chunks ≠ []) (off : ℕ) :
    let t := ((otsTransfer cfg imgIdx off chunks).exec (callSem cfg) s).2
    KeptNvs s t imgIdx
      ∧ t.records (imgIdx.toNat + imgSizeOffset)
          = some (le32Bytes (UInt32.ofNat (off + chunks.flatten.length)))
      ∧ t.storedImageSize = Function.update s.storedImageSize imgIdx.toNat
          (UInt32.ofNat (off + chunks.flatten.length)) := by
  induction chunks generalizing s off with
  | nil => exact absurd rfl hne
  | cons c cs ih =>
      obtain ⟨hchunk, hrecord, hsize⟩ := exec_chunk_nvs hbuild s imgIdx c off cs.flatten.length
      have hexec : ((otsTransfer cfg imgIdx off (c :: cs)).exec (callSem cfg) s).2
          = ((otsTransfer cfg imgIdx (off + c.length) cs).exec (callSem cfg)
              ((otsObjWrite cfg imgIdx c off cs.flatten.length).exec (callSem cfg) s).2).2 := by
        rw [otsTransfer, Program.bind_eq_bind, Program.exec_bind]
      simp only [hexec, List.flatten_cons, List.length_append, ← Nat.add_assoc]
      by_cases hlast : cs = []
      · subst hlast
        rw [List.flatten_nil, List.length_nil] at hrecord
        rw [List.flatten_nil, List.length_nil, if_pos rfl] at hsize
        exact ⟨hchunk, hrecord rfl, hsize⟩
      · obtain ⟨hrest, hrecord', hsize'⟩ := ih _ hlast (off + c.length)
        refine ⟨hchunk.trans hrest, hrecord', ?_⟩
        rw [hsize', hsize]
        split
        · exact Function.update_idem _ _ _
        · rfl

end RefStore

end NrfEsl
