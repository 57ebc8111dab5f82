import NrfEsl.Tag.ImageReads

/-!
# Two back ends, one read

`read_img_from_storage` has an implementation for LittleFS and one for ZMS, and the callers in `esl.c`
ask both for a range of an image.  They should get the same bytes.

* `ReadsRight` — what a build delivers for a range: to a caller of the callback, to the Object Transfer
  Service and to a checksum.
* **LittleFS is right for every range** (`readsRight_lfs`).
* **ZMS reads from the start of the record**, whatever the offset (`readsRight_nvs`), and refuses an
  offset behind the length asked for.

So they agree exactly where the range asked for repeats the start of the image (`readsAgree_iff`), as
every range at offset 0 does.
-/

namespace NrfEsl

variable {F : Device (FileSystem.interface Path)} {Z : Device (RecordStore.interface ℕ)}

/-! ## Specification -/

/-- The first bytes of the image buffer after a program. -/
def bufferedAfter {α : Type} (cfg : ImageConfig) (prog : ImageProgram α) (len : ℕ)
    (s : ImageStore F Z) : List UInt8 :=
  (prog.exec (callSem cfg) s).2.imgObjBuf.read 0 len

/-- The bytes of an image that a range names are what every reader finds. -/
structure ReadsRight (cfg : ImageConfig) (s : ImageStore F Z) (imgIdx : UInt8)
    (content : List UInt8) (off len : ℕ) : Prop where
  readImg : bufferedAfter cfg (imageCall (.readImg imgIdx len off)) len s = slice content off len
  otsRead : bufferedAfter cfg (otsObjRead imgIdx true len off) len s = slice content off len
  checksum : imgIdx.toNat ≤ cfg.imageMax →
    bufferedAfter cfg (otsObjCalChecksum cfg imgIdx off len) len s = slice content off len

/-- ZMS has the image in a record; an empty one is no record. -/
def RefStore.Records (s : RefStore) (imgIdx : UInt8) (content : List UInt8) : Prop :=
  s.records imgIdx.toNat = if content = [] then none else some content

/-- On every store that works and has the image, both back ends read the range right. -/
structure ReadsAgree (imgIdx : UInt8) (content : List UInt8) (off len : ℕ) : Prop where
  lfs : ∀ (cfg : ImageConfig) (F : Device (FileSystem.interface Path))
    (Z : Device (RecordStore.interface ℕ)), cfg.build = .lfs → F.Reliable → Z.Reliable →
      ∀ s : ImageStore F Z, s.observed.Holds imgIdx content → ReadsRight cfg s imgIdx content off len
  nvs : ∀ (cfg : ImageConfig) (F : Device (FileSystem.interface Path))
    (Z : Device (RecordStore.interface ℕ)), cfg.build = .nvs → F.Reliable → Z.Reliable →
      ∀ s : ImageStore F Z, s.observed.Records imgIdx content → ReadsRight cfg s imgIdx content off len

/-! ## What the readers do -/

section Readers

variable {cfg : ImageConfig} {imgIdx : UInt8} {content : List UInt8} {off len : ℕ}

/-- A store with reliable devices has the buffer of the observed one. -/
lemma bufferedAfter_observed (hF : F.Reliable) (hZ : Z.Reliable) {α : Type} (prog : ImageProgram α)
    (len : ℕ) (s : ImageStore F Z) :
    bufferedAfter cfg prog len s = bufferedAfter cfg prog len s.observed := by
  rw [bufferedAfter, bufferedAfter, exec_callSem_observed hF hZ]
  rfl

lemma readsRight_observed (hF : F.Reliable) (hZ : Z.Reliable) (s : ImageStore F Z) :
    ReadsRight cfg s.observed imgIdx content off len ↔ ReadsRight cfg s imgIdx content off len := by
  constructor
  · rintro ⟨hread, hots, hsum⟩
    refine ⟨?_, ?_, fun hmax => ?_⟩
    · rw [bufferedAfter_observed hF hZ, hread]
    · rw [bufferedAfter_observed hF hZ, hots]
    · rw [bufferedAfter_observed hF hZ, hsum hmax]
  · rintro ⟨hread, hots, hsum⟩
    refine ⟨?_, ?_, fun hmax => ?_⟩
    · rw [← bufferedAfter_observed hF hZ, hread]
    · rw [← bufferedAfter_observed hF hZ, hots]
    · rw [← bufferedAfter_observed hF hZ, hsum hmax]

/-- The readers of `esl.c` clear the buffer and read. -/
lemma bufferedAfter_otsObjRead (s : RefStore) :
    bufferedAfter cfg (otsObjRead imgIdx true len off) len s
      = bufferedAfter cfg (imageCall (.readImg imgIdx len off)) len (s.cleared cfg) := rfl

lemma bufferedAfter_otsObjCalChecksum (hmax : imgIdx.toNat ≤ cfg.imageMax) (s : RefStore) :
    bufferedAfter cfg (otsObjCalChecksum cfg imgIdx off len) len s
      = bufferedAfter cfg (imageCall (.readImg imgIdx len off)) len (s.cleared cfg) := by
  have hcheck : ¬ cfg.imageMax < imgIdx.toNat := by omega
  rw [otsObjCalChecksum, if_neg hcheck]
  show (callSem cfg .closeImage (callSem cfg (.readImg imgIdx len off) (s.cleared cfg)).2).2.imgObjBuf.read
    0 len = _
  rw [RefStore.imgObjBuf_closeImage]
  rfl

/-- A build that reads right on a store and on the cleared one reads right everywhere. -/
lemma readsRight_of_readImg {s : RefStore}
    (h : bufferedAfter cfg (imageCall (.readImg imgIdx len off)) len s = slice content off len)
    (hcleared : bufferedAfter cfg (imageCall (.readImg imgIdx len off)) len (s.cleared cfg)
      = slice content off len) : ReadsRight cfg s imgIdx content off len := by
  refine ⟨h, ?_, fun hmax => ?_⟩
  · rw [bufferedAfter_otsObjRead, hcleared]
  · rw [bufferedAfter_otsObjCalChecksum hmax, hcleared]

/-! ## The back ends -/

/-- **LittleFS reads the range.** -/
lemma readsRight_lfs (hbuild : cfg.build = .lfs) {s : RefStore} (h : s.Holds imgIdx content)
    (hwithin : off + len ≤ content.length) : ReadsRight cfg s imgIdx content off len := by
  have hread : ∀ t : RefStore, t.Holds imgIdx content →
      bufferedAfter cfg (imageCall (.readImg imgIdx len off)) len t = slice content off len := by
    intro t ht
    rw [bufferedAfter, Program.exec_perform, RefStore.callSem_readImg_lfs hbuild ht]
    exact read_write_slice _ hwithin
  exact readsRight_of_readImg (hread s h) (hread _ ⟨h.stored, h.ready⟩)

lemma bufferedAfter_readImg_nvs (hbuild : cfg.build = .nvs) (s : RefStore) :
    bufferedAfter cfg (imageCall (.readImg imgIdx len off)) len s
      = ((Nvs.readImgFromStorage imgIdx len off).exec (flashSem cfg) s).2.imgObjBuf.read 0 len := by
  rw [bufferedAfter, Program.exec_perform]
  simp only [callSem, impl, hbuild]

/-- **ZMS reads the start of the record.** -/
lemma bufferedAfter_readImg_of_le (hbuild : cfg.build = .nvs) {s : RefStore}
    (h : s.Records imgIdx content) (hoff : off ≤ len) (hwithin : off + len ≤ content.length) :
    bufferedAfter cfg (imageCall (.readImg imgIdx len off)) len s = slice content 0 len := by
  rw [bufferedAfter_readImg_nvs hbuild]
  by_cases hnil : content = []
  · have hlen : len = 0 := by
      rw [hnil, List.length_nil] at hwithin
      omega
    subst hlen
    rw [slice, List.take_zero, Mem.read_zero]
  · rw [RefStore.Records, if_neg hnil] at h
    rw [RefStore.exec_nvs_readImgFromStorage h hoff]
    exact read_write_slice _ (by omega)

/-- An offset behind the length leaves in the buffer what was there. -/
lemma bufferedAfter_readImg_of_lt (hbuild : cfg.build = .nvs) (s : RefStore) (hoff : len < off) :
    bufferedAfter cfg (imageCall (.readImg imgIdx len off)) len s = s.imgObjBuf.read 0 len := by
  rw [bufferedAfter_readImg_nvs hbuild, RefStore.exec_nvs_readImgFromStorage_refused hoff]

/-- The range repeats the start of the image. -/
def RepeatsStart (content : List UInt8) (off len : ℕ) : Prop :=
  len = 0 ∨ off ≤ len ∧ slice content off len = slice content 0 len

instance (content : List UInt8) (off len : ℕ) : Decidable (RepeatsStart content off len) :=
  inferInstanceAs (Decidable (_ ∨ _ ∧ _))

lemma readsRight_nvs (hbuild : cfg.build = .nvs) {s : RefStore} (h : s.Records imgIdx content)
    (hwithin : off + len ≤ content.length) (hrepeats : RepeatsStart content off len) :
    ReadsRight cfg s imgIdx content off len := by
  have hread : ∀ t : RefStore, t.Records imgIdx content →
      bufferedAfter cfg (imageCall (.readImg imgIdx len off)) len t = slice content off len := by
    intro t ht
    rcases hrepeats with rfl | ⟨hoff, hsame⟩
    · rw [slice, List.take_zero, bufferedAfter, Mem.read_zero]
    · rw [bufferedAfter_readImg_of_le hbuild ht hoff hwithin, hsame]
  exact readsRight_of_readImg (hread s h) (hread _ h)

end Readers

/-- A store of images in ZMS, with some buffer. -/
def RefStore.ofRecords (records : RecordStore.View ℕ) (imgObjBuf : Mem) : RefStore where
  volume := ⟨fun _ => none, none⟩
  zms := records
  imgObjBuf := imgObjBuf
  storedImageSize := fun _ => 0
  panel := []

/-- One image in ZMS. -/
def oneRecord (imgIdx : UInt8) (content : List UInt8) : RecordStore.View ℕ :=
  Function.update (fun _ => none) imgIdx.toNat (if content = [] then none else some content)

lemma records_ofRecords (imgIdx : UInt8) (content : List UInt8) (m : Mem) :
    (RefStore.ofRecords (oneRecord imgIdx content) m).Records imgIdx content := by
  show oneRecord imgIdx content imgIdx.toNat = _
  rw [oneRecord, Function.update_self]

/-- **Where the back ends agree.** -/
theorem readsAgree_iff (imgIdx : UInt8) (content : List UInt8) (off len : ℕ)
    (hwithin : off + len ≤ content.length) :
    ReadsAgree imgIdx content off len ↔ RepeatsStart content off len := by
  constructor
  · rintro ⟨-, hnvs⟩
    have hread : ∀ m : Mem, bufferedAfter nvsSample (imageCall (.readImg imgIdx len off)) len
        (RefStore.ofRecords (oneRecord imgIdx content) m) = slice content off len := by
      intro m
      exact (hnvs nvsSample _ _ rfl (Device.ofRef_reliable _) (Device.ofRef_reliable _)
        (RefStore.ofRecords (oneRecord imgIdx content) m) (records_ofRecords imgIdx content m)).readImg
    by_cases hoff : off ≤ len
    · right
      refine ⟨hoff, ?_⟩
      rw [← hread fun _ => 0,
        bufferedAfter_readImg_of_le rfl (records_ofRecords imgIdx content _) hoff hwithin]
    · left
      -- the buffer keeps what was there, and that may be anything
      have hkept : ∀ b : UInt8, List.replicate len b = slice content off len := by
        intro b
        rw [← hread fun _ => b, bufferedAfter_readImg_of_lt rfl _ (by omega)]
        simp [RefStore.ofRecords, Mem.read]
      have hsame : List.replicate len (0 : UInt8) = List.replicate len 1 := by
        rw [hkept, hkept]
      cases len with
      | zero => rfl
      | succ n => exact absurd (List.cons.inj hsame).1 (by decide)
  · intro hrepeats
    refine ⟨fun cfg F Z hbuild hF hZ s hs => ?_, fun cfg F Z hbuild hF hZ s hs => ?_⟩
    · exact (readsRight_observed hF hZ s).mp (readsRight_lfs hbuild hs hwithin)
    · exact (readsRight_observed hF hZ s).mp (readsRight_nvs hbuild hs hwithin hrepeats)

/-- The second byte of two. -/
theorem readsAgree_iff_second :
    1 + 1 ≤ [7, 9].length ∧ (ReadsAgree 0 [7, 9] 1 1 ↔ RepeatsStart [7, 9] 1 1) :=
  ⟨Nat.le_refl 2, readsAgree_iff 0 [7, 9] 1 1 (Nat.le_refl 2)⟩

/-- The second byte of an image is asked for, and ZMS delivers the first. -/
theorem not_readsAgree : ¬ ReadsAgree 0 [7, 9] 1 1 := by
  rintro ⟨-, hnvs⟩
  have h := (hnvs nvsSample _ _ rfl (Device.ofRef_reliable _) (Device.ofRef_reliable _)
    (RefStore.ofRecords (oneRecord 0 [7, 9]) fun _ => 0) (records_ofRecords 0 [7, 9] _)).readImg
  rw [bufferedAfter_readImg_of_le rfl (records_ofRecords 0 [7, 9] _) (Nat.le_refl 1)
    (Nat.le_refl 2)] at h
  exact absurd h (by decide)

end NrfEsl
