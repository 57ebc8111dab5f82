import NrfEsl.ImageSize
import NrfEsl.Tag.ImageDump
import NrfEsl.Tag.ImageReads

/-!
# The checksum of an image, chunk by chunk

With LittleFS the image dump command of the tag goes through an image in chunks of the image buffer, and
adds each of them to a checksum.

**From the second turn on** the chunk is the smaller one of the buffer and of what is left, and then the
loop reads what is left (`exec_dumpLoop`).

**In the first turn** the chunk is the whole buffer.  An image that is smaller has bytes of no image
behind it, and the remaining size wraps.  So the command is right exactly for images that are empty or
fill the buffer (`dumpsImage_iff`).
-/

namespace NrfEsl

variable {F : Device (FileSystem.interface Path)} {Z : Device (RecordStore.interface ℕ)}

/-- `LFS_FILE_MAX`: no file is longer. -/
def lfsFileMax : ℕ := 2147483647

/-- The command ends, has read the bytes of the image once, and has the checksum of the image. -/
def DumpsImage (cfg : ImageConfig) (c : Crc32) (wild : Mem) (imgIdx : UInt8) (content : List UInt8)
    (s : ImageStore F Z) : Prop :=
  ∃ out, ((cmdEslImgDump cfg c wild imgIdx).exec (callSem cfg) s).1 = some out
    ∧ out.dumped.flatten = content ∧ out.crc = c.ieee content

section Loop

variable {cfg : ImageConfig} {c : Crc32} {wild : Mem} {imgIdx : UInt8} {content : List UInt8}

lemma dumpsImage_observed (hF : F.Reliable) (hZ : Z.Reliable) (s : ImageStore F Z) :
    DumpsImage cfg c wild imgIdx content s.observed ↔ DumpsImage cfg c wild imgIdx content s := by
  rw [DumpsImage, DumpsImage, exec_callSem_observed hF hZ]

/-! ## One turn -/

/-- An offset below the limit of a file is not negative. -/
lemma toInt_ofNat_of_le {p : ℕ} (h : p ≤ lfsFileMax) : (UInt32.ofNat p).toInt32.toInt = p := by
  rw [UInt32.toInt32_ofNat']
  exact Int32.toInt_ofNat_of_lt (by rw [lfsFileMax] at h; omega)

/-- The bytes that a turn adds. -/
def RefStore.chunk (cfg : ImageConfig) (s : RefStore) (content : List UInt8) (off len : ℕ) :
    List UInt8 :=
  ((s.cleared cfg).imgObjBuf.write 0 (slice content off len)).read 0 len

/-- The store behind a turn. -/
def RefStore.afterChunk (cfg : ImageConfig) (s : RefStore) (imgIdx : UInt8) (content : List UInt8)
    (off len : ℕ) : RefStore :=
  ((s.cleared cfg).afterRead imgIdx content off len).withFiles ⟨s.files.contents, none⟩

lemma holds_afterChunk {s : RefStore} (h : s.Holds imgIdx content) (off len : ℕ) :
    (s.afterChunk cfg imgIdx content off len).Holds imgIdx content :=
  ⟨h.stored, .inl rfl⟩

variable (wild) in
/-- **One turn** of the loop, at a position in the file. -/
lemma exec_dumpLoop_succ (hbuild : cfg.build = .lfs) (hidx : imgIdx.toNat ≤ cfg.imageMax)
    {s : RefStore} (h : s.Holds imgIdx content) (fuel : ℕ) {size : UInt32} {p : ℕ}
    (chunkSize : UInt32) (hsize : size ≠ 0) (hp : p ≤ lfsFileMax) (out : ImageDump) :
    ((dumpLoop cfg c wild imgIdx (fuel + 1) size chunkSize (UInt32.ofNat p) out).exec (callSem cfg) s)
      = (dumpLoop cfg c wild imgIdx fuel (size - chunkSize)
          (if size - chunkSize < chunkSize then size - chunkSize else chunkSize)
          (UInt32.ofNat p + chunkSize)
          ⟨out.dumped ++ [s.chunk cfg content p chunkSize.toNat],
            c.update out.crc (s.chunk cfg content p chunkSize.toNat)⟩).exec (callSem cfg)
        (s.afterChunk cfg imgIdx content p chunkSize.toNat) := by
  rw [dumpLoop, if_neg hsize, toInt_ofNat_of_le hp, Program.bind_eq_bind, Program.exec_bind,
    RefStore.exec_otsObjCalChecksum_lfs hbuild hidx h]
  rfl

/-- The dumps of a turn stay. -/
lemma dumped_prefix (fuel : ℕ) {size chunkSize curPos : UInt32} {out out' : ImageDump}
    {s : ImageStore F Z}
    (h : ((dumpLoop cfg c wild imgIdx fuel size chunkSize curPos out).exec (callSem cfg) s).1
      = some out') : out.dumped <+: out'.dumped := by
  induction fuel generalizing size chunkSize curPos out s with
  | zero => cases h
  | succ fuel ih =>
      rw [dumpLoop] at h
      split at h
      · cases h
        exact List.prefix_refl _
      · simp only [Program.bind_eq_bind, Program.exec_bind] at h
        exact (List.prefix_append _ _).trans (ih h)

/-! ## The loop -/

lemma ofNat_eq_zero_iff {n : ℕ} (h : n ≤ lfsFileMax) : UInt32.ofNat n = 0 ↔ n = 0 := by
  rw [lfsFileMax] at h
  rw [← UInt32.toNat_inj, UInt32.toNat_ofNat_of_lt' (by rw [UInt32.size]; omega)]
  exact Iff.rfl

lemma ofNat_lt_ofNat {m n : ℕ} (hm : m ≤ lfsFileMax) (hn : n ≤ lfsFileMax) :
    UInt32.ofNat m < UInt32.ofNat n ↔ m < n := by
  rw [lfsFileMax] at hm hn
  rw [UInt32.lt_iff_toNat_lt, UInt32.toNat_ofNat_of_lt' (by rw [UInt32.size]; omega),
    UInt32.toNat_ofNat_of_lt' (by rw [UInt32.size]; omega)]

/-- **The next chunk** of at most `b` bytes, when `n` are left. -/
lemma ofNat_next {b n : ℕ} (hn : n ≤ lfsFileMax) :
    (if UInt32.ofNat n - UInt32.ofNat (min b n) < UInt32.ofNat (min b n) then
        UInt32.ofNat n - UInt32.ofNat (min b n) else UInt32.ofNat (min b n))
      = UInt32.ofNat (min b (n - min b n)) := by
  have hle : min b n ≤ n := Nat.min_le_right b n
  rw [← UInt32.ofNat_sub hle]
  by_cases hlast : n - min b n < min b n
  · rw [if_pos ((ofNat_lt_ofNat (by omega) (by omega)).mpr hlast)]
    congr 1
    omega
  · rw [if_neg (mt (ofNat_lt_ofNat (by omega) (by omega)).mp hlast)]
    congr 1
    omega

variable (wild) in
/-- **The rest of a file**, from a position where the chunk is not larger than what is left. -/
lemma exec_dumpLoop (hbuild : cfg.build = .lfs) (hidx : imgIdx.toNat ≤ cfg.imageMax)
    (hpos : 0 < cfg.imageBufferSize) (hmax : content.length ≤ lfsFileMax) (fuel : ℕ) {s : RefStore}
    (h : s.Holds imgIdx content) {p : ℕ} (hp : p ≤ content.length) (hfuel : content.length - p < fuel)
    (out : ImageDump) :
    ∃ out', ((dumpLoop cfg c wild imgIdx fuel (UInt32.ofNat (content.length - p))
        (UInt32.ofNat (min cfg.imageBufferSize (content.length - p))) (UInt32.ofNat p) out).exec
          (callSem cfg) s).1 = some out'
      ∧ out'.dumped.flatten = out.dumped.flatten ++ content.drop p
      ∧ out'.crc = c.update out.crc (content.drop p) := by
  induction fuel generalizing s p out with
  | zero => omega
  | succ fuel ih =>
      by_cases hend : content.length - p = 0
      · have hdrop : content.drop p = [] := List.drop_eq_nil_of_le (by omega)
        refine ⟨out, ?_, ?_, ?_⟩
        · rw [hend, dumpLoop, if_pos (show UInt32.ofNat 0 = 0 from rfl)]
          rfl
        · rw [hdrop, List.append_nil]
        · rw [hdrop, c.update_nil]
      · have hm : min cfg.imageBufferSize (content.length - p) ≤ content.length - p :=
          Nat.min_le_right _ _
        have hm0 : 0 < min cfg.imageBufferSize (content.length - p) := by omega
        generalize hmin : min cfg.imageBufferSize (content.length - p) = m at hm hm0 ⊢
        have hsize : UInt32.ofNat (content.length - p) ≠ 0 := by
          rw [Ne, ofNat_eq_zero_iff (by omega)]
          exact hend
        have htoNat : (UInt32.ofNat m).toNat = m :=
          UInt32.toNat_ofNat_of_lt' (by rw [UInt32.size]; rw [lfsFileMax] at hmax; omega)
        have hchunk : s.chunk cfg content p m = slice content p m :=
          read_write_slice _ (by omega)
        have hsub : UInt32.ofNat (content.length - p) - UInt32.ofNat m
            = UInt32.ofNat (content.length - (p + m)) := by
          rw [← UInt32.ofNat_sub hm, Nat.sub_sub]
        have hchunkSize := ofNat_next (b := cfg.imageBufferSize) (n := content.length - p) (by omega)
        rw [hmin, hsub, Nat.sub_sub] at hchunkSize
        have hsplit := slice_append_drop content p m
        obtain ⟨out', hout, hdumped, hcrc⟩ := ih (holds_afterChunk h p m) (p := p + m) (by omega)
          (by omega) ⟨out.dumped ++ [slice content p m], c.update out.crc (slice content p m)⟩
        refine ⟨out', ?_, ?_, ?_⟩
        · rw [exec_dumpLoop_succ wild hbuild hidx h fuel _ hsize (by omega), htoNat, hchunk, hsub,
            hchunkSize, ← UInt32.ofNat_add, hout]
        · rw [hdumped, List.flatten_append, List.append_assoc]
          congr 1
          simpa using hsplit
        · rw [hcrc, c.update_append, hsplit]

/-- The command, on a store with the file. -/
lemma exec_cmdEslImgDump (hbuild : cfg.build = .lfs) {s : RefStore} (h : s.Holds imgIdx content) :
    (cmdEslImgDump cfg c wild imgIdx).exec (callSem cfg) s
      = (dumpLoop cfg c wild imgIdx dumpFuel (UInt32.ofNat content.length)
          (UInt32.ofNat cfg.imageBufferSize) 0 ⟨[], 0⟩).exec (callSem cfg) s := by
  have hsize : s.fileLength imgIdx = content.length := by
    rw [ImageStore.fileLength, h.stored]
    rfl
  simp only [cmdEslImgDump, hbuild, Program.bind_eq_bind, Program.exec_bind, Program.exec_perform,
    RefStore.callSem_readImgSize_lfs hbuild, hsize]

variable (wild) in
/-- A command that is right has not read more than the image in its first turn. -/
lemma le_length_of_dumpsImage (hbuild : cfg.build = .lfs) (hidx : imgIdx.toNat ≤ cfg.imageMax)
    (hmax : content.length ≤ lfsFileMax) {s : RefStore} (hs : s.Holds imgIdx content)
    (h : DumpsImage cfg c wild imgIdx content s) :
    content = [] ∨ cfg.imageBufferSize ≤ content.length := by
  obtain ⟨out, hout, hdumped, -⟩ := h
  rw [exec_cmdEslImgDump hbuild hs] at hout
  by_contra hnot
  rw [not_or] at hnot
  have hlen : content.length ≠ 0 := fun hzero => hnot.1 (List.length_eq_zero_iff.mp hzero)
  have hsize : UInt32.ofNat content.length ≠ 0 := by
    rw [Ne, ofNat_eq_zero_iff hmax]
    exact hlen
  have hturn := exec_dumpLoop_succ (c := c) wild hbuild hidx hs (dumpFuel - 1) (p := 0)
    (UInt32.ofNat cfg.imageBufferSize) hsize (Nat.zero_le _) ⟨[], 0⟩
  have hfirst := dumped_prefix (dumpFuel - 1) ((congrArg Prod.fst hturn).symm.trans hout)
  -- the first chunk alone is longer than the image
  have hbuffer := cfg.imageBufferSize_le
  have htoNat : (UInt32.ofNat cfg.imageBufferSize).toNat = cfg.imageBufferSize :=
    UInt32.toNat_ofNat_of_lt' (by rw [UInt32.size]; omega)
  obtain ⟨rest, hrest⟩ := hfirst
  rw [← hdumped, ← hrest, htoNat] at hnot
  simp [RefStore.chunk] at hnot

variable (wild) in
lemma dumpsImage_of_le (hbuild : cfg.build = .lfs) (hidx : imgIdx.toNat ≤ cfg.imageMax)
    (hpos : 0 < cfg.imageBufferSize) (hmax : content.length ≤ lfsFileMax) {s : RefStore}
    (hs : s.Holds imgIdx content) (h : content = [] ∨ cfg.imageBufferSize ≤ content.length) :
    DumpsImage cfg c wild imgIdx content s := by
  rw [DumpsImage, exec_cmdEslImgDump hbuild hs]
  rcases h with rfl | hle
  · exact ⟨⟨[], 0⟩, rfl, rfl, (c.update_nil 0).symm⟩
  · have hfuel : content.length - 0 < dumpFuel := by
      rw [lfsFileMax] at hmax
      rw [dumpFuel]
      omega
    have hloop := exec_dumpLoop (c := c) wild hbuild hidx hpos hmax dumpFuel hs (Nat.zero_le _) hfuel
      ⟨[], 0⟩
    have hmin : min cfg.imageBufferSize (content.length - 0) = cfg.imageBufferSize :=
      Nat.min_eq_left hle
    rw [hmin] at hloop
    exact hloop

end Loop

/-- **For which images the command is right.** -/
theorem dumpsImage_iff (cfg : ImageConfig) (c : Crc32) (wild : Mem) (imgIdx : UInt8)
    (content : List UInt8) (hF : F.Reliable) (hZ : Z.Reliable) (s : ImageStore F Z)
    (hbuild : cfg.build = .lfs) (hpos : 0 < cfg.imageBufferSize) (hidx : imgIdx.toNat ≤ cfg.imageMax)
    (hstored : s.observed.Holds imgIdx content) (hmax : content.length ≤ lfsFileMax) :
    DumpsImage cfg c wild imgIdx content s
      ↔ content = [] ∨ cfg.imageBufferSize ≤ content.length := by
  rw [← dumpsImage_observed hF hZ]
  constructor
  · intro h
    exact le_length_of_dumpsImage wild hbuild hidx hmax hstored h
  · intro h
    exact dumpsImage_of_le wild hbuild hidx hpos hmax hstored h

/-- An image of one buffer and one byte more. -/
theorem dumpsImage_iff_sample :
    let content := List.replicate 65 (7 : UInt8)
    DumpsImage lfsSample .zephyr (fun _ => 0) 0 content (RefStore.oneFile 0 content)
      ↔ content = [] ∨ lfsSample.imageBufferSize ≤ content.length :=
  dumpsImage_iff lfsSample .zephyr (fun _ => 0) 0 _ (Device.ofRef_reliable _) (Device.ofRef_reliable _)
    (RefStore.oneFile 0 _) rfl (by decide) (Nat.zero_le _) (RefStore.holds_oneFile 0 _) (by decide)

/-- An image of one byte, and a buffer of 64: the command reads 64 bytes at once, and does not stop
there. -/
theorem not_dumpsImage :
    ¬ DumpsImage lfsSample .zephyr (fun _ => 0) 0 [7] (RefStore.oneFile 0 [7]) := by
  intro h
  have hle := le_length_of_dumpsImage (fun _ => 0) rfl (Nat.zero_le _) (by decide)
    (RefStore.holds_oneFile 0 [7]) h
  exact absurd hle (by decide)

end NrfEsl
