import NrfEsl.Lib.Interleaving
import NrfEsl.Lib.TransitionSystem
import NrfEsl.Tag.ImageUpload

/-!
# An upload between the other users of the buffer

`img_obj_buf` belongs to nobody.  An upload copies its chunks into it, object reads and checksums
clear it and read an image into it, and so does `display_control` on its own work queue; no lock
keeps them apart.  Here an upload runs on one thread of a pool and any other operations on the
others, action by action.

**When the upload survives.**  `WatchedStore.held` is a history variable: the buffer holds bytes of
the upload that are not stored yet.  With ZMS that is from the first chunk to the end of the last one,
with LittleFS from the copy of a chunk to its `fs_write`.  `Undisturbed` asks of every turn of another
thread in that time that it leaves the buffer and the file object alone, and of every copy of a chunk
in a LittleFS build that the file object is closed or open for the image.

The proof is rely and guarantee: `Interferes` is what an undisturbed turn of another thread may do,
`under_write_nvs` and `under_write_lfs` say what one chunk achieves under it, and `preserved_upload`
takes this along a run.
-/

namespace NrfEsl

open TransitionSystem Program

variable (cfg : ImageConfig) {F : Device (FileSystem.interface Path)}
  {Z : Device (RecordStore.interface ℕ)}

/-- The bytes stored for an image. -/
def ImageStore.storedBytes (s : ImageStore F Z) (imgIdx : UInt8) : List UInt8 :=
  match cfg.build with
  | .lfs => (s.files.contents (imagePath imgIdx)).getD []
  | .nvs => (s.records imgIdx.toNat).getD []

/-- The store, with the history variable: the buffer holds bytes of the upload that are not stored. -/
structure WatchedStore (F : Device (FileSystem.interface Path))
    (Z : Device (RecordStore.interface ℕ)) where
  store : ImageStore F Z
  held : Bool

/-- What an action of the upload does to the history variable.  The record of an image is written
with every chunk behind which nothing remains, empty chunks included. -/
def heldAfter (pending : List (List UInt8)) : FlashCall → Bool → Bool
  | .ram (.memcpy _ _), _ => true
  | .fsWrite _, _ => false
  | .zmsWrite _ _, _ => !pending.isEmpty
  | _, held => held

/-- An action of the upload. -/
def uploadSem (pending : List (List UInt8)) (a : FlashCall) (x : WatchedStore F Z) :
    a.Res × WatchedStore F Z :=
  ((flashSem cfg a x.store).1, ⟨(flashSem cfg a x.store).2, heldAfter pending a x.held⟩)

/-- An action of another thread. -/
def othersSem (a : FlashCall) (x : WatchedStore F Z) : a.Res × WatchedStore F Z :=
  ((flashSem cfg a x.store).1, { x with store := (flashSem cfg a x.store).2 })

/-- The upload runs on the thread `none`; `pending` are the chunks not begun. -/
structure UploadState (F : Device (FileSystem.interface Path))
    (Z : Device (RecordStore.interface ℕ)) where
  pool : Pool FlashCall.Res (Option ℕ) (WatchedStore F Z)
  sent : ℕ
  pending : List (List UInt8)

inductive UploadEvent
  /-- The next chunk arrives. -/
  | chunk
  /-- Another operation begins on a thread. -/
  | start (k : ℕ) (op : ImageOp)
  /-- The upload performs an action. -/
  | upload
  /-- Another thread performs an action. -/
  | other (k : ℕ)

/-- An operation writes to an image. -/
def ImageOp.isWrite : ImageOp → Bool
  | .write .. => true
  | _ => false

variable (d : DisplayDriver) (imgIdx : UInt8)

/-- The function called, over the calls of the flash. -/
def ImageOp.flashProgram (op : ImageOp) : FlashProgram Unit := (op.program cfg d).expand (impl cfg)

/-- One step of the threads.  Only the upload writes. -/
def uploadStep (x : UploadState F Z) : UploadEvent → Option (UploadState F Z)
  | .chunk =>
      match x.pending with
      | [] => none
      | c :: cs =>
          (x.pool.start none
            ((ImageOp.write imgIdx c x.sent cs.flatten.length).flashProgram cfg d)).map
              fun pool => ⟨pool, x.sent + c.length, cs⟩
  | .start k op =>
      if op.isWrite then none
      else (x.pool.start (some k) (op.flashProgram cfg d)).map fun pool => { x with pool := pool }
  | .upload => (x.pool.turn (uploadSem cfg x.pending) none).map fun pool => { x with pool := pool }
  | .other k => (x.pool.turn (othersSem cfg) (some k)).map fun pool => { x with pool := pool }

/-- The last chunk has been written. -/
def UploadState.Finished (x : UploadState F Z) : Prop :=
  x.pending = [] ∧ (x.pool.thread none).isDone = true

/-- An action that leaves the buffer and the file object alone. -/
def FlashCall.harmless : FlashCall → Bool
  | .ram (.peek _) | .ram (.setStoredImageSize _ _) | .ram (.displayWrite ..) => true
  | .file .isOpen | .file (.stat _) => true
  | .record (.read _ _) => true
  | _ => false

/-- A copy to the buffer in a LittleFS build finds the file object closed or open for the image. -/
def FindsFile : FlashCall → ImageStore F Z → Prop
  | .ram (.memcpy _ _), s => cfg.build = .lfs → s.files.ReadyFor (imagePath imgIdx)
  | _, _ => True

/-- **Nobody disturbs the upload** with this step. -/
def Undisturbed (x : UploadState F Z) : UploadEvent → Prop
  | .upload => (x.pool.thread none).Next fun a => FindsFile cfg imgIdx a x.pool.shared.store
  | .other k => x.pool.shared.held = true → (x.pool.thread (some k)).Next fun a => a.harmless = true
  | .chunk | .start _ _ => True

instance (a : FlashCall) (s : ImageStore F Z) : Decidable (FindsFile cfg imgIdx a s) :=
  match a with
  | .ram (.memcpy _ _) =>
      inferInstanceAs (Decidable (cfg.build = .lfs → s.files.ReadyFor (imagePath imgIdx)))
  | .ram .memset | .ram (.peek _) | .ram (.setStoredImageSize _ _) | .ram (.displayWrite ..) =>
      isTrue trivial
  | .file _ | .fsWrite _ | .fsRead _ | .record _ | .zmsWrite _ _ | .zmsRead _ _ => isTrue trivial

instance (x : UploadState F Z) (e : UploadEvent) : Decidable (Undisturbed cfg imgIdx x e) :=
  match e with
  | .upload =>
      inferInstanceAs (Decidable ((x.pool.thread none).Next fun a =>
        FindsFile cfg imgIdx a x.pool.shared.store))
  | .other k =>
      inferInstanceAs (Decidable (x.pool.shared.held = true →
        (x.pool.thread (some k)).Next fun a => a.harmless = true))
  | .chunk | .start _ _ => isTrue trivial

/-! ## The other threads -/

/-- An action of the operations that do not write. -/
def FlashCall.Reads : FlashCall → Prop
  | .fsWrite _ | .file (.write _) | .file (.unlink _) => False
  | .zmsWrite _ _ | .record (.write _ _) | .record (.delete _) => False
  | _ => True

/-- A callback of the operations that do not write. -/
def ImageCall.Reads : ImageCall → Prop
  | .writeImg _ _ _ | .deleteImgs => False
  | _ => True

section Readers

variable {cfg} {d}

lemma reads_callsOn (imgIdx : UInt8) : CallsOn ImageCall.Reads imgIdx :=
  ⟨fun _ => trivial, trivial, fun _ _ => trivial⟩

lemma uses_displayControl {r : DisplayRun} : (displayControl cfg d r).Uses ImageCall.Reads := by
  refine ⟨trivial, fun _ => ⟨trivial, fun size => ?_⟩⟩
  exact Uses.ite ⟨trivial, fun _ => uses_displayFile (reads_callsOn _)⟩
    (uses_displayFile (reads_callsOn _))

/-- An operation that does not write uses only callbacks that do not write. -/
lemma uses_reads_program {op : ImageOp} (hop : op.isWrite = false) :
    (op.program cfg d).Uses ImageCall.Reads := by
  cases op with
  | select imgIdx => exact ⟨trivial, fun _ => trivial⟩
  | write imgIdx data off rem => cases hop
  | read imgIdx data len off => exact (uses_otsObjRead (reads_callsOn _)).bind fun _ => trivial
  | checksum imgIdx off len =>
      exact (uses_otsObjCalChecksum (reads_callsOn _)).bind fun _ => trivial
  | display r => exact uses_displayControl.bind fun _ => trivial
  | close => exact ⟨trivial, fun _ => trivial⟩

lemma uses_openImageFromStorage : (Lfs.openImageFromStorage imgIdx).Uses FlashCall.Reads := by
  refine ⟨trivial, fun opened => ?_⟩
  cases opened with
  | true => exact ⟨trivial, fun _ => ⟨trivial, fun _ => ⟨trivial, fun _ => trivial⟩⟩⟩
  | false => exact ⟨trivial, fun _ => ⟨trivial, fun _ => trivial⟩⟩

lemma uses_closeImageFromStorage : Lfs.closeImageFromStorage.Uses FlashCall.Reads := by
  refine ⟨trivial, fun opened => ?_⟩
  cases opened with
  | true => exact ⟨trivial, fun _ => ⟨trivial, fun _ => trivial⟩⟩
  | false => trivial

lemma uses_readImgFromStorage {len : ℕ} {off : Int} :
    (Lfs.readImgFromStorage imgIdx len off).Uses FlashCall.Reads := by
  have hopen : (Lfs.openIfClosed imgIdx).Uses FlashCall.Reads := by
    refine ⟨trivial, fun opened => ?_⟩
    cases opened with
    | true => trivial
    | false => exact (uses_openImageFromStorage imgIdx).bind fun _ => trivial
  refine hopen.bind fun _ => ⟨trivial, fun rc => ?_⟩
  exact Uses.ite trivial ⟨trivial, fun _ => trivial⟩

lemma uses_reads_impl (c : ImageCall) (hc : c.Reads) : (impl cfg c).Uses FlashCall.Reads := by
  cases hbuild : cfg.build with
  | nvs =>
      cases c with
      | ram c => exact ⟨trivial, fun _ => trivial⟩
      | openImage i =>
          simp only [impl, hbuild]
          trivial
      | closeImage =>
          simp only [impl, hbuild]
          trivial
      | readImg i len off =>
          simp only [impl, hbuild]
          exact Uses.ite trivial ⟨trivial, fun _ => trivial⟩
      | readImgSize i =>
          simp only [impl, hbuild]
          exact ⟨trivial, fun _ => trivial⟩
      | writeImg i len off => cases hc
      | deleteImgs => cases hc
  | lfs =>
      cases c with
      | ram c => exact ⟨trivial, fun _ => trivial⟩
      | openImage i =>
          simp only [impl, hbuild]
          exact uses_openImageFromStorage i
      | closeImage =>
          simp only [impl, hbuild]
          exact uses_closeImageFromStorage
      | readImg i len off =>
          simp only [impl, hbuild]
          exact uses_readImgFromStorage i
      | readImgSize i =>
          simp only [impl, hbuild]
          exact ⟨trivial, fun _ => trivial⟩
      | writeImg i len off => cases hc
      | deleteImgs => cases hc

/-- **The other threads only read.** -/
lemma uses_reads_flashProgram {op : ImageOp} (hop : op.isWrite = false) :
    (op.flashProgram cfg d).Uses FlashCall.Reads :=
  (uses_reads_program hop).expand uses_reads_impl

end Readers

/-! ## Interference -/

/-- A watched store over reliable devices. -/
abbrev RefWatched :=
  WatchedStore (Device.ofRef (FileSystem.interface Path)) (Device.ofRef (RecordStore.interface ℕ))

/-- What the other threads may do to the upload of an image. -/
structure Interferes (x y : RefWatched) : Prop where
  held : y.held = x.held
  stored : y.store.storedBytes cfg imgIdx = x.store.storedBytes cfg imgIdx
  buffer : x.held = true → y.store.imgObjBuf = x.store.imgObjBuf
  files : x.held = true → y.store.files = x.store.files

section Interference

variable {cfg} {imgIdx}

lemma Interferes.refl (x : RefWatched) : Interferes cfg imgIdx x x :=
  ⟨rfl, rfl, fun _ => rfl, fun _ => rfl⟩

lemma Interferes.trans (x y z : RefWatched) (hxy : Interferes cfg imgIdx x y)
    (hyz : Interferes cfg imgIdx y z) : Interferes cfg imgIdx x z where
  held := hyz.held.trans hxy.held
  stored := hyz.stored.trans hxy.stored
  buffer h := (hyz.buffer (hxy.held.trans h)).trans (hxy.buffer h)
  files h := (hyz.files (hxy.held.trans h)).trans (hxy.files h)

variable (cfg) in
/-- What is stored is not changed by reading. -/
lemma storedBytes_of_reads {c : FlashCall} (hc : c.Reads) (s : RefStore) (imgIdx : UInt8) :
    (flashSem cfg c s).2.storedBytes cfg imgIdx = s.storedBytes cfg imgIdx := by
  have hfiles : (((flashSem cfg c s).2.files.contents (imagePath imgIdx)).getD [])
      = (s.files.contents (imagePath imgIdx)).getD [] := by
    cases c with
    | ram c => cases c <;> rfl
    | file c =>
        refine FileSystem.getD_ref_contents ?_ ?_ (imagePath imgIdx)
        · rintro data rfl
          exact hc
        · rintro q rfl
          exact hc
    | fsRead len =>
        exact FileSystem.getD_ref_contents (c := .read len) (by rintro _ ⟨⟩) (by rintro _ ⟨⟩)
          (imagePath imgIdx)
    | record c => rfl
    | zmsRead id len => rfl
    | fsWrite len => cases hc
    | zmsWrite id len => cases hc
  have hread : ∀ id len, (RecordStore.ref (.read id len) s.records).2 = s.records := by
    intro id len
    simp only [RecordStore.ref]
    cases s.records id with
    | none => rfl
    | some data => rfl
  have hrecords : (flashSem cfg c s).2.records = s.records := by
    cases c with
    | ram c => cases c <;> rfl
    | file c => rfl
    | fsRead len => rfl
    | record c =>
        cases c with
        | read id len => exact hread id len
        | write id data => cases hc
        | delete id => cases hc
    | zmsRead id len => exact hread id len
    | fsWrite len => cases hc
    | zmsWrite id len => cases hc
  simp only [ImageStore.storedBytes, hfiles, hrecords]

/-- The buffer and the files after an action that leaves them alone. -/
lemma flashSem_of_harmless {c : FlashCall} (hc : c.harmless = true) (s : RefStore) :
    (flashSem cfg c s).2.imgObjBuf = s.imgObjBuf ∧ (flashSem cfg c s).2.files = s.files := by
  cases c with
  | ram c =>
      cases c with
      | memset => cases hc
      | memcpy data off => cases hc
      | peek len => exact ⟨rfl, rfl⟩
      | setStoredImageSize i size => exact ⟨rfl, rfl⟩
      | displayWrite y height off len => exact ⟨rfl, rfl⟩
  | file c =>
      cases c with
      | isOpen => exact ⟨rfl, rfl⟩
      | stat p =>
          refine ⟨rfl, ?_⟩
          show (FileSystem.ref (.stat p) s.files).2 = s.files
          simp only [FileSystem.ref]
          cases s.files.contents p with
          | none => rfl
          | some bytes => rfl
      | _ => cases hc
  | record c => exact ⟨rfl, rfl⟩
  | _ => cases hc

/-- **A turn of another thread** that does not disturb the upload. -/
lemma interferes_othersSem {c : FlashCall} {x : RefWatched} (hc : c.Reads)
    (hheld : x.held = true → c.harmless = true) : Interferes cfg imgIdx x (othersSem cfg c x).2 where
  held := rfl
  stored := storedBytes_of_reads cfg hc x.store imgIdx
  buffer h := (flashSem_of_harmless (hheld h) x.store).1
  files h := (flashSem_of_harmless (hheld h) x.store).2

end Interference

/-! ## One chunk with ZMS -/

/-- A place in an upload, between two chunks. -/
structure Upload.At {cfg : ImageConfig} (u : Upload cfg) (sent : ℕ) (pending : List (List UInt8)) :
    Prop where
  le : sent ≤ u.bytes.length
  drop : u.bytes.drop sent = pending.flatten

/-- Where an upload with ZMS is between two chunks. -/
structure ProgressNvs {cfg : ImageConfig} (u : Upload cfg) (sent : ℕ) (pending : List (List UInt8))
    (x : RefWatched) : Prop where
  stored : pending = [] → x.store.storedBytes cfg u.imgIdx = u.bytes
  buffer : pending ≠ [] →
    x.store.imgObjBuf.read 0 sent = u.bytes.take sent ∧ (x.held = true ∨ sent = 0)

section Chunk

variable {cfg} {d} {u : Upload cfg} {sent : ℕ} {c : List UInt8} {cs : List (List UInt8)}

lemma Upload.At.next (h : u.At sent (c :: cs)) : u.At (sent + c.length) cs where
  le := by
    have hlen := congrArg List.length h.drop
    rw [List.length_drop, List.flatten_cons, List.length_append] at hlen
    have := h.le
    omega
  drop := by
    rw [← List.drop_drop, h.drop, List.flatten_cons, List.drop_left]

/-- The bytes sent with one more chunk. -/
lemma Upload.At.take_next (h : u.At sent (c :: cs)) :
    u.bytes.take (sent + c.length) = u.bytes.take sent ++ c := by
  rw [List.take_add, h.drop, List.flatten_cons, List.take_left]

/-- Nothing remains behind the last bytes. -/
lemma Upload.At.eq_length (h : u.At sent cs) (hrem : cs.flatten.length = 0) :
    sent = u.bytes.length := by
  have hlen := congrArg List.length h.drop
  rw [List.length_drop, hrem] at hlen
  have := h.le
  omega

lemma ProgressNvs.stable (x y : RefWatched) (hxy : Interferes cfg u.imgIdx x y)
    (h : ProgressNvs u sent cs x) : ProgressNvs u sent cs y where
  stored hcs := hxy.stored.trans (h.stored hcs)
  buffer hcs := by
    obtain ⟨hread, hheld⟩ := h.buffer hcs
    rcases hheld with hheld | rfl
    · exact ⟨by rw [hxy.buffer hheld, hread], .inl (hxy.held.trans hheld)⟩
    · exact ⟨by rw [Mem.read_zero, List.take_zero], .inr rfl⟩

/-- The buffer holds the first bytes of the upload. -/
structure Gathered (u : Upload cfg) (n : ℕ) (x : RefWatched) : Prop where
  held : x.held = true
  read : x.store.imgObjBuf.read 0 n = u.bytes.take n

lemma Gathered.stable {n : ℕ} (x y : RefWatched) (hxy : Interferes cfg u.imgIdx x y)
    (h : Gathered u n x) : Gathered u n y where
  held := hxy.held.trans h.held
  read := by rw [hxy.buffer h.held, h.read]

/-- `ots_obj_write` with ZMS, down to the calls of ZMS. -/
lemma flashProgram_write_nvs (hbuild : cfg.build = .nvs) {imgIdx : UInt8} {off rem : ℕ}
    (hfits : off + c.length ≤ cfg.imageBufferSize) :
    (ImageOp.write imgIdx c off rem).flashProgram cfg d
      = .act (.ram (.memcpy c off)) fun _ =>
          if rem = 0 then
            .act (.ram (.setStoredImageSize imgIdx (RefStore.sizeAfter off c))) fun _ =>
            .act (.zmsWrite imgIdx.toNat (RefStore.sizeAfter off c).toNat) fun rc =>
              if rc < 0 then .done ()
              else
                .act (.record (.write (imgIdx.toNat + imgSizeOffset)
                  (le32Bytes (UInt32.ofNat (RefStore.sizeAfter off c).toNat)))) fun _ => .done ()
          else .done () := by
  have hcheck : ¬ ((off : Int) < 0 ∨ (cfg.imageBufferSize : Int) < off
      ∨ (cfg.imageBufferSize : Int) - off < c.length) := by omega
  simp only [ImageOp.flashProgram, ImageOp.program, otsObjWrite, hbuild, bufferImg, if_neg hcheck]
  refine congrArg (Program.act _) (funext fun _ => ?_)
  by_cases hrem : rem = 0
  · simp only [if_pos hrem]
    refine congrArg (Program.act _) (funext fun _ => ?_)
    simp only [imageCall, Program.perform, bind_eq_bind, act_bind, done_bind, expand_act, impl,
      hbuild, Nvs.writeImgToStorage]
    refine congrArg (Program.act _) (funext fun rc => ?_)
    simp only [done_bind]
    by_cases hrc : rc < 0
    · simp only [if_pos hrc]
      rfl
    · simp only [if_neg hrc]
      rfl
  · simp only [if_neg hrem]
    rfl

/-- The image of an upload is stored by a write of its bytes. -/
lemma storedBytes_zmsWrite (hbuild : cfg.build = .nvs) (x : RefWatched) (n : ℕ) :
    (flashSem cfg (.zmsWrite u.imgIdx.toNat n) x.store).2.storedBytes cfg u.imgIdx
      = x.store.imgObjBuf.read 0 n := by
  have hrecords : (flashSem cfg (.zmsWrite u.imgIdx.toNat n) x.store).2.records
      = Function.update x.store.records u.imgIdx.toNat
          (if x.store.imgObjBuf.read 0 n = [] then none else some (x.store.imgObjBuf.read 0 n)) :=
    RecordStore.ref_write _ _ _
  simp only [ImageStore.storedBytes, hbuild, hrecords, Function.update_self]
  split
  · rename_i hnil
    rw [hnil, Option.getD_none]
  · rw [Option.getD_some]

/-- The size record is another one. -/
lemma storedBytes_sizeRecord (hbuild : cfg.build = .nvs) (x : RefWatched) (size : List UInt8) :
    (flashSem cfg (.record (.write (u.imgIdx.toNat + imgSizeOffset) size)) x.store).2.storedBytes
        cfg u.imgIdx = x.store.storedBytes cfg u.imgIdx := by
  have hrecords : (flashSem cfg (.record (.write (u.imgIdx.toNat + imgSizeOffset) size)) x.store).2.records
      = Function.update x.store.records (u.imgIdx.toNat + imgSizeOffset)
          (if size = [] then none else some size) :=
    RecordStore.ref_write _ _ _
  have hne : u.imgIdx.toNat ≠ u.imgIdx.toNat + imgSizeOffset := by
    rw [imgSizeOffset]
    omega
  simp only [ImageStore.storedBytes, hbuild, hrecords, Function.update_of_ne hne]

/-- **One chunk with ZMS** is collected, and the last one stores them all. -/
lemma under_write_nvs (hbuild : cfg.build = .nvs) (hfits : u.bytes.length ≤ cfg.imageBufferSize)
    (hat : u.At sent (c :: cs)) {x : RefWatched} (hx : ProgressNvs u sent (c :: cs) x) :
    Under (uploadSem cfg cs) (fun a y => FindsFile cfg u.imgIdx a y.store)
      (Interferes cfg u.imgIdx) (fun _ => ProgressNvs u (sent + c.length) cs)
      ((ImageOp.write u.imgIdx c sent cs.flatten.length).flashProgram cfg d) x := by
  have hnext := hat.next
  rw [flashProgram_write_nvs hbuild (Nat.le_trans hnext.le hfits)]
  refine .act ProgressNvs.stable hx fun y hy _ => ?_
  have hcopied : Gathered u (sent + c.length) (uploadSem cfg cs (.ram (.memcpy c sent)) y).2 := by
    refine ⟨rfl, ?_⟩
    show (y.store.imgObjBuf.write sent c).read 0 (sent + c.length) = _
    have hbefore : (y.store.imgObjBuf.write sent c).read 0 sent = y.store.imgObjBuf.read 0 sent :=
      Mem.read_congr fun i hi => Mem.write_of_lt c (by omega)
    rw [Mem.read_add, Nat.zero_add, Mem.read_write, hat.take_next, hbefore,
      (hy.buffer (List.cons_ne_nil c cs)).1]
  by_cases hrem : cs.flatten.length = 0
  · have hn := hnext.eq_length hrem
    have hsize : (RefStore.sizeAfter sent c).toNat = u.bytes.length := by
      rw [RefStore.sizeAfter_eq, hn, UInt32.toNat_ofNat']
      exact Nat.mod_eq_of_lt (Nat.lt_trans u.length_lt (by decide))
    simp only [if_pos hrem]
    refine .act Gathered.stable hcopied fun y hy _ => ?_
    refine .act Gathered.stable (I := Gathered u (sent + c.length)) ⟨hy.held, hy.read⟩ fun y hy _ => ?_
    have hdone : ProgressNvs u (sent + c.length) cs
        (uploadSem cfg cs (.zmsWrite u.imgIdx.toNat (RefStore.sizeAfter sent c).toNat) y).2 := by
      refine ⟨fun _ => ?_, fun hcs => ⟨hy.read, .inl ?_⟩⟩
      · rw [hsize, ← hn]
        refine (storedBytes_zmsWrite hbuild y _).trans ?_
        rw [hy.read, hn, List.take_length]
      · cases cs with
        | nil => exact absurd rfl hcs
        | cons c' cs => rfl
    split
    · exact .done ProgressNvs.stable hdone
    · refine .act ProgressNvs.stable hdone fun y hy _ => .done ProgressNvs.stable ?_
      exact ⟨fun hcs => (storedBytes_sizeRecord hbuild y _).trans (hy.stored hcs), hy.buffer⟩
  · simp only [if_neg hrem]
    refine .done ProgressNvs.stable ⟨fun hcs => ?_, fun _ => ⟨hcopied.read, .inl hcopied.held⟩⟩
    exact absurd (by rw [hcs]; rfl) hrem

/-! ## One chunk with LittleFS -/

/-- Where an upload with LittleFS is between two chunks. -/
structure ProgressLfs (u : Upload cfg) (sent : ℕ) (x : RefWatched) : Prop where
  released : x.held = false
  take : (x.store.storedBytes cfg u.imgIdx).take sent = u.bytes.take sent
  le : sent ≤ (x.store.storedBytes cfg u.imgIdx).length
  length_le : (x.store.storedBytes cfg u.imgIdx).length ≤ u.bytes.length

lemma ProgressLfs.stable (x y : RefWatched) (hxy : Interferes cfg u.imgIdx x y)
    (h : ProgressLfs u sent x) : ProgressLfs u sent y where
  released := hxy.held.trans h.released
  take := by rw [hxy.stored, h.take]
  le := by rw [hxy.stored]; exact h.le
  length_le := by rw [hxy.stored]; exact h.length_le

/-- Progress is made by what a chunk leaves in the file. -/
lemma ProgressLfs.next (hat : u.At sent (c :: cs)) {x y : RefWatched} (hx : ProgressLfs u sent x)
    (hheld : y.held = false) (hstored : y.store.storedBytes cfg u.imgIdx
      = FileSystem.overwrite (x.store.storedBytes cfg u.imgIdx) sent c) :
    ProgressLfs u (sent + c.length) y := by
  have hlen := congrArg List.length hstored
  rw [FileSystem.length_overwrite] at hlen
  have hnext := hat.next.le
  have hold := hx.length_le
  refine ⟨hheld, ?_, by omega, by omega⟩
  have hpad : sent - (x.store.storedBytes cfg u.imgIdx).length = 0 := Nat.sub_eq_zero_of_le hx.le
  have htake : ((x.store.storedBytes cfg u.imgIdx).take sent ++ c).length = sent + c.length := by
    rw [List.length_append, List.length_take, Nat.min_eq_left hx.le]
  rw [hstored, FileSystem.overwrite, hpad, List.replicate_zero, List.append_nil, hat.take_next,
    ← hx.take, ← htake, List.take_left]

/-- A chunk is in the buffer, and the file object serves its image. -/
structure Copied (imgIdx : UInt8) (old c : List UInt8) (x : RefWatched) : Prop where
  held : x.held = true
  read : x.store.imgObjBuf.read 0 c.length = c
  contents : (x.store.files.contents (imagePath imgIdx)).getD [] = old
  ready : x.store.files.ReadyFor (imagePath imgIdx)

/-- And the file is open at a position. -/
structure CopiedAt (imgIdx : UInt8) (old c : List UInt8) (pos : ℕ) (x : RefWatched) : Prop
    extends Copied imgIdx old c x where
  openAt : x.store.files.file = some (imagePath imgIdx, pos)

variable {imgIdx : UInt8} {old : List UInt8}

lemma Copied.stable (x y : RefWatched) (hxy : Interferes cfg imgIdx x y)
    (h : Copied imgIdx old c x) : Copied imgIdx old c y where
  held := hxy.held.trans h.held
  read := by rw [hxy.buffer h.held, h.read]
  contents := by rw [hxy.files h.held, h.contents]
  ready := by rw [hxy.files h.held]; exact h.ready

lemma CopiedAt.stable {pos : ℕ} (x y : RefWatched) (hxy : Interferes cfg imgIdx x y)
    (h : CopiedAt imgIdx old c pos x) : CopiedAt imgIdx old c pos y where
  toCopied := h.toCopied.stable x y hxy
  openAt := by rw [hxy.files h.held, h.openAt]

/-- An action of the upload that leaves the history variable as it was. -/
lemma uploadSem_file (pending : List (List UInt8)) (call : FileSystem.Call Path) (x : RefWatched) :
    uploadSem cfg pending (.file call) x
      = ((FileSystem.ref call x.store.files).1,
          ⟨RefStore.withFiles x.store (FileSystem.ref call x.store.files).2, x.held⟩) := rfl

/-- Opening the file of an image on a closed object. -/
lemma copiedAt_openFile {x : RefWatched} (hx : Copied imgIdx old c x)
    (hclosed : x.store.files.file = none) :
    CopiedAt imgIdx old c 0 (uploadSem cfg cs (.file (.openFile (imagePath imgIdx))) x).2 := by
  have hfiles : (FileSystem.ref (.openFile (imagePath imgIdx)) x.store.files).2
      = RefStore.created x.store imgIdx := by
    simp only [FileSystem.ref, hclosed]
    rfl
  rw [uploadSem_file, hfiles]
  refine ⟨⟨hx.held, hx.read, ?_, .inr rfl⟩, rfl⟩
  simp only [RefStore.files_withFiles, RefStore.created, Function.update_self, Option.getD_some]
  exact hx.contents

/-- A copied chunk whose file object is closed. -/
def CopiedClosed (imgIdx : UInt8) (old c : List UInt8) (x : RefWatched) : Prop :=
  Copied imgIdx old c x ∧ x.store.files.file = none

lemma CopiedClosed.stable (x y : RefWatched) (hxy : Interferes cfg imgIdx x y)
    (h : CopiedClosed imgIdx old c x) : CopiedClosed imgIdx old c y :=
  ⟨h.1.stable x y hxy, by rw [hxy.files h.1.held, h.2]⟩

variable (cs) in
/-- The first lines of `write_img_to_storage` leave the file open. -/
lemma under_openIfClosed {ok : FlashCall → RefWatched → Prop} {x : RefWatched}
    (hx : Copied imgIdx old c x) :
    Under (uploadSem cfg cs) ok (Interferes cfg imgIdx)
      (fun _ y => ∃ pos, CopiedAt imgIdx old c pos y) (Lfs.openIfClosed imgIdx) x := by
  have hstable : ∀ x y, Interferes cfg imgIdx x y →
      (∃ pos, CopiedAt imgIdx old c pos x) → ∃ pos, CopiedAt imgIdx old c pos y :=
    fun x y hxy ⟨pos, h⟩ => ⟨pos, h.stable x y hxy⟩
  refine .act Copied.stable hx fun y hy _ => ?_
  show Under _ _ _ _ (if y.store.files.file.isSome = true then _ else _) y
  by_cases hclosed : y.store.files.file = none
  · rw [hclosed]
    refine .act CopiedClosed.stable (I := CopiedClosed imgIdx old c) ⟨hy, hclosed⟩ fun z hz _ => ?_
    show Under _ _ _ _ (Program.bind (if z.store.files.file.isSome = true then _ else _) _) z
    rw [hz.2]
    refine .act CopiedClosed.stable hz fun w hw _ => ?_
    refine .act CopiedClosed.stable (I := CopiedClosed imgIdx old c) ⟨?_, rfl⟩ fun v hv _ => ?_
    · exact ⟨hw.1.held, hw.1.read, hw.1.contents, .inl rfl⟩
    · exact .done hstable ⟨0, copiedAt_openFile hv.1 hv.2⟩
  · obtain ⟨pos, hopen⟩ := RefStore.openAt_of_readyFor hy.ready hclosed
    rw [RefStore.isSome_of_openAt hopen]
    exact .done hstable ⟨pos, hy, hopen⟩

/-- What a write of a chunk leaves. -/
structure WroteChunk (cfg : ImageConfig) (imgIdx : UInt8) (old c : List UInt8) (off : ℕ)
    (x : RefWatched) : Prop where
  released : x.held = false
  stored : x.store.storedBytes cfg imgIdx = FileSystem.overwrite old off c

lemma WroteChunk.stable {off : ℕ} (x y : RefWatched) (hxy : Interferes cfg imgIdx x y)
    (h : WroteChunk cfg imgIdx old c off x) : WroteChunk cfg imgIdx old c off y where
  released := hxy.held.trans h.released
  stored := hxy.stored.trans h.stored

variable (cs) in
/-- `fs_write` in the open file. -/
lemma wroteChunk_fsWrite (hbuild : cfg.build = .lfs) {off : ℕ} {x : RefWatched}
    (hx : CopiedAt imgIdx old c off x) :
    (uploadSem cfg cs (.fsWrite c.length) x).1 = (c.length : Int)
      ∧ WroteChunk cfg imgIdx old c off (uploadSem cfg cs (.fsWrite c.length) x).2 := by
  have hwrite : (Lfs.fsWrite c.length).exec (flashSem cfg) x.store = _ :=
    RefStore.exec_fsWrite hx.openAt c.length
  rw [hx.read, hx.contents] at hwrite
  have hstore : (uploadSem cfg cs (.fsWrite c.length) x).2.store = _ := congrArg Prod.snd hwrite
  refine ⟨congrArg Prod.fst hwrite, rfl, ?_⟩
  simp only [hstore, ImageStore.storedBytes, hbuild, RefStore.files_withFiles,
    Function.update_self, Option.getD_some]

/-- The loop of `ots_obj_write`: its first attempt succeeds. -/
lemma under_writeRetry (hbuild : cfg.build = .lfs) {ok : FlashCall → RefWatched → Prop} {off n : ℕ}
    {x : RefWatched} (hx : Copied imgIdx old c x) :
    Under (uploadSem cfg cs) ok (Interferes cfg imgIdx)
      (fun _ => WroteChunk cfg imgIdx old c off)
      ((writeRetry imgIdx c.length off (n + 1)).expand (impl cfg)) x := by
  have himpl : (impl cfg (.writeImg imgIdx c.length off))
      = Lfs.writeImgToStorage imgIdx c.length off := by simp only [impl, hbuild]
  have hneg : ¬ (off : Int) < 0 := by omega
  have hlen : ¬ (c.length : Int) < 0 := by omega
  show Under _ _ _ _ ((impl cfg (.writeImg imgIdx c.length off)).bind _) x
  rw [himpl]
  simp only [Lfs.writeImgToStorage, bind_eq_bind, Program.bind_assoc]
  refine (under_openIfClosed cs hx).bind Interferes.refl fun _ y hopen => ?_
  obtain ⟨pos, hy⟩ := hopen
  refine .act CopiedAt.stable hy fun z hz _ => ?_
  have hseek : FileSystem.ref (.seek off) z.store.files
      = (0, ⟨z.store.files.contents, some (imagePath imgIdx, off)⟩) := by
    simp only [FileSystem.ref, hz.openAt, if_neg hneg, Int.toNat_natCast]
  rw [uploadSem_file, hseek]
  have hat : CopiedAt imgIdx old c off
      ⟨RefStore.withFiles z.store ⟨z.store.files.contents, some (imagePath imgIdx, off)⟩, z.held⟩ :=
    ⟨⟨hz.held, hz.read, hz.contents, .inr rfl⟩, rfl⟩
  refine .act CopiedAt.stable hat fun w hw _ => ?_
  obtain ⟨hrc, hwrote⟩ := wroteChunk_fsWrite cs hbuild hw
  rw [hrc]
  simp only [done_bind, if_neg hlen]
  exact .done WroteChunk.stable hwrote

/-- `ots_obj_write` with LittleFS: the copy, the write, and what follows it. -/
lemma flashProgram_write_lfs (hbuild : cfg.build = .lfs) {off rem : ℕ} :
    (ImageOp.write imgIdx c off rem).flashProgram cfg d
      = .act (.ram (.memcpy c 0)) fun _ =>
          ((writeRetry imgIdx c.length off otsLfsRetry).expand (impl cfg)).bind fun _ =>
            Lfs.closeImageFromStorage.bind fun _ =>
              if rem = 0 then
                .act (.ram (.setStoredImageSize imgIdx (RefStore.sizeAfter off c))) fun _ => .done ()
              else .done () := by
  simp only [ImageOp.flashProgram, ImageOp.program, otsObjWrite, hbuild, bind_eq_bind,
    Program.bind_assoc, expand_bind]
  refine congrArg (Program.act _) (funext fun _ => ?_)
  simp only [done_bind, expand_done]
  refine congrArg (Program.bind _) (funext fun _ => ?_)
  simp only [imageCall, Program.perform, expand_act, impl, hbuild, Program.bind_assoc]
  refine congrArg (Program.bind _) (funext fun _ => ?_)
  by_cases hrem : rem = 0
  · simp only [if_pos hrem]
    rfl
  · simp only [if_neg hrem]
    rfl

/-- Reading actions of the upload itself leave what a chunk has achieved. -/
lemma ProgressLfs.keeps {a : FlashCall} {x : RefWatched} (ha : a.Reads)
    (hcopy : ∀ data off, a ≠ .ram (.memcpy data off)) (hx : ProgressLfs u sent x) :
    ProgressLfs u sent (uploadSem cfg cs a x).2 := by
  have hstored := storedBytes_of_reads cfg ha x.store u.imgIdx
  have hheld : heldAfter cs a x.held = x.held := by
    cases a with
    | ram a =>
        cases a with
        | memcpy data off => exact absurd rfl (hcopy data off)
        | _ => rfl
    | fsWrite len => cases ha
    | zmsWrite id len => cases ha
    | _ => rfl
  refine ⟨hheld.trans hx.released, ?_, ?_, ?_⟩
  · exact (congrArg (List.take sent) hstored).trans hx.take
  · exact hx.le.trans_eq (congrArg List.length hstored).symm
  · exact (congrArg List.length hstored).trans_le hx.length_le

/-- **One chunk with LittleFS** goes into the file of its image. -/
lemma under_write_lfs (hbuild : cfg.build = .lfs) (hat : u.At sent (c :: cs)) {x : RefWatched}
    (hx : ProgressLfs u sent x) :
    Under (uploadSem cfg cs) (fun a y => FindsFile cfg u.imgIdx a y.store)
      (Interferes cfg u.imgIdx) (fun _ => ProgressLfs u (sent + c.length))
      ((ImageOp.write u.imgIdx c sent cs.flatten.length).flashProgram cfg d) x := by
  rw [flashProgram_write_lfs hbuild]
  refine .act ProgressLfs.stable hx fun y hy hready => ?_
  have hstored : y.store.storedBytes cfg u.imgIdx
      = (y.store.files.contents (imagePath u.imgIdx)).getD [] := by
    simp only [ImageStore.storedBytes, hbuild]
  have hcopied : Copied u.imgIdx (y.store.storedBytes cfg u.imgIdx) c
      (uploadSem cfg cs (.ram (.memcpy c 0)) y).2 :=
    ⟨rfl, Mem.read_write y.store.imgObjBuf 0 c, hstored.symm, hready hbuild⟩
  refine (under_writeRetry hbuild hcopied).bind Interferes.refl fun _ z hz => ?_
  have hnext : ProgressLfs u (sent + c.length) z := hy.next hat hz.released hz.stored
  -- Closing the file and setting the size store nothing.
  refine .of_uses (U := fun a : FlashCall => a.Reads ∧ ∀ data off, a ≠ .ram (.memcpy data off))
    ProgressLfs.stable (fun a _ ha hw => ProgressLfs.keeps (a := a) ha.1 ha.2 hw) ?_ hnext
  have hclose : Lfs.closeImageFromStorage.Uses
      fun a => a.Reads ∧ ∀ data off, a ≠ .ram (.memcpy data off) := by
    refine ⟨⟨trivial, by rintro _ _ ⟨⟩⟩, fun opened => ?_⟩
    cases opened with
    | true => exact ⟨⟨trivial, by rintro _ _ ⟨⟩⟩, fun _ => ⟨⟨trivial, by rintro _ _ ⟨⟩⟩, fun _ => trivial⟩⟩
    | false => trivial
  refine hclose.bind fun _ => Uses.ite ⟨⟨trivial, by rintro _ _ ⟨⟩⟩, fun _ => trivial⟩ trivial

end Chunk

/-! ## Whole runs -/

section Runs

variable {cfg} {d} {u : Upload cfg}

/-- An upload and other threads over reliable devices. -/
abbrev RefUpload :=
  UploadState (Device.ofRef (FileSystem.interface Path)) (Device.ofRef (RecordStore.interface ℕ))

/-- **The invariant.**  What is left of the current chunk leads to the assertion between this chunk
and the next one, whatever the others do, and they only read. -/
structure Advancing (d : DisplayDriver) (u : Upload cfg)
    (P : ℕ → List (List UInt8) → RefWatched → Prop) (x : RefUpload) : Prop where
  place : u.At x.sent x.pending
  under : Under (uploadSem cfg x.pending) (fun a y => FindsFile cfg u.imgIdx a y.store)
    (Interferes cfg u.imgIdx) (fun _ => P x.sent x.pending) (x.pool.thread none) x.pool.shared
  others : ∀ k, (x.pool.thread (some k)).Uses FlashCall.Reads

variable {P : ℕ → List (List UInt8) → RefWatched → Prop} {x y : RefUpload}

/-- Between two chunks. -/
lemma Advancing.of_done (h : Advancing d u P x) (hdone : x.pool.thread none = .done ()) :
    P x.sent x.pending x.pool.shared := by
  have hunder := h.under
  rw [hdone] at hunder
  exact hunder _ (Interferes.refl _)

/-- **The step lemma**, for any assertion between chunks that a chunk takes to the next place. -/
lemma preserved_upload (hchunk : ∀ n c cs x, u.At n (c :: cs) → P n (c :: cs) x →
      Under (uploadSem cfg cs) (fun a y => FindsFile cfg u.imgIdx a y.store)
        (Interferes cfg u.imgIdx) (fun _ => P (n + c.length) cs)
        ((ImageOp.write u.imgIdx c n cs.flatten.length).flashProgram cfg d) x) :
    PreservedUnder (uploadStep cfg d u.imgIdx) (Undisturbed cfg u.imgIdx) (Advancing d u P) := by
  intro x e y hx hguard hstep
  cases e with
  | chunk =>
      obtain ⟨pool, sent, pending⟩ := x
      cases pending with
      | nil => cases hstep
      | cons c cs =>
          obtain ⟨q, hstart, rfl⟩ := Option.map_eq_some_iff.mp hstep
          obtain ⟨hdone, hshared, hown, hothers⟩ := Pool.start_eq_some hstart
          refine ⟨hx.place.next, ?_, fun k => ?_⟩
          · simp only [hown, hshared]
            exact hchunk _ _ _ _ hx.place (hx.of_done hdone)
          · simp only [hothers _ (Option.some_ne_none k)]
            exact hx.others k
  | start k op =>
      simp only [uploadStep] at hstep
      split at hstep
      · cases hstep
      · rename_i hop
        obtain ⟨q, hstart, rfl⟩ := Option.map_eq_some_iff.mp hstep
        obtain ⟨-, hshared, hown, hothers⟩ := Pool.start_eq_some hstart
        refine ⟨hx.place, ?_, fun k' => ?_⟩
        · simp only [hothers _ (Option.some_ne_none k).symm, hshared]
          exact hx.under
        · by_cases hk : some k' = some k
          · simp only [hk, hown]
            exact uses_reads_flashProgram (Bool.eq_false_iff.mpr hop)
          · simp only [hothers _ hk]
            exact hx.others k'
  | upload =>
      obtain ⟨q, hturn, rfl⟩ := Option.map_eq_some_iff.mp hstep
      obtain ⟨a, next, hthread, hshared, hown, hothers⟩ := Pool.turn_eq_some hturn
      have hunder := hx.under
      have hfinds := hguard
      rw [hthread] at hunder
      simp only [Undisturbed, hthread] at hfinds
      refine ⟨hx.place, ?_, fun k => ?_⟩
      · simp only [hown, hshared]
        exact hunder.step Interferes.refl hfinds
      · simp only [hothers _ (Option.some_ne_none k)]
        exact hx.others k
  | other k =>
      obtain ⟨q, hturn, rfl⟩ := Option.map_eq_some_iff.mp hstep
      obtain ⟨a, next, hthread, hshared, hown, hothers⟩ := Pool.turn_eq_some hturn
      have huses := hx.others k
      have hharmless := hguard
      rw [hthread] at huses
      simp only [Undisturbed, hthread] at hharmless
      refine ⟨hx.place, ?_, fun k' => ?_⟩
      · simp only [hothers _ (Option.some_ne_none k).symm, hshared]
        exact hx.under.of_rel Interferes.trans (interferes_othersSem huses.1 hharmless)
      · by_cases hk : some k' = some k
        · simp only [hk, hown]
          exact huses.2 _
        · simp only [hothers _ hk]
          exact hx.others k'

end Runs

section Observed

variable {cfg} {d} {imgIdx} (hF : F.Reliable) (hZ : Z.Reliable)

/-- What can be observed. -/
def WatchedStore.observed (x : WatchedStore F Z) : RefWatched := ⟨x.store.observed, x.held⟩

def UploadState.observed (x : UploadState F Z) : RefUpload :=
  ⟨x.pool.map WatchedStore.observed, x.sent, x.pending⟩

/-- The condition looks only at what can be observed. -/
lemma undisturbed_observed (x : UploadState F Z) (e : UploadEvent) :
    Undisturbed cfg imgIdx x.observed e = Undisturbed cfg imgIdx x e := by
  have hfinds : ∀ (s : ImageStore F Z) a, FindsFile cfg imgIdx a s.observed = FindsFile cfg imgIdx a s := by
    intro s a
    cases a with
    | ram c => cases c <;> rfl
    | _ => rfl
  cases e with
  | upload => exact congrArg (fun P => (x.pool.thread none).Next P) (funext fun a => hfinds _ a)
  | _ => rfl

include hF hZ in
/-- A step over reliable devices is the step on what can be observed. -/
lemma uploadStep_observed (x : UploadState F Z) (e : UploadEvent) :
    uploadStep cfg d imgIdx x.observed e = (uploadStep cfg d imgIdx x e).map UploadState.observed := by
  have hupload : ∀ a (y : WatchedStore F Z), uploadSem cfg x.pending a y.observed
      = ((uploadSem cfg x.pending a y).1, (uploadSem cfg x.pending a y).2.observed) := by
    intro a y
    simp only [uploadSem, WatchedStore.observed, flashSem_observed hF hZ]
  have hothers : ∀ a (y : WatchedStore F Z), othersSem cfg a y.observed
      = ((othersSem cfg a y).1, (othersSem cfg a y).2.observed) := by
    intro a y
    simp only [othersSem, WatchedStore.observed, flashSem_observed hF hZ]
  cases e with
  | chunk =>
      obtain ⟨pool, sent, pending⟩ := x
      cases pending with
      | nil => rfl
      | cons c cs =>
          simp only [uploadStep, UploadState.observed, Pool.start_map, Option.map_map]
          rfl
  | start k op =>
      simp only [uploadStep, UploadState.observed, Pool.start_map]
      split
      · rfl
      · simp only [Option.map_map]
        rfl
  | upload =>
      simp only [uploadStep, UploadState.observed, Pool.turn_map hupload, Option.map_map]
      rfl
  | other k =>
      simp only [uploadStep, UploadState.observed, Pool.turn_map hothers, Option.map_map]
      rfl

end Observed

/-- Nothing runs yet, and no chunk has arrived. -/
structure UploadState.Begins {cfg : ImageConfig} (u : Upload cfg) (x : UploadState F Z) : Prop where
  idle : ∀ t, x.pool.thread t = .done ()
  sent : x.sent = 0
  pending : x.pending = u.chunks
  held : x.pool.shared.held = false

/-- When the last chunk has been written, the image is what was sent. -/
def StoredAsSent {cfg : ImageConfig} (u : Upload cfg) (x : UploadState F Z) : Prop :=
  x.Finished → x.pool.shared.store.storedBytes cfg u.imgIdx = u.bytes

section Reference

variable {cfg} {d} {u : Upload cfg} {x : RefUpload}

lemma Upload.at_begin (u : Upload cfg) : u.At 0 u.chunks := ⟨Nat.zero_le _, rfl⟩

/-- An assertion between chunks that holds at the beginning and gives the bytes at the end. -/
lemma storedAsSent_of_chunk {P : ℕ → List (List UInt8) → RefWatched → Prop}
    (hstable : ∀ n cs x y, Interferes cfg u.imgIdx x y → P n cs x → P n cs y)
    (hchunk : ∀ n c cs x, u.At n (c :: cs) → P n (c :: cs) x →
      Under (uploadSem cfg cs) (fun a y => FindsFile cfg u.imgIdx a y.store)
        (Interferes cfg u.imgIdx) (fun _ => P (n + c.length) cs)
        ((ImageOp.write u.imgIdx c n cs.flatten.length).flashProgram cfg d) x)
    (hend : ∀ n x, u.At n [] → P n [] x → x.store.storedBytes cfg u.imgIdx = u.bytes)
    (hx : x.Begins u) (hbegin : P 0 u.chunks x.pool.shared) {events : List UploadEvent}
    (hG : StepsMeet (uploadStep cfg d u.imgIdx) (Undisturbed cfg u.imgIdx) x events) :
    AlongRun (uploadStep cfg d u.imgIdx) (StoredAsSent u) x events := by
  have hadvancing : Advancing d u P x := by
    refine ⟨?_, ?_, fun k => ?_⟩
    · rw [hx.sent, hx.pending]
      exact u.at_begin
    · rw [hx.sent, hx.pending, hx.idle]
      exact .done (hstable 0 u.chunks) hbegin
    · rw [hx.idle]
      trivial
  refine (alongRun_of_stepsMeet (preserved_upload hchunk) hadvancing hG).imp fun y hy hfinished => ?_
  obtain ⟨hpending, hdone⟩ := hfinished
  have hthread : y.pool.thread none = .done () := by
    cases hthread : y.pool.thread none with
    | done _ => rfl
    | act a next =>
        rw [hthread] at hdone
        cases hdone
  have hplace := hy.place
  have hstored := hy.of_done hthread
  rw [hpending] at hplace hstored
  exact hend _ _ hplace hstored

lemma storedAsSent_nvs (hbuild : cfg.build = .nvs) (hfits : u.bytes.length ≤ cfg.imageBufferSize)
    (hx : x.Begins u) {events : List UploadEvent}
    (hG : StepsMeet (uploadStep cfg d u.imgIdx) (Undisturbed cfg u.imgIdx) x events) :
    AlongRun (uploadStep cfg d u.imgIdx) (StoredAsSent u) x events := by
  refine storedAsSent_of_chunk (P := fun n cs => ProgressNvs u n cs) (fun _ _ => ProgressNvs.stable)
    (fun n c cs y hat hy => under_write_nvs hbuild hfits hat hy) ?_ hx ?_ hG
  · exact fun n y _ hy => hy.stored rfl
  · exact ⟨fun h => absurd h u.chunks_ne, fun _ => ⟨rfl, .inr rfl⟩⟩

lemma storedAsSent_lfs (hbuild : cfg.build = .lfs) (hx : x.Begins u)
    (hlen : x.pool.shared.store.fileLength u.imgIdx ≤ u.bytes.length) {events : List UploadEvent}
    (hG : StepsMeet (uploadStep cfg d u.imgIdx) (Undisturbed cfg u.imgIdx) x events) :
    AlongRun (uploadStep cfg d u.imgIdx) (StoredAsSent u) x events := by
  have hfile : ∀ s : RefStore, s.storedBytes cfg u.imgIdx
      = (s.files.contents (imagePath u.imgIdx)).getD [] := by
    intro s
    simp only [ImageStore.storedBytes, hbuild]
  refine storedAsSent_of_chunk (P := fun n _ => ProgressLfs u n) (fun _ _ => ProgressLfs.stable)
    (fun n c cs y hat hy => under_write_lfs hbuild hat hy) ?_ hx ?_ hG
  · intro n y hat hy
    have hn := hat.eq_length rfl
    have htake := hy.take
    subst hn
    rw [List.take_length, List.take_of_length_le hy.length_le] at htake
    exact htake
  · refine ⟨hx.held, rfl, Nat.zero_le _, ?_⟩
    rw [hfile]
    exact hlen

end Reference

/-- **Atomic uploads.**  In every interleaving that does not disturb the upload, the last chunk leaves
the bytes that were sent. -/
theorem storedAsSent_of_undisturbed {cfg : ImageConfig} {d : DisplayDriver} (hF : F.Reliable)
    (hZ : Z.Reliable) {u : Upload cfg} (hfits : cfg.build = .nvs → u.bytes.length ≤ cfg.imageBufferSize)
    {x : UploadState F Z} (hx : x.Begins u)
    (hlen : cfg.build = .lfs → x.pool.shared.store.fileLength u.imgIdx ≤ u.bytes.length)
    {events : List UploadEvent}
    (hG : StepsMeet (uploadStep cfg d u.imgIdx) (Undisturbed cfg u.imgIdx) x events) :
    AlongRun (uploadStep cfg d u.imgIdx) (StoredAsSent u) x events := by
  have hbegins : x.observed.Begins u := ⟨hx.idle, hx.sent, hx.pending, hx.held⟩
  have hguard : (fun (y : UploadState F Z) e => Undisturbed cfg u.imgIdx y.observed e)
      = Undisturbed cfg u.imgIdx :=
    funext fun y => funext fun e => undisturbed_observed y e
  have hG' : StepsMeet (uploadStep cfg d u.imgIdx) (Undisturbed cfg u.imgIdx) x.observed events := by
    rw [stepsMeet_map (uploadStep_observed hF hZ), hguard]
    exact hG
  have hrun : AlongRun (uploadStep cfg d u.imgIdx) (StoredAsSent u) x.observed events := by
    cases hbuild : cfg.build with
    | nvs => exact storedAsSent_nvs hbuild (hfits hbuild) hbegins hG'
    | lfs => exact storedAsSent_lfs hbuild hbegins (hlen hbuild) hG'
  exact (alongRun_map (uploadStep_observed hF hZ)).mp hrun

/-- Three bytes for image 0, in two chunks. -/
def threeBytes : Upload nvsSample where
  imgIdx := 0
  chunks := [[1, 2], [3]]
  imgIdx_lt := by decide
  chunks_ne := List.cons_ne_nil _ _
  length_lt := by decide

/-- Nothing is stored, and nothing runs. -/
def idleTag (chunks : List (List UInt8)) : RefUpload where
  pool :=
    { shared :=
        { store :=
            { volume := ⟨fun _ => none, none⟩
              zms := fun _ => none
              imgObjBuf := fun _ => 0
              storedImageSize := fun _ => 0
              panel := [] }
          held := false }
      thread := fun _ => .done () }
  sent := 0
  pending := chunks

/-- Image 1, which is not stored, is shown. -/
def showImage1 : ImageOp :=
  .display { dispIdx := 0, imgIdx := 1, xResolution := 200, yResolution := 200, writeResult _ := 0 }

/-- The display has read its header when the first chunk arrives, and looks at it afterwards. -/
theorem storedAsSent_of_undisturbed_display :
    AlongRun (uploadStep nvsSample epdShieldDisplay 0) (StoredAsSent threeBytes)
      (idleTag [[1, 2], [3]])
      [.start 0 showImage1, .other 0, .other 0, .other 0, .chunk, .upload, .other 0, .chunk, .upload,
        .upload, .upload, .upload] :=
  storedAsSent_of_undisturbed (u := threeBytes) (Device.ofRef_reliable _) (Device.ofRef_reliable _)
    (fun _ => by decide) ⟨fun _ => rfl, rfl, rfl, rfl⟩ (by rintro ⟨⟩) (by decide +kernel)

/-- When the whole display run falls between the chunks, its `memset` takes the first one. -/
theorem not_storedAsSent :
    ¬ AlongRun (uploadStep nvsSample epdShieldDisplay 0) (StoredAsSent threeBytes)
      (idleTag [[1, 2], [3]])
      [.chunk, .upload, .start 0 showImage1, .other 0, .other 0, .other 0, .other 0, .chunk, .upload,
        .upload, .upload, .upload] := by
  intro h
  have hend : ((TransitionSystem.run (uploadStep nvsSample epdShieldDisplay 0) (idleTag [[1, 2], [3]])
      [.chunk, .upload, .start 0 showImage1, .other 0, .other 0, .other 0, .other 0, .chunk, .upload,
        .upload, .upload, .upload]).map fun x =>
          (x.pending, (x.pool.thread none).isDone, x.pool.shared.store.storedBytes nvsSample 0))
      = some ([], true, [0, 0, 3]) := by decide +kernel
  obtain ⟨x, hrun, hx⟩ := Option.map_eq_some_iff.mp hend
  simp only [Prod.mk.injEq] at hx
  obtain ⟨hpending, hdone, hstored⟩ := hx
  have hsent := h.last hrun ⟨hpending, hdone⟩
  have hzero : ([0, 0, 3] : List UInt8) = threeBytes.bytes := hstored.symm.trans hsent
  revert hzero
  decide

end NrfEsl
