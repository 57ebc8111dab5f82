import NrfEsl.ChunkedChecksum

/-!
# An image on the panel, chunk by chunk

With LittleFS `display_control` hands an image to the panel in chunks of eight rows.  The header gives a
width and a height, and the file is accepted if it is not shorter than width × height / 8.

* `displayHeader` — the function up to the header; `displayControl_eq` takes it apart there.
* `PanelShows` — what the panel is to get: the bytes behind the header, each of them once, every chunk
  at the row of its position and as high as it is long, and all rows on the panel.
* **One turn after the other** (`exec_displayLoop`): while a whole number of rows is left the loop does so.

A chunk of one width fits `img_obj_buf`: panels are at most `CONFIG_ESL_IMAGE_BUFFER_SIZE` wide.

The loop starts with a chunk of one width, whatever the size, and the height in the header is not used
any more.  So `displaysChunks_iff` asks for a payload of at least one width that fills whole rows, no
more of them than the panel has.
-/

namespace NrfEsl

variable {F : Device (FileSystem.interface Path)} {Z : Device (RecordStore.interface ℕ)}

/-! ## `display_control`, in two parts -/

section Parts

variable (cfg : ImageConfig) (d : DisplayDriver) (r : DisplayRun)

/-- The size in storage, the result of the read, and the header. -/
structure ImageHeader where
  imgSize : ℕ
  err : Int
  w : UInt16
  h : UInt16

/-- The header, from the file. -/
def readHeader (imgSize : ℕ) : ImageProgram ImageHeader := do
  let err ← imageCall (.readImg r.imgIdx grayHeadSize 0)
  let head ← imageCall (.ram (.peek grayHeadSize))
  let w := sysGetLe16 (Mem.ofBytes head fun _ => 0) 2
  let h := sysGetLe16 (Mem.ofBytes head fun _ => 0) 4
  return ⟨imgSize, err, w, h⟩

/-- `display_control` up to the header. -/
def displayHeader : ImageProgram ImageHeader := do
  imageCall (.ram .memset)
  let imgSize ← imageCall (.readImgSize r.imgIdx)
  if d.opensImage then
    let _ ← imageCall (.openImage r.imgIdx)
    readHeader r imgSize
  else
    readHeader r imgSize

/-- A check of the header fails. -/
def ImageHeader.Rejected (x : ImageHeader) : Prop :=
  x.imgSize < x.w.toNat * x.h.toNat / 8 ∨ x.w = 0 ∨ x.h = 0 ∨ r.xResolution < x.w ∨ r.yResolution < x.h

instance (x : ImageHeader) : Decidable (x.Rejected r) :=
  inferInstanceAs (Decidable (_ ∨ _ ∨ _ ∨ _ ∨ _))

/-- The chunk loop for a header. -/
def headerLoop (x : ImageHeader) : ImageProgram LoopEnd :=
  displayLoop d r x.w displayFuel 0 (UInt32.ofNat x.imgSize - UInt32.ofNat grayHeadSize)
    x.w.toUInt32 0 8 0 x.err

/-- `display_control` from the header on. -/
def displayBody (x : ImageHeader) : ImageProgram Int :=
  if x.Rejected r then
    if d.closesOnReject then displayEnd d FileSystem.einval else return FileSystem.einval
  else
    match cfg.build with
    | .nvs => do
        let err ← imageCall (.readImg r.imgIdx x.imgSize 0)
        imageCall (.ram (.displayWrite 0 x.h grayHeadSize (x.w.toNat * x.h.toNat / 8)))
        displayEnd d (if d.reportsWrites then r.writeResult 0 else err)
    | .lfs => do
        match ← headerLoop d r x with
        | .finished err => displayEnd d err
        | .writeError err => if d.closesOnWriteError then displayEnd d err else return err
        | .outOfFuel => return x.err

lemma displayControl_eq :
    displayControl cfg d r = (displayHeader d r).bind (displayBody cfg d r) := by
  unfold displayControl displayHeader
  cases d.opensImage with
  | true => rfl
  | false => rfl

end Parts

/-! ## Specification -/

/-- What the panel gets of a payload of some width, from a position in it on. -/
structure PanelShows (width yResolution start : ℕ) (payload : List UInt8) (writes : List PanelWrite) :
    Prop where
  bytes : (writes.map PanelWrite.bytes).flatten = payload
  rows : ∀ before w after, writes = before ++ w :: after →
    w.y.toNat = (start + (before.map PanelWrite.bytes).flatten.length) * 8 / width
      ∧ w.height.toNat * width = w.bytes.length * 8 ∧ w.y.toNat + w.height.toNat ≤ yResolution

/-- The loop ends, and the panel gets the payload. -/
structure DisplaysChunks (cfg : ImageConfig) (d : DisplayDriver) (r : DisplayRun)
    (payload : List UInt8) (s : ImageStore F Z) : Prop where
  ends : ∃ err, ((headerLoop d r ((displayHeader d r).exec (callSem cfg) s).1).exec (callSem cfg)
    ((displayHeader d r).exec (callSem cfg) s).2).1 = .finished err
  shown : ∃ writes, ((displayControl cfg d r).exec (callSem cfg) s).2.panel = s.panel ++ writes
    ∧ PanelShows ((displayHeader d r).exec (callSem cfg) s).1.w.toNat r.yResolution.toNat 0 payload
      writes

/-- A file of whole rows, at least one width of them and no more than the panel has. -/
def FillsRows (width yResolution size : ℕ) : Prop :=
  grayHeadSize ≤ size ∧ (size = grayHeadSize ∨
    width ≤ size - grayHeadSize ∧ width ∣ (size - grayHeadSize) * 8
      ∧ (size - grayHeadSize) * 8 / width ≤ yResolution)

instance (width yResolution size : ℕ) : Decidable (FillsRows width yResolution size) :=
  inferInstanceAs (Decidable (_ ∧ (_ ∨ _ ∧ _ ∧ _)))

/-! ## What the panel gets fits -/

section Panel

variable {width yResolution start : ℕ} {payload : List UInt8} {writes : List PanelWrite}

lemma PanelShows.nil : PanelShows width yResolution start [] [] :=
  ⟨rfl, fun before w after h => by simp at h⟩

/-- One more chunk in front. -/
lemma PanelShows.cons {w : PanelWrite} (hy : w.y.toNat = start * 8 / width)
    (hheight : w.height.toNat * width = w.bytes.length * 8)
    (hfits : w.y.toNat + w.height.toNat ≤ yResolution)
    (h : PanelShows width yResolution (start + w.bytes.length) payload writes) :
    PanelShows width yResolution start (w.bytes ++ payload) (w :: writes) := by
  refine ⟨?_, fun before v after hsplit => ?_⟩
  · rw [List.map_cons, List.flatten_cons, h.bytes]
  · cases before with
    | nil =>
        cases hsplit
        exact ⟨hy, hheight, hfits⟩
    | cons u before =>
        obtain ⟨rfl, hrest⟩ := List.cons.inj hsplit
        have hrow := h.rows before v after hrest
        rw [List.map_cons, List.flatten_cons, List.length_append, ← Nat.add_assoc]
        exact hrow

lemma PanelShows.dvd_of_mem (h : PanelShows width yResolution start payload writes) {w : PanelWrite}
    (hw : w ∈ writes) : width ∣ w.bytes.length * 8 := by
  obtain ⟨before, after, hsplit⟩ := List.append_of_mem hw
  rw [← (h.rows before w after hsplit).2.1]
  exact Nat.dvd_mul_left width _

/-- Chunks of whole rows make up whole rows. -/
lemma dvd_length_flatten (h : ∀ w ∈ writes, width ∣ w.bytes.length * 8) :
    width ∣ (writes.map PanelWrite.bytes).flatten.length * 8 := by
  induction writes with
  | nil => simp
  | cons w rest ih =>
      rw [List.map_cons, List.flatten_cons, List.length_append, Nat.add_mul]
      exact Nat.dvd_add (h w List.mem_cons_self) (ih fun v hv => h v (List.mem_cons_of_mem _ hv))

lemma PanelShows.dvd (h : PanelShows width yResolution start payload writes) :
    width ∣ payload.length * 8 := by
  rw [← h.bytes]
  exact dvd_length_flatten fun w hw => h.dvd_of_mem hw

/-- The last chunk ends at the last row. -/
lemma PanelShows.rows_le (hwidth : 0 < width) (h : PanelShows width yResolution 0 payload writes)
    (hne : payload ≠ []) : payload.length * 8 / width ≤ yResolution := by
  rcases List.eq_nil_or_concat' writes with rfl | ⟨before, w, rfl⟩
  · exact absurd h.bytes.symm hne
  · obtain ⟨hy, hheight, hfits⟩ := h.rows before w [] rfl
    have hbefore : width ∣ (before.map PanelWrite.bytes).flatten.length * 8 :=
      dvd_length_flatten fun v hv => h.dvd_of_mem (List.mem_append_left _ hv)
    obtain ⟨rows, hrows⟩ := hbefore
    rw [Nat.zero_add, hrows, Nat.mul_div_cancel_left _ hwidth] at hy
    have hlen : payload.length * 8 = width * (rows + w.height.toNat) := by
      rw [← h.bytes, List.map_append, List.flatten_append, List.length_append, Nat.add_mul, hrows]
      simp only [List.map_cons, List.map_nil, List.flatten_cons, List.flatten_nil, List.append_nil]
      rw [← hheight, Nat.mul_add, Nat.mul_comm width w.height.toNat]
    rw [hlen, Nat.mul_div_cancel_left _ hwidth, ← hy]
    exact hfits

end Panel

/-! ## What the panel has got stays -/

section Grows

variable {cfg : ImageConfig} {d : DisplayDriver} {r : DisplayRun}

lemma panel_prefix_flashSem (c : FlashCall) (s : ImageStore F Z) :
    s.panel <+: (flashSem cfg c s).2.panel := by
  cases c with
  | ram c =>
      cases c with
      | displayWrite y height off len => exact List.prefix_append _ _
      | _ => exact List.prefix_refl _
  | _ => exact List.prefix_refl _

variable (cfg) in
/-- No program takes anything from the panel. -/
lemma panel_prefix {α : Type} (prog : ImageProgram α) (s : ImageStore F Z) :
    s.panel <+: (prog.exec (callSem cfg) s).2.panel := by
  have hcall : ∀ (c : ImageCall) (t : ImageStore F Z), s.panel <+: t.panel →
      s.panel <+: (callSem cfg c t).2.panel := by
    intro c t ht
    exact Program.exec_of_uses (I := fun u : ImageStore F Z => s.panel <+: u.panel)
      (Program.Uses.of_forall (fun _ => trivial) (impl cfg c))
      (fun c u _ hu => hu.trans (panel_prefix_flashSem c u)) ht
  exact Program.exec_of_uses (I := fun u : ImageStore F Z => s.panel <+: u.panel)
    (Program.Uses.of_forall (fun _ => trivial) prog) (fun c t _ ht => hcall c t ht)
    (List.prefix_refl _)

/-- The first chunk of the loop goes to the panel, whatever is left of the image. -/
lemma chunk_le_of_displayLoop (s : ImageStore F Z) {width height curY : UInt16} {fuel n : ℕ}
    {imgSize chunkSize curPos : UInt32} {err : Int} {writes : List PanelWrite} (hsize : imgSize ≠ 0)
    (h : ((displayLoop d r width (fuel + 1) n imgSize chunkSize curPos height curY err).exec
      (callSem cfg) s).2.panel = s.panel ++ writes) :
    chunkSize.toNat ≤ (writes.map PanelWrite.bytes).flatten.length := by
  rw [displayLoop, if_neg hsize, Program.bind_eq_bind, Program.exec_bind, Program.bind_eq_bind,
    Program.exec_bind, Program.exec_perform] at h
  obtain ⟨before, hbefore⟩ := panel_prefix cfg (displayChunk d r chunkSize curPos err) s
  generalize ((displayChunk d r chunkSize curPos err).exec (callSem cfg) s).2 = t at h hbefore
  have hgrows : (callSem cfg (.ram (.displayWrite curY height 0 chunkSize.toNat)) t).2.panel
      <+: s.panel ++ writes := by
    rw [← h]
    exact panel_prefix cfg _ _
  have hpanel : (callSem cfg (.ram (.displayWrite curY height 0 chunkSize.toNat)) t).2.panel
      = t.panel ++ [⟨curY, height, t.imgObjBuf.read 0 chunkSize.toNat⟩] := rfl
  obtain ⟨after, hafter⟩ := hgrows
  rw [hpanel, ← hbefore, List.append_assoc, List.append_assoc, List.append_cancel_left_eq] at hafter
  rw [← hafter]
  simp only [List.map_append, List.flatten_append, List.length_append, List.map_cons, List.flatten_cons,
    Mem.length_read]
  omega

end Grows

/-! ## The loop, on a file -/

section Loop

variable {cfg : ImageConfig} {d : DisplayDriver} {r : DisplayRun} {content : List UInt8}

/-- The display shows the stored image, not a built-in one. -/
def ShowsFile (d : DisplayDriver) (r : DisplayRun) : Prop := d.builtIn = none ∨ r.dispIdx = 0

lemma displayChunk_of_showsFile (h : ShowsFile d r) (chunkSize curPos : UInt32) (err : Int) :
    displayChunk d r chunkSize curPos err
      = imageCall (.readImg r.imgIdx chunkSize.toNat
          (curPos + UInt32.ofNat grayHeadSize).toInt32.toInt) := by
  unfold displayChunk
  rcases h with hnone | hzero
  · rw [hnone]
  · cases d.builtIn with
    | none => rfl
    | some gImage1 => exact if_pos hzero

/-- The store after a call of `display_write`. -/
def RefStore.shown (s : RefStore) (w : PanelWrite) : RefStore := { s with panel := s.panel ++ [w] }

/-- **One turn**: a chunk that the file has goes to the panel. -/
lemma exec_displayLoop_succ (hbuild : cfg.build = .lfs) (hshows : ShowsFile d r)
    (hworks : d.reportsWrites → ∀ n, r.writeResult n = 0) {s : RefStore} (h : s.Holds r.imgIdx content)
    (hmax : content.length ≤ lfsFileMax) (fuel n : ℕ) (width height curY : UInt16) {p m : ℕ}
    {imgSize : UInt32} (err : Int) (hsize : imgSize ≠ 0) (hm : p + grayHeadSize + m ≤ content.length) :
    ∃ err', (displayLoop d r width (fuel + 1) n imgSize (UInt32.ofNat m) (UInt32.ofNat p) height curY
        err).exec (callSem cfg) s
      = (displayLoop d r width fuel (n + 1) (imgSize - UInt32.ofNat m)
          (if imgSize - UInt32.ofNat m < UInt32.ofNat m then imgSize - UInt32.ofNat m
            else UInt32.ofNat m)
          (UInt32.ofNat p + UInt32.ofNat m)
          (if imgSize - UInt32.ofNat m < UInt32.ofNat m then
            ((if imgSize - UInt32.ofNat m < UInt32.ofNat m then imgSize - UInt32.ofNat m
              else UInt32.ofNat m) * 8 / width.toUInt32).toUInt16 else height)
          ((UInt32.ofNat p + UInt32.ofNat m) * 8 / width.toUInt32).toUInt16 err').exec (callSem cfg)
        ((s.afterRead r.imgIdx content (p + grayHeadSize) m).shown
          ⟨curY, height, slice content (p + grayHeadSize) m⟩) := by
  have hoff : (UInt32.ofNat p + UInt32.ofNat grayHeadSize).toInt32.toInt
      = ((p + grayHeadSize : ℕ) : Int) := by
    rw [← UInt32.ofNat_add, toInt_ofNat_of_le (by omega)]
  have htoNat : (UInt32.ofNat m).toNat = m :=
    UInt32.toNat_ofNat_of_lt' (by rw [UInt32.size]; rw [lfsFileMax] at hmax; omega)
  have hbytes : (s.afterRead r.imgIdx content (p + grayHeadSize) m).imgObjBuf.read 0 m
      = slice content (p + grayHeadSize) m := read_write_slice _ hm
  have hwrite : (imageCall (.ram (.displayWrite curY height 0 m))).exec (callSem cfg)
      (s.afterRead r.imgIdx content (p + grayHeadSize) m)
        = ((), (s.afterRead r.imgIdx content (p + grayHeadSize) m).shown
            ⟨curY, height, slice content (p + grayHeadSize) m⟩) := by
    rw [← hbytes]
    rfl
  rw [displayLoop, if_neg hsize, displayChunk_of_showsFile hshows, hoff, htoNat,
    Program.bind_eq_bind, Program.exec_bind, Program.exec_perform,
    RefStore.callSem_readImg_lfs hbuild h, Program.bind_eq_bind, Program.exec_bind, hwrite]
  dsimp only
  refine ⟨if d.reportsWrites = true then r.writeResult n
    else ((slice content (p + grayHeadSize) m).length : Int), ?_⟩
  rw [if_neg]
  rintro ⟨hreports, hne⟩
  rw [if_pos hreports, hworks hreports] at hne
  exact hne rfl

/-- What a turn changes: the width stays, and the next row is the one behind the chunk. -/
lemma toNat_rows {width : UInt16} {yResolution : UInt16} {q : ℕ}
    (hq : q * 8 / width.toNat ≤ yResolution.toNat) (hdvd : width.toNat ∣ q * 8) :
    (UInt32.ofNat q * 8 / width.toUInt32).toUInt16.toNat = q * 8 / width.toNat := by
  have hres := yResolution.toNat_lt
  have hwidth := width.toNat_lt
  obtain ⟨rows, hrows⟩ := hdvd
  have hle : q * 8 < 2 ^ 32 := by
    rw [hrows] at hq ⊢
    rcases Nat.eq_zero_or_pos width.toNat with hzero | hpos
    · rw [hzero]
      omega
    · rw [Nat.mul_div_cancel_left _ hpos] at hq
      calc width.toNat * rows ≤ width.toNat * yResolution.toNat := Nat.mul_le_mul_left _ hq
        _ < 2 ^ 16 * 2 ^ 16 := Nat.mul_lt_mul'' hwidth hres
        _ = 2 ^ 32 := rfl
  have hmul : (UInt32.ofNat q * 8).toNat = q * 8 := by
    rw [UInt32.toNat_mul, UInt32.toNat_ofNat]
    show q % 2 ^ 32 * 8 % 2 ^ 32 = q * 8
    omega
  rw [UInt32.toNat_toUInt16, UInt32.toNat_div, hmul, UInt16.toNat_toUInt32]
  exact Nat.mod_eq_of_lt (by omega)

/-- The height of the next chunk fits its size. -/
lemma toNat_nextHeight {width height yResolution : UInt16} {m rest : ℕ} (hm0 : 0 < m)
    (hm : m ≤ lfsFileMax) (hrest : rest ≤ lfsFileMax) (hmin : min width.toNat (m + rest) = m)
    (hdvd : width.toNat ∣ rest * 8) (hfits : rest * 8 / width.toNat ≤ yResolution.toNat)
    (hheight : height.toNat * width.toNat = m * 8) :
    (if UInt32.ofNat rest < UInt32.ofNat m then
        (UInt32.ofNat (min width.toNat rest) * 8 / width.toUInt32).toUInt16 else height).toNat
          * width.toNat = min width.toNat rest * 8 := by
  by_cases hlast : rest < m
  · have hle : min width.toNat rest = rest := by omega
    rw [if_pos ((ofNat_lt_ofNat hrest hm).mpr hlast), hle, toNat_rows hfits hdvd,
      Nat.div_mul_cancel hdvd]
  · have hle : min width.toNat rest = m := by omega
    rw [if_neg (mt (ofNat_lt_ofNat hrest hm).mp hlast), hle, hheight]

/-- **The rest of the payload**, from a row on. -/
lemma exec_displayLoop (hbuild : cfg.build = .lfs) (hshows : ShowsFile d r)
    (hworks : d.reportsWrites → ∀ n, r.writeResult n = 0) (hmax : content.length ≤ lfsFileMax)
    {width : UInt16} (hwidth : 0 < width.toNat) {size : ℕ} (hsize : content.length = size + grayHeadSize)
    (hdvd : width.toNat ∣ size * 8) (hfits : size * 8 / width.toNat ≤ r.yResolution.toNat)
    (fuel : ℕ) {n : ℕ} {s : RefStore} (h : s.Holds r.imgIdx content) {p : ℕ} (hp : p ≤ size)
    (hfuel : size - p < fuel) {height curY : UInt16} (hrow : width.toNat ∣ p * 8)
    (hcurY : curY.toNat = p * 8 / width.toNat)
    (hheight : height.toNat * width.toNat = min width.toNat (size - p) * 8) (err : Int) :
    ∃ err' t writes, (displayLoop d r width fuel n (UInt32.ofNat (size - p))
        (UInt32.ofNat (min width.toNat (size - p))) (UInt32.ofNat p) height curY err).exec (callSem cfg) s
          = (.finished err', t)
      ∧ t.panel = s.panel ++ writes
      ∧ PanelShows width.toNat r.yResolution.toNat p (content.drop (p + grayHeadSize)) writes := by
  induction fuel generalizing n s p height curY err with
  | zero => omega
  | succ fuel ih =>
      by_cases hend : size - p = 0
      · have hdrop : content.drop (p + grayHeadSize) = [] := List.drop_eq_nil_of_le (by omega)
        refine ⟨err, s, [], ?_, (List.append_nil _).symm, hdrop ▸ PanelShows.nil⟩
        rw [hend, displayLoop, if_pos (show UInt32.ofNat 0 = 0 from rfl)]
        rfl
      · have hm : min width.toNat (size - p) ≤ size - p := Nat.min_le_right _ _
        have hm0 : 0 < min width.toNat (size - p) := by omega
        generalize hmin : min width.toNat (size - p) = m at hm hm0 hheight ⊢
        have hne : UInt32.ofNat (size - p) ≠ 0 := by
          rw [Ne, ofNat_eq_zero_iff (by omega)]
          exact hend
        have hsub : UInt32.ofNat (size - p) - UInt32.ofNat m = UInt32.ofNat (size - (p + m)) := by
          rw [← UInt32.ofNat_sub hm, Nat.sub_sub]
        have hchunk := ofNat_next (b := width.toNat) (n := size - p) (by omega)
        rw [hmin, hsub, Nat.sub_sub] at hchunk
        have hdvdM : width.toNat ∣ m * 8 := ⟨height.toNat, by rw [← hheight, Nat.mul_comm]⟩
        have hdvdNext : width.toNat ∣ (p + m) * 8 := by
          rw [Nat.add_mul]
          exact Nat.dvd_add hrow hdvdM
        have hfitsNext : (p + m) * 8 / width.toNat ≤ r.yResolution.toNat :=
          (Nat.div_le_div_right (Nat.mul_le_mul_right 8 (by omega))).trans hfits
        obtain ⟨err', hturn⟩ := exec_displayLoop_succ hbuild hshows hworks h hmax fuel n
          width height curY (p := p) (m := m) err hne (by omega)
        rw [hsub, hchunk, ← UInt32.ofNat_add] at hturn
        have hdvdRest : width.toNat ∣ (size - (p + m)) * 8 := by
          rw [Nat.sub_mul]
          exact Nat.dvd_sub hdvd hdvdNext
        have hfitsRest : (size - (p + m)) * 8 / width.toNat ≤ r.yResolution.toNat :=
          (Nat.div_le_div_right (Nat.mul_le_mul_right 8 (Nat.sub_le _ _))).trans hfits
        have hminRest : min width.toNat (m + (size - (p + m))) = m := by
          rw [← hmin]
          congr 1
          omega
        obtain ⟨err'', t, writes, hexec, hpanel, hshown⟩ := ih (n := n + 1)
          (s := (s.afterRead r.imgIdx content (p + grayHeadSize) m).shown
            ⟨curY, height, slice content (p + grayHeadSize) m⟩) ⟨h.stored, .inr rfl⟩ (p := p + m)
          (by omega) (by omega) hdvdNext (toNat_rows hfitsNext hdvdNext)
          (toNat_nextHeight hm0 (by omega) (by omega) hminRest hdvdRest hfitsRest hheight) err'
        have hlen : (slice content (p + grayHeadSize) m).length = m := length_slice (by omega)
        refine ⟨err'', t, _, hturn.trans hexec, hpanel.trans (List.append_assoc _ _ _), ?_⟩
        have hsplit := slice_append_drop content (p + grayHeadSize) m
        rw [Nat.add_right_comm] at hsplit
        rw [← hsplit]
        refine PanelShows.cons (w := ⟨curY, height, slice content (p + grayHeadSize) m⟩) hcurY ?_ ?_ ?_
        · rw [hheight, hlen]
        · obtain ⟨rows, hrows⟩ := hrow
          rw [hcurY, hrows, Nat.mul_div_cancel_left _ hwidth]
          rw [Nat.add_mul, hrows, ← hheight, Nat.mul_comm height.toNat, ← Nat.mul_add,
            Nat.mul_div_cancel_left _ hwidth] at hfitsNext
          exact hfitsNext
        · rw [hlen]
          exact hshown

/-! ## The header -/

/-- `open_image_from_storage`, whatever was open before. -/
lemma callSem_openImage_lfs (hbuild : cfg.build = .lfs) (imgIdx : UInt8) (s : RefStore) :
    (callSem cfg (.openImage imgIdx) s).2 = s.withFiles (s.created imgIdx) := by
  simp only [callSem, impl, hbuild]
  by_cases hnone : s.files.file = none
  · rw [RefStore.exec_lfs_openImageFromStorage hnone]
  · obtain ⟨f, hfile⟩ := Option.ne_none_iff_exists'.mp hnone
    have hopen : s.OpenAt f.1 f.2 := hfile
    have hclosed : (s.withFiles ⟨s.files.contents, none⟩).files.file = none := rfl
    simp only [Lfs.openImageFromStorage, Program.bind_eq_bind, Program.exec_bind,
      RefStore.exec_fileIsOpen, RefStore.isSome_of_openAt hopen, if_true, RefStore.exec_fsClose,
      RefStore.exec_fsFileTInit]
    rw [RefStore.files_withFiles, RefStore.withFiles_withFiles, RefStore.exec_fsOpen hclosed]
    rfl

/-- The driver opens the file, or finds no other one open. -/
def FileReady (d : DisplayDriver) (r : DisplayRun) (s : ImageStore F Z) : Prop :=
  d.opensImage = true ∨ s.files.ReadyFor (imagePath r.imgIdx)

lemma exec_readHeader (hbuild : cfg.build = .lfs) {s : RefStore} (h : s.Holds r.imgIdx content)
    (imgSize : ℕ) :
    ∃ x, (readHeader r imgSize).exec (callSem cfg) s
        = (x, s.afterRead r.imgIdx content 0 grayHeadSize) ∧ x.imgSize = imgSize := by
  have hread := RefStore.callSem_readImg_lfs hbuild h grayHeadSize 0
  rw [Int.natCast_zero] at hread
  unfold readHeader
  rw [Program.bind_eq_bind, Program.exec_bind, Program.exec_perform, hread]
  exact ⟨_, rfl, rfl⟩

/-- **Up to the header** nothing goes to the panel, and the file is open. -/
lemma exec_displayHeader (hbuild : cfg.build = .lfs) {s : RefStore} (hfinds : FileReady d r s)
    (hstored : s.files.contents (imagePath r.imgIdx) = some content) :
    ∃ x t, (displayHeader d r).exec (callSem cfg) s = (x, t) ∧ x.imgSize = content.length
      ∧ RefStore.Holds t r.imgIdx content ∧ t.panel = s.panel := by
  have hsize : (s.cleared cfg).fileLength r.imgIdx = content.length := by
    have hcleared : (s.cleared cfg).files.contents (imagePath r.imgIdx) = some content := hstored
    rw [ImageStore.fileLength, hcleared]
    rfl
  unfold displayHeader
  simp only [Program.bind_eq_bind, Program.exec_bind, Program.exec_perform]
  rw [show (callSem cfg (.ram .memset) s).2 = s.cleared cfg from rfl,
    RefStore.callSem_readImgSize_lfs hbuild, hsize]
  cases hopens : d.opensImage with
  | true =>
      have hcontents : ((s.cleared cfg).created r.imgIdx).contents = s.files.contents :=
        RefStore.contents_created (s := s.cleared cfg) hstored
      have hholds : ((s.cleared cfg).withFiles ((s.cleared cfg).created r.imgIdx)).Holds r.imgIdx
          content := by
        refine ⟨?_, .inr rfl⟩
        rw [RefStore.files_withFiles, hcontents, hstored]
      obtain ⟨x, hx, himg⟩ := exec_readHeader hbuild hholds content.length
      simp only [if_true, Program.exec_bind, Program.exec_perform]
      rw [callSem_openImage_lfs hbuild, hx]
      exact ⟨x, _, rfl, himg, RefStore.holds_afterRead hholds _ _, rfl⟩
  | false =>
      have hholds : (s.cleared cfg).Holds r.imgIdx content := by
        rcases hfinds with htrue | hready
        · rw [hopens] at htrue
          cases htrue
        · exact ⟨hstored, hready⟩
      obtain ⟨x, hx, himg⟩ := exec_readHeader hbuild hholds content.length
      rw [if_neg Bool.false_ne_true, hx]
      exact ⟨x, _, rfl, himg, RefStore.holds_afterRead hholds _ _, rfl⟩

/-- The panel is the one after the loop, if the loop ends. -/
lemma panel_displayControl (hbuild : cfg.build = .lfs) {s t u : RefStore} {x : ImageHeader} {err : Int}
    (hheader : (displayHeader d r).exec (callSem cfg) s = (x, t)) (haccepted : ¬ x.Rejected r)
    (hloop : (headerLoop d r x).exec (callSem cfg) t = (.finished err, u)) :
    ((displayControl cfg d r).exec (callSem cfg) s).2.panel = u.panel := by
  rw [displayControl_eq, Program.exec_bind, hheader, displayBody, if_neg haccepted]
  simp only [hbuild, Program.bind_eq_bind, Program.exec_bind, hloop]
  show (callSem cfg .closeImage u).2.panel = u.panel
  rw [RefStore.callSem_closeImage_lfs hbuild]
  rfl

/-- The loop, on a file of whole rows. -/
lemma exec_headerLoop (hbuild : cfg.build = .lfs) (hshows : ShowsFile d r)
    (hworks : d.reportsWrites → ∀ n, r.writeResult n = 0) (hmax : content.length ≤ lfsFileMax)
    {x : ImageHeader} (himg : x.imgSize = content.length) (hwidth : 0 < x.w.toNat)
    (h : FillsRows x.w.toNat r.yResolution.toNat content.length) {s : RefStore}
    (hs : s.Holds r.imgIdx content) :
    ∃ err t writes, (headerLoop d r x).exec (callSem cfg) s = (.finished err, t)
      ∧ t.panel = s.panel ++ writes
      ∧ PanelShows x.w.toNat r.yResolution.toNat 0 (content.drop grayHeadSize) writes := by
  obtain ⟨hhead, hrows⟩ := h
  unfold headerLoop
  rw [himg, ← UInt32.ofNat_sub hhead]
  by_cases hempty : content.length = grayHeadSize
  · have hdrop : content.drop grayHeadSize = [] := List.drop_eq_nil_of_le (by omega)
    refine ⟨x.err, s, [], ?_, (List.append_nil _).symm, hdrop ▸ PanelShows.nil⟩
    rw [hempty, Nat.sub_self]
    rfl
  · obtain ⟨hle, hdvd, hfits⟩ := hrows.resolve_left hempty
    have hsplit : content.length = content.length - grayHeadSize + grayHeadSize := by omega
    have hmin : min x.w.toNat (content.length - grayHeadSize - 0) = x.w.toNat := Nat.min_eq_left hle
    have hw : UInt32.ofNat x.w.toNat = x.w.toUInt32 := by
      have hlt := x.w.toNat_lt
      rw [← UInt32.toNat_inj, UInt32.toNat_ofNat_of_lt' (by rw [UInt32.size]; omega),
        UInt16.toNat_toUInt32]
    have hcurY : (0 : UInt16).toNat = 0 * 8 / x.w.toNat := by
      rw [Nat.zero_mul, Nat.zero_div]
      rfl
    have hheight : (8 : UInt16).toNat * x.w.toNat
        = min x.w.toNat (content.length - grayHeadSize - 0) * 8 := by
      rw [hmin, Nat.mul_comm]
      rfl
    have hfuel : content.length - grayHeadSize - 0 < displayFuel := by
      rw [lfsFileMax] at hmax
      rw [displayFuel]
      omega
    have hloop := exec_displayLoop hbuild hshows hworks hmax hwidth hsplit hdvd hfits displayFuel (n := 0)
      hs (Nat.zero_le _) hfuel ⟨0, rfl⟩ hcurY hheight x.err
    rw [hmin, hw] at hloop
    exact hloop

lemma size_sub_ne_zero {n : ℕ} (hmax : n ≤ lfsFileMax) (h : n ≠ grayHeadSize) :
    UInt32.ofNat n - UInt32.ofNat grayHeadSize ≠ 0 := by
  intro hzero
  have hn := congrArg UInt32.toNat hzero
  have hsix : (UInt32.ofNat grayHeadSize).toNat = 6 := rfl
  have hzero' : (0 : UInt32).toNat = 0 := rfl
  have hlt : (UInt32.ofNat n).toNat = n :=
    UInt32.toNat_ofNat_of_lt' (by rw [UInt32.size]; rw [lfsFileMax] at hmax; omega)
  rw [UInt32.toNat_sub, hsix, hlt, hzero'] at hn
  rw [lfsFileMax] at hmax
  rw [grayHeadSize] at h
  omega

variable (cfg d r content) in
/-- The same over the documented file system. -/
lemma displaysChunks_ref_iff (s : RefStore) (hbuild : cfg.build = .lfs) (hshows : ShowsFile d r)
    (hworks : d.reportsWrites → ∀ n, r.writeResult n = 0)
    (hstored : s.files.contents (imagePath r.imgIdx) = some content) (hfinds : FileReady d r s)
    (hmax : content.length ≤ lfsFileMax)
    (haccepted : ¬ ((displayHeader d r).exec (callSem cfg) s).1.Rejected r) :
    DisplaysChunks cfg d r (content.drop grayHeadSize) s
      ↔ FillsRows ((displayHeader d r).exec (callSem cfg) s).1.w.toNat r.yResolution.toNat
          content.length := by
  obtain ⟨x, t, hheader, himg, hholds, hpanel⟩ := exec_displayHeader hbuild hfinds hstored
  have hwidth : 0 < x.w.toNat := by
    rw [hheader] at haccepted
    refine Nat.pos_of_ne_zero fun hzero => haccepted (.inr (.inl ?_))
    exact UInt16.toNat_inj.mp hzero
  have hlen : (content.drop grayHeadSize).length = content.length - grayHeadSize := List.length_drop
  constructor
  · rintro ⟨⟨err, hends⟩, writes, hwrites, hshown⟩
    rw [hheader] at hends hshown haccepted ⊢
    have hloop : (headerLoop d r x).exec (callSem cfg) t
        = (.finished err, ((headerLoop d r x).exec (callSem cfg) t).2) := Prod.ext hends rfl
    rw [panel_displayControl hbuild hheader haccepted hloop, ← hpanel] at hwrites
    have hbytes : (writes.map PanelWrite.bytes).flatten.length = content.length - grayHeadSize := by
      rw [hshown.bytes, hlen]
    have hfirst : content.length ≠ grayHeadSize → x.w.toNat ≤ content.length - grayHeadSize := by
      intro hne
      have hsize := size_sub_ne_zero hmax hne
      rw [← himg] at hsize
      have hle := chunk_le_of_displayLoop t hsize hwrites
      rw [hbytes, UInt16.toNat_toUInt32] at hle
      exact hle
    by_cases hempty : content.length = grayHeadSize
    · exact ⟨Nat.le_of_eq hempty.symm, .inl hempty⟩
    · have hle := hfirst hempty
      have hne : content.drop grayHeadSize ≠ [] := by
        intro hnil
        rw [hnil, List.length_nil] at hlen
        omega
      have hdvd := hshown.dvd
      have hrows := hshown.rows_le hwidth hne
      rw [hlen] at hdvd hrows
      exact ⟨by omega, .inr ⟨hle, hdvd, hrows⟩⟩
  · intro h
    rw [hheader] at h haccepted
    obtain ⟨err, u, writes, hloop, hu, hshown⟩ :=
      exec_headerLoop hbuild hshows hworks hmax himg hwidth h hholds
    refine ⟨⟨err, ?_⟩, writes, ?_, ?_⟩
    · rw [hheader, hloop]
    · rw [panel_displayControl hbuild hheader haccepted hloop, hu, hpanel]
    · rw [hheader]
      exact hshown

lemma displaysChunks_observed (hF : F.Reliable) (hZ : Z.Reliable) {payload : List UInt8}
    (s : ImageStore F Z) :
    DisplaysChunks cfg d r payload s.observed ↔ DisplaysChunks cfg d r payload s := by
  have hheader : (displayHeader d r).exec (callSem cfg) s.observed
      = (((displayHeader d r).exec (callSem cfg) s).1,
          ((displayHeader d r).exec (callSem cfg) s).2.observed) :=
    exec_callSem_observed hF hZ s _
  have hcontrol : (displayControl cfg d r).exec (callSem cfg) s.observed
      = (((displayControl cfg d r).exec (callSem cfg) s).1,
          ((displayControl cfg d r).exec (callSem cfg) s).2.observed) :=
    exec_callSem_observed hF hZ s _
  constructor
  · rintro ⟨⟨err, hends⟩, writes, hwrites, hshown⟩
    rw [hheader] at hends hshown
    rw [hcontrol] at hwrites
    rw [exec_callSem_observed hF hZ] at hends
    exact ⟨⟨err, hends⟩, writes, hwrites, hshown⟩
  · rintro ⟨⟨err, hends⟩, writes, hwrites, hshown⟩
    refine ⟨⟨err, ?_⟩, writes, ?_, ?_⟩
    · rw [hheader, exec_callSem_observed hF hZ]
      exact hends
    · rw [hcontrol]
      exact hwrites
    · rw [hheader]
      exact hshown

end Loop

/-- A panel of 16 × 8, whose writes succeed. -/
def smallPanel : DisplayRun where
  dispIdx := 0
  imgIdx := 0
  xResolution := 16
  yResolution := 8
  writeResult := fun _ => 0

/-- A file with a header of 16 × 8 and a payload. -/
def smallFile (payload : List UInt8) : List UInt8 := [0, 0, 16, 0, 8, 0] ++ payload

/-- The header that is read of a small file. -/
lemma header_smallFile :
    ((displayHeader epdShieldDisplay smallPanel).exec (callSem lfsSample)
        (RefStore.oneFile 0 (smallFile (List.replicate 16 7)))).1 = ⟨22, 6, 16, 8⟩
      ∧ ((displayHeader epdShieldDisplay smallPanel).exec (callSem lfsSample)
        (RefStore.oneFile 0 (smallFile (List.replicate 10 7)))).1 = ⟨16, 6, 16, 8⟩ :=
  ⟨rfl, rfl⟩

end NrfEsl
