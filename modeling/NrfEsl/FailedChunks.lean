import NrfEsl.Lib.TransitionSystem
import NrfEsl.Tag.ImageObjects

/-!
# Chunks that are lost

A chunk of an image can be lost on two ways.  With ZMS `buffer_img` drops what does not fit into the
buffer, and the write of the last chunk may fail.  With LittleFS each chunk is written up to three times,
and all attempts, or closing the file, may fail.

**Lost** is said of a chunk and the store before it (`ChunkWrite.Lost`), for any pattern of failures.
`writeAttempts` is the retry loop with the variable `rc`, which `ots_obj_write` does not look at.

**Reported** would be: an error for the chunk, and no new size for an image that is not complete.
`ots_obj_write` always answers the length of the chunk, so a run reports its lost chunks only if it has
none (`chunksReported_iff`).
-/

namespace NrfEsl

open TransitionSystem

variable {F : Device (FileSystem.interface Path)} {Z : Device (RecordStore.interface ℕ)}

/-- The arguments of `ots_obj_write`. -/
structure ChunkWrite where
  imgIdx : UInt8
  data : List UInt8
  off : Int
  rem : ℕ

/-- The `do … while` of `ots_obj_write`, with `rc` at its end. -/
def writeAttempts (imgIdx : UInt8) (len : ℕ) (off : Int) : Int → ℕ → ImageProgram Int
  | rc, 0 => return rc
  | _, n + 1 => do
      let rc ← imageCall (.writeImg imgIdx len off)
      if rc < 0 then writeAttempts imgIdx len off rc n else return rc

/-- The loop of `ots_obj_write` is this one, whose result is dropped. -/
lemma writeRetry_eq (imgIdx : UInt8) (len : ℕ) (off : Int) (rc : Int) (n : ℕ) :
    writeRetry imgIdx len off n = (writeAttempts imgIdx len off rc n).bind fun _ => return () := by
  induction n generalizing rc with
  | zero => rfl
  | succ n ih =>
      rw [writeRetry, writeAttempts]
      refine congrArg (Program.act (ImageCall.writeImg imgIdx len off)) (funext fun rc' => ?_)
      dsimp only [Program.done_bind]
      split
      · exact ih rc'
      · rfl

namespace ChunkWrite

variable (cfg : ImageConfig) (w : ChunkWrite)

/-- `ots_obj_write` -/
def program : ImageProgram ℕ := otsObjWrite cfg w.imgIdx w.data w.off w.rem

/-- The size that the last chunk of an image claims. -/
def size : UInt32 := UInt32.ofInt (w.off + w.data.length)

/-- The check of `buffer_img`. -/
def OutOfRange : Prop :=
  w.off < 0 ∨ cfg.imageBufferSize < w.off ∨ cfg.imageBufferSize - w.off < w.data.length

instance : Decidable (w.OutOfRange cfg) := inferInstanceAs (Decidable (_ ∨ _ ∨ _))

/-- What the storage answers to the last chunk, in a build with ZMS. -/
def stores : ImageProgram Int := do
  bufferImg cfg w.data w.off
  imageCall (.ram (.setStoredImageSize w.imgIdx w.size))
  imageCall (.writeImg w.imgIdx w.size.toNat 0)

/-- What the storage answers to a chunk in a build with LittleFS: to the last attempt to write it, and to
closing the file. -/
def attempts : ImageProgram (Int × Int) := do
  imageCall (.ram (.memcpy w.data 0))
  let rc ← writeAttempts w.imgIdx w.data.length w.off 0 otsLfsRetry
  let closed ← imageCall .closeImage
  return (rc, closed)

variable {cfg} {w} in
/-- The calls of `ots_obj_write`, without the size. -/
lemma program_lfs (hbuild : cfg.build = .lfs) :
    w.program cfg = w.attempts.bind fun _ =>
      if w.rem = 0 then do
        imageCall (.ram (.setStoredImageSize w.imgIdx w.size))
        return w.data.length
      else return w.data.length := by
  simp only [program, otsObjWrite, hbuild, attempts, writeRetry_eq w.imgIdx w.data.length w.off 0,
    Program.bind_eq_bind, Program.bind_assoc]
  rfl

variable {cfg} {w} in
lemma program_nvs (hbuild : cfg.build = .nvs) (hrem : w.rem = 0) :
    w.program cfg = (w.stores cfg).bind fun _ => return w.data.length := by
  simp only [program, otsObjWrite, hbuild, stores, if_pos hrem, Program.bind_eq_bind,
    Program.bind_assoc]
  rfl

/-- The chunk is dropped, or cannot be stored as a whole. -/
def Lost (s : ImageStore F Z) : Prop :=
  match cfg.build with
  | .nvs => w.OutOfRange cfg ∨ w.rem = 0 ∧ ((w.stores cfg).exec (callSem cfg) s).1 < 0
  | .lfs => (w.attempts.exec (callSem cfg) s).1.1 < w.data.length
      ∨ (w.attempts.exec (callSem cfg) s).1.2 < 0

end ChunkWrite

/-! ## Specification -/

/-- Of an image: a chunk of the transfer has been lost, and the size from before the transfer. -/
structure Transfer where
  lost : Prop
  before : UInt32

variable (cfg : ImageConfig)

/-- A chunk at the start of an image begins a transfer. -/
def transferAfter (s : ImageStore F Z) (w : ChunkWrite) (_ : ImageStore F Z) (h : UInt8 → Transfer) :
    UInt8 → Transfer :=
  Function.update h w.imgIdx
    (if w.off = 0 then ⟨w.Lost cfg s, s.storedImageSize w.imgIdx.toNat⟩
      else ⟨(h w.imgIdx).lost ∨ w.Lost cfg s, (h w.imgIdx).before⟩)

/-- Chunk after chunk, with the transfers they belong to. -/
def stepChunk : ImageStore F Z × (UInt8 → Transfer) → ChunkWrite →
    Option (ImageStore F Z × (UInt8 → Transfer)) :=
  withHistory (transferAfter cfg) fun s w => some ((w.program cfg).exec (callSem cfg) s).2

/-- No transfer has begun. -/
def Transfer.none : Transfer := ⟨False, 0⟩

/-- No size is claimed for an image that has lost a chunk. -/
def ClaimsComplete (x : ImageStore F Z × (UInt8 → Transfer)) : Prop :=
  ∀ i, (x.2 i).lost → x.1.storedImageSize i.toNat = (x.2 i).before

/-- A lost chunk is answered with an error. -/
def AnswersError (x : ImageStore F Z × (UInt8 → Transfer)) (w : ChunkWrite) : Prop :=
  w.Lost cfg x.1 → (((w.program cfg).exec (callSem cfg) x.1).1 : Int) < 0

/-- Lost chunks are reported along a run. -/
def ChunksReported (s : ImageStore F Z) (ws : List ChunkWrite) : Prop :=
  AlongRun (stepChunk cfg) ClaimsComplete (s, fun _ => .none) ws
    ∧ StepsMeet (stepChunk cfg) (AnswersError cfg) (s, fun _ => .none) ws

/-- No chunk of the run is lost. -/
def NoneLost (s : ImageStore F Z) (ws : List ChunkWrite) : Prop :=
  StepsMeet (stepChunk cfg) (fun x w => ¬ w.Lost cfg x.1) (s, fun _ => .none) ws

/-! ## What `ots_obj_write` answers -/

section Answers

variable {cfg} {w : ChunkWrite}

/-- **The length of the chunk**, whatever happens. -/
lemma ret_program (s : ImageStore F Z) :
    ((w.program cfg).exec (callSem cfg) s).1 = w.data.length := by
  cases hbuild : cfg.build with
  | nvs =>
      by_cases hrem : w.rem = 0
      · rw [ChunkWrite.program_nvs hbuild hrem, Program.exec_bind]
        rfl
      · simp only [ChunkWrite.program, otsObjWrite, hbuild, if_neg hrem, Program.bind_eq_bind,
          Program.exec_bind]
        rfl
  | lfs =>
      rw [ChunkWrite.program_lfs hbuild, Program.exec_bind]
      split
      · rfl
      · rfl

lemma not_lost_of_answersError {x : ImageStore F Z × (UInt8 → Transfer)} (h : AnswersError cfg x w) :
    ¬ w.Lost cfg x.1 := by
  intro hlost
  have hneg := h hlost
  rw [ret_program] at hneg
  omega

/-- Without a lost chunk no transfer has lost one. -/
def NothingLost (x : ImageStore F Z × (UInt8 → Transfer)) : Prop := ∀ i, ¬ (x.2 i).lost

lemma nothingLost_step {x y : ImageStore F Z × (UInt8 → Transfer)} (hx : NothingLost x)
    (hw : ¬ w.Lost cfg x.1) (h : stepChunk cfg x w = some y) : NothingLost y := by
  obtain ⟨-, hhist⟩ := withHistory_eq_some.mp h
  intro i
  rw [hhist, transferAfter]
  by_cases hi : i = w.imgIdx
  · subst hi
    rw [Function.update_self]
    split
    · exact hw
    · rintro (hbefore | hnow)
      · exact hx _ hbefore
      · exact hw hnow
  · rw [Function.update_of_ne hi]
    exact hx i

end Answers

/-- **Which runs report their lost chunks.** -/
theorem chunksReported_iff (s : ImageStore F Z) (ws : List ChunkWrite) :
    ChunksReported cfg s ws ↔ NoneLost cfg s ws := by
  refine alongRun_and_stepsMeet_iff (I := NothingLost) ?_ ?_ ?_ ?_ fun i hlost => hlost
  · intro x hx i hlost
    exact absurd hlost (hx i)
  · intro x w y hx hw hstep
    exact nothingLost_step hx hw hstep
  · intro x w y hx hw hstep hlost
    exact absurd hlost hw
  · intro x w y hx hstep hanswers hclaims
    exact not_lost_of_answersError hanswers

/-- The whole image in one chunk, one byte longer than the buffer of the sample. -/
def longChunk : ChunkWrite := ⟨0, List.replicate 65 7, 0, 0⟩

/-- An empty store. -/
def emptyStore : ImageStore (Device.ofRef (FileSystem.interface Path))
    (Device.ofRef (RecordStore.interface ℕ)) where
  volume := ⟨fun _ => none, none⟩
  zms := fun _ => none
  imgObjBuf := fun _ => 0
  storedImageSize := fun _ => 0
  panel := []

/-- A chunk that does not fit is dropped, answered with its length, and the image is given its size. -/
theorem not_chunksReported :
    ¬ ChunksReported nvsSample emptyStore [longChunk]
      ∧ (((longChunk.program nvsSample).exec (callSem nvsSample) emptyStore).2.storedImageSize 0) = 65 := by
  have hlost : longChunk.Lost nvsSample emptyStore := .inl (by decide)
  refine ⟨fun h => ?_, rfl⟩
  have hanswers := (h.2 _ rfl).1
  exact not_lost_of_answersError hanswers hlost

end NrfEsl
