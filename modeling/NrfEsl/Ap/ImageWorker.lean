import NrfEsl.Common

/-!
# The images of automatically configured tags

A tag that is configured automatically gets the images of its product.  They go into one message queue,
`kimage_worker_msgq`, which one work item empties image by image; when it finds the queue empty, it
transfers PAwR sync.  Configuration and the work item run on the same work queue, so all images of a tag
are put before the worker runs.  The worker blocks while an image is written, and is cut there.

**Ghost.**  `log` is not in the source: what has happened on which connection.
-/

namespace NrfEsl

/-- `struct image_worker_data` -/
structure ImageWorkerData where
  connIdx : UInt8
  imgIdx : UInt8
  tagImgIdx : UInt8
  deriving DecidableEq, Repr

inductive ImageAction
  /-- `esl_c_auto_configuring_tag` -/
  | configured (connIdx : UInt8)
  | transferred (data : ImageWorkerData)
  /-- `esl_c_past` -/
  | past (connIdx : UInt8)
  deriving DecidableEq, Repr

structure ImageWorker where
  /-- `kimage_worker_msgq` -/
  msgq : List ImageWorkerData
  /-- `esl_ots_write_img_work.work` is in the work queue. -/
  scheduled : Bool
  /-- The worker waits for `esl_ots_write_flag`. -/
  writing : Option ImageWorkerData
  log : List ImageAction
  deriving DecidableEq, Repr

inductive ImageEvent
  /-- `esl_c_auto_configuring_tag` for a tag with this PnP product ID. -/
  | configure (connIdx : UInt8) (pnpPid : UInt16)
  /-- The work item is taken from the work queue. -/
  | work
  /-- `esl_ots_write_flag` is set, after the transfer or its failure. -/
  | written
  deriving DecidableEq, Repr

/-- `MAX_IMAGE_PER_TAG` -/
def maxImagePerTag : ℕ := 3

/-- The images of a product, as `tag_img_idx` and `img_idx`. -/
def autoImages (pnpPid : UInt16) : List (UInt8 × UInt8) :=
  match pnpPid.toNat with
  | 0x5480 => [(0, 4), (1, 5), (2, 6)]
  | 0x5481 => [(0, 2), (1, 3)]
  | 0x5482 => [(0, 0), (1, 1)]
  | 0x5483 => [(0, 7), (1, 8)]
  | 0x5485 => [(0, 0), (1, 1)]
  | 0x5486 => [(0, 0)]
  | 0x5488 => [(0, 9), (1, 0xA)]
  | 0x548A => [(0, 0), (1, 1)]
  | 0x548C => [(0, 0), (1, 1)]
  -- 0x5479, 0x5484, 0x5487, 0x5489 and 0x548B have no image, and other products are not known.
  | _ => []

namespace ImageWorker

/-- After `bt_esl_client_init`. -/
def init : ImageWorker where
  msgq := []
  scheduled := false
  writing := none
  log := []

/-- `k_msgq_put` with `K_NO_WAIT`; "No space in the queue for qk_data". -/
def kMsgqPut (data : ImageWorkerData) (s : ImageWorker) : ImageWorker :=
  if s.msgq.length < maxImagePerTag then { s with msgq := s.msgq ++ [data] } else s

/-- `esl_c_auto_configuring_tag`, as far as the images go. -/
def eslCAutoConfiguringTag (connIdx : UInt8) (pnpPid : UInt16) (s : ImageWorker) : ImageWorker :=
  let s := (autoImages pnpPid).foldl
    (fun s image => s.kMsgqPut ⟨connIdx, image.2, image.1⟩) s
  { s with scheduled := true, log := s.log ++ [.configured connIdx] }

/-- `esl_c_past` -/
def eslCPast (connIdx : UInt8) (s : ImageWorker) : ImageWorker :=
  { s with log := s.log ++ [.past connIdx] }

/-- `esl_ots_write_img_work_fn`, up to where it blocks. -/
def eslOtsWriteImgWorkFn (s : ImageWorker) : ImageWorker :=
  match s.msgq with
  | [] => s.eslCPast 0
  | data :: rest => { s with msgq := rest, writing := some data }

/-- `esl_ots_write_img_work_fn`, after the image. -/
def afterWrite (data : ImageWorkerData) (s : ImageWorker) : ImageWorker :=
  let s := { s with writing := none, log := s.log ++ [ImageAction.transferred data] }
  match s.msgq with
  | [] => s.eslCPast 0
  | _ :: _ => { s with scheduled := true }

/-- One event. -/
def step (s : ImageWorker) : ImageEvent → Option ImageWorker
  | .configure connIdx pnpPid => some (s.eslCAutoConfiguringTag connIdx pnpPid)
  | .work =>
      if s.scheduled = true ∧ s.writing = none then
        some { s with scheduled := false }.eslOtsWriteImgWorkFn
      else none
  | .written => s.writing.map fun data => s.afterWrite data

end ImageWorker

end NrfEsl
