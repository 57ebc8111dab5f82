import NrfEsl.Ap.Unassociate

/-!
# Service discovery on the access point

The services of a tag are discovered one after the other by one worker: each completion queues it again,
and `disc_state` counts how far it has come.  Both `disc_state` and `esl_ap_disc_work.conn_idx` are
shared by all connections.

At the end the worker waits for the PnP ID and may transfer PAwR sync, which blocks it; a start or a
completion can come in between, so the worker is cut there.

**Ghost.**  `log` and `asserted` are not in the source: what has happened on which connection, and
whether the worker's assertion on `disc_state` has failed.
-/

namespace NrfEsl

/-- The services, in the order of `enum discovery_state`. -/
inductive Service
  | esl | ots | dis
  deriving DecidableEq, Repr

/-- Where the discovery worker stands. -/
inductive DiscWorker
  | idle
  /-- In `DISCOVERY_STATE_COUNT`, in `k_sem_take` of `esl_read_sem`. -/
  | waitPnpId
  /-- In `esl_c_past_unsynced_tag`. -/
  | past
  deriving DecidableEq, Repr

/-- What happens on a connection. -/
inductive DiscAction
  | start
  | discover (service : Service)
  /-- "#DISCOVERY: 1" -/
  | report
  /-- "Service ESL not found. Disconnect" -/
  | disconnect
  deriving DecidableEq, Repr

structure Discovery where
  /-- `disc_state`, counted from `DISCOVERY_STATE_START`. -/
  discState : ℕ
  /-- `esl_ap_disc_work.conn_idx` -/
  connIdx : UInt8
  /-- `esl_ap_disc_work.work` is in a queue. -/
  queued : Bool
  worker : DiscWorker
  /-- The procedures the stack is running. -/
  procedures : List (UInt8 × Service)
  log : List (UInt8 × DiscAction)
  asserted : Bool
  deriving DecidableEq, Repr

inductive DiscEvent
  /-- `esl_discovery_start` -/
  | start (connIdx : UInt8)
  /-- The worker is taken from its queue; `accepted` is the answer of `bt_gatt_dm_start`. -/
  | work (accepted : Bool)
  /-- `k_sem_take` returns. -/
  | pnpIdRead
  /-- `esl_c_past_unsynced_tag` returns. -/
  | pastDone (succeeded : Bool)
  /-- `esl_discovery_complete`, `ots_discovery_complete` or `dis_discovery_complete` -/
  | found (connIdx : UInt8) (service : Service)
  /-- `discovery_service_not_found` -/
  | notFound (connIdx : UInt8) (service : Service)
  deriving DecidableEq, Repr

namespace Discovery

/-- After `discovery_work_init`. -/
def init : Discovery where
  discState := 0
  connIdx := 0
  queued := false
  worker := .idle
  procedures := []
  log := []
  asserted := false

/-- `k_work_reschedule_for_queue` of `esl_ap_disc_work`, for a connection. -/
def reschedule (connIdx : UInt8) (s : Discovery) : Discovery :=
  { s with connIdx := connIdx, queued := true }

/-- `esl_discovery_start` -/
def eslDiscoveryStart (cfg : ConnConfig) (connIdx : UInt8) (s : Discovery) : Discovery :=
  if cfg.maxConn ≤ connIdx.toNat then s
  else { s with
    discState := 0
    connIdx := connIdx
    queued := true
    log := s.log ++ [(connIdx, .start)] }

/-- `bt_gatt_dm_start` on the connection of the work item.  The stack refuses only while it runs another
procedure. -/
def gattDiscover (service : Service) (accepted : Bool) (s : Discovery) : Option Discovery :=
  if accepted then
    some { s with
      procedures := s.procedures ++ [(s.connIdx, service)]
      log := s.log ++ [(s.connIdx, .discover service)] }
  else if s.procedures = [] then none
  else some s

/-- `esl_ap_disc_work_fn`, up to where it blocks. -/
def eslApDiscWorkFn (accepted : Bool) (s : Discovery) : Option Discovery :=
  let s := { s with queued := false, discState := s.discState + 1 }
  match s.discState with
  | 1 => s.gattDiscover .esl accepted
  | 2 => s.gattDiscover .ots accepted
  | 3 => s.gattDiscover .dis accepted
  | 4 => some { s with worker := .waitPnpId }
  | _ => some { s with asserted := true }

/-- The worker reports, and goes on to transfer sync if the build does that automatically. -/
def afterPnpId (autoPast : Bool) (s : Discovery) : Discovery :=
  let s := { s with log := s.log ++ [(s.connIdx, DiscAction.report)] }
  if autoPast then { s with worker := .past } else { s with discState := 0, worker := .idle }

/-- After the sync transfer; a transfer that succeeds returns at once. -/
def afterPast (succeeded : Bool) (s : Discovery) : Discovery :=
  if succeeded then { s with worker := .idle } else { s with discState := 0, worker := .idle }

/-- `discovery_service_not_found` -/
def discoveryServiceNotFound (connIdx : UInt8) (s : Discovery) : Discovery :=
  if s.discState = 1 then { s with log := s.log ++ [(connIdx, DiscAction.disconnect)] }
  else s.reschedule connIdx

/-- One event. -/
def step (cfg : ConnConfig) (autoPast : Bool) (s : Discovery) : DiscEvent → Option Discovery
  | .start connIdx => some (s.eslDiscoveryStart cfg connIdx)
  | .work accepted =>
      if s.queued = true ∧ s.worker = .idle then s.eslApDiscWorkFn accepted else none
  | .pnpIdRead => if s.worker = .waitPnpId then some (s.afterPnpId autoPast) else none
  | .pastDone succeeded => if s.worker = .past then some (s.afterPast succeeded) else none
  | .found connIdx service =>
      if (connIdx, service) ∈ s.procedures then
        some ({ s with procedures := s.procedures.erase (connIdx, service) }.reschedule connIdx)
      else none
  | .notFound connIdx service =>
      if (connIdx, service) ∈ s.procedures then
        some ({ s with procedures :=
          s.procedures.erase (connIdx, service) }.discoveryServiceNotFound connIdx)
      else none

end Discovery

end NrfEsl
