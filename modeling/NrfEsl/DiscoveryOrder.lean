import NrfEsl.Ap.Discovery
import NrfEsl.Lib.Lifecycle
import NrfEsl.Lib.TransitionSystem

/-!
# Service discovery of several connections

A connection goes through ESL, OTS and DIS discovery and is reported; a connection without the ESL
service is disconnected after the first of them.  `Stage.next` is this lifecycle, and the discovery is
`Orderly` when every connection keeps to it, all are through when nothing is left to run, and the
assertion on `disc_state` has not failed.

**One connection at a time** is orderly: `orderly_of_startsIdle`.  The one that is on its way owns
`disc_state` and `esl_ap_disc_work.conn_idx` (`Serving`).  A discovery that is started while another one
is under way takes both away from it.
-/

namespace NrfEsl

open TransitionSystem Lifecycle

/-- How far a connection has come: the last service whose discovery was begun. -/
inductive Stage
  | idle | started | esl | ots | dis
  deriving DecidableEq, Repr

/-- The lifecycle of a connection. -/
def Stage.next : Stage → DiscAction → Option Stage
  | .idle, .start | .started, .start => some .started
  | .started, .discover .esl => some .esl
  | .esl, .disconnect => some .idle
  | .esl, .discover .ots => some .ots
  | .ots, .discover .dis => some .dis
  | .dis, .report => some .idle
  | _, _ => none

/-- The value of `disc_state` then. -/
def Stage.discState : Stage → ℕ
  | .idle | .started => 0
  | .esl => 1
  | .ots => 2
  | .dis => 3

lemma Stage.eq_started {x : Stage} (hx : x ≠ .idle) (hdisc : x.discState = 0) : x = .started := by
  cases x with
  | idle => exact absurd rfl hx
  | started => rfl
  | esl => cases hdisc
  | ots => cases hdisc
  | dis => cases hdisc

def Service.stage : Service → Stage
  | .esl => .esl
  | .ots => .ots
  | .dis => .dis

lemma Service.stage_ne_idle (service : Service) : service.stage ≠ .idle := by
  cases service <;> decide

namespace Discovery

/-- The stage of each connection. -/
def connStages (s : Discovery) : UInt8 → Option Stage := stages Stage.next .idle s.log

/-- No event but a start is left. -/
def Quiet (s : Discovery) : Prop := s.queued = false ∧ s.worker = .idle ∧ s.procedures = []

/-- Every connection keeps to its lifecycle, none is left on its way, and the assertion has not
failed. -/
def Orderly (s : Discovery) : Prop :=
  s.asserted = false ∧ (∀ connIdx, (s.connStages connIdx).isSome)
    ∧ (s.Quiet → ∀ connIdx, s.connStages connIdx = some .idle)

/-- A discovery is started only when the worker is not queued, no procedure is running, and the worker
is not about to report; or once more for the connection it has just been started for. -/
def StartsIdle (cfg : ConnConfig) (s : Discovery) : DiscEvent → Prop
  | .start connIdx => cfg.maxConn ≤ connIdx.toNat
      ∨ s.queued = false ∧ s.procedures = [] ∧ s.worker ≠ .waitPnpId
      ∨ s.queued = true ∧ s.discState = 0 ∧ s.connIdx = connIdx
  | _ => True

instance (cfg : ConnConfig) (s : Discovery) : DecidablePred (s.StartsIdle cfg)
  | .start connIdx => inferInstanceAs (Decidable (cfg.maxConn ≤ connIdx.toNat
      ∨ s.queued = false ∧ s.procedures = [] ∧ s.worker ≠ .waitPnpId
      ∨ s.queued = true ∧ s.discState = 0 ∧ s.connIdx = connIdx))
  | .work _ | .pnpIdRead | .pastDone _ | .found _ _ | .notFound _ _ => isTrue trivial

/-! ## The connection that is served -/

/-- Who is on its way, and what the shared variables hold then. -/
inductive Serving (s : Discovery) : Prop
  | nobody (hqueued : s.queued = false) (hprocs : s.procedures = [])
      (hworker : s.worker ≠ .waitPnpId) (hst : s.connStages = fun _ => some .idle)
  /-- The worker is queued for a connection.  It may still be busy with the sync transfer of the
  connection before. -/
  | posted (connIdx : UInt8) (x : Stage) (hx : x ≠ .idle) (hqueued : s.queued = true)
      (hprocs : s.procedures = []) (hconn : s.connIdx = connIdx) (hdisc : s.discState = x.discState)
      (hworker : s.worker = .idle ∨ s.worker = .past ∧ x = .started)
      (hst : s.connStages = only .idle connIdx x)
  | discovering (connIdx : UInt8) (service : Service) (hqueued : s.queued = false)
      (hprocs : s.procedures = [(connIdx, service)]) (hworker : s.worker = .idle)
      (hdisc : s.discState = service.stage.discState)
      (hst : s.connStages = only .idle connIdx service.stage)
  | reporting (connIdx : UInt8) (hqueued : s.queued = false) (hprocs : s.procedures = [])
      (hworker : s.worker = .waitPnpId) (hconn : s.connIdx = connIdx)
      (hst : s.connStages = only .idle connIdx .dis)

variable {cfg : ConnConfig} {autoPast : Bool} {s s' : Discovery} {connIdx : UInt8}

/-- A procedure that is running is the one of the connection on its way. -/
lemma Serving.discovering_of_mem {service : Service} (h : Serving s)
    (hmem : (connIdx, service) ∈ s.procedures) :
    s.queued = false ∧ s.procedures = [(connIdx, service)] ∧ s.worker = .idle
      ∧ s.discState = service.stage.discState
      ∧ s.connStages = only .idle connIdx service.stage := by
  rcases h with ⟨-, hp, -, -⟩ | ⟨_, _, _, _, hp, _, _, _, _⟩
    | ⟨connIdx', service', hqueued, hp, hworker, hdisc, hst⟩ | ⟨_, _, hp, _, _, _⟩
  · rw [hp] at hmem
    cases hmem
  · rw [hp] at hmem
    cases hmem
  · rw [hp] at hmem
    obtain ⟨rfl, rfl⟩ := Prod.mk.inj (List.mem_singleton.mp hmem)
    exact ⟨hqueued, hp, hworker, hdisc, hst⟩
  · rw [hp] at hmem
    cases hmem

/-- When the worker is queued, it is for the connection on its way. -/
lemma Serving.posted_of_queued (h : Serving s) (hqueued : s.queued = true) :
    ∃ x, x ≠ .idle ∧ s.procedures = [] ∧ s.discState = x.discState
      ∧ (s.worker = .idle ∨ s.worker = .past ∧ x = .started)
      ∧ s.connStages = only .idle s.connIdx x := by
  rcases h with ⟨hq, -, -, -⟩ | ⟨connIdx, x, hx, -, hprocs, rfl, hdisc, hworker, hst⟩
    | ⟨_, _, hq, _, _, _, _⟩ | ⟨_, hq, _, _, _, _⟩
  · rw [hqueued] at hq
    cases hq
  · exact ⟨x, hx, hprocs, hdisc, hworker, hst⟩
  · rw [hqueued] at hq
    cases hq
  · rw [hqueued] at hq
    cases hq

lemma serving_eslDiscoveryStart (h : Serving s) (hG : s.StartsIdle cfg (.start connIdx)) :
    Serving (s.eslDiscoveryStart cfg connIdx) := by
  rw [eslDiscoveryStart]
  split_ifs with hrange
  · exact h
  rcases hG.resolve_left hrange with ⟨hqueued, hprocs, hworker⟩ | ⟨hqueued, hdisc, hconn⟩
  · -- there is none on its way
    rcases h with ⟨-, -, -, hst⟩ | ⟨_, _, _, hq, _, _, _, _, _⟩ | ⟨_, _, _, hp, _, _, _⟩
      | ⟨_, _, _, hw, _, _⟩
    · refine .posted connIdx .started (by decide) rfl hprocs rfl rfl ?_ (stages_of_rest hst rfl)
      cases hw : s.worker with
      | idle => exact Or.inl rfl
      | waitPnpId => exact absurd hw hworker
      | past => exact Or.inr ⟨rfl, rfl⟩
    · rw [hqueued] at hq
      cases hq
    · rw [hprocs] at hp
      cases hp
    · exact absurd hw hworker
  · -- the one on its way has just been started
    obtain ⟨x, hx, hprocs, hdisc', hworker, hst⟩ := h.posted_of_queued hqueued
    obtain rfl := Stage.eq_started hx (hdisc'.symm.trans hdisc)
    subst hconn
    exact .posted s.connIdx .started hx rfl hprocs rfl rfl hworker (stages_only hst rfl)

/-- The worker begins the next service of the connection it is queued for. -/
lemma serving_gattDiscover {x : Stage} {service : Service} {accepted : Bool}
    (hstep : s.gattDiscover service accepted = some s')
    (hqueued : s.queued = false) (hprocs : s.procedures = []) (hconn : s.connIdx = connIdx)
    (hdisc : s.discState = service.stage.discState) (hworker : s.worker = .idle)
    (hst : s.connStages = only .idle connIdx x)
    (hnext : x.next (.discover service) = some service.stage) :
    s'.asserted = s.asserted ∧ Serving s' := by
  subst hconn
  rw [gattDiscover, if_pos hprocs] at hstep
  split_ifs at hstep
  cases hstep
  refine ⟨rfl, .discovering s.connIdx service hqueued ?_ hworker hdisc (stages_only hst hnext)⟩
  rw [hprocs]
  rfl

/-- The worker, when it is queued for a connection. -/
lemma serving_eslApDiscWorkFn {x : Stage} {accepted : Bool} (hx : x ≠ .idle)
    (hprocs : s.procedures = []) (hconn : s.connIdx = connIdx) (hdisc : s.discState = x.discState)
    (hworker : s.worker = .idle) (hst : s.connStages = only .idle connIdx x)
    (hstep : s.eslApDiscWorkFn accepted = some s') :
    s'.asserted = s.asserted ∧ Serving s' := by
  rw [eslApDiscWorkFn] at hstep
  cases x with
  | idle => exact absurd rfl hx
  | started =>
      simp only [hdisc, Stage.discState] at hstep
      have hbegin : Discovery.gattDiscover .esl accepted
          { s with queued := false, discState := 1 } = some s' := hstep
      have hserved := serving_gattDiscover hbegin rfl hprocs hconn rfl hworker hst rfl
      exact hserved
  | esl =>
      simp only [hdisc, Stage.discState] at hstep
      have hbegin : Discovery.gattDiscover .ots accepted
          { s with queued := false, discState := 2 } = some s' := hstep
      have hserved := serving_gattDiscover hbegin rfl hprocs hconn rfl hworker hst rfl
      exact hserved
  | ots =>
      simp only [hdisc, Stage.discState] at hstep
      have hbegin : Discovery.gattDiscover .dis accepted
          { s with queued := false, discState := 3 } = some s' := hstep
      have hserved := serving_gattDiscover hbegin rfl hprocs hconn rfl hworker hst rfl
      exact hserved
  | dis =>
      simp only [hdisc, Stage.discState] at hstep
      cases hstep
      exact ⟨rfl, .reporting connIdx rfl hprocs rfl hconn hst⟩

lemma serving_afterPnpId (h : Serving s) (hrun : s.worker = .waitPnpId) :
    (s.afterPnpId autoPast).asserted = s.asserted ∧ Serving (s.afterPnpId autoPast) := by
  rcases h with ⟨-, -, hw, -⟩ | ⟨_, _, _, _, _, _, _, hw, _⟩ | ⟨_, _, _, _, hw, _, _⟩
    | ⟨connIdx, hqueued, hprocs, -, hconn, hst⟩
  · exact absurd hrun hw
  · rw [hrun] at hw
    rcases hw with hw | ⟨hw, -⟩
    · cases hw
    · cases hw
  · rw [hrun] at hw
    cases hw
  · subst hconn
    rw [afterPnpId]
    split_ifs
    · exact ⟨rfl, .nobody hqueued hprocs nofun (stages_rest hst rfl)⟩
    · exact ⟨rfl, .nobody hqueued hprocs nofun (stages_rest hst rfl)⟩

lemma serving_afterPast {succeeded : Bool} (h : Serving s) (hrun : s.worker = .past) :
    (s.afterPast succeeded).asserted = s.asserted ∧ Serving (s.afterPast succeeded) := by
  rw [afterPast]
  rcases h with ⟨hqueued, hprocs, -, hst⟩
    | ⟨connIdx, x, hx, hqueued, hprocs, hconn, hdisc, hw, hst⟩ | ⟨_, _, _, _, hw, _, _⟩
    | ⟨_, _, _, hw, _, _⟩
  · split_ifs
    · exact ⟨rfl, .nobody hqueued hprocs nofun hst⟩
    · exact ⟨rfl, .nobody hqueued hprocs nofun hst⟩
  · rw [hrun] at hw
    obtain rfl := (hw.resolve_left nofun).2
    split_ifs
    · exact ⟨rfl, .posted connIdx .started hx hqueued hprocs hconn hdisc (Or.inl rfl) hst⟩
    · -- `disc_state` is set back under the connection that has just been started
      exact ⟨rfl, .posted connIdx .started hx hqueued hprocs hconn rfl (Or.inl rfl) hst⟩
  · rw [hrun] at hw
    cases hw
  · rw [hrun] at hw
    cases hw

lemma serving_notFound {service : Service} (h : Serving s)
    (hmem : (connIdx, service) ∈ s.procedures) :
    (discoveryServiceNotFound connIdx
        { s with procedures := s.procedures.erase (connIdx, service) }).asserted = s.asserted
      ∧ Serving (discoveryServiceNotFound connIdx
        { s with procedures := s.procedures.erase (connIdx, service) }) := by
  obtain ⟨hqueued, hp, hworker, hdisc, hst⟩ := h.discovering_of_mem hmem
  have herase : s.procedures.erase (connIdx, service) = [] := by simp [hp]
  rw [discoveryServiceNotFound]
  split_ifs with hesl
  · -- `disc_state` says ESL, and it is the ESL discovery that ended
    have hstage : service.stage.discState = 1 := hdisc.symm.trans hesl
    obtain rfl : service = .esl := by
      cases service with
      | esl => rfl
      | ots => cases hstage
      | dis => cases hstage
    refine ⟨rfl, .nobody hqueued herase (fun hw => ?_) (stages_rest hst rfl)⟩
    rw [hworker] at hw
    cases hw
  · exact ⟨rfl, .posted connIdx service.stage service.stage_ne_idle rfl herase rfl hdisc
      (Or.inl hworker) hst⟩

/-- **Every event keeps the shared variables with the connection on its way**, if discoveries are
started only when there is none. -/
lemma serving_step (h : Serving s) {e : DiscEvent} (hG : s.StartsIdle cfg e)
    (hstep : s.step cfg autoPast e = some s') : s'.asserted = s.asserted ∧ Serving s' := by
  cases e with
  | start connIdx =>
      cases hstep
      refine ⟨?_, serving_eslDiscoveryStart h hG⟩
      rw [eslDiscoveryStart]
      split_ifs
      · rfl
      · rfl
  | work accepted =>
      rw [step] at hstep
      split_ifs at hstep with hrun
      obtain ⟨hqueued, hworker⟩ := hrun
      obtain ⟨x, hx, hprocs, hdisc, -, hst⟩ := h.posted_of_queued hqueued
      exact serving_eslApDiscWorkFn hx hprocs rfl hdisc hworker hst hstep
  | pnpIdRead =>
      rw [step] at hstep
      split_ifs at hstep with hrun
      cases hstep
      exact serving_afterPnpId h hrun
  | pastDone succeeded =>
      rw [step] at hstep
      split_ifs at hstep with hrun
      cases hstep
      exact serving_afterPast h hrun
  | found connIdx service =>
      rw [step] at hstep
      split_ifs at hstep with hmem
      cases hstep
      obtain ⟨-, hp, hworker, hdisc, hst⟩ := h.discovering_of_mem hmem
      refine ⟨rfl, .posted connIdx service.stage service.stage_ne_idle rfl ?_ rfl hdisc
        (Or.inl hworker) hst⟩
      simp [reschedule, hp]
  | notFound connIdx service =>
      rw [step] at hstep
      split_ifs at hstep with hmem
      cases hstep
      exact serving_notFound h hmem

lemma Serving.orderly (h : Serving s) (hassert : s.asserted = false) : s.Orderly := by
  rcases h with ⟨-, -, -, hst⟩ | ⟨_, _, _, hq, _, _, _, _, hst⟩ | ⟨_, _, _, hp, _, _, hst⟩
    | ⟨_, _, _, hw, _, hst⟩
  · refine ⟨hassert, fun _ => ?_, fun _ _ => ?_⟩
    · rw [hst]
      rfl
    · rw [hst]
  · refine ⟨hassert, fun _ => ?_, fun hquiet => ?_⟩
    · rw [hst]
      exact isSome_only
    · exact absurd (hquiet.1.symm.trans hq) (by decide)
  · refine ⟨hassert, fun _ => ?_, fun hquiet => ?_⟩
    · rw [hst]
      exact isSome_only
    · rw [hquiet.2.2] at hp
      cases hp
  · refine ⟨hassert, fun _ => ?_, fun hquiet => ?_⟩
    · rw [hst]
      exact isSome_only
    · exact absurd (hquiet.2.1.symm.trans hw) (by decide)

/-- **Discoveries that are started one after the other are orderly**, whichever services are found. -/
theorem orderly_of_startsIdle (cfg : ConnConfig) (autoPast : Bool) {es : List DiscEvent}
    (h : StepsMeet (step cfg autoPast) (StartsIdle cfg) init es) :
    AlongRun (step cfg autoPast) Orderly init es := by
  refine (alongRun_of_stepsMeet (I := fun s => s.asserted = false ∧ Serving s) ?_ ?_ h).imp ?_
  · rintro s e s' ⟨hassert, hs⟩ hG hstep
    obtain ⟨hkeep, hs'⟩ := serving_step hs hG hstep
    exact ⟨hkeep.trans hassert, hs'⟩
  · exact ⟨rfl, .nobody rfl rfl nofun rfl⟩
  · exact fun s hs => hs.2.orderly hs.1

/-- Connection 0 has everything but OTS, and connection 1 is started when it is through. -/
theorem orderly_oneByOne : AlongRun (step .two false) Orderly init
    [.start 0, .work true, .found 0 .esl, .work true, .notFound 0 .ots, .work true, .found 0 .dis,
      .work true, .pnpIdRead, .start 1, .work true, .notFound 1 .esl] :=
  orderly_of_startsIdle .two false (by decide)

/-- Connection 1 is started before the worker has run for connection 0: nothing ever runs for
connection 0. -/
theorem orderly_fails : ¬ ∀ (cfg : ConnConfig) (autoPast : Bool) (es : List DiscEvent),
    AlongRun (step cfg autoPast) Orderly init es := by
  intro h
  have hrun := h .two false [.start 0, .start 1, .work true, .found 1 .esl, .work true,
    .found 1 .ots, .work true, .found 1 .dis, .work true, .pnpIdRead]
  have hlast := hrun.last (by rfl)
  have hstuck := hlast.2.2 ⟨rfl, rfl, rfl⟩ 0
  revert hstuck
  decide

end Discovery

end NrfEsl
