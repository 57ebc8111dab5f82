import NrfEsl.Ap.Configure
import NrfEsl.Lib.Lifecycle
import NrfEsl.Lib.TransitionSystem

/-!
# Configuration of several tags

A connection is asked to be configured, gets its address, the two keys and the time, is saved, sent
Update Complete and reported; after a write that failed nothing but writes may follow.
`ConfigStage.next` is this lifecycle, and the access point is `Faithful` when every connection keeps
to it, all live ones are through when nothing is left to run, and only connections that are gone are
refused.

**One tag at a time, and no failing write**, is faithful: `faithful_of_startsIdle`.  The connection that
is being configured owns `esl_ap_config_work` (`Configuring`), and `stageBefore` says how far it is.
-/

namespace NrfEsl

open TransitionSystem Lifecycle

/-- How far a connection is, with the address it was asked to get. -/
inductive ConfigStage
  | idle
  | asked (eslAddr : UInt16)
  | addrWritten (eslAddr : UInt16)
  | apKeyWritten (eslAddr : UInt16)
  | rspKeyWritten (eslAddr : UInt16)
  | written (eslAddr : UInt16)
  | saved (eslAddr : UInt16)
  | completed (eslAddr : UInt16)
  | failed
  deriving DecidableEq, Repr

namespace ConfigStage

/-- After a write. -/
def wrote (x : ConfigStage) (succeeded : Bool) : ConfigStage := if succeeded then x else .failed

/-- The lifecycle of a connection. -/
def next : ConfigStage → ConfigAction → Option ConfigStage
  | .idle, .configure a | .failed, .configure a => some (.asked a)
  | .asked a, .refused b => if b = a then some .idle else none
  | .asked a, .write (.eslAddr b) ok => if b = a then some (wrote (.addrWritten a) ok) else none
  | .addrWritten a, .write (.apKey _) ok => some (wrote (.apKeyWritten a) ok)
  | .apKeyWritten a, .write (.rspKey _) ok => some (wrote (.rspKeyWritten a) ok)
  | .rspKeyWritten a, .write (.absTime _) ok => some (wrote (.written a) ok)
  | .written a, .save tag => if tag.eslAddr = a then some (.saved a) else none
  | .saved a, .updateComplete _ => some (.completed a)
  | .completed a, .configured b => if b = a then some .idle else none
  | .failed, .write _ _ => some .failed
  | _, _ => none

lemma next_refused (a : UInt16) : next (.asked a) (.refused a) = some .idle := if_pos rfl

lemma next_eslAddr (a : UInt16) :
    next (.asked a) (.write (.eslAddr a) true) = some (.addrWritten a) := if_pos rfl

lemma next_configured (a : UInt16) : next (.completed a) (.configured a) = some .idle := if_pos rfl

end ConfigStage

/-- The stage of a connection that is to get the address `a`, before a step of the worker. -/
def ConfigStep.stageBefore (a : UInt16) : ConfigStep → ConfigStage
  | .check | .writeEslAddr => .asked a
  | .apKeyUpdate => .addrWritten a
  | .rspKeyUpdate => .apKeyWritten a
  | .tagAbsTimerUpdate => .rspKeyWritten a
  | .readChrc | .pastNeeded | .saveTag => .written a
  | .updateComplete => .saved a
  | .report => .completed a

/-- The steps that write a characteristic and wait. -/
def ConfigStep.writes : ConfigStep → Bool
  | .writeEslAddr | .apKeyUpdate | .rspKeyUpdate | .tagAbsTimerUpdate => true
  | _ => false

namespace Configuration

/-- The stage of each connection. -/
def connStages (s : Configuration) : UInt8 → Option ConfigStage :=
  stages ConfigStage.next .idle s.log

/-- The worker is neither queued nor running. -/
def Quiet (s : Configuration) : Prop := s.queued = false ∧ s.worker = none

/-- Every connection keeps to its lifecycle, no live one is left on its way, and only those that are
gone are refused. -/
def Faithful (s : Configuration) : Prop :=
  (∀ connIdx, (s.connStages connIdx).isSome)
    ∧ (s.Quiet → ∀ connIdx, s.live connIdx = true →
        s.connStages connIdx = some .idle ∨ s.connStages connIdx = some .failed)
    ∧ ∀ connIdx eslAddr, (connIdx, .refused eslAddr) ∈ s.log → s.live connIdx = false

/-- A tag is configured only when the worker is neither queued nor running, and no write fails. -/
def StartsIdle (cfg : ConnConfig) (s : Configuration) : ConfigEvent → Prop
  | .configure connIdx _ => cfg.maxConn ≤ connIdx.toNat ∨ s.Quiet
  | .work input => ∀ now ∈ s.worker, now.writes = true → input.succeeded = true
  | .begin | .disconnected _ => True

instance (s : Configuration) : Decidable s.Quiet :=
  inferInstanceAs (Decidable (s.queued = false ∧ s.worker = none))

instance (cfg : ConnConfig) (s : Configuration) : DecidablePred (s.StartsIdle cfg)
  | .configure connIdx _ => inferInstanceAs (Decidable (cfg.maxConn ≤ connIdx.toNat ∨ s.Quiet))
  | .work input =>
      inferInstanceAs (Decidable (∀ now ∈ s.worker, now.writes = true → input.succeeded = true))
  | .begin | .disconnected _ => isTrue trivial

variable {cfg : ConnConfig} {apKey : KeyMaterial} {s s' : Configuration} {connIdx : UInt8} {a : UInt16}

/-! ## Who is refused -/

/-- Only connections that are gone are refused. -/
def RefusesGone (s : Configuration) : Prop :=
  ∀ connIdx eslAddr, (connIdx, .refused eslAddr) ∈ s.log → s.live connIdx = false

lemma RefusesGone.act (h : s.RefusesGone) {action : ConfigAction}
    (hact : ∀ eslAddr, action = .refused eslAddr → s.live connIdx = false) :
    (s.act connIdx action).RefusesGone := by
  intro c b hmem
  rcases List.mem_append.mp hmem with hmem | hmem
  · exact h c b hmem
  · obtain ⟨rfl, hb⟩ := Prod.mk.inj (List.mem_singleton.mp hmem)
    exact hact b hb.symm

lemma refusesGone_gattWrite {chrc : ConfigWrite} {succeeded : Bool}
    (hstep : s.gattWrite chrc succeeded = some s') (h : s.RefusesGone) : s'.RefusesGone := by
  rw [gattWrite] at hstep
  split_ifs at hstep
  cases hstep
  exact h.act nofun

lemma refusesGone_step (h : s.RefusesGone) {e : ConfigEvent}
    (hstep : s.step cfg apKey e = some s') : s'.RefusesGone := by
  cases e with
  | configure connIdx eslAddr =>
      cases hstep
      rw [btEslConfigure]
      split_ifs
      · exact h
      · exact RefusesGone.act (s := { s with connIdx, eslAddr, queued := true }) h nofun
  | begin =>
      rw [step] at hstep
      split_ifs at hstep
      cases hstep
      exact h
  | work input =>
      obtain ⟨now, -, hstep⟩ := Option.bind_eq_some_iff.mp hstep
      have hs : RefusesGone { s with worker := now.next } := h
      cases now with
      | check =>
          simp only [eslApConfigWorkFn] at hstep
          split_ifs at hstep with hlive
          · cases hstep
            exact h
          · cases hstep
            exact RefusesGone.act (s := { s with worker := none }) h
              fun _ _ => Bool.eq_false_iff.mpr hlive
      | writeEslAddr | apKeyUpdate | rspKeyUpdate | tagAbsTimerUpdate => exact refusesGone_gattWrite hstep h
      | readChrc | pastNeeded =>
          cases hstep
          exact h
      | saveTag | updateComplete | report =>
          cases hstep
          exact hs.act nofun
  | disconnected connIdx =>
      cases hstep
      intro c b hmem
      by_cases hc : c = connIdx
      · simp [hc, disconnected]
      · exact (Function.update_of_ne hc _ _).trans (h c b hmem)

/-! ## The connection that is being configured -/

/-- Who is being configured, and what the work item holds then. -/
inductive Configuring (s : Configuration) : Prop
  | nobody (hqueued : s.queued = false) (hworker : s.worker = none)
      (hst : s.connStages = fun _ => some .idle)
  | posted (connIdx : UInt8) (a : UInt16) (hqueued : s.queued = true) (hworker : s.worker = none)
      (hconn : s.connIdx = connIdx) (haddr : s.eslAddr = a)
      (hst : s.connStages = only .idle connIdx (.asked a))
  | working (connIdx : UInt8) (a : UInt16) (now : ConfigStep) (hqueued : s.queued = false)
      (hworker : s.worker = some now) (hconn : s.connIdx = connIdx) (haddr : s.eslAddr = a)
      (hdevice : now.stageBefore a ≠ .asked a → (s.eslDevice connIdx).eslAddr = a)
      (hst : s.connStages = only .idle connIdx (now.stageBefore a))

/-- A write that succeeds. -/
lemma gattWrite_true {chrc : ConfigWrite} (hstep : s.gattWrite chrc true = some s') :
    s' = s.act s.connIdx (.write chrc true) := by
  rw [gattWrite] at hstep
  split_ifs at hstep
  exact (Option.some.inj hstep).symm

/-- A step of the worker on the connection it was queued for. -/
lemma configuring_eslApConfigWorkFn {input : WorkInput} {now : ConfigStep}
    (hqueued : s.queued = false)
    (hdevice : now.stageBefore s.eslAddr ≠ .asked s.eslAddr →
      (s.eslDevice s.connIdx).eslAddr = s.eslAddr)
    (hst : s.connStages = only .idle s.connIdx (now.stageBefore s.eslAddr))
    (hok : now.writes = true → input.succeeded = true)
    (hstep : s.eslApConfigWorkFn apKey input now = some s') : Configuring s' := by
  cases now with
  | check =>
      simp only [eslApConfigWorkFn] at hstep
      split_ifs at hstep
      · cases hstep
        exact .working _ _ .writeEslAddr hqueued rfl rfl rfl (fun h => absurd rfl h) hst
      · cases hstep
        refine .nobody hqueued rfl ?_
        exact stages_rest hst (ConfigStage.next_refused _)
  | writeEslAddr =>
      simp only [eslApConfigWorkFn, btEslCWriteEslAddr, hok rfl] at hstep
      cases gattWrite_true hstep
      refine .working _ _ .apKeyUpdate hqueued rfl rfl rfl (fun _ => ?_) ?_
      · simp [act, setDevice]
      · exact stages_only hst (ConfigStage.next_eslAddr _)
  | apKeyUpdate =>
      simp only [eslApConfigWorkFn, eslCApKeyUpdate, hok rfl] at hstep
      cases gattWrite_true hstep
      refine .working _ _ .rspKeyUpdate hqueued rfl rfl rfl (fun _ => hdevice nofun) ?_
      exact stages_only hst rfl
  | rspKeyUpdate =>
      simp only [eslApConfigWorkFn, eslCRspKeyUpdate, hok rfl] at hstep
      cases gattWrite_true hstep
      refine .working _ _ .tagAbsTimerUpdate hqueued rfl rfl rfl (fun _ => ?_) ?_
      · simpa [act, setDevice] using hdevice nofun
      · exact stages_only hst rfl
  | tagAbsTimerUpdate =>
      simp only [eslApConfigWorkFn, eslCTagAbsTimerUpdate, hok rfl] at hstep
      cases gattWrite_true hstep
      refine .working _ _ .readChrc hqueued rfl rfl rfl (fun _ => hdevice nofun) ?_
      exact stages_only hst rfl
  | readChrc =>
      cases hstep
      exact .working _ _ .pastNeeded hqueued rfl rfl rfl (fun _ => hdevice nofun) hst
  | pastNeeded =>
      cases hstep
      refine .working _ _ .saveTag hqueued rfl rfl rfl (fun _ => ?_) hst
      simpa [setDevice] using hdevice nofun
  | saveTag =>
      cases hstep
      refine .working _ _ .updateComplete hqueued rfl rfl rfl (fun _ => hdevice nofun) ?_
      exact stages_only hst (if_pos (hdevice nofun))
  | updateComplete =>
      cases hstep
      refine .working _ _ .report hqueued rfl rfl rfl (fun _ => hdevice nofun) ?_
      exact stages_only hst rfl
  | report =>
      cases hstep
      refine .nobody hqueued rfl ?_
      exact stages_rest hst (ConfigStage.next_configured _)

/-- A record keeps its address when its connection is lost. -/
lemma eslAddr_disconnected (i : UInt8) :
    ((s.disconnected connIdx).eslDevice i).eslAddr = (s.eslDevice i).eslAddr := by
  by_cases hi : i = connIdx
  · subst hi
    have hself : (s.disconnected i).eslDevice i = (s.eslDevice i).disconnected :=
      Function.update_self ..
    rw [hself]
    rfl
  · exact congrArg EslChrcData.eslAddr (Function.update_of_ne hi _ _)

/-- **Every event keeps the work item with the connection that is being configured**, if tags are
configured one after the other and no write fails. -/
lemma configuring_step (h : Configuring s) {e : ConfigEvent} (hG : s.StartsIdle cfg e)
    (hstep : s.step cfg apKey e = some s') : Configuring s' := by
  cases e with
  | configure connIdx eslAddr =>
      cases hstep
      rw [btEslConfigure]
      split_ifs with hrange
      · exact h
      obtain ⟨hqueued, hworker⟩ := hG.resolve_left hrange
      rcases h with ⟨-, -, hst⟩ | ⟨_, _, hq, _, _, _, _⟩ | ⟨_, _, _, _, hw, _, _, _, _⟩
      · exact .posted connIdx eslAddr rfl hworker rfl rfl (stages_of_rest hst rfl)
      · exact absurd (hqueued.symm.trans hq) (by decide)
      · rw [hworker] at hw
        cases hw
  | begin =>
      rw [step] at hstep
      split_ifs at hstep with hrun
      cases hstep
      rcases h with ⟨hq, -, -⟩ | ⟨connIdx, a, -, -, hconn, haddr, hst⟩ | ⟨_, _, _, hq, _, _, _, _, _⟩
      · exact absurd (hq.symm.trans hrun.1) (by decide)
      · exact .working connIdx a .check rfl rfl hconn haddr (fun h => absurd rfl h) hst
      · exact absurd (hq.symm.trans hrun.1) (by decide)
  | work input =>
      obtain ⟨now, hnow, hstep⟩ := Option.bind_eq_some_iff.mp hstep
      rcases h with ⟨-, hw, -⟩ | ⟨_, _, _, hw, _, _, _⟩
        | ⟨connIdx, a, now', hqueued, hw, hconn, haddr, hdevice, hst⟩
      · rw [hw] at hnow
        cases hnow
      · rw [hw] at hnow
        cases hnow
      · obtain rfl : now' = now := Option.some.inj (hw.symm.trans hnow)
        subst hconn haddr
        exact configuring_eslApConfigWorkFn hqueued hdevice hst (hG now' hnow) hstep
  | disconnected connIdx =>
      cases hstep
      rcases h with ⟨hqueued, hw, hst⟩ | ⟨connIdx, a, hqueued, hw, hconn, haddr, hst⟩
        | ⟨connIdx, a, now, hqueued, hw, hconn, haddr, hdevice, hst⟩
      · exact .nobody hqueued hw hst
      · exact .posted connIdx a hqueued hw hconn haddr hst
      · refine .working connIdx a now hqueued hw hconn haddr (fun hne => ?_) hst
        rw [eslAddr_disconnected]
        exact hdevice hne

lemma Configuring.faithful (h : Configuring s) (hgone : s.RefusesGone) : s.Faithful := by
  rcases h with ⟨-, -, hst⟩ | ⟨_, _, hq, _, _, _, hst⟩ | ⟨_, _, _, _, hw, _, _, _, hst⟩
  · refine ⟨fun _ => ?_, fun _ _ _ => Or.inl ?_, hgone⟩
    · rw [hst]
      rfl
    · rw [hst]
  · refine ⟨fun _ => ?_, fun hquiet => ?_, hgone⟩
    · rw [hst]
      exact isSome_only
    · exact absurd (hquiet.1.symm.trans hq) (by decide)
  · refine ⟨fun _ => ?_, fun hquiet => ?_, hgone⟩
    · rw [hst]
      exact isSome_only
    · rw [hquiet.2] at hw
      cases hw

/-- **Tags that are configured one after the other, with no failing write, are configured faithfully**,
whichever connections are lost meanwhile. -/
theorem faithful_of_startsIdle (cfg : ConnConfig) (apKey : KeyMaterial) (live : UInt8 → Bool)
    (eslDevice : UInt8 → EslChrcData) {es : List ConfigEvent}
    (h : StepsMeet (step cfg apKey) (StartsIdle cfg) (init live eslDevice) es) :
    AlongRun (step cfg apKey) Faithful (init live eslDevice) es := by
  refine (alongRun_of_stepsMeet (I := fun s => Configuring s ∧ s.RefusesGone) ?_ ?_ h).imp ?_
  · rintro s e s' ⟨hs, hgone⟩ hG hstep
    exact ⟨configuring_step hs hG hstep, refusesGone_step hgone hstep⟩
  · exact ⟨.nobody rfl rfl rfl, nofun⟩
  · exact fun s hs => hs.1.faithful hs.2

/-- Connection 0 is configured; connection 1 is asked to, and lost. -/
theorem faithful_oneByOne :
    AlongRun (step .two .zero) Faithful (init (fun _ => true) fun _ => .zero)
      (.configure 0 7 :: .begin :: List.replicate 10 (.work ⟨true, .zero, 5⟩)
        ++ [.configure 1 9, .disconnected 1, .begin, .work ⟨false, .zero, 0⟩]) :=
  faithful_of_startsIdle .two .zero _ _ (by decide)

/-- Connection 1 is asked for before the worker runs for connection 0: connection 0 never gets its
address. -/
theorem faithful_fails : ¬ ∀ (cfg : ConnConfig) (apKey : KeyMaterial) (live : UInt8 → Bool)
    (eslDevice : UInt8 → EslChrcData) (es : List ConfigEvent),
    AlongRun (step cfg apKey) Faithful (init live eslDevice) es := by
  intro h
  have hrun := h .two .zero (fun _ => true) (fun _ => .zero)
    (.configure 0 7 :: .configure 1 9 :: .begin :: List.replicate 10 (.work ⟨true, .zero, 5⟩))
  have hlast := hrun.last (by rfl)
  have hleft := hlast.2.1 ⟨rfl, rfl⟩ 0 rfl
  revert hleft
  decide

end Configuration

end NrfEsl
