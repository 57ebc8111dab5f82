import NrfEsl.Ap.Unassociate
import NrfEsl.Lib.TransitionSystem

/-!
# Bond removal on the access point

`BondsSound`: every bond removed belonged to a tag whose Basic State answer to OP_UNASSOCIATE was being
handled, and every tag that has given this answer has lost its bond.

**When it holds.**  The handler looks at the last command filled in for *any* connection and at the
last connection for which *anyone* asked to be unassociated.  The bonds are sound along a run exactly
when, at each Basic State notification, these two are those of the tag that answers: `OwnAnswer`,
`bondsSound_iff`.  `bt_esl_c_factory_reset` removes the bond without an answer, so it must not be called.

**One command at a time** is enough: if a command is begun only when no other is in progress or
unanswered on any connection, the two are always those of the tag that answers:
`bondsSound_of_oneAtATime`.
-/

namespace NrfEsl

open TransitionSystem

/-- The bond was removed while its tag's Basic State answer to OP_UNASSOCIATE was handled. -/
def Removal.Own (r : Removal) : Prop :=
  r.cause = .basicState r.conn (some EslOpCode.unassociate.toByte)

instance : DecidablePred Removal.Own := fun r =>
  inferInstanceAs (Decidable (r.cause = .basicState r.conn (some EslOpCode.unassociate.toByte)))

namespace EcpClient

/-- A tag's bond is removed if and only if the tag has answered OP_UNASSOCIATE with Basic State, and
then by its answer. -/
def BondsSound (s : EcpClient) : Prop :=
  (∀ r ∈ s.removals, r.Own) ∧ ∀ t ∈ s.answered, ∃ r ∈ s.removals, r.conn = t

instance (s : EcpClient) : Decidable s.BondsSound :=
  inferInstanceAs (Decidable ((∀ r ∈ s.removals, r.Own)
    ∧ ∀ t ∈ s.answered, ∃ r ∈ s.removals, r.conn = t))

section Guards

variable (cfg : ConnConfig) (s : EcpClient)

/-- The bond a Basic State notification would remove: the last command filled in is OP_UNASSOCIATE, and
a tag is pending. -/
def bondAtStake : Option UInt8 :=
  if s.ecpBuf0 = EslOpCode.unassociate.toByte
      ∧ (lowByte s.pendingUnassociatedTag).toNat < cfg.maxConn then
    some (lowByte s.pendingUnassociatedTag)
  else none

/-- A Basic State notification puts no bond at stake but the bond of its sender, who answers
OP_UNASSOCIATE with it; and when this is what it answers the bond is at stake, or already removed.  No
factory reset is sent to a connection index. -/
def OwnAnswer : EcpEvent → Prop
  | .notify connIdx rsp answers => rsp = EslRespCode.basicState.toByte →
      (∀ t ∈ s.bondAtStake cfg, t = connIdx ∧ answers = some EslOpCode.unassociate.toByte)
        ∧ (answers = some EslOpCode.unassociate.toByte →
          s.bondAtStake cfg = some connIdx ∨ ∃ r ∈ s.removals, r.conn = connIdx)
  | .factoryReset connIdx => cfg.maxConn ≤ connIdx.toNat
  | .unassociate _ | .command _ _ | .write _ _ => True

end Guards

variable {cfg : ConnConfig} {s s' : EcpClient}

/-! ## What a step removes, and whose answer it notes -/

lemma removals_postUnassociate (connIdx : UInt8) (cause : RemovalCause) :
    (s.postUnassociate cfg connIdx cause).removals
      = s.removals ++ (if cfg.maxConn ≤ connIdx.toNat then [] else [⟨connIdx, cause⟩]) := by
  unfold postUnassociate
  split
  · exact (List.append_nil _).symm
  · rfl

lemma answered_postUnassociate (connIdx : UInt8) (cause : RemovalCause) :
    (s.postUnassociate cfg connIdx cause).answered = s.answered := by
  unfold postUnassociate
  split <;> rfl

/-- The removals of a notification. -/
def noted (cfg : ConnConfig) (s : EcpClient) (connIdx rsp : UInt8) (answers : Option UInt8) :
    List Removal :=
  if rsp = EslRespCode.basicState.toByte then
    (s.bondAtStake cfg).toList.map fun t => ⟨t, .basicState connIdx answers⟩
  else []

lemma removals_ecpRspHandler (connIdx rsp : UInt8) (answers : Option UInt8) :
    (s.ecpRspHandler cfg connIdx rsp answers).removals
      = s.removals ++ s.noted cfg connIdx rsp answers := by
  unfold ecpRspHandler noted bondAtStake
  by_cases hrsp : rsp = EslRespCode.basicState.toByte
  · rw [if_pos hrsp, if_pos hrsp]
    by_cases hop : s.ecpBuf0 = EslOpCode.unassociate.toByte
    · rw [if_pos hop, removals_postUnassociate]
      by_cases hlt : (lowByte s.pendingUnassociatedTag).toNat < cfg.maxConn
      · rw [if_neg (by omega), if_pos ⟨hop, hlt⟩]
        rfl
      · rw [if_pos (by omega), if_neg fun h => hlt h.2]
        rfl
    · rw [if_neg hop, if_neg fun h => hop h.1]
      exact (List.append_nil _).symm
  · rw [if_neg hrsp, if_neg hrsp]
    exact (List.append_nil _).symm

lemma answered_ecpRspHandler (connIdx rsp : UInt8) (answers : Option UInt8) :
    (s.ecpRspHandler cfg connIdx rsp answers).answered = s.answered := by
  unfold ecpRspHandler
  split
  · split
    · exact answered_postUnassociate _ _
    · rfl
  · rfl

lemma removals_fillEcpBuf (connIdx : UInt8) (opCode : EslOpCode) :
    (s.fillEcpBuf cfg connIdx opCode).removals = s.removals := by
  unfold fillEcpBuf
  split <;> rfl

lemma answered_fillEcpBuf (connIdx : UInt8) (opCode : EslOpCode) :
    (s.fillEcpBuf cfg connIdx opCode).answered = s.answered := by
  unfold fillEcpBuf
  split <;> rfl

/-- Soundness after removals and answers are added. -/
lemma bondsSound_add_iff (h : s.BondsSound) {rs : List Removal} {ts : List UInt8}
    (hrs : s'.removals = s.removals ++ rs) (hts : s'.answered = ts ++ s.answered) :
    s'.BondsSound ↔ (∀ r ∈ rs, r.Own)
      ∧ ∀ t ∈ ts, (∃ r ∈ rs, r.conn = t) ∨ ∃ r ∈ s.removals, r.conn = t := by
  obtain ⟨hown, hanswered⟩ := h
  rw [BondsSound, hrs, hts]
  constructor
  · rintro ⟨hown', hanswered'⟩
    refine ⟨fun r hr => hown' r (List.mem_append_right _ hr), fun t ht => ?_⟩
    obtain ⟨r, hr, hrt⟩ := hanswered' t (List.mem_append_left _ ht)
    rcases List.mem_append.mp hr with hr | hr
    · exact Or.inr ⟨r, hr, hrt⟩
    · exact Or.inl ⟨r, hr, hrt⟩
  · rintro ⟨hown', hanswered'⟩
    constructor
    · intro r hr
      rcases List.mem_append.mp hr with hr | hr
      · exact hown r hr
      · exact hown' r hr
    · intro t ht
      rcases List.mem_append.mp ht with ht | ht
      · rcases hanswered' t ht with ⟨r, hr, hrt⟩ | ⟨r, hr, hrt⟩
        · exact ⟨r, List.mem_append_right _ hr, hrt⟩
        · exact ⟨r, List.mem_append_left _ hr, hrt⟩
      · obtain ⟨r, hr, hrt⟩ := hanswered t ht
        exact ⟨r, List.mem_append_left _ hr, hrt⟩

/-- A step that removes and notes nothing. -/
lemma bondsSound_congr (hrs : s'.removals = s.removals) (hts : s'.answered = s.answered) :
    s'.BondsSound ↔ s.BondsSound := by
  rw [BondsSound, BondsSound, hrs, hts]

/-- The answers a notification adds. -/
def newlyAnswered (connIdx rsp : UInt8) (answers : Option UInt8) : List UInt8 :=
  if rsp = EslRespCode.basicState.toByte ∧ answers = some EslOpCode.unassociate.toByte then [connIdx]
  else []

lemma own_iff {t connIdx : UInt8} {answers : Option UInt8} :
    Removal.Own ⟨t, .basicState connIdx answers⟩
      ↔ t = connIdx ∧ answers = some EslOpCode.unassociate.toByte := by
  rw [Removal.Own, RemovalCause.basicState.injEq]
  exact and_congr_left fun _ => eq_comm

/-- The removals and the answers of a notification are sound together exactly under `OwnAnswer`. -/
lemma bondsSound_notify_iff (h : s.BondsSound) {connIdx rsp : UInt8} {answers : Option UInt8}
    (hrs : s'.removals = s.removals ++ s.noted cfg connIdx rsp answers)
    (hts : s'.answered = newlyAnswered connIdx rsp answers ++ s.answered) :
    s'.BondsSound ↔ s.OwnAnswer cfg (.notify connIdx rsp answers) := by
  rw [bondsSound_add_iff h hrs hts, OwnAnswer]
  by_cases hrsp : rsp = EslRespCode.basicState.toByte
  · rw [forall_prop_of_true hrsp, noted, if_pos hrsp]
    refine and_congr ?_ ?_
    · rcases s.bondAtStake cfg with _ | t
      · simp
      · simp [own_iff]
    · by_cases hun : answers = some EslOpCode.unassociate.toByte
      · rw [newlyAnswered, if_pos ⟨hrsp, hun⟩, forall_prop_of_true hun]
        rcases s.bondAtStake cfg with _ | t
        · simp
        · simp
      · have hnone : newlyAnswered connIdx rsp answers = [] := if_neg fun h => hun h.2
        rw [hnone]
        exact iff_of_true (fun t ht => absurd ht List.not_mem_nil) fun h => absurd h hun
  · have hnone : newlyAnswered connIdx rsp answers = [] := if_neg fun h => hrsp h.1
    rw [noted, if_neg hrsp, hnone]
    exact iff_of_true ⟨fun r hr => absurd hr List.not_mem_nil,
      fun t ht => absurd ht List.not_mem_nil⟩ fun h => absurd h hrsp

/-! ## Runs -/

/-- One event. -/
lemma bondsSound_step_iff (h : s.BondsSound) {e : EcpEvent} (hstep : s.step cfg e = some s') :
    s'.BondsSound ↔ s.OwnAnswer cfg e := by
  cases e with
  | unassociate connIdx =>
      cases hstep
      exact iff_of_true ((bondsSound_congr rfl rfl).mpr h) trivial
  | command connIdx opCode =>
      refine iff_of_true ?_ trivial
      rw [step] at hstep
      split_ifs at hstep
      · cases hstep
        exact (bondsSound_congr (removals_fillEcpBuf _ _) (answered_fillEcpBuf _ _)).mpr h
      · cases hstep
        exact (bondsSound_congr (removals_fillEcpBuf _ _) (answered_fillEcpBuf _ _)).mpr h
  | write connIdx queued =>
      refine iff_of_true ?_ trivial
      rw [step] at hstep
      split_ifs at hstep
      cases hstep
      exact (bondsSound_congr rfl rfl).mpr h
  | notify connIdx rsp answers =>
      rcases answers with _ | opCode
      · rw [step] at hstep
        split_ifs at hstep
        cases hstep
        have hnone : newlyAnswered connIdx rsp none = [] := if_neg fun h => nomatch h.2
        refine bondsSound_notify_iff h (removals_ecpRspHandler _ _ _) ?_
        rw [answered_ecpRspHandler, hnone, List.nil_append]
      · rw [step] at hstep
        split_ifs at hstep
        cases hstep
        refine bondsSound_notify_iff h (removals_ecpRspHandler _ _ _) ?_
        rw [answered_ecpRspHandler, noteAnswer, newlyAnswered]
        simp only [Option.some.injEq]
        split <;> rfl
  | factoryReset connIdx =>
      cases hstep
      have hnone : (s.postUnassociate cfg connIdx .factoryReset).answered = [] ++ s.answered :=
        answered_postUnassociate _ _
      rw [OwnAnswer, bondsSound_add_iff h (removals_postUnassociate _ _) hnone]
      by_cases hlt : cfg.maxConn ≤ connIdx.toNat
      · rw [if_pos hlt]
        simp [hlt]
      · rw [if_neg hlt]
        simp [hlt, Removal.Own]

lemma bondsSound_init (connected : UInt8 → Bool) : (init connected).BondsSound := by
  constructor
  · intro r hr
    cases hr
  · intro t ht
    cases ht

/-- Every event, from any sound state. -/
lemma alongRun_bondsSound_iff (h : s.BondsSound) (es : List EcpEvent) :
    AlongRun (step cfg) BondsSound s es ↔ StepsMeet (step cfg) (OwnAnswer cfg) s es := by
  refine alongRun_iff_stepsMeet (I := BondsSound) (fun _ hs => hs) ?_ ?_ h
  · exact fun s e s' hs hG hstep => (bondsSound_step_iff hs hstep).mpr hG
  · exact fun s e s' hs hstep hs' => (bondsSound_step_iff hs hstep).mp hs'

/-- **The bonds are sound throughout a run exactly when every Basic State notification is taken for what
it is and no factory reset is sent.** -/
theorem bondsSound_iff (cfg : ConnConfig) (connected : UInt8 → Bool) (es : List EcpEvent) :
    AlongRun (step cfg) BondsSound (init connected) es
      ↔ StepsMeet (step cfg) (OwnAnswer cfg) (init connected) es :=
  alongRun_bondsSound_iff (bondsSound_init connected) es

/-- Tag 1 answers a ping while the command for tag 0 waits for its answer: tag 0 loses its bond. -/
theorem bondsSound_fails : ¬ ∀ (cfg : ConnConfig) (connected : UInt8 → Bool) (es : List EcpEvent),
    AlongRun (step cfg) BondsSound (init connected) es := by
  intro h
  have hrun := h .two (fun _ => true) [.command 1 .ping, .write 1 true, .unassociate 0,
    .command 0 .unassociate, .write 0 true,
    .notify 1 EslRespCode.basicState.toByte (some EslOpCode.ping.toByte)]
  have hlast := hrun.last (by rfl)
  revert hlast
  decide

/-! ## One command at a time -/

/-- Nothing is filled in and unwritten, nothing is written and unanswered. -/
def Quiet (s : EcpClient) : Prop := s.filled = [] ∧ ∀ connIdx, s.outstanding connIdx = []

/-- A command is begun only when no other is in progress or unanswered on any connection, every
notification answers a command, and no factory reset is sent. -/
def OneAtATime (cfg : ConnConfig) (s : EcpClient) : EcpEvent → Prop
  | .unassociate _ => s.unassociating = [] ∧ s.Quiet
  | .command connIdx opCode =>
      s.Quiet ∧ (s.unassociating = [] ∨ s.unassociating = [connIdx] ∧ opCode = .unassociate)
  | .write _ _ => True
  | .notify _ _ answers => answers ≠ none
  | .factoryReset connIdx => cfg.maxConn ≤ connIdx.toNat

/-- How far the one command has come.  While it is on its way `ecp_buf` is its own, and
`pending_unassociated_tag` too if it is OP_UNASSOCIATE. -/
inductive Serial (cfg : ConnConfig) (s : EcpClient) : Prop
  | idle (hun : s.unassociating = []) (hquiet : s.Quiet)
  | asked (connIdx : UInt8) (hun : s.unassociating = [connIdx]) (hquiet : s.Quiet)
      (hpending : s.pendingUnassociatedTag = connIdx.toUInt16)
  | filled (connIdx : UInt8) (hlt : connIdx.toNat < cfg.maxConn) (hun : s.unassociating = [])
      (hfilled : s.filled = [connIdx]) (hout : ∀ connIdx, s.outstanding connIdx = [])
      (hpending : s.ecpBuf0 = EslOpCode.unassociate.toByte →
        s.pendingUnassociatedTag = connIdx.toUInt16)
  | waiting (connIdx : UInt8) (hlt : connIdx.toNat < cfg.maxConn) (hun : s.unassociating = [])
      (hfilled : s.filled = []) (hout : s.outstanding connIdx = [s.ecpBuf0])
      (hother : ∀ other, other ≠ connIdx → s.outstanding other = [])
      (hpending : s.ecpBuf0 = EslOpCode.unassociate.toByte →
        s.pendingUnassociatedTag = connIdx.toUInt16)

/-- What is in progress. -/
def calls (s : EcpClient) : List UInt8 × List UInt8 × (UInt8 → List UInt8) :=
  (s.unassociating, s.filled, s.outstanding)

lemma calls_ecpRspHandler (connIdx rsp : UInt8) (answers : Option UInt8) :
    (s.ecpRspHandler cfg connIdx rsp answers).calls = s.calls := by
  unfold ecpRspHandler postUnassociate
  split_ifs <;> rfl

lemma Serial.idle_of_calls (h : s.calls = ([], [], fun _ => [])) : Serial cfg s := by
  have hout : s.outstanding = fun _ => [] := congrArg (·.2.2) h
  exact .idle (congrArg (·.1) h) ⟨congrArg (·.2.1) h, fun _ => by rw [hout]⟩

/-- Filling in a command when nothing else is going on. -/
lemma Serial.fillEcpBuf (hun : s.unassociating = []) (hquiet : s.Quiet) {connIdx : UInt8}
    {opCode : EslOpCode}
    (hpending : opCode = .unassociate → s.pendingUnassociatedTag = connIdx.toUInt16) :
    Serial cfg (s.fillEcpBuf cfg connIdx opCode) := by
  unfold EcpClient.fillEcpBuf
  split_ifs with hdead
  · exact .idle hun hquiet
  · rw [not_or] at hdead
    refine .filled connIdx (by omega) hun ?_ hquiet.2 ?_
    · rw [hquiet.1]
    · intro hop
      exact hpending (EslOpCode.toByte_injective hop)

/-- A command that waits for its answer is the one in `ecp_buf`, and nothing else is going on. -/
lemma Serial.waiting_of_mem (h : Serial cfg s) {connIdx opCode : UInt8}
    (hmem : opCode ∈ s.outstanding connIdx) :
    connIdx.toNat < cfg.maxConn ∧ opCode = s.ecpBuf0 ∧ s.unassociating = [] ∧ s.filled = []
      ∧ s.outstanding connIdx = [s.ecpBuf0] ∧ (∀ other, other ≠ connIdx → s.outstanding other = [])
      ∧ (s.ecpBuf0 = EslOpCode.unassociate.toByte →
          s.pendingUnassociatedTag = connIdx.toUInt16) := by
  have hout : s.outstanding connIdx ≠ [] := List.ne_nil_of_mem hmem
  rcases h with ⟨_, hquiet⟩ | ⟨_, _, hquiet, _⟩ | ⟨_, _, _, _, hout', _⟩
    | ⟨connIdx', hlt, hun, hfilled, hout', hother, hpending⟩
  · exact absurd (hquiet.2 connIdx) hout
  · exact absurd (hquiet.2 connIdx) hout
  · exact absurd (hout' connIdx) hout
  · obtain rfl : connIdx = connIdx' := by
      by_contra hne
      exact hout (hother connIdx hne)
    rw [hout'] at hmem
    exact ⟨hlt, List.mem_singleton.mp hmem, hun, hfilled, hout', hother, hpending⟩

lemma serial_command (h : Serial cfg s) {connIdx : UInt8} {opCode : EslOpCode}
    (hG : s.OneAtATime cfg (.command connIdx opCode))
    (hstep : s.step cfg (.command connIdx opCode) = some s') : Serial cfg s' := by
  obtain ⟨hquiet, hun⟩ := hG
  rw [step] at hstep
  split_ifs at hstep with hop hmem
  · cases hstep
    rcases h with ⟨hun', -⟩ | ⟨connIdx', hun', -, hpending⟩ | ⟨_, _, _, hfilled, _, _⟩
      | ⟨connIdx', _, _, _, hout, _, _⟩
    · rw [hun'] at hmem
      cases hmem
    · -- the call of `bt_c_esl_unassociate` goes on
      rw [hun'] at hmem
      obtain rfl := List.mem_singleton.mp hmem
      have hquiet' : Quiet { s with unassociating := s.unassociating.erase connIdx } := hquiet
      refine Serial.fillEcpBuf ?_ hquiet' fun _ => hpending
      simp [hun']
    · rw [hquiet.1] at hfilled
      cases hfilled
    · rw [hquiet.2] at hout
      cases hout
  · cases hstep
    rcases hun with hun | ⟨-, hop'⟩
    · exact .fillEcpBuf hun hquiet fun hop' => absurd hop' hop
    · exact absurd hop' hop

lemma serial_writeEcpBuf (h : Serial cfg s) {connIdx : UInt8} {queued : Bool}
    (hmem : connIdx ∈ s.filled) : Serial cfg (s.writeEcpBuf connIdx queued) := by
  rcases h with ⟨_, hquiet⟩ | ⟨_, _, hquiet, _⟩ | ⟨connIdx', hlt, hun, hfilled, hout, hpending⟩
    | ⟨_, _, _, hfilled, _, _, _⟩
  · rw [hquiet.1] at hmem
    cases hmem
  · rw [hquiet.1] at hmem
    cases hmem
  · rw [hfilled] at hmem
    obtain rfl := List.mem_singleton.mp hmem
    have herase : s.filled.erase connIdx = [] := by simp [hfilled]
    cases queued with
    | false => exact .idle hun ⟨herase, hout⟩
    | true =>
        refine .waiting connIdx hlt hun herase ?_ ?_ hpending
        · simp [writeEcpBuf, hout]
        · intro other hne
          simp [writeEcpBuf, hout, hne]
  · rw [hfilled] at hmem
    cases hmem

/-- The one answer that is due has come: nothing is going on any more. -/
lemma serial_answer (h : Serial cfg s) {connIdx rsp opCode : UInt8}
    (hmem : opCode ∈ s.outstanding connIdx) :
    Serial cfg ((s.noteAnswer connIdx rsp opCode).ecpRspHandler cfg connIdx rsp (some opCode)) := by
  obtain ⟨-, rfl, hun, hfilled, hout, hother, -⟩ := h.waiting_of_mem hmem
  have hempty : (s.noteAnswer connIdx rsp s.ecpBuf0).outstanding = fun _ => [] := by
    funext other
    by_cases hne : other = connIdx
    · subst hne
      simp [noteAnswer, hout]
    · simp [noteAnswer, hne, hother other hne]
  refine .idle_of_calls ((calls_ecpRspHandler _ _ _).trans ?_)
  rw [calls, hempty]
  simp only [noteAnswer, hun, hfilled]

/-- **Every event leaves at most one command on its way**, if they are begun one at a time. -/
lemma serial_step (h : Serial cfg s) {e : EcpEvent} (hG : s.OneAtATime cfg e)
    (hstep : s.step cfg e = some s') : Serial cfg s' := by
  cases e with
  | unassociate connIdx =>
      cases hstep
      exact .asked connIdx (by rw [hG.1]) hG.2 rfl
  | command connIdx opCode => exact serial_command h hG hstep
  | write connIdx queued =>
      rw [step] at hstep
      split_ifs at hstep with hmem
      cases hstep
      exact serial_writeEcpBuf h hmem
  | notify connIdx rsp answers =>
      rcases answers with _ | opCode
      · exact absurd rfl hG
      rw [step] at hstep
      split_ifs at hstep with hmem
      cases hstep
      exact serial_answer h hmem
  | factoryReset connIdx =>
      cases hstep
      have hrange : cfg.maxConn ≤ connIdx.toNat := hG
      rw [postUnassociate, if_pos hrange]
      exact h

lemma lowByte_toUInt16 (x : UInt8) : lowByte x.toUInt16 = x := UInt8.toUInt8_toUInt16 x

/-- The answer that is due is taken for what it is. -/
lemma Serial.ownAnswer (h : Serial cfg s) {e : EcpEvent} (hG : s.OneAtATime cfg e)
    (hstep : s.step cfg e = some s') : s.OwnAnswer cfg e := by
  cases e with
  | notify connIdx rsp answers =>
      rcases answers with _ | opCode
      · exact absurd rfl hG
      rw [step] at hstep
      split_ifs at hstep with hmem
      obtain ⟨hlt, rfl, -, -, -, -, hpending⟩ := h.waiting_of_mem hmem
      intro _
      by_cases hop : s.ecpBuf0 = EslOpCode.unassociate.toByte
      · have hstake : s.bondAtStake cfg = some connIdx := by
          have hlow : lowByte s.pendingUnassociatedTag = connIdx := by
            rw [hpending hop, lowByte_toUInt16]
          rw [bondAtStake, hlow, if_pos ⟨hop, hlt⟩]
        refine ⟨?_, fun _ => Or.inl hstake⟩
        intro t ht
        rw [hstake] at ht
        exact ⟨(Option.some.inj ht).symm, congrArg some hop⟩
      · have hstake : s.bondAtStake cfg = none := if_neg fun h => hop h.1
        refine ⟨?_, fun hun => absurd (Option.some.inj hun) hop⟩
        intro t ht
        rw [hstake] at ht
        cases ht
  | factoryReset connIdx => exact hG
  | _ => trivial

/-- **One command at a time is enough.** -/
theorem bondsSound_of_oneAtATime (cfg : ConnConfig) (connected : UInt8 → Bool) {es : List EcpEvent}
    (h : StepsMeet (step cfg) (OneAtATime cfg) (init connected) es) :
    AlongRun (step cfg) BondsSound (init connected) es := by
  refine (alongRun_bondsSound_iff (bondsSound_init connected) es).mpr ?_
  refine h.strengthen (I := Serial cfg) ?_ ?_ (.idle rfl ⟨rfl, fun _ => rfl⟩)
  · exact fun s e s' hs hG hstep => serial_step hs hG hstep
  · exact fun s e s' hs hG hstep => hs.ownAnswer hG hstep

end EcpClient

end NrfEsl
