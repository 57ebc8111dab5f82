import NrfEsl.Ap.WriteFlag
import NrfEsl.Lib.TransitionSystem

/-!
# Waits that end with the caller's own write

The flag is `Truthful` when every call that is kept waiting has its own write outstanding, and every
call that has left its wait was released by its own write or the loss of its own connection.

**One call at a time** is truthful: `truthful_of_oneAtATime`, when each call starts with no other call
under way and no write outstanding, each `bt_gatt_write` is taken unless the connection has been lost
meanwhile, and no other connection is lost while a call waits.  Such a wait can always end:
`wait_ends`.
-/

namespace NrfEsl

open TransitionSystem

namespace WriteFlag

/-- A call that is kept waiting has its write outstanding, and a call leaves when its own write is
completed or its own connection lost. -/
def Truthful (s : WriteFlag) : Prop :=
  (∀ call ∈ s.waiting, s.writeChrc = false → call ∈ s.outstanding) ∧ ∀ call ∈ s.left, call ∈ s.ended

/-- No call is under way, and no write is outstanding. -/
def Quiet (s : WriteFlag) : Prop := s.cleared = [] ∧ s.waiting = [] ∧ s.outstanding = []

/-- A call starts when there is no other and no write is outstanding, its request is taken unless the
flag has been released meanwhile, and no other connection is lost before its write has ended. -/
def OneAtATime (cfg : ConnConfig) (s : WriteFlag) : WriteEvent → Prop
  | .call function connIdx => s.returns cfg function connIdx ∨ s.Quiet
  | .gattWrite _ queued => queued = true ∨ s.writeChrc = true
  | .disconnected connIdx =>
      ∀ call ∈ s.cleared ++ s.waiting, call.connIdx = connIdx ∨ call ∈ s.ended
  | .writeAttr _ | .leave _ | .connected _ => True

instance (s : WriteFlag) : Decidable s.Quiet :=
  inferInstanceAs (Decidable (s.cleared = [] ∧ s.waiting = [] ∧ s.outstanding = []))

instance (cfg : ConnConfig) (s : WriteFlag) : DecidablePred (s.OneAtATime cfg)
  | .call function connIdx =>
      inferInstanceAs (Decidable (s.returns cfg function connIdx ∨ s.Quiet))
  | .gattWrite _ queued => inferInstanceAs (Decidable (queued = true ∨ s.writeChrc = true))
  | .disconnected connIdx => List.decidableBAll
      (fun call => call.connIdx = connIdx ∨ call ∈ s.ended) (s.cleared ++ s.waiting)
  | .writeAttr _ | .leave _ | .connected _ => isTrue trivial

/-! ## The call that is under way -/

/-- Which call is under way, and what the flag says about it. -/
inductive Serial (s : WriteFlag) : Prop
  | idle (hcleared : s.cleared = []) (hwaiting : s.waiting = [])
  | cleared (call : WriteCall) (hcleared : s.cleared = [call]) (hwaiting : s.waiting = [])
      (hout : s.outstanding = []) (hset : s.writeChrc = true → call ∈ s.ended)
  | waiting (call : WriteCall) (hcleared : s.cleared = []) (hwaiting : s.waiting = [call])
      (hout : ∀ other ∈ s.outstanding, other = call)
      (hset : s.writeChrc = true → call ∈ s.ended)
      (hunset : s.writeChrc = false → call ∈ s.outstanding)

variable {cfg : ConnConfig} {s s' : WriteFlag} {call : WriteCall}

/-- A call before its `bt_gatt_write` is the only one. -/
lemma Serial.of_mem_cleared (h : Serial s) (hmem : call ∈ s.cleared) :
    s.cleared = [call] ∧ s.waiting = [] ∧ s.outstanding = []
      ∧ (s.writeChrc = true → call ∈ s.ended) := by
  rcases h with ⟨hcleared, -⟩ | ⟨call', hcleared, hwaiting, hout, hset⟩ | ⟨_, hcleared, _, _, _, _⟩
  · rw [hcleared] at hmem
    cases hmem
  · rw [hcleared] at hmem
    obtain rfl := List.mem_singleton.mp hmem
    exact ⟨hcleared, hwaiting, hout, hset⟩
  · rw [hcleared] at hmem
    cases hmem

/-- A call that waits is the only one. -/
lemma Serial.of_mem_waiting (h : Serial s) (hmem : call ∈ s.waiting) :
    s.cleared = [] ∧ s.waiting = [call] ∧ (s.writeChrc = true → call ∈ s.ended)
      ∧ (s.writeChrc = false → call ∈ s.outstanding) := by
  rcases h with ⟨_, hwaiting⟩ | ⟨_, _, hwaiting, _, _⟩
    | ⟨call', hcleared, hwaiting, -, hset, hunset⟩
  · rw [hwaiting] at hmem
    cases hmem
  · rw [hwaiting] at hmem
    cases hmem
  · rw [hwaiting] at hmem
    obtain rfl := List.mem_singleton.mp hmem
    exact ⟨hcleared, hwaiting, hset, hunset⟩

lemma serial_gattWrite {queued : Bool} (h : Serial s) (hmem : call ∈ s.cleared)
    (hG : queued = true ∨ s.writeChrc = true) : Serial (s.gattWrite call queued) := by
  obtain ⟨hcleared, hwaiting, hout, hset⟩ := h.of_mem_cleared hmem
  have hnone : s.cleared.erase call = [] := by
    rw [hcleared]
    exact List.erase_cons_head ..
  have hone : call :: s.waiting = [call] := by rw [hwaiting]
  cases queued with
  | true =>
      refine .waiting call hnone hone ?_ hset fun _ => List.mem_cons_self
      intro other hother
      have hother' : other ∈ call :: s.outstanding := hother
      rw [hout] at hother'
      exact List.mem_singleton.mp hother'
  | false =>
      have hflag := hG.resolve_left nofun
      refine .waiting call hnone hone ?_ hset fun hunset => ?_
      · intro other hother
        have hother' : other ∈ s.outstanding := hother
        rw [hout] at hother'
        cases hother'
      · exact absurd (hflag.symm.trans hunset) (by decide)

lemma serial_eslCWriteAttr (h : Serial s) (hmem : call ∈ s.outstanding) :
    Serial (s.eslCWriteAttr call) := by
  rcases h with ⟨hcleared, hwaiting⟩ | ⟨_, _, _, hout, _⟩ | ⟨call', hcleared, hwaiting, hout, -, -⟩
  · exact .idle hcleared hwaiting
  · rw [hout] at hmem
    cases hmem
  · obtain rfl := hout call hmem
    refine .waiting call hcleared hwaiting ?_ (fun _ => List.mem_cons_self) nofun
    exact fun other hother => hout other (List.mem_of_mem_erase hother)

/-- A call under way is ended by the loss of its connection, or was before. -/
lemma mem_ended_disconnected {connIdx : UInt8} (hmem : call ∈ s.cleared ++ s.waiting)
    (h : call.connIdx = connIdx ∨ call ∈ s.ended) : call ∈ (s.disconnected connIdx).ended := by
  rcases h with h | h
  · refine List.mem_append_left _ (List.mem_filter.mpr ⟨hmem, ?_⟩)
    exact decide_eq_true h
  · exact List.mem_append_right _ h

lemma serial_disconnected {connIdx : UInt8} (h : Serial s)
    (hG : ∀ call ∈ s.cleared ++ s.waiting, call.connIdx = connIdx ∨ call ∈ s.ended) :
    Serial (s.disconnected connIdx) := by
  rcases h with ⟨hcleared, hwaiting⟩ | ⟨call, hcleared, hwaiting, hout, -⟩
    | ⟨call, hcleared, hwaiting, hout, -, -⟩
  · exact .idle hcleared hwaiting
  · have hmem : call ∈ s.cleared ++ s.waiting := by rw [hcleared]; exact List.mem_cons_self
    exact .cleared call hcleared hwaiting hout fun _ => mem_ended_disconnected hmem (hG call hmem)
  · have hmem : call ∈ s.cleared ++ s.waiting := by
      rw [hcleared, hwaiting]
      exact List.mem_cons_self
    exact .waiting call hcleared hwaiting hout
      (fun _ => mem_ended_disconnected hmem (hG call hmem)) nofun

/-- **Every event keeps the flag with the call that is under way**, if there is one at a time. -/
lemma serial_step (h : Serial s) {e : WriteEvent} (hG : s.OneAtATime cfg e)
    (hstep : s.step cfg e = some s') : Serial s' := by
  cases e with
  | call function connIdx =>
      cases hstep
      rw [unsetFlag]
      split_ifs with hreturns
      · exact h
      · obtain ⟨hcleared, hwaiting, hout⟩ := hG.resolve_left hreturns
        refine .cleared ⟨s.calls, function, connIdx⟩ ?_ hwaiting hout nofun
        exact congrArg (List.cons _) hcleared
  | gattWrite call queued =>
      rw [step] at hstep
      split_ifs at hstep with hrun
      cases hstep
      exact serial_gattWrite h hrun.1 hG
  | writeAttr call =>
      rw [step] at hstep
      split_ifs at hstep with hmem
      cases hstep
      exact serial_eslCWriteAttr h hmem
  | leave call =>
      rw [step] at hstep
      split_ifs at hstep with hrun
      cases hstep
      obtain ⟨hcleared, hwaiting, -, -⟩ := h.of_mem_waiting hrun.1
      have hnone : s.waiting.erase call = [] := by
        rw [hwaiting]
        exact List.erase_cons_head ..
      exact .idle hcleared hnone
  | connected connIdx =>
      cases hstep
      rcases h with ⟨hcleared, hwaiting⟩ | ⟨call, hcleared, hwaiting, hout, hset⟩
        | ⟨call, hcleared, hwaiting, hout, hset, hunset⟩
      · exact .idle hcleared hwaiting
      · exact .cleared call hcleared hwaiting hout hset
      · exact .waiting call hcleared hwaiting hout hset hunset
  | disconnected connIdx =>
      rw [step] at hstep
      split_ifs at hstep
      cases hstep
      exact serial_disconnected h hG

/-! ## The calls that have left -/

/-- Whoever has left its wait was released by its own write or the loss of its own connection. -/
def LeftEnded (s : WriteFlag) : Prop := ∀ call ∈ s.left, call ∈ s.ended

lemma leftEnded_step (h : s.LeftEnded) (hs : Serial s) {e : WriteEvent}
    (hstep : s.step cfg e = some s') : s'.LeftEnded := by
  cases e with
  | call function connIdx =>
      cases hstep
      rw [unsetFlag]
      split_ifs
      · exact h
      · exact h
  | gattWrite call queued =>
      rw [step] at hstep
      split_ifs at hstep
      cases hstep
      exact h
  | writeAttr call =>
      rw [step] at hstep
      split_ifs at hstep
      cases hstep
      exact fun other hother => List.mem_cons_of_mem _ (h other hother)
  | leave call =>
      rw [step] at hstep
      split_ifs at hstep with hrun
      cases hstep
      intro other hother
      rcases List.mem_cons.mp hother with rfl | hother
      · obtain ⟨-, -, hset, -⟩ := hs.of_mem_waiting hrun.1
        exact hset hrun.2
      · exact h other hother
  | connected connIdx =>
      cases hstep
      exact h
  | disconnected connIdx =>
      rw [step] at hstep
      split_ifs at hstep
      cases hstep
      exact fun call hcall => List.mem_append_right _ (h call hcall)

lemma Serial.truthful (h : Serial s) (hleft : s.LeftEnded) : s.Truthful := by
  refine ⟨?_, hleft⟩
  intro call hmem hunset
  obtain ⟨-, -, -, hout⟩ := h.of_mem_waiting hmem
  exact hout hunset

/-- **One call at a time waits for its own write and nothing else.** -/
theorem truthful_of_oneAtATime (cfg : ConnConfig) (live : UInt8 → Bool) {es : List WriteEvent}
    (h : StepsMeet (step cfg) (OneAtATime cfg) (init live) es) :
    AlongRun (step cfg) Truthful (init live) es := by
  refine (alongRun_of_stepsMeet (I := fun s => Serial s ∧ s.LeftEnded) ?_ ?_ h).imp ?_
  · rintro s e s' ⟨hs, hleft⟩ hG hstep
    exact ⟨serial_step hs hG hstep, leftEnded_step hleft hs hstep⟩
  · exact ⟨.idle rfl rfl, nofun⟩
  · exact fun s hs => hs.1.truthful hs.2

/-- A call writes and is completed, and the next one loses its connection. -/
theorem truthful_oneByOne : AlongRun (step .two) Truthful (init fun _ => true)
    [.call .btEslCWriteEslAddr 0, .gattWrite ⟨0, .btEslCWriteEslAddr, 0⟩ true,
      .writeAttr ⟨0, .btEslCWriteEslAddr, 0⟩, .disconnected 1, .leave ⟨0, .btEslCWriteEslAddr, 0⟩,
      .call .eslCApKeyUpdate 0, .disconnected 0, .gattWrite ⟨1, .eslCApKeyUpdate, 0⟩ false,
      .leave ⟨1, .eslCApKeyUpdate, 0⟩] :=
  truthful_of_oneAtATime .two _ (by decide)

/-- A request that is not taken: the call waits for a write that nobody has. -/
theorem truthful_fails : ¬ ∀ (cfg : ConnConfig) (live : UInt8 → Bool) (es : List WriteEvent),
    AlongRun (step cfg) Truthful (init live) es := by
  intro h
  have hrun := h .two (fun _ => true)
    [.call .btEslCWriteEslAddr 0, .gattWrite ⟨0, .btEslCWriteEslAddr, 0⟩ false]
  have hlast := hrun.last (by rfl)
  have hstuck := hlast.1 ⟨0, .btEslCWriteEslAddr, 0⟩ List.mem_cons_self rfl
  revert hstuck
  decide

/-- The next poll. -/
lemma run_leave (cfg : ConnConfig) (hmem : call ∈ s.waiting) (hflag : s.writeChrc = true) :
    ∃ s', run (step cfg) s [.leave call] = some s' ∧ call ∈ s'.left := by
  refine ⟨{ s with waiting := s.waiting.erase call, left := call :: s.left }, ?_,
    List.mem_cons_self⟩
  rw [run_cons, step, if_pos ⟨hmem, hflag⟩]
  rfl

/-- **The wait can end**: by the completion of the call's own write, if the flag is not set yet, and
the next poll. -/
theorem wait_ends (cfg : ConnConfig) (h : s.Truthful) (hmem : call ∈ s.waiting) :
    ∃ es s', run (step cfg) s es = some s' ∧ call ∈ s'.left := by
  rcases hflag : s.writeChrc with _ | _
  · have hout := h.1 call hmem hflag
    have hstill : call ∈ (s.eslCWriteAttr call).waiting := hmem
    obtain ⟨s', hrun, hleft⟩ := run_leave cfg hstill rfl
    refine ⟨[.writeAttr call, .leave call], s', ?_, hleft⟩
    rw [run_cons, step, if_pos hout]
    exact hrun
  · obtain ⟨s', hrun, hleft⟩ := run_leave cfg hmem hflag
    exact ⟨[.leave call], s', hrun, hleft⟩

end WriteFlag

end NrfEsl
