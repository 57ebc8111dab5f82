import Mathlib.Algebra.Order.Ring.Int
import Mathlib.Data.List.Count
import NrfEsl.Ap.AutoConnect
import NrfEsl.Lib.TransitionSystem

/-!
# The guard of the auto-connect thread

`ESL_C_CONNECTING` should be set exactly while an attempt of the thread is outstanding, from the moment
the thread sets it until `esl_c_connect` has failed or the connection callback has come.

**The return value.**  `esl_c_connect` returns the connection index when it succeeds, and the thread
clears the bit for every value but 0.  **The callbacks** clear the bit for every connection, whoever
started it.  Nothing else breaks the agreement, so it holds along a run exactly when neither happens
while an attempt is outstanding (`agrees_iff`).
-/

namespace NrfEsl

open TransitionSystem

/-- The thread has set the bit and `esl_c_connect` has not succeeded yet. -/
def AutoThread.Trying : AutoThread → Prop
  | .connecting _ => True
  | .returned ret => ret < 0
  | .outside | .walking | .waiting => False

namespace AutoConnect

/-- How many attempts of the thread the stack is running. -/
def running (s : AutoConnect) : ℕ := s.pending.countP (·.auto)

/-- An attempt that the thread started is outstanding. -/
def Outstanding (s : AutoConnect) : Prop := s.thread.Trying ∨ 0 < s.running

/-- The bit is set exactly while an attempt is outstanding. -/
def Agrees (s : AutoConnect) : Prop := s.connecting = true ↔ s.Outstanding

/-- No attempt of the thread and no scan starts while an attempt is outstanding. -/
def NoSecond (cfg : ConnConfig) (s : AutoConnect) (e : AutoEvent) : Prop :=
  ∀ s', s.step cfg e = some s' →
    (∀ addr, s.thread ≠ .connecting addr → s'.thread = .connecting addr → ¬s.Outstanding) ∧
    (s.scanning = false → s'.scanning = true → ¬s'.Outstanding)

/-- `esl_c_connect` returns to the thread with index 0 or after its attempt is over, and no other
connection comes up, fails or is lost while an attempt is outstanding. -/
def Undisturbed (s : AutoConnect) : AutoEvent → Prop
  | .ret => ∀ attempt ∈ s.pending, attempt.auto = true → attempt.connIdx = 0
  | .connected attempt _ _ => attempt.auto = true ∨ ¬s.Outstanding
  | .disconnected _ _ => ¬s.Outstanding
  | _ => True

/-- What the guard rests on. -/
structure Sound (s : AutoConnect) : Prop where
  agrees : s.Agrees
  /-- The thread makes one attempt at a time. -/
  running_le : s.running ≤ 1
  running_of_trying : s.thread.Trying → s.running = 0
  /-- What `esl_c_connect` returned is the index of the attempt. -/
  index : ∀ ret attempt, s.thread = .returned ret → attempt ∈ s.pending → attempt.auto = true →
    ret = attempt.connIdx.toNat

/-! ## What the functions leave alone -/

variable {cfg : ConnConfig} {s s' : AutoConnect}

section Frame

variable (onoff oneshot started : Bool) (s : AutoConnect)

@[simp] lemma thread_eslCScan : (s.eslCScan onoff oneshot started).thread = s.thread := by
  rw [eslCScan]
  split_ifs <;> rfl

@[simp] lemma connecting_eslCScan :
    (s.eslCScan onoff oneshot started).connecting = s.connecting := by
  rw [eslCScan]
  split_ifs <;> rfl

@[simp] lemma pending_eslCScan : (s.eslCScan onoff oneshot started).pending = s.pending := by
  rw [eslCScan]
  split_ifs <;> rfl

@[simp] lemma thread_resumeScan : (s.resumeScan started).thread = s.thread := by
  rw [resumeScan]
  split_ifs <;> simp

@[simp] lemma connecting_resumeScan : (s.resumeScan started).connecting = s.connecting := by
  rw [resumeScan]
  split_ifs <;> simp

@[simp] lemma pending_resumeScan : (s.resumeScan started).pending = s.pending := by
  rw [resumeScan]
  split_ifs <;> simp

@[simp] lemma thread_pauseScan : s.pauseScan.thread = s.thread := by
  rw [pauseScan]
  split_ifs <;> simp

@[simp] lemma connecting_pauseScan : s.pauseScan.connecting = s.connecting := by
  rw [pauseScan]
  split_ifs <;> simp

@[simp] lemma pending_pauseScan : s.pauseScan.pending = s.pending := by
  rw [pauseScan]
  split_ifs <;> simp

/-- A scan is only started while the bit is clear. -/
lemma connecting_of_scanning_eslCScan (h : s.scanning = false)
    (h' : (s.eslCScan onoff oneshot started).scanning = true) : s.connecting = false := by
  rw [eslCScan] at h'
  split_ifs at h' with _ hconn
  · rw [h] at h'
    cases h'
  · simpa using hconn
  · rw [h] at h'
    cases h'

lemma scanning_pauseScan (h : s.scanning = false) : s.pauseScan.scanning = false := by
  rw [pauseScan, h]
  exact h

end Frame

lemma thread_onConnected (attempt : ConnAttempt) (connErr started : Bool) :
    (s.onConnected attempt connErr started).thread = s.thread := by
  cases connErr <;> simp [onConnected]

lemma connecting_onConnected (attempt : ConnAttempt) (connErr started : Bool) :
    (s.onConnected attempt connErr started).connecting = false := by
  cases connErr <;> simp [onConnected]

lemma pending_onConnected (attempt : ConnAttempt) (connErr started : Bool) :
    (s.onConnected attempt connErr started).pending = s.pending.erase attempt := by
  cases connErr <;> simp [onConnected]

/-! ## The attempts of the thread -/

/-- Soundness looks at the bit, the thread and the pending attempts only. -/
lemma Sound.congr (hs : s.Sound) (hthread : s'.thread = s.thread)
    (hconn : s'.connecting = s.connecting) (hpending : s'.pending = s.pending) : s'.Sound := by
  have hrunning : s'.running = s.running := by rw [running, running, hpending]
  refine ⟨?_, ?_, ?_, ?_⟩
  · rw [Agrees, Outstanding, hconn, hthread, hrunning]
    exact hs.agrees
  · rw [hrunning]
    exact hs.running_le
  · rw [hthread, hrunning]
    exact hs.running_of_trying
  · rw [hthread, hpending]
    exact hs.index

lemma running_of_append {attempt : ConnAttempt} (h : s'.pending = s.pending ++ [attempt]) :
    s'.running = s.running + if attempt.auto then 1 else 0 := by
  rw [running, h, List.countP_append, List.countP_singleton]
  rfl

lemma not_outstanding_iff : ¬s.Outstanding ↔ ¬s.thread.Trying ∧ s.running = 0 := by
  rw [Outstanding, not_or, Nat.pos_iff_ne_zero, not_not]

lemma Sound.not_outstanding (hs : s.Sound) (h : s.connecting = false) : ¬s.Outstanding := by
  intro ho
  have hset := hs.agrees.mpr ho
  rw [h] at hset
  cases hset

/-- What `esl_c_connect` does to the guard. -/
lemma eslCConnect_cases (cfg : ConnConfig) (auto : Bool) (eslAddr : UInt16) (err : ℕ)
    (s : AutoConnect) {ret : ℤ} {s' : AutoConnect}
    (h : s.eslCConnect cfg auto eslAddr err = (ret, s')) :
    s'.thread = s.thread ∧ s'.connecting = s.connecting ∧
      (s.scanning = false → s'.scanning = false) ∧
      (ret < 0 ∧ s'.pending = s.pending ∨
        ∃ connIdx : UInt8, ret = connIdx.toNat ∧ s'.pending = s.pending ++ [⟨connIdx, auto⟩]) := by
  rw [eslCConnect] at h
  cases hidx : s.eslCGetFreeConnIdx cfg with
  | none =>
      rw [hidx] at h
      cases h
      exact ⟨rfl, rfl, id, .inl ⟨by decide, rfl⟩⟩
  | some connIdx =>
      rw [hidx] at h
      simp only at h
      split_ifs at h with herr hbroadcast
      · cases h
        exact ⟨thread_pauseScan s, connecting_pauseScan s, scanning_pauseScan s,
          .inr ⟨connIdx, rfl, by simp⟩⟩
      · cases h
        exact ⟨thread_pauseScan s, connecting_pauseScan s, scanning_pauseScan s,
          .inl ⟨by omega, pending_pauseScan s⟩⟩
      · cases h
        exact ⟨thread_pauseScan s, connecting_pauseScan s, scanning_pauseScan s,
          .inl ⟨by omega, pending_pauseScan s⟩⟩

/-- An attempt of the shell or of a directed advertisement is none of the thread's. -/
lemma Sound.append_other (hs : s.Sound) {connIdx : UInt8} (hthread : s'.thread = s.thread)
    (hconn : s'.connecting = s.connecting)
    (hpending : s'.pending = s.pending ++ [⟨connIdx, false⟩]) : s'.Sound := by
  have hrunning : s'.running = s.running := running_of_append hpending
  refine ⟨?_, ?_, ?_, ?_⟩
  · rw [Agrees, Outstanding, hconn, hthread, hrunning]
    exact hs.agrees
  · rw [hrunning]
    exact hs.running_le
  · rw [hthread, hrunning]
    exact hs.running_of_trying
  · intro ret attempt hret hmem hauto
    rw [hpending] at hmem
    rw [hthread] at hret
    rcases List.mem_append.mp hmem with hold | hnew
    · exact hs.index ret attempt hret hold hauto
    · cases List.mem_singleton.mp hnew
      cases hauto

lemma sound_shellConnect (hs : s.Sound) (eslAddr : UInt16) (err : ℕ) :
    (s.eslCConnect cfg false eslAddr err).2.Sound := by
  obtain ⟨hthread, hconn, -, hpending⟩ := eslCConnect_cases cfg false eslAddr err s rfl
  rcases hpending with ⟨-, hsame⟩ | ⟨connIdx, -, hnew⟩
  · exact hs.congr hthread hconn hsame
  · exact hs.append_other hthread hconn hnew

/-- What a directed advertisement does to the guard. -/
lemma scanFilterNoMatch_cases (cfg : ConnConfig) (err : ℕ) (s : AutoConnect) :
    (s.scanFilterNoMatch cfg err).thread = s.thread ∧
      (s.scanFilterNoMatch cfg err).connecting = s.connecting ∧
      (s.scanFilterNoMatch cfg err).scanning = false ∧
      ((s.scanFilterNoMatch cfg err).pending = s.pending ∨
        ∃ connIdx : UInt8,
          (s.scanFilterNoMatch cfg err).pending = s.pending ++ [⟨connIdx, false⟩]) := by
  rw [scanFilterNoMatch]
  split
  · exact ⟨rfl, rfl, rfl, .inl rfl⟩
  · rename_i connIdx _
    split_ifs with herr
    · exact ⟨rfl, rfl, rfl, .inr ⟨connIdx, rfl⟩⟩
    · exact ⟨rfl, rfl, rfl, .inl rfl⟩

lemma sound_scanFilterNoMatch (hs : s.Sound) (err : ℕ) : (s.scanFilterNoMatch cfg err).Sound := by
  obtain ⟨hthread, hconn, -, hpending⟩ := scanFilterNoMatch_cases cfg err s
  rcases hpending with hsame | ⟨connIdx, hnew⟩
  · exact hs.congr hthread hconn hsame
  · exact hs.append_other hthread hconn hnew

/-- The thread's own attempt, whether the stack takes it or not. -/
lemma sound_create (hs : s.Sound) {addr : BtAddrLe} (hthread : s.thread = .connecting addr)
    {ret : ℤ} {err : ℕ} (h : s.eslCConnect cfg true connectBroadcast err = (ret, s')) :
    Sound { s' with thread := .returned ret } := by
  have htrying : s.thread.Trying := by
    rw [hthread]
    trivial
  have hzero := hs.running_of_trying htrying
  have hset := hs.agrees.mpr (.inl htrying)
  obtain ⟨-, hconn, -, hpending⟩ := eslCConnect_cases cfg true connectBroadcast err s h
  rcases hpending with ⟨hneg, hsame⟩ | ⟨connIdx, hret, hnew⟩
  · have hrunning : s'.running = 0 := by rw [running, hsame, ← hzero, running]
    refine ⟨?_, ?_, ?_, ?_⟩
    · exact iff_of_true (hconn.trans hset) (.inl hneg)
    · exact hrunning.le.trans (Nat.zero_le 1)
    · exact fun _ => hrunning
    · intro ret' attempt _ hmem hauto
      have hpos : 0 < s'.running := List.countP_pos_iff.mpr ⟨attempt, hmem, hauto⟩
      omega
  · have hrunning : s'.running = 1 := by
      rw [running_of_append hnew, hzero]
      rfl
    have hpos : 0 < s'.running := by omega
    refine ⟨?_, hrunning.le, ?_, ?_⟩
    · exact iff_of_true (hconn.trans hset) (.inr hpos)
    · intro hneg
      have hlt : ret < 0 := hneg
      omega
    · intro ret' attempt hret' hmem hauto
      cases hret'
      have hmem' : attempt ∈ s.pending ++ [⟨connIdx, true⟩] := hnew ▸ hmem
      rcases List.mem_append.mp hmem' with hold | hlast
      · have hpos : 0 < s.running := List.countP_pos_iff.mpr ⟨attempt, hold, hauto⟩
        omega
      · cases List.mem_singleton.mp hlast
        exact hret

/-- The thread moves on, and the attempts stay as they are. -/
lemma Sound.move (hs : s.Sound) {thread : AutoThread} (hold : ¬s.thread.Trying)
    (hnew : ¬thread.Trying) (hret : ∀ ret, thread ≠ .returned ret) :
    Sound { s with thread := thread } := by
  refine ⟨?_, hs.running_le, fun h => absurd h hnew, fun ret _ h => absurd h (hret ret)⟩
  have hiff : Outstanding { s with thread := thread } ↔ s.Outstanding := by
    rw [Outstanding, Outstanding, or_iff_right hold, or_iff_right hnew]
    rfl
  exact hs.agrees.trans hiff.symm

lemma sound_pick (hs : s.Sound) {addr : BtAddrLe} (hclear : s.connecting = false) :
    Sound { s with connecting := true, thread := .connecting addr } := by
  have hzero := (not_outstanding_iff.mp (hs.not_outstanding hclear)).2
  refine ⟨?_, hs.running_le, fun _ => hzero, ?_⟩
  · exact iff_of_true rfl (.inl trivial)
  · intro ret attempt hret
    cases hret

/-- A cleared bit agrees when nothing is outstanding. -/
lemma agrees_of_clear (h : s.connecting = false) : s.Agrees ↔ ¬s.Outstanding := by
  rw [Agrees, h]
  simp

lemma agrees_ret : Agrees { s with thread := .waiting, connecting := false } ↔ s.running = 0 := by
  rw [agrees_of_clear rfl, not_outstanding_iff]
  exact and_iff_right not_false

/-- The thread clears the bit for a return value other than 0. -/
lemma sound_ret (hs : s.Sound) (hzero : s.running = 0) :
    Sound { s with thread := .waiting, connecting := false } :=
  ⟨agrees_ret.mpr hzero, hs.running_le, fun _ => hzero, fun _ _ h => by cases h⟩

lemma running_onConnected {attempt : ConnAttempt} (hmem : attempt ∈ s.pending)
    (connErr started : Bool) :
    (s.onConnected attempt connErr started).running
      = s.running - if attempt.auto then 1 else 0 := by
  rw [running, pending_onConnected, List.countP_erase, running]
  simp [hmem]

/-- The callback clears the bit, which is right for the thread's own attempt or when there is none. -/
lemma agrees_onConnected (hs : s.Sound) {attempt : ConnAttempt} (hmem : attempt ∈ s.pending)
    (connErr started : Bool) :
    (s.onConnected attempt connErr started).Agrees ↔ attempt.auto = true ∨ ¬s.Outstanding := by
  rw [agrees_of_clear (connecting_onConnected attempt connErr started), not_outstanding_iff,
    running_onConnected hmem, thread_onConnected, not_outstanding_iff]
  cases hauto : attempt.auto with
  | true =>
      have hpos : 0 < s.running := List.countP_pos_iff.mpr ⟨attempt, hmem, hauto⟩
      have hle := hs.running_le
      refine iff_of_true ⟨fun htrying => ?_, by simp; omega⟩ (.inl rfl)
      have hzero := hs.running_of_trying htrying
      omega
  | false => simp

lemma sound_onConnected (hs : s.Sound) {attempt : ConnAttempt} (hmem : attempt ∈ s.pending)
    (connErr started : Bool) (h : attempt.auto = true ∨ ¬s.Outstanding) :
    (s.onConnected attempt connErr started).Sound := by
  have hagrees := (agrees_onConnected hs hmem connErr started).mpr h
  have hnone := (agrees_of_clear (connecting_onConnected attempt connErr started)).mp hagrees
  have hzero := (not_outstanding_iff.mp hnone).2
  refine ⟨hagrees, hzero.le.trans (Nat.zero_le 1), fun _ => hzero, ?_⟩
  intro ret attempt' hret hmem' hauto
  rw [thread_onConnected] at hret
  rw [pending_onConnected] at hmem'
  exact hs.index ret attempt' hret (List.mem_of_mem_erase hmem') hauto

lemma agrees_onDisconnected (connIdx : UInt8) (started : Bool) :
    (s.onDisconnected connIdx started).Agrees ↔ ¬s.Outstanding := by
  have hclear : (s.onDisconnected connIdx started).connecting = false := by simp [onDisconnected]
  rw [agrees_of_clear hclear, Outstanding, Outstanding, running, running, onDisconnected,
    thread_resumeScan, pending_resumeScan]

lemma sound_onDisconnected (hs : s.Sound) (connIdx : UInt8) (started : Bool)
    (h : ¬s.Outstanding) : (s.onDisconnected connIdx started).Sound := by
  have hsame : s.connecting = false := by
    by_contra hset
    exact h (hs.agrees.mp (by simpa using hset))
  refine hs.congr ?_ ?_ ?_
  · simp [onDisconnected]
  · simp [onDisconnected, hsame]
  · simp [onDisconnected]

/-! ## One event -/

lemma step_create {err : ℕ} (h : s.step cfg (.create err) = some s') :
    ∃ addr, s.thread = .connecting addr ∧
      s' = { (s.eslCConnect cfg true connectBroadcast err).2 with
        thread := .returned (s.eslCConnect cfg true connectBroadcast err).1 } := by
  cases hthread : s.thread with
  | connecting addr =>
      simp only [step, hthread, Option.some.injEq] at h
      exact ⟨addr, rfl, h.symm⟩
  | outside => simp [step, hthread] at h
  | walking => simp [step, hthread] at h
  | returned ret => simp [step, hthread] at h
  | waiting => simp [step, hthread] at h

lemma step_ret (h : s.step cfg .ret = some s') :
    ∃ ret, s.thread = .returned ret ∧
      (ret = 0 ∧ s' = { s with thread := .waiting } ∨
        ret ≠ 0 ∧ s' = { s with thread := .waiting, connecting := false }) := by
  cases hthread : s.thread with
  | returned ret =>
      simp only [step, hthread] at h
      split_ifs at h with hzero
      · exact ⟨ret, rfl, .inl ⟨hzero, (Option.some.inj h).symm⟩⟩
      · exact ⟨ret, rfl, .inr ⟨hzero, (Option.some.inj h).symm⟩⟩
  | outside => simp [step, hthread] at h
  | walking => simp [step, hthread] at h
  | connecting addr => simp [step, hthread] at h
  | waiting => simp [step, hthread] at h

/-- An undisturbed event keeps the guard sound. -/
lemma sound_step (hs : s.Sound) {e : AutoEvent} (h : s.Undisturbed e)
    (hstep : s.step cfg e = some s') : s'.Sound := by
  cases e with
  | enter =>
      obtain ⟨⟨hthread, -⟩, hs'⟩ := Option.ite_none_right_eq_some.mp hstep
      cases hs'
      exact hs.move (by rw [hthread]; exact not_false) not_false (by simp)
  | leave | semTimeout =>
      obtain ⟨hthread, hs'⟩ := Option.ite_none_right_eq_some.mp hstep
      cases hs'
      exact hs.move (by rw [hthread]; exact not_false) not_false (by simp)
  | pick addr =>
      obtain ⟨hthread, hs'⟩ := Option.ite_none_right_eq_some.mp hstep
      split_ifs at hs' with hset
      · cases hs'
        exact hs.move (by rw [hthread]; exact not_false) not_false (by simp)
      · cases hs'
        exact sound_pick hs (by simpa using hset)
  | create err =>
      obtain ⟨addr, hthread, rfl⟩ := step_create hstep
      exact sound_create hs hthread rfl
  | ret =>
      obtain ⟨ret, hthread, ⟨hzero, rfl⟩ | ⟨hne, rfl⟩⟩ := step_ret hstep
      · have hold : ¬s.thread.Trying := by
          rw [hthread, hzero]
          exact lt_irrefl (0 : ℤ)
        exact hs.move hold not_false (by simp)
      · refine sound_ret hs (Nat.eq_zero_of_not_pos fun hpos => hne ?_)
        obtain ⟨attempt, hmem, hauto⟩ := List.countP_pos_iff.mp hpos
        rw [hs.index ret attempt hthread hmem hauto, h attempt hmem hauto]
        rfl
  | semTaken =>
      obtain ⟨⟨hthread, -⟩, hs'⟩ := Option.ite_none_right_eq_some.mp hstep
      cases hs'
      have hwalk : Sound { s with thread := .walking } :=
        hs.move (by rw [hthread]; exact not_false) not_false (by simp)
      exact hwalk.congr rfl rfl rfl
  | connected attempt connErr started =>
      obtain ⟨hmem, hs'⟩ := Option.ite_none_right_eq_some.mp hstep
      cases hs'
      exact sound_onConnected hs hmem connErr started h
  | disconnected connIdx started =>
      obtain ⟨-, hs'⟩ := Option.ite_none_right_eq_some.mp hstep
      cases hs'
      exact sound_onDisconnected hs connIdx started h
  | shellConnect eslAddr err =>
      cases hstep
      exact sound_shellConnect hs eslAddr err
  | directAdv err =>
      cases hstep
      exact sound_scanFilterNoMatch hs err
  | scan onoff oneshot started | toggle onoff started =>
      cases hstep
      exact hs.congr (by simp) (by simp) (by simp)

/-- An event that disturbs the guard leaves a bit that does not agree. -/
lemma undisturbed_of_agrees (hs : s.Sound) {e : AutoEvent} (hstep : s.step cfg e = some s')
    (h : s'.Agrees) : s.Undisturbed e := by
  cases e with
  | ret =>
      intro attempt hmem hauto
      obtain ⟨ret, hthread, ⟨hzero, rfl⟩ | ⟨hne, rfl⟩⟩ := step_ret hstep
      · have hret := hs.index ret attempt hthread hmem hauto
        rw [hzero] at hret
        exact UInt8.toNat_inj.mp (by simpa using hret.symm)
      · have hnone := agrees_ret.mp h
        have hpos : 0 < s.running := List.countP_pos_iff.mpr ⟨attempt, hmem, hauto⟩
        omega
  | connected attempt connErr started =>
      obtain ⟨hmem, hs'⟩ := Option.ite_none_right_eq_some.mp hstep
      cases hs'
      exact (agrees_onConnected hs hmem connErr started).mp h
  | disconnected connIdx started =>
      obtain ⟨-, hs'⟩ := Option.ite_none_right_eq_some.mp hstep
      cases hs'
      exact (agrees_onDisconnected connIdx started).mp h
  | _ => trivial

/-! ## Attempts and scans that start -/

/-- The thread starts an attempt only where it finds the bit clear. -/
lemma connecting_of_attempt {e : AutoEvent} {addr : BtAddrLe} (hstep : s.step cfg e = some s')
    (h : s.thread ≠ .connecting addr) (h' : s'.thread = .connecting addr) :
    s.connecting = false := by
  cases e with
  | pick addr' =>
      obtain ⟨-, hs'⟩ := Option.ite_none_right_eq_some.mp hstep
      split_ifs at hs' with hset
      · cases hs'
        cases h'
      · simpa using hset
  | enter | leave | semTaken | semTimeout =>
      obtain ⟨-, hs'⟩ := Option.ite_none_right_eq_some.mp hstep
      cases hs'
      cases h'
  | create err =>
      obtain ⟨_, -, rfl⟩ := step_create hstep
      cases h'
  | ret =>
      obtain ⟨_, -, ⟨-, rfl⟩ | ⟨-, rfl⟩⟩ := step_ret hstep
      · cases h'
      · cases h'
  | connected attempt connErr started =>
      obtain ⟨-, hs'⟩ := Option.ite_none_right_eq_some.mp hstep
      cases hs'
      exact absurd ((thread_onConnected attempt connErr started).symm.trans h') h
  | disconnected connIdx started =>
      obtain ⟨-, hs'⟩ := Option.ite_none_right_eq_some.mp hstep
      cases hs'
      exact absurd (by simpa [onDisconnected] using h') h
  | shellConnect eslAddr err =>
      cases hstep
      obtain ⟨hthread, -⟩ := eslCConnect_cases cfg false eslAddr err s rfl
      exact absurd (hthread.symm.trans h') h
  | directAdv err =>
      cases hstep
      obtain ⟨hthread, -⟩ := scanFilterNoMatch_cases cfg err s
      exact absurd (hthread.symm.trans h') h
  | scan onoff oneshot started | toggle onoff started =>
      cases hstep
      exact absurd (by simpa using h') h

/-- A scan starts only with the bit clear. -/
lemma connecting_of_scan {e : AutoEvent} (hstep : s.step cfg e = some s')
    (h : s.scanning = false) (h' : s'.scanning = true) : s'.connecting = false := by
  cases e with
  | scan onoff oneshot started =>
      cases hstep
      rw [connecting_eslCScan]
      exact connecting_of_scanning_eslCScan onoff oneshot started s h h'
  | toggle onoff started =>
      cases hstep
      rw [connecting_eslCScan]
      exact connecting_of_scanning_eslCScan onoff false started { s with autoApMode := onoff } h h'
  | connected attempt connErr started =>
      obtain ⟨-, hs'⟩ := Option.ite_none_right_eq_some.mp hstep
      cases hs'
      exact connecting_onConnected attempt connErr started
  | disconnected connIdx started =>
      obtain ⟨-, hs'⟩ := Option.ite_none_right_eq_some.mp hstep
      cases hs'
      simp [onDisconnected]
  | create err =>
      obtain ⟨_, -, rfl⟩ := step_create hstep
      obtain ⟨-, -, hscan, -⟩ := eslCConnect_cases cfg true connectBroadcast err s rfl
      exact absurd ((hscan h).symm.trans h') (by decide)
  | shellConnect eslAddr err =>
      cases hstep
      obtain ⟨-, -, hscan, -⟩ := eslCConnect_cases cfg false eslAddr err s rfl
      exact absurd ((hscan h).symm.trans h') (by decide)
  | directAdv err =>
      cases hstep
      obtain ⟨-, -, hscan, -⟩ := scanFilterNoMatch_cases cfg err s
      exact absurd (hscan.symm.trans h') (by decide)
  | enter | leave | semTaken | semTimeout =>
      obtain ⟨-, hs'⟩ := Option.ite_none_right_eq_some.mp hstep
      cases hs'
      exact absurd (h.symm.trans h') (by decide)
  | pick addr =>
      obtain ⟨-, hs'⟩ := Option.ite_none_right_eq_some.mp hstep
      split_ifs at hs' <;> (cases hs'; exact absurd (h.symm.trans h') (by decide))
  | ret =>
      obtain ⟨_, -, ⟨-, rfl⟩ | ⟨-, rfl⟩⟩ := step_ret hstep
      · exact absurd (h.symm.trans h') (by decide)
      · rfl

/-! ## Runs -/

lemma sound_init (conn : UInt8 → Bool) : (init conn).Sound where
  agrees := iff_of_false Bool.false_ne_true fun h => h.elim not_false (lt_irrefl 0)
  running_le := Nat.zero_le 1
  running_of_trying := fun _ => rfl
  index := fun _ _ h => by cases h

/-- The bit agrees with the attempts along a run, and no second attempt and no scan starts, exactly
when no step disturbs an attempt. -/
theorem agrees_iff (cfg : ConnConfig) (conn : UInt8 → Bool) (es : List AutoEvent) :
    AlongRun (step cfg) Agrees (init conn) es ∧ StepsMeet (step cfg) (NoSecond cfg) (init conn) es
      ↔ StepsMeet (step cfg) Undisturbed (init conn) es := by
  refine alongRun_and_stepsMeet_iff (I := Sound) (fun _ hs => hs.agrees) ?_ ?_ ?_ (sound_init conn)
  · intro s e s' hs h hstep
    exact sound_step hs h hstep
  · intro s e s' hs h _ t ht
    have ht' : t.Sound := sound_step hs h ht
    constructor
    · intro addr hne heq
      exact hs.not_outstanding (connecting_of_attempt ht hne heq)
    · intro hoff hon
      exact ht'.not_outstanding (connecting_of_scan ht hoff hon)
  · intro s e s' hs hstep _ h
    exact undisturbed_of_agrees hs hstep h

/-- With index 0 taken, the bit is clear as soon as `esl_c_connect` has returned 1; and a tag that
disconnects clears it under a pending attempt. -/
theorem not_agrees :
    ¬AlongRun (step .two) Agrees (init fun idx => idx == 0)
        [.enter, .pick ⟨0, #v[1, 0, 0, 0, 0, 0]⟩, .create 0, .ret]
      ∧ ¬AlongRun (step .two) Agrees (init fun idx => idx == 1)
        [.enter, .pick ⟨0, #v[1, 0, 0, 0, 0, 0]⟩, .create 0, .ret, .disconnected 1 false] := by
  constructor
  · intro h
    have hset : false = true := (h.last rfl).mpr (.inr Nat.zero_lt_one)
    cases hset
  · intro h
    have hset : false = true := (h.last rfl).mpr (.inr Nat.zero_lt_one)
    cases hset

end AutoConnect

end NrfEsl
