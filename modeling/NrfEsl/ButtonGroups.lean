import Mathlib.Data.List.GetD
import NrfEsl.Ap.Buttons
import NrfEsl.Lib.Windows

/-!
# The groups that a button goes through

Each press of button 3 or 4 sends the next command of the list, and when the list is through, to the
next group.  A round is as many presses as there are commands times groups.

The group comes from a counter of 8 bits.  When the counter comes back to 0 the group does, wherever
its round stands.  So every round is complete exactly if a number of rounds fits into the 256 values
of the counter; there is no remainder by 0 groups, and more groups than there are can be set
(`cyclesGroups_iff`).
-/

namespace NrfEsl

open TransitionSystem Windows

namespace CycleButton

variable (b : CycleButton)

/-- The counters of the button. -/
def cycle (s : Buttons) : ButtonCycle :=
  match b with
  | btn3 => s.btn3
  | btn4 => s.btn4

/-- The button is pressed. -/
def Pressed (e : UInt32 × UInt32) : Prop :=
  match b with
  | btn3 => e.1 &&& e.2 &&& dkBtnMsk 2 ≠ 0
  | btn4 => e.1 &&& e.2 &&& dkBtnMsk 3 ≠ 0

instance (e : UInt32 × UInt32) : Decidable (b.Pressed e) :=
  match b with
  | btn3 => inferInstanceAs (Decidable (_ ≠ _))
  | btn4 => inferInstanceAs (Decidable (_ ≠ _))

/-- The command and the group of a call that the button makes.  The lists have no common command. -/
def sentOf : ButtonCall → Option (UInt8 × UInt8)
  | .eslDummyApAdData cmd group => if cmd ∈ b.cmdList then some (cmd, group) else none
  | _ => none

/-- All that the button has sent. -/
def sent (s : Buttons) : List (UInt8 × UInt8) := s.called.filterMap b.sentOf

/-- The presses of a round. -/
def round (groupsPerButton : UInt8) : ℕ := groupsPerButton.toNat * b.cmdList.length

end CycleButton

/-! ## Specification -/

variable (cfg : ApConfig) (tagStorage : Bool) (groupsPerButton : UInt8) (b : CycleButton)

/-- The runs of the handler: any buttons, in any order, alone or together. -/
def runButtons (es : List (UInt32 × UInt32)) : Option Buttons :=
  run (Buttons.step tagStorage groupsPerButton) .boot es

/-- No division by zero; the groups are groups of the access point; and in every round's length of
presses in a row, each command is sent exactly once to each group. -/
structure CyclesGroups : Prop where
  noDivisionByZero : ∀ es, runButtons tagStorage groupsPerButton es ≠ none
  groups : ∀ es s, runButtons tagStorage groupsPerButton es = some s →
    ∀ x ∈ b.sent s, x.2.toNat < cfg.maxGroup
  onceEach : ∀ es s, runButtons tagStorage groupsPerButton es = some s →
    ∀ i, i + b.round groupsPerButton ≤ (b.sent s).length →
    ∀ cmd ∈ b.cmdList, ∀ group, group < groupsPerButton →
      ∃! k, i ≤ k ∧ k < i + b.round groupsPerButton ∧ (b.sent s)[k]? = some (cmd, group)

/-! ## One call of the handler -/

section Handler

variable {tagStorage} {groupsPerButton} {b}

/-- The command of a press is one of the list. -/
lemma ButtonCycle.next_mem (c : ButtonCycle) (b : CycleButton) :
    (c.next b.cmdList).1 ∈ b.cmdList := by
  have hpos : 0 < b.cmdList.length := by cases b <;> decide
  have hlt := Nat.mod_lt c.toggle.toNat hpos
  rw [ButtonCycle.next, List.getD_eq_getElem _ _ hlt]
  exact List.getElem_mem hlt

lemma sentOf_next (c : ButtonCycle) (b b' : CycleButton) :
    b'.sentOf (.eslDummyApAdData (c.next b.cmdList).1 (c.next b.cmdList).2)
      = if b' = b then some (c.next b.cmdList) else none := by
  have hmem := c.next_mem b
  have hdisjoint : ∀ b b' : CycleButton, b' ≠ b → ∀ cmd ∈ b.cmdList, cmd ∉ b'.cmdList := by
    intro b b'
    cases b <;> cases b' <;> decide +kernel
  rw [CycleButton.sentOf]
  by_cases hb : b' = b
  · subst hb
    rw [if_pos hmem, if_pos rfl]
  · rw [if_neg (hdisjoint b b' hb _ hmem), if_neg hb]

lemma sent_called (s : Buttons) (calls : List ButtonCall) (c3 c4 : ButtonCycle) :
    b.sent ⟨c3, c4, s.called ++ calls⟩ = b.sent s ++ calls.filterMap b.sentOf :=
  List.filterMap_append

/-- The calls of a press, of the button itself and of the other one. -/
lemma sent_press (s : Buttons) (b b' : CycleButton) (c c3 c4 : ButtonCycle) :
    b'.sent ⟨c3, c4, s.called ++
        [.eslDummyApAdData (c.next b.cmdList).1 (c.next b.cmdList).2]⟩
      = b'.sent s ++ if b' = b then [c.next b.cmdList] else [] := by
  rw [sent_called]
  refine congrArg (b'.sent s ++ ·) ?_
  rw [List.filterMap_cons, sentOf_next]
  by_cases hb : b' = b
  · rw [if_pos hb, if_pos hb]
    rfl
  · rw [if_neg hb, if_neg hb]
    rfl

/-- **What a call of the handler does** to a button: nothing, or it moves on and sends. -/
def Turn (groupsPerButton : UInt8) (b : CycleButton) (pressed : Prop) (s s' : Buttons) : Prop :=
  (pressed ∧ (b.cycle s).press b.cmdList groupsPerButton = some (b.cycle s')
      ∧ b.sent s' = b.sent s ++ [(b.cycle s).next b.cmdList])
    ∨ (¬ pressed ∧ b.cycle s' = b.cycle s ∧ b.sent s' = b.sent s)

lemma onBtn12_keeps (tagStorage : Bool) (button : UInt32) (s : Buttons) (b : CycleButton) :
    b.cycle (Buttons.onBtn2 tagStorage button (Buttons.onBtn1 button s)) = b.cycle s
      ∧ b.sent (Buttons.onBtn2 tagStorage button (Buttons.onBtn1 button s)) = b.sent s := by
  have h1 : b.cycle (Buttons.onBtn1 button s) = b.cycle s
      ∧ b.sent (Buttons.onBtn1 button s) = b.sent s := by
    rw [Buttons.onBtn1]
    split
    · exact ⟨by cases b <;> rfl, (sent_called s _ _ _).trans (List.append_nil _)⟩
    · exact ⟨rfl, rfl⟩
  rw [← h1.1, ← h1.2, Buttons.onBtn2]
  split
  · exact ⟨by cases b <;> rfl, (sent_called _ _ _ _).trans (List.append_nil _)⟩
  · exact ⟨rfl, rfl⟩

lemma onBtn3_turn {button : UInt32} {s s' : Buttons}
    (h : Buttons.onBtn3 groupsPerButton button s = some s') :
    Turn groupsPerButton .btn3 (button &&& dkBtnMsk 2 ≠ 0) s s'
      ∧ Turn groupsPerButton .btn4 False s s' := by
  rw [Buttons.onBtn3] at h
  split at h
  · rename_i hpressed
    obtain ⟨c, hc, rfl⟩ := Option.map_eq_some_iff.mp h
    exact ⟨.inl ⟨hpressed, hc, sent_press s .btn3 .btn3 s.btn3 c s.btn4⟩,
      .inr ⟨not_false, rfl, (sent_press s .btn3 .btn4 s.btn3 c s.btn4).trans (List.append_nil _)⟩⟩
  · rename_i hpressed
    cases h
    exact ⟨.inr ⟨hpressed, rfl, rfl⟩, .inr ⟨not_false, rfl, rfl⟩⟩

lemma onBtn4_turn {button : UInt32} {s s' : Buttons}
    (h : Buttons.onBtn4 groupsPerButton button s = some s') :
    Turn groupsPerButton .btn4 (button &&& dkBtnMsk 3 ≠ 0) s s'
      ∧ Turn groupsPerButton .btn3 False s s' := by
  rw [Buttons.onBtn4] at h
  split at h
  · rename_i hpressed
    obtain ⟨c, hc, rfl⟩ := Option.map_eq_some_iff.mp h
    exact ⟨.inl ⟨hpressed, hc, sent_press s .btn4 .btn4 s.btn4 s.btn3 c⟩,
      .inr ⟨not_false, rfl, (sent_press s .btn4 .btn3 s.btn4 s.btn3 c).trans (List.append_nil _)⟩⟩
  · rename_i hpressed
    cases h
    exact ⟨.inr ⟨hpressed, rfl, rfl⟩, .inr ⟨not_false, rfl, rfl⟩⟩

lemma Turn.trans_keeps {pressed : Prop} {s t u : Buttons} (h : Turn groupsPerButton b pressed s t)
    (hkeep : Turn groupsPerButton b False t u) : Turn groupsPerButton b pressed s u := by
  rcases hkeep with ⟨hfalse, -⟩ | ⟨-, hcycle, hsent⟩
  · exact hfalse.elim
  · rwa [Turn, hcycle, hsent]

lemma Turn.keeps_trans {pressed : Prop} {s t u : Buttons} (hcycle : b.cycle t = b.cycle s)
    (hsent : b.sent t = b.sent s) (h : Turn groupsPerButton b pressed t u) :
    Turn groupsPerButton b pressed s u := by
  rwa [Turn, hcycle, hsent] at h

/-- Each call of the handler is a turn of each button. -/
lemma step_turn {s s' : Buttons} {e : UInt32 × UInt32}
    (h : Buttons.step tagStorage groupsPerButton s e = some s') (b : CycleButton) :
    Turn groupsPerButton b (b.Pressed e) s s' := by
  obtain ⟨t, h3, h4⟩ := Option.bind_eq_some_iff.mp h
  obtain ⟨h33, h34⟩ := onBtn3_turn h3
  obtain ⟨h44, h43⟩ := onBtn4_turn h4
  obtain ⟨hcycle, hsent⟩ := onBtn12_keeps tagStorage (e.1 &&& e.2) s b
  refine Turn.keeps_trans hcycle hsent ?_
  cases b with
  | btn3 => exact h33.trans_keeps h43
  | btn4 =>
      rcases h34 with ⟨hfalse, -⟩ | ⟨-, hcycle, hsent⟩
      · exact hfalse.elim
      · exact Turn.keeps_trans hcycle hsent h44

/-- With some group to go through, the handler returns. -/
lemma step_ne_none (tagStorage : Bool) (hg : groupsPerButton ≠ 0) (s : Buttons) (e : UInt32 × UInt32) :
    Buttons.step tagStorage groupsPerButton s e ≠ none := by
  have hpress : ∀ (c : ButtonCycle) l, c.press l groupsPerButton ≠ none := by
    intro c l
    rw [ButtonCycle.press, if_neg hg]
    exact Option.some_ne_none _
  intro h
  rw [Buttons.step, Buttons.handler, Option.bind_eq_none_iff] at h
  rcases h3 : Buttons.onBtn3 groupsPerButton (e.1 &&& e.2)
      (Buttons.onBtn2 tagStorage (e.1 &&& e.2) (Buttons.onBtn1 (e.1 &&& e.2) s)) with _ | t
  · rw [Buttons.onBtn3] at h3
    split at h3
    · exact hpress _ _ (Option.map_eq_none_iff.mp h3)
    · cases h3
  · have h4 := h t h3
    rw [Buttons.onBtn4] at h4
    split at h4
    · exact hpress _ _ (Option.map_eq_none_iff.mp h4)
    · cases h4

end Handler

/-! ## Whole runs -/

/-- What the press number `k` of a button sends. -/
def nthSent (k : ℕ) : UInt8 × UInt8 :=
  (b.cmdList.getD (k % b.cmdList.length) 0,
    UInt8.ofNat (k % 256 / b.cmdList.length % groupsPerButton.toNat))

/-- The button has been pressed `m` times. -/
structure PressedTimes (m : ℕ) (s : Buttons) : Prop where
  cycle : b.cycle s
    = ⟨UInt8.ofNat m, UInt8.ofNat (m % 256 / b.cmdList.length % groupsPerButton.toNat)⟩
  sent : b.sent s = (List.range m).map (nthSent groupsPerButton b)

section Runs

variable {cfg} {tagStorage} {groupsPerButton} {b}

/-- The lists go into the values of the counter. -/
lemma length_cmdList_dvd (b : CycleButton) : b.cmdList.length ∣ 256 := by
  cases b <;> decide

lemma PressedTimes.next_eq {m : ℕ} {s : Buttons} (h : PressedTimes groupsPerButton b m s) :
    (b.cycle s).next b.cmdList = nthSent groupsPerButton b m := by
  rw [h.cycle, ButtonCycle.next, nthSent, UInt8.toNat_ofNat',
    Nat.mod_mod_of_dvd m (length_cmdList_dvd b)]

/-- A call of the handler counts one press or none. -/
lemma PressedTimes.step {m : ℕ} {s s' : Buttons} {e : UInt32 × UInt32}
    (h : PressedTimes groupsPerButton b m s)
    (hstep : Buttons.step tagStorage groupsPerButton s e = some s') :
    PressedTimes groupsPerButton b (if b.Pressed e then m + 1 else m) s' := by
  rcases step_turn hstep b with ⟨hpressed, hpress, hsent⟩ | ⟨hpressed, hcycle, hsent⟩
  · rw [if_pos hpressed]
    constructor
    · rw [h.cycle, ButtonCycle.press] at hpress
      split at hpress
      · cases hpress
      · have hnext := (Option.some.inj hpress).symm
        have htoggle : UInt8.ofNat m + 1 = UInt8.ofNat (m + 1) := (UInt8.ofNat_add m 1).symm
        rw [hnext, htoggle, UInt8.toNat_ofNat']
    · rw [hsent, h.sent, h.next_eq, List.range_succ, List.map_append]
      rfl
  · rw [if_neg hpressed]
    exact ⟨hcycle.trans h.cycle, hsent.trans h.sent⟩

lemma pressedTimes_boot : PressedTimes groupsPerButton b 0 .boot := by
  constructor
  · rw [Nat.zero_mod, Nat.zero_div, Nat.zero_mod]
    cases b <;> rfl
  · rfl

/-- **A run is a number of presses.** -/
theorem pressedTimes_of_run {es : List (UInt32 × UInt32)} {s : Buttons}
    (hrun : runButtons tagStorage groupsPerButton es = some s) :
    ∃ m, PressedTimes groupsPerButton b m s := by
  have hreach : Reachable (Buttons.step tagStorage groupsPerButton) (· = .boot) s :=
    ⟨_, es, rfl, hrun⟩
  refine Reachable.induction (I := fun s => ∃ m, PressedTimes groupsPerButton b m s) ?_ ?_ hreach
  · rintro _ rfl
    exact ⟨0, pressedTimes_boot⟩
  · rintro s e s' ⟨m, hm⟩ hstep
    exact ⟨_, hm.step hstep⟩

/-- Every number of presses is that of a run. -/
theorem exists_run (tagStorage : Bool) (b : CycleButton) (hg : groupsPerButton ≠ 0) (m : ℕ) :
    ∃ es s, runButtons tagStorage groupsPerButton es = some s
      ∧ PressedTimes groupsPerButton b m s := by
  have hpress : ∃ e, b.Pressed e := by
    cases b with
    | btn3 => exact ⟨(dkBtnMsk 2, dkBtnMsk 2), by decide⟩
    | btn4 => exact ⟨(dkBtnMsk 3, dkBtnMsk 3), by decide⟩
  obtain ⟨e, he⟩ := hpress
  induction m with
  | zero => exact ⟨[], .boot, rfl, pressedTimes_boot⟩
  | succ m ih =>
      obtain ⟨es, s, hrun, hm⟩ := ih
      obtain ⟨s', hs'⟩ := Option.ne_none_iff_exists'.mp
        (step_ne_none tagStorage hg s e)
      refine ⟨es ++ [e], s', ?_, ?_⟩
      · rw [runButtons, run_append]
        refine (congrArg (Option.bind · _) hrun).trans ?_
        exact congrArg (Option.bind · _) hs'
      · have hstep := hm.step hs'
        rwa [if_pos he] at hstep

lemma run_ne_none (hg : groupsPerButton ≠ 0) (es : List (UInt32 × UInt32)) :
    runButtons tagStorage groupsPerButton es ≠ none := by
  have hall : ∀ s, run (Buttons.step tagStorage groupsPerButton) s es ≠ none := by
    induction es with
    | nil => exact fun s => Option.some_ne_none s
    | cons e es ih =>
        intro s
        obtain ⟨s', hs'⟩ := Option.ne_none_iff_exists'.mp
          (step_ne_none tagStorage hg s e)
        rw [run_cons, hs']
        exact ih s'
  exact hall _

/-- What is sent at a position. -/
lemma PressedTimes.getElem?_iff {m k : ℕ} {s : Buttons} (h : PressedTimes groupsPerButton b m s)
    (x : UInt8 × UInt8) :
    (b.sent s)[k]? = some x ↔ k < m ∧ nthSent groupsPerButton b k = x := by
  rw [h.sent, List.getElem?_map]
  by_cases hk : k < m
  · rw [List.getElem?_range hk]
    exact ⟨fun heq => ⟨hk, Option.some.inj heq⟩, fun heq => congrArg some heq.2⟩
  · rw [List.getElem?_eq_none (by rw [List.length_range]; omega)]
    exact ⟨fun heq => (Option.some_ne_none x heq.symm).elim, fun heq => absurd heq.1 hk⟩

lemma PressedTimes.length {m : ℕ} {s : Buttons} (h : PressedTimes groupsPerButton b m s) :
    (b.sent s).length = m := by
  rw [h.sent, List.length_map, List.length_range]

/-- **Exactly once in every round** is a property of the presses by number. -/
lemma onceEach_iff (hg : groupsPerButton ≠ 0) :
    (∀ es s, runButtons tagStorage groupsPerButton es = some s →
      ∀ i, i + b.round groupsPerButton ≤ (b.sent s).length →
      ∀ cmd ∈ b.cmdList, ∀ group, group < groupsPerButton →
        ∃! k, i ≤ k ∧ k < i + b.round groupsPerButton ∧ (b.sent s)[k]? = some (cmd, group))
    ↔ ∀ cmd ∈ b.cmdList, ∀ group, group < groupsPerButton →
        OncePer (fun k => nthSent groupsPerButton b k = (cmd, group)) (b.round groupsPerButton) := by
  have hiff : ∀ {m : ℕ} {s : Buttons}, PressedTimes groupsPerButton b m s →
      ∀ {i : ℕ}, i + b.round groupsPerButton ≤ m → ∀ (x : UInt8 × UInt8) (k : ℕ),
        (i ≤ k ∧ k < i + b.round groupsPerButton ∧ (b.sent s)[k]? = some x)
          ↔ (i ≤ k ∧ k < i + b.round groupsPerButton ∧ nthSent groupsPerButton b k = x) := by
    intro m s hm i hi x k
    rw [hm.getElem?_iff]
    constructor
    · rintro ⟨hle, hlt, -, heq⟩
      exact ⟨hle, hlt, heq⟩
    · rintro ⟨hle, hlt, heq⟩
      exact ⟨hle, hlt, by omega, heq⟩
  constructor
  · intro h cmd hcmd group hgroup i
    obtain ⟨es, s, hrun, hm⟩ := exists_run tagStorage b hg
      (i + b.round groupsPerButton)
    have honce := h es s hrun i hm.length.ge cmd hcmd group hgroup
    exact (existsUnique_congr (hiff hm le_rfl _)).mp honce
  · intro h es s hrun i hi cmd hcmd group hgroup
    obtain ⟨m, hm⟩ := pressedTimes_of_run (b := b) hrun
    rw [hm.length] at hi
    exact (existsUnique_congr (hiff hm hi _)).mpr (h cmd hcmd group hgroup i)

/-- The residue of a press that sends a command to a group, if the rounds fit into the counter. -/
lemma nthSent_eq_iff (hdvd : groupsPerButton.toNat ∣ 256 / b.cmdList.length) {j k : ℕ}
    (hj : j < b.cmdList.length) {group : UInt8} (hgroup : group < groupsPerButton) :
    nthSent groupsPerButton b k = (b.cmdList.getD j 0, group)
      ↔ k % b.round groupsPerButton = j + b.cmdList.length * group.toNat := by
  have hpos : 0 < b.cmdList.length := by omega
  have hgroup' : group.toNat < groupsPerButton.toNat := UInt8.lt_iff_toNat_lt.mp hgroup
  have hmod : k % 256 / b.cmdList.length % groupsPerButton.toNat
      = k / b.cmdList.length % groupsPerButton.toNat := by
    conv_lhs => rw [← Nat.mul_div_cancel' (length_cmdList_dvd b)]
    rw [Nat.mod_mul_right_div_self, Nat.mod_mod_of_dvd _ hdvd]
  have hsplit : k % b.round groupsPerButton
      = k % b.cmdList.length
        + b.cmdList.length * (k / b.cmdList.length % groupsPerButton.toNat) := by
    rw [CycleButton.round, Nat.mul_comm, Nat.mod_mul]
  have hlt := Nat.mod_lt k hpos
  have hcmd : b.cmdList.getD (k % b.cmdList.length) 0 = b.cmdList.getD j 0
      ↔ k % b.cmdList.length = j := by
    have hinj : ∀ b : CycleButton, ∀ i < b.cmdList.length, ∀ j < b.cmdList.length,
        b.cmdList.getD i 0 = b.cmdList.getD j 0 → i = j := by
      intro b
      cases b <;> decide
    exact ⟨hinj b _ hlt j hj, fun h => by rw [h]⟩
  have hrem : UInt8.ofNat (k / b.cmdList.length % groupsPerButton.toNat) = group
      ↔ k / b.cmdList.length % groupsPerButton.toNat = group.toNat := by
    have hltG := Nat.mod_lt (k / b.cmdList.length) (by omega : 0 < groupsPerButton.toNat)
    have hbyte := groupsPerButton.toNat_lt
    rw [← UInt8.toNat_inj, UInt8.toNat_ofNat', Nat.mod_eq_of_lt (by omega)]
  rw [nthSent, Prod.mk.injEq, hmod, hcmd, hrem, hsplit]
  constructor
  · rintro ⟨hj', hgroup''⟩
    rw [hj', hgroup'']
  · intro h
    have hfirst : k % b.cmdList.length = j := by
      have hboth := congrArg (· % b.cmdList.length) h
      simpa only [Nat.add_mul_mod_self_left, Nat.mod_eq_of_lt hlt, Nat.mod_eq_of_lt hj] using hboth
    refine ⟨hfirst, ?_⟩
    rw [hfirst] at h
    exact Nat.eq_of_mul_eq_mul_left hpos (Nat.add_left_cancel h)

/-- No division by zero needs a group to go through. -/
lemma pos_of_run_ne_none (h : ∀ es, runButtons tagStorage groupsPerButton es ≠ none) :
    0 < groupsPerButton.toNat := by
  refine Nat.pos_of_ne_zero fun hzero => ?_
  obtain rfl : groupsPerButton = 0 := UInt8.toNat_inj.mp hzero
  refine h [(dkBtnMsk 2, dkBtnMsk 2)] ?_
  cases tagStorage <;> rfl

/-- **Complete rounds fit into the counter**: what it sends at 0 it sends at 256. -/
lemma dvd_of_oncePer {cmd : UInt8} (hcmd : cmd = b.cmdList.getD 0 0)
    (h : OncePer (fun k => nthSent groupsPerButton b k = (cmd, 0)) (b.round groupsPerButton)) :
    groupsPerButton.toNat ∣ 256 / b.cmdList.length := by
  have hstart : ∀ k, k % 256 = 0 → nthSent groupsPerButton b k = (cmd, 0) := by
    intro k hk
    have hfirst : k % b.cmdList.length = 0 :=
      Nat.mod_eq_zero_of_dvd ((length_cmdList_dvd b).trans (Nat.dvd_of_mod_eq_zero hk))
    rw [nthSent, hk, hfirst, Nat.zero_div, Nat.zero_mod, hcmd]
    rfl
  have hround := (h.iff_dvd (hstart 0 rfl) 256).mp (hstart 256 rfl)
  have hpos : 0 < b.cmdList.length := by cases b <;> decide
  refine Nat.dvd_of_mul_dvd_mul_right hpos ?_
  rwa [Nat.div_mul_cancel (length_cmdList_dvd b)]

/-- So do the groups of the presses. -/
lemma toNat_group_lt (hpos : 0 < groupsPerButton.toNat) (k : ℕ) :
    (nthSent groupsPerButton b k).2.toNat < groupsPerButton.toNat := by
  have hlt := Nat.mod_lt (k % 256 / b.cmdList.length) hpos
  have hbyte := groupsPerButton.toNat_lt
  rw [nthSent, UInt8.toNat_ofNat', Nat.mod_eq_of_lt (by omega)]
  exact hlt

end Runs

/-- **When a button goes through its groups.**  There is a group, the number of groups divides 256 by
the length of the list (so it is a power of two), and the access point has as many groups. -/
theorem cyclesGroups_iff :
    CyclesGroups cfg tagStorage groupsPerButton b
      ↔ 0 < groupsPerButton.toNat ∧ groupsPerButton.toNat ∣ 256 / b.cmdList.length
        ∧ groupsPerButton.toNat ≤ cfg.maxGroup := by
  have hhead : b.cmdList.getD 0 0 ∈ b.cmdList := by cases b <;> decide
  constructor
  · rintro ⟨hdiv, hgroups, honce⟩
    have hpos := pos_of_run_ne_none hdiv
    have hg : groupsPerButton ≠ 0 := by
      rintro rfl
      exact absurd hpos (by decide)
    have hper := (onceEach_iff hg).mp honce _ hhead
    have hzero : (0 : UInt8) < groupsPerButton := UInt8.lt_iff_toNat_lt.mpr hpos
    refine ⟨hpos, dvd_of_oncePer rfl (hper 0 hzero), ?_⟩
    -- the last group is one of the first round
    have hbyte := groupsPerButton.toNat_lt
    have hlast : (groupsPerButton - 1).toNat = groupsPerButton.toNat - 1 :=
      UInt8.toNat_sub_of_le _ _ (UInt8.le_iff_toNat_le.mpr hpos)
    obtain ⟨k, ⟨-, hk, hsent⟩, -⟩ := hper (groupsPerButton - 1)
      (UInt8.lt_iff_toNat_lt.mpr (by omega)) 0
    obtain ⟨es, s, hrun, hm⟩ := exists_run tagStorage b hg (k + 1)
    have hmem := List.mem_of_getElem? ((hm.getElem?_iff _).mpr ⟨k.lt_succ_self, hsent⟩)
    have hlt := hgroups es s hrun _ hmem
    rw [hlast] at hlt
    omega
  · rintro ⟨hpos, hdvd, hmax⟩
    have hg : groupsPerButton ≠ 0 := by
      rintro rfl
      exact absurd hpos (by decide)
    refine ⟨run_ne_none hg, ?_, (onceEach_iff hg).mpr ?_⟩
    · intro es s hrun x hx
      obtain ⟨m, hm⟩ := pressedTimes_of_run (b := b) hrun
      rw [hm.sent, List.mem_map] at hx
      obtain ⟨k, -, rfl⟩ := hx
      exact lt_of_lt_of_le (toNat_group_lt hpos k) hmax
    · intro cmd hcmd group hgroup i
      obtain ⟨j, hj, rfl⟩ := List.mem_iff_getElem.mp hcmd
      have hres : j + b.cmdList.length * group.toNat < b.round groupsPerButton := by
        have hlt := UInt8.lt_iff_toNat_lt.mp hgroup
        calc j + b.cmdList.length * group.toNat
            < b.cmdList.length * (group.toNat + 1) := by
              rw [Nat.mul_add]
              omega
          _ ≤ b.cmdList.length * groupsPerButton.toNat := Nat.mul_le_mul_left _ hlt
          _ = b.round groupsPerButton := Nat.mul_comm _ _
      rw [← List.getD_eq_getElem _ 0 hj]
      refine (existsUnique_congr fun k => ?_).mp (oncePer_mod hres i)
      dsimp only
      rw [nthSent_eq_iff hdvd hj hgroup]

/-- With no groups the first press divides by zero. -/
theorem not_cyclesGroups : ¬ CyclesGroups .default true 0 .btn3 :=
  fun h => h.noDivisionByZero [(dkBtnMsk 2, dkBtnMsk 2)] rfl

end NrfEsl
