import NrfEsl.Ap.State
import NrfEsl.Lib.Text
import NrfEsl.Lib.TransitionSystem

/-!
# The buttons of the access point

`button_handler` of the sample.  Buttons 3 and 4 each go through a list of commands, and through
the groups below `groups_per_button`, with two counters of 8 bits.  The shell command
`groups_per_button` sets the number of groups: any number of 8 bits.

The two branches are the same code, `ButtonCycle.press`, on the counters and the list of the button.
What the handler calls is recorded in `Buttons.called`.
-/

namespace NrfEsl

/-- The buttons that go through a list of commands. -/
inductive CycleButton
  | btn3 | btn4
  deriving DecidableEq, Repr

/-- `btn3_cmd_list`: images 0 and 1 for all tags of a group, and for its first tags. -/
def btn3CmdList : List UInt8 := [0x7, 0x8, 0x12, 0x13]

/-- `btn4_cmd_list`: LED 0 of all tags flashing, and off. -/
def btn4CmdList : List UInt8 := [0x1, 0x4]

def CycleButton.cmdList : CycleButton → List UInt8
  | btn3 => btn3CmdList
  | btn4 => btn4CmdList

/-- `btn3_toggle` and `btn3_group_toggle`, or those of button 4. -/
structure ButtonCycle where
  toggle : UInt8
  groupToggle : UInt8
  deriving DecidableEq, Repr

/-- What `button_handler` calls. -/
inductive ButtonCall
  | eslCScan (enable oneshot : Bool)
  | btCEslUnbondAll
  | removeAllTagsInStorage
  | eslDummyApAdData (syncPktType groupId : UInt8)
  deriving DecidableEq, Repr

/-- The static variables of the handler and its calls. -/
structure Buttons where
  btn3 : ButtonCycle
  btn4 : ButtonCycle
  called : List ButtonCall
  deriving DecidableEq, Repr

/-- After the start. -/
def Buttons.boot : Buttons := ⟨⟨0, 0⟩, ⟨0, 0⟩, []⟩

/-- `DK_BTN1_MSK` and the next ones. -/
def dkBtnMsk (i : ℕ) : UInt32 := 1 <<< UInt32.ofNat i

namespace ButtonCycle

/-- The command that the next press sends, and its group. -/
def next (c : ButtonCycle) (cmdList : List UInt8) : UInt8 × UInt8 :=
  (cmdList.getD (c.toggle.toNat % cmdList.length) 0, c.groupToggle)

/-- The counters after a press.  The counter is one of 8 bits, the quotient is one of `size_t`; the
remainder by 0 is not defined. -/
def press (c : ButtonCycle) (cmdList : List UInt8) (groupsPerButton : UInt8) : Option ButtonCycle :=
  let toggle := c.toggle + 1
  if groupsPerButton = 0 then none
  else some ⟨toggle, UInt8.ofNat (toggle.toNat / cmdList.length % groupsPerButton.toNat)⟩

end ButtonCycle

namespace Buttons

variable (tagStorage : Bool) (groupsPerButton : UInt8)

/-- The branches of buttons 1 and 2; the second is empty without tag storage. -/
def onBtn1 (button : UInt32) (s : Buttons) : Buttons :=
  if button &&& dkBtnMsk 0 ≠ 0 then { s with called := s.called ++ [.eslCScan true false] } else s

def onBtn2 (button : UInt32) (s : Buttons) : Buttons :=
  if button &&& dkBtnMsk 1 ≠ 0 ∧ tagStorage = true then
    { s with called := s.called ++ [.btCEslUnbondAll, .removeAllTagsInStorage] }
  else s

/-- The branches of buttons 3 and 4. -/
def onBtn3 (button : UInt32) (s : Buttons) : Option Buttons :=
  if button &&& dkBtnMsk 2 ≠ 0 then
    let sent := s.btn3.next btn3CmdList
    (s.btn3.press btn3CmdList groupsPerButton).map fun c =>
      { s with btn3 := c, called := s.called ++ [.eslDummyApAdData sent.1 sent.2] }
  else some s

def onBtn4 (button : UInt32) (s : Buttons) : Option Buttons :=
  if button &&& dkBtnMsk 3 ≠ 0 then
    let sent := s.btn4.next btn4CmdList
    (s.btn4.press btn4CmdList groupsPerButton).map fun c =>
      { s with btn4 := c, called := s.called ++ [.eslDummyApAdData sent.1 sent.2] }
  else some s

/-- `button_handler`; `none` is a division by zero. -/
def handler (buttonState hasChanged : UInt32) (s : Buttons) : Option Buttons :=
  let button := buttonState &&& hasChanged
  (onBtn3 groupsPerButton button (onBtn2 tagStorage button (onBtn1 button s))).bind
    (onBtn4 groupsPerButton button)

/-- The handler is called with the states of the buttons and with which of them have changed. -/
def step (s : Buttons) (e : UInt32 × UInt32) : Option Buttons :=
  handler tagStorage groupsPerButton e.1 e.2 s

end Buttons

/-- `cmd_groups_per_button`: what it leaves in `groups_per_button`, which was `old`. -/
def cmdGroupsPerButton (old : UInt8) (argv : List (List Char)) : UInt8 :=
  if argv.length > 1 then UInt8.ofInt (Text.strtol 10 (argv.getD 1 [])) else old

/-- The shell can store every number of 8 bits. -/
lemma exists_cmdGroupsPerButton (old g : UInt8) : ∃ argv, cmdGroupsPerButton old argv = g := by
  refine ⟨["groups_per_button".toList, Nat.toDigits 10 g.toNat], ?_⟩
  exact forall_uint8 (P := fun g =>
    UInt8.ofInt (Text.strtol 10 (Nat.toDigits 10 g.toNat)) = g) (by decide +kernel) g

end NrfEsl
