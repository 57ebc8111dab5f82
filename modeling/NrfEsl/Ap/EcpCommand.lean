import NrfEsl.Tag.State

/-!
# The ECP commands an access point writes

`bt_esl_c_led_control` and `bt_esl_c_display_control` lay out their arguments in a cleared `command`
of 17 bytes, whose offsets are those of the TLV less its header; `bt_esl_c_ecp_command_send` puts
the header into the one `ecp_buf` of all connections and copies a number of bytes behind it that its
`switch` names for each opcode.

A `memcpy` from an integer is little-endian, as on the machines the firmware runs on.
-/

namespace NrfEsl

/-- `ESL_ECP_COMMAND_MAX_LEN` -/
def eslEcpCommandMaxLen : ℕ := 17
/-- `ESL_OP_HEADER_LEN` -/
def eslOpHeaderLen : ℕ := 2
/-- `REPEATS_DURATION_MAX` -/
def repeatsDurationMax : UInt16 := 0x7FFF

/-- `pack_repeat_type_duration` -/
def packRepeatTypeDuration (repeatType : UInt8) (repeatDuration : UInt16) : List UInt8 :=
  let low : UInt16 := repeatType.toUInt16 &&& 0x01
  let high : UInt16 := (repeatDuration &&& repeatsDurationMax) <<< 1
  [lowByte (low ||| high), highByte (low ||| high)]

/-- The `switch` of `bt_esl_c_ecp_command_send`: how many bytes of `command` it copies behind the
header, and the length it sets.  No caller passes an opcode of its `default` label. -/
def EslOpCode.copied : EslOpCode → ℕ × ℕ
  | .ping | .unassociate | .serviceReset | .factoryReset | .updateComplete => (0, 2)
  | .readSensorData | .refreshDisplay => (1, 3)
  | .displayImage => (2, 4)
  | .displayTimedImage => (6, 8)
  | .ledControl => (11, 13)
  | .ledTimedControl => (15, 17)

/-- `bt_esl_c_ecp_command_send` on a live connection, up to the write: what `ecp_write_params`
points to, and its length. -/
def btEslCEcpCommandSend (ecpBuf : Mem) (eslAddr : UInt16) (command : Mem) (opCode : EslOpCode) :
    NetBuf :=
  let buf := (ecpBuf.write 0 [opCode.toByte]).write 1 [lowByte eslAddr]
  ⟨buf.write eslOpHeaderLen (command.read 0 opCode.copied.1), opCode.copied.2⟩

/-- `command` after `memset`. -/
def clearedCommand (stack : Mem) : Mem := stack.write 0 (List.replicate eslEcpCommandMaxLen 0)

/-- `bt_esl_c_led_control` -/
def btEslCLedControl (stack ecpBuf : Mem) (eslAddr : UInt16) (ledIdx : UInt8) (led : LedObj)
    (timed : Bool) (absTime : UInt32) : NetBuf :=
  let command := (clearedCommand stack).write 0 [ledIdx]
  let command := command.write 1 [led.colorBrightness]
  let command := command.write 2 led.flashPattern.toList
  let command := command.write (9 - eslOpHeaderLen) [led.bitOffPeriod]
  let command := command.write (10 - eslOpHeaderLen) [led.bitOnPeriod]
  let command := command.write (11 - eslOpHeaderLen)
    (packRepeatTypeDuration led.repeatType led.repeatDuration)
  if timed then
    btEslCEcpCommandSend ecpBuf eslAddr (command.write (13 - eslOpHeaderLen) (le32Bytes absTime))
      .ledTimedControl
  else btEslCEcpCommandSend ecpBuf eslAddr command .ledControl

/-- `bt_esl_c_display_control` -/
def btEslCDisplayControl (stack ecpBuf : Mem) (eslAddr : UInt16) (dispIdx imgIdx : UInt8)
    (timed : Bool) (absTime : UInt32) : NetBuf :=
  let command := (clearedCommand stack).write 0 [dispIdx]
  let command := command.write 1 [imgIdx]
  if timed then
    btEslCEcpCommandSend ecpBuf eslAddr (command.write (4 - eslOpHeaderLen) (le32Bytes absTime))
      .displayTimedImage
  else btEslCEcpCommandSend ecpBuf eslAddr command .displayImage

/-- The length the `switch` sets is the one the tag computes from the opcode. -/
lemma ecpLen_toByte (opCode : EslOpCode) : ecpLen opCode.toByte = opCode.copied.2 := by
  cases opCode <;> rfl

/-- What is copied fills the command up to that length. -/
lemma EslOpCode.copied_snd (opCode : EslOpCode) :
    opCode.copied.2 = eslOpHeaderLen + opCode.copied.1 := by
  cases opCode <;> rfl

section Send

variable (ecpBuf : Mem) (eslAddr : UInt16) (command : Mem) (opCode : EslOpCode)

@[simp] lemma len_btEslCEcpCommandSend :
    (btEslCEcpCommandSend ecpBuf eslAddr command opCode).len = ecpLen opCode.toByte :=
  (ecpLen_toByte opCode).symm

@[simp] lemma opCode_btEslCEcpCommandSend :
    (btEslCEcpCommandSend ecpBuf eslAddr command opCode).data 0 = opCode.toByte := rfl

/-- Behind the header stands the command, as far as the length goes. -/
lemma data_btEslCEcpCommandSend {i : ℕ} (h : 2 + i < ecpLen opCode.toByte) :
    (btEslCEcpCommandSend ecpBuf eslAddr command opCode).data (2 + i) = command i := by
  have hi : i < (command.read 0 opCode.copied.1).length := by
    rw [ecpLen_toByte, EslOpCode.copied_snd, eslOpHeaderLen] at h
    rw [Mem.length_read]
    omega
  have hwrite : (btEslCEcpCommandSend ecpBuf eslAddr command opCode).data (2 + i)
      = (command.read 0 opCode.copied.1)[i] := Mem.write_of_mem hi
  rw [hwrite]
  simp [Mem.read]

end Send

end NrfEsl
