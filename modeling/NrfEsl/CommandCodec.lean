import NrfEsl.Ap.EcpCommand
import NrfEsl.Tag.Command

/-!
# LED and display commands, from the access point to the tag

What a call of `bt_esl_c_led_control` or `bt_esl_c_display_control` means is an `ElementCommand`;
`decodeElement?` reads one back the way the command handler does.

**The handler reads nothing else.**  Two commands that decode alike have the same effect on a tag:
`commandSwitch_of_decodeElement?`.

**What arrives.**  The length is the one the tag checks, and every field comes back but one: the
repeat duration is packed into the upper 15 bits of a word and read back as 7 bits and 8 bits, the
latter one place too far to the left.  It is read as `d % 128 + 256 * (d / 128)`
(`toNat_unpack_pack`), so a call is decoded as it was meant exactly when the duration is below
128: `roundTrips_iff`.
-/

namespace NrfEsl

open EslTag

/-- An LED or display command; without a time it is immediate. -/
inductive ElementCommand
  | led (ledIdx : UInt8) (led : LedObj) (absTime? : Option UInt32)
  | display (displayIdx imgIdx : UInt8) (absTime? : Option UInt32)
  deriving DecidableEq, Repr

/-- The fields the labels of the command switch read. -/
def decodeElement? (cmd : Mem) : Option ElementCommand :=
  match EslOpCode.ofByte? (cmd 0) with
  | some .ledControl => some (.led (cmd 2) (ledObjOfCommand cmd) none)
  | some .ledTimedControl => some (.led (cmd 2) (ledObjOfCommand cmd) (some (sysGetLe32 cmd 13)))
  | some .displayImage => some (.display (cmd 2) (cmd 3) none)
  | some .displayTimedImage => some (.display (cmd 2) (cmd 3) (some (sysGetLe32 cmd 4)))
  | _ => none

/-- A call of `bt_esl_c_led_control` or `bt_esl_c_display_control`. -/
inductive ControlCall
  | ledControl (ledIdx : UInt8) (led : LedObj) (timed : Bool) (absTime : UInt32)
  | displayControl (dispIdx imgIdx : UInt8) (timed : Bool) (absTime : UInt32)
  deriving DecidableEq, Repr

namespace ControlCall

/-- What is written for it. -/
def send (stack ecpBuf : Mem) (eslAddr : UInt16) : ControlCall → NetBuf
  | ledControl ledIdx led timed absTime =>
      btEslCLedControl stack ecpBuf eslAddr ledIdx led timed absTime
  | displayControl dispIdx imgIdx timed absTime =>
      btEslCDisplayControl stack ecpBuf eslAddr dispIdx imgIdx timed absTime

/-- What its caller means. -/
def meaning : ControlCall → ElementCommand
  | ledControl ledIdx led timed absTime => .led ledIdx led (if timed then some absTime else none)
  | displayControl dispIdx imgIdx timed absTime =>
      .display dispIdx imgIdx (if timed then some absTime else none)

/-- The write has the length the tag checks, and what the tag reads is what the caller meant,
whatever lies behind the received bytes. -/
def RoundTrips (stack ecpBuf : Mem) (eslAddr : UInt16) (call : ControlCall) : Prop :=
  (call.send stack ecpBuf eslAddr).len = ecpLen ((call.send stack ecpBuf eslAddr).data 0)
    ∧ ∀ beyond, decodeElement? (Mem.ofBytes (call.send stack ecpBuf eslAddr).bytes beyond)
        = some call.meaning

/-- A repeat duration of seven bits, with a repeat type of one. -/
def ShortRepeat : ControlCall → Prop
  | ledControl _ led _ _ => led.repeatType.toNat ≤ 1 ∧ led.repeatDuration.toNat < 128
  | displayControl _ _ _ _ => True

instance : DecidablePred ShortRepeat
  | ledControl _ led _ _ =>
      inferInstanceAs (Decidable (led.repeatType.toNat ≤ 1 ∧ led.repeatDuration.toNat < 128))
  | displayControl _ _ _ _ => inferInstanceAs (Decidable True)

end ControlCall

/-! ## What the handler reads -/

section Decode

variable {cfg : Config} {cmd cmd' : Mem} {c : ElementCommand}

/-- Decoding reads no more bytes than the opcode declares. -/
lemma decodeElement?_congr (h : ∀ i < ecpLen (cmd 0), cmd i = cmd' i) :
    decodeElement? cmd = decodeElement? cmd' := by
  have h₀ : cmd 0 = cmd' 0 := h 0 (by have := two_le_ecpLen (cmd 0); omega)
  unfold decodeElement?
  rw [← h₀]
  cases hop : EslOpCode.ofByte? (cmd 0) with
  | none => rfl
  | some op =>
      rw [EslOpCode.ofByte?_eq_some.mp hop, ecpLen_toByte] at h
      cases op with
      | ledControl =>
          have hlen : EslOpCode.ledControl.copied.2 = 13 := rfl
          rw [hlen] at h
          simp only [h 2 (by omega), ledObjOfCommand_congr h]
      | ledTimedControl =>
          have hlen : EslOpCode.ledTimedControl.copied.2 = 17 := rfl
          rw [hlen] at h
          have hobj : ledObjOfCommand cmd = ledObjOfCommand cmd' :=
            ledObjOfCommand_congr fun i hi => h i (by omega)
          have htime : sysGetLe32 cmd 13 = sysGetLe32 cmd' 13 :=
            sysGetLe32_congr fun i hi => h _ (by omega)
          simp only [h 2 (by omega), hobj, htime]
      | displayImage =>
          have hlen : EslOpCode.displayImage.copied.2 = 4 := rfl
          simp only [h 2 (by omega), h 3 (by omega)]
      | displayTimedImage =>
          have hlen : EslOpCode.displayTimedImage.copied.2 = 8 := rfl
          have htime : sysGetLe32 cmd 4 = sysGetLe32 cmd' 4 :=
            sysGetLe32_congr fun i hi => h _ (by omega)
          simp only [h 2 (by omega), h 3 (by omega), htime]
      | _ => rfl

/-- The opcode a command is decoded under. -/
def ElementCommand.opCode : ElementCommand → EslOpCode
  | led _ _ none => .ledControl
  | led _ _ (some _) => .ledTimedControl
  | display _ _ none => .displayImage
  | display _ _ (some _) => .displayTimedImage

lemma opCode_of_decodeElement? (h : decodeElement? cmd = some c) :
    EslOpCode.ofByte? (cmd 0) = some c.opCode := by
  unfold decodeElement? at h
  split at h
  · cases h; assumption
  · cases h; assumption
  · cases h; assumption
  · cases h; assumption
  · cases h

/-- **The effect of an LED or display command depends on what it decodes to only.** -/
theorem commandSwitch_of_decodeElement? (t : EslTag) (h : decodeElement? cmd = some c)
    (h' : decodeElement? cmd' = some c) : t.commandSwitch cfg cmd = t.commandSwitch cfg cmd' := by
  have hop := opCode_of_decodeElement? h
  have hop' := opCode_of_decodeElement? h'
  have hstore : ∀ (t : EslTag) (i : UInt8), ledObjOfCommand cmd = ledObjOfCommand cmd' →
      t.storeLedObj i cmd = t.storeLedObj i cmd' := by
    intro t i hobj
    have hcolor : cmd 3 = cmd' 3 := congrArg LedObj.colorBrightness hobj
    simp only [storeLedObj, hobj, hcolor]
  have hsame := h.trans h'.symm
  unfold decodeElement? at hsame
  unfold commandSwitch
  rw [hop, hop'] at hsame ⊢
  rcases c with ⟨_, _, _ | _⟩ | ⟨_, _, _ | _⟩
  · obtain ⟨hidx, hobj, -⟩ := ElementCommand.led.inj (Option.some.inj hsame)
    simp only [ElementCommand.opCode, opLedControl, hidx, hstore _ _ hobj]
  · obtain ⟨hidx, hobj, htime⟩ := ElementCommand.led.inj (Option.some.inj hsame)
    simp only [ElementCommand.opCode, opLedTimedControl, hidx, hstore _ _ hobj,
      Option.some.inj htime]
  · obtain ⟨hidx, himg, -⟩ := ElementCommand.display.inj (Option.some.inj hsame)
    simp only [ElementCommand.opCode, opDisplayImage, hidx, himg]
  · obtain ⟨hidx, himg, htime⟩ := ElementCommand.display.inj (Option.some.inj hsame)
    simp only [ElementCommand.opCode, opDisplayTimedImage, hidx, himg, Option.some.inj htime]

end Decode

/-! ## What is written -/

section Pack

variable (repeatType : UInt8) (repeatDuration : UInt16)

/-- The type in the lowest bit, the duration above it. -/
lemma packRepeatTypeDuration_eq : ∃ val : UInt16,
    packRepeatTypeDuration repeatType repeatDuration = [lowByte val, highByte val]
      ∧ val.toNat = repeatType.toNat % 2 + 2 * (repeatDuration.toNat % 2 ^ 15) := by
  refine ⟨_, rfl, ?_⟩
  have htype : (0x01 : UInt16).toNat = 1 := rfl
  have hmax : repeatsDurationMax.toNat = 2 ^ 15 - 1 := rfl
  have hm : repeatDuration.toNat % 2 ^ 15 < 2 ^ 15 := Nat.mod_lt _ (by omega)
  simp only [UInt16.toNat_or, UInt16.toNat_and, UInt16.toNat_shiftLeft, UInt8.toNat_toUInt16,
    htype, hmax, Nat.and_one_is_mod, Nat.and_two_pow_sub_one_eq_mod]
  rw [Nat.shiftLeft_eq, Nat.mod_eq_of_lt (a := repeatDuration.toNat % 2 ^ 15 * 2 ^ 1) (by omega),
    ← Nat.shiftLeft_eq, or_shiftLeft_of_lt (by omega), Nat.pow_one]

/-- Seven bits from the first byte, eight from the second. -/
lemma toNat_unpackRepeatTypeDuration (d0 d1 : UInt8) :
    (unpackRepeatTypeDuration d0 d1).1.toNat = d0.toNat % 2
      ∧ (unpackRepeatTypeDuration d0 d1).2.toNat = d0.toNat / 2 + 2 ^ 8 * d1.toNat := by
  have htype : (d0 &&& 0x1).toNat = d0.toNat % 2 :=
    forall_uint8 (P := fun d => (d &&& 0x1).toNat = d.toNat % 2) (by decide +kernel) d0
  have hlow : ((d0 &&& 0xfe) >>> 1).toNat = d0.toNat / 2 :=
    forall_uint8 (P := fun d => ((d &&& 0xfe) >>> 1).toNat = d.toNat / 2) (by decide +kernel) d0
  have h8 : (8 : UInt16).toNat % 16 = 8 := rfl
  have h₀ := d0.toNat_lt
  have h₁ := d1.toNat_lt
  refine ⟨htype, ?_⟩
  simp only [unpackRepeatTypeDuration, UInt16.toNat_or, UInt16.toNat_shiftLeft,
    UInt8.toNat_toUInt16, hlow, h8]
  rw [Nat.shiftLeft_eq, Nat.mod_eq_of_lt (by omega), ← Nat.shiftLeft_eq,
    or_shiftLeft_of_lt (by omega)]

/-- A repeat type of one bit comes back; a duration is read as its low seven bits and, one place
too far to the left, the rest. -/
lemma toNat_unpack_pack {b₀ b₁ : UInt8}
    (h : packRepeatTypeDuration repeatType repeatDuration = [b₀, b₁]) :
    (unpackRepeatTypeDuration b₀ b₁).1.toNat = repeatType.toNat % 2
      ∧ (unpackRepeatTypeDuration b₀ b₁).2.toNat
        = repeatDuration.toNat % 2 ^ 7 + 2 ^ 8 * (repeatDuration.toNat % 2 ^ 15 / 2 ^ 7) := by
  obtain ⟨val, hval, hnat⟩ := packRepeatTypeDuration_eq repeatType repeatDuration
  obtain ⟨rfl, rfl⟩ : lowByte val = b₀ ∧ highByte val = b₁ := by simpa [hval] using h
  obtain ⟨htype, hdur⟩ := toNat_unpackRepeatTypeDuration (lowByte val) (highByte val)
  rw [htype, hdur, toNat_lowByte, toNat_highByte, hnat]
  omega

/-- Both come back exactly when they are short. -/
lemma unpack_pack_iff {b₀ b₁ : UInt8}
    (h : packRepeatTypeDuration repeatType repeatDuration = [b₀, b₁]) :
    unpackRepeatTypeDuration b₀ b₁ = (repeatType, repeatDuration)
      ↔ repeatType.toNat ≤ 1 ∧ repeatDuration.toNat < 128 := by
  obtain ⟨htype, hdur⟩ := toNat_unpack_pack repeatType repeatDuration h
  have hlt := repeatDuration.toNat_lt
  constructor
  · intro heq
    have hfst : (unpackRepeatTypeDuration b₀ b₁).1 = repeatType := congrArg Prod.fst heq
    have hsnd : (unpackRepeatTypeDuration b₀ b₁).2 = repeatDuration := congrArg Prod.snd heq
    rw [hfst] at htype
    rw [hsnd] at hdur
    constructor <;> omega
  · intro hshort
    have hfst : (unpackRepeatTypeDuration b₀ b₁).1.toNat = repeatType.toNat := by omega
    have hsnd : (unpackRepeatTypeDuration b₀ b₁).2.toNat = repeatDuration.toNat := by omega
    exact Prod.ext (UInt8.toNat_inj.mp hfst) (UInt16.toNat_inj.mp hsnd)

end Pack

/-! ## What arrives -/

section Arrives

variable (stack ecpBuf : Mem) (eslAddr : UInt16) (ledIdx : UInt8) (led : LedObj) (timed : Bool)
  (absTime : UInt32)

/-- The LED object in a command: what was packed is unpacked, the rest is as it was given. -/
lemma ledObjOfCommand_btEslCLedControl {w : NetBuf}
    (hw : btEslCLedControl stack ecpBuf eslAddr ledIdx led timed absTime = w) :
    packRepeatTypeDuration led.repeatType led.repeatDuration = [w.data 11, w.data 12]
      ∧ ledObjOfCommand w.data = { led with
          repeatType := (unpackRepeatTypeDuration (w.data 11) (w.data 12)).1
          repeatDuration := (unpackRepeatTypeDuration (w.data 11) (w.data 12)).2 } := by
  have hpattern : (Vector.ofFn fun i : Fin 5 => w.data (4 + i)) = led.flashPattern := by
    subst hw
    refine Vector.ext fun i hi => ?_
    have hi' : i < led.flashPattern.toList.length := by simpa using hi
    have hbyte : led.flashPattern[i] = led.flashPattern.toList[i] := by simp
    rw [Vector.getElem_ofFn, hbyte, show 4 + i = 2 + (2 + i) by omega]
    -- the copies behind the pattern leave it
    cases timed
    · have hlen : ecpLen EslOpCode.ledControl.toByte = 13 := rfl
      simp only [btEslCLedControl, Bool.false_eq_true, if_false, eslOpHeaderLen]
      rw [data_btEslCEcpCommandSend _ _ _ _ (by omega), Mem.write_of_lt _ (by omega),
        Mem.write_of_lt _ (by omega), Mem.write_of_lt _ (by omega), Mem.write_of_mem]
    · have hlen : ecpLen EslOpCode.ledTimedControl.toByte = 17 := rfl
      simp only [btEslCLedControl, if_true, eslOpHeaderLen]
      rw [data_btEslCEcpCommandSend _ _ _ _ (by omega), Mem.write_of_lt _ (by omega),
        Mem.write_of_lt _ (by omega), Mem.write_of_lt _ (by omega), Mem.write_of_lt _ (by omega),
        Mem.write_of_mem]
  have hcolor : w.data 3 = led.colorBrightness := by
    subst hw
    cases timed <;> rfl
  have hperiods : w.data 9 = led.bitOffPeriod ∧ w.data 10 = led.bitOnPeriod := by
    subst hw
    cases timed <;> exact ⟨rfl, rfl⟩
  have hpack : packRepeatTypeDuration led.repeatType led.repeatDuration = [w.data 11, w.data 12] := by
    subst hw
    cases timed <;> rfl
  simp only [ledObjOfCommand, hpattern, hcolor, hperiods.1, hperiods.2]
  exact ⟨hpack, trivial⟩

/-- The index and the time of an LED command come back. -/
lemma decodeElement?_btEslCLedControl {w : NetBuf}
    (hw : btEslCLedControl stack ecpBuf eslAddr ledIdx led timed absTime = w) :
    decodeElement? w.data
      = some (.led ledIdx (ledObjOfCommand w.data) (if timed then some absTime else none)) := by
  subst hw
  cases timed
  · rfl
  · have htime : sysGetLe32
        (btEslCLedControl stack ecpBuf eslAddr ledIdx led true absTime).data 13 = absTime :=
      sysGetLe32_of_bytes rfl
    exact congrArg (fun time => some (ElementCommand.led ledIdx _ (some time))) htime

/-- All of a display command comes back. -/
lemma decodeElement?_btEslCDisplayControl (dispIdx imgIdx : UInt8) :
    decodeElement? (btEslCDisplayControl stack ecpBuf eslAddr dispIdx imgIdx timed absTime).data
      = some (.display dispIdx imgIdx (if timed then some absTime else none)) := by
  cases timed
  · rfl
  · have htime : sysGetLe32
        (btEslCDisplayControl stack ecpBuf eslAddr dispIdx imgIdx true absTime).data 4 = absTime :=
      sysGetLe32_of_bytes rfl
    exact congrArg (fun time => some (ElementCommand.display dispIdx imgIdx (some time))) htime

/-- The length of the write is the one the tag computes. -/
lemma ControlCall.len_send (call : ControlCall) :
    (call.send stack ecpBuf eslAddr).len = ecpLen ((call.send stack ecpBuf eslAddr).data 0) := by
  rcases call with ⟨_, _, _ | _, _⟩ | ⟨_, _, _ | _, _⟩
  · exact len_btEslCEcpCommandSend ecpBuf eslAddr _ .ledControl
  · exact len_btEslCEcpCommandSend ecpBuf eslAddr _ .ledTimedControl
  · exact len_btEslCEcpCommandSend ecpBuf eslAddr _ .displayImage
  · exact len_btEslCEcpCommandSend ecpBuf eslAddr _ .displayTimedImage

/-- The tag decodes the bytes it received, whatever lies behind them. -/
lemma decodeElement?_ofBytes {w : NetBuf} (hlen : w.len = ecpLen (w.data 0)) (beyond : Mem) :
    decodeElement? (Mem.ofBytes w.bytes beyond) = decodeElement? w.data := by
  refine (decodeElement?_congr fun i hi => ?_).symm
  exact (Mem.ofBytes_read (by omega)).symm

/-- **A call goes through as it was meant exactly when its repeat duration is below 128**, and its
repeat type is a bit; display commands always do. -/
theorem roundTrips_iff (call : ControlCall) :
    call.RoundTrips stack ecpBuf eslAddr ↔ call.ShortRepeat := by
  have hlen := call.len_send stack ecpBuf eslAddr
  have hreceived : (∀ beyond, decodeElement?
        (Mem.ofBytes (call.send stack ecpBuf eslAddr).bytes beyond) = some call.meaning)
      ↔ decodeElement? (call.send stack ecpBuf eslAddr).data = some call.meaning := by
    simp only [decodeElement?_ofBytes hlen, forall_const]
  rw [ControlCall.RoundTrips, and_iff_right hlen, hreceived]
  cases call with
  | displayControl dispIdx imgIdx timed absTime =>
      have hdecode := decodeElement?_btEslCDisplayControl stack ecpBuf eslAddr timed absTime
        dispIdx imgIdx
      exact iff_of_true hdecode trivial
  | ledControl ledIdx led timed absTime =>
      have hdecode := decodeElement?_btEslCLedControl stack ecpBuf eslAddr ledIdx led timed absTime rfl
      obtain ⟨hpack, hobj⟩ :=
        ledObjOfCommand_btEslCLedControl stack ecpBuf eslAddr ledIdx led timed absTime rfl
      refine Iff.trans ?_ (unpack_pack_iff led.repeatType led.repeatDuration hpack)
      rw [ControlCall.send, hdecode, ControlCall.meaning, hobj, Prod.ext_iff]
      simp only [Option.some.injEq, ElementCommand.led.injEq, true_and, and_true]
      constructor
      · intro h
        exact ⟨congrArg LedObj.repeatType h, congrArg LedObj.repeatDuration h⟩
      · rintro ⟨htype, hdur⟩
        rw [htype, hdur]

end Arrives

/-- A duration of 128 needs its second byte.  It does not arrive: the tag reads 256. -/
theorem roundTrips_fails : ¬ ∀ (stack ecpBuf : Mem) (eslAddr : UInt16) (ledIdx : UInt8)
    (led : LedObj) (timed : Bool) (absTime : UInt32),
    led.repeatType.toNat ≤ 1 → led.repeatDuration.toNat ≤ 32767 →
    (ControlCall.ledControl ledIdx led timed absTime).RoundTrips stack ecpBuf eslAddr := by
  intro h
  have hled := h (fun _ => 0) (fun _ => 0) 0 0
    { colorBrightness := 0x3F, flashPattern := Vector.replicate 5 0, bitOffPeriod := 1,
      bitOnPeriod := 1, repeatType := 0, repeatDuration := 128 } false 0 (by decide) (by decide)
  have hdecode := hled.2 fun _ => 0
  revert hdecode
  decide

end NrfEsl
