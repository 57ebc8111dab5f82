import NrfEsl.Tag.Device

/-!
# Classification of opcodes

The handler tests for a vendor-specific opcode twice: in front of the switch the low nibble is
compared with `OP_VENDOR_SPECIFIC_STATE_MASK`, behind it the `default` label asks whether any bit of
the mask is set.  A byte that is no opcode and has a low nibble of 1 to 14 passes both.

* `callsVendor_iff` — which commands the vendor callback gets.
* `answersInvalid_iff` — which unknown opcodes are answered with Invalid Opcode.
* `classifiesOpcode_iff` — a command is classified as it should be exactly when its opcode is
  defined or vendor-specific, or its low nibble is zero and the tag takes the command.
-/

namespace NrfEsl

/-- The low nibble of a vendor-specific opcode is 0xF. -/
def IsVendorSpecific (opCode : UInt8) : Prop :=
  opCode &&& vendorSpecificStateMask = vendorSpecificStateMask

instance (opCode : UInt8) : Decidable (IsVendorSpecific opCode) :=
  inferInstanceAs (Decidable (_ = _))

/-- The opcode is one of the eleven, or vendor-specific. -/
def IsKnown (opCode : UInt8) : Prop :=
  (EslOpCode.ofByte? opCode).isSome ∨ IsVendorSpecific opCode

instance (opCode : UInt8) : Decidable (IsKnown opCode) := inferInstanceAs (Decidable (_ ∨ _))

/-- The tag takes the command: it carries the tag's or the broadcast ID, and the tag is not busy. -/
def TakesCommand (buf : NetBuf) (t : EslTag) : Prop :=
  (buf.data 1 = t.assoc.eslAddr.eslId ∨ buf.data 1 = eslAddrBroadcast) ∧ t.ecp.busy = false

instance (buf : NetBuf) (t : EslTag) : Decidable (TakesCommand buf t) :=
  inferInstanceAs (Decidable (_ ∧ _))

/-- The command is answered with Error, Invalid Opcode. -/
def AnswersInvalid (cfg : Config) (buf : NetBuf) (t : EslTag) : Prop :=
  let r := t.executeCommand cfg buf
  r.2 = true ∧ r.1.ecp.resp.respOp = .err ∧ r.1.ecp.resp.errorCode = .invOpcode

/-- A vendor callback is called for the command: `vs_command_handler` in the `default` label, which
sets this response code, and `vs_response_handler` for this code. -/
def CallsVendor (cfg : Config) (buf : NetBuf) (t : EslTag) : Prop :=
  (t.executeCommand cfg buf).1.ecp.resp.respOp = .vendorSpecificStateMask

/-- The command is classified as its opcode says. -/
structure ClassifiesOpcode (cfg : Config) (buf : NetBuf) (t : EslTag) : Prop where
  unknown : ¬ IsKnown (buf.data 0) → AnswersInvalid cfg buf t
  vendor : CallsVendor cfg buf t → IsVendorSpecific (buf.data 0) ∧ cfg.vendorSpecificSupport = true

section Classification

variable {cfg : Config} {t : EslTag} {buf : NetBuf}

/-- The bytes of the answer, whatever the callbacks and the stack hold. -/
lemma responseBytes_of_answersInvalid (h : AnswersInvalid cfg buf t) (env : HandlerEnv) :
    ((t.executeCommand cfg buf).1.prepareResponse cfg).responseBytes cfg env = [0x00, 0x02] := by
  obtain ⟨-, hresp, herr⟩ := h
  have hbasic : (t.executeCommand cfg buf).1.ecp.resp.respOp ≠ .basicState := by
    rw [hresp]
    decide
  have hprep : ((t.executeCommand cfg buf).1.prepareResponse cfg).ecp.resp
      = (t.executeCommand cfg buf).1.ecp.resp := by
    dsimp only [EslTag.prepareResponse]
    rw [if_neg hbasic]
  simp only [EslTag.responseBytes, hprep, hresp, herr]
  rfl

/-! ## The switch -/

/-- A command whose length is right and that the build supports reaches the switch when the tag
takes it. -/
lemma reachesSwitch_iff (hlen : buf.len = ecpLen (buf.data 0)) :
    t.ReachesSwitch cfg buf ↔ TakesCommand buf t
      ∧ ¬ (IsVendorSpecific (buf.data 0) ∧ cfg.vendorSpecificSupport = false) := by
  rw [EslTag.ReachesSwitch, TakesCommand, IsVendorSpecific]
  tauto

/-- The defined opcodes do not lead to the vendor callback. -/
lemma respOp_commandSwitch_ne_vendor {cmd : Mem} {op : EslOpCode}
    (hop : EslOpCode.ofByte? (cmd 0) = some op)
    (hresp : t.ecp.resp.respOp ≠ .vendorSpecificStateMask) :
    (t.commandSwitch cfg cmd).ecp.resp.respOp ≠ .vendorSpecificStateMask := by
  unfold EslTag.commandSwitch
  rw [hop]
  cases op with
  | ping => rintro ⟨⟩
  | unassociate =>
      simp only [EslTag.opUnassociate]
      split <;> rintro ⟨⟩
  | serviceReset => rintro ⟨⟩
  | factoryReset =>
      simp only [EslTag.opFactoryReset]
      split_ifs
      · rintro ⟨⟩
      · rintro ⟨⟩
      · simpa using hresp
  | updateComplete =>
      simp only [EslTag.opUpdateComplete, EslTag.eslIsConfiguringState]
      split_ifs <;> simpa using hresp
  | readSensorData =>
      simp only [EslTag.opReadSensorData]
      split_ifs <;> rintro ⟨⟩
  | refreshDisplay =>
      simp only [EslTag.opRefreshDisplay]
      split_ifs <;> rintro ⟨⟩
  | displayImage =>
      simp only [EslTag.opDisplayImage]
      split <;> rintro ⟨⟩
  | displayTimedImage =>
      simp only [EslTag.opDisplayTimedImage]
      split
      · rintro ⟨⟩
      · split_ifs <;> rintro ⟨⟩
  | ledControl =>
      simp only [EslTag.opLedControl]
      split_ifs <;> rintro ⟨⟩
  | ledTimedControl =>
      simp only [EslTag.opLedTimedControl]
      split_ifs <;> rintro ⟨⟩

/-- A command that is refused before the switch does not get there either. -/
lemma respOp_ne_vendor_of_not_reachesSwitch (h : ¬ t.ReachesSwitch cfg buf) :
    (t.executeCommand cfg buf).1.ecp.resp.respOp ≠ .vendorSpecificStateMask := by
  have hcheck : t.startCommand.checkBusy.ecp.resp.respOp ≠ .vendorSpecificStateMask := by
    simp only [EslTag.checkBusy]
    split <;> rintro ⟨⟩
  by_cases hlen : buf.len = ecpLen (buf.data 0)
  · by_cases hvendor : buf.data 0 &&& vendorSpecificStateMask = vendorSpecificStateMask
        ∧ cfg.vendorSpecificSupport = false
    · simp only [EslTag.executeCommand]
      rw [if_neg (not_not.mpr hlen), if_pos hvendor]
      rintro ⟨⟩
    · by_cases hid : buf.data 1 = t.assoc.eslAddr.eslId ∨ buf.data 1 = eslAddrBroadcast
      · have hbusy : t.ecp.busy = true := by
          by_contra hb
          exact h ⟨hlen, hid, hvendor, by simpa using hb⟩
        rw [EslTag.executeCommand_busy hlen hid hvendor hbusy]
        rintro ⟨⟩
      · have hforeign : buf.data 1 ≠ t.startCommand.assoc.eslAddr.eslId
            ∧ buf.data 1 ≠ eslAddrBroadcast := not_or.mp hid
        simp only [EslTag.executeCommand]
        rw [if_neg (not_not.mpr hlen), if_neg hvendor, if_pos hforeign]
        rintro ⟨⟩
  · simp only [EslTag.executeCommand]
    rw [if_pos hlen]
    rintro ⟨⟩

/-- **Which commands the vendor callback gets**: those of an unknown opcode with a bit of the mask
set that reach the switch, if there is a callback. -/
lemma callsVendor_iff :
    CallsVendor cfg buf t ↔ t.ReachesSwitch cfg buf ∧ EslOpCode.ofByte? (buf.data 0) = none
      ∧ buf.data 0 &&& vendorSpecificStateMask ≠ 0 ∧ cfg.hasVsCommandHandler = true := by
  by_cases hsw : t.ReachesSwitch cfg buf
  · rw [CallsVendor, hsw.executeCommand, and_iff_right hsw]
    have hresp : t.startCommand.ecp.resp.respOp ≠ .vendorSpecificStateMask := by
      rintro ⟨⟩
    cases hop : EslOpCode.ofByte? (buf.data 0) with
    | some op => simpa using respOp_commandSwitch_ne_vendor hop hresp
    | none =>
        simp only [EslTag.commandSwitch, hop, EslTag.opDefault, true_and]
        split_ifs with hmask hcb
        · exact iff_of_true rfl ⟨hmask, hcb⟩
        · exact iff_of_false hresp fun h => hcb h.2
        · exact iff_of_false (by rintro ⟨⟩) fun h => hmask h.1
  · exact iff_of_false (respOp_ne_vendor_of_not_reachesSwitch hsw) fun h => hsw h.1

/-! ## Unknown opcodes -/

/-- An unknown opcode the tag does not take is not answered, or with Retry. -/
lemma not_answersInvalid_of_not_takes (hlen : buf.len = ecpLen (buf.data 0))
    (hknown : ¬ IsKnown (buf.data 0)) (htakes : ¬ TakesCommand buf t) :
    ¬ AnswersInvalid cfg buf t := by
  have hvendor : ¬ (buf.data 0 &&& vendorSpecificStateMask = vendorSpecificStateMask
      ∧ cfg.vendorSpecificSupport = false) := fun h => hknown (.inr h.1)
  by_cases hid : buf.data 1 = t.assoc.eslAddr.eslId ∨ buf.data 1 = eslAddrBroadcast
  · have hbusy : t.ecp.busy = true := by
      by_contra hb
      exact htakes ⟨hid, by simpa using hb⟩
    rw [AnswersInvalid, EslTag.executeCommand_busy hlen hid hvendor hbusy]
    rintro ⟨-, -, ⟨⟩⟩
  · have hforeign : buf.data 1 ≠ t.startCommand.assoc.eslAddr.eslId
        ∧ buf.data 1 ≠ eslAddrBroadcast := not_or.mp hid
    simp only [AnswersInvalid, EslTag.executeCommand]
    rw [if_neg (not_not.mpr hlen), if_neg hvendor, if_pos hforeign]
    rintro ⟨⟨⟩, -⟩

/-- **Which unknown opcodes are answered with Invalid Opcode.** -/
lemma answersInvalid_iff (hlen : buf.len = ecpLen (buf.data 0)) (hknown : ¬ IsKnown (buf.data 0)) :
    AnswersInvalid cfg buf t
      ↔ buf.data 0 &&& vendorSpecificStateMask = 0 ∧ TakesCommand buf t := by
  by_cases htakes : TakesCommand buf t
  · have hsw : t.ReachesSwitch cfg buf :=
      (reachesSwitch_iff hlen).mpr ⟨htakes, fun h => hknown (.inr h.1)⟩
    have hop : EslOpCode.ofByte? (buf.data 0) = none := by
      by_contra hne
      exact hknown (.inl (Option.isSome_iff_ne_none.mpr hne))
    rw [AnswersInvalid, hsw.executeCommand, and_iff_left htakes]
    simp only [EslTag.commandSwitch, hop, EslTag.opDefault, true_and]
    split_ifs with hmask hcb
    · refine iff_of_false ?_ hmask
      rintro ⟨⟨⟩, -⟩
    · refine iff_of_false ?_ hmask
      rintro ⟨⟨⟩, -⟩
    · exact iff_of_true ⟨rfl, rfl⟩ (not_not.mp hmask)
  · exact iff_of_false (not_answersInvalid_of_not_takes hlen hknown htakes) fun h => htakes h.2

end Classification

/-- **A command of its declared length is classified as its opcode says** exactly when the opcode is
one of the eleven or vendor-specific, or its low nibble is zero and the tag takes the command. -/
theorem classifiesOpcode_iff (cfg : Config) (t : EslTag) (buf : NetBuf)
    (hlen : buf.len = ecpLen (buf.data 0)) :
    ClassifiesOpcode cfg buf t ↔ IsKnown (buf.data 0)
      ∨ (buf.data 0 &&& vendorSpecificStateMask = 0 ∧ TakesCommand buf t) := by
  by_cases hknown : IsKnown (buf.data 0)
  · refine iff_of_true ⟨fun h => absurd hknown h, fun hcall => ?_⟩ (.inl hknown)
    obtain ⟨hsw, hop, -⟩ := callsVendor_iff.mp hcall
    have hvendor : IsVendorSpecific (buf.data 0) := by
      refine hknown.resolve_left ?_
      rw [hop]
      exact Bool.false_ne_true
    exact ⟨hvendor, by simpa [hvendor] using ((reachesSwitch_iff hlen).mp hsw).2⟩
  · have hiff : AnswersInvalid cfg buf t
        ↔ buf.data 0 &&& vendorSpecificStateMask = 0 ∧ TakesCommand buf t :=
      answersInvalid_iff hlen hknown
    constructor
    · intro h
      exact .inr (hiff.mp (h.unknown hknown))
    · rintro (h | h)
      · exact absurd h hknown
      · refine ⟨fun _ => hiff.mpr h, fun hcall => ?_⟩
        exact absurd h.1 (callsVendor_iff.mp hcall).2.2.1

/-- Opcode 0x30 over broadcast is classified: it is unknown and answered so. -/
theorem classifiesOpcode_unknown :
    ClassifiesOpcode .sample (.ofBytes [0x30, 0xFF, 0, 0, 0] fun _ => 0)
      (TagDevice.boot .sample {}).tag :=
  (classifiesOpcode_iff .sample _ (.ofBytes [0x30, 0xFF, 0, 0, 0] fun _ => 0) (by decide)).mpr
    (.inr (by decide +kernel))

/-- Opcode 0x05 is answered with Basic State by a build without vendor support, and handed to the
vendor callback if there is one. -/
theorem classifiesOpcode_fails :
    ¬ ClassifiesOpcode .sample (.ofBytes [0x05, 0xFF] fun _ => 0) (TagDevice.boot .sample {}).tag
    ∧ CallsVendor { Config.sample with hasVsCommandHandler := true }
        (.ofBytes [0x05, 0xFF] fun _ => 0) (TagDevice.boot .sample {}).tag
    ∧ ¬ ClassifiesOpcode { Config.sample with hasVsCommandHandler := true }
        (.ofBytes [0x05, 0xFF] fun _ => 0) (TagDevice.boot .sample {}).tag := by
  have hunknown : ¬ IsKnown 0x05 := by decide
  refine ⟨fun h => ?_, by unfold CallsVendor; decide +kernel, fun h => ?_⟩
  · have hanswer := (h.unknown hunknown).2.1
    revert hanswer
    decide +kernel
  · have hanswer := (h.unknown hunknown).2.1
    revert hanswer
    decide +kernel

end NrfEsl
