import NrfEsl.Common
import NrfEsl.Lib.Text
import NrfEsl.Lib.Tiling
import NrfEsl.Lib.TransitionSystem

/-!
# The TLV generator

The desktop tool that composes a command line for the access point.  `TLV_ADD` reads the input fields
and appends a TLV to `TLV_BYTES`; `gen_command` prints the line.  A field is read when it is needed:
a number that cannot be read, or that does not fit, raises an exception, and what was appended before
stays (`appendAll`).  The input masks admit digits only.

`collects_of_run` says what a **sequence of accepted TLVs** leaves: their bytes one after the other, the sum
of their declared lengths, and at most one response key each.
-/

namespace NrfEsl

open Text TransitionSystem

/-! ## Fields -/

/-- The entries of `comboCommand`. -/
inductive TlvCommand
  | ping | unassociated | serviceReset | factoryReset | readSensor | refreshDisplay | displayImage
  | displayTimedImage | ledControl | ledTimedControl | vendorSpecificTag
  deriving DecidableEq, Repr

/-- `comboCommand.currentData()` -/
def TlvCommand.opCode : TlvCommand → UInt8
  | .ping => 0x00
  | .unassociated => 0x01
  | .serviceReset => 0x02
  | .factoryReset => 0x03
  | .readSensor => 0x10
  | .refreshDisplay => 0x11
  | .displayImage => 0x20
  | .displayTimedImage => 0x60
  | .ledControl => 0xb0
  | .ledTimedControl => 0xf0
  | .vendorSpecificTag => 0xff

/-- The input fields of the window. -/
structure TlvFields where
  /-- Nothing is selected at the start. -/
  comboCommand : Option TlvCommand
  txtEslId : List Char
  txtGroupId : List Char
  txtSensorIdx : List Char
  txtDispidx : List Char
  txtImgidx : List Char
  txtDispAbsTime : List Char
  txtLedIdx : List Char
  boxBrightness : ℕ
  boxBlue : ℕ
  boxGreen : ℕ
  boxRed : ℕ
  /-- The 40 boxes of `led_flashing_pattern_box_list`. -/
  flashingPattern : BitVec 40
  txtOffperiod : List Char
  txtOnperiod : List Char
  boxRepeatType : ℕ
  txtRepeatDuration : List Char
  txtAbsTime : List Char
  boxRspKey : Bool
  txtRespKey : List Char

/-! ## The parameters of a TLV

`none` stands for an exception. -/

/-- `TLV_BYTES.append` of a number that has been read. -/
def appendByte (n? : Option ℕ) : Option (List UInt8) :=
  match n? with
  | some n => if n < 256 then some [UInt8.ofNat n] else none
  | none => none

/-- `to_bytes(len, 'little')` -/
def toBytesLittle (len : ℕ) (n? : Option ℕ) : Option (List UInt8) :=
  match n? with
  | some n =>
      if n < 256 ^ len then some ((List.range len).map fun i => UInt8.ofNat (n / 256 ^ i)) else none
  | none => none

/-- `int(text, 16) & 0xff` -/
def hexField (text : List Char) : Option ℕ := (number? 16 text).map (· &&& 0xff)

namespace TlvFields

def colorBrightness (f : TlvFields) : ℕ :=
  ((f.boxBrightness &&& 0x3) <<< 6) ||| ((f.boxBlue &&& 0x3) <<< 4) ||| ((f.boxGreen &&& 0x3) <<< 2)
    ||| (f.boxRed &&& 0x3)

def repeatData (f : TlvFields) : Option ℕ :=
  (number? 16 f.txtRepeatDuration).map fun n =>
    (f.boxRepeatType &&& 0x01) ||| ((n &&& 0x7fff) <<< 1)

/-- The parameters of both LED commands.  The repeat data is read first and appended last. -/
def ledParams (f : TlvFields) : List (Option (List UInt8)) :=
  [ f.repeatData.map fun _ => []
  , appendByte (hexField f.txtLedIdx)
  , appendByte (some f.colorBrightness)
  , toBytesLittle 5 (some f.flashingPattern.toNat)
  , appendByte (hexField f.txtOffperiod)
  , appendByte (hexField f.txtOnperiod)
  , toBytesLittle 2 f.repeatData ]

/-- What is appended behind the opcode and the ESL ID, piece by piece.  The indices of Read Sensor
and Refresh Display are read as decimal numbers. -/
def params (f : TlvFields) : TlvCommand → List (Option (List UInt8))
  | .readSensor => [appendByte (number? 10 f.txtSensorIdx)]
  | .refreshDisplay => [appendByte (number? 10 f.txtDispidx)]
  | .displayImage => [appendByte (hexField f.txtDispidx), appendByte (hexField f.txtImgidx)]
  | .displayTimedImage =>
      [ appendByte (hexField f.txtDispidx)
      , appendByte (hexField f.txtImgidx)
      , toBytesLittle 4 (number? 16 f.txtDispAbsTime) ]
  | .ledControl => f.ledParams
  | .ledTimedControl => f.ledParams ++ [toBytesLittle 4 (number? 16 f.txtAbsTime)]
  | .ping | .unassociated | .serviceReset | .factoryReset | .vendorSpecificTag => []

end TlvFields

/-! ## The generator -/

/-- The globals of the script. -/
structure TlvGenerator where
  tlvCount : ℕ
  tlvTotalLength : ℕ
  tlvBytes : List UInt8
  rspKeyBytes : List (List Char)

/-- How `TLV_ADD` ends. -/
inductive TlvAdd
  | accepted
  /-- The total length would be over 48 bytes. -/
  | refused
  /-- An exception. -/
  | raised
  deriving DecidableEq, Repr

/-- `TLV_MAX_LENGTH` -/
def tlvMaxLength : ℕ := 48

/-- `ESL_BROADCAST_ID` -/
def eslBroadcastId : ℕ := 0xff

/-- `ESL_AP_PUSH_BUF_CMD` -/
def eslApPushBufCmd : List Char := "esl_c pawr push_sync_buf".toList

/-- `current_tlv_length` -/
def currentTlvLength (opCode : UInt8) : ℕ := ((opCode &&& 0xf0) >>> 4).toNat + 2

/-- Append the pieces up to the first exception. -/
def appendAll (bytes : List UInt8) : List (Option (List UInt8)) → List UInt8 × Bool
  | [] => (bytes, true)
  | some piece :: pieces => appendAll (bytes ++ piece) pieces
  | none :: _ => (bytes, false)

namespace TlvGenerator

/-- The state at the start and after `reset_tlv`. -/
def empty : TlvGenerator := ⟨0, 0, [], []⟩

/-- `TLV_ADD` -/
def tlvAdd (f : TlvFields) (s : TlvGenerator) : TlvGenerator × TlvAdd :=
  match hexField f.txtEslId, f.comboCommand, hexField f.txtGroupId with
  | some eslId, some command, some _ =>
      let currentTlvLength := currentTlvLength command.opCode
      if tlvMaxLength < currentTlvLength + s.tlvTotalLength then (s, .refused)
      else
        let r := appendAll (s.tlvBytes ++ [command.opCode, UInt8.ofNat eslId]) (f.params command)
        let s :=
          { s with
            tlvBytes := r.1
            tlvTotalLength := s.tlvTotalLength + currentTlvLength
            tlvCount := s.tlvCount + 1 }
        if r.2 = false then (s, .raised)
        else if f.boxRspKey = true ∧ eslId ≠ eslBroadcastId then
          ({ s with rspKeyBytes := s.rspKeyBytes ++ [f.txtRespKey] }, .accepted)
        else (s, .accepted)
  | _, _, _ => (s, .raised)

/-- `gen_command`: the line it puts into the clipboard. -/
def genCommand (txtGroupId : List Char) (s : TlvGenerator) : Option (List Char) :=
  (hexField txtGroupId).map fun groupId =>
    eslApPushBufCmd ++ ' ' :: (Nat.toDigits 10 groupId ++ ' ' :: (toHex s.tlvBytes ++ ' ' ::
      s.rspKeyBytes.flatMap (· ++ [' '])))

/-- A TLV that is accepted. -/
def add (s : TlvGenerator) (f : TlvFields) : Option TlvGenerator :=
  if (s.tlvAdd f).2 = .accepted then some (s.tlvAdd f).1 else none

end TlvGenerator

/-! ## The TLV of the fields -/

namespace TlvFields

/-- The TLV that `TLV_ADD` appends, if it raises no exception. -/
def tlv (f : TlvFields) : List UInt8 :=
  match f.comboCommand with
  | some command => command.opCode :: UInt8.ofNat ((hexField f.txtEslId).getD 0)
      :: ((f.params command).map (·.getD [])).flatten
  | none => []

/-- The length the TLV declares. -/
def declaredLength (f : TlvFields) : ℕ :=
  match f.comboCommand with
  | some command => currentTlvLength command.opCode
  | none => 0

end TlvFields

/-- Without an exception every piece is appended. -/
lemma appendAll_of_snd {bytes : List UInt8} {pieces : List (Option (List UInt8))}
    (h : (appendAll bytes pieces).2 = true) :
    (appendAll bytes pieces).1 = bytes ++ (pieces.map (·.getD [])).flatten
      ∧ ∀ piece ∈ pieces, piece.isSome := by
  induction pieces generalizing bytes with
  | nil => exact ⟨(List.append_nil bytes).symm, by rintro _ ⟨⟩⟩
  | cons piece pieces ih =>
      cases piece with
      | none => cases h
      | some piece =>
          obtain ⟨hbytes, hsome⟩ := ih h
          refine ⟨?_, ?_⟩
          · show (appendAll (bytes ++ piece) pieces).1 = _
            rw [hbytes, List.append_assoc]
            rfl
          · intro p hp
            rcases List.mem_cons.mp hp with rfl | hp
            · rfl
            · exact hsome p hp

/-- What `TLV_ADD` does to the globals when it accepts a TLV. -/
structure Accepts (f : TlvFields) (s s' : TlvGenerator) : Prop where
  command : ∃ command, f.comboCommand = some command ∧ ∀ piece ∈ f.params command, piece.isSome
  fits : f.declaredLength + s.tlvTotalLength ≤ tlvMaxLength
  bytes : s'.tlvBytes = s.tlvBytes ++ f.tlv
  total : s'.tlvTotalLength = s.tlvTotalLength + f.declaredLength
  keys : ∃ keys, keys.length ≤ 1 ∧ s'.rspKeyBytes = s.rspKeyBytes ++ keys

namespace TlvGenerator

lemma accepts_of_add {f : TlvFields} {s s' : TlvGenerator} (h : s.add f = some s') :
    Accepts f s s' := by
  simp only [add, Option.ite_none_right_eq_some, Option.some_inj] at h
  obtain ⟨hacc, rfl⟩ := h
  unfold tlvAdd at hacc ⊢
  split at hacc
  · rename_i eslId command _ hid hcommand hgroup
    dsimp only at hacc ⊢
    split at hacc
    · cases hacc
    · rename_i hfits
      rw [if_neg hfits]
      split at hacc
      · cases hacc
      · rename_i hok
        rw [if_neg hok]
        obtain ⟨hbytes, hsome⟩ := appendAll_of_snd (Bool.of_not_eq_false hok)
        have htlv : (appendAll (s.tlvBytes ++ [command.opCode, UInt8.ofNat eslId])
            (f.params command)).1 = s.tlvBytes ++ f.tlv := by
          rw [hbytes, TlvFields.tlv, hcommand, hid, List.append_assoc]
          rfl
        have hlen : f.declaredLength = currentTlvLength command.opCode := by
          rw [TlvFields.declaredLength, hcommand]
        have hfits' := Nat.not_lt.mp hfits
        rw [← hlen] at hfits' ⊢
        split
        · exact ⟨⟨command, hcommand, hsome⟩, hfits', htlv, rfl, [f.txtRespKey], Nat.le_refl 1, rfl⟩
        · exact ⟨⟨command, hcommand, hsome⟩, hfits', htlv, rfl, [], Nat.zero_le 1,
            (List.append_nil _).symm⟩
  · cases hacc

/-- What a sequence of accepted TLVs adds to the globals. -/
structure Collects (fs : List TlvFields) (s s' : TlvGenerator) : Prop where
  bytes : s'.tlvBytes = s.tlvBytes ++ (fs.map (·.tlv)).flatten
  total : s'.tlvTotalLength = s.tlvTotalLength + (fs.map (·.declaredLength)).sum
  fits : s.tlvTotalLength ≤ tlvMaxLength → s'.tlvTotalLength ≤ tlvMaxLength
  keys : s'.rspKeyBytes.length ≤ s.rspKeyBytes.length + fs.length
  commands : ∀ f ∈ fs, ∃ command, f.comboCommand = some command
    ∧ ∀ piece ∈ f.params command, piece.isSome

/-- **A sequence of accepted TLVs.** -/
theorem collects_of_run {fs : List TlvFields} {s s' : TlvGenerator} (h : run add s fs = some s') :
    Collects fs s s' := by
  induction fs generalizing s with
  | nil =>
      cases h
      exact ⟨(List.append_nil _).symm, rfl, id, Nat.le_refl _, by rintro _ ⟨⟩⟩
  | cons f fs ih =>
      obtain ⟨s₁, hadd, hrun⟩ := Option.bind_eq_some_iff.mp h
      have hf := accepts_of_add hadd
      have hfs := ih hrun
      have htotal := hf.total
      have hfits := hf.fits
      refine ⟨?_, ?_, ?_, ?_, ?_⟩
      · rw [hfs.bytes, hf.bytes, List.append_assoc]
        rfl
      · rw [hfs.total, htotal, List.map_cons, List.sum_cons, Nat.add_assoc]
      · intro _
        exact hfs.fits (by omega)
      · obtain ⟨keys, hone, hkeys⟩ := hf.keys
        have hlen := hfs.keys
        rw [hkeys, List.length_append] at hlen
        rw [List.length_cons]
        omega
      · intro f' hf'
        rcases List.mem_cons.mp hf' with rfl | hf'
        · exact hf.command
        · exact hfs.commands f' hf'

end TlvGenerator

/-! ## Lengths -/

section Length

variable {f : TlvFields} {command : TlvCommand}

lemma length_appendByte {n? : Option ℕ} (h : (appendByte n?).isSome) :
    ((appendByte n?).getD []).length = 1 := by
  unfold appendByte at h ⊢
  split at h
  · split at h
    · rename_i hn
      rw [if_pos hn]
      rfl
    · cases h
  · cases h

lemma length_toBytesLittle {len : ℕ} {n? : Option ℕ} (h : (toBytesLittle len n?).isSome) :
    ((toBytesLittle len n?).getD []).length = len := by
  unfold toBytesLittle at h ⊢
  split at h
  · split at h
    · rename_i hn
      rw [if_pos hn]
      exact (List.length_map _).trans List.length_range
    · cases h
  · cases h

lemma length_ledParams (h : ∀ piece ∈ f.ledParams, piece.isSome) :
    ((f.ledParams.map (·.getD [])).flatten).length = 11 := by
  simp only [TlvFields.ledParams, List.forall_mem_cons] at h
  obtain ⟨hrepeat, hidx, hcolor, hpattern, hoff, hon, hdata, -⟩ := h
  have hnone : ((f.repeatData.map fun _ => ([] : List UInt8)).getD []).length = 0 := by
    cases f.repeatData <;> rfl
  simp only [TlvFields.ledParams, List.map_cons, List.map_nil, List.flatten_cons, List.flatten_nil,
    List.length_append, hnone, length_appendByte hidx, length_appendByte hcolor,
    length_toBytesLittle hpattern, length_appendByte hoff, length_appendByte hon,
    length_toBytesLittle hdata, List.length_nil]

/-- The bytes of the parameters. -/
lemma length_params (h : ∀ piece ∈ f.params command, piece.isSome)
    (hvendor : command ≠ .vendorSpecificTag) :
    (((f.params command).map (·.getD [])).flatten).length + 2 = currentTlvLength command.opCode := by
  cases command with
  | ping | unassociated | serviceReset | factoryReset => rfl
  | vendorSpecificTag => exact absurd rfl hvendor
  | readSensor | refreshDisplay =>
      simp only [TlvFields.params, List.forall_mem_cons] at h
      simp only [TlvFields.params, List.map_cons, List.map_nil, List.flatten_cons,
        List.flatten_nil, List.length_append, length_appendByte h.1]
      decide
  | displayImage =>
      simp only [TlvFields.params, List.forall_mem_cons] at h
      simp only [TlvFields.params, List.map_cons, List.map_nil, List.flatten_cons,
        List.flatten_nil, List.length_append, length_appendByte h.1, length_appendByte h.2.1]
      decide
  | displayTimedImage =>
      simp only [TlvFields.params, List.forall_mem_cons] at h
      simp only [TlvFields.params, List.map_cons, List.map_nil, List.flatten_cons,
        List.flatten_nil, List.length_append, length_appendByte h.1, length_appendByte h.2.1,
        length_toBytesLittle h.2.2.1]
      decide
  | ledControl =>
      have hled := length_ledParams (f := f) h
      simp only [TlvFields.params, hled]
      decide
  | ledTimedControl =>
      simp only [TlvFields.params, List.forall_mem_append, List.forall_mem_cons] at h
      have hled := length_ledParams (f := f) h.1
      simp only [TlvFields.params, List.map_append, List.flatten_append, List.length_append, hled,
        List.map_cons, List.map_nil, List.flatten_cons, List.flatten_nil, length_toBytesLittle h.2.1]
      decide

lemma length_tlv_of_params (hcommand : f.comboCommand = some command) :
    f.tlv.length = (((f.params command).map (·.getD [])).flatten).length + 2 := by
  rw [TlvFields.tlv, hcommand]
  rfl

/-- **The TLVs are as long as they declare**, but for the vendor-specific one, which has no
parameters. -/
lemma isItem_tlv_iff (hcommand : f.comboCommand = some command)
    (h : ∀ piece ∈ f.params command, piece.isSome) :
    Tiling.IsItem ecpLen f.tlv ↔ command ≠ .vendorSpecificTag := by
  have hitem : Tiling.IsItem ecpLen f.tlv ↔ f.tlv.length = currentTlvLength command.opCode := by
    rw [TlvFields.tlv, hcommand]
    exact Iff.rfl
  rw [hitem, length_tlv_of_params hcommand]
  constructor
  · rintro hlen rfl
    have hlen' : 2 = currentTlvLength TlvCommand.vendorSpecificTag.opCode := hlen
    exact absurd hlen' (by decide)
  · exact length_params h

/-- No TLV is longer than it declares. -/
lemma length_tlv_le (hcommand : f.comboCommand = some command)
    (h : ∀ piece ∈ f.params command, piece.isSome) : f.tlv.length ≤ f.declaredLength := by
  rw [length_tlv_of_params hcommand, TlvFields.declaredLength, hcommand]
  by_cases hvendor : command = .vendorSpecificTag
  · subst hvendor
    have hle : 2 ≤ currentTlvLength TlvCommand.vendorSpecificTag.opCode := by decide
    exact hle
  · exact Nat.le_of_eq (length_params h hvendor)

end Length

end NrfEsl
