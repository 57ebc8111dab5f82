import Mathlib.Data.List.Forall2
import NrfEsl.Ap.PushCommand
import NrfEsl.Gui.TlvGenerator

/-!
# From the generator to the sync buffer

The line that `gen_command` prints is meant for `cmd_pawr_push_sync_buf`: the group, the TLVs and the
response keys that were put in should come out in the buffer of that group.  The two ends disagree on
five points.

* The group is printed in decimal and read in hexadecimal (`strtol_toDigits_iff`).
* The limit of 48 bytes is kept without the group byte by one and with it by the other.
* The handler takes a single key for none (`4 < argc`).
* A vendor-specific TLV declares 17 bytes and has two.
* Without a TLV the payload is missing, and the line with it.

`delivers_iff` — **otherwise the line delivers what was put in**.
-/

namespace NrfEsl

open Text TransitionSystem

/-! ## Specification -/

/-- The access point after the handler of the command ran on a line. -/
def Ap.runLine (cfg : ApConfig) (ead : Ead) (z : ZephyrShell) (c : ℕ) (rnd : Randomness)
    (stack : Mem) (line : List Char) (s : Ap) : Ap :=
  match s.cmdPawrPushSyncBuf cfg ead z c rnd stack (z.argv line) with
  | .ok s' => s'
  | .error _ => s

/-- The TLVs and the keys are delivered to the group. -/
structure Delivers (cfg : ApConfig) (ead : Ead) (rnd : Randomness) (g : UInt8)
    (tlvs : List (List UInt8)) (keys : List KeyMaterial) (s s' : Ap) : Prop where
  /-- That group, and no other, gets the group ID and the TLVs, -/
  pushes : s.Pushes ead rnd g.toNat (g :: tlvs.flatten) s'
  /-- which fit in a packet -/
  fits : (g :: tlvs.flatten).length ≤ eslSyncPktPayloadMaxLen
  /-- and have the lengths they declare. -/
  tiles : ∀ tlv ∈ tlvs, Tiling.IsItem ecpLen tlv
  /-- Its first response slots get the keys, in order. -/
  keys : ∀ idx < cfg.maxResponseSlotBuffer, ∀ k, keys[idx]? = some k →
    ((s'.syncBuf g.toNat).rspBuffer idx).rspKey = k

/-- What was put in avoids the points on which the two ends disagree. -/
structure Deliverable (g : UInt8) (fs : List TlvFields) (keys : List KeyMaterial) (s : Ap) :
    Prop where
  tlvs : fs ≠ []
  group : g.toNat < 10
  total : (fs.map (·.declaredLength)).sum < tlvMaxLength
  known : ∀ f ∈ fs, f.comboCommand ≠ some .vendorSpecificTag
  /-- There is not one key, unless the slot has it already. -/
  keys : ∀ k, keys = [k] → ((s.syncBuf g.toNat).rspBuffer 0).rspKey = k

/-! ## The line -/

/-- **The group is read back** if it has one digit. -/
lemma strtol_toDigits_iff (g : UInt8) :
    UInt8.ofInt (strtol 16 (Nat.toDigits 10 g.toNat)) = g ↔ g.toNat < 10 :=
  forall_uint8 (P := fun g =>
    UInt8.ofInt (strtol 16 (Nat.toDigits 10 g.toNat)) = g ↔ g.toNat < 10) (by decide +kernel) g

/-- The decimal digits of a byte. -/
lemma toDigits_byte (g : UInt8) :
    ((Nat.toDigits 10 g.toNat).all fun c => decide (IsPlain c ∧ c ≠ ' ')) = true
      ∧ Nat.toDigits 10 g.toNat ≠ [] ∧ (Nat.toDigits 10 g.toNat).length ≤ 3 :=
  forall_uint8 (P := fun g =>
    ((Nat.toDigits 10 g.toNat).all fun c => decide (IsPlain c ∧ c ≠ ' ')) = true
      ∧ Nat.toDigits 10 g.toNat ≠ [] ∧ (Nat.toDigits 10 g.toNat).length ≤ 3) (by decide +kernel) g

lemma plain_toDigits {g : UInt8} {c : Char} (hc : c ∈ Nat.toDigits 10 g.toNat) :
    IsPlain c ∧ c ≠ ' ' :=
  of_decide_eq_true (List.all_eq_true.mp (toDigits_byte g).1 c hc)

lemma isWord_toDigits (g : UInt8) : IsWord (Nat.toDigits 10 g.toNat) :=
  ⟨(toDigits_byte g).2.1, fun _ hc => (plain_toDigits hc).2⟩

/-- A hexadecimal digit is plain and no blank. -/
lemma plain_of_digit? {c : Char} (h : (digit? 16 c).isSome) : IsPlain c ∧ c ≠ ' ' := by
  have halnum : c.isAlphanum = true := by
    show (decide (c.val ≥ 'A'.val ∧ c.val ≤ 'Z'.val)
      || decide (c.val ≥ 'a'.val) && decide (c.val ≤ 'z'.val)
      || decide (c.val ≥ '0'.val) && decide (c.val ≤ '9'.val)) = true
    simp only [digit?, Char.le_def] at h
    split_ifs at h <;> grind
  refine ⟨.inr (.inr halnum), ?_⟩
  rintro rfl
  revert halnum
  decide

lemma plain_of_ofHex? {text : List Char} {bytes : List UInt8} (h : ofHex? text = some bytes) :
    ∀ c ∈ text, IsPlain c ∧ c ≠ ' ' := by
  fun_induction ofHex? text generalizing bytes with
  | case1 => rintro _ ⟨⟩
  | case2 c => cases h
  | case3 hi lo text hi' lo' bytes' hbytes hlo hhi ih =>
      intro c hc
      rcases List.mem_cons.mp hc with rfl | hc
      · exact plain_of_digit? (Option.isSome_of_mem hhi)
      rcases List.mem_cons.mp hc with rfl | hc
      · exact plain_of_digit? (Option.isSome_of_mem hlo)
      · exact ih hbytes c hc
  | case4 => cases h

/-- Text of some bytes is a word. -/
lemma isWord_of_ofHex? {text : List Char} {bytes : List UInt8} (h : ofHex? text = some bytes)
    (hne : bytes ≠ []) : IsWord text := by
  refine ⟨?_, fun c hc => (plain_of_ofHex? h c hc).2⟩
  rintro rfl
  exact hne (Option.some.inj h).symm

lemma keyV_ne_nil (k : KeyMaterial) : k.keyV ≠ [] := by
  intro h
  have hlen := k.length_keyV
  rw [h] at hlen
  cases hlen

section Line

variable {g : UInt8} {bytes : List UInt8} {texts : List (List Char)} {keys : List KeyMaterial}

/-- The line for a group, a payload and the texts of the keys. -/
def commandLine (g : UInt8) (bytes : List UInt8) (texts : List (List Char)) : List Char :=
  eslApPushBufCmd ++ ' ' :: (Nat.toDigits 10 g.toNat ++ ' ' :: (toHex bytes ++ ' ' ::
    texts.flatMap (· ++ [' '])))

lemma genCommand_eq_some {txtGroupId line : List Char} {s : TlvGenerator} {g : UInt8}
    (hg : hexField txtGroupId = some g.toNat) (h : s.genCommand txtGroupId = some line) :
    line = commandLine g s.tlvBytes s.rspKeyBytes := by
  rw [TlvGenerator.genCommand, hg] at h
  exact (Option.some.inj h).symm

lemma isWord_of_isKeyText (hkeys : List.Forall₂ Ap.IsKeyText texts keys) :
    ∀ text ∈ texts, IsWord text := by
  induction hkeys with
  | nil => rintro _ ⟨⟩
  | cons hk _ ih =>
      intro text htext
      rcases List.mem_cons.mp htext with rfl | htext
      · exact isWord_of_ofHex? hk (keyV_ne_nil _)
      · exact ih text htext

/-- What the shell gets to split. -/
lemma words_commandLine (hkeys : List.Forall₂ Ap.IsKeyText texts keys) :
    words (commandLine g bytes texts)
      = "esl_c".toList :: "pawr".toList :: "push_sync_buf".toList :: Nat.toDigits 10 g.toNat
          :: (if bytes = [] then texts else toHex bytes :: texts) := by
  have hcmd : words eslApPushBufCmd
      = ["esl_c".toList, "pawr".toList, "push_sync_buf".toList] := by decide
  have htexts : words (texts.flatMap (· ++ [' '])) = texts :=
    words_flatMap (isWord_of_isKeyText hkeys)
  have hpayload : words (toHex bytes ++ ' ' :: texts.flatMap (· ++ [' ']))
      = if bytes = [] then texts else toHex bytes :: texts := by
    split
    · rename_i hnil
      rw [hnil, toHex_nil, List.nil_append, words_blank, htexts]
    · rename_i hne
      rw [words_append_blank (isWord_of_ofHex? (ofHex?_toHex bytes) hne), htexts]
  rw [commandLine, words_append, hcmd, words_append_blank (isWord_toDigits g), hpayload]
  rfl

lemma plain_commandLine (hkeys : List.Forall₂ Ap.IsKeyText texts keys) :
    ∀ c ∈ commandLine g bytes texts, IsPlain c := by
  have htexts : ∀ c ∈ texts.flatMap (· ++ [' ']), IsPlain c := by
    induction hkeys with
    | nil => rintro _ ⟨⟩
    | cons hk _ ih =>
        intro c hc
        rw [List.flatMap_cons, List.mem_append, List.mem_append, List.mem_singleton] at hc
        rcases hc with (hc | rfl) | hc
        · exact (plain_of_ofHex? hk c hc).1
        · exact .inl rfl
        · exact ih c hc
  have hcmd : (eslApPushBufCmd.all fun c => decide (IsPlain c)) = true := by decide
  intro c hc
  simp only [commandLine, List.mem_append, List.mem_cons] at hc
  rcases hc with hc | rfl | hc | rfl | hc | rfl | hc
  · exact of_decide_eq_true (List.all_eq_true.mp hcmd c hc)
  · exact .inl rfl
  · exact (plain_toDigits hc).1
  · exact .inl rfl
  · exact (plain_of_ofHex? (ofHex?_toHex bytes) c hc).1
  · exact .inl rfl
  · exact htexts c hc

lemma length_commandLine (hkeys : List.Forall₂ Ap.IsKeyText texts keys) :
    (commandLine g bytes texts).length ≤ 30 + 2 * bytes.length + 49 * keys.length := by
  have htexts : (texts.flatMap (· ++ [' '])).length = 49 * keys.length := by
    induction hkeys with
    | nil => rfl
    | cons hk _ ih =>
        have hlen := length_of_ofHex? hk
        rw [KeyMaterial.length_keyV] at hlen
        simp only [List.flatMap_cons, List.length_append, List.length_cons, List.length_nil, ih, hlen]
        omega
  have hcmd : eslApPushBufCmd.length = 24 := by decide
  have hgroup := (toDigits_byte g).2.2
  simp only [commandLine, List.length_append, List.length_cons, hcmd, length_toHex, htexts]
  omega

/-- **The handler gets what was put in**, if that is little enough for the shell. -/
lemma argv_commandLine (z : ZephyrShell) (hkeys : List.Forall₂ Ap.IsKeyText texts keys)
    (hbytes : bytes.length < tlvMaxLength) (hfew : 2 * keys.length ≤ bytes.length) :
    z.argv (commandLine g bytes texts) = "push_sync_buf".toList :: Nat.toDigits 10 g.toNat
      :: (if bytes = [] then texts else toHex bytes :: texts) := by
  have hlen : (commandLine g bytes texts).length ≤ 30 + 2 * bytes.length + 49 * keys.length :=
    length_commandLine hkeys
  have hmax : bytes.length < 48 := hbytes
  refine z.argv_of_words (plain_commandLine hkeys) ?_ (words_commandLine hkeys) ?_
  · show _ < 1282
    omega
  · have htexts := hkeys.length_eq
    show _ ≤ 48
    split <;> simp only [List.length_cons] <;> omega

end Line

/-! ## The handler -/

section Handler

variable {cfg : ApConfig} {ead : Ead} {c : ℕ} {rnd : Randomness} {stack : Mem} {g : UInt8}
  {bytes : List UInt8} {texts : List (List Char)} {keys : List KeyMaterial} {s : Ap}

/-- The local buffer of the handler has the keys of the line. -/
lemma rspBufferOfArgs_of_texts (z : ZephyrShell) (hkeys : List.Forall₂ Ap.IsKeyText texts keys)
    {idx : ℕ} {k : KeyMaterial} (h : keys[idx]? = some k) : Ap.rspBufferOfArgs z texts idx = k := by
  obtain ⟨hlt, rfl⟩ := List.getElem?_eq_some_iff.mp h
  have htext : idx < texts.length := hkeys.length_eq ▸ hlt
  exact Ap.rspBufferOfArgs_of_isKeyText z (List.getElem?_eq_getElem htext) (hkeys.get htext hlt)

/-- The access point before the payload is pushed: several keys are stored. -/
def Ap.withKeys (cfg : ApConfig) (z : ZephyrShell) (texts : List (List Char)) (g : ℕ) (s : Ap) : Ap :=
  if 2 ≤ texts.length then s.eslCPushRspKey cfg (Ap.rspBufferOfArgs z texts) g else s

/-- The payload is pushed to the group that is read back. -/
def Ap.afterLine (cfg : ApConfig) (ead : Ead) (z : ZephyrShell) (c : ℕ) (rnd : Randomness)
    (idx : UInt8) (bytes : List UInt8) (texts : List (List Char)) (s : Ap) : Ap :=
  let s := s.withKeys cfg z texts idx.toNat
  (s.eslCPushSyncBuf ead c rnd (idx :: bytes) idx.toNat).getD s

/-- **What the line does.** -/
lemma runLine_commandLine (z : ZephyrShell) (hkeys : List.Forall₂ Ap.IsKeyText texts keys)
    (hne : bytes ≠ []) (hbytes : bytes.length < tlvMaxLength)
    (hfew : 2 * keys.length ≤ bytes.length) :
    s.runLine cfg ead z c rnd stack (commandLine g bytes texts)
      = s.afterLine cfg ead z c rnd (UInt8.ofInt (strtol 16 (Nat.toDigits 10 g.toNat))) bytes
        texts := by
  have hmax : bytes.length ≤ eslSyncPktPayloadMaxLen := Nat.le_of_lt hbytes
  rw [Ap.runLine, argv_commandLine z hkeys hbytes hfew, if_neg hne]
  simp only [Ap.cmdPawrPushSyncBuf, z.hex2bin_of_ofHex? (ofHex?_toHex bytes) stack _ hmax,
    Ap.read_data _ hmax, Nat.succ_ne_zero, if_false]
  have hargs : 4 < ("push_sync_buf".toList :: Nat.toDigits 10 g.toNat :: toHex bytes
      :: texts).length ↔ 2 ≤ texts.length := by
    simp only [List.length_cons]
    omega
  simp only [hargs, Ap.afterLine, Ap.withKeys]

/-- Without a payload the handler gets too few arguments. -/
lemma runLine_nil (z : ZephyrShell) :
    s.runLine cfg ead z c rnd stack (commandLine g [] []) = s := by
  rw [Ap.runLine, argv_commandLine z .nil (by decide) (Nat.zero_le _), if_pos rfl]
  rfl

variable (z : ZephyrShell) {idx : UInt8} {g' : ℕ}

lemma status_withKeys : ((s.withKeys cfg z texts g').syncBuf g').status = (s.syncBuf g').status := by
  rw [Ap.withKeys]
  split
  · simp only [Ap.eslCPushRspKey, Ap.syncBuf_updateGroup_same]
  · rfl

/-- Another group is left alone. -/
lemma syncBuf_afterLine_of_ne (h : g' ≠ idx.toNat) :
    (s.afterLine cfg ead z c rnd idx bytes texts).syncBuf g' = s.syncBuf g' := by
  have hkeys : (s.withKeys cfg z texts idx.toNat).syncBuf g' = s.syncBuf g' := by
    rw [Ap.withKeys]
    split
    · exact Ap.syncBuf_updateGroup_ne _ _ _ h
    · rfl
  exact (Ap.syncBuf_eslCPushSyncBuf_of_ne h).trans hkeys

/-- A single key is not stored. -/
lemma rspBuffer_afterLine_of_lt_two (h : texts.length < 2) :
    ((s.afterLine cfg ead z c rnd idx bytes texts).syncBuf g').rspBuffer
      = (s.syncBuf g').rspBuffer := by
  rw [Ap.afterLine, Ap.withKeys, if_neg (Nat.not_le.mpr h)]
  cases hpush : s.eslCPushSyncBuf ead c rnd (idx :: bytes) idx.toNat with
  | none => rfl
  | some s' =>
      obtain ⟨hpushes, hbuffer⟩ := Ap.pushes_of_eslCPushSyncBuf hpush
      by_cases hg : g' = idx.toNat
      · rw [hg]
        exact hbuffer
      · exact congrArg SyncBuffer.rspBuffer (hpushes.others g' hg)

/-- A free group takes the payload. -/
lemma pushed_afterLine
    (hfree : (s.syncBuf idx.toNat).status = .empty ∨ (s.syncBuf idx.toNat).status = .pushed) :
    let s₁ := s.withKeys cfg z texts idx.toNat
    let s' := s.afterLine cfg ead z c rnd idx bytes texts
    s₁.Pushes ead rnd idx.toNat (idx :: bytes) s'
      ∧ (s'.syncBuf idx.toNat).rspBuffer = (s₁.syncBuf idx.toNat).rspBuffer := by
  intro s₁ s'
  have hfree₁ : (s₁.syncBuf idx.toNat).status = .empty ∨ (s₁.syncBuf idx.toNat).status = .pushed := by
    rw [status_withKeys z]
    exact hfree
  obtain ⟨s'', hpush⟩ : ∃ s'', s₁.eslCPushSyncBuf ead c rnd (idx :: bytes) idx.toNat = some s'' :=
    Ap.exists_eslCPushSyncBuf hfree₁
  have hafter : s' = s'' := congrArg (Option.getD · s₁) hpush
  rw [hafter]
  exact Ap.pushes_of_eslCPushSyncBuf hpush

lemma pushes_afterLine
    (hfree : (s.syncBuf idx.toNat).status = .empty ∨ (s.syncBuf idx.toNat).status = .pushed) :
    s.Pushes ead rnd idx.toNat (idx :: bytes) (s.afterLine cfg ead z c rnd idx bytes texts) := by
  have hpush : (s.withKeys cfg z texts idx.toNat).Pushes ead rnd idx.toNat (idx :: bytes)
      (s.afterLine cfg ead z c rnd idx bytes texts) := (pushed_afterLine z hfree).1
  unfold Ap.withKeys at hpush
  split at hpush
  · exact hpush.of_eslCPushRspKey
  · exact hpush

/-- Several keys are stored in its response slots. -/
lemma rspKey_afterLine (hkeys : List.Forall₂ Ap.IsKeyText texts keys) (hseveral : 2 ≤ texts.length)
    (hfree : (s.syncBuf idx.toNat).status = .empty ∨ (s.syncBuf idx.toNat).status = .pushed)
    {slot : ℕ} (hslot : slot < cfg.maxResponseSlotBuffer) {k : KeyMaterial}
    (hk : keys[slot]? = some k) :
    (((s.afterLine cfg ead z c rnd idx bytes texts).syncBuf idx.toNat).rspBuffer slot).rspKey = k := by
  have hbuffer : ((s.afterLine cfg ead z c rnd idx bytes texts).syncBuf idx.toNat).rspBuffer
      = ((s.withKeys cfg z texts idx.toNat).syncBuf idx.toNat).rspBuffer :=
    (pushed_afterLine z hfree).2
  rw [hbuffer, Ap.withKeys, if_pos hseveral, Ap.rspKey_eslCPushRspKey hslot]
  exact rspBufferOfArgs_of_texts z hkeys hk

end Handler

/-! ## The bytes of the TLVs -/

section Tlvs

variable {fs : List TlvFields}

/-- Every TLV has an opcode and an ESL ID. -/
lemma two_mul_length_le_flatten (hcommands : ∀ f ∈ fs, ∃ command, f.comboCommand = some command
    ∧ ∀ piece ∈ f.params command, piece.isSome) :
    2 * fs.length ≤ ((fs.map (·.tlv)).flatten).length := by
  induction fs with
  | nil => exact Nat.zero_le _
  | cons f fs ih =>
      obtain ⟨command, hcommand, -⟩ := hcommands f List.mem_cons_self
      have hf := length_tlv_of_params hcommand
      have hfs := ih fun f' hf' => hcommands f' (List.mem_cons_of_mem f hf')
      simp only [List.map_cons, List.flatten_cons, List.length_append, List.length_cons]
      omega

/-- TLVs of the lengths they declare. -/
lemma length_flatten_tlv (hcommands : ∀ f ∈ fs, ∃ command, f.comboCommand = some command
      ∧ ∀ piece ∈ f.params command, piece.isSome)
    (hknown : ∀ f ∈ fs, f.comboCommand ≠ some .vendorSpecificTag) :
    ((fs.map (·.tlv)).flatten).length = (fs.map (·.declaredLength)).sum := by
  induction fs with
  | nil => rfl
  | cons f fs ih =>
      obtain ⟨command, hcommand, hsome⟩ := hcommands f List.mem_cons_self
      have hne : command ≠ .vendorSpecificTag := by
        rintro rfl
        exact hknown f List.mem_cons_self hcommand
      have hf : f.tlv.length = f.declaredLength := by
        rw [length_tlv_of_params hcommand, length_params hsome hne, TlvFields.declaredLength,
          hcommand]
      have hfs := ih (fun f' hf' => hcommands f' (List.mem_cons_of_mem f hf'))
        fun f' hf' => hknown f' (List.mem_cons_of_mem f hf')
      simp only [List.map_cons, List.flatten_cons, List.length_append, List.sum_cons, hf, hfs]

end Tlvs

/-! ## From end to end -/

section Delivers

variable {cfg : ApConfig} {ead : Ead} {z : ZephyrShell} {c : ℕ} {rnd : Randomness} {stack : Mem}
  {fs : List TlvFields} {gen : TlvGenerator} {txtGroupId line : List Char} {g : UInt8}
  {keys : List KeyMaterial} {s : Ap}

/-- What is known of the globals when the line is made. -/
structure Collected (fs : List TlvFields) (gen : TlvGenerator) (keys : List KeyMaterial) : Prop where
  bytes : gen.tlvBytes = (fs.map (·.tlv)).flatten
  texts : List.Forall₂ Ap.IsKeyText gen.rspKeyBytes keys
  keys : keys.length ≤ fs.length
  commands : ∀ f ∈ fs, ∃ command, f.comboCommand = some command
    ∧ ∀ piece ∈ f.params command, piece.isSome

lemma collected_of_run (hrun : run TlvGenerator.add .empty fs = some gen)
    (hkeys : List.Forall₂ Ap.IsKeyText gen.rspKeyBytes keys) : Collected fs gen keys := by
  have hcol := TlvGenerator.collects_of_run hrun
  refine ⟨hcol.bytes, hkeys, ?_, hcol.commands⟩
  rw [← hkeys.length_eq, ← Nat.zero_add fs.length]
  exact hcol.keys

lemma Collected.two_mul_length_le (h : Collected fs gen keys) :
    2 * fs.length ≤ gen.tlvBytes.length := by
  rw [h.bytes]
  exact two_mul_length_le_flatten h.commands

/-- The line of a session with TLVs that stays below the limit. -/
lemma Collected.runLine (h : Collected fs gen keys) (hne : fs ≠ [])
    (hbytes : gen.tlvBytes.length < tlvMaxLength) :
    s.runLine cfg ead z c rnd stack (commandLine g gen.tlvBytes gen.rspKeyBytes)
      = s.afterLine cfg ead z c rnd (UInt8.ofInt (strtol 16 (Nat.toDigits 10 g.toNat)))
        gen.tlvBytes gen.rspKeyBytes := by
  have htwo := h.two_mul_length_le
  have hkeys := h.keys
  have hpos := List.length_pos_iff.mpr hne
  refine runLine_commandLine z h.texts (List.ne_nil_of_length_pos ?_) hbytes ?_
  · omega
  · omega

/-- A buffer that is ready to be pushed is not free. -/
lemma not_free_of_readyToPush {b : SyncBuffer} (h : b.status = .readyToPush)
    (hfree : b.status = .empty ∨ b.status = .pushed) : False := by
  rw [h] at hfree
  rcases hfree with hfree | hfree <;> cases hfree

/-- **What is delivered was deliverable.** -/
lemma deliverable_of_delivers (hcol : Collected fs gen keys)
    (hfree : (s.syncBuf g.toNat).status = .empty ∨ (s.syncBuf g.toNat).status = .pushed)
    (hd : Delivers cfg ead rnd g (fs.map (·.tlv)) keys s
      (s.runLine cfg ead z c rnd stack (commandLine g gen.tlvBytes gen.rspKeyBytes))) :
    Deliverable g fs keys s := by
  have hknown : ∀ f ∈ fs, f.comboCommand ≠ some .vendorSpecificTag := by
    intro f hf hvendor
    obtain ⟨command, hcommand, hsome⟩ := hcol.commands f hf
    have hitem := hd.tiles f.tlv (List.mem_map_of_mem hf)
    rw [hcommand] at hvendor
    exact (isItem_tlv_iff hcommand hsome).mp hitem (Option.some.inj hvendor)
  have hfits : gen.tlvBytes.length < tlvMaxLength := by
    rw [hcol.bytes]
    exact hd.fits
  have hne : fs ≠ [] := by
    rintro rfl
    have htexts : gen.rspKeyBytes = [] := by
      refine List.eq_nil_of_length_eq_zero ?_
      rw [hcol.texts.length_eq]
      exact Nat.le_zero.mp hcol.keys
    have hstatus := hd.pushes.status
    have hbytes : gen.tlvBytes = [] := hcol.bytes
    rw [hbytes, htexts, runLine_nil] at hstatus
    exact not_free_of_readyToPush hstatus hfree
  rw [hcol.runLine hne hfits] at hd
  refine ⟨hne, ?_, ?_, hknown, ?_⟩
  · -- the payload of another group leaves this one alone
    rw [← strtol_toDigits_iff]
    by_contra hidx
    have hgroup : g.toNat ≠ (UInt8.ofInt (strtol 16 (Nat.toDigits 10 g.toNat))).toNat :=
      fun h => hidx (UInt8.toNat_inj.mp h.symm)
    have hstatus := hd.pushes.status
    rw [syncBuf_afterLine_of_ne z hgroup] at hstatus
    exact not_free_of_readyToPush hstatus hfree
  · rw [← length_flatten_tlv hcol.commands hknown, ← hcol.bytes]
    exact hfits
  · rintro k rfl
    have hone : gen.rspKeyBytes.length < 2 := by
      rw [hcol.texts.length_eq]
      exact Nat.lt_succ_self 1
    have hkey := hd.keys 0 cfg.maxResponseSlotBuffer_mem.1 k rfl
    rw [rspBuffer_afterLine_of_lt_two z hone] at hkey
    exact hkey

/-- **What is deliverable is delivered.** -/
lemma delivers_of_deliverable (hcol : Collected fs gen keys)
    (hfree : (s.syncBuf g.toNat).status = .empty ∨ (s.syncBuf g.toNat).status = .pushed)
    (hd : Deliverable g fs keys s) :
    Delivers cfg ead rnd g (fs.map (·.tlv)) keys s
      (s.runLine cfg ead z c rnd stack (commandLine g gen.tlvBytes gen.rspKeyBytes)) := by
  have hfits : gen.tlvBytes.length < tlvMaxLength := by
    rw [hcol.bytes, length_flatten_tlv hcol.commands hd.known]
    exact hd.total
  rw [hcol.runLine hd.tlvs hfits, (strtol_toDigits_iff g).mpr hd.group]
  refine ⟨?_, ?_, ?_, ?_⟩
  · rw [← hcol.bytes]
    exact pushes_afterLine z hfree
  · rw [← hcol.bytes]
    exact hfits
  · intro tlv htlv
    obtain ⟨f, hf, rfl⟩ := List.mem_map.mp htlv
    obtain ⟨command, hcommand, hsome⟩ := hcol.commands f hf
    refine (isItem_tlv_iff hcommand hsome).mpr ?_
    rintro rfl
    exact hd.known f hf hcommand
  · intro slot hslot k hk
    by_cases hseveral : 2 ≤ gen.rspKeyBytes.length
    · exact rspKey_afterLine z hcol.texts hseveral hfree hslot hk
    · have hlen := hcol.texts.length_eq
      have hlt := (List.getElem?_eq_some_iff.mp hk).1
      have hone : keys = [k] := by
        obtain ⟨k', rfl⟩ := List.length_eq_one_iff.mp (show keys.length = 1 by omega)
        have hslot₀ : slot = 0 := Nat.lt_one_iff.mp hlt
        rw [hslot₀] at hk
        rw [Option.some.inj hk]
      have hslot₀ : slot = 0 := by
        rw [hone] at hlt
        exact Nat.lt_one_iff.mp hlt
      rw [rspBuffer_afterLine_of_lt_two z (Nat.not_le.mp hseveral), hslot₀]
      exact hd.keys k hone

end Delivers

/-- **From the generator to the sync buffer.**  Run on an access point whose buffer for the typed
group is free, the line for a sequence of accepted TLVs delivers them and the keys to that group
exactly when the group has one decimal digit, there is a TLV, none is vendor-specific, their lengths
stay below 48, and there is not a single key that the slot has not got. -/
theorem delivers_iff {cfg : ApConfig} {ead : Ead} {z : ZephyrShell} {c : ℕ} {rnd : Randomness}
    {stack : Mem} {fs : List TlvFields} {gen : TlvGenerator} {txtGroupId line : List Char} {g : UInt8}
    {keys : List KeyMaterial} {s : Ap} (hrun : run TlvGenerator.add .empty fs = some gen)
    (hgroup : hexField txtGroupId = some g.toNat) (hline : gen.genCommand txtGroupId = some line)
    (hkeys : List.Forall₂ Ap.IsKeyText gen.rspKeyBytes keys)
    (hfree : (s.syncBuf g.toNat).status = .empty ∨ (s.syncBuf g.toNat).status = .pushed) :
    Delivers cfg ead rnd g (fs.map (·.tlv)) keys s (s.runLine cfg ead z c rnd stack line)
      ↔ Deliverable g fs keys s := by
  have hcol := collected_of_run hrun hkeys
  rw [genCommand_eq_some hgroup hline]
  exact ⟨deliverable_of_delivers hcol hfree, delivers_of_deliverable hcol hfree⟩

/-- The fields for a Ping, with the response key of zeros. -/
def pingFields (eslId : List Char) : TlvFields where
  comboCommand := some .ping
  txtEslId := eslId
  txtGroupId := ['0']
  txtSensorIdx := ['0']
  txtDispidx := ['0']
  txtImgidx := ['0']
  txtDispAbsTime := ['0']
  txtLedIdx := ['0']
  boxBrightness := 0
  boxBlue := 0
  boxGreen := 0
  boxRed := 0
  flashingPattern := 0
  txtOffperiod := ['0']
  txtOnperiod := ['0']
  boxRepeatType := 0
  txtRepeatDuration := ['0']
  txtAbsTime := ['0']
  boxRspKey := true
  txtRespKey := toHex KeyMaterial.zero.keyV

/-- The generator after Pings for the ESL IDs 0 and 1. -/
def twoPings : TlvGenerator :=
  ⟨2, 4, [0, 0, 0, 1], [toHex KeyMaterial.zero.keyV, toHex KeyMaterial.zero.keyV]⟩

/-- Two Pings with keys for group 9. -/
theorem delivers_twoPings :
    Delivers .default .clear .zero 9 ([pingFields ['0'], pingFields ['1']].map (·.tlv))
      [.zero, .zero] (.init .zero)
      ((Ap.init .zero).runLine .default .clear .documented 0 .zero (fun _ => 0)
        (commandLine 9 twoPings.tlvBytes twoPings.rspKeyBytes)) := by
  have hrun : run TlvGenerator.add .empty [pingFields ['0'], pingFields ['1']] = some twoPings := by
    rfl
  have hgroup : hexField ['9'] = some (9 : UInt8).toNat := by decide
  have hkeys : List.Forall₂ Ap.IsKeyText twoPings.rspKeyBytes [.zero, .zero] :=
    .cons (ofHex?_toHex _) (.cons (ofHex?_toHex _) .nil)
  refine (delivers_iff hrun hgroup rfl hkeys (.inl rfl)).mpr ⟨?_, ?_, ?_, ?_, ?_⟩
  · exact List.cons_ne_nil _ _
  · decide
  · decide
  · simp [pingFields]
  · rintro k ⟨⟩

/-- The same for the group that is typed as `0a` goes to group 16. -/
theorem delivers_fails :
    run TlvGenerator.add .empty [pingFields ['0'], pingFields ['1']] = some twoPings
      ∧ twoPings.genCommand ['0', 'a'] = some (commandLine 10 twoPings.tlvBytes twoPings.rspKeyBytes)
      ∧ ¬ Delivers .default .clear .zero 10 ([pingFields ['0'], pingFields ['1']].map (·.tlv))
          [.zero, .zero] (.init .zero)
          ((Ap.init .zero).runLine .default .clear .documented 0 .zero (fun _ => 0)
            (commandLine 10 twoPings.tlvBytes twoPings.rspKeyBytes)) := by
  refine ⟨rfl, rfl, fun h => ?_⟩
  have hstatus : (((Ap.init .zero).runLine .default .clear .documented 0 .zero (fun _ => 0)
      (commandLine 10 twoPings.tlvBytes twoPings.rspKeyBytes)).syncBuf 10).status = .empty := by
    decide +kernel
  have hpushed := h.pushes.status
  rw [show (10 : UInt8).toNat = 10 from rfl, hstatus] at hpushed
  cases hpushed

end NrfEsl
