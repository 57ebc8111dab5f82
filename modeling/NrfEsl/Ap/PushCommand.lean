import NrfEsl.Ap.Step
import NrfEsl.Lib.Text

/-!
# The shell command that pushes a sync buffer

`esl_c pawr push_sync_buf <group> <payload> <key 0> <key 1> ...` composes a payload from hexadecimal
text and stores the response keys.  A call of `esl_c_push_sync_buf` is taken in one piece here;
`run_eslCPushSyncBuf` says that it is the four steps of the model of concurrent callers.

The shell that splits the line and `hex2bin` are Zephyr's (`ZephyrShell`).  `data` has 48 bytes behind
its pointer, and the payload is written from its second byte on with 48 as the limit.
-/

namespace NrfEsl

open Text TransitionSystem

/-! ## Zephyr -/

/-- `CONFIG_SHELL_CMD_BUFF_SIZE` of the sample. -/
def shellCmdBuffSize : ℕ := 1282

/-- `CONFIG_SHELL_ARGC_MAX` of the sample. -/
def shellArgcMax : ℕ := 48

/-- A character that the shell does not treat in any special way, or the blank. -/
def IsPlain (c : Char) : Prop := c = ' ' ∨ c = '_' ∨ c.isAlphanum

instance (c : Char) : Decidable (IsPlain c) := inferInstanceAs (Decidable (_ ∨ _ ∨ _))

/-- What the command uses of Zephyr. -/
structure ZephyrShell where
  /-- `hex2bin`: the buffer afterwards, and the number of bytes it returns. -/
  hex2bin : List Char → Mem → ℕ → Mem × ℕ
  /-- The arguments that the handler of the command gets for a line. -/
  argv : List Char → List (List Char)
  /-- Text of an even number of digits is converted if it fits. -/
  hex2bin_of_ofHex? : ∀ {text bytes}, ofHex? text = some bytes → ∀ buf buflen,
    bytes.length ≤ buflen → hex2bin text buf buflen = (buf.write 0 bytes, bytes.length)
  /-- A plain line is split at its blanks, and the handler gets what follows the path. -/
  argv_of_words : ∀ {line args}, (∀ c ∈ line, IsPlain c) → line.length < shellCmdBuffSize →
    words line = "esl_c".toList :: "pawr".toList :: args → args.length + 2 ≤ shellArgcMax →
      argv line = args

/-- A shell that does what is documented. -/
def ZephyrShell.documented : ZephyrShell where
  hex2bin text buf buflen :=
    match ofHex? text with
    | some bytes => if bytes.length ≤ buflen then (buf.write 0 bytes, bytes.length) else (buf, 0)
    | none => (buf, 0)
  argv line := (words line).drop 2
  hex2bin_of_ofHex? := by
    intro text bytes h buf buflen hlen
    rw [h]
    exact if_pos hlen
  argv_of_words := by
    intro line args _ _ h _
    rw [h]
    rfl

/-! ## The calls -/

/-- Why the command is not carried out. -/
inductive ShellError
  /-- `-ENOEXEC` -/
  | noExec
  /-- `-EINVAL` -/
  | inval
  deriving DecidableEq, Repr

namespace Ap

variable (cfg : ApConfig) (ead : Ead)

/-- `esl_c_push_sync_buf`, not preempted; `none` is `-EBUSY`. -/
def eslCPushSyncBuf (c : ℕ) (rnd : Randomness) (data : List UInt8) (g : ℕ) (s : Ap) : Option Ap :=
  if (s.syncBuf g).status = .empty ∨ (s.syncBuf g).status = .pushed then
    let s := (s.pushSyncBuf c data g).pushClaim c ⟨data, g, .checked⟩
    let outLen := (eslComposeAdData ead rnd (s.syncBuf g).data data s.eslApKey).2
    let s := s.pushCompose ead c ⟨data, g, .claimed⟩ rnd
    some (s.pushReturn c ⟨data, g, .composed outLen⟩ outLen)
  else none

/-- `esl_c_push_rsp_key` -/
def eslCPushRspKey (rspBuffer : ℕ → KeyMaterial) (g : ℕ) (s : Ap) : Ap :=
  s.updateGroup g fun b =>
    { b with
      rspBuffer := fun idx =>
        if idx < cfg.maxResponseSlotBuffer then { b.rspBuffer idx with rspKey := rspBuffer idx }
        else b.rspBuffer idx }

/-- The local `rsp_buffer` of the handler: the keys of the arguments, and zero behind them. -/
def rspBufferOfArgs (z : ZephyrShell) (args : List (List Char)) (idx : ℕ) : KeyMaterial :=
  match args[idx]? with
  | some arg => .ofKeyV (z.hex2bin arg (fun _ => 0) eslSyncPktPayloadMaxLen).1
  | none => .zero

/-- `cmd_pawr_push_sync_buf`; that the buffer of the group is busy is only printed. -/
def cmdPawrPushSyncBuf (z : ZephyrShell) (c : ℕ) (rnd : Randomness) (stack : Mem)
    (argv : List (List Char)) (s : Ap) : Except ShellError Ap :=
  match argv with
  | _ :: group :: payload :: keys =>
      let syncBufIdx := UInt8.ofInt (strtol 16 group)
      let r := z.hex2bin payload stack eslSyncPktPayloadMaxLen
      let data := Mem.ofBytes [syncBufIdx] r.1
      let len := r.2 + 1
      if len = 0 then .error .inval
      else
        let s := if 4 < argv.length then s.eslCPushRspKey cfg (rspBufferOfArgs z keys) syncBufIdx.toNat
          else s
        let dataLen := UInt8.ofNat len
        .ok ((s.eslCPushSyncBuf ead c rnd (data.read 0 dataLen.toNat) syncBufIdx.toNat).getD s)
  | _ => .error .noExec

/-! ## What they do -/

section Push

variable {cfg} {ead} {c : ℕ} {rnd : Randomness} {data : List UInt8} {g : ℕ} {s s' : Ap}

/-- **The call is the four steps of the model with concurrent callers**, one after the other. -/
lemma run_eslCPushSyncBuf (hc : s.callers c = none) (hargs : PushArgs cfg data g)
    (h : s.eslCPushSyncBuf ead c rnd data g = some s') :
    run (step cfg ead) s [.pushSyncBuf c data g, .pushClaim c, .pushCompose c rnd, .pushReturn c]
      = some s' := by
  simp only [eslCPushSyncBuf, Option.ite_none_right_eq_some, Option.some_inj] at h
  obtain ⟨hfree, rfl⟩ := h
  have hpush : s.pushSyncBuf c data g = s.setCaller c (some ⟨data, g, .checked⟩) := if_pos hfree
  simp only [run_cons, run_nil, step, if_pos (And.intro hc hargs), Option.bind_some, hpush,
    callers_setCaller_same, pushClaim, pushCompose]

/-- What a push of a free buffer does. -/
structure Pushes (ead : Ead) (rnd : Randomness) (g : ℕ) (data : List UInt8) (s s' : Ap) : Prop where
  status : (s'.syncBuf g).status = .readyToPush
  packet : ((s'.syncBuf g).data, (s'.syncBuf g).dataLen)
    = eslComposeAdData ead rnd (s.syncBuf g).data data s.eslApKey
  others : ∀ g' ≠ g, s'.syncBuf g' = s.syncBuf g'
  owed : s'.owed = Function.update s.owed g (data :: s.owed g)

lemma pushes_of_eslCPushSyncBuf (h : s.eslCPushSyncBuf ead c rnd data g = some s') :
    Pushes ead rnd g data s s' ∧ (s'.syncBuf g).rspBuffer = (s.syncBuf g).rspBuffer := by
  simp only [eslCPushSyncBuf, Option.ite_none_right_eq_some, Option.some_inj] at h
  obtain ⟨hfree, rfl⟩ := h
  have hpush : s.pushSyncBuf c data g = s.setCaller c (some ⟨data, g, .checked⟩) := if_pos hfree
  simp only [hpush, pushClaim, pushCompose, pushReturn]
  refine ⟨⟨?_, ?_, ?_, rfl⟩, ?_⟩
  · simp only [syncBuf_setCaller, syncBuf_updateGroup_same, SyncBuffer.status_compose]
  · simp only [syncBuf_setCaller, syncBuf_updateGroup_same, eslApKey_setCaller,
      eslApKey_updateGroup, SyncBuffer.compose]
  · intro g' hg
    simp only [syncBuf_setCaller, syncBuf_updateGroup_ne _ _ _ hg]
  · simp only [syncBuf_setCaller, syncBuf_updateGroup_same, SyncBuffer.compose]

/-- A free buffer takes the payload. -/
lemma exists_eslCPushSyncBuf (hfree : (s.syncBuf g).status = .empty ∨ (s.syncBuf g).status = .pushed) :
    ∃ s', s.eslCPushSyncBuf ead c rnd data g = some s' := by
  rw [eslCPushSyncBuf, if_pos hfree]
  exact ⟨_, rfl⟩

/-- A push to another group leaves the buffer of this one alone. -/
lemma syncBuf_eslCPushSyncBuf_of_ne {g' : ℕ} (hg : g' ≠ g) :
    ((s.eslCPushSyncBuf ead c rnd data g).getD s).syncBuf g' = s.syncBuf g' := by
  cases h : s.eslCPushSyncBuf ead c rnd data g with
  | none => rfl
  | some s' => exact (pushes_of_eslCPushSyncBuf h).1.others g' hg

/-- Storing response keys does not matter to a push. -/
lemma Pushes.of_eslCPushRspKey {keys : ℕ → KeyMaterial}
    (h : Pushes ead rnd g data (s.eslCPushRspKey cfg keys g) s') : Pushes ead rnd g data s s' where
  status := h.status
  packet := by
    have hdata : ((s.eslCPushRspKey cfg keys g).syncBuf g).data = (s.syncBuf g).data := by
      simp only [eslCPushRspKey, syncBuf_updateGroup_same]
    have hpacket := h.packet
    rw [hdata] at hpacket
    exact hpacket
  others := by
    intro g' hg
    exact (h.others g' hg).trans (syncBuf_updateGroup_ne _ _ _ hg)
  owed := h.owed

/-- The keys that are stored. -/
lemma rspKey_eslCPushRspKey {keys : ℕ → KeyMaterial} {idx : ℕ}
    (h : idx < cfg.maxResponseSlotBuffer) :
    (((s.eslCPushRspKey cfg keys g).syncBuf g).rspBuffer idx).rspKey = keys idx := by
  simp only [eslCPushRspKey, syncBuf_updateGroup_same, if_pos h]

end Push

/-! ## The arguments -/

section Args

variable {cfg : ApConfig} {ead : Ead} (z : ZephyrShell)

/-- Text that is read as a key. -/
def IsKeyText (text : List Char) (k : KeyMaterial) : Prop := ofHex? text = some k.keyV

instance (text : List Char) (k : KeyMaterial) : Decidable (IsKeyText text k) :=
  inferInstanceAs (Decidable (_ = _))

lemma rspBufferOfArgs_of_isKeyText {args : List (List Char)} {idx : ℕ} {text : List Char}
    {k : KeyMaterial} (harg : args[idx]? = some text) (hk : IsKeyText text k) :
    rspBufferOfArgs z args idx = k := by
  have hfits : k.keyV.length ≤ eslSyncPktPayloadMaxLen := by
    rw [KeyMaterial.length_keyV]
    decide
  rw [rspBufferOfArgs, harg]
  dsimp only
  rw [z.hex2bin_of_ofHex? hk _ _ hfits, Mem.write_zero, KeyMaterial.ofKeyV_keyV]

/-- The payload of the command: the group, as the handler reads it, and the bytes of the text. -/
lemma read_data {syncBufIdx : UInt8} {bytes : List UInt8} (m : Mem)
    (hbytes : bytes.length ≤ eslSyncPktPayloadMaxLen) :
    (Mem.ofBytes [syncBufIdx] (m.write 0 bytes)).read 0 (UInt8.ofNat (bytes.length + 1)).toNat
      = syncBufIdx :: bytes := by
  have hlen : (UInt8.ofNat (bytes.length + 1)).toNat = bytes.length + 1 := by
    have hmax : bytes.length ≤ 48 := hbytes
    rw [UInt8.toNat_ofNat']
    omega
  rw [hlen, Mem.write_zero, Mem.ofBytes_ofBytes]
  exact Mem.read_ofBytes (syncBufIdx :: bytes) _

end Args

end Ap

end NrfEsl
