import NrfEsl.PlaintextOnAir

/-!
# The arguments of `push_sync_buf`

`cmd_pawr_push_sync_buf` once more, with the accesses to its local arrays and to `sync_buf`, and with what
it returns and prints.  It checks the number of its arguments and nothing else:

* `hex2bin` returns 0 for text it cannot convert, and `len` is that plus one, so `len == 0` never holds
  and a payload of the group byte alone is pushed.
* The limit is that of `data`, but the bytes are written behind the group byte.
* `sync_buf_idx` is any byte.
* The response keys are stored before it is known whether the group takes the payload, and that it does
  not is printed but not returned.

`shellPush_iff` is the exact condition, for a failure that is returned and for one that is only printed.
-/

namespace NrfEsl

open Text

/-! ## `hex2bin` -/

/-- A shell whose `hex2bin` is documented for every text. -/
structure HexShell extends ZephyrShell where
  /-- How many bytes of the buffer are written, for a text and a size of the buffer. -/
  written : List Char → ℕ → ℕ
  /-- The size is kept to. -/
  written_le : ∀ text buflen, written text buflen ≤ buflen
  hex2bin_of_ge : ∀ text buf buflen i, written text buflen ≤ i → (hex2bin text buf buflen).1 i = buf i
  /-- Digits are converted if they fit. -/
  hex2bin_of_hexBytes? : ∀ {text bytes}, hexBytes? text = some bytes → ∀ buf buflen,
    bytes.length ≤ buflen →
      hex2bin text buf buflen = (buf.write 0 bytes, bytes.length)
        ∧ written text buflen = bytes.length
  /-- Otherwise 0 is returned. -/
  hex2bin_error : ∀ {text buflen}, (∀ bytes, hexBytes? text = some bytes → buflen < bytes.length) →
    ∀ buf, (hex2bin text buf buflen).2 = 0

/-- The bytes of a text that fit. -/
def fitting? (text : List Char) (buflen : ℕ) : Option (List UInt8) :=
  (hexBytes? text).filter (·.length ≤ buflen)

lemma fitting?_eq_some_iff {text : List Char} {buflen : ℕ} {bytes : List UInt8} :
    fitting? text buflen = some bytes ↔ hexBytes? text = some bytes ∧ bytes.length ≤ buflen := by
  rw [fitting?, Option.filter_eq_some_iff, decide_eq_true_iff]

/-- A shell that does what is documented, and writes nothing when it fails. -/
def HexShell.documented : HexShell where
  hex2bin text buf buflen :=
    match fitting? text buflen with
    | some bytes => (buf.write 0 bytes, bytes.length)
    | none => (buf, 0)
  argv line := (words line).drop 2
  hex2bin_of_ofHex? := by
    intro text bytes h buf buflen hlen
    rw [fitting?_eq_some_iff.mpr ⟨hexBytes?_of_ofHex? h, hlen⟩]
  argv_of_words := ZephyrShell.documented.argv_of_words
  written text buflen := ((fitting? text buflen).map List.length).getD 0
  written_le := by
    intro text buflen
    cases h : fitting? text buflen with
    | none => exact Nat.zero_le _
    | some bytes => exact (fitting?_eq_some_iff.mp h).2
  hex2bin_of_ge := by
    intro text buf buflen i hi
    cases h : fitting? text buflen with
    | none => rfl
    | some bytes =>
        rw [h] at hi
        exact Mem.write_of_ge buf ((Nat.zero_add _).trans_le hi)
  hex2bin_of_hexBytes? := by
    intro text bytes h buf buflen hlen
    rw [fitting?_eq_some_iff.mpr ⟨h, hlen⟩]
    exact ⟨rfl, rfl⟩
  hex2bin_error := by
    intro text buflen herror buf
    cases h : fitting? text buflen with
    | none => rfl
    | some bytes =>
        obtain ⟨hbytes, hlen⟩ := fitting?_eq_some_iff.mp h
        exact absurd hlen (not_le.mpr (herror bytes hbytes))

/-! ## The handler -/

namespace ShellPush

variable (cfg : ApConfig) (ead : Ead)

/-- What the handler leaves behind. -/
structure Outcome where
  ap : Ap
  /-- The error that is returned. -/
  error : Option ShellError
  /-- Something was printed as `SHELL_ERROR`. -/
  printed : Bool

/-- `esl_c_push_rsp_key` -/
def eslCPushRspKey (rspBuffer : ℕ → KeyMaterial) (g : ℕ) (s : Ap) : Traced Ap := do
  Traced.access (.index cfg.maxGroup g)
  pure (s.eslCPushRspKey cfg rspBuffer g)

/-- `esl_compose_ad_data` into the buffer of the group: the payload, and the ciphertext if there is one. -/
def composeAccesses (rnd : Randomness) (data : List UInt8) (g : ℕ) (s : Ap) : Traced Unit := do
  Traced.access (.write eslEncryptedDataMaxLen (plainOffset + adHeaderLen) data.length)
  if EncryptFails ead rnd (s.syncBuf g).data data s.eslApKey then pure ()
  else Traced.access (.write eslEncryptedDataMaxLen adHeaderLen (data.length + 11))

/-- `esl_c_push_sync_buf` -/
def eslCPushSyncBuf (c : ℕ) (rnd : Randomness) (data : List UInt8) (g : ℕ) (s : Ap) :
    Traced (Option Ap) := do
  Traced.access (.index cfg.maxGroup g)
  if (s.syncBuf g).status = .empty ∨ (s.syncBuf g).status = .pushed then
    composeAccesses ead rnd data g s
    pure (s.eslCPushSyncBuf ead c rnd data g)
  else pure none

/-- The loop over the key arguments.  `data` follows `key_v` in the slots of the local `rsp_buffer`. -/
def readKeys (z : HexShell) (keys : List (List Char)) : Traced (ℕ → KeyMaterial) where
  val := Ap.rspBufferOfArgs z.toZephyrShell keys
  accesses := (keys.take cfg.maxResponseSlotBuffer).map fun key =>
    .write (24 + eslEncryptedDataMaxLen) 0 (z.written key eslSyncPktPayloadMaxLen)

/-- The response keys; one alone is not stored. -/
def pushKeys (z : HexShell) (argc : ℕ) (keys : List (List Char)) (g : ℕ) (s : Ap) : Traced Ap :=
  if 4 < argc then do
    let rspBuffer ← readKeys cfg z keys
    eslCPushRspKey cfg rspBuffer g s
  else pure s

/-- `cmd_pawr_push_sync_buf` -/
def cmdPawrPushSyncBuf (z : HexShell) (c : ℕ) (rnd : Randomness) (stack : Mem)
    (argv : List (List Char)) (s : Ap) : Traced Outcome :=
  match argv with
  | _ :: group :: payload :: keys => do
      let syncBufIdx := UInt8.ofInt (strtol 16 group)
      Traced.access (.write eslSyncPktPayloadMaxLen 0 1)
      Traced.access (.write eslSyncPktPayloadMaxLen 1 (z.written payload eslSyncPktPayloadMaxLen))
      let r := z.hex2bin payload stack eslSyncPktPayloadMaxLen
      let data := Mem.ofBytes [syncBufIdx] r.1
      let len := r.2 + 1
      if len = 0 then pure ⟨s, some .inval, true⟩
      else
        let s ← pushKeys cfg z argv.length keys syncBufIdx.toNat s
        let dataLen := UInt8.ofNat len
        let pushed ← eslCPushSyncBuf cfg ead c rnd (data.read 0 dataLen.toNat) syncBufIdx.toNat s
        -- `-EBUSY` is printed, and 0 returned
        pure ⟨pushed.getD s, none, pushed.isNone⟩
  | _ => pure ⟨s, some .noExec, true⟩

/-- The result without what is printed. -/
def Outcome.result (o : Outcome) : Except ShellError Ap :=
  match o.error with
  | some e => .error e
  | none => .ok o.ap

section Handler

variable {cfg ead} {c : ℕ} {rnd : Randomness} {data : List UInt8} {g : ℕ} {s : Ap}

@[simp] lemma val_eslCPushSyncBuf :
    (eslCPushSyncBuf cfg ead c rnd data g s).val = s.eslCPushSyncBuf ead c rnd data g := by
  simp only [eslCPushSyncBuf, Traced.val_bind, Traced.val_ite, Traced.val_pure]
  split
  · rfl
  · rename_i hbusy
    rw [Ap.eslCPushSyncBuf, if_neg hbusy]

/-- A group that takes no payload is only looked up. -/
lemma safe_eslCPushSyncBuf_of_busy
    (hbusy : ¬ ((s.syncBuf g).status = .empty ∨ (s.syncBuf g).status = .pushed)) :
    (eslCPushSyncBuf cfg ead c rnd data g s).Safe ↔ g < cfg.maxGroup := by
  simp only [eslCPushSyncBuf, if_neg hbusy, Traced.safe_bind, Traced.safe_access, Traced.safe_pure,
    and_true]
  rfl

variable (z : HexShell) (keys : List (List Char)) (argc : ℕ)

/-- **A key argument of any length** stays in its slot. -/
lemma safe_readKeys : (readKeys cfg z keys).Safe := by
  intro a ha
  obtain ⟨key, -, rfl⟩ := List.mem_map.mp ha
  have hlen : z.written key eslSyncPktPayloadMaxLen ≤ 48 := z.written_le key 48
  show 0 + z.written key eslSyncPktPayloadMaxLen ≤ 24 + 61
  omega

lemma safe_pushKeys :
    (pushKeys cfg z argc keys g s).Safe ↔ (4 < argc → g < cfg.maxGroup) := by
  have hindex : (Access.index cfg.maxGroup g).Safe ↔ g < cfg.maxGroup := Iff.rfl
  simp only [pushKeys, eslCPushRspKey, Traced.safe_ite, Traced.safe_bind, Traced.safe_access,
    Traced.safe_pure, safe_readKeys, hindex, true_and, and_true]
  by_cases h : 4 < argc <;> simp [h]

end Handler

/-! ## With three arguments and more -/

/-- The group byte. -/
def groupArg (argv : List (List Char)) : UInt8 := UInt8.ofInt (strtol 16 (argv.getD 1 []))

/-- The text of the payload. -/
def payloadArg (argv : List (List Char)) : List Char := argv.getD 2 []

/-- What is given to `esl_c_push_sync_buf`. -/
def pushedData (z : HexShell) (stack : Mem) (argv : List (List Char)) : List UInt8 :=
  let r := z.hex2bin (payloadArg argv) stack eslSyncPktPayloadMaxLen
  (Mem.ofBytes [groupArg argv] r.1).read 0 (UInt8.ofNat (r.2 + 1)).toNat

/-- The access point once the keys are stored. -/
def withKeys (z : HexShell) (argv : List (List Char)) (s : Ap) : Ap :=
  (pushKeys cfg z argv.length (argv.drop 3) (groupArg argv).toNat s).val

section Args

variable {cfg ead} {z : HexShell} {c : ℕ} {rnd : Randomness} {stack : Mem} {argv : List (List Char)}
  {s : Ap}

lemma cmdPawrPushSyncBuf_of_short (h : argv.length < 3) :
    cmdPawrPushSyncBuf cfg ead z c rnd stack argv s = pure ⟨s, some .noExec, true⟩ := by
  match argv with
  | [] => rfl
  | [_] => rfl
  | [_, _] => rfl
  | _ :: _ :: _ :: keys =>
      simp only [List.length_cons] at h
      omega

/-- **With three arguments** the handler always returns 0, whatever they are. -/
lemma val_cmdPawrPushSyncBuf (h : 3 ≤ argv.length) :
    (cmdPawrPushSyncBuf cfg ead z c rnd stack argv s).val
      = ⟨((withKeys cfg z argv s).eslCPushSyncBuf ead c rnd (pushedData z stack argv)
            (groupArg argv).toNat).getD (withKeys cfg z argv s), none,
          ((withKeys cfg z argv s).eslCPushSyncBuf ead c rnd (pushedData z stack argv)
            (groupArg argv).toNat).isNone⟩ := by
  match argv with
  | _ :: group :: payload :: keys =>
      simp only [cmdPawrPushSyncBuf, if_neg (Nat.succ_ne_zero _), Traced.val_bind, Traced.val_pure,
        val_eslCPushSyncBuf]
      rfl

lemma safe_cmdPawrPushSyncBuf (h : 3 ≤ argv.length) :
    (cmdPawrPushSyncBuf cfg ead z c rnd stack argv s).Safe
      ↔ z.written (payloadArg argv) eslSyncPktPayloadMaxLen < eslSyncPktPayloadMaxLen
        ∧ (4 < argv.length → (groupArg argv).toNat < cfg.maxGroup)
        ∧ (eslCPushSyncBuf cfg ead c rnd (pushedData z stack argv) (groupArg argv).toNat
          (withKeys cfg z argv s)).Safe := by
  match argv with
  | _ :: group :: payload :: keys =>
      have hgroup : (Access.write eslSyncPktPayloadMaxLen 0 1).Safe := by decide
      have hpayload : (Access.write eslSyncPktPayloadMaxLen 1
            (z.written payload eslSyncPktPayloadMaxLen)).Safe
          ↔ z.written payload eslSyncPktPayloadMaxLen < eslSyncPktPayloadMaxLen := by
        show 1 + _ ≤ _ ↔ _
        omega
      simp only [cmdPawrPushSyncBuf, if_neg (Nat.succ_ne_zero _), Traced.safe_bind, Traced.safe_pure,
        Traced.safe_access, safe_pushKeys, hgroup, hpayload, true_and, and_true]
      rfl

/-- It is the handler of the model without accesses. -/
lemma result_cmdPawrPushSyncBuf :
    (cmdPawrPushSyncBuf cfg ead z c rnd stack argv s).val.result
      = Ap.cmdPawrPushSyncBuf cfg ead z.toZephyrShell c rnd stack argv s := by
  match argv with
  | [] => rfl
  | [_] => rfl
  | [_, _] => rfl
  | _ :: group :: payload :: keys =>
      rw [val_cmdPawrPushSyncBuf (by simp only [List.length_cons]; omega), Ap.cmdPawrPushSyncBuf,
        if_neg (Nat.succ_ne_zero _)]
      simp only [withKeys, pushKeys, Traced.val_ite]
      rfl

/-! ## What is pushed -/

/-- Text that is a payload of the length the packet has room for. -/
def IsPayloadText (text : List Char) : Prop :=
  ∃ bytes, hexBytes? text = some bytes ∧ 0 < bytes.length ∧ bytes.length < eslSyncPktPayloadMaxLen

instance (text : List Char) : Decidable (IsPayloadText text) :=
  inferInstanceAs (Decidable (∃ bytes ∈ hexBytes? text, _ ∧ _))

/-- **What is pushed** starts with the group byte, and its length is right for a payload text alone. -/
lemma pushedData_eq :
    ∃ bytes, pushedData z stack argv = groupArg argv :: bytes
      ∧ (0 < bytes.length ∧ bytes.length < eslSyncPktPayloadMaxLen ↔ IsPayloadText (payloadArg argv)) := by
  by_cases hfits : ∃ bytes, hexBytes? (payloadArg argv) = some bytes
      ∧ bytes.length ≤ eslSyncPktPayloadMaxLen
  · obtain ⟨bytes, hbytes, hlen⟩ := hfits
    refine ⟨bytes, ?_, fun h => ⟨bytes, hbytes, h⟩, ?_⟩
    · rw [pushedData, (z.hex2bin_of_hexBytes? hbytes stack _ hlen).1]
      exact Ap.read_data stack hlen
    · rintro ⟨bytes', hbytes', h⟩
      cases Option.some.inj (hbytes.symm.trans hbytes')
      exact h
  -- the text is in error, and the group byte is all there is
  · have hzero : (z.hex2bin (payloadArg argv) stack eslSyncPktPayloadMaxLen).2 = 0 := by
      refine z.hex2bin_error (fun bytes hbytes => ?_) stack
      exact not_le.mp fun hlen => hfits ⟨bytes, hbytes, hlen⟩
    refine ⟨[], ?_, fun h => absurd h.1 (lt_irrefl 0), ?_⟩
    · rw [pushedData, hzero]
      rfl
    · rintro ⟨bytes, hbytes, -, hlen⟩
      exact absurd ⟨bytes, hbytes, hlen.le⟩ hfits

lemma syncBuf_withKeys_status (g : ℕ) :
    ((withKeys cfg z argv s).syncBuf g).status = (s.syncBuf g).status := by
  simp only [withKeys, pushKeys, Traced.val_ite]
  split
  · show ((s.eslCPushRspKey cfg _ _).syncBuf g).status = _
    by_cases hg : g = (groupArg argv).toNat
    · rw [hg, Ap.eslCPushRspKey, Ap.syncBuf_updateGroup_same]
    · rw [Ap.eslCPushRspKey, Ap.syncBuf_updateGroup_ne _ _ _ hg]
  · rfl

lemma owed_withKeys : (withKeys cfg z argv s).owed = s.owed := by
  simp only [withKeys, pushKeys, Traced.val_ite]
  split <;> rfl

lemma pushes_of_withKeys {g : ℕ} {data : List UInt8} {s' : Ap} (hg : g = (groupArg argv).toNat)
    (h : Ap.Pushes ead rnd g data (withKeys cfg z argv s) s') : Ap.Pushes ead rnd g data s s' := by
  subst hg
  simp only [withKeys, pushKeys, Traced.val_ite] at h
  split at h
  · exact Ap.Pushes.of_eslCPushRspKey h
  · exact h

end Args

/-! ## Pushed, or refused -/

/-- A push tells what was pushed. -/
lemma pushes_unique {rnd : Randomness} {g g' : ℕ} {data data' : List UInt8} {s s' : Ap}
    (h : Ap.Pushes ead rnd g data s s') (h' : Ap.Pushes ead rnd g' data' s s') :
    g = g' ∧ data = data' := by
  have howed := h.owed.symm.trans h'.owed
  have hat := congrFun howed g
  have hg : g = g' := by
    by_contra hne
    rw [Function.update_self, Function.update_of_ne hne] at hat
    exact List.cons_ne_self _ _ hat
  subst hg
  rw [Function.update_self, Function.update_self] at hat
  exact ⟨rfl, (List.cons.inj hat).1⟩

/-- Nothing is pushed while nothing more is owed. -/
lemma not_pushes_of_owed {rnd : Randomness} {g : ℕ} {data : List UInt8} {s s' : Ap}
    (howed : s'.owed = s.owed) : ¬ Ap.Pushes ead rnd g data s s' := by
  intro h
  have hat := congrFun (howed.symm.trans h.owed) g
  rw [Function.update_self] at hat
  exact List.cons_ne_self _ _ hat.symm

variable (rnd : Randomness)

/-- A payload of a group byte and at least one byte more is pushed to a group there is. -/
def PushesPayload (s s' : Ap) : Prop :=
  ∃ (g : UInt8) (bytes : List UInt8), g.toNat < cfg.maxGroup
    ∧ (0 < bytes.length ∧ bytes.length < eslSyncPktPayloadMaxLen)
    ∧ Ap.Pushes ead rnd g.toNat (g :: bytes) s s'

/-- **Validated**: a payload is pushed, or the command fails, no sync buffer or key slot is written, and
nothing outside the local arrays is. -/
def Validated (Fails : Outcome → Prop) (s : Ap) (x : Traced Outcome) : Prop :=
  PushesPayload cfg ead rnd s x.val.ap ∨ Fails x.val ∧ x.val.ap.syncBuf = s.syncBuf ∧ x.Safe

/-- The failure is returned. -/
def Outcome.Returns (o : Outcome) : Prop := o.error ≠ none

/-- The failure is printed. -/
def Outcome.Prints (o : Outcome) : Prop := o.printed = true

/-- The group takes a payload. -/
def IsFree (argv : List (List Char)) (s : Ap) : Prop :=
  (s.syncBuf (groupArg argv).toNat).status = .empty
    ∨ (s.syncBuf (groupArg argv).toNat).status = .pushed

/-- Arguments that are carried out. -/
def CarriedOut (argv : List (List Char)) (s : Ap) : Prop :=
  (groupArg argv).toNat < cfg.maxGroup ∧ IsPayloadText (payloadArg argv) ∧ IsFree argv s

/-- Arguments that are refused without a trace: the group is busy, `data` does not overflow, and no keys
are stored that were not there. -/
def Refused (z : HexShell) (argv : List (List Char)) (s : Ap) : Prop :=
  (groupArg argv).toNat < cfg.maxGroup ∧ ¬ IsFree argv s
    ∧ z.written (payloadArg argv) eslSyncPktPayloadMaxLen < eslSyncPktPayloadMaxLen
    ∧ (4 < argv.length → ∀ idx < cfg.maxResponseSlotBuffer,
        Ap.rspBufferOfArgs z.toZephyrShell (argv.drop 3) idx
          = ((s.syncBuf (groupArg argv).toNat).rspBuffer idx).rspKey)

section Outcomes

variable {cfg ead rnd} {z : HexShell} {c : ℕ} {stack : Mem} {argv : List (List Char)} {s : Ap}

/-- **A free group** gets what was given, and it is a payload only if the arguments are. -/
lemma pushesPayload_iff {s' : Ap}
    (h : (withKeys cfg z argv s).eslCPushSyncBuf ead c rnd (pushedData z stack argv)
      (groupArg argv).toNat = some s') :
    PushesPayload cfg ead rnd s s'
      ↔ (groupArg argv).toNat < cfg.maxGroup ∧ IsPayloadText (payloadArg argv) := by
  obtain ⟨bytes, hdata, htext⟩ : ∃ bytes, pushedData z stack argv = groupArg argv :: bytes ∧ _ :=
    pushedData_eq
  rw [hdata] at h
  have hpushes := pushes_of_withKeys rfl (Ap.pushes_of_eslCPushSyncBuf h).1
  constructor
  · rintro ⟨g, bytes', hg, hlen, hpushes'⟩
    obtain ⟨hgroup, hbytes⟩ := pushes_unique ead hpushes' hpushes
    rw [hgroup] at hg
    rw [(List.cons.inj hbytes).2] at hlen
    exact ⟨hg, htext.mp hlen⟩
  · rintro ⟨hg, hpayload⟩
    exact ⟨groupArg argv, bytes, hg, htext.mpr hpayload, hpushes⟩

/-- Keys that are stored already are not changed. -/
lemma syncBuf_withKeys_eq_iff :
    (withKeys cfg z argv s).syncBuf = s.syncBuf
      ↔ (4 < argv.length → ∀ idx < cfg.maxResponseSlotBuffer,
        Ap.rspBufferOfArgs z.toZephyrShell (argv.drop 3) idx
          = ((s.syncBuf (groupArg argv).toNat).rspBuffer idx).rspKey) := by
  by_cases hargc : 4 < argv.length
  · have hkeys : withKeys cfg z argv s = s.eslCPushRspKey cfg
        (Ap.rspBufferOfArgs z.toZephyrShell (argv.drop 3)) (groupArg argv).toNat := by
      rw [withKeys, pushKeys, if_pos hargc]
      rfl
    rw [hkeys]
    refine ⟨fun h _ idx hidx => ?_, fun h => ?_⟩
    · rw [← h]
      exact (Ap.rspKey_eslCPushRspKey hidx).symm
    · funext g
      by_cases hg : g = (groupArg argv).toNat
      · subst hg
        have hslots : ∀ idx, (if idx < cfg.maxResponseSlotBuffer then
            { (s.syncBuf (groupArg argv).toNat).rspBuffer idx with
              rspKey := Ap.rspBufferOfArgs z.toZephyrShell (argv.drop 3) idx }
            else (s.syncBuf (groupArg argv).toNat).rspBuffer idx)
              = (s.syncBuf (groupArg argv).toNat).rspBuffer idx := by
          intro idx
          split
          · rename_i hidx
            rw [h hargc idx hidx]
          · rfl
        rw [Ap.eslCPushRspKey, Ap.syncBuf_updateGroup_same]
        simp only [hslots]
      · rw [Ap.eslCPushRspKey, Ap.syncBuf_updateGroup_ne _ _ _ hg]
  · have hkeys : withKeys cfg z argv s = s := by
      rw [withKeys, pushKeys, if_neg hargc]
      rfl
    rw [hkeys]
    exact iff_of_true rfl fun h => absurd h hargc

/-- **Without the arguments** the command fails, and nothing has happened. -/
lemma validated_of_short {Fails : Outcome → Prop} (hfails : ∀ s, Fails ⟨s, some .noExec, true⟩)
    (h : argv.length < 3) :
    Validated cfg ead rnd Fails s (cmdPawrPushSyncBuf cfg ead z c rnd stack argv s) := by
  rw [cmdPawrPushSyncBuf_of_short h]
  exact .inr ⟨hfails s, rfl, Traced.safe_pure _⟩

/-- **To a free group** something is always pushed, and no failure is told. -/
lemma validated_of_free {Fails : Outcome → Prop} (hfails : ∀ s, ¬ Fails ⟨s, none, false⟩)
    (h : 3 ≤ argv.length) (hfree : IsFree argv s) :
    Validated cfg ead rnd Fails s (cmdPawrPushSyncBuf cfg ead z c rnd stack argv s)
      ↔ CarriedOut cfg argv s := by
  have hfree' : ((withKeys cfg z argv s).syncBuf (groupArg argv).toNat).status = .empty
      ∨ ((withKeys cfg z argv s).syncBuf (groupArg argv).toNat).status = .pushed := by
    rw [syncBuf_withKeys_status]
    exact hfree
  obtain ⟨s', hpush⟩ : ∃ s', (withKeys cfg z argv s).eslCPushSyncBuf ead c rnd
      (pushedData z stack argv) (groupArg argv).toNat = some s' :=
    Ap.exists_eslCPushSyncBuf hfree'
  have hval : (cmdPawrPushSyncBuf cfg ead z c rnd stack argv s).val = ⟨s', none, false⟩ := by
    rw [val_cmdPawrPushSyncBuf h, hpush]
    rfl
  rw [Validated, hval, pushesPayload_iff hpush]
  constructor
  · rintro (⟨hg, htext⟩ | ⟨hfail, -⟩)
    · exact ⟨hg, htext, hfree⟩
    · exact absurd hfail (hfails s')
  · rintro ⟨hg, htext, -⟩
    exact .inl ⟨hg, htext⟩

/-- **To a busy group** nothing is pushed, which is told or not. -/
lemma validated_of_busy {Fails : Outcome → Prop} (h : 3 ≤ argv.length) (hbusy : ¬ IsFree argv s) :
    Validated cfg ead rnd Fails s (cmdPawrPushSyncBuf cfg ead z c rnd stack argv s)
      ↔ Fails ⟨withKeys cfg z argv s, none, true⟩ ∧ Refused cfg z argv s := by
  have hbusy' : ¬ (((withKeys cfg z argv s).syncBuf (groupArg argv).toNat).status = .empty
      ∨ ((withKeys cfg z argv s).syncBuf (groupArg argv).toNat).status = .pushed) := by
    rw [syncBuf_withKeys_status]
    exact hbusy
  have hpush : (withKeys cfg z argv s).eslCPushSyncBuf ead c rnd (pushedData z stack argv)
      (groupArg argv).toNat = none := by
    rw [Ap.eslCPushSyncBuf, if_neg hbusy']
  have hval : (cmdPawrPushSyncBuf cfg ead z c rnd stack argv s).val
      = ⟨withKeys cfg z argv s, none, true⟩ := by
    rw [val_cmdPawrPushSyncBuf h, hpush]
    rfl
  rw [Validated, hval, safe_cmdPawrPushSyncBuf h, safe_eslCPushSyncBuf_of_busy hbusy',
    syncBuf_withKeys_eq_iff]
  constructor
  · rintro (⟨g, bytes, -, -, hpushes⟩ | ⟨hfail, hkeys, hwritten, -, hg⟩)
    · exact absurd hpushes (not_pushes_of_owed ead owed_withKeys)
    · exact ⟨hfail, hg, hbusy, hwritten, hkeys⟩
  · rintro ⟨hfail, hg, -, hwritten, hkeys⟩
    exact .inr ⟨hfail, hkeys, hwritten, fun _ => hg, hg⟩

end Outcomes

end ShellPush

/-- **The arguments are validated** exactly when there are less than three of them or they name a group
that takes a payload, with a payload text of the right length; where a printed failure counts, also when
the group is busy and nothing is stored or overrun before that is found out. -/
theorem shellPush_iff (cfg : ApConfig) (ead : Ead) (rnd : Randomness) (z : HexShell) (c : ℕ)
    (stack : Mem) (argv : List (List Char)) (s : Ap) :
    (ShellPush.Validated cfg ead rnd ShellPush.Outcome.Returns s
        (ShellPush.cmdPawrPushSyncBuf cfg ead z c rnd stack argv s)
      ↔ argv.length < 3 ∨ ShellPush.CarriedOut cfg argv s)
    ∧ (ShellPush.Validated cfg ead rnd ShellPush.Outcome.Prints s
        (ShellPush.cmdPawrPushSyncBuf cfg ead z c rnd stack argv s)
      ↔ argv.length < 3 ∨ ShellPush.CarriedOut cfg argv s ∨ ShellPush.Refused cfg z argv s) := by
  by_cases hargc : argv.length < 3
  · exact ⟨iff_of_true (ShellPush.validated_of_short (fun _ => Option.some_ne_none _) hargc) (.inl hargc),
      iff_of_true (ShellPush.validated_of_short (fun _ => rfl) hargc) (.inl hargc)⟩
  · rw [or_iff_right hargc, or_iff_right hargc]
    have hargs := not_lt.mp hargc
    by_cases hfree : ShellPush.IsFree argv s
    · have hrefused : ¬ ShellPush.Refused cfg z argv s := fun h => h.2.1 hfree
      rw [ShellPush.validated_of_free (fun _ h => h rfl) hargs hfree,
        ShellPush.validated_of_free (fun _ h => Bool.false_ne_true h) hargs hfree,
        or_iff_left hrefused]
      exact ⟨Iff.rfl, Iff.rfl⟩
    · have hcarried : ¬ ShellPush.CarriedOut cfg argv s := fun h => hfree h.2.2
      rw [ShellPush.validated_of_busy hargs hfree, ShellPush.validated_of_busy hargs hfree,
        or_iff_right hcarried]
      exact ⟨iff_of_false (fun h => h.1 rfl) hcarried, and_iff_right rfl⟩

/-- What a free group shows to be pushed is no payload. -/
lemma not_validated_of_free {argv : List (List Char)} {s : Ap} {cfg : ApConfig} {ead : Ead}
    {rnd : Randomness} {z : HexShell} {c : ℕ} {stack : Mem} (hargs : 3 ≤ argv.length)
    (hfree : ShellPush.IsFree argv s)
    (hnot : ¬ ((ShellPush.groupArg argv).toNat < cfg.maxGroup
      ∧ ShellPush.IsPayloadText (ShellPush.payloadArg argv))) :
    ¬ ShellPush.Validated cfg ead rnd ShellPush.Outcome.Prints s
      (ShellPush.cmdPawrPushSyncBuf cfg ead z c rnd stack argv s) := by
  intro hvalidated
  have hcarried :=
    (ShellPush.validated_of_free (fun _ h => Bool.false_ne_true h) hargs hfree).mp hvalidated
  exact hnot ⟨hcarried.1, hcarried.2.1⟩

/-- The handler on three arguments, while all groups are free. -/
def ShellPush.runFree (group payload : List Char) : Traced ShellPush.Outcome :=
  ShellPush.cmdPawrPushSyncBuf .default .clear .documented 5 .zero (fun _ => 0)
    ["push_sync_buf".toList, group, payload] (Ap.init .zero)

/-- Neither text without digits, nor a payload of 48 bytes, nor group 255 is refused. -/
theorem not_shellPush :
    ¬ ShellPush.Validated .default .clear .zero ShellPush.Outcome.Prints (Ap.init .zero)
        (ShellPush.runFree ['0'] "zz".toList)
      ∧ ¬ ShellPush.Validated .default .clear .zero ShellPush.Outcome.Prints (Ap.init .zero)
        (ShellPush.runFree ['0'] (List.replicate 96 '0'))
      ∧ ¬ ShellPush.Validated .default .clear .zero ShellPush.Outcome.Prints (Ap.init .zero)
        (ShellPush.runFree "ff".toList "0006".toList) := by
  refine ⟨?_, ?_, ?_⟩
  · exact not_validated_of_free (Nat.le_refl 3) (.inl rfl) (by decide)
  · exact not_validated_of_free (Nat.le_refl 3) (.inl rfl) (by decide)
  · exact not_validated_of_free (Nat.le_refl 3) (.inl rfl) (by decide)

end NrfEsl
