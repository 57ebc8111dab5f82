import Mathlib.Data.List.Induction
import NrfEsl.Lib.Tiling
import NrfEsl.Tag.Step

/-!
# Packets as TLVs

The payload of a packet behind its group ID is a list of whole TLVs (`Tlv`) and a cut tail, by
`Tiling.split ecpLen`.  This file carries the loop of `esl_parse_sync_packet` over to that list.

**One turn per TLV.**  `turn` is the body of the loop at a whole TLV.  On whole TLVs the loop is
the iteration of `turn` (`parseTlvs_whole`), and a cut tail is visited once more and ends it
(`parseTlvs_cut`).  `turns_rule` is the induction every result about packets uses: an invariant
over the TLVs done so far.

**The loop is a run.**  `parseTlvs_eq_run`: the loop with every command run before its wait ends
is a run of parser turns and command runs of `TagDevice.step`.
-/

namespace NrfEsl

open Tiling

/-- A command TLV: exactly as long as its opcode declares. -/
abbrev Tlv := Item ecpLen

/-- The ESL ID a TLV carries. -/
def Tlv.eslId (t : Tlv) : UInt8 := t.toList.getD 1 0

/-- A TLV is its opcode, its ESL ID and parameters. -/
lemma Tlv.eq_cons (t : Tlv) :
    ∃ op params, t.toList = op :: t.eslId :: params ∧ t.toList.length = ecpLen op := by
  obtain ⟨op, xs, hxs, hlen⟩ := t.exists_head
  cases xs with
  | nil =>
      have := two_le_ecpLen op
      simp only [hxs, List.length_cons, List.length_nil] at hlen
      omega
  | cons id params =>
      refine ⟨op, params, ?_, hlen⟩
      rw [Tlv.eslId, hxs]
      rfl

/-- A Ping for an ESL ID. -/
def Tlv.ping (eslId : UInt8) : Tlv := ⟨[0x00, eslId], rfl⟩

/-- What a TLV of a packet does to a tag: nothing, or what its command and the answer do. -/
def executeTlv (cfg : Config) (t : EslTag) (tlv : Tlv) : EslTag :=
  if Tlv.eslId tlv = t.assoc.eslAddr.eslId ∨ Tlv.eslId tlv = eslAddrBroadcast then
    (t.executeCommand cfg (.ofBytes tlv.toList fun _ => 0)).1.prepareResponse cfg
  else t

/-- The tag after the TLVs of a packet. -/
def executeTlvs (cfg : Config) (t : EslTag) (tlvs : List Tlv) : EslTag :=
  tlvs.foldl (executeTlv cfg) t

namespace TagDevice

variable (cfg : Config) (ead : Ead)

/-- The part of the payload the parser has not read yet. -/
structure Reads (s : ParserFrame × TagDevice) (rest : List UInt8) : Prop where
  bytes : s.2.pawrSyncWork.buf.data.read s.1.cur rest.length = rest
  payloadLen : s.1.payloadLen = s.1.cur + rest.length

/-- The body of the parser loop at a whole TLV. -/
def turn (env : ℕ → HandlerEnv) (s : ParserFrame × TagDevice) : ParserFrame × TagDevice :=
  ({ s.2.visitTlv s.1 with cur := s.1.cur + ecpLen (s.2.pawrSyncWork.buf.data s.1.cur) },
    s.2.runTlv cfg env s.1)

/-- So many turns. -/
def turns (env : ℕ → HandlerEnv) (n : ℕ) (s : ParserFrame × TagDevice) :
    ParserFrame × TagDevice :=
  (turn cfg env)^[n] s

/-- The device with the parser in the given state. -/
def withParser (p : Option ParserFrame) (d : TagDevice) : TagDevice := { d with parser := p }

/-! ## What a run of the handler leaves alone -/

section Frame

variable {cfg ead} (d : TagDevice)

@[simp] lemma pawrSyncWork_ecpCommandHandler (env : HandlerEnv) :
    (d.ecpCommandHandler cfg env).pawrSyncWork = d.pawrSyncWork := by
  simp only [ecpCommandHandler, ecpResponseHandler]
  split
  · split
    · rfl
    · split <;> rfl
  · rfl

@[simp] lemma pawrSyncWork_runTlv (env : ℕ → HandlerEnv) (f : ParserFrame) :
    (d.runTlv cfg env f).pawrSyncWork = d.pawrSyncWork := by
  simp only [runTlv]
  split
  · rw [pawrSyncWork_ecpCommandHandler]
    rfl
  · rfl

lemma ecpResponseHandler_withParser (env : HandlerEnv) (p : Option ParserFrame) :
    (d.withParser p).ecpResponseHandler cfg env = (d.ecpResponseHandler cfg env).withParser p := by
  have hsrc : (d.withParser p).ecpWorkSrc = d.ecpWorkSrc := rfl
  have htag : (d.withParser p).tag = d.tag := rfl
  simp only [ecpResponseHandler, hsrc, htag]
  cases d.ecpWorkSrc with
  | pawr => rfl
  | ecp =>
      by_cases h : (d.tag.prepareResponse cfg).ecp.respNeeded = true
      · simp only [h, if_true]
        rfl
      · simp only [h]
        rfl

/-- The handler does not look at the parser. -/
lemma ecpCommandHandler_withParser (env : HandlerEnv) (p : Option ParserFrame) :
    (d.withParser p).ecpCommandHandler cfg env = (d.ecpCommandHandler cfg env).withParser p := by
  have hrun : (d.withParser p).tag.executeCommand cfg (d.withParser p).ecpNetBuf
      = d.tag.executeCommand cfg d.ecpNetBuf := rfl
  simp only [ecpCommandHandler, hrun]
  by_cases h : (d.tag.executeCommand cfg d.ecpNetBuf).2 = true
  · simp only [h, if_true]
    exact ecpResponseHandler_withParser
      { d with ecpWorkPending := false, tag := (d.tag.executeCommand cfg d.ecpNetBuf).1 } env p
  · simp only [h]
    rfl

@[simp] lemma ecpWorkPending_ecpCommandHandler (env : HandlerEnv) :
    (d.ecpCommandHandler cfg env).ecpWorkPending = false := by
  simp only [ecpCommandHandler, ecpResponseHandler]
  split
  · split
    · rfl
    · split <;> rfl
  · rfl

/-- The end of a packet does not look at the parser either. -/
lemma endPacket_withParser (rnd : Randomness) (f : ParserFrame) (p : Option ParserFrame) :
    (d.withParser p).endPacket cfg ead rnd f = d.endPacket cfg ead rnd f := by
  simp only [endPacket, setPawrResponse, withParser]
  split <;> rfl

end Frame

/-! ## The response to a TLV -/

/-- The response to the command in `buf`. -/
def response (env : HandlerEnv) (buf : NetBuf) (t : EslTag) : List UInt8 :=
  ((t.executeCommand cfg buf).1.prepareResponse cfg).responseBytes cfg env

/-- A run for a TLV that is answered puts its response in the buffer of the packet. -/
lemma ecpCommandHandler_pawr {cfg : Config} (env : HandlerEnv) {d : TagDevice}
    (hsrc : d.ecpWorkSrc = .pawr) (hans : (d.tag.executeCommand cfg d.ecpNetBuf).2 = true) :
    d.ecpCommandHandler cfg env
      = { d with
          ecpWorkPending := false
          tag := (d.tag.executeCommand cfg d.ecpNetBuf).1.prepareResponse cfg
          ecpRspNetBuf := (appendResponse d.ecpRspNetBuf d.ecpRspLastTlvLen
            (response cfg env d.ecpNetBuf d.tag)).1
          ecpRspLastTlvLen := (appendResponse d.ecpRspNetBuf d.ecpRspLastTlvLen
            (response cfg env d.ecpNetBuf d.tag)).2
          log.executed := d.log.executed ++
            [⟨⟨.pawr, d.ecpNetBuf.bytes⟩, .appended (response cfg env d.ecpNetBuf d.tag)⟩] } := by
  simp only [ecpCommandHandler, ecpResponseHandler, hans, if_true, hsrc]
  rfl

/-! ## What the parser reads at a TLV -/

section Reads

variable {cfg} {s : ParserFrame × TagDevice} {t : Tlv} {rest : List UInt8}

/-- Reading on behind a first part. -/
lemma Reads.append {xs ys : List UInt8} (h : Reads s (xs ++ ys)) :
    s.2.pawrSyncWork.buf.data.read s.1.cur xs.length = xs
      ∧ s.2.pawrSyncWork.buf.data.read (s.1.cur + xs.length) ys.length = ys := by
  have hb := h.bytes
  rw [List.length_append, Mem.read_add] at hb
  exact List.append_inj hb (by simp)

lemma Reads.opcode {op : UInt8} (h : Reads s (op :: rest)) :
    s.2.pawrSyncWork.buf.data s.1.cur = op := by
  have hb := h.bytes
  rw [List.length_cons, Mem.read_succ] at hb
  exact (List.cons.inj hb).1

lemma Reads.eslId {op id : UInt8} (h : Reads s (op :: id :: rest)) :
    s.2.pawrSyncWork.buf.data (s.1.cur + 1) = id := by
  have hb := h.bytes
  rw [List.length_cons, List.length_cons, Mem.read_succ, Mem.read_succ] at hb
  exact (List.cons.inj (List.cons.inj hb).2).1

/-- At a whole TLV the declared length is its length. -/
lemma Reads.ecpLen_eq (h : Reads s (t.toList ++ rest)) :
    ecpLen (s.2.pawrSyncWork.buf.data s.1.cur) = t.toList.length := by
  obtain ⟨op, params, ht, hlen⟩ := t.eq_cons
  rw [hlen]
  rw [ht] at h
  exact congrArg ecpLen (Reads.opcode h)

/-- At a whole TLV the parser compares the ID the TLV carries. -/
lemma Reads.addressed_iff (h : Reads s (t.toList ++ rest)) :
    Addressed s.1 s.2
      ↔ Tlv.eslId t = s.2.tag.assoc.eslAddr.eslId ∨ Tlv.eslId t = eslAddrBroadcast := by
  obtain ⟨op, params, ht, -⟩ := t.eq_cons
  rw [ht] at h
  simp only [Addressed, Reads.eslId h]

/-- The command dispatched at a whole TLV is the TLV. -/
lemma Reads.command (h : Reads s (t.toList ++ rest)) :
    (s.2.dispatchTlv s.1).ecpNetBuf.bytes = t.toList := by
  have hread := h.append.1
  simp only [dispatchTlv, NetBuf.bytes, h.ecpLen_eq, Mem.read_shift, Nat.add_zero]
  exact hread

/-- **A whole TLV addressed to the tag is executed once**, on its bytes, and its response goes to
the buffer of the packet. -/
theorem Reads.runTlv_addressed (env : ℕ → HandlerEnv) (h : Reads s (t.toList ++ rest))
    (ha : Addressed s.1 s.2) :
    let rsp := response cfg (env s.2.log.executed.length) (s.2.dispatchTlv s.1).ecpNetBuf s.2.tag
    (s.2.runTlv cfg env s.1).log.executed
        = s.2.log.executed ++ [⟨⟨.pawr, t.toList⟩, .appended rsp⟩]
      ∧ ((s.2.runTlv cfg env s.1).ecpRspNetBuf, (s.2.runTlv cfg env s.1).ecpRspLastTlvLen)
        = appendResponse s.2.ecpRspNetBuf s.2.ecpRspLastTlvLen rsp
      ∧ (s.2.runTlv cfg env s.1).responses = s.2.responses := by
  intro rsp
  have hrun := @ecpCommandHandler_pawr cfg (env s.2.log.executed.length) (s.2.dispatchTlv s.1) rfl
    (EslTag.executeCommand_answered rfl ha)
  rw [runTlv, if_pos ha, hrun, h.command]
  exact ⟨rfl, rfl, rfl⟩

/-- **What a turn does to the tag** depends on the bytes of the TLV only. -/
lemma Reads.tag_runTlv (env : ℕ → HandlerEnv) (h : Reads s (t.toList ++ rest)) :
    (s.2.runTlv cfg env s.1).tag = executeTlv cfg s.2.tag t := by
  by_cases ha : Addressed s.1 s.2
  · have hrun := @ecpCommandHandler_pawr cfg (env s.2.log.executed.length) (s.2.dispatchTlv s.1) rfl
      (EslTag.executeCommand_answered rfl ha)
    have hsame : s.2.tag.executeCommand cfg (s.2.dispatchTlv s.1).ecpNetBuf
        = s.2.tag.executeCommand cfg (.ofBytes t.toList fun _ => 0) :=
      s.2.tag.executeCommand_congr (two_le_ecpLen _)
        (h.command.trans (NetBuf.bytes_ofBytes t.toList fun _ => 0).symm)
    rw [runTlv, if_pos ha, hrun, executeTlv, if_pos (h.addressed_iff.mp ha), ← hsame]
    rfl
  · rw [runTlv, if_neg ha, executeTlv, if_neg ((not_congr h.addressed_iff).mp ha)]

/-- A turn consumes its TLV. -/
lemma Reads.turn (env : ℕ → HandlerEnv) (h : Reads s (t.toList ++ rest)) :
    Reads (turn cfg env s) rest := by
  constructor
  · simp only [TagDevice.turn, pawrSyncWork_runTlv, h.ecpLen_eq]
    exact h.append.2
  · have hlen := h.payloadLen
    simp only [TagDevice.turn, h.ecpLen_eq, List.length_append] at hlen ⊢
    rw [← Nat.add_assoc] at hlen
    exact hlen

end Reads

/-! ## The loop over whole TLVs -/

section Loop

variable {cfg ead} {env : ℕ → HandlerEnv}

lemma turns_succ (n : ℕ) (s : ParserFrame × TagDevice) :
    turns cfg env (n + 1) s = turn cfg env (turns cfg env n s) :=
  Function.iterate_succ_apply' _ _ _

/-- **Induction over a packet.**  An invariant that every turn takes from the TLVs done so far to
one more holds when all whole TLVs are done. -/
theorem turns_rule {I : List Tlv → ParserFrame × TagDevice → Prop} {tlvs : List Tlv}
    {tail : List UInt8} {s : ParserFrame × TagDevice} (hreads : Reads s (flatten tlvs ++ tail))
    (hstart : I [] s)
    (hturn : ∀ done t rest, tlvs = done ++ t :: rest →
      Reads (turns cfg env done.length s) (t.toList ++ (flatten rest ++ tail)) →
      I done (turns cfg env done.length s) →
      I (done ++ [t]) (turn cfg env (turns cfg env done.length s))) :
    I tlvs (turns cfg env tlvs.length s) ∧ Reads (turns cfg env tlvs.length s) tail := by
  have hall : ∀ done rest, tlvs = done ++ rest →
      I done (turns cfg env done.length s)
        ∧ Reads (turns cfg env done.length s) (flatten rest ++ tail) := by
    intro done
    induction done using List.reverseRecOn with
    | nil =>
        rintro rest rfl
        exact ⟨hstart, hreads⟩
    | append_singleton done t ih =>
        intro rest hsplit
        have hsplit' : tlvs = done ++ t :: rest := by simpa using hsplit
        obtain ⟨hinv, hread⟩ := ih (t :: rest) hsplit'
        rw [flatten_cons, List.append_assoc] at hread
        rw [List.length_append, List.length_singleton, turns_succ]
        exact ⟨hturn done t rest hsplit' hread hinv, hread.turn env⟩
  have h := hall tlvs [] (by simp)
  exact ⟨h.1, by simpa using h.2⟩

/-- The tag after some turns is the tag after as many TLVs. -/
lemma tag_turns {tlvs : List Tlv} {tail : List UInt8} {s : ParserFrame × TagDevice}
    (h : Reads s (flatten tlvs ++ tail)) :
    (turns cfg env tlvs.length s).2.tag = executeTlvs cfg s.2.tag tlvs := by
  refine (turns_rule (I := fun done s' => s'.2.tag = executeTlvs cfg s.2.tag done) h rfl ?_).1
  intro done t rest _ hread hinv
  rw [turn, hread.tag_runTlv env, hinv, executeTlvs, executeTlvs, List.foldl_concat]

/-- The loop goes through one turn at a whole TLV. -/
lemma parseTlvs_turn {s : ParserFrame × TagDevice} {t : Tlv} {rest : List UInt8}
    (h : Reads s (t.toList ++ rest)) :
    parseTlvs cfg env s.1 s.2 = parseTlvs cfg env (turn cfg env s).1 (turn cfg env s).2 := by
  have hpos := two_le_ecpLen (s.2.pawrSyncWork.buf.data s.1.cur)
  have hlen := h.payloadLen
  have hcp := h.ecpLen_eq
  rw [List.length_append] at hlen
  rw [parseTlvs, if_pos (by omega), if_pos (by omega)]
  rfl

/-- The loop goes through one turn for each whole TLV. -/
lemma parseTlvs_turns {tlvs : List Tlv} {tail : List UInt8} {s : ParserFrame × TagDevice}
    (h : Reads s (flatten tlvs ++ tail)) :
    parseTlvs cfg env s.1 s.2
      = parseTlvs cfg env (turns cfg env tlvs.length s).1 (turns cfg env tlvs.length s).2 := by
  refine (turns_rule
    (I := fun _ s' => parseTlvs cfg env s.1 s.2 = parseTlvs cfg env s'.1 s'.2) h rfl ?_).1
  intro done t rest _ hread hinv
  rw [hinv]
  exact parseTlvs_turn hread

/-- The loop stops behind the last TLV of a packet that is tiled by TLVs. -/
theorem parseTlvs_whole {tlvs : List Tlv} {s : ParserFrame × TagDevice}
    (h : Reads s (flatten tlvs)) :
    parseTlvs cfg env s.1 s.2 = turns cfg env tlvs.length s := by
  have h' : Reads s (flatten tlvs ++ []) := by simpa using h
  rw [parseTlvs_turns h']
  have hend : Reads (turns cfg env tlvs.length s) [] :=
    (turns_rule (I := fun _ _ => True) h' trivial fun _ _ _ _ _ _ => trivial).2
  have hlen := hend.payloadLen
  rw [parseTlvs, if_neg (by simp [hlen])]

/-- The loop visits a cut tail and stops. -/
theorem parseTlvs_cut {tlvs : List Tlv} {tail : List UInt8} {s : ParserFrame × TagDevice}
    (h : Reads s (flatten tlvs ++ tail)) (hcut : IsCut ecpLen tail) :
    parseTlvs cfg env s.1 s.2
      = ((turns cfg env tlvs.length s).2.visitTlv (turns cfg env tlvs.length s).1,
          (turns cfg env tlvs.length s).2.runTlv cfg env (turns cfg env tlvs.length s).1) := by
  rw [parseTlvs_turns h]
  have hend : Reads (turns cfg env tlvs.length s) tail :=
    (turns_rule (I := fun _ _ => True) h trivial fun _ _ _ _ _ _ => trivial).2
  obtain ⟨op, xs, hxs, hlt⟩ := hcut.exists_head
  have hop : (turns cfg env tlvs.length s).2.pawrSyncWork.buf.data
      (turns cfg env tlvs.length s).1.cur = op := Reads.opcode (hxs ▸ hend)
  have hlen := hend.payloadLen
  have hpos : 0 < tail.length := by simp [hxs]
  rw [parseTlvs, if_pos (by omega), if_neg (by rw [hop]; omega)]

end Loop

/-! ## The start of the loop -/

section Start

variable {d : TagDevice}

/-- The parser and the device when the loop begins. -/
def atFirstTlv (d : TagDevice) : ParserFrame × TagDevice :=
  (.first (d.pawrSyncWork.buf.data 0 - 1).toNat, d.beginPacket)

@[simp] lemma cur_atFirstTlv (d : TagDevice) : (atFirstTlv d).1.cur = 1 := rfl

/-- The packet is for the tag's group. -/
def OwnGroup (d : TagDevice) : Prop := d.pawrSyncWork.buf.data 2 = d.tag.assoc.eslAddr.groupId

instance (d : TagDevice) : Decidable (OwnGroup d) := inferInstanceAs (Decidable (_ = _))

/-- A packet of the tag's group is taken up. -/
lemma beginPacket_ownGroup (had : IsEslAd d.pawrSyncWork.buf) (hgroup : OwnGroup d) :
    d.beginPacket
      = { d with
          pawrSyncWork.buf := d.pawrSyncWork.buf.pull adHeaderLen
          ecpRspNetBuf := []
          log.packetStart := d.log.executed.length
          parser := some (.first (d.pawrSyncWork.buf.data 0 - 1).toNat) } := by
  have hg : ¬ (d.pawrSyncWork.buf.pull adHeaderLen).data 0 ≠ d.tag.assoc.eslAddr.groupId :=
    not_not.mpr hgroup
  simp only [beginPacket, if_neg (not_not.mpr had), if_neg hg]

/-- A packet of another group leaves the parser alone. -/
lemma beginPacket_otherGroup (hidle : d.parser = none) (hgroup : ¬ OwnGroup d) :
    d.beginPacket.parser = none := by
  have hg : (d.pawrSyncWork.buf.pull adHeaderLen).data 0 ≠ d.tag.assoc.eslAddr.groupId := hgroup
  simp only [beginPacket, if_pos hg]
  split <;> exact hidle

/-- The loop starts behind the group ID with the rest of the packet unread. -/
lemma reads_atFirstTlv (had : IsEslAd d.pawrSyncWork.buf) (hgroup : OwnGroup d)
    (hlen : 3 ≤ d.pawrSyncWork.buf.len) :
    Reads (atFirstTlv d) (d.pawrSyncWork.buf.bytes.drop 3) := by
  have hbyte := had.1
  have hlt := (d.pawrSyncWork.buf.data 0).toNat_lt
  obtain ⟨n, hn⟩ := Nat.exists_eq_add_of_le hlen
  have hdrop : d.pawrSyncWork.buf.bytes.drop 3 = d.pawrSyncWork.buf.data.read 3 n := by
    rw [NetBuf.bytes, hn, Mem.read_add, Nat.zero_add, List.drop_left' (by simp)]
  have hsub : (d.pawrSyncWork.buf.data 0 - 1).toNat = 1 + n := by
    rw [UInt8.toNat_sub_of_le _ _ (UInt8.le_iff_toNat_le.mpr (by rw [UInt8.toNat_one]; omega)),
      UInt8.toNat_one]
    omega
  rw [hdrop]
  constructor
  · simp only [atFirstTlv, beginPacket_ownGroup had hgroup, NetBuf.data_pull, Mem.length_read,
      Mem.read_shift]
    rfl
  · simpa [atFirstTlv, ParserFrame.first] using hsub

/-- Parsing a packet of the tag's group is the loop from its start. -/
lemma parsePacket_ownGroup (cfg : Config) (env : ℕ → HandlerEnv)
    (had : IsEslAd d.pawrSyncWork.buf) (hgroup : OwnGroup d) :
    d.parsePacket cfg env = some (parseTlvs cfg env (atFirstTlv d).1 (atFirstTlv d).2) := by
  rw [parsePacket, beginPacket_ownGroup had hgroup]
  simp only [Option.map_some, atFirstTlv, beginPacket_ownGroup had hgroup]

/-- The tag takes up a packet of its group: a legal AD structure whose payload behind the group
ID is tiled by TLVs. -/
structure TiledPacket (tlvs : List Tlv) (d : TagDevice) : Prop where
  isEslAd : IsEslAd d.pawrSyncWork.buf
  hasGroup : 3 ≤ d.pawrSyncWork.buf.len
  ownGroup : OwnGroup d
  tiled : d.pawrSyncWork.buf.bytes.drop 3 = flatten tlvs

end Start

/-! ## The loop as a run -/

section Run

variable {cfg ead} {env : ℕ → HandlerEnv}

/-- The events of one turn: the parser dispatches, the work queue runs the command, the parser
moves on. -/
def turnEvents (env : ℕ → HandlerEnv) (rnd : Randomness) (f : ParserFrame) (d : TagDevice) :
    List TagEvent :=
  if Addressed f d then
    [.parserStep rnd, .ecpWork (env d.log.executed.length), .parserStep rnd]
  else [.parserStep rnd]

section Turn

variable {f : ParserFrame} {d : TagDevice} {rnd : Randomness} {cpLen : ℕ}

/-- The parser dispatches the TLV at its cursor and waits. -/
lemma step_dispatch (hwait : f.waiting = none) (hlt : f.cur < f.payloadLen)
    (ha : Addressed f d) :
    step cfg ead (d.withParser (some f)) (.parserStep rnd)
      = some ((d.dispatchTlv f).withParser (some { d.visitTlv f with
          waiting := some (ecpLen (d.pawrSyncWork.buf.data f.cur)) })) := by
  have ha' : Addressed f (d.withParser (some f)) := ha
  simp only [step, parserStep]
  rw [show (d.withParser (some f)).parser = some f from rfl]
  simp only [hwait, hlt, if_true, ha']
  rfl

/-- The work queue runs the command. -/
lemma step_command (ha : Addressed f d) (p : Option ParserFrame) :
    step cfg ead ((d.dispatchTlv f).withParser p) (.ecpWork (env d.log.executed.length))
      = some ((d.runTlv cfg env f).withParser p) := by
  simp only [step, runTlv, ha, if_true]
  rw [if_pos (by rfl), ecpCommandHandler_withParser]

/-- The parser moves on behind the command, or leaves the loop. -/
lemma step_advance (hwait : f.waiting = some cpLen) (hpend : d.ecpWorkPending = false) :
    step cfg ead (d.withParser (some f)) (.parserStep rnd)
      = some (if f.cur + cpLen ≤ f.payloadLen then
          d.withParser (some { f with cur := f.cur + cpLen, waiting := none })
        else d.endPacket cfg ead rnd f) := by
  have hpend' : ¬ (d.withParser (some f)).ecpWorkPending = true := by
    rw [show (d.withParser (some f)).ecpWorkPending = d.ecpWorkPending from rfl, hpend]
    decide
  simp only [step, parserStep]
  rw [show (d.withParser (some f)).parser = some f from rfl]
  simp only [hwait, if_neg hpend', advance]
  split_ifs
  · rfl
  · simp only [endPacket_withParser]

/-- The parser skips a foreign TLV, or leaves the loop. -/
lemma step_skip (hwait : f.waiting = none) (hlt : f.cur < f.payloadLen)
    (ha : ¬ Addressed f d) :
    step cfg ead (d.withParser (some f)) (.parserStep rnd)
      = some (if f.cur + ecpLen (d.pawrSyncWork.buf.data f.cur) ≤ f.payloadLen then
          d.withParser
            (some { d.visitTlv f with cur := f.cur + ecpLen (d.pawrSyncWork.buf.data f.cur) })
        else d.endPacket cfg ead rnd (d.visitTlv f)) := by
  have ha' : ¬ Addressed f (d.withParser (some f)) := ha
  have hadv : ∀ n, advance ((d.withParser (some f)).visitTlv f) n
      = if f.cur + n ≤ f.payloadLen then some { d.visitTlv f with cur := f.cur + n } else none := by
    intro n
    simp only [advance, visitTlv, hwait]
    rfl
  simp only [step, parserStep]
  rw [show (d.withParser (some f)).parser = some f from rfl]
  simp only [hwait, hlt, if_true, ha', if_false, hadv]
  rw [show (d.withParser (some f)).pawrSyncWork = d.pawrSyncWork from rfl]
  split_ifs
  · rfl
  · simp only [endPacket_withParser]
    rfl

end Turn

/-- One turn of the loop is a run: the parser moves on, or ends the packet. -/
lemma run_turnEvents {f : ParserFrame} {d : TagDevice} {rnd : Randomness}
    (hwait : f.waiting = none) (hlt : f.cur < f.payloadLen) :
    TransitionSystem.run (step cfg ead) (d.withParser (some f)) (turnEvents env rnd f d)
      = some (if f.cur + ecpLen (d.pawrSyncWork.buf.data f.cur) ≤ f.payloadLen then
          (d.runTlv cfg env f).withParser (some (turn cfg env (f, d)).1)
        else (d.runTlv cfg env f).endPacket cfg ead rnd (d.visitTlv f)) := by
  by_cases ha : Addressed f d
  · have hpend : (d.runTlv cfg env f).ecpWorkPending = false := by
      simp only [runTlv, ha, if_true, ecpWorkPending_ecpCommandHandler]
    have hadv := @step_advance cfg ead
      { d.visitTlv f with waiting := some (ecpLen (d.pawrSyncWork.buf.data f.cur)) }
      (d.runTlv cfg env f) rnd (ecpLen (d.pawrSyncWork.buf.data f.cur)) rfl hpend
    simp only [turnEvents, ha, if_true, TransitionSystem.run_cons, step_dispatch hwait hlt ha,
      Option.bind_some, step_command ha, hadv, TransitionSystem.run_nil]
    refine congrArg some (if_congr Iff.rfl ?_ ?_)
    · rw [turn, ← hwait]
      rfl
    · rfl
  · simp only [turnEvents, ha, if_false, TransitionSystem.run_cons,
      step_skip hwait hlt ha, Option.bind_some, TransitionSystem.run_nil, runTlv]
    rfl

/-- **The loop is a run** of parser turns and command runs, up to the end of the packet. -/
theorem parseTlvs_eq_run (rnd : Randomness) {f : ParserFrame} {d : TagDevice}
    (hwait : f.waiting = none) :
    ∃ es : List TagEvent,
      (∀ e ∈ es, e = .parserStep rnd ∨ ∃ n, e = .ecpWork (env n))
      ∧ TransitionSystem.run (step cfg ead) (d.withParser (some f)) es
        = some ((parseTlvs cfg env f d).2.endPacket cfg ead rnd (parseTlvs cfg env f d).1) := by
  have hmem : ∀ f d, ∀ e ∈ turnEvents env rnd f d,
      e = .parserStep rnd ∨ ∃ n, e = .ecpWork (env n) := by
    intro f d e he
    simp only [turnEvents] at he
    split at he <;> simp only [List.mem_cons, List.not_mem_nil, or_false] at he
    · rcases he with rfl | rfl | rfl
      · exact .inl rfl
      · exact .inr ⟨_, rfl⟩
      · exact .inl rfl
    · exact .inl he
  induction f, d using parseTlvs.induct cfg env with
  | case1 f d hlt cpLen d' hfit ih =>
      obtain ⟨es, hes, hrun⟩ := ih hwait
      refine ⟨turnEvents env rnd f d ++ es, ?_, ?_⟩
      · intro e he
        rcases List.mem_append.mp he with he | he
        · exact hmem f d e he
        · exact hes e he
      · rw [TransitionSystem.run_append, run_turnEvents hwait hlt, if_pos hfit, Option.bind_some,
          parseTlvs, if_pos hlt, if_pos hfit]
        exact hrun
  | case2 f d hlt cpLen hfit =>
      refine ⟨turnEvents env rnd f d, hmem f d, ?_⟩
      rw [run_turnEvents hwait hlt, if_neg hfit, parseTlvs, if_pos hlt, if_neg hfit]
  | case3 f d hlt =>
      refine ⟨[.parserStep rnd], by simp, ?_⟩
      have hend : step cfg ead (d.withParser (some f)) (.parserStep rnd)
          = some (d.endPacket cfg ead rnd f) := by
        simp only [step, parserStep]
        rw [show (d.withParser (some f)).parser = some f from rfl]
        simp only [hwait, hlt, if_false, endPacket_withParser]
      rw [parseTlvs, if_neg hlt, TransitionSystem.run_cons, hend]
      rfl

end Run

/-- A Ping for another tag, an LED Control and two Pings for the tag, and one for the other again. -/
def mixedTlvs (eslId : UInt8) : List Tlv :=
  [Tlv.ping 0x05, ⟨flashOnce eslId, rfl⟩, Tlv.ping eslId, Tlv.ping 0x05, Tlv.ping eslId]

/-- The AD structure `bytes` in the buffer of a freshly synchronised tag with address 0x0000. -/
def holding (bytes : List UInt8) : TagDevice :=
  { (boot .sample {}).onTag (EslTag.syncCb .sample) with
    pawrSyncWork := ⟨NetBuf.ofBytes bytes fun _ => 0, 0, 0, false⟩ }

end TagDevice

end NrfEsl
