import NrfEsl.CommandSlot
import NrfEsl.Dispatch
import NrfEsl.PacketSlot

/-!
# Packets among other events

`esl_parse_sync_packet` yields after every TLV it dispatches.  Time, links, writes, timers and workers
get their turn between two TLVs, and a command waits in a slot that Control Point writes use as well.
This module follows the packets of a tag through whole runs.

**What should hold** (`PacketsServed`).  Whatever happens in between, the commands taken from a packet
are the TLVs with the tag's or the broadcast ID, in packet order and on their own bytes.  Each of them
has been executed once before the packet is answered, and the answer goes to the slot of the last TLV
with the tag's own ID.  A payload need not be tiled by TLVs: of a cut tail the parser makes one more
TLV, with the bytes that happen to lie behind (`Tiling.Visits`).

**When it does** (`packetsServed_of_orderly`).  A packet finds the worker idle, a command finds the slot
empty, and the address of the tag stays while it parses (`Orderly`).  Nothing is asked of the other
events, of their number or their order.

**The invariant** (`Parsing`) says where the parser stands: the TLVs visited so far lie in memory from
the group ID on, and the cursor is behind the last of them, or in front of it while it is executed.
-/

namespace NrfEsl

open Tiling TagDevice TransitionSystem

/-! ## Specification -/

/-- The command a TLV becomes. -/
def Tlv.command (t : Tlv) : Command := ⟨.pawr, t.toList⟩

/-- A packet as the parser has taken it up, and the commands taken from it so far. -/
structure ParsedPacket where
  /-- The payload, group ID first. -/
  payload : List UInt8
  /-- The address of the tag when the parser began. -/
  address : EslAddr
  commands : List Command := []

/-- The packet the parser works on, and those it has finished with the slot of the answer. -/
structure ParseHistory where
  current : Option ParsedPacket := none
  answered : List (ParsedPacket × ℤ) := []

/-- The history after one more event. -/
def parseHistoryAfter (d : TagDevice) (e : TagEvent) (d' : TagDevice) (h : ParseHistory) :
    ParseHistory :=
  match e with
  | .reboot _ => {}
  | .pawrSyncWork _ =>
      match d'.parser with
      | some f =>
          let payload := d'.pawrSyncWork.buf.data.read 0 f.payloadLen
          { h with current := some ⟨payload, d'.tag.assoc.eslAddr, []⟩ }
      | none => h
  | .parserStep _ =>
      match h.current with
      | none => h
      | some p =>
          let p := { p with commands := p.commands ++ d'.log.accepted.drop d.log.accepted.length }
          if d'.parser.isSome then { h with current := some p }
          else
            let slot := (d'.responses[d.responses.length]?).elim (-1) (·.responseSlot)
            { current := none, answered := h.answered ++ [(p, slot)] }
  | _ => h

/-- The tag, with its history. -/
def stepParse (cfg : Config) (ead : Ead) :
    TagDevice × ParseHistory → TagEvent → Option (TagDevice × ParseHistory) :=
  withHistory parseHistoryAfter (TagDevice.step cfg ead)

/-- The commands that came in packets. -/
def pawrCommands (cs : List Command) : List Command := cs.filter fun c => c.src = .pawr

/-- The packets so far. -/
def ParseHistory.packets (h : ParseHistory) : List ParsedPacket :=
  h.answered.map (·.1) ++ h.current.toList

/-- The commands of the packets so far. -/
def ParseHistory.commands (h : ParseHistory) : List Command :=
  h.answered.flatMap (·.1.commands) ++ h.current.elim [] (·.commands)

/-- What the tag has made of its packets since it booted. -/
structure PacketsServed (x : TagDevice × ParseHistory) : Prop where
  /-- It only parses the packets of its group. -/
  ownGroup : ∀ p ∈ x.2.packets, ∀ g, g ∈ p.payload.head? → g = p.address.groupId
  /-- An answered packet has been dispatched TLV by TLV, and answered in the slot of the last own one. -/
  answered : ∀ a ∈ x.2.answered, ∃ tlvs : List Tlv, Visits a.1.payload.tail tlvs
    ∧ a.1.commands = (addressed a.1.address.eslId tlvs).map Tlv.command
    ∧ IsResponseSlot a.1.address.eslId tlvs a.2
  /-- Of the packet that is parsed a first part has been dispatched. -/
  current : ∀ p ∈ x.2.current, ∃ tlvs done : List Tlv, Visits p.payload.tail tlvs ∧ done <+: tlvs
    ∧ p.commands = (addressed p.address.eslId done).map Tlv.command
  /-- Every command of a packet has been executed once, in order; at most the last one waits. -/
  executed : pawrCommands (x.1.log.executed.map (·.command)) ++ pawrCommands (queued x.1) = x.2.commands
  /-- None waits when the packet is answered. -/
  settled : x.2.current = none → pawrCommands (queued x.1) = []
  responses : x.1.responses.map (·.responseSlot) = (x.2.answered.map (·.2)).filter (· ≠ -1)

/-- A packet finds the worker idle, a command finds the slot empty, and the address stays while a
packet is parsed. -/
structure Orderly (cfg : Config) (ead : Ead) (x : TagDevice × ParseHistory) (e : TagEvent) : Prop where
  idle : ∀ buf, buf ∈ e.packet? → x.1.Receives buf → x.1.WorkerIdle
  oneAtATime : OneAtATime x.1 e
  address : ∀ d', d' ∈ x.1.step cfg ead e → x.1.parser.isSome → d'.parser.isSome →
    d'.tag.assoc.eslAddr = x.1.tag.assoc.eslAddr

instance (cfg : Config) (ead : Ead) (x : TagDevice × ParseHistory) (e : TagEvent) :
    Decidable (Orderly cfg ead x e) :=
  decidable_of_iff
    ((∀ buf, buf ∈ e.packet? → x.1.Receives buf → x.1.WorkerIdle) ∧ OneAtATime x.1 e
      ∧ ∀ d', d' ∈ x.1.step cfg ead e → x.1.parser.isSome → d'.parser.isSome →
        d'.tag.assoc.eslAddr = x.1.tag.assoc.eslAddr)
    ⟨fun h => ⟨h.1, h.2.1, h.2.2⟩, fun h => ⟨h.idle, h.oneAtATime, h.address⟩⟩

/-! ## Where the parser stands -/

lemma isItem_tlvAt (m : Mem) (off : ℕ) : IsItem ecpLen (m.read off (ecpLen (m off))) := by
  have h := @isItem_read (m.shift off) (m off) _ rfl rfl
  rwa [Mem.read_shift] at h

/-- The TLV that the parser makes of the bytes at an offset. -/
def tlvAt (m : Mem) (off : ℕ) : Tlv := ⟨m.read off (ecpLen (m off)), isItem_tlvAt m off⟩

@[simp] lemma length_tlvAt (m : Mem) (off : ℕ) : (tlvAt m off).toList.length = ecpLen (m off) :=
  Mem.length_read m off _

@[simp] lemma eslId_tlvAt (m : Mem) (off : ℕ) : Tlv.eslId (tlvAt m off) = m (off + 1) := by
  obtain ⟨n, hn⟩ := Nat.exists_eq_add_of_le' (two_le_ecpLen (m off))
  show (m.read off (ecpLen (m off))).getD 1 0 = m (off + 1)
  rw [hn, Mem.read_succ, Mem.read_succ]
  rfl

/-- What the parser hands on is the TLV at its cursor. -/
lemma accepted_dispatchTlv (f : ParserFrame) (d : TagDevice) : (d.dispatchTlv f).log.accepted
    = d.log.accepted ++ [(tlvAt d.pawrSyncWork.buf.data f.cur).command] := by
  rw [dispatchTlv, NetBuf.bytes, Mem.read_shift]
  rfl

/-- The bytes behind the group ID. -/
lemma tail_read (m : Mem) (n : ℕ) : (m.read 0 n).tail = m.read 1 (n - 1) := by
  cases n with
  | zero => rfl
  | succ n => rw [Mem.read_succ, List.tail_cons, Nat.zero_add, Nat.add_sub_cancel]

/-- The cursor is behind the TLVs visited, or in front of the last of them while it is executed. -/
def Place (f : ParserFrame) (done : List Tlv) : Prop :=
  match f.waiting with
  | none => f.cur = 1 + (flatten done).length ∧ (done = [] ∨ f.cur ≤ f.payloadLen)
  | some cpLen => ∃ init t, done = init ++ [t] ∧ f.cur = 1 + (flatten init).length
      ∧ cpLen = t.toList.length ∧ f.cur < f.payloadLen

/-- The parser has visited these TLVs of the packet. -/
structure Parsing (d : TagDevice) (f : ParserFrame) (p : ParsedPacket) (done : List Tlv) : Prop where
  address : d.tag.assoc.eslAddr = p.address
  payload : d.pawrSyncWork.buf.data.read 0 f.payloadLen = p.payload
  visited : d.pawrSyncWork.buf.data.read 1 (flatten done).length = flatten done
  commands : p.commands = (addressed p.address.eslId done).map Tlv.command
  tlvSlot : f.tlvSlot = done.length - 1
  rspSlot : IsResponseSlot p.address.eslId done f.rspSlot
  place : Place f done

namespace Parsing

variable {d d' : TagDevice} {f : ParserFrame} {p : ParsedPacket} {done init : List Tlv} {t : Tlv}

/-- The parser has just begun. -/
lemma start (n : ℕ) :
    Parsing d (.first n) ⟨d.pawrSyncWork.buf.data.read 0 n, d.tag.assoc.eslAddr, []⟩ [] where
  address := rfl
  payload := rfl
  visited := rfl
  commands := rfl
  tlvSlot := rfl
  rspSlot := .inl ⟨rfl, by simp⟩
  place := ⟨rfl, .inl rfl⟩

/-- It looks at the packet and the address of the tag only. -/
lemma congr (h : Parsing d f p done) (hbuf : d'.pawrSyncWork = d.pawrSyncWork)
    (haddr : d'.tag.assoc.eslAddr = d.tag.assoc.eslAddr) : Parsing d' f p done :=
  ⟨by rw [haddr, h.address], by rw [hbuf, h.payload], by rw [hbuf, h.visited], h.commands, h.tlvSlot,
    h.rspSlot, h.place⟩

/-- The payload is over where the last TLV ends. -/
lemma visits_of_end (h : Parsing d f p done) (hw : f.waiting = none) (hend : ¬ f.cur < f.payloadLen) :
    Visits p.payload.tail done := by
  have hplace := h.place
  rw [Place, hw] at hplace
  have hlen : f.payloadLen - 1 = (flatten done).length := by
    rcases hplace with ⟨hcur, rfl | hle⟩
    · rw [flatten_nil, List.length_nil] at hcur ⊢
      omega
    · omega
  rw [← h.payload, tail_read, hlen, h.visited]
  exact visits_flatten done

/-- The payload is over inside the last TLV. -/
lemma visits_of_overshoot (h : Parsing d f p (init ++ [t])) (hcur : f.cur = 1 + (flatten init).length)
    (hlt : f.cur < f.payloadLen) (hover : ¬ f.cur + t.toList.length ≤ f.payloadLen) :
    Visits p.payload.tail (init ++ [t]) := by
  have hread := h.visited
  rw [flatten_concat, List.length_append, Mem.read_add, ← hcur] at hread
  obtain ⟨hinit, ht⟩ := List.append_inj hread (by simp)
  have htail : p.payload.tail
      = flatten init ++ d.pawrSyncWork.buf.data.read f.cur (f.payloadLen - f.cur) := by
    rw [← h.payload, tail_read, show f.payloadLen - 1
      = (flatten init).length + (f.payloadLen - f.cur) by omega, Mem.read_add, ← hcur, hinit]
  obtain ⟨k, hk⟩ : ∃ k, t.toList.length = (f.payloadLen - f.cur) + k :=
    Nat.exists_eq_add_of_le (by omega)
  rw [htail]
  refine visits_overshoot ?_ ?_ ?_
  · rw [← List.length_pos_iff, Mem.length_read]
    omega
  · rw [hk, Mem.read_add] at ht
    rw [← ht]
    exact List.prefix_append _ _
  · rw [Mem.length_read]
    omega

/-- So far the parser has visited a first part of what it will come to. -/
lemma visits_prefix (h : Parsing d f p done) : ∃ tlvs, Visits p.payload.tail tlvs ∧ done <+: tlvs := by
  by_cases hover : (flatten done).length ≤ f.payloadLen - 1
  · obtain ⟨k, hk⟩ := Nat.exists_eq_add_of_le hover
    rw [← h.payload, tail_read, hk, Mem.read_add, h.visited]
    exact exists_visits (fun y => by have := two_le_ecpLen y; omega) done _
  · -- only a TLV that is executed reaches behind the payload
    have hplace := h.place
    rw [Place] at hplace
    split at hplace
    · rcases hplace with ⟨hcur, rfl | hle⟩
      · exact absurd (Nat.zero_le _) hover
      · omega
    · obtain ⟨init, t, rfl, hcur, -, hlt⟩ := hplace
      rw [flatten_concat, List.length_append] at hover
      exact ⟨_, h.visits_of_overshoot hcur hlt (by omega), List.prefix_rfl⟩

/-- The parser and the tag mean the same by addressed. -/
lemma addressed_concat (h : Parsing d f p done) :
    addressed p.address.eslId (done ++ [tlvAt d.pawrSyncWork.buf.data f.cur])
      = addressed p.address.eslId done
        ++ if Addressed f d then [tlvAt d.pawrSyncWork.buf.data f.cur] else [] := by
  rw [addressed, List.filter_append, ← addressed]
  by_cases ha : Addressed f d
  · rw [if_pos ha, List.filter_cons_of_pos (by simpa [Addressed, h.address] using ha), List.filter_nil]
  · rw [if_neg ha, List.filter_cons_of_neg (by simpa [Addressed, h.address] using ha), List.filter_nil]

/-- The parser reads the header at its cursor. -/
lemma visit (h : Parsing d f p done) (hw : f.waiting = none) {f' : ParserFrame}
    (hlen : f'.payloadLen = f.payloadLen) (htlvSlot : f'.tlvSlot = (d.visitTlv f).tlvSlot)
    (hrspSlot : f'.rspSlot = (d.visitTlv f).rspSlot)
    (hplace : Place f' (done ++ [tlvAt d.pawrSyncWork.buf.data f.cur])) {commands : List Command}
    (hcommands : commands = p.commands
      ++ if Addressed f d then [(tlvAt d.pawrSyncWork.buf.data f.cur).command] else []) :
    Parsing d f' { p with commands := commands } (done ++ [tlvAt d.pawrSyncWork.buf.data f.cur]) := by
  have hcur : f.cur = 1 + (flatten done).length := by
    have hplace := h.place
    rw [Place, hw] at hplace
    exact hplace.1
  have hslot : f.tlvSlot + 1 = (done.length : ℤ) := by
    rw [h.tlvSlot]
    omega
  refine ⟨h.address, by rw [hlen]; exact h.payload, ?_, ?_, ?_, ?_, hplace⟩
  · rw [flatten_concat, List.length_append, Mem.read_add, h.visited, ← hcur, length_tlvAt]
    rfl
  · rw [hcommands, h.addressed_concat, List.map_append, h.commands]
    by_cases ha : Addressed f d
    · rw [if_pos ha, if_pos ha, List.map_singleton]
    · rw [if_neg ha, if_neg ha, List.map_nil]
  · rw [htlvSlot, List.length_append, List.length_singleton]
    simp only [visitTlv, hslot]
    omega
  · rw [hrspSlot]
    simp only [visitTlv, hslot]
    -- only the own ID moves the slot
    by_cases hown : d.pawrSyncWork.buf.data (f.cur + 1) = p.address.eslId
    · have hne : d.pawrSyncWork.buf.data (f.cur + 1) ≠ eslAddrBroadcast := by
        rw [hown, ← h.address]
        exact d.tag.assoc.eslAddr.eslId_ne_broadcast
      rw [if_pos ⟨.inl (by rw [hown, h.address]), hne⟩]
      exact .concat_own (by rw [eslId_tlvAt, hown])
    · rw [if_neg ?_]
      · exact h.rspSlot.concat_other (by rwa [eslId_tlvAt])
      · rintro ⟨heq | heq, hne⟩
        · exact hown (by rw [heq, h.address])
        · exact hne heq

end Parsing

/-! ### The turns -/

/-- The turns of the parser, with all they do. -/
inductive ParserMove (cfg : Config) (ead : Ead) (rnd : Randomness) (d : TagDevice) (f : ParserFrame) :
    TagDevice → Prop
  | goOn (cpLen : ℕ) (hw : f.waiting = some cpLen) (hidle : d.ecpWorkPending = false)
      (hfit : f.cur + cpLen ≤ f.payloadLen) :
      ParserMove cfg ead rnd d f (d.withParser (some { f with cur := f.cur + cpLen, waiting := none }))
  | stop (cpLen : ℕ) (hw : f.waiting = some cpLen) (hidle : d.ecpWorkPending = false)
      (hover : ¬ f.cur + cpLen ≤ f.payloadLen) : ParserMove cfg ead rnd d f (d.endPacket cfg ead rnd f)
  | dispatch (hw : f.waiting = none) (hlt : f.cur < f.payloadLen) (ha : Addressed f d) :
      ParserMove cfg ead rnd d f ((d.dispatchTlv f).withParser
        (some { d.visitTlv f with waiting := some (ecpLen (d.pawrSyncWork.buf.data f.cur)) }))
  | skip (hw : f.waiting = none) (hlt : f.cur < f.payloadLen) (ha : ¬ Addressed f d)
      (hfit : f.cur + ecpLen (d.pawrSyncWork.buf.data f.cur) ≤ f.payloadLen) :
      ParserMove cfg ead rnd d f (d.withParser
        (some { d.visitTlv f with cur := f.cur + ecpLen (d.pawrSyncWork.buf.data f.cur) }))
  | skipStop (hw : f.waiting = none) (hlt : f.cur < f.payloadLen) (ha : ¬ Addressed f d)
      (hover : ¬ f.cur + ecpLen (d.pawrSyncWork.buf.data f.cur) ≤ f.payloadLen) :
      ParserMove cfg ead rnd d f (d.endPacket cfg ead rnd (d.visitTlv f))
  | finish (hw : f.waiting = none) (hend : ¬ f.cur < f.payloadLen) :
      ParserMove cfg ead rnd d f (d.endPacket cfg ead rnd f)

lemma parserMove {cfg : Config} {ead : Ead} {rnd : Randomness} {d d' : TagDevice} {f : ParserFrame}
    (hp : d.parser = some f) (h : d.parserStep cfg ead rnd = some d') :
    ParserMove cfg ead rnd d f d' := by
  have hself : d.withParser (some f) = d := by rw [withParser, ← hp]
  have hstep : step cfg ead (d.withParser (some f)) (.parserStep rnd) = some d' := by
    rw [hself]
    exact h
  cases hw : f.waiting with
  | some cpLen =>
      have hidle : d.ecpWorkPending = false := by
        cases hpend : d.ecpWorkPending with
        | false => rfl
        | true => simp [parserStep, hp, hw, hpend] at h
      rw [step_advance hw hidle, Option.some_inj] at hstep
      split_ifs at hstep with hfit
      · rw [← hstep]
        exact .goOn cpLen hw hidle hfit
      · rw [← hstep]
        exact .stop cpLen hw hidle hfit
  | none =>
      by_cases hlt : f.cur < f.payloadLen
      · by_cases ha : Addressed f d
        · rw [step_dispatch hw hlt ha, Option.some_inj] at hstep
          rw [← hstep]
          exact .dispatch hw hlt ha
        · rw [step_skip hw hlt ha, Option.some_inj] at hstep
          split_ifs at hstep with hfit
          · rw [← hstep]
            exact .skip hw hlt ha hfit
          · rw [← hstep]
            exact .skipStop hw hlt ha hfit
      · simp only [parserStep, hp, hw, hlt, if_false, Option.some_inj] at h
        rw [← h]
        exact .finish hw hlt

/-! ### What the other events do -/

/-- The command in the slot came in a packet. -/
def PawrQueued (d : TagDevice) : Prop := d.ecpWorkPending = true ∧ d.ecpWorkSrc = .pawr

section Frame

variable {cfg : Config} {ead : Ead} {d d' : TagDevice} {e : TagEvent}

/-- Nothing came from a packet, and nothing else waits for the handler. -/
structure NoDispatch (d d' : TagDevice) : Prop where
  accepted : pawrCommands d'.log.accepted = pawrCommands d.log.accepted
  queued : PawrQueued d' → PawrQueued d

lemma SameSlot.noDispatch (h : SameSlot d d') : NoDispatch d d' where
  accepted := by rw [h.log]
  queued hq := by rwa [PawrQueued, h.ecpWorkPending, h.ecpWorkSrc] at hq

lemma SameQueue.noDispatch (h : SameQueue d d') : NoDispatch d d' where
  accepted := by rw [h.accepted]
  queued hq := by rwa [PawrQueued, h.ecpWorkPending, h.ecpWorkSrc] at hq

/-- Only the parser takes commands from a packet. -/
lemma noDispatch_step (h : d.step cfg ead e = some d') (hparser : ∀ rnd, e ≠ .parserStep rnd)
    (hboot : ∀ p, e ≠ .reboot p) : NoDispatch d d' := by
  cases e with
  | eslControlWrite w =>
      cases h
      by_cases hlen : w.buf.len < 2
      · rw [eslControlWrite, if_pos hlen]
        exact SameSlot.rfl.noDispatch
      · rw [eslControlWrite, if_neg hlen]
        refine ⟨?_, fun hq => absurd hq.2 (by simp)⟩
        simp [pawrCommands]
  | ecpWork env =>
      obtain ⟨-, rfl⟩ := step_ecpWork_eq_some.mp h
      obtain ⟨x, hx⟩ := handlerRun cfg env d
      refine ⟨by rw [hx.log], fun hq => ?_⟩
      rw [PawrQueued, hx.idle] at hq
      cases hq.1
  | notifySent =>
      obtain ⟨n, rest, -, rfl⟩ := step_notifySent_eq_some.mp h
      exact (sameSlot_notifyComplete rest n.func).noDispatch
  | recvCb counter subevent buf =>
      cases h
      exact (sameSlot_recvCb counter subevent buf).noDispatch
  | pawrSyncWork stack =>
      obtain ⟨hready, rfl⟩ := step_pawrSyncWork_eq_some.mp h
      simp only [pawrSyncWorkFn]
      split
      · set d₁ : TagDevice :=
          { d with pawrSyncWork := { d.pawrSyncWork with
              pending := false
              buf := (decryptPacket ead d.tag.assoc.eslApKey stack d.pawrSyncWork.buf).val.2 } }
        have hbegin : NoDispatch d d₁.beginPacket := by
          rcases slotStep_beginPacket d₁ hready.2 with ⟨hs, -⟩ | ⟨hs, -⟩
          · exact ⟨hs.noDispatch.accepted, hs.noDispatch.queued⟩
          · exact ⟨hs.noDispatch.accepted, hs.noDispatch.queued⟩
        split
        · exact hbegin
        · exact ⟨hbegin.accepted, hbegin.queued⟩
      · exact ⟨rfl, id⟩
  | parserStep rnd => exact absurd rfl (hparser rnd)
  | reboot p => exact absurd rfl (hboot p)
  | stateTimeout =>
      obtain ⟨-, rfl⟩ := step_stateTimeout_eq_some.mp h
      exact (sameSlot_onTag _).noDispatch
  | ledWork idx =>
      obtain ⟨-, rfl⟩ := step_ledWork_eq_some.mp h
      exact (sameSlot_onTag _).noDispatch
  | displayWork idx =>
      obtain ⟨-, rfl⟩ := step_displayWork_eq_some.mp h
      exact (sameSlot_onTag _).noDispatch
  | advWork =>
      obtain ⟨-, rfl⟩ := step_advWork_eq_some.mp h
      exact (sameSlot_onTag _).noDispatch
  | _ =>
      cases h
      exact (sameSlot_onTag _).noDispatch

/-- A packet that is taken up is read from its first TLV on. -/
lemma parser_pawrSyncWorkFn {stack : Mem} {f : ParserFrame} (hidle : d.parser = none)
    (h : (d.pawrSyncWorkFn cfg ead stack).parser = some f) : (∃ n, f = .first n)
      ∧ (d.pawrSyncWorkFn cfg ead stack).pawrSyncWork.buf.data 0
        = (d.pawrSyncWorkFn cfg ead stack).tag.assoc.eslAddr.groupId := by
  have hbegin : ∀ d : TagDevice, d.parser = none → ∀ f, d.beginPacket.parser = some f →
      (∃ n, f = .first n)
        ∧ d.beginPacket.pawrSyncWork.buf.data 0 = d.beginPacket.tag.assoc.eslAddr.groupId := by
    intro d hnone f hf
    by_cases had : IsEslAd d.pawrSyncWork.buf
    · by_cases hgroup : OwnGroup d
      · rw [beginPacket_ownGroup had hgroup] at hf ⊢
        exact ⟨⟨_, (Option.some.inj hf).symm⟩, hgroup⟩
      · rw [beginPacket_otherGroup hnone hgroup] at hf
        cases hf
    · rw [beginPacket, if_pos had, hnone] at hf
      cases hf
  simp only [pawrSyncWorkFn] at h ⊢
  split at h
  · rename_i hdec
    rw [if_pos hdec]
    set d₁ : TagDevice :=
      { d with pawrSyncWork := { d.pawrSyncWork with
          pending := false
          buf := (decryptPacket ead d.tag.assoc.eslApKey stack d.pawrSyncWork.buf).val.2 } }
    split at h
    · rename_i hsome
      rw [if_pos hsome]
      exact hbegin d₁ hidle f h
    · rename_i hnone
      exact absurd (by rw [show d₁.beginPacket.parser = some f from h]; rfl) hnone
  · rw [hidle] at h
    cases h

end Frame

/-! ## The invariant -/

/-- The history is right, and the parser stands where it says. -/
structure ServedInv (x : TagDevice × ParseHistory) : Prop where
  ownGroup : ∀ p ∈ x.2.packets, ∀ g, g ∈ p.payload.head? → g = p.address.groupId
  answered : ∀ a ∈ x.2.answered, ∃ tlvs : List Tlv, Visits a.1.payload.tail tlvs
    ∧ a.1.commands = (addressed a.1.address.eslId tlvs).map Tlv.command
    ∧ IsResponseSlot a.1.address.eslId tlvs a.2
  parsing : ∀ f, x.1.parser = some f → ∃ p done, x.2.current = some p ∧ Parsing x.1 f p done
  idle : x.1.parser = none → x.2.current = none
  accepted : pawrCommands x.1.log.accepted = x.2.commands
  exactlyOnce : ExactlyOnce x.1
  waits : PawrQueued x.1 → ∃ f, x.1.parser = some f ∧ f.waiting ≠ none
  responses : x.1.responses.map (·.responseSlot) = (x.2.answered.map (·.2)).filter (· ≠ -1)

namespace ServedInv

variable {cfg : Config} {ead : Ead} {x y : TagDevice × ParseHistory} {e : TagEvent}

lemma packetsServed (h : ServedInv x) : PacketsServed x where
  ownGroup := h.ownGroup
  answered := h.answered
  current p hp := by
    cases hparser : x.1.parser with
    | none =>
        rw [h.idle hparser] at hp
        cases hp
    | some f =>
        obtain ⟨q, done, hq, hparsing⟩ := h.parsing f hparser
        obtain rfl : q = p := Option.some.inj (hq.symm.trans hp)
        obtain ⟨tlvs, hvisits, hpre⟩ := hparsing.visits_prefix
        exact ⟨tlvs, done, hvisits, hpre, hparsing.commands⟩
  executed := by
    rw [← h.accepted, h.exactlyOnce, pawrCommands, pawrCommands, pawrCommands, List.filter_append]
  settled hnone := by
    by_contra hne
    have hq : PawrQueued x.1 := by
      rw [queued] at hne
      split at hne
      · rename_i hpend
        refine ⟨hpend, ?_⟩
        by_contra hsrc
        exact hne (by simp [pawrCommands, hsrc])
      · exact absurd rfl hne
    obtain ⟨f, hf, -⟩ := h.waits hq
    obtain ⟨p, -, hp, -⟩ := h.parsing f hf
    rw [hnone] at hp
    cases hp
  responses := h.responses

/-- A tag that has booted has not seen a packet. -/
lemma boot (p : EslTag.BootParam) : ServedInv (TagDevice.boot cfg p, {}) where
  ownGroup := by rintro q ⟨⟩
  answered := by rintro a ⟨⟩
  parsing := by rintro f ⟨⟩
  idle _ := rfl
  accepted := rfl
  exactlyOnce := rfl
  waits := by rintro ⟨⟨⟩, -⟩
  responses := rfl

/-- An event that leaves the packet alone. -/
lemma same (h : ServedInv x) (hs : SameReception x.1 y.1) (hn : NoDispatch x.1 y.1)
    (haddr : x.1.parser.isSome → y.1.parser.isSome →
      y.1.tag.assoc.eslAddr = x.1.tag.assoc.eslAddr)
    (honce : ExactlyOnce y.1) (hy : y.2 = x.2) : ServedInv y where
  ownGroup := by
    rw [hy]
    exact h.ownGroup
  answered := by
    rw [hy]
    exact h.answered
  parsing f hf := by
    rw [hy]
    have hf' : x.1.parser = some f := by rw [← hs.parser, hf]
    obtain ⟨p, done, hp, hparsing⟩ := h.parsing f hf'
    refine ⟨p, done, hp, hparsing.congr hs.pawrSyncWork ?_⟩
    exact haddr (by rw [hf']; rfl) (by rw [hf]; rfl)
  idle hnone := by
    rw [hy]
    exact h.idle (by rw [← hs.parser, hnone])
  accepted := by
    rw [hn.accepted, hy]
    exact h.accepted
  exactlyOnce := honce
  waits hq := by
    rw [hs.parser]
    exact h.waits (hn.queued hq)
  responses := by
    rw [hs.responses, hy]
    exact h.responses

/-- The worker takes up a packet, or not. -/
lemma pawrSyncWork (h : ServedInv x) {stack : Mem}
    (hd : x.1.step cfg ead (.pawrSyncWork stack) = some y.1)
    (hy : y.2 = parseHistoryAfter x.1 (.pawrSyncWork stack) y.1 x.2) (honce : ExactlyOnce y.1) :
    ServedInv y := by
  obtain ⟨hready, hd'⟩ := step_pawrSyncWork_eq_some.mp hd
  have hn : NoDispatch x.1 y.1 := noDispatch_step hd (by rintro _ ⟨⟩) (by rintro _ ⟨⟩)
  have hresp := (@pawrSyncWorkFn_spec cfg ead x.1 stack hready.2).1
  rw [hd'] at hresp
  have hidle : x.2.current = none := h.idle hready.2
  have hcommands : y.2.commands = x.2.commands ∧ y.2.answered = x.2.answered := by
    rw [hy]
    simp only [parseHistoryAfter]
    split
    · simp [ParseHistory.commands, hidle]
    · exact ⟨rfl, rfl⟩
  refine ⟨?_, ?_, ?_, ?_, ?_, honce, ?_, ?_⟩
  · rw [hy]
    simp only [parseHistoryAfter]
    split
    · rename_i f hf
      -- the group ID has been compared
      obtain ⟨-, hgroup⟩ := parser_pawrSyncWorkFn hready.2 (hd'.symm ▸ hf)
      rw [hd'] at hgroup
      intro p hp
      rcases List.mem_append.mp hp with hp | hp
      · exact h.ownGroup p (List.mem_append_left _ hp)
      · obtain rfl := Option.some.inj (Option.mem_toList.mp hp)
        intro g hg
        rw [← hgroup]
        cases hn : f.payloadLen with
        | zero =>
            rw [hn] at hg
            cases hg
        | succ n =>
            rw [hn, Mem.read_succ] at hg
            exact (Option.some.inj hg).symm
    · exact h.ownGroup
  · rw [hcommands.2]
    exact h.answered
  · intro f hf
    obtain ⟨⟨n, rfl⟩, -⟩ := parser_pawrSyncWorkFn hready.2 (hd'.symm ▸ hf)
    refine ⟨_, [], ?_, .start n⟩
    rw [hy]
    simp only [parseHistoryAfter, hf]
    rfl
  · intro hnone
    rw [hy]
    simp only [parseHistoryAfter, hnone]
    exact hidle
  · rw [hn.accepted, hcommands.1]
    exact h.accepted
  · intro hq
    obtain ⟨f, hf, -⟩ := h.waits (hn.queued hq)
    rw [hready.2] at hf
    cases hf
  · rw [hresp, hcommands.2]
    exact h.responses

/-- The packet stays; its next command may have been taken from it. -/
lemma moved (h : ServedInv x) {rnd : Randomness} {f' : ParserFrame} {p : ParsedPacket}
    (new : List Command) (done : List Tlv) (hp : x.2.current = some p)
    (hy : y.2 = parseHistoryAfter x.1 (.parserStep rnd) y.1 x.2) (hparser : y.1.parser = some f')
    (hnew : y.1.log.accepted = x.1.log.accepted ++ new) (hpawr : pawrCommands new = new)
    (hparsing : Parsing y.1 f' { p with commands := p.commands ++ new } done)
    (honce : ExactlyOnce y.1) (hwaits : PawrQueued y.1 → f'.waiting ≠ none)
    (hresp : y.1.responses = x.1.responses) : ServedInv y := by
  have hy' : y.2 = { x.2 with current := some { p with commands := p.commands ++ new } } := by
    rw [hy]
    simp only [parseHistoryAfter, hp, hparser, hnew, List.drop_left, Option.isSome_some, if_true]
  refine ⟨?_, ?_, ?_, ?_, ?_, honce, fun hq => ⟨f', hparser, hwaits hq⟩, ?_⟩
  · rw [hy']
    intro q hq
    rcases List.mem_append.mp hq with hq | hq
    · exact h.ownGroup q (List.mem_append_left _ hq)
    · obtain rfl := Option.some.inj (Option.mem_toList.mp hq)
      exact h.ownGroup p (List.mem_append_right _ (Option.mem_toList.mpr hp))
  · rw [hy']
    exact h.answered
  · intro g hg
    obtain rfl : f' = g := Option.some.inj (hparser.symm.trans hg)
    exact ⟨_, done, by rw [hy'], hparsing⟩
  · intro hnone
    rw [hparser] at hnone
    cases hnone
  · rw [hnew, pawrCommands, List.filter_append, ← pawrCommands, ← pawrCommands, hpawr, h.accepted,
      ParseHistory.commands, ParseHistory.commands, hy', hp]
    simp
  · rw [hresp, hy']
    exact h.responses

/-- The packet is answered. -/
lemma finished (h : ServedInv x) {rnd : Randomness} {f : ParserFrame} {p : ParsedPacket}
    {tlvs : List Tlv} (hp : x.2.current = some p)
    (hy : y.2 = parseHistoryAfter x.1 (.parserStep rnd) y.1 x.2)
    (hd : x.1.endPacket cfg ead rnd f = y.1) (hvisits : Visits p.payload.tail tlvs)
    (hcommands : p.commands = (addressed p.address.eslId tlvs).map Tlv.command)
    (hslot : IsResponseSlot p.address.eslId tlvs f.rspSlot) (honce : ExactlyOnce y.1)
    (hquiet : ¬ PawrQueued x.1) : ServedInv y := by
  have hnone : y.1.parser = none := by rw [← hd]; rfl
  have hlog : y.1.log = x.1.log := by
    rw [← hd, endPacket, setPawrResponse]
    split <;> rfl
  have hqueue : PawrQueued y.1 → PawrQueued x.1 := by
    rw [← hd, endPacket, setPawrResponse]
    split <;> exact id
  have hresp : y.1.responses.map (·.responseSlot)
        = x.1.responses.map (·.responseSlot) ++ [f.rspSlot].filter (· ≠ -1)
      ∧ (y.1.responses[x.1.responses.length]?).elim (-1) (·.responseSlot) = f.rspSlot := by
    rw [← hd, endPacket, setPawrResponse]
    split
    · rename_i hf
      simp [renewTimeout, hf]
    · rename_i hf
      simp [renewTimeout, hf]
  have hy' : y.2 = { current := none, answered := x.2.answered ++ [(p, f.rspSlot)] } := by
    rw [hy]
    simp only [parseHistoryAfter, hp, hnone, hlog, List.drop_length, List.append_nil,
      Option.isSome_none, hresp.2]
    rfl
  refine ⟨?_, ?_, ?_, ?_, ?_, honce, fun hq => absurd (hqueue hq) hquiet, ?_⟩
  · have hpackets : y.2.packets = x.2.packets := by
      rw [hy', ParseHistory.packets, ParseHistory.packets, hp]
      simp
    rw [hpackets]
    exact h.ownGroup
  · intro a ha
    rw [hy'] at ha
    rcases List.mem_append.mp ha with ha | ha
    · exact h.answered a ha
    · rw [List.mem_singleton.mp ha]
      exact ⟨tlvs, hvisits, hcommands, hslot⟩
  · intro g hg
    rw [hnone] at hg
    cases hg
  · intro _
    rw [hy']
  · rw [hlog, h.accepted, ParseHistory.commands, ParseHistory.commands, hy', hp]
    simp
  · rw [hresp.1, h.responses, hy', List.map_append, List.filter_append]
    rfl

/-- The parser makes a turn. -/
lemma parserStep (h : ServedInv x) {rnd : Randomness}
    (hd : x.1.step cfg ead (.parserStep rnd) = some y.1)
    (hy : y.2 = parseHistoryAfter x.1 (.parserStep rnd) y.1 x.2) (honce : ExactlyOnce y.1) :
    ServedInv y := by
  have hturn : x.1.parserStep cfg ead rnd = some y.1 := hd
  cases hf : x.1.parser with
  | none =>
      rw [TagDevice.parserStep, hf] at hturn
      cases hturn
  | some f =>
      obtain ⟨p, done, hp, hparsing⟩ := h.parsing f hf
      have hplace := hparsing.place
      have hquiet : f.waiting = none → ¬ PawrQueued x.1 := by
        intro hw hq
        obtain ⟨g, hg, hne⟩ := h.waits hq
        rw [hf] at hg
        cases hg
        exact hne hw
      have hfree : x.1.ecpWorkPending = false → ¬ PawrQueued x.1 := by
        intro hidle hq
        rw [hq.1] at hidle
        cases hidle
      have hmove := parserMove hf hturn
      generalize hy₁ : y.1 = d' at hmove
      cases hmove with
      | goOn cpLen hw hidle hfit =>
          rw [Place, hw] at hplace
          obtain ⟨init, t, rfl, hcur, rfl, hlt⟩ := hplace
          refine h.moved [] (init ++ [t]) hp hy (by rw [hy₁]; rfl)
            (by rw [hy₁]; exact (List.append_nil _).symm) rfl ?_ honce ?_ (by rw [hy₁]; rfl)
          · rw [hy₁, List.append_nil]
            refine ⟨hparsing.address, hparsing.payload, hparsing.visited, hparsing.commands,
              hparsing.tlvSlot, hparsing.rspSlot, ?_⟩
            refine ⟨?_, .inr hfit⟩
            rw [flatten_concat, List.length_append, hcur, Nat.add_assoc]
          · rw [hy₁]
            exact fun hq => absurd hq (hfree hidle)
      | stop cpLen hw hidle hover =>
          rw [Place, hw] at hplace
          obtain ⟨init, t, rfl, hcur, rfl, hlt⟩ := hplace
          exact h.finished hp hy hy₁.symm (hparsing.visits_of_overshoot hcur hlt hover)
            hparsing.commands hparsing.rspSlot honce (hfree hidle)
      | dispatch hw hlt ha =>
          rw [Place, hw] at hplace
          refine h.moved [(tlvAt x.1.pawrSyncWork.buf.data f.cur).command]
            (done ++ [tlvAt x.1.pawrSyncWork.buf.data f.cur]) hp hy (by rw [hy₁]; rfl) ?_ rfl ?_
            honce (by rintro _ ⟨⟩) (by rw [hy₁]; rfl)
          · rw [hy₁]
            exact accepted_dispatchTlv f x.1
          · rw [hy₁]
            refine Parsing.congr (d := x.1) (hparsing.visit hw ?_ ?_ ?_ ?_ (by rw [if_pos ha])) rfl rfl
            · rfl
            · rfl
            · rfl
            · exact ⟨done, _, rfl, hplace.1, (length_tlvAt _ _).symm, hlt⟩
      | skip hw hlt ha hfit =>
          rw [Place, hw] at hplace
          refine h.moved [] (done ++ [tlvAt x.1.pawrSyncWork.buf.data f.cur]) hp hy
            (by rw [hy₁]; rfl) (by rw [hy₁]; exact (List.append_nil _).symm) rfl ?_ honce ?_
            (by rw [hy₁]; rfl)
          · rw [hy₁]
            refine Parsing.congr (d := x.1) (hparsing.visit hw ?_ ?_ ?_ ?_ (by rw [if_neg ha])) rfl rfl
            · rfl
            · rfl
            · rfl
            · rw [Place, show ({ x.1.visitTlv f with
                cur := f.cur + ecpLen (x.1.pawrSyncWork.buf.data f.cur) } : ParserFrame).waiting
                  = none from hw]
              refine ⟨?_, .inr hfit⟩
              rw [flatten_concat, List.length_append, length_tlvAt, ← Nat.add_assoc, ← hplace.1]
          · rw [hy₁]
            exact fun hq => absurd hq (hquiet hw)
      | skipStop hw hlt ha hover =>
          rw [Place, hw] at hplace
          have hvisit : Parsing x.1 { x.1.visitTlv f with
              waiting := some (ecpLen (x.1.pawrSyncWork.buf.data f.cur)) }
              { p with commands := p.commands } (done ++ [tlvAt x.1.pawrSyncWork.buf.data f.cur]) := by
            refine hparsing.visit hw ?_ ?_ ?_ ?_ (by rw [if_neg ha, List.append_nil])
            · rfl
            · rfl
            · rfl
            · exact ⟨done, _, rfl, hplace.1, (length_tlvAt _ _).symm, hlt⟩
          refine h.finished hp hy hy₁.symm (hvisit.visits_of_overshoot hplace.1 hlt ?_)
            hvisit.commands hvisit.rspSlot honce (hquiet hw)
          rwa [length_tlvAt]
      | finish hw hend =>
          exact h.finished hp hy hy₁.symm (hparsing.visits_of_end hw hend) hparsing.commands
            hparsing.rspSlot honce (hquiet hw)

/-- **One step.** -/
theorem preserved : PreservedUnder (stepParse cfg ead) (Orderly cfg ead) ServedInv := by
  intro x e y h hg hstep
  obtain ⟨hd, hy⟩ := withHistory_eq_some.mp hstep
  have honce : ExactlyOnce y.1 := exactlyOnce_step h.exactlyOnce hg.oneAtATime hd
  have hother : (∀ counter subevent buf, e = .recvCb counter subevent buf → ¬ x.1.Receives buf) →
      (∀ stack, e ≠ .pawrSyncWork stack) → (∀ rnd, e ≠ .parserStep rnd) →
      (∀ p, e ≠ .reboot p) → parseHistoryAfter x.1 e y.1 x.2 = x.2 → ServedInv y :=
    fun h₁ h₂ h₃ h₄ hh => h.same (sameReception_step hd h₁ h₂ h₃ h₄) (noDispatch_step hd h₃ h₄)
      (hg.address y.1 hd) honce (hy.trans hh)
  cases e with
  | recvCb counter subevent buf =>
      by_cases hr : x.1.Receives buf
      · -- the worker is idle, so there is no packet to disturb
        have hidle : x.1.WorkerIdle := hg.idle buf rfl hr
        have hy₁ : x.1.recvCb cfg counter subevent buf = y.1 := Option.some.inj hd
        obtain ⟨-, hparser, hresp⟩ := hy₁ ▸ recvCb_of_receives cfg counter subevent hr
        have hn : NoDispatch x.1 y.1 := noDispatch_step hd (by rintro _ ⟨⟩) (by rintro _ ⟨⟩)
        have hy₂ : y.2 = x.2 := hy
        have hnone : y.1.parser = none := hparser.trans hidle.2
        refine ⟨by rw [hy₂]; exact h.ownGroup, by rw [hy₂]; exact h.answered, ?_,
          fun _ => by rw [hy₂]; exact h.idle hidle.2, by rw [hn.accepted, hy₂]; exact h.accepted, honce,
          ?_, by rw [hresp, hy₂]; exact h.responses⟩
        · intro f hf
          rw [hnone] at hf
          cases hf
        · intro hq
          rw [hparser]
          exact h.waits (hn.queued hq)
      · refine hother ?_ (by rintro _ ⟨⟩) (by rintro _ ⟨⟩) (by rintro _ ⟨⟩) rfl
        rintro _ _ _ ⟨⟩
        exact hr
  | pawrSyncWork stack => exact h.pawrSyncWork hd hy honce
  | parserStep rnd => exact h.parserStep hd hy honce
  | reboot p =>
      have hboot : y = (TagDevice.boot cfg { p with settings := x.1.tag.assoc.settings }, {}) :=
        Prod.ext (Option.some.inj hd).symm hy
      rw [hboot]
      exact .boot _
  | _ => exact hother (by rintro _ _ _ ⟨⟩) (by rintro _ ⟨⟩) (by rintro _ ⟨⟩) (by rintro _ ⟨⟩) rfl

end ServedInv

/-- **Packets among other events.**  In every orderly run from boot every packet is dispatched TLV by
TLV, its commands are executed once each before it is answered, and it is answered in the slot of the
last TLV of its own. -/
theorem packetsServed_of_orderly (cfg : Config) (ead : Ead) (p : EslTag.BootParam)
    (es : List TagEvent)
    (hG : StepsMeet (stepParse cfg ead) (Orderly cfg ead) (TagDevice.boot cfg p, {}) es) :
    AlongRun (stepParse cfg ead) PacketsServed (TagDevice.boot cfg p, {}) es :=
  (alongRun_of_stepsMeet ServedInv.preserved (.boot p) hG).imp fun _ => ServedInv.packetsServed

/-- A Ping is written and answered while the packet is parsed. -/
def writeBetweenTlvs : List TagEvent :=
  pingReceived ++ [.eslControlWrite (.ofBytes [0x00, 0x00]), .ecpWork {}, .tick 100] ++ pingAnswered

theorem packetsServed_writeBetweenTlvs :
    AlongRun (stepParse .sample .clear) PacketsServed (TagDevice.boot .sample {}, {})
      writeBetweenTlvs :=
  packetsServed_of_orderly .sample .clear {} _ (by decide +kernel)

end NrfEsl
