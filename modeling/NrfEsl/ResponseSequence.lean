import NrfEsl.Lib.RollbackBuffer
import NrfEsl.Packet

/-!
# The response to a packet

Every TLV the tag executes, its own and broadcast ones, appends its response to one buffer of 48
bytes; a response that does not fit replaces the last one by an Error with Capacity Limit, and the
loop goes on.  That buffer is a `RollbackBuffer` of the executed commands
(`ResponseBuffer.parseTlvs`).

`AnswersOwn` is what the response to a packet should be: one response TLV for each TLV with the
tag's own ID, in order, or those before the rolled back one and a final Error.  **When it is**
(`answersOwn_iff`): broadcast TLVs take no room and nothing comes behind the Error.
-/

namespace NrfEsl

open Tiling TagDevice RollbackBuffer

/-! ## Responses are TLVs -/

/-- The callbacks of the application return a length that matches the length nibble. -/
structure HandlerEnv.MatchesNibble (cfg : Config) (env : HandlerEnv) : Prop where
  sensor : cfg.hasSensorControl = true →
    ∀ len data, env.sensor = .reading len data → len.toNat ≤ 15
  vendor : cfg.hasVsResponseHandler = true → env.vendorLen.toNat
    = ecpLen (env.vendorBytes.headD EslRespCode.vendorSpecificStateMask.toByte)

lemma isItem_read {m : Mem} {op : UInt8} {n : ℕ} (h₀ : m 0 = op) (hn : n = ecpLen op) :
    IsItem ecpLen (m.read 0 n) := by
  have hpos := two_le_ecpLen op
  obtain ⟨k, rfl⟩ := Nat.exists_eq_add_of_le' (show 1 ≤ n by omega)
  rw [Mem.read_succ, h₀]
  simpa [IsItem] using hn

/-- The length nibble of a sensor response. -/
lemma ecpLen_sensor {len : UInt8} (h : len.toNat ≤ 15) :
    ecpLen ((len &&& 0x0f) <<< 4 ||| EslRespCode.sensorValueStateMask.toByte) = len.toNat + 2 := by
  have hall : ∀ len : UInt8, len.toNat ≤ 15 →
      ecpLen ((len &&& 0x0f) <<< 4 ||| EslRespCode.sensorValueStateMask.toByte) = len.toNat + 2 :=
    forall_uint8 (P := fun len => len.toNat ≤ 15 →
      ecpLen ((len &&& 0x0f) <<< 4 ||| EslRespCode.sensorValueStateMask.toByte) = len.toNat + 2)
      (by decide +kernel)
  exact hall len h

/-- **Every response is a TLV** when the callbacks match the nibble. -/
theorem isItem_responseBytes {cfg : Config} {env : HandlerEnv}
    (henv : env.MatchesNibble cfg) (t : EslTag) : IsItem ecpLen (t.responseBytes cfg env) := by
  simp only [EslTag.responseBytes]
  cases t.ecp.resp.respOp with
  | sensorValueStateMask =>
      dsimp only
      split
      · rename_i hcb
        cases hs : env.sensor with
        | busy => exact (by decide : 2 = ecpLen EslRespCode.err.toByte)
        | reading len data =>
            have hlen := ecpLen_sensor (henv.sensor hcb len data hs)
            simp only [IsItem, hlen, List.length_cons, Mem.length_read]
      · exact isItem_read (by simp [Mem.write]) rfl
  | vendorSpecificStateMask =>
      dsimp only
      split
      · rename_i hcb
        refine isItem_read ?_ (henv.vendor hcb)
        cases hb : env.vendorBytes with
        | nil => simp [Mem.write]
        | cons b bs => simp [Mem.write]
      · exact isItem_read (by simp [Mem.write]) rfl
  | _ => exact rfl

/-- A TLV has at most 17 bytes. -/
lemma length_le_of_isItem {xs : List UInt8} (h : IsItem ecpLen xs) : xs.length ≤ 17 := by
  cases xs with
  | nil => exact h.elim
  | cons x xs =>
      rw [show (x :: xs).length = ecpLen x from h]
      exact ecpLen_le x

/-! ## The buffer of a packet -/

/-- The response TLV of an executed command. -/
def Execution.response (x : Execution) : List UInt8 :=
  match x.answer with
  | .notified value | .appended value => value
  | .foreign | .factoryReset => []

/-- The command carried an ESL ID of its own, not the broadcast ID. -/
def Execution.isOwn (x : Execution) : Bool := x.command.bytes.getD 1 0 != eslAddrBroadcast

/-- The bytes of an entry: a response, or the Error with Capacity Limit. -/
def rspBytes (y : Option Execution) : List UInt8 :=
  match y with
  | some x => x.response
  | none => [EslRespCode.err.toByte, EslRspErrCode.capLimit.toByte]

/-- The entries of the response buffer after some commands of a packet. -/
def responseTlvs (xs : List Execution) : List (Option Execution) :=
  pushAll (fun x => x.response.length) eslSyncPktPayloadMaxLen 2 xs

/-- **What the response to a packet should be**: the responses to the commands with the tag's own
ID, or those before the rolled back one and a final Error. -/
def AnswersOwn (xs : List Execution) : Prop :=
  Meets (fun x => x.response.length) eslSyncPktPayloadMaxLen (xs.filter Execution.isOwn)
    (responseTlvs xs)

lemma length_flatMap_rspBytes (ys : List (Option Execution)) :
    (ys.flatMap rspBytes).length = entrySizes (fun x => x.response.length) 2 ys := by
  have hsize : ∀ y : Option Execution, (rspBytes y).length
      = (y.map fun x => x.response.length).getD 2 := by
    rintro (_ | x) <;> rfl
  simp only [List.length_flatMap, entrySizes, total, hsize]

/-- The last entry has the length remembered for a rollback. -/
def LastLen (ys : List (Option Execution)) (lastTlvLen : ℕ) : Prop :=
  ∀ zs y, ys = zs ++ [y] → lastTlvLen = (rspBytes y).length

lemma lastLen_concat (ys : List (Option Execution)) (y : Option Execution) :
    LastLen (ys ++ [y]) (rspBytes y).length := by
  intro zs y' h
  rw [(List.append_inj' h rfl).2 |> List.singleton_inj.mp]

/-- **Appending a response is a push** on the entries. -/
lemma appendResponse_push {ys : List (Option Execution)} {lastTlvLen : ℕ}
    (hlast : LastLen ys lastTlvLen) (x : Execution) :
    let ys' := push (fun x => x.response.length) eslSyncPktPayloadMaxLen 2 ys x
    (appendResponse (ys.flatMap rspBytes) lastTlvLen x.response).1 = ys'.flatMap rspBytes
      ∧ LastLen ys' (appendResponse (ys.flatMap rspBytes) lastTlvLen x.response).2 := by
  intro ys'
  simp only [ys', appendResponse, push, length_flatMap_rspBytes, gt_iff_lt]
  split
  · -- roll back
    have htake : (ys.flatMap rspBytes).take
        (entrySizes (fun x => x.response.length) 2 ys - lastTlvLen)
          = ys.dropLast.flatMap rspBytes := by
      rcases List.eq_nil_or_concat ys with rfl | ⟨zs, y, rfl⟩
      · simp
      · rw [List.concat_eq_append] at hlast ⊢
        rw [← length_flatMap_rspBytes, hlast zs y rfl, List.dropLast_concat, List.flatMap_append]
        refine List.take_left' ?_
        simp
    refine ⟨?_, lastLen_concat _ none⟩
    rw [htake, List.flatMap_append]
    rfl
  · refine ⟨?_, lastLen_concat _ (some x)⟩
    rw [List.flatMap_append]
    simp [rspBytes]

/-- The TLVs of a packet the tag executes: those that carry its ID or the broadcast ID when their
turn comes. -/
def executedTlvs (cfg : Config) : EslTag → List Tlv → List Tlv
  | _, [] => []
  | t, tlv :: rest =>
      if Tlv.eslId tlv = t.assoc.eslAddr.eslId ∨ Tlv.eslId tlv = eslAddrBroadcast then
        tlv :: executedTlvs cfg (executeTlv cfg t tlv) rest
      else executedTlvs cfg t rest

lemma executedTlvs_concat (cfg : Config) (t : EslTag) (tlvs : List Tlv) (tlv : Tlv) :
    executedTlvs cfg t (tlvs ++ [tlv]) = executedTlvs cfg t tlvs
      ++ executedTlvs cfg (executeTlvs cfg t tlvs) [tlv] := by
  induction tlvs generalizing t with
  | nil => rfl
  | cons a tlvs ih =>
      by_cases h : Tlv.eslId a = t.assoc.eslAddr.eslId ∨ Tlv.eslId a = eslAddrBroadcast
      · simp only [List.cons_append, executedTlvs, if_pos h, ih]
        rfl
      · have hskip : executeTlv cfg t a = t := by rw [executeTlv, if_neg h]
        simp only [List.cons_append, executedTlvs, if_neg h, ih]
        rw [executeTlvs, executeTlvs, List.foldl_cons, hskip]

section Packet

variable {cfg : Config} {env : ℕ → HandlerEnv} {d : TagDevice}

/-- The log and the response buffer after some TLVs of a packet. -/
structure ResponseBuffer (cfg : Config) (d : TagDevice) (done : List Tlv)
    (s : ParserFrame × TagDevice) (xs : List Execution) : Prop where
  executed : s.2.log.executed = d.log.executed ++ xs
  commands : xs.map (·.command) = (executedTlvs cfg d.tag done).map fun t => ⟨.pawr, t.toList⟩
  buffer : s.2.ecpRspNetBuf = (responseTlvs xs).flatMap rspBytes
  lastLen : LastLen (responseTlvs xs) s.2.ecpRspLastTlvLen
  isItem : ∀ x ∈ xs, IsItem ecpLen x.response
  tag : s.2.tag = executeTlvs cfg d.tag done

/-- One more TLV. -/
lemma ResponseBuffer.turn (henv : ∀ n, (env n).MatchesNibble cfg) {done : List Tlv}
    {s : ParserFrame × TagDevice} {xs : List Execution} {t : Tlv} {rest : List UInt8}
    (hreads : Reads s (t.toList ++ rest)) (h : ResponseBuffer cfg d done s xs) :
    ∃ xs', ResponseBuffer cfg d (done ++ [t]) (turn cfg env s) xs' := by
  have htag : (TagDevice.turn cfg env s).2.tag = executeTlvs cfg d.tag (done ++ [t]) := by
    rw [TagDevice.turn, hreads.tag_runTlv env, h.tag, executeTlvs, executeTlvs, List.foldl_concat]
  by_cases ha : Addressed s.1 s.2
  · obtain ⟨hexec, happend, -⟩ := hreads.runTlv_addressed env ha
    have haddr := hreads.addressed_iff.mp ha
    rw [h.tag] at haddr
    generalize hrsp : response cfg (env s.2.log.executed.length) (s.2.dispatchTlv s.1).ecpNetBuf
      s.2.tag = rsp at hexec happend
    have hitem : IsItem ecpLen rsp := by
      rw [← hrsp]
      exact isItem_responseBytes (henv _) _
    have hpush : responseTlvs (xs ++ [⟨⟨.pawr, t.toList⟩, .appended rsp⟩])
        = push (fun x => x.response.length) eslSyncPktPayloadMaxLen 2 (responseTlvs xs)
          ⟨⟨.pawr, t.toList⟩, .appended rsp⟩ := pushAll_concat _ _
    have hbuf := appendResponse_push h.lastLen ⟨⟨.pawr, t.toList⟩, .appended rsp⟩
    rw [h.buffer] at happend
    rw [← hpush] at hbuf
    refine ⟨xs ++ [⟨⟨.pawr, t.toList⟩, .appended rsp⟩], ?_, ?_, ?_, ?_, ?_, htag⟩
    · rw [TagDevice.turn, hexec, h.executed, List.append_assoc]
    · rw [executedTlvs_concat, executedTlvs, if_pos haddr, List.map_append, h.commands,
        List.map_append]
      rfl
    · rw [← hbuf.1]
      exact congrArg Prod.fst happend
    · have hlen := congrArg Prod.snd happend
      simp only [TagDevice.turn] at hlen ⊢
      rw [hlen]
      exact hbuf.2
    · intro x hx
      rcases List.mem_append.mp hx with hx | hx
      · exact h.isItem x hx
      · rw [List.mem_singleton.mp hx]
        exact hitem
  · have haddr := (not_congr hreads.addressed_iff).mp ha
    rw [h.tag] at haddr
    have hskip : s.2.runTlv cfg env s.1 = s.2 := by rw [runTlv, if_neg ha]
    refine ⟨xs, ?_, ?_, ?_, ?_, h.isItem, htag⟩
    · rw [TagDevice.turn, hskip, h.executed]
    · rw [executedTlvs_concat, executedTlvs, if_neg haddr, h.commands]
      simp [executedTlvs]
    · rw [TagDevice.turn, hskip, h.buffer]
    · rw [TagDevice.turn, hskip]
      exact h.lastLen

/-- **The buffer of a packet is a rollback buffer** of the commands the tag executed. -/
theorem ResponseBuffer.parseTlvs (henv : ∀ n, (env n).MatchesNibble cfg) {tlvs : List Tlv}
    (hpacket : TiledPacket tlvs d) :
    ∃ xs, ResponseBuffer cfg d tlvs (parseTlvs cfg env (atFirstTlv d).1 (atFirstTlv d).2) xs := by
  have hreads : Reads (atFirstTlv d) (flatten tlvs) :=
    hpacket.tiled ▸ reads_atFirstTlv hpacket.isEslAd hpacket.ownGroup hpacket.hasGroup
  rw [parseTlvs_whole hreads]
  refine (turns_rule (I := fun done s => ∃ xs, ResponseBuffer cfg d done s xs)
    (by rwa [List.append_nil]) ⟨[], ?_⟩ ?_).1
  · have hbegin := beginPacket_ownGroup hpacket.isEslAd hpacket.ownGroup
    refine ⟨?_, rfl, ?_, ?_, by simp, ?_⟩
    · simp [atFirstTlv, hbegin]
    · simp only [atFirstTlv, hbegin]
      rfl
    · intro zs y h
      exact absurd h (by simp [responseTlvs, pushAll])
    · rw [atFirstTlv, tag_beginPacket]
      rfl
  · rintro done t rest - hread ⟨xs, hinv⟩
    exact hinv.turn henv hread

end Packet

/-- **Response sequence.**  The response buffer of a packet holds the entries `responseTlvs` of
the commands the tag executed, each a response TLV of its own; they are the answers to the TLVs with
the tag's own ID exactly when `GoodFor` holds of their lengths. -/
theorem answersOwn_iff {cfg : Config} {env : ℕ → HandlerEnv} {d : TagDevice} {tlvs : List Tlv}
    (hpacket : TiledPacket tlvs d) (henv : ∀ n, (env n).MatchesNibble cfg) :
    ∃ f d' xs, d.parsePacket cfg env = some (f, d')
      ∧ d'.log.executed = d.log.executed ++ xs
      ∧ xs.map (·.command) = (executedTlvs cfg d.tag tlvs).map (fun t => ⟨.pawr, t.toList⟩)
      ∧ (∀ x ∈ xs, IsItem ecpLen x.response)
      ∧ d'.ecpRspNetBuf = (responseTlvs xs).flatMap rspBytes
      ∧ (AnswersOwn xs
        ↔ GoodFor (fun x => x.response.length) eslSyncPktPayloadMaxLen 2 Execution.isOwn xs) := by
  have hparse := parsePacket_ownGroup cfg env hpacket.isEslAd hpacket.ownGroup
  obtain ⟨xs, h⟩ := @ResponseBuffer.parseTlvs cfg env d henv tlvs hpacket
  refine ⟨_, _, xs, hparse, h.executed, h.commands, h.isItem, h.buffer, ?_⟩
  refine meets_filter_iff fun x hx => ?_
  exact (length_le_of_isItem (h.isItem x hx)).trans (by decide)

/-- Three of five TLVs are the tag's own, and their answers are the response. -/
theorem answersOwn_mixed :
    ∃ f d' xs, (holding (eslAd (0 :: flatten (mixedTlvs 0)))).parsePacket .sample (fun _ => {})
        = some (f, d')
      ∧ d'.log.executed = xs ∧ xs.length = 3 ∧ AnswersOwn xs := by
  have hpacket : TiledPacket (mixedTlvs 0) (holding (eslAd (0 :: flatten (mixedTlvs 0)))) := by
    constructor <;> decide +kernel
  have henv : ∀ n : ℕ, ((fun _ => {}) n : HandlerEnv).MatchesNibble .sample :=
    fun _ => ⟨by rintro _ _ _ ⟨⟩, by rintro ⟨⟩⟩
  obtain ⟨f, d', xs, hparse, hexec, -, -, -, hiff⟩ :=
    @answersOwn_iff .sample (fun _ => {}) _ (mixedTlvs 0) hpacket henv
  have hrun : ((holding (eslAd (0 :: flatten (mixedTlvs 0)))).parsePacket .sample fun _ => {}).map
      (fun r => (r.2.log.executed.length,
        decide (total (fun x : Execution => x.response.length) r.2.log.executed
          ≤ eslSyncPktPayloadMaxLen), r.2.log.executed.all Execution.isOwn))
      = some (3, true, true) := by decide +kernel
  have hxs : d'.log.executed = xs := hexec
  rw [hparse, Option.map_some, Option.some_inj, Prod.mk.injEq, Prod.mk.injEq, hxs] at hrun
  obtain ⟨hlen, hfits, hown⟩ := hrun
  exact ⟨f, d', xs, hparse, hxs, hlen,
    hiff.mpr (.inl ⟨of_decide_eq_true hfits, List.all_eq_true.mp hown⟩)⟩

/-- The parser goes through a broadcast Ping and an own one, and answers. -/
def broadcastThenOwn : List TagEvent :=
  let rnd : Randomness := ⟨Vector.replicate 5 0, Vector.replicate 5 0⟩
  [ .parserStep rnd, .ecpWork {}, .parserStep rnd, .parserStep rnd, .ecpWork {}, .parserStep rnd
  , .parserStep rnd ]

/-- The response sent carries the answers to both (Basic State, twice), not to the own one only. -/
theorem answersOwn_fails :
    ∃ d' xs, TransitionSystem.run (step .sample .clear)
        (holding [6, 0x34, 0, 0, 0xFF, 0, 0]).beginPacket broadcastThenOwn = some d'
      ∧ d'.log.executed = xs
      ∧ d'.responses.map (·.data) = [[18, 0x31, 0, 0, 0, 0, 0, 7, 0x34]
        ++ [0x10, 2, 0, 0x10, 2, 0] ++ [0, 0, 0, 0]]
      ∧ xs.filter Execution.isOwn = [⟨⟨.pawr, [0, 0]⟩, .appended [0x10, 2, 0]⟩]
      ∧ ¬ AnswersOwn xs := by
  have hrun : (TransitionSystem.run (step .sample .clear)
        (holding [6, 0x34, 0, 0, 0xFF, 0, 0]).beginPacket broadcastThenOwn).map
          (fun d => (d.log.executed, d.responses.map (·.data)))
      = some ([⟨⟨.pawr, [0, 0xFF]⟩, .appended [0x10, 2, 0]⟩,
          ⟨⟨.pawr, [0, 0]⟩, .appended [0x10, 2, 0]⟩],
        [[18, 0x31, 0, 0, 0, 0, 0, 7, 0x34] ++ [0x10, 2, 0, 0x10, 2, 0] ++ [0, 0, 0, 0]]) := by
    decide +kernel
  obtain ⟨d', hd', heq⟩ := Option.map_eq_some_iff.mp hrun
  refine ⟨d', _, hd', congrArg Prod.fst heq, congrArg Prod.snd heq, by decide, ?_⟩
  intro h
  have hfits := congrArg List.length (h.fits (by decide))
  revert hfits
  decide

end NrfEsl
