import NrfEsl.Tag.Step

/-!
# The packet slot of a tag

`esl_pawr_sync_work` is one record with two owners.  `recv_cb` fills it with a received packet and
queues the worker; the worker decrypts the packet, points the same record at the plaintext and parses
it there, yielding between two TLVs.  The response at the end takes its event counter and subevent
from the record once more.

**What should hold.**  A packet that finds the worker idle is parsed on its own bytes, and the
response to it names the event it came from.  Which packet that is, is a history variable
(`PacketHistory`): it starts when the packet is received and ends with the parser.

**When it does** (`ownPacket_of_idle`).  `recv_cb` does not look whether the record is in use.  As
long as every packet finds the worker idle, nothing else gets in between; a packet that does not
replaces the waiting one, or the bytes and the event of the one that is parsed
(`not_ownPacket_of_waiting`, `not_ownPacket_of_parsing`).
-/

namespace NrfEsl

open TransitionSystem

/-! ## Specification -/

/-- A packet as the stack hands it over. -/
structure SyncPacket where
  buf : NetBuf
  periodicEventCounter : UInt16
  subevent : UInt8

/-- What the parser gets to see of a packet: its decrypted bytes, behind length and AD type. -/
def SyncPacket.plaintext (ead : Ead) (key : KeyMaterial) (stack : Mem) (p : SyncPacket) : NetBuf :=
  (TagDevice.decryptPacket ead key stack p.buf).val.2.pull adHeaderLen

/-- What the slot is used for. -/
inductive SlotUse
  | idle
  /-- The packet was received while the worker was idle and has not been taken up. -/
  | waiting (p : SyncPacket)
  /-- The packet is parsed, on this plaintext. -/
  | parsing (p : SyncPacket) (plaintext : NetBuf)

/-- The packet in the slot, and the packets that got a response. -/
structure PacketHistory where
  use : SlotUse := .idle
  answered : List (UInt16 × UInt8) := []

/-- The worker has nothing queued and is not parsing. -/
def TagDevice.WorkerIdle (d : TagDevice) : Prop :=
  d.pawrSyncWork.pending = false ∧ d.parser = none

instance (d : TagDevice) : Decidable d.WorkerIdle := inferInstanceAs (Decidable (_ ∧ _))

/-- `recv_cb` takes the packet: it is not empty and the tag is synchronised. -/
def TagDevice.Receives (buf : NetBuf) (d : TagDevice) : Prop :=
  d.tag.assoc.eslState = .synchronized ∧ buf.len ≠ 0

instance (buf : NetBuf) (d : TagDevice) : Decidable (d.Receives buf) :=
  inferInstanceAs (Decidable (_ ∧ _))

/-- The history after one more event. -/
def packetHistoryAfter (ead : Ead) (d : TagDevice) (e : TagEvent) (d' : TagDevice)
    (h : PacketHistory) : PacketHistory :=
  match e with
  | .reboot _ => {}
  | .recvCb counter subevent buf =>
      if d.Receives buf ∧ d.WorkerIdle then { h with use := .waiting ⟨buf, counter, subevent⟩ } else h
  | .pawrSyncWork stack =>
      match h.use with
      | .waiting p =>
          { h with use := if d'.parser.isSome then
              .parsing p (p.plaintext ead d.tag.assoc.eslApKey stack) else .idle }
      | _ => h
  | .parserStep _ =>
      match h.use with
      | .parsing p _ =>
          if d'.parser.isSome then h
          else
            { use := .idle
              answered := if d.responses.length < d'.responses.length then
                h.answered ++ [(p.periodicEventCounter, p.subevent)] else h.answered }
      | _ => h
  | _ => h

/-- The tag, with its history. -/
def stepPacket (cfg : Config) (ead : Ead) :
    TagDevice × PacketHistory → TagEvent → Option (TagDevice × PacketHistory) :=
  withHistory (packetHistoryAfter ead) (TagDevice.step cfg ead)

/-- Every packet received by an idle worker is parsed on its own bytes and answered as itself. -/
structure OwnPacket (x : TagDevice × PacketHistory) : Prop where
  waiting : ∀ p, x.2.use = .waiting p →
    x.1.pawrSyncWork = ⟨p.buf, p.periodicEventCounter, p.subevent, true⟩
  parsing : ∀ p plaintext, x.2.use = .parsing p plaintext → x.1.pawrSyncWork.buf = plaintext
  answered : x.1.responses.map (fun r => (r.requestEvent, r.requestSubevent)) = x.2.answered

/-- The bytes `recv_cb` is called with. -/
def TagEvent.packet? : TagEvent → Option NetBuf
  | .recvCb _ _ buf => some buf
  | _ => none

/-- A packet that is received finds the worker idle. -/
def FindsWorkerIdle (x : TagDevice × PacketHistory) (e : TagEvent) : Prop :=
  ∀ buf, buf ∈ e.packet? → x.1.Receives buf → x.1.WorkerIdle

instance (x : TagDevice × PacketHistory) (e : TagEvent) : Decidable (FindsWorkerIdle x e) :=
  inferInstanceAs (Decidable (∀ buf, buf ∈ e.packet? → _))

/-! ## What the handlers do to the slot -/

namespace TagDevice

variable {cfg : Config} {ead : Ead} {d d' : TagDevice} {e : TagEvent}

/-- Neither the slot nor the parser nor the responses change. -/
structure SameReception (d d' : TagDevice) : Prop where
  pawrSyncWork : d'.pawrSyncWork = d.pawrSyncWork
  parser : d'.parser = d.parser
  responses : d'.responses = d.responses

lemma SameReception.rfl : SameReception d d := ⟨Eq.refl _, Eq.refl _, Eq.refl _⟩

lemma sameReception_onTag (f : EslTag → EslTag) : SameReception d (d.onTag f) :=
  ⟨Eq.refl _, Eq.refl _, Eq.refl _⟩

lemma sameReception_ecpCommandHandler (env : HandlerEnv) :
    SameReception d (d.ecpCommandHandler cfg env) := by
  have hresponse : ∀ d : TagDevice, SameReception d (d.ecpResponseHandler cfg env) := by
    intro d
    simp only [ecpResponseHandler]
    split
    · constructor <;> rfl
    · split <;> constructor <;> rfl
  simp only [ecpCommandHandler]
  split
  · have h := hresponse { d with
      ecpWorkPending := false, tag := (d.tag.executeCommand cfg d.ecpNetBuf).1 }
    exact ⟨h.pawrSyncWork, h.parser, h.responses⟩
  · constructor <;> rfl

/-- A packet that is not received leaves the slot alone. -/
lemma sameReception_recvCb {counter subevent buf} (h : ¬ d.Receives buf) :
    SameReception d (d.recvCb cfg counter subevent buf) := by
  simp only [recvCb]
  split
  · exact .rfl
  · rename_i hs
    have hlen : buf.len = 0 := by
      by_contra hlen
      exact h ⟨not_not.mp hs, hlen⟩
    rw [if_pos hlen]
    constructor <;> rfl

/-- A packet that is received replaces what is in the slot. -/
lemma recvCb_of_receives (cfg : Config) (counter subevent) {buf} (h : d.Receives buf) :
    (d.recvCb cfg counter subevent buf).pawrSyncWork = ⟨buf, counter, subevent, true⟩
      ∧ (d.recvCb cfg counter subevent buf).parser = d.parser
      ∧ (d.recvCb cfg counter subevent buf).responses = d.responses := by
  rw [recvCb, if_neg (not_not.mpr h.1)]
  dsimp only
  rw [if_neg h.2]
  exact ⟨rfl, rfl, rfl⟩

/-- The worker takes up the packet in the slot, on the plaintext of that packet, or becomes idle. -/
lemma pawrSyncWorkFn_spec (stack : Mem) (hidle : d.parser = none) :
    (d.pawrSyncWorkFn cfg ead stack).responses = d.responses
      ∧ (d.pawrSyncWorkFn cfg ead stack).pawrSyncWork.pending = false
      ∧ ((d.pawrSyncWorkFn cfg ead stack).parser.isSome = true →
          (d.pawrSyncWorkFn cfg ead stack).pawrSyncWork
            = ⟨(decryptPacket ead d.tag.assoc.eslApKey stack d.pawrSyncWork.buf).val.2.pull
                adHeaderLen,
              d.pawrSyncWork.periodicEventCounter, d.pawrSyncWork.subevent, false⟩) := by
  obtain ⟨r, hr⟩ : ∃ r, (decryptPacket ead d.tag.assoc.eslApKey stack d.pawrSyncWork.buf).val = r :=
    ⟨_, rfl⟩
  have hbegin : ∀ d : TagDevice, d.parser = none → d.pawrSyncWork.pending = false →
      d.beginPacket.responses = d.responses ∧ d.beginPacket.pawrSyncWork.pending = false
        ∧ (d.beginPacket.parser.isSome = true →
            d.beginPacket.pawrSyncWork = { d.pawrSyncWork with
              buf := d.pawrSyncWork.buf.pull adHeaderLen }) := by
    intro d hnone hpending
    simp only [beginPacket]
    split
    · exact ⟨rfl, hpending, fun h => by simp [hnone] at h⟩
    · split
      · exact ⟨rfl, hpending, fun h => by simp [hnone] at h⟩
      · exact ⟨rfl, hpending, fun _ => rfl⟩
  simp only [pawrSyncWorkFn, hr]
  split
  · obtain ⟨hresp, hpending, hsome⟩ := hbegin
      { d with pawrSyncWork := { d.pawrSyncWork with pending := false, buf := r.2 } } hidle rfl
    split
    · exact ⟨hresp, hpending, hsome⟩
    · rename_i hnone
      exact ⟨hresp, hpending, fun h => absurd h hnone⟩
  · exact ⟨rfl, rfl, fun h => by simp [hidle] at h⟩

/-- The parser leaves the slot alone.  Its last turn passes at most one response to the stack, with
the event counter and the subevent in the slot. -/
lemma parserStep_spec {rnd : Randomness} (h : d.parserStep cfg ead rnd = some d') :
    d'.pawrSyncWork = d.pawrSyncWork
      ∧ ((d'.parser.isSome = true ∧ d'.responses = d.responses)
        ∨ d'.parser = none ∧ (d'.responses = d.responses
          ∨ ∃ r : PawrResponse, d'.responses = d.responses ++ [r]
            ∧ r.requestEvent = d.pawrSyncWork.periodicEventCounter
            ∧ r.requestSubevent = d.pawrSyncWork.subevent)) := by
  have hend : ∀ f, (d.endPacket cfg ead rnd f).pawrSyncWork = d.pawrSyncWork
      ∧ (d.endPacket cfg ead rnd f).parser = none
      ∧ ((d.endPacket cfg ead rnd f).responses = d.responses
        ∨ ∃ r : PawrResponse, (d.endPacket cfg ead rnd f).responses = d.responses ++ [r]
          ∧ r.requestEvent = d.pawrSyncWork.periodicEventCounter
          ∧ r.requestSubevent = d.pawrSyncWork.subevent) := by
    intro f
    rw [endPacket, setPawrResponse]
    split
    · exact ⟨rfl, rfl, .inl rfl⟩
    · exact ⟨rfl, rfl, .inr ⟨_, rfl, rfl, rfl⟩⟩
  cases parserTurn h with
  | move => exact ⟨rfl, .inl ⟨rfl, rfl⟩⟩
  | dispatch => exact ⟨rfl, .inl ⟨rfl, rfl⟩⟩
  | finish f f' => exact ⟨(hend f').1, .inr (hend f').2⟩

/-- **Four events touch the slot**: a packet that is received, the worker, the parser, a boot. -/
lemma sameReception_step (hstep : d.step cfg ead e = some d')
    (hrecv : ∀ counter subevent buf, e = .recvCb counter subevent buf → ¬ d.Receives buf)
    (hwork : ∀ stack, e ≠ .pawrSyncWork stack) (hparser : ∀ rnd, e ≠ .parserStep rnd)
    (hboot : ∀ p, e ≠ .reboot p) : SameReception d d' := by
  cases e with
  | eslControlWrite w =>
      cases hstep
      simp only [eslControlWrite]
      split <;> constructor <;> rfl
  | ecpWork env =>
      obtain ⟨-, rfl⟩ := step_ecpWork_eq_some.mp hstep
      exact sameReception_ecpCommandHandler env
  | notifySent =>
      obtain ⟨n, rest, -, rfl⟩ := step_notifySent_eq_some.mp hstep
      simp only [notifyComplete]
      split <;> constructor <;> rfl
  | recvCb counter subevent buf =>
      cases hstep
      exact sameReception_recvCb (hrecv _ _ _ rfl)
  | pawrSyncWork stack => exact absurd rfl (hwork stack)
  | parserStep rnd => exact absurd rfl (hparser rnd)
  | reboot p => exact absurd rfl (hboot p)
  | stateTimeout =>
      obtain ⟨-, rfl⟩ := step_stateTimeout_eq_some.mp hstep
      exact sameReception_onTag _
  | ledWork idx =>
      obtain ⟨-, rfl⟩ := step_ledWork_eq_some.mp hstep
      exact sameReception_onTag _
  | displayWork idx =>
      obtain ⟨-, rfl⟩ := step_displayWork_eq_some.mp hstep
      exact sameReception_onTag _
  | advWork =>
      obtain ⟨-, rfl⟩ := step_advWork_eq_some.mp hstep
      exact sameReception_onTag _
  | _ =>
      cases hstep
      exact sameReception_onTag _

end TagDevice

/-! ## The invariant -/

/-- What the use of the slot says about the tag. -/
def SlotUse.Holds (d : TagDevice) : SlotUse → Prop
  | .idle => d.WorkerIdle
  | .waiting p =>
      d.pawrSyncWork = ⟨p.buf, p.periodicEventCounter, p.subevent, true⟩ ∧ d.parser = none
  | .parsing p plaintext =>
      d.pawrSyncWork = ⟨plaintext, p.periodicEventCounter, p.subevent, false⟩
        ∧ d.parser.isSome = true

/-- The slot is used as the history says. -/
structure SlotInv (x : TagDevice × PacketHistory) : Prop where
  use : x.2.use.Holds x.1
  answered : x.1.responses.map (fun r => (r.requestEvent, r.requestSubevent)) = x.2.answered

namespace SlotInv

variable {cfg : Config} {ead : Ead} {x y : TagDevice × PacketHistory} {e : TagEvent}

open TagDevice

lemma ownPacket (h : SlotInv x) : OwnPacket x where
  waiting p hp := by
    have huse := h.use
    rw [hp] at huse
    exact huse.1
  parsing p plaintext hp := by
    have huse := h.use
    rw [hp] at huse
    exact congrArg PawrSyncWork.buf huse.1
  answered := h.answered

/-- A slot that is not touched is used as before. -/
lemma same (h : SlotInv x) (hs : SameReception x.1 y.1) (hh : y.2 = x.2) : SlotInv y := by
  refine ⟨?_, by rw [hs.responses, hh, h.answered]⟩
  have huse := h.use
  rw [hh]
  cases hx : x.2.use with
  | idle =>
      rw [hx] at huse
      exact ⟨by rw [hs.pawrSyncWork, huse.1], by rw [hs.parser, huse.2]⟩
  | waiting p =>
      rw [hx] at huse
      exact ⟨by rw [hs.pawrSyncWork, huse.1], by rw [hs.parser, huse.2]⟩
  | parsing p plaintext =>
      rw [hx] at huse
      exact ⟨by rw [hs.pawrSyncWork, huse.1], by rw [hs.parser, huse.2]⟩

/-- The worker runs: it takes up the packet that waits. -/
lemma pawrSyncWork (h : SlotInv x) {stack : Mem}
    (hd : x.1.step cfg ead (.pawrSyncWork stack) = some y.1)
    (hy : y.2 = packetHistoryAfter ead x.1 (.pawrSyncWork stack) y.1 x.2) : SlotInv y := by
  have huse := h.use
  obtain ⟨hready, hd'⟩ := TagDevice.step_pawrSyncWork_eq_some.mp hd
  obtain ⟨hresp, hpending, hsome⟩ := pawrSyncWorkFn_spec (d := x.1) stack hready.2
  rw [hd'] at hresp hpending hsome
  cases hu : x.2.use with
  | idle =>
      rw [hu] at huse
      rw [huse.1] at hready
      cases hready.1
  | waiting p =>
      rw [hu] at huse
      simp only [packetHistoryAfter, hu] at hy
      refine ⟨?_, by rw [hresp, hy, h.answered]⟩
      rw [hy]
      by_cases hparser : y.1.parser.isSome = true
      · simp only [if_pos hparser]
        refine ⟨?_, hparser⟩
        rw [hsome hparser, huse.1]
        rfl
      · simp only [if_neg hparser]
        exact ⟨hpending, by simpa using hparser⟩
  | parsing p plaintext =>
      rw [hu] at huse
      rw [SlotUse.Holds, hready.2] at huse
      cases huse.2

/-- The parser makes a turn: its packet stays, or ends with a response of its own. -/
lemma parserStep (h : SlotInv x) {rnd : Randomness}
    (hd : x.1.step cfg ead (.parserStep rnd) = some y.1)
    (hy : y.2 = packetHistoryAfter ead x.1 (.parserStep rnd) y.1 x.2) : SlotInv y := by
  have huse := h.use
  have hrun : x.1.parser ≠ none := by
    intro hnone
    have hd' : x.1.parserStep cfg ead rnd = some y.1 := hd
    rw [TagDevice.parserStep, hnone] at hd'
    cases hd'
  obtain ⟨hslot, hturn⟩ := parserStep_spec hd
  cases hu : x.2.use with
  | idle =>
      rw [hu] at huse
      exact absurd huse.2 hrun
  | waiting p =>
      rw [hu] at huse
      exact absurd huse.2 hrun
  | parsing p plaintext =>
      rw [hu] at huse
      have hrecord := huse.1
      simp only [packetHistoryAfter, hu] at hy
      rcases hturn with ⟨hsome, hresp⟩ | ⟨hnone, hresp⟩
      · rw [if_pos hsome] at hy
        refine ⟨?_, by rw [hresp, hy, h.answered]⟩
        rw [hy, hu]
        exact ⟨hslot.trans hrecord, hsome⟩
      · rw [if_neg (by simp [hnone])] at hy
        have hidle : y.1.WorkerIdle := ⟨by rw [hslot, hrecord], hnone⟩
        refine ⟨by rw [hy]; exact hidle, ?_⟩
        rcases hresp with hresp | ⟨r, hresp, hevent, hsubevent⟩
        · rw [hy, hresp, if_neg (lt_irrefl _), h.answered]
        · have hlt : x.1.responses.length < y.1.responses.length := by simp [hresp]
          rw [hy, if_pos hlt, hresp, List.map_append, h.answered, List.map_singleton, hevent,
            hsubevent, hrecord]

/-- **One step.**  As long as a packet finds the worker idle, the slot is used as the history
says. -/
theorem preserved :
    PreservedUnder (stepPacket cfg ead) FindsWorkerIdle SlotInv := by
  intro x e y h hg hstep
  obtain ⟨hd, hy⟩ := withHistory_eq_some.mp hstep
  have hother : (∀ counter subevent buf, e = .recvCb counter subevent buf → ¬ x.1.Receives buf) →
      (∀ stack, e ≠ .pawrSyncWork stack) → (∀ rnd, e ≠ .parserStep rnd) →
      (∀ p, e ≠ .reboot p) → packetHistoryAfter ead x.1 e y.1 x.2 = x.2 → SlotInv y :=
    fun h₁ h₂ h₃ h₄ hh => h.same (sameReception_step hd h₁ h₂ h₃ h₄) (hy.trans hh)
  cases e with
  | recvCb counter subevent buf =>
      by_cases hr : x.1.Receives buf
      · have hidle : x.1.WorkerIdle := hg buf rfl hr
        have hy₁ : x.1.recvCb cfg counter subevent buf = y.1 := Option.some.inj hd
        obtain ⟨hslot, hparser, hresp⟩ := hy₁ ▸ recvCb_of_receives cfg counter subevent hr
        rw [packetHistoryAfter, if_pos ⟨hr, hidle⟩] at hy
        refine ⟨?_, by rw [hresp, hy, h.answered]⟩
        rw [hy]
        exact ⟨hslot, hparser.trans hidle.2⟩
      · refine hother ?_ (by rintro _ ⟨⟩) (by rintro _ ⟨⟩) (by rintro _ ⟨⟩) ?_
        · rintro _ _ _ ⟨⟩
          exact hr
        · rw [packetHistoryAfter, if_neg fun h => hr h.1]
  | pawrSyncWork stack => exact h.pawrSyncWork hd hy
  | parserStep rnd => exact h.parserStep hd hy
  | reboot p =>
      have hy₁ : boot cfg { p with settings := x.1.tag.assoc.settings } = y.1 := Option.some.inj hd
      refine ⟨?_, ?_⟩
      · rw [hy, ← hy₁]
        exact ⟨rfl, rfl⟩
      · rw [hy, ← hy₁]
        rfl
  | _ => exact hother (by rintro _ _ _ ⟨⟩) (by rintro _ ⟨⟩) (by rintro _ ⟨⟩) (by rintro _ ⟨⟩) rfl

/-- A packet received while another one waits takes its place. -/
theorem not_ownPacket_of_waiting {p : SyncPacket} {counter subevent buf} (h : SlotInv x)
    (hu : x.2.use = .waiting p) (hr : x.1.Receives buf)
    (hne : (⟨buf, counter, subevent⟩ : SyncPacket) ≠ p)
    (hstep : stepPacket cfg ead x (.recvCb counter subevent buf) = some y) : ¬ OwnPacket y := by
  obtain ⟨hd, hy⟩ := withHistory_eq_some.mp hstep
  have huse := h.use
  rw [hu] at huse
  have hbusy : ¬ x.1.WorkerIdle := by
    intro hidle
    have hpending := hidle.1
    rw [huse.1] at hpending
    cases hpending
  have hy₁ : x.1.recvCb cfg counter subevent buf = y.1 := Option.some.inj hd
  have hslot := (recvCb_of_receives cfg counter subevent hr).1
  rw [packetHistoryAfter, if_neg fun h => hbusy h.2] at hy
  intro hown
  have hkept := hown.waiting p (by rw [hy, hu])
  rw [← hy₁, hslot, PawrSyncWork.mk.injEq] at hkept
  obtain ⟨hbuf, hcounter, hsubevent, -⟩ := hkept
  exact hne (by rw [hbuf, hcounter, hsubevent])

/-- A packet received while another one is parsed replaces the bytes under the parser. -/
theorem not_ownPacket_of_parsing {p : SyncPacket} {plaintext : NetBuf} {counter subevent buf}
    (h : SlotInv x) (hu : x.2.use = .parsing p plaintext) (hr : x.1.Receives buf)
    (hne : buf ≠ plaintext) (hstep : stepPacket cfg ead x (.recvCb counter subevent buf) = some y) :
    ¬ OwnPacket y := by
  obtain ⟨hd, hy⟩ := withHistory_eq_some.mp hstep
  have huse := h.use
  rw [hu] at huse
  have hbusy : ¬ x.1.WorkerIdle := by
    intro hidle
    rw [SlotUse.Holds, hidle.2] at huse
    cases huse.2
  have hy₁ : x.1.recvCb cfg counter subevent buf = y.1 := Option.some.inj hd
  have hslot := (recvCb_of_receives cfg counter subevent hr).1
  rw [packetHistoryAfter, if_neg fun h => hbusy h.2] at hy
  intro hown
  have hkept := hown.parsing p plaintext (by rw [hy, hu])
  rw [← hy₁, hslot] at hkept
  exact hne hkept

end SlotInv

/-- **Packet slot.**  In every run from boot in which every packet finds the worker idle, every
packet is parsed on its own bytes and every response names the event of its packet. -/
theorem ownPacket_of_idle (cfg : Config) (ead : Ead) (p : EslTag.BootParam) (es : List TagEvent)
    (hG : StepsMeet (stepPacket cfg ead) FindsWorkerIdle (TagDevice.boot cfg p, {}) es) :
    AlongRun (stepPacket cfg ead) OwnPacket (TagDevice.boot cfg p, {}) es := by
  have hboot : SlotInv (TagDevice.boot cfg p, {}) := by
    refine ⟨?_, rfl⟩
    show TagDevice.WorkerIdle _
    exact ⟨rfl, rfl⟩
  exact (alongRun_of_stepsMeet SlotInv.preserved hboot hG).imp fun _ => SlotInv.ownPacket

/-! ### Two packets with one Ping each -/

/-- A packet with one Ping for the sample tag. -/
def pingPacket : NetBuf :=
  .ofBytes ([15, 0x31, 0, 0, 0, 0, 0x80] ++ [4, 0x34, 0x00, 0x00, 0x01] ++ [0, 0, 0, 0]) fun _ => 0

/-- The sample tag synchronises and receives the packet in event 7; its Ping is executed. -/
def pingReceived : List TagEvent :=
  configuredAndUpdating.take 9 ++
    [ .recvCb 7 0 pingPacket, .pawrSyncWork fun _ => 0
    , .parserStep ⟨Vector.replicate 5 0, Vector.replicate 5 0⟩, .ecpWork {} ]

/-- The parser ends. -/
def pingAnswered : List TagEvent :=
  List.replicate 2 (.parserStep ⟨Vector.replicate 5 0, Vector.replicate 5 0⟩)

/-- A packet that comes after the answer finds the worker idle. -/
theorem ownPacket_pingReceived :
    AlongRun (stepPacket .sample .clear) OwnPacket (TagDevice.boot .sample {}, {})
      (pingReceived ++ pingAnswered ++ [.recvCb 8 0 pingPacket]) :=
  ownPacket_of_idle .sample .clear {} _ (by decide +kernel)

/-- One that comes before it moves the answer from event 7 to event 8. -/
theorem ownPacket_fails :
    ((run (stepPacket .sample .clear) (TagDevice.boot .sample {}, {})
        (pingReceived ++ [.recvCb 8 0 pingPacket] ++ pingAnswered)).map fun x =>
      (x.1.responses.map fun r => (r.requestEvent, r.requestSubevent), x.2.answered))
        = some ([(8, 0)], [(7, 0)])
    ∧ ¬ AlongRun (stepPacket .sample .clear) OwnPacket (TagDevice.boot .sample {}, {})
        (pingReceived ++ [.recvCb 8 0 pingPacket] ++ pingAnswered) := by
  have hrun : ((run (stepPacket .sample .clear) (TagDevice.boot .sample {}, {})
        (pingReceived ++ [.recvCb 8 0 pingPacket] ++ pingAnswered)).map fun x =>
      (x.1.responses.map fun r => (r.requestEvent, r.requestSubevent), x.2.answered))
        = some ([(8, 0)], [(7, 0)]) := by decide +kernel
  refine ⟨hrun, fun hall => ?_⟩
  obtain ⟨x, hproj, hlast⟩ := hall.exists_of_map hrun
  obtain ⟨hresponses, hanswered⟩ := Prod.mk.inj hproj
  have hown := hlast.answered
  rw [hresponses, hanswered] at hown
  exact absurd hown (by decide)

end NrfEsl
