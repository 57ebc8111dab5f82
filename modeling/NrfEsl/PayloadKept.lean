import NrfEsl.Ap.Step

/-!
# No payload lost on the access point

Once `esl_c_push_sync_buf` has returned 0 the payload is owed: its packet has to stay in the sync
buffer of the group, ready to push, until the controller accepts it (`Kept`), a group that is
being written must not be handed out (`HandsOutWhole`), and a group that is ready, whoever has made
it so, must keep its status and its data until it is handed out (`KeepsReady`).

**The code does not guard this.**  The response work and `esl_c_dump_resp_buf` overwrite the status
of any group, the ping worker its status and its data, and a push sets the status before the data
is there.  `payloadKept_of_undisturbed` says that these are the only ways to lose a payload.

**The invariant is per group** (`GroupInv`).  A step changes one group, so each step lemma has two
halves: `GroupInv.of_agreesAt` for the groups it does not touch, and one argument for the group it
does.
-/

namespace NrfEsl

namespace Ap

variable {cfg : ApConfig} {ead : Ead}

/-! ## What is to be shown -/

/-- The packets that the fill work has taken and the controller not accepted. -/
def params (s : Ap) : List (ℕ × List UInt8) :=
  match s.fillBuf with
  | some w => w.params
  | none => []

/-- The fill work has taken a packet of `payload` from group `g`. -/
def InHand (ead : Ead) (s : Ap) (g : ℕ) (payload : List UInt8) : Prop :=
  ∃ packet, (g, packet) ∈ s.params ∧ IsPacketOf ead s.eslApKey payload packet

/-- Every owed payload is in its buffer, encoded and ready to push, or on its way to the
controller. -/
def Kept (ead : Ead) (s : Ap) : Prop :=
  ∀ g, ∀ payload ∈ s.owed g,
    ((s.syncBuf g).status = .readyToPush
        ∧ IsPacketOf ead s.eslApKey payload (s.syncBuf g).packet)
      ∨ s.InHand ead g payload

/-- Caller `c` has set the status of group `g` and not returned. -/
def Claims (s : Ap) (g c : ℕ) : Prop :=
  ∃ p, s.callers c = some p ∧ p.groupId = g ∧ p.stage ≠ .checked

/-- The ping worker has cleared group `g` and not set it ready. -/
def PingWrites (s : Ap) (g : ℕ) : Prop :=
  ∃ stage, s.ping = some ⟨g, stage⟩ ∧ stage ≠ .clear

/-- Somebody is writing a payload of group `g`. -/
def PartlyWritten (s : Ap) (g : ℕ) : Prop := (∃ c, s.Claims g c) ∨ s.PingWrites g

/-- If the fill work takes a group now, its payload is written completely. -/
def HandsOutWhole (cfg : ApConfig) (ead : Ead) (s : Ap) (e : ApEvent) : Prop :=
  match e with
  | .fillBufTurn => ∀ w, s.fillBuf = some w →
      (s.syncBuf (currentSubevent cfg w)).status = .readyToPush →
        ¬ s.PartlyWritten (currentSubevent cfg w)
          ∧ ∃ payload, IsPacketOf ead s.eslApKey payload (s.syncBuf (currentSubevent cfg w)).packet
  | _ => True

/-- The loop of the fill work comes to the group. -/
def TakesGroup (cfg : ApConfig) (s : Ap) (e : ApEvent) (g : ℕ) : Prop :=
  match e with
  | .fillBufTurn => ∃ w, s.fillBuf = some w ∧ currentSubevent cfg w = g
  | _ => False

/-- A push goes on with the group it has set the status of. -/
def WritesOwn (s : Ap) (e : ApEvent) (g : ℕ) : Prop :=
  match e with
  | .pushCompose c _ | .pushReturn c => s.Claims g c
  | _ => False

/-- No step but the fill work changes the status of a group that is ready, and none but the push
that has made it ready its data. -/
def KeepsReady (cfg : ApConfig) (ead : Ead) (s : Ap) (e : ApEvent) : Prop :=
  ∀ s', s.step cfg ead e = some s' → ∀ g, (s.syncBuf g).status = .readyToPush →
    ¬ s.TakesGroup cfg e g →
      (s'.syncBuf g).status = .readyToPush
        ∧ (¬ s.WritesOwn e g → (s'.syncBuf g).data = (s.syncBuf g).data
          ∧ (s'.syncBuf g).dataLen = (s.syncBuf g).dataLen)

/-! ## The steps that keep out of each other's way -/

/-- Nobody writes the group, it is not ready, and nothing is owed to it. -/
def Free (s : Ap) (g : ℕ) : Prop :=
  ¬ s.PartlyWritten g ∧ (s.syncBuf g).status ≠ .readyToPush ∧ s.owed g = []

/-- No push is under way in the group, and it is not ready. -/
def Answerable (s : Ap) (g : ℕ) : Prop :=
  (∀ c, ¬ s.Claims g c) ∧ (s.syncBuf g).status ≠ .readyToPush

/-- The steps that leave a payload alone: a push sets the status of a group that is free, as does
the ping worker, which goes on only while the group is not made ready again; a response is taken up,
and a group dumped, only when no push is under way and it is not ready; the fill work meets no group
that is being written; packets can be encrypted; responses stay inside their slots. -/
def Undisturbed (cfg : ApConfig) (ead : Ead) (s : Ap) (e : ApEvent) : Prop :=
  match e with
  | .pushClaim c => ∀ p, s.callers c = some p → s.Free p.groupId
  | .pushCompose c rnd =>
      ∀ p, s.callers c = some p → (encryptPayload ead rnd s.eslApKey p.data).isSome
  | .fillBufTurn => ∀ w, s.fillBuf = some w →
      (s.syncBuf (currentSubevent cfg w)).status = .readyToPush →
        ¬ s.PartlyWritten (currentSubevent cfg w)
  | .pawrResponse info buf _ => (s.pawrResponse cfg info buf).Safe
  | .respFillBufWork stack _ =>
      (s.respFillBufWorkFn cfg ead stack).Safe ∧ s.Answerable s.respInfo.subevent.toNat
  | .dumpRespBuf g => s.Answerable g
  | .pingClear => ∀ ping, s.ping = some ping → s.Free ping.idx
  | .pingCompose rnd =>
      ∀ ping, s.ping = some ping → (s.syncBuf ping.idx).status ≠ .readyToPush
        ∧ (encryptPayload ead rnd s.eslApKey (dummyPing ping.idx)).isSome
  | .pingReady => ∀ ping, s.ping = some ping → (s.syncBuf ping.idx).status ≠ .readyToPush
  | _ => True

/-! ## The invariant of a group -/

/-- What holds of group `g` as long as nobody disturbs it. -/
structure GroupInv (ead : Ead) (s : Ap) (g : ℕ) : Prop where
  owed_packet : ∀ payload ∈ s.owed g, IsPacketOf ead s.eslApKey payload (s.syncBuf g).packet
  owed_place : ∀ payload ∈ s.owed g,
    (s.syncBuf g).status = .readyToPush ∨ s.InHand ead g payload
  /-- A push under way has the group for itself. -/
  claimed : ∀ c, s.Claims g c → s.owed g = [] ∧ (s.syncBuf g).status = .readyToPush
    ∧ ¬ s.PingWrites g ∧ ∀ c', s.Claims g c' → c' = c
  /-- What a push has composed and not assigned a length yet. -/
  composed : ∀ c payload outLen, s.callers c = some ⟨payload, g, .composed outLen⟩ →
    IsPacketOf ead s.eslApKey payload ((s.syncBuf g).data.read 0 outLen.toNat)
  pinged : s.PingWrites g → s.owed g = []
  ping_ready : ∀ outLen, s.ping = some ⟨g, .ready outLen⟩ →
    IsPacketOf ead s.eslApKey (dummyPing g) ((s.syncBuf g).data.read 0 outLen.toNat)
  /-- A group that is or was ready holds a packet, unless it is being written. -/
  whole : ((s.syncBuf g).status = .readyToPush ∨ g ∈ s.params.map Prod.fst) →
    ¬ s.PartlyWritten g → ∃ payload, IsPacketOf ead s.eslApKey payload (s.syncBuf g).packet

/-- The arguments of every push under way are legal. -/
def LegalPushes (cfg : ApConfig) (s : Ap) : Prop :=
  ∀ c p, s.callers c = some p → PushArgs cfg p.data p.groupId

/-- What is kept by the steps that leave payloads alone. -/
structure Inv (cfg : ApConfig) (ead : Ead) (s : Ap) : Prop where
  legal : s.LegalPushes cfg
  group : ∀ g, s.GroupInv ead g

lemma GroupInv.kept {s : Ap} (h : ∀ g, s.GroupInv ead g) : s.Kept ead := by
  intro g payload hp
  rcases (h g).owed_place payload hp with hready | hhand
  · exact .inl ⟨hready, (h g).owed_packet payload hp⟩
  · exact .inr hhand

/-! ### Groups a step does not touch -/

/-- `s'` looks like `s` to group `g`. -/
structure AgreesAt (s s' : Ap) (g : ℕ) : Prop where
  data : (s'.syncBuf g).data = (s.syncBuf g).data
  dataLen : (s'.syncBuf g).dataLen = (s.syncBuf g).dataLen
  status : (s'.syncBuf g).status = (s.syncBuf g).status
  key : s'.eslApKey = s.eslApKey
  owed : s'.owed g = s.owed g
  callers : ∀ c p, p.groupId = g → p.stage ≠ .checked →
    (s'.callers c = some p ↔ s.callers c = some p)
  ping : ∀ stage, stage ≠ .clear → (s'.ping = some ⟨g, stage⟩ ↔ s.ping = some ⟨g, stage⟩)
  params : ∀ packet, (g, packet) ∈ s'.params ↔ (g, packet) ∈ s.params

namespace AgreesAt

variable {s s' : Ap} {g : ℕ} (h : AgreesAt s s' g)

include h

lemma packet : (s'.syncBuf g).packet = (s.syncBuf g).packet := by
  simp only [SyncBuffer.packet, h.data, h.dataLen]

lemma claims (c : ℕ) : s'.Claims g c ↔ s.Claims g c := by
  constructor
  · rintro ⟨p, hp, hg, hstage⟩
    exact ⟨p, (h.callers c p hg hstage).mp hp, hg, hstage⟩
  · rintro ⟨p, hp, hg, hstage⟩
    exact ⟨p, (h.callers c p hg hstage).mpr hp, hg, hstage⟩

lemma pingWrites : s'.PingWrites g ↔ s.PingWrites g := by
  constructor
  · rintro ⟨stage, hping, hstage⟩
    exact ⟨stage, (h.ping stage hstage).mp hping, hstage⟩
  · rintro ⟨stage, hping, hstage⟩
    exact ⟨stage, (h.ping stage hstage).mpr hping, hstage⟩

lemma partlyWritten : s'.PartlyWritten g ↔ s.PartlyWritten g := by
  simp only [PartlyWritten, h.claims, h.pingWrites]

lemma inHand (payload : List UInt8) : s'.InHand ead g payload ↔ s.InHand ead g payload := by
  simp only [InHand, h.params, h.key]

lemma mem_params : g ∈ s'.params.map Prod.fst ↔ g ∈ s.params.map Prod.fst := by
  simp only [List.mem_map, Prod.exists, exists_and_right, exists_eq_right, h.params]

end AgreesAt

/-- The invariant of a group only looks at the group. -/
lemma GroupInv.of_agreesAt {s s' : Ap} {g : ℕ} (hi : s.GroupInv ead g) (h : AgreesAt s s' g) :
    s'.GroupInv ead g where
  owed_packet payload hp := by
    rw [h.packet, h.key]
    exact hi.owed_packet payload (h.owed ▸ hp)
  owed_place payload hp := by
    rw [h.status, h.inHand]
    exact hi.owed_place payload (h.owed ▸ hp)
  claimed c hc := by
    obtain ⟨howed, hstatus, hping, huniq⟩ := hi.claimed c ((h.claims c).mp hc)
    refine ⟨h.owed ▸ howed, h.status ▸ hstatus, fun hw => hping (h.pingWrites.mp hw), ?_⟩
    exact fun c' hc' => huniq c' ((h.claims c').mp hc')
  composed c payload outLen hc := by
    rw [h.data, h.key]
    exact hi.composed c payload outLen ((h.callers c _ rfl (by simp)).mp hc)
  pinged hw := h.owed ▸ hi.pinged (h.pingWrites.mp hw)
  ping_ready outLen hping := by
    rw [h.data, h.key]
    exact hi.ping_ready outLen ((h.ping _ (by simp)).mp hping)
  whole hready hpart := by
    rw [h.packet, h.key]
    rw [h.status, h.mem_params] at hready
    exact hi.whole hready fun hw => hpart (h.partlyWritten.mpr hw)

namespace AgreesAt

variable {s s' s'' : Ap} {g : ℕ}

lemma trans (h : AgreesAt s s' g) (h' : AgreesAt s' s'' g) : AgreesAt s s'' g where
  data := h'.data.trans h.data
  dataLen := h'.dataLen.trans h.dataLen
  status := h'.status.trans h.status
  key := h'.key.trans h.key
  owed := h'.owed.trans h.owed
  callers c p hg hp := (h'.callers c p hg hp).trans (h.callers c p hg hp)
  ping stage hs := (h'.ping stage hs).trans (h.ping stage hs)
  params packet := (h'.params packet).trans (h.params packet)

/-- A change of one group is not seen by another. -/
lemma updateGroup {g₀ : ℕ} (f : SyncBuffer → SyncBuffer) (h : g ≠ g₀) :
    AgreesAt s (s.updateGroup g₀ f) g := by
  have hb := syncBuf_updateGroup_ne s g₀ f h
  exact ⟨by rw [hb], by rw [hb], by rw [hb], rfl, rfl, fun _ _ _ _ => .rfl, fun _ _ => .rfl,
    fun _ => .rfl⟩

/-- A push is seen by its own group only, and not before it has set the status. -/
lemma setCaller {c : ℕ} {p : Option Push}
    (hold : ∀ q, s.callers c = some q → q.groupId = g → q.stage = .checked)
    (hnew : ∀ q, p = some q → q.groupId = g → q.stage = .checked) :
    AgreesAt s (s.setCaller c p) g where
  data := rfl
  dataLen := rfl
  status := rfl
  key := rfl
  owed := rfl
  callers c' q hg hq := by
    by_cases hc : c' = c
    · subst hc
      rw [callers_setCaller_same]
      exact ⟨fun h => absurd (hnew q h hg) hq, fun h => absurd (hold q h hg) hq⟩
    · rw [callers_setCaller_ne s c p hc]
  ping _ _ := .rfl
  params _ := .rfl

end AgreesAt

/-! ### The parts of a push -/

section Push

variable {s : Ap} {c g : ℕ} {data : List UInt8}

/-- The status is set: the group was free, so the caller has it for itself. -/
lemma GroupInv.pushClaim (hfree : s.Free g) :
    (s.pushClaim c ⟨data, g, .checked⟩).GroupInv ead g := by
  obtain ⟨hpart, -, howed⟩ := hfree
  have hclaims : ∀ c', (s.pushClaim c ⟨data, g, .checked⟩).Claims g c' → c' = c := by
    rintro c' ⟨p, hp, hg, hstage⟩
    by_contra hne
    rw [Ap.pushClaim, callers_setCaller_ne _ _ _ hne] at hp
    exact hpart (.inl ⟨c', p, hp, hg, hstage⟩)
  have hping : ¬ (s.pushClaim c ⟨data, g, .checked⟩).PingWrites g := fun hw => hpart (.inr hw)
  have hc : (s.pushClaim c ⟨data, g, .checked⟩).Claims g c :=
    ⟨⟨data, g, .claimed⟩, by simp [Ap.pushClaim], rfl, by simp⟩
  refine ⟨?_, ?_, ?_, ?_, fun hw => absurd hw hping, ?_, ?_⟩
  · intro payload hp
    simp [Ap.pushClaim, howed] at hp
  · intro payload hp
    simp [Ap.pushClaim, howed] at hp
  · intro c' hc'
    refine ⟨howed, by simp [Ap.pushClaim], hping, ?_⟩
    intro c'' hc''
    rw [hclaims c' hc', hclaims c'' hc'']
  · intro c' payload outLen hp
    have := hclaims c' ⟨_, hp, rfl, by simp⟩
    subst this
    simp [Ap.pushClaim] at hp
  · intro outLen hp
    exact absurd ⟨_, hp, by simp⟩ hping
  · intro _ hw
    exact absurd (.inl ⟨c, hc⟩) hw

lemma agreesAt_pushClaim {g' : ℕ} (hp : s.callers c = some ⟨data, g, .checked⟩) (h : g' ≠ g) :
    AgreesAt s (s.pushClaim c ⟨data, g, .checked⟩) g' := by
  refine (AgreesAt.updateGroup _ h).trans (AgreesAt.setCaller ?_ ?_)
  · intro q hq _
    rw [callers_updateGroup, hp, Option.some_inj] at hq
    rw [← hq]
  · rintro q hq rfl
    rw [Option.some_inj] at hq
    exact absurd (by rw [← hq]) h

/-- The data is composed under the caller's own claim. -/
lemma GroupInv.pushCompose (hl : ead.Lawful) {rnd : Randomness} (hi : s.GroupInv ead g)
    (hp : s.callers c = some ⟨data, g, .claimed⟩) (hargs : PushArgs cfg data g)
    (hs : (encryptPayload ead rnd s.eslApKey data).isSome) :
    (s.pushCompose ead c ⟨data, g, .claimed⟩ rnd).GroupInv ead g := by
  obtain ⟨howed, hstatus, hping, huniq⟩ := hi.claimed c ⟨_, hp, rfl, by simp⟩
  have hclaims : ∀ c', (s.pushCompose ead c ⟨data, g, .claimed⟩ rnd).Claims g c' → c' = c := by
    rintro c' ⟨p, hp', hg, hstage⟩
    by_contra hne
    rw [Ap.pushCompose, callers_setCaller_ne _ _ _ hne] at hp'
    exact hne (huniq c' ⟨p, hp', hg, hstage⟩)
  have hc : (s.pushCompose ead c ⟨data, g, .claimed⟩ rnd).Claims g c := by
    refine ⟨_, callers_setCaller_same _ _ _, rfl, by simp⟩
  refine ⟨?_, ?_, ?_, ?_, fun hw => absurd hw hping, ?_, ?_⟩
  · intro payload hp
    simp [Ap.pushCompose, howed] at hp
  · intro payload hp
    simp [Ap.pushCompose, howed] at hp
  · intro c' hc'
    refine ⟨howed, by simpa [Ap.pushCompose] using hstatus, hping, ?_⟩
    intro c'' hc''
    rw [hclaims c' hc', hclaims c'' hc'']
  · intro c' payload outLen hp'
    have := hclaims c' ⟨_, hp', rfl, by simp⟩
    subst this
    simp only [Ap.pushCompose, callers_setCaller_same, Option.some_inj, Push.mk.injEq,
      PushStage.composed.injEq, true_and] at hp'
    obtain ⟨rfl, rfl⟩ := hp'
    simpa [Ap.pushCompose, SyncBuffer.compose] using
      hl.isPacketOf_eslComposeAdData (s.syncBuf g).data hargs.1 hargs.2.1 hs
  · intro outLen hp
    exact absurd ⟨_, hp, by simp⟩ hping
  · intro _ hw
    exact absurd (.inl ⟨c, hc⟩) hw

/-- The push returns: its payload is owed, and it is there. -/
lemma GroupInv.pushReturn {outLen : UInt8} (hi : s.GroupInv ead g)
    (hp : s.callers c = some ⟨data, g, .composed outLen⟩) :
    (s.pushReturn c ⟨data, g, .composed outLen⟩ outLen).GroupInv ead g := by
  obtain ⟨howed, hstatus, hping, huniq⟩ := hi.claimed c ⟨_, hp, rfl, by simp⟩
  have hpacket : IsPacketOf ead s.eslApKey data
      ((s.pushReturn c ⟨data, g, .composed outLen⟩ outLen).syncBuf g).packet := by
    simpa [Ap.pushReturn, SyncBuffer.packet] using hi.composed c data outLen hp
  have hready : ((s.pushReturn c ⟨data, g, .composed outLen⟩ outLen).syncBuf g).status
      = .readyToPush := by
    simpa [Ap.pushReturn] using hstatus
  have howed' : (s.pushReturn c ⟨data, g, .composed outLen⟩ outLen).owed g = [data] := by
    simp [Ap.pushReturn, howed]
  have hnone : ∀ c', ¬ (s.pushReturn c ⟨data, g, .composed outLen⟩ outLen).Claims g c' := by
    rintro c' ⟨p, hp', hg, hstage⟩
    simp only [Ap.pushReturn] at hp'
    by_cases hc : c' = c
    · subst hc
      simp at hp'
    · rw [callers_setCaller_ne _ _ _ hc] at hp'
      exact hc (huniq c' ⟨p, hp', hg, hstage⟩)
  refine ⟨?_, fun _ _ => .inl hready, fun c' hc' => absurd hc' (hnone c'), ?_,
    fun hw => absurd hw hping, ?_, fun _ _ => ⟨data, hpacket⟩⟩
  · intro payload hmem
    rw [howed', List.mem_singleton] at hmem
    rw [hmem]
    exact hpacket
  · intro c' payload outLen' hp'
    exact absurd ⟨_, hp', rfl, by simp⟩ (hnone c')
  · intro outLen' hp'
    exact absurd ⟨_, hp', by simp⟩ hping

lemma agreesAt_pushCompose {g' : ℕ} {rnd : Randomness} (hp : s.callers c = some ⟨data, g, .claimed⟩)
    (h : g' ≠ g) : AgreesAt s (s.pushCompose ead c ⟨data, g, .claimed⟩ rnd) g' := by
  refine (AgreesAt.updateGroup _ h).trans (AgreesAt.setCaller ?_ ?_)
  · rintro q hq rfl
    rw [callers_updateGroup, hp, Option.some_inj] at hq
    exact absurd (by rw [← hq]) h
  · rintro q hq rfl
    rw [Option.some_inj] at hq
    exact absurd (by rw [← hq]) h

lemma agreesAt_pushReturn {g' : ℕ} {outLen : UInt8}
    (hp : s.callers c = some ⟨data, g, .composed outLen⟩) (h : g' ≠ g) :
    AgreesAt s (s.pushReturn c ⟨data, g, .composed outLen⟩ outLen) g' := by
  have hset : AgreesAt s ((s.updateGroup g fun b => { b with dataLen := outLen }).setCaller c none)
      g' := by
    refine (AgreesAt.updateGroup _ h).trans (AgreesAt.setCaller ?_ (fun q hq => nomatch hq))
    rintro q hq rfl
    rw [callers_updateGroup, hp, Option.some_inj] at hq
    exact absurd (by rw [← hq]) h
  exact hset.trans ⟨rfl, rfl, rfl, rfl, by simp [Ap.pushReturn, h], fun _ _ _ _ => .rfl,
    fun _ _ => .rfl, fun _ => .rfl⟩

end Push

/-! ### The parts of the fill work -/

section Fill

variable {s : Ap} {w : PushToController} {g : ℕ}

lemma params_of_fillBuf (hw : s.fillBuf = some w) : s.params = w.params := by
  simp [params, hw]

lemma params_fillBufTurn (hw : s.fillBuf = some w) :
    (s.fillBufTurn cfg w).params
      = if (s.syncBuf (currentSubevent cfg w)).status = .readyToPush then
          s.params ++ [(currentSubevent cfg w, (s.syncBuf (currentSubevent cfg w)).packet)]
        else s.params := by
  rw [params_of_fillBuf hw]
  by_cases hr : (s.syncBuf (currentSubevent cfg w)).status = .readyToPush <;>
    simp [Ap.fillBufTurn, hr, params]

/-- A group that is not the one taken does not notice the turn. -/
lemma agreesAt_fillBufTurn (hw : s.fillBuf = some w)
    (h : (s.syncBuf (currentSubevent cfg w)).status = .readyToPush → g ≠ currentSubevent cfg w) :
    AgreesAt s (s.fillBufTurn cfg w) g := by
  have hparams : ∀ packet, (g, packet) ∈ (s.fillBufTurn cfg w).params ↔ (g, packet) ∈ s.params := by
    intro packet
    rw [params_fillBufTurn hw]
    split_ifs with hr
    · simp [h hr]
    · rfl
  have hbuf : (s.fillBufTurn cfg w).syncBuf g = s.syncBuf g := by
    by_cases hr : (s.syncBuf (currentSubevent cfg w)).status = .readyToPush
    · simp [Ap.fillBufTurn, hr, syncBuf_updateGroup_ne _ _ _ (h hr)]
    · simp [Ap.fillBufTurn, hr]
  refine ⟨by rw [hbuf], by rw [hbuf], by rw [hbuf], ?_, ?_, ?_, ?_, hparams⟩ <;>
    simp only [Ap.fillBufTurn] <;> split <;> simp

/-- The fill work takes the packet of a group that nobody writes. -/
lemma GroupInv.fillBufTurn (hi : s.GroupInv ead g) (hw : s.fillBuf = some w)
    (hg : g = currentSubevent cfg w) (hr : (s.syncBuf g).status = .readyToPush)
    (hpart : ¬ s.PartlyWritten g) : (s.fillBufTurn cfg w).GroupInv ead g := by
  subst hg
  set g := currentSubevent cfg w
  have hs' : s.fillBufTurn cfg w
      = { s.updateGroup g fun b => { b with status := .pushed } with
          fillBuf := some { w with i := w.i + 1, params := w.params ++ [(g, (s.syncBuf g).packet)] }
        } := by
    simp [Ap.fillBufTurn, g, hr]
  have hpacket : ((s.fillBufTurn cfg w).syncBuf g).packet = (s.syncBuf g).packet := by
    simp [hs', SyncBuffer.packet]
  have hmem : (g, (s.syncBuf g).packet) ∈ (s.fillBufTurn cfg w).params := by
    rw [params_fillBufTurn hw, if_pos hr]
    simp [g]
  have hpart' : ¬ (s.fillBufTurn cfg w).PartlyWritten g := by
    rw [hs']
    exact hpart
  have hkey : (s.fillBufTurn cfg w).eslApKey = s.eslApKey := by rw [hs']; rfl
  have howed : (s.fillBufTurn cfg w).owed g = s.owed g := by rw [hs']; rfl
  refine ⟨?_, ?_, fun c hc => absurd (.inl ⟨c, hc⟩) hpart', ?_, fun hp => absurd (.inr hp) hpart',
    ?_, ?_⟩
  · intro payload hp
    rw [hpacket, hkey]
    exact hi.owed_packet payload (howed ▸ hp)
  · intro payload hp
    refine .inr ⟨_, hmem, ?_⟩
    rw [hkey]
    exact hi.owed_packet payload (howed ▸ hp)
  · intro c payload outLen hc
    exact absurd (.inl ⟨c, _, hc, rfl, by simp⟩) hpart'
  · intro outLen hp
    exact absurd (.inr ⟨_, hp, by simp⟩) hpart'
  · intro _ _
    rw [hpacket, hkey]
    exact hi.whole (.inl hr) hpart

/-- The controller accepts: what was in hand is owed no longer. -/
lemma GroupInv.discharge (hi : s.GroupInv ead g) (hw : s.fillBuf = some w) :
    (s.setSubeventData ead w true).GroupInv ead g := by
  have hsub : ∀ payload ∈ (s.setSubeventData ead w true).owed g,
      payload ∈ s.owed g ∧ ¬ s.InHand ead g payload := by
    intro payload hp
    simp only [Ap.setSubeventData, Ap.discharge, if_true, List.mem_filter, Bool.not_eq_true',
      List.any_eq_false, Bool.and_eq_true, beq_iff_eq, decide_eq_true_eq, not_and] at hp
    refine ⟨hp.1, ?_⟩
    rintro ⟨packet, hmem, hpacket⟩
    rw [params_of_fillBuf hw] at hmem
    exact hp.2 _ hmem rfl hpacket
  have hnil : s.owed g = [] → (s.setSubeventData ead w true).owed g = [] := by
    intro h
    rw [List.eq_nil_iff_forall_not_mem]
    intro payload hp
    simpa [h] using (hsub payload hp).1
  refine ⟨?_, ?_, ?_, hi.composed, fun hp => hnil (hi.pinged hp), hi.ping_ready, ?_⟩
  · intro payload hp
    exact hi.owed_packet payload (hsub payload hp).1
  · intro payload hp
    obtain ⟨hmem, hhand⟩ := hsub payload hp
    exact .inl ((hi.owed_place payload hmem).resolve_right hhand)
  · intro c hc
    obtain ⟨howed, hrest⟩ := hi.claimed c hc
    exact ⟨hnil howed, hrest⟩
  · rintro (hr | hp) hpart
    · exact hi.whole (.inl hr) hpart
    · simp [Ap.setSubeventData, Ap.discharge, params] at hp

/-- The controller refuses: the groups whose packets were in hand are ready again. -/
lemma GroupInv.restore (hi : s.GroupInv ead g) (hw : s.fillBuf = some w) :
    (s.setSubeventData ead w false).GroupInv ead g := by
  have hdata : ((s.setSubeventData ead w false).syncBuf g).data = (s.syncBuf g).data := by
    simp only [Ap.setSubeventData, Ap.restore, Bool.false_eq_true, if_false]
    split <;> rfl
  have hpacket : ((s.setSubeventData ead w false).syncBuf g).packet = (s.syncBuf g).packet := by
    simp only [Ap.setSubeventData, Ap.restore, Bool.false_eq_true, if_false]
    split <;> rfl
  have hready : ((s.setSubeventData ead w false).syncBuf g).status = .readyToPush
      ↔ (s.syncBuf g).status = .readyToPush ∨ g ∈ s.params.map Prod.fst := by
    rw [params_of_fillBuf hw]
    simp only [Ap.setSubeventData, Ap.restore, Bool.false_eq_true, if_false]
    split_ifs with h
    · exact ⟨fun _ => .inr h, fun _ => rfl⟩
    · exact ⟨.inl, fun h' => h'.resolve_right h⟩
  refine ⟨?_, ?_, ?_, ?_, hi.pinged, ?_, ?_⟩
  · intro payload hp
    rw [hpacket]
    exact hi.owed_packet payload hp
  · intro payload hp
    refine .inl (hready.mpr ?_)
    rcases hi.owed_place payload hp with hr | ⟨packet, hmem, _⟩
    · exact .inl hr
    · exact .inr (List.mem_map_of_mem (f := Prod.fst) hmem)
  · intro c hc
    obtain ⟨howed, hr, hrest⟩ := hi.claimed c hc
    exact ⟨howed, hready.mpr (.inl hr), hrest⟩
  · intro c payload outLen hc
    rw [hdata]
    exact hi.composed c payload outLen hc
  · intro outLen hp
    rw [hdata]
    exact hi.ping_ready outLen hp
  · rintro (hr | hp) hpart
    · rw [hpacket]
      exact hi.whole (hready.mp hr) hpart
    · simp [Ap.setSubeventData, Ap.restore, params] at hp

end Fill

/-! ### Responses and dumps -/

section Answer

variable {s : Ap} {g : ℕ}

/-- A status other than ready, in a group that is not ready. -/
lemma GroupInv.setStatus (hi : s.GroupInv ead g) (ha : s.Answerable g) {b : SyncBuffer}
    (hdata : b.data = (s.syncBuf g).data) (hlen : b.dataLen = (s.syncBuf g).dataLen)
    (hst : b.status ≠ .readyToPush) : (s.updateGroup g fun _ => b).GroupInv ead g := by
  obtain ⟨hnone, hnot⟩ := ha
  have hbuf : (s.updateGroup g fun _ => b).syncBuf g = b := syncBuf_updateGroup_same _ _ _
  have hpacket : b.packet = (s.syncBuf g).packet := by
    simp only [SyncBuffer.packet, hdata, hlen]
  refine ⟨?_, ?_, fun c hc => absurd hc (hnone c), ?_, hi.pinged, ?_, ?_⟩
  · intro payload hp
    rw [hbuf, hpacket]
    exact hi.owed_packet payload hp
  · intro payload hp
    exact .inr ((hi.owed_place payload hp).resolve_left hnot)
  · intro c payload outLen hc
    exact absurd ⟨_, hc, rfl, by simp⟩ (hnone c)
  · intro outLen hp
    rw [hbuf, hdata]
    exact hi.ping_ready outLen hp
  · rintro (hr | hp) hpart
    · exact absurd (hbuf ▸ hr) hst
    · rw [hbuf, hpacket]
      exact hi.whole (.inr hp) hpart

/-- A response in its slot is not seen by any group. -/
lemma agreesAt_pawrResponse (info : ResponseInfo) (buf : NetBuf) :
    AgreesAt s (s.pawrResponse cfg info buf).val g := by
  by_cases hlen : buf.len = 0
  · have hval : (s.pawrResponse cfg info buf).val = s := by
      simp [Ap.pawrResponse, hlen]
    rw [hval]
    exact ⟨rfl, rfl, rfl, rfl, rfl, fun _ _ _ _ => .rfl, fun _ _ => .rfl, fun _ => .rfl⟩
  · have hval : (s.pawrResponse cfg info buf).val
        = { s.updateGroup info.subevent.toNat fun _ =>
              ((s.syncBuf info.subevent.toNat).storeResponse cfg info.responseSlot buf).val with
            respInfo := info, respPending := true } := by
      simp [Ap.pawrResponse, hlen]
    rw [hval]
    by_cases hg : g = info.subevent.toNat
    · subst hg
      refine ⟨?_, ?_, ?_, rfl, rfl, fun _ _ _ _ => .rfl, fun _ _ => .rfl, fun _ => .rfl⟩ <;>
        simp [SyncBuffer.storeResponse]
    · refine (AgreesAt.updateGroup (fun _ => ((s.syncBuf info.subevent.toNat).storeResponse cfg
        info.responseSlot buf).val) hg).trans ?_
      exact ⟨rfl, rfl, rfl, rfl, rfl, fun _ _ _ _ => .rfl, fun _ _ => .rfl, fun _ => .rfl⟩

end Answer

/-! ### The parts of a ping -/

section Ping

variable {s : Ap} {g g' : ℕ}

/-- The ping worker moves from `g` to `p`: other groups do not notice. -/
lemma agreesAt_ping {f : SyncBuffer → SyncBuffer} {stage : PingStage} {p : Option Ping}
    (h : g' ≠ g) (hold : s.ping = some ⟨g, stage⟩)
    (hnew : ∀ q, p = some q → q.idx = g ∨ q.stage = .clear) :
    AgreesAt s { s.updateGroup g f with ping := p } g' := by
  refine (AgreesAt.updateGroup f h).trans ⟨rfl, rfl, rfl, rfl, rfl, fun _ _ _ _ => .rfl, ?_,
    fun _ => .rfl⟩
  intro stage' hstage
  rw [ping_updateGroup, hold]
  constructor
  · intro hp
    rcases hnew _ hp with hq | hq
    · exact absurd hq h
    · exact absurd hq hstage
  · intro hq
    rw [Option.some_inj, Ping.mk.injEq] at hq
    exact absurd hq.1.symm h

/-- The ping worker may clear a group that is free. -/
lemma GroupInv.pingClear (hfree : s.Free g) : (s.pingClear g).GroupInv ead g := by
  obtain ⟨hpart, -, howed⟩ := hfree
  have hnone : ∀ c, ¬ (s.pingClear g).Claims g c := fun c hc => hpart (.inl ⟨c, hc⟩)
  have hw : (s.pingClear g).PingWrites g := ⟨.compose, rfl, by simp⟩
  have hnil : ∀ payload, payload ∉ (s.pingClear g).owed g := by
    intro payload
    simp [Ap.pingClear, howed]
  refine ⟨fun p hp => absurd hp (hnil p), fun p hp => absurd hp (hnil p),
    fun c hc => absurd hc (hnone c), ?_, fun _ => howed, ?_, fun _ hp => absurd (.inr hw) hp⟩
  · intro c payload outLen hc
    exact absurd ⟨_, hc, rfl, by simp⟩ (hnone c)
  · intro outLen hp
    simp [Ap.pingClear] at hp

/-- While the ping worker writes a group there is no push under way in it. -/
lemma GroupInv.not_claims (hi : s.GroupInv ead g) (hw : s.PingWrites g) (c : ℕ) :
    ¬ s.Claims g c :=
  fun hc => (hi.claimed c hc).2.2.1 hw

lemma GroupInv.pingCompose (hl : ead.Lawful) {rnd : Randomness} (hi : s.GroupInv ead g)
    (hp : s.ping = some ⟨g, .compose⟩)
    (hs : (encryptPayload ead rnd s.eslApKey (dummyPing g)).isSome) :
    (s.pingCompose ead g rnd).GroupInv ead g := by
  have hold : s.PingWrites g := ⟨_, hp, by simp⟩
  have hnone : ∀ c, ¬ (s.pingCompose ead g rnd).Claims g c := hi.not_claims hold
  have hw : (s.pingCompose ead g rnd).PingWrites g := ⟨_, rfl, by simp⟩
  have hnil : ∀ payload, payload ∉ (s.pingCompose ead g rnd).owed g := by
    intro payload
    simp [Ap.pingCompose, hi.pinged hold]
  refine ⟨fun p hp => absurd hp (hnil p), fun p hp => absurd hp (hnil p),
    fun c hc => absurd hc (hnone c), ?_, fun _ => hi.pinged hold, ?_,
    fun _ hp => absurd (.inr hw) hp⟩
  · intro c payload outLen hc
    exact absurd ⟨_, hc, rfl, by simp⟩ (hnone c)
  · intro outLen hp'
    simp only [Ap.pingCompose, Option.some_inj, Ping.mk.injEq, PingStage.ready.injEq,
      true_and] at hp'
    subst hp'
    simpa [Ap.pingCompose, SyncBuffer.compose] using
      hl.isPacketOf_eslComposeAdData (s.syncBuf g).data (by simp [dummyPing])
        (by simp [dummyPing, eslSyncPktPayloadMaxLen]) hs

lemma GroupInv.pingReady {outLen : UInt8} (hi : s.GroupInv ead g)
    (hp : s.ping = some ⟨g, .ready outLen⟩) : (s.pingReady cfg g outLen).GroupInv ead g := by
  have hold : s.PingWrites g := ⟨_, hp, by simp⟩
  have hnone : ∀ c, ¬ (s.pingReady cfg g outLen).Claims g c := hi.not_claims hold
  have hnil : ∀ payload, payload ∉ (s.pingReady cfg g outLen).owed g := by
    intro payload
    simp [Ap.pingReady, hi.pinged hold]
  have hstop : ∀ stage, (s.pingReady cfg g outLen).ping ≠ some ⟨g, stage⟩ := by
    intro stage
    simp only [Ap.pingReady]
    split_ifs <;> simp
  have hpacket : IsPacketOf ead s.eslApKey (dummyPing g)
      ((s.pingReady cfg g outLen).syncBuf g).packet := by
    simpa [Ap.pingReady, SyncBuffer.packet] using hi.ping_ready outLen hp
  refine ⟨fun p hp => absurd hp (hnil p), fun p hp => absurd hp (hnil p),
    fun c hc => absurd hc (hnone c), ?_, fun _ => hi.pinged hold, ?_, fun _ _ => ⟨_, hpacket⟩⟩
  · intro c payload outLen' hc
    exact absurd ⟨_, hc, rfl, by simp⟩ (hnone c)
  · intro outLen' hp'
    exact absurd hp' (hstop _)

end Ping

/-! ## Runs -/

variable {s s' : Ap}

/-- **One step.**  A step that leaves payloads alone keeps the invariant of every group. -/
theorem GroupInv.step (hl : ead.Lawful) {e : ApEvent} (hlegal : s.LegalPushes cfg)
    (hi : ∀ g, s.GroupInv ead g) (hu : s.Undisturbed cfg ead e) (hs : s.step cfg ead e = some s') :
    ∀ g, s'.GroupInv ead g := by
  intro g
  cases e with
  | pushSyncBuf c data g₀ =>
      obtain ⟨⟨hidle, -⟩, rfl⟩ := Ap.step_pushSyncBuf_eq_some.mp hs
      simp only [Ap.pushSyncBuf]
      split
      · refine (hi g).of_agreesAt (AgreesAt.setCaller ?_ ?_)
        · intro q hq
          simp [hidle] at hq
        · intro q hq _
          rw [Option.some_inj] at hq
          rw [← hq]
      · exact hi g
  | pushClaim c =>
      obtain ⟨data, g₀, hc, rfl⟩ := Ap.step_pushClaim_eq_some.mp hs
      by_cases hg : g = g₀
      · subst hg
        exact .pushClaim (hu _ hc)
      · exact (hi g).of_agreesAt (agreesAt_pushClaim hc hg)
  | pushCompose c rnd =>
      obtain ⟨data, g₀, hc, rfl⟩ := Ap.step_pushCompose_eq_some.mp hs
      by_cases hg : g = g₀
      · subst hg
        exact (hi g).pushCompose hl hc (hlegal c _ hc) (hu _ hc)
      · exact (hi g).of_agreesAt (agreesAt_pushCompose hc hg)
  | pushReturn c =>
      obtain ⟨data, g₀, outLen, hc, rfl⟩ := Ap.step_pushReturn_eq_some.mp hs
      by_cases hg : g = g₀
      · subst hg
        exact (hi g).pushReturn hc
      · exact (hi g).of_agreesAt (agreesAt_pushReturn hc hg)
  | pawrRequest request =>
      cases hs
      exact (hi g).of_agreesAt ⟨rfl, rfl, rfl, rfl, rfl, fun _ _ _ _ => .rfl, fun _ _ => .rfl,
        fun _ => .rfl⟩
  | fillBufWork =>
      obtain ⟨⟨-, hidle⟩, rfl⟩ := Ap.step_fillBufWork_eq_some.mp hs
      refine (hi g).of_agreesAt ⟨rfl, rfl, rfl, rfl, rfl, fun _ _ _ _ => .rfl, fun _ _ => .rfl, ?_⟩
      simp [params, hidle]
  | fillBufTurn =>
      obtain ⟨w, hw, -, rfl⟩ := Ap.step_fillBufTurn_eq_some.mp hs
      by_cases hg : (s.syncBuf (currentSubevent cfg w)).status = .readyToPush
          ∧ g = currentSubevent cfg w
      · obtain ⟨hr, rfl⟩ := hg
        exact (hi _).fillBufTurn hw rfl hr (hu w hw hr)
      · exact (hi g).of_agreesAt (agreesAt_fillBufTurn hw fun hr hg' => hg ⟨hr, hg'⟩)
  | setSubeventData accepted =>
      obtain ⟨w, hw, -, rfl⟩ := Ap.step_setSubeventData_eq_some.mp hs
      cases accepted with
      | false => exact (hi g).restore hw
      | true => exact (hi g).discharge hw
  | pawrResponse info buf wreck =>
      simp only [Ap.step, Option.some_inj] at hs
      rw [← hs, orWreck_of_safe hu]
      exact (hi g).of_agreesAt (agreesAt_pawrResponse info buf)
  | respFillBufWork stack wreck =>
      obtain ⟨hsafe, ha⟩ := hu
      obtain ⟨-, rfl⟩ := Ap.step_respFillBufWork_eq_some.mp hs
      rw [orWreck_of_safe hsafe, val_respFillBufWorkFn]
      have hidle : AgreesAt s { s with respPending := false } g :=
        ⟨rfl, rfl, rfl, rfl, rfl, fun _ _ _ _ => .rfl, fun _ _ => .rfl, fun _ => .rfl⟩
      by_cases hg : g = s.respInfo.subevent.toNat
      · subst hg
        exact ((hi _).of_agreesAt hidle).setStatus ha rfl rfl (by
          simp [SyncBuffer.respFillBufWorkFn])
      · exact ((hi g).of_agreesAt hidle).of_agreesAt (AgreesAt.updateGroup _ hg)
  | dumpRespBuf g₀ =>
      obtain ⟨-, rfl⟩ := Ap.step_dumpRespBuf_eq_some.mp hs
      by_cases hg : g = g₀
      · subst hg
        exact (hi g).setStatus hu rfl rfl (by simp [SyncBuffer.dumpRespBuf])
      · exact (hi g).of_agreesAt (AgreesAt.updateGroup _ hg)
  | pingWork =>
      obtain ⟨hidle, rfl⟩ := Ap.step_pingWork_eq_some.mp hs
      refine (hi g).of_agreesAt ⟨rfl, rfl, rfl, rfl, rfl, fun _ _ _ _ => .rfl, ?_, fun _ => .rfl⟩
      intro stage hstage
      simp [hidle, Ne.symm hstage]
  | pingClear =>
      obtain ⟨idx, hp, rfl⟩ := Ap.step_pingClear_eq_some.mp hs
      by_cases hg : g = idx
      · subst hg
        exact .pingClear (hu _ hp)
      · exact (hi g).of_agreesAt (agreesAt_ping hg hp (by rintro q ⟨⟩; exact .inl rfl))
  | pingCompose rnd =>
      obtain ⟨idx, hp, rfl⟩ := Ap.step_pingCompose_eq_some.mp hs
      by_cases hg : g = idx
      · subst hg
        exact (hi g).pingCompose hl hp (hu _ hp).2
      · exact (hi g).of_agreesAt (agreesAt_ping hg hp (by rintro q ⟨⟩; exact .inl rfl))
  | pingReady =>
      obtain ⟨idx, outLen, hp, rfl⟩ := Ap.step_pingReady_eq_some.mp hs
      by_cases hg : g = idx
      · subst hg
        exact (hi g).pingReady hp
      · refine (hi g).of_agreesAt (agreesAt_ping hg hp ?_)
        intro q hq
        split_ifs at hq
        cases hq
        exact .inr rfl

/-- A group that a step does not touch stays as it is. -/
lemma AgreesAt.keepsReady {g : ℕ} (h : AgreesAt s s' g) (hr : (s.syncBuf g).status = .readyToPush)
    {own : Prop} : (s'.syncBuf g).status = .readyToPush
      ∧ (¬ own → (s'.syncBuf g).data = (s.syncBuf g).data
        ∧ (s'.syncBuf g).dataLen = (s.syncBuf g).dataLen) :=
  ⟨h.status.trans hr, fun _ => ⟨h.data, h.dataLen⟩⟩

/-- **One step and the groups that are ready**: a step that leaves payloads alone keeps them. -/
theorem keepsReady_of_undisturbed {e : ApEvent} (hu : s.Undisturbed cfg ead e) :
    s.KeepsReady cfg ead e := by
  intro s' hs g hr hother
  cases e with
  | pushSyncBuf c data g₀ =>
      obtain ⟨-, rfl⟩ := Ap.step_pushSyncBuf_eq_some.mp hs
      have hbuf : (s.pushSyncBuf c data g₀).syncBuf = s.syncBuf := by
        rw [Ap.pushSyncBuf]
        split <;> rfl
      rw [hbuf]
      exact ⟨hr, fun _ => ⟨rfl, rfl⟩⟩
  | pushClaim c =>
      obtain ⟨data, g₀, hc, rfl⟩ := Ap.step_pushClaim_eq_some.mp hs
      have hne : g ≠ g₀ := by
        rintro rfl
        exact (hu _ hc).2.1 hr
      exact (agreesAt_pushClaim hc hne).keepsReady hr
  | pushCompose c rnd =>
      obtain ⟨data, g₀, hc, rfl⟩ := Ap.step_pushCompose_eq_some.mp hs
      by_cases hg : g = g₀
      · subst hg
        have hown : s.WritesOwn (.pushCompose c rnd) g := ⟨_, hc, rfl, by simp⟩
        exact ⟨by simpa [Ap.pushCompose] using hr, fun hnot => absurd hown hnot⟩
      · exact (agreesAt_pushCompose hc hg).keepsReady hr
  | pushReturn c =>
      obtain ⟨data, g₀, outLen, hc, rfl⟩ := Ap.step_pushReturn_eq_some.mp hs
      by_cases hg : g = g₀
      · subst hg
        have hown : s.WritesOwn (.pushReturn c) g := ⟨_, hc, rfl, by simp⟩
        exact ⟨by simpa [Ap.pushReturn] using hr, fun hnot => absurd hown hnot⟩
      · exact (agreesAt_pushReturn hc hg).keepsReady hr
  | pawrRequest request =>
      cases hs
      exact ⟨hr, fun _ => ⟨rfl, rfl⟩⟩
  | fillBufWork =>
      obtain ⟨-, rfl⟩ := Ap.step_fillBufWork_eq_some.mp hs
      exact ⟨hr, fun _ => ⟨rfl, rfl⟩⟩
  | fillBufTurn =>
      obtain ⟨w, hw, -, rfl⟩ := Ap.step_fillBufTurn_eq_some.mp hs
      have hne : g ≠ currentSubevent cfg w := fun hg => hother ⟨w, hw, hg.symm⟩
      exact (agreesAt_fillBufTurn hw fun _ => hne).keepsReady hr
  | setSubeventData accepted =>
      obtain ⟨w, -, -, rfl⟩ := Ap.step_setSubeventData_eq_some.mp hs
      cases accepted with
      | true => exact ⟨hr, fun _ => ⟨rfl, rfl⟩⟩
      | false =>
          -- what the controller refuses is made ready again
          simp only [Ap.setSubeventData, Ap.restore, Bool.false_eq_true, if_false]
          split
          · exact ⟨rfl, fun _ => ⟨rfl, rfl⟩⟩
          · exact ⟨hr, fun _ => ⟨rfl, rfl⟩⟩
  | pawrResponse info buf wreck =>
      simp only [Ap.step, Option.some_inj] at hs
      rw [← hs, orWreck_of_safe hu]
      exact (agreesAt_pawrResponse info buf).keepsReady hr
  | respFillBufWork stack wreck =>
      obtain ⟨hsafe, hanswerable⟩ := hu
      obtain ⟨-, rfl⟩ := Ap.step_respFillBufWork_eq_some.mp hs
      have hne : g ≠ s.respInfo.subevent.toNat := by
        rintro rfl
        exact hanswerable.2 hr
      rw [orWreck_of_safe hsafe, val_respFillBufWorkFn, syncBuf_updateGroup_ne _ _ _ hne]
      exact ⟨hr, fun _ => ⟨rfl, rfl⟩⟩
  | dumpRespBuf g₀ =>
      obtain ⟨-, rfl⟩ := Ap.step_dumpRespBuf_eq_some.mp hs
      have hne : g ≠ g₀ := by
        rintro rfl
        exact hu.2 hr
      exact (AgreesAt.updateGroup _ hne).keepsReady hr
  | pingWork =>
      obtain ⟨-, rfl⟩ := Ap.step_pingWork_eq_some.mp hs
      exact ⟨hr, fun _ => ⟨rfl, rfl⟩⟩
  | pingClear =>
      obtain ⟨idx, hp, rfl⟩ := Ap.step_pingClear_eq_some.mp hs
      have hne : g ≠ idx := by
        rintro rfl
        exact (hu _ hp).2.1 hr
      exact (agreesAt_ping hne hp (by rintro q ⟨⟩; exact .inl rfl)).keepsReady hr
  | pingCompose rnd =>
      obtain ⟨idx, hp, rfl⟩ := Ap.step_pingCompose_eq_some.mp hs
      have hne : g ≠ idx := by
        rintro rfl
        exact (hu _ hp).1 hr
      exact (agreesAt_ping hne hp (by rintro q ⟨⟩; exact .inl rfl)).keepsReady hr
  | pingReady =>
      obtain ⟨idx, outLen, hp, rfl⟩ := Ap.step_pingReady_eq_some.mp hs
      have hne : g ≠ idx := by
        rintro rfl
        exact hu _ hp hr
      have hbuf : (s.pingReady cfg idx outLen).syncBuf g = s.syncBuf g :=
        Function.update_of_ne hne _ _
      rw [hbuf]
      exact ⟨hr, fun _ => ⟨rfl, rfl⟩⟩

/-- A call of `esl_c_push_sync_buf` keeps its arguments. -/
lemma LegalPushes.setCaller (h : s.LegalPushes cfg) {c : ℕ} {p : Option Push}
    (hp : ∀ q, p = some q → PushArgs cfg q.data q.groupId) :
    (s.setCaller c p).LegalPushes cfg := by
  intro c' q hq
  by_cases hc : c' = c
  · subst hc
    rw [callers_setCaller_same] at hq
    exact hp q hq
  · rw [callers_setCaller_ne _ _ _ hc] at hq
    exact h c' q hq

lemma LegalPushes.step {e : ApEvent} (h : s.LegalPushes cfg) (hu : s.Undisturbed cfg ead e)
    (hs : s.step cfg ead e = some s') : s'.LegalPushes cfg := by
  cases e with
  | pushSyncBuf c data g =>
      obtain ⟨⟨-, hargs⟩, rfl⟩ := Ap.step_pushSyncBuf_eq_some.mp hs
      simp only [Ap.pushSyncBuf]
      split
      · exact h.setCaller (by rintro q ⟨⟩; exact hargs)
      · exact h
  | pushClaim c =>
      obtain ⟨data, g, hc, rfl⟩ := Ap.step_pushClaim_eq_some.mp hs
      have hargs : PushArgs cfg data g := h c _ hc
      exact LegalPushes.setCaller (s := s.updateGroup _ _) h (by rintro q ⟨⟩; exact hargs)
  | pushCompose c rnd =>
      obtain ⟨data, g, hc, rfl⟩ := Ap.step_pushCompose_eq_some.mp hs
      have hargs : PushArgs cfg data g := h c _ hc
      exact LegalPushes.setCaller (s := s.updateGroup _ _) h (by rintro q ⟨⟩; exact hargs)
  | pushReturn c =>
      obtain ⟨data, g, outLen, hc, rfl⟩ := Ap.step_pushReturn_eq_some.mp hs
      exact LegalPushes.setCaller (s := s.updateGroup _ _) h (fun q hq => nomatch hq)
  | pawrResponse info buf wreck =>
      simp only [Ap.step, Option.some_inj] at hs
      rw [← hs, orWreck_of_safe hu]
      have hcallers : (s.pawrResponse cfg info buf).val.callers = s.callers := by
        simp only [Ap.pawrResponse, Traced.val_ite]
        split <;> rfl
      intro c p hp
      exact h c p (hcallers ▸ hp)
  | respFillBufWork stack wreck =>
      obtain ⟨-, rfl⟩ := Ap.step_respFillBufWork_eq_some.mp hs
      rw [orWreck_of_safe hu.1, val_respFillBufWorkFn]
      exact h
  | fillBufTurn =>
      obtain ⟨w, hw, -, rfl⟩ := Ap.step_fillBufTurn_eq_some.mp hs
      simp only [Ap.fillBufTurn]
      split <;> exact h
  | setSubeventData accepted =>
      obtain ⟨w, hw, -, rfl⟩ := Ap.step_setSubeventData_eq_some.mp hs
      cases accepted <;> exact h
  | pawrRequest request =>
      cases hs
      exact h
  | fillBufWork | dumpRespBuf g | pingWork =>
      simp only [Ap.step, Option.ite_none_right_eq_some, Option.some_inj] at hs
      obtain ⟨-, rfl⟩ := hs
      exact h
  | pingClear | pingCompose rnd | pingReady =>
      simp only [Ap.step] at hs
      split at hs
      · cases hs
        exact h
      · cases hs

/-- The steps that leave payloads alone keep the invariant. -/
theorem Inv.preserved (hl : ead.Lawful) :
    TransitionSystem.PreservedUnder (step cfg ead) (Undisturbed cfg ead) (Inv cfg ead) :=
  fun _ _ _ hi hu hs =>
    ⟨hi.legal.step hu hs, GroupInv.step hl hi.legal hi.group hu hs⟩

/-- Nothing is pushed, pinged or owed at the start. -/
lemma Inv.init (key : KeyMaterial) : Inv cfg ead (init key) where
  legal c p hp := nomatch hp
  group g := by
    have hnone : ∀ c, ¬ (Ap.init key).Claims g c := by
      rintro c ⟨p, hp, -⟩
      cases hp
    refine ⟨fun p hp => (nomatch hp), fun p hp => (nomatch hp), fun c hc => absurd hc (hnone c),
      fun c p o hc => (nomatch hc), fun _ => rfl, fun o hp => (nomatch hp), ?_⟩
    rintro (hr | hp) -
    · cases hr
    · cases hp

end Ap

open Ap TransitionSystem

/-- **No payload is lost while nobody disturbs it.**  In every run whose steps keep out of the way
of payloads, each payload that `esl_c_push_sync_buf` has returned 0 for stays ready in its buffer,
encoded, until the controller accepts it, no group is handed out while it is being written, and a
group that is ready keeps its status and its data until it is handed out. -/
theorem payloadKept_of_undisturbed (cfg : ApConfig) (ead : Ead) (hl : ead.Lawful)
    (key : KeyMaterial) (es : List ApEvent)
    (h : StepsMeet (Ap.step cfg ead) (Undisturbed cfg ead) (init key) es) :
    AlongRun (Ap.step cfg ead) (Kept ead) (init key) es
      ∧ StepsMeet (Ap.step cfg ead) (HandsOutWhole cfg ead) (init key) es
      ∧ StepsMeet (Ap.step cfg ead) (KeepsReady cfg ead) (init key) es := by
  have hpreserved : PreservedUnder (Ap.step cfg ead) (Undisturbed cfg ead) (Inv cfg ead) :=
    Inv.preserved hl
  refine ⟨?_, ?_, ?_⟩
  · have hinv := alongRun_of_stepsMeet hpreserved (Inv.init key) h
    exact hinv.imp fun s hs => GroupInv.kept hs.group
  · refine h.strengthen hpreserved ?_ (Inv.init key)
    intro s e _ hi hu _
    cases e with
    | fillBufTurn =>
        intro w hw hr
        exact ⟨hu w hw hr, (hi.group _).whole (.inl hr) (hu w hw hr)⟩
    | _ => trivial
  · exact h.strengthen hpreserved (fun _ _ _ _ hu _ => keepsReady_of_undisturbed hu) (Inv.init key)

/-- The steps that write the status of group `g` whatever it is. -/
def OverwritesStatus (cfg : ApConfig) (ead : Ead) (s : Ap) (e : ApEvent) (g : ℕ) : Prop :=
  match e with
  | .respFillBufWork stack _ =>
      (s.respFillBufWorkFn cfg ead stack).Safe ∧ g = s.respInfo.subevent.toNat
  | .dumpRespBuf g' => g = g'
  | .pingClear => ∃ stage, s.ping = some ⟨g, stage⟩
  | _ => False

/-- After such a step the group is not ready, and nothing else has changed. -/
lemma of_overwritesStatus {cfg : ApConfig} {ead : Ead} {s s' : Ap} {e : ApEvent} {g : ℕ}
    (hs : s.step cfg ead e = some s') (ho : OverwritesStatus cfg ead s e g) :
    (s'.syncBuf g).status ≠ .readyToPush ∧ s'.owed = s.owed ∧ s'.params = s.params
      ∧ s'.eslApKey = s.eslApKey := by
  cases e with
  | respFillBufWork stack wreck =>
      obtain ⟨hsafe, rfl⟩ := ho
      obtain ⟨-, rfl⟩ := Ap.step_respFillBufWork_eq_some.mp hs
      rw [orWreck_of_safe hsafe, val_respFillBufWorkFn]
      exact ⟨by simp [SyncBuffer.respFillBufWorkFn], rfl, rfl, rfl⟩
  | dumpRespBuf g' =>
      cases ho
      obtain ⟨-, rfl⟩ := Ap.step_dumpRespBuf_eq_some.mp hs
      exact ⟨by simp [SyncBuffer.dumpRespBuf], rfl, rfl, rfl⟩
  | pingClear =>
      obtain ⟨stage, hping⟩ := ho
      obtain ⟨idx, hp, rfl⟩ := Ap.step_pingClear_eq_some.mp hs
      cases hping.symm.trans hp
      exact ⟨by simp [Ap.pingClear], rfl, rfl, rfl⟩
  | _ => exact ho.elim

/-- Conversely such a step loses every payload that waits in the group, at once. -/
theorem not_kept_of_overwritesStatus {cfg : ApConfig} {ead : Ead} {s s' : Ap} {e : ApEvent} {g : ℕ}
    {payload : List UInt8} (hs : s.step cfg ead e = some s') (ho : OverwritesStatus cfg ead s e g)
    (hp : payload ∈ s.owed g) (hhand : ¬ s.InHand ead g payload) : ¬ s'.Kept ead := by
  obtain ⟨hstatus, howed, hparams, hkey⟩ := of_overwritesStatus hs ho
  intro hkept
  rcases hkept g payload (howed ▸ hp) with ⟨hr, -⟩ | ⟨packet, hmem, hpacket⟩
  · exact hstatus hr
  · exact hhand ⟨packet, hparams ▸ hmem, hkey ▸ hpacket⟩

/-- And it takes a group that is ready from the controller, whoever has made it ready. -/
theorem not_keepsReady_of_overwritesStatus {cfg : ApConfig} {ead : Ead} {s s' : Ap} {e : ApEvent}
    {g : ℕ} (hs : s.step cfg ead e = some s') (ho : OverwritesStatus cfg ead s e g)
    (hr : (s.syncBuf g).status = .readyToPush) : ¬ s.KeepsReady cfg ead e := by
  intro hkeeps
  have hother : ¬ s.TakesGroup cfg e g := by
    intro htakes
    cases e with
    | fillBufTurn => exact ho.elim
    | _ => exact htakes.elim
  exact (of_overwritesStatus hs ho).1 (hkeeps s' hs g hr hother).1

/-- A payload is pushed to group 0, requested and accepted. -/
def onePush : List ApEvent :=
  [ .pushSyncBuf 0 Ead.Sample.ping 0, .pushClaim 0, .pushCompose 0 Ead.Sample.rnd, .pushReturn 0
  , .pawrRequest ⟨0, 1⟩, .fillBufWork, .fillBufTurn, .setSubeventData true ]

theorem payloadKept_onePush :
    AlongRun (Ap.step .default .sample) (Kept .sample) (init Ead.Sample.key) onePush
      ∧ StepsMeet (Ap.step .default .sample) (HandsOutWhole .default .sample)
          (init Ead.Sample.key) onePush
      ∧ StepsMeet (Ap.step .default .sample) (KeepsReady .default .sample)
          (init Ead.Sample.key) onePush := by
  refine payloadKept_of_undisturbed .default .sample Ead.lawful_sample Ead.Sample.key onePush ?_
  refine fun s₁ h₁ => ⟨trivial, fun s₂ h₂ => ⟨?_, fun s₃ h₃ => ⟨?_, fun s₄ h₄ => ⟨trivial,
    fun s₅ h₅ => ⟨trivial, fun s₆ h₆ => ⟨trivial, fun s₇ h₇ => ⟨?_, fun s₈ h₈ =>
      ⟨trivial, trivial⟩⟩⟩⟩⟩⟩⟩⟩
  · -- the first push finds the group free
    cases h₁
    intro p hp
    cases hp
    refine ⟨?_, by decide, rfl⟩
    rintro (⟨c, p, hp, -, hst⟩ | ⟨_, hp, _⟩)
    · change Function.update (fun _ => none) 0 _ c = some p at hp
      by_cases hc : c = 0
      · subst hc
        cases hp
        exact hst rfl
      · simp [hc] at hp
    · cases hp
  · cases h₁
    cases h₂
    intro p hp
    cases hp
    rfl
  · -- the fill work comes after the push has returned
    cases h₁
    cases h₂
    cases h₃
    cases h₄
    cases h₅
    cases h₆
    rintro w - - (⟨c, p, hp, -, -⟩ | ⟨_, hp, _⟩)
    · change Function.update (Function.update (Function.update (Function.update
        (fun _ => none) 0 _) 0 _) 0 _) 0 none c = some p at hp
      by_cases hc : c = 0 <;> simp [hc] at hp
    · cases hp

/-- A second payload is pushed while the work for the response to the first one is queued. -/
def lateResponse : List ApEvent :=
  onePush ++
  [ .pawrResponse ⟨0, 0⟩ (.ofBytes (encryptedAd Ead.Sample.answer) fun _ => 0) (init .zero)
  , .pushSyncBuf 0 Ead.Sample.ping 0, .pushClaim 0, .pushCompose 0 Ead.Sample.rnd, .pushReturn 0
  , .respFillBufWork (fun _ => 0) (init .zero) ]

/-- The controller asks for group 0 when a push has set its status and composed nothing yet. -/
def earlyRequest : List ApEvent :=
  [.pushSyncBuf 0 Ead.Sample.ping 0, .pushClaim 0, .pawrRequest ⟨0, 1⟩, .fillBufWork, .fillBufTurn]

/-- The ping worker makes group 0 ready, and the group is dumped. -/
def dumpedPing : List ApEvent :=
  [.pingWork, .pingClear, .pingCompose Ead.Sample.rnd, .pingReady, .dumpRespBuf 0]

/-- No part holds in every run: the second payload of `lateResponse` is owed in a group that counts
as answered, `earlyRequest` hands out an empty packet, and `dumpedPing` takes a packet that is ready
from the controller. -/
theorem payloadKept_fails :
    ¬ (∀ (cfg : ApConfig) (ead : Ead), ead.Lawful → ∀ (key : KeyMaterial) (es : List ApEvent),
        AlongRun (Ap.step cfg ead) (Kept ead) (init key) es)
      ∧ ¬ (∀ (cfg : ApConfig) (ead : Ead), ead.Lawful → ∀ (key : KeyMaterial) (es : List ApEvent),
        StepsMeet (Ap.step cfg ead) (HandsOutWhole cfg ead) (init key) es)
      ∧ ¬ (∀ (cfg : ApConfig) (ead : Ead), ead.Lawful → ∀ (key : KeyMaterial) (es : List ApEvent),
        StepsMeet (Ap.step cfg ead) (KeepsReady cfg ead) (init key) es) := by
  refine ⟨?_, ?_, ?_⟩
  · intro h
    have hrun : ∃ s, run (Ap.step .default .sample) (init Ead.Sample.key) lateResponse = some s
        ∧ s.owed 0 = [Ead.Sample.ping] ∧ (s.syncBuf 0).status = .respFull
        ∧ s.fillBuf = none := by
      have hlast : (run (Ap.step .default .sample) (init Ead.Sample.key) lateResponse).map (fun s =>
          (s.owed 0, (s.syncBuf 0).status, s.fillBuf))
            = some ([Ead.Sample.ping], .respFull, none) := by
        decide +kernel
      obtain ⟨s, hs, heq⟩ := Option.map_eq_some_iff.mp hlast
      simp only [Prod.mk.injEq] at heq
      exact ⟨s, hs, heq⟩
    obtain ⟨s, hs, howed, hstatus, hfill⟩ := hrun
    have hkept := (h .default .sample Ead.lawful_sample Ead.Sample.key lateResponse).last hs
    rcases hkept 0 Ead.Sample.ping (by simp [howed]) with ⟨hready, -⟩ | ⟨packet, hmem, -⟩
    · simp [hstatus] at hready
    · simp [params, hfill] at hmem
  · intro h
    obtain ⟨-, h⟩ := h .default .sample Ead.lawful_sample Ead.Sample.key earlyRequest _ rfl
    obtain ⟨-, h⟩ := h _ rfl
    obtain ⟨-, h⟩ := h _ rfl
    obtain ⟨-, h⟩ := h _ rfl
    obtain ⟨hturn, -⟩ := h _ rfl
    obtain ⟨hpart, -⟩ := hturn _ rfl rfl
    exact hpart (.inl ⟨0, _, rfl, rfl, by simp⟩)
  · intro h
    obtain ⟨-, h⟩ := h .default .sample Ead.lawful_sample Ead.Sample.key dumpedPing _ rfl
    obtain ⟨-, h⟩ := h _ rfl
    obtain ⟨-, h⟩ := h _ rfl
    obtain ⟨-, h⟩ := h _ rfl
    obtain ⟨hdump, -⟩ := h _ rfl
    refine not_keepsReady_of_overwritesStatus (e := .dumpRespBuf 0) (g := 0) rfl ?_ ?_ hdump
    · rfl
    · rfl

end NrfEsl
