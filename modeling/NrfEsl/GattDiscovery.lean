import NrfEsl.Ap.GattHandles
import NrfEsl.ConfiguredTags
import NrfEsl.Lib.AttributeTable
import NrfEsl.LongRead
import NrfEsl.RecordOwnership

/-!
# What the access point finds of a tag

Every read and write of the access point is for a handle of the record of a connection.  It takes
effect on the right value of the right tag if discovery has put the right handle there.

**What a record should hold** (`KnowsPeer`).  Each handle is that of an attribute of the peer, of
the type that is wanted and in the characteristic that is wanted; all are there that the peer
offers; and for a tag of this service, in every build and wherever its handles begin, the writes of
the configuration worker, ECP commands, reads and notifications arrive where they should
(`ReachesTag`).

**Over runs** (`knowsPeers_of_inTime`).  Connections come and go, discoveries complete in any order,
and `esl_discovery_complete` finds the record by the address of the peer: a connection that is
discovered at its own index has the handles of its own peer.
-/

namespace NrfEsl

open AttributeTable TransitionSystem

/-! ## Specification -/

namespace GattDm

variable (dm : GattDm)

/-- The attribute a block is after. -/
def find (b : HandleBlock) : Option GattAttr :=
  lookUp GattAttr.chrc GattAttr.uuid b.chrc b.desc dm.attrs

/-- The characteristic has the attribute, or there is no such characteristic and none is needed. -/
def Offers (b : HandleBlock) : Prop :=
  (dm.find b).isSome ∨ b.required = false ∧ ∀ a ∈ dm.attrs, a.chrc ≠ some b.chrc

/-- The last declaration before the attribute is that of the characteristic. -/
def InCharacteristic (chrc : UInt16) (a : GattAttr) : Prop :=
  ∃ before decl between behind, dm.attrs = before ++ decl :: (between ++ a :: behind)
    ∧ decl.chrc = some chrc ∧ a.chrc = none ∧ ∀ b ∈ between, b.chrc = none

end GattDm

/-- What `bt_esl_handles_assign` makes of the handles of a record. -/
structure HandlesAssigned (dm : GattDm) (old : GattHandles) (r : Option AssignError × GattHandles) :
    Prop where
  notSupported : dm.serviceUuid ≠ btUuidEslService → r = (some .enotsup, old)
  succeeds : dm.serviceUuid = btUuidEslService → (r.1 = none ↔ ∀ b ∈ handleBlocks, dm.Offers b)
  complete : r.1 = none → ∀ b ∈ handleBlocks, r.2 b.handle = ((dm.find b).map (·.handle)).getD 0
  /-- Also when it fails half-way. -/
  sound : dm.serviceUuid = btUuidEslService → ∀ e, r.2 e ≠ 0 → ∃ b ∈ handleBlocks, b.handle = e
    ∧ ∃ a, a.handle = r.2 e ∧ a.uuid = b.desc ∧ dm.InCharacteristic b.chrc a

/-- Requests for these handles reach what they are meant for. -/
structure ReachesTag (tag : TagService) (h : GattHandles) : Prop where
  /-- A write of the configuration worker is taken up by the handler of its characteristic. -/
  provisions : ∀ w : ConfigWrite, (tag.attrAt (h w.handle)).bind (·.write)
    = some (.provision w.characteristic)
  commands : (tag.attrAt (h .ecp)).bind (·.write) = some .eslControlWrite
  notifies : (tag.attrAt (h .ecpCcc)).bind (·.write) = some .ccc
  /-- A read finds the information, which is there if the build has it. -/
  reads : ∀ field ∈ ReadField.long,
    if tag.build.has field then (tag.attrAt (h field.handle)).bind (·.read) = some (.info field)
      ∧ h field.handle ≠ 0
    else h field.handle = 0

/-- What the record of a connection knows of its peer. -/
structure KnowsPeer (dm : GattDm) (h : GattHandles) (subscribed : Option (ℕ × ℕ)) : Prop where
  sound : dm.serviceUuid = btUuidEslService → ∀ e, h e ≠ 0 → ∃ b ∈ handleBlocks, b.handle = e
    ∧ ∃ a, a.handle = h e ∧ a.uuid = b.desc ∧ dm.InCharacteristic b.chrc a
  complete : dm.serviceUuid = btUuidEslService → (∀ b ∈ handleBlocks, dm.Offers b) →
    ∀ b ∈ handleBlocks, h b.handle = ((dm.find b).map (·.handle)).getD 0
  tag : dm.serviceUuid = btUuidEslService → ∀ tag : TagService, dm.attrs = tag.attrs →
    ReachesTag tag h
  /-- Notifications are awaited where the tag sends them, on the attribute that was written. -/
  subscribed : ∀ params ∈ subscribed, params = (h .ecp, h .ecpCcc)

namespace GattClient

/-- Every connection that is discovered knows its own peer. -/
def KnowsPeers (db : BtAddrLe → GattDm) (s : GattClient) : Prop :=
  ∀ connIdx, s.conns.discovered connIdx = true →
    KnowsPeer (db (s.conns.dst connIdx)) (s.handles connIdx) (s.subscribed connIdx)

/-- A discovery completes while the connection is up, and the connection finds its own index. -/
def InTime (cfg : ConnConfig) (atNull : BtAddrLe) (s : GattClient) : ConnEvent × Bool → Prop
  | (.eslDiscovered connIdx, _) =>
      s.conns.conn connIdx = true ∧ s.conns.FindsOwn cfg atNull connIdx
  | _ => True

instance (cfg : ConnConfig) (atNull : BtAddrLe) (s : GattClient) : DecidablePred (s.InTime cfg atNull)
  | (.eslDiscovered connIdx, _) => inferInstanceAs (Decidable (
      s.conns.conn connIdx = true ∧ s.conns.FindsOwn cfg atNull connIdx))
  | (.connected _ _ _, _) | (.disconnected _, _) | (.loadBegin, _) | (.loadEnd, _)
  | (.configured _ _ _, _) => isTrue trivial

end GattClient

/-! ## bt_esl_handles_assign -/

namespace GattDm

variable {dm : GattDm} {b : HandleBlock} {handles : GattHandles}

lemma charByUuid_eq_none (hl : dm.Lawful) {uuid : UInt16} :
    dm.charByUuid uuid = none ↔ ∀ a ∈ dm.attrs, a.chrc ≠ some uuid := by
  rw [hl.charByUuid, List.find?_eq_none]
  simp

/-- **One block.** -/
lemma assignBlock_eq (hl : dm.Lawful) : dm.assignBlock b handles
    = match dm.find b with
      | some a => (Function.update handles b.handle a.handle, true)
      | none => (handles, !b.required && (dm.charByUuid b.chrc).isNone) := by
  rw [assignBlock]
  cases hchar : dm.charByUuid b.chrc with
  | none =>
      have hfind : dm.find b = none := by
        rw [hl.charByUuid] at hchar
        exact lookUp_of_find?_none hchar
      simp [hfind]
  | some decl =>
      have hdesc : dm.descByUuid decl b.desc = dm.find b := by
        rw [hl.charByUuid] at hchar
        refine lookUp_of_find? (fun before a behind v heq => ?_) hchar
        exact hl.descByUuid before a behind v heq
      dsimp only
      rw [hdesc]
      cases dm.find b <;> simp

lemma snd_assignBlock (hl : dm.Lawful) (handles : GattHandles) :
    (dm.assignBlock b handles).2 = true ↔ dm.Offers b := by
  rw [assignBlock_eq hl, Offers, ← charByUuid_eq_none hl]
  cases dm.find b <;> simp

/-- The blocks go on as long as the peer offers what they are after. -/
lemma fst_assignBlocks (hl : dm.Lawful) {bs : List HandleBlock} :
    (dm.assignBlocks bs handles).1 = none ↔ ∀ b ∈ bs, dm.Offers b := by
  induction bs generalizing handles with
  | nil => simp [assignBlocks]
  | cons b bs ih =>
      rw [List.forall_mem_cons, ← snd_assignBlock hl handles, assignBlocks]
      split
      · rename_i h
        rw [ih, h, eq_self, true_and]
      · rename_i h
        simp [h]

/-- A handle is assigned by its own block only. -/
lemma assignBlock_of_ne {e : EslHandle} (hl : dm.Lawful) (he : e ≠ b.handle) :
    (dm.assignBlock b handles).1 e = handles e := by
  rw [assignBlock_eq hl]
  split
  · exact Function.update_of_ne he _ _
  · rfl

lemma assignBlock_self (hl : dm.Lawful) : (dm.assignBlock b handles).1 b.handle
    = ((dm.find b).map (·.handle)).getD (handles b.handle) := by
  rw [assignBlock_eq hl]
  cases dm.find b with
  | some a => exact Function.update_self ..
  | none => rfl

lemma assignBlocks_of_notMem (hl : dm.Lawful) {bs : List HandleBlock} {e : EslHandle}
    (he : e ∉ bs.map (·.handle)) : (dm.assignBlocks bs handles).2 e = handles e := by
  induction bs generalizing handles with
  | nil => rfl
  | cons b bs ih =>
      rw [List.map_cons, List.mem_cons, not_or] at he
      rw [assignBlocks]
      split
      · rw [ih he.2, assignBlock_of_ne hl he.1]
      · exact assignBlock_of_ne hl he.1

/-- **All blocks.** -/
lemma assignBlocks_of_mem (hl : dm.Lawful) {bs : List HandleBlock}
    (hnodup : (bs.map (·.handle)).Nodup) (hall : ∀ b ∈ bs, dm.Offers b) (hb : b ∈ bs) :
    (dm.assignBlocks bs handles).2 b.handle
      = ((dm.find b).map (·.handle)).getD (handles b.handle) := by
  induction bs generalizing handles with
  | nil => cases hb
  | cons c bs ih =>
      rw [List.map_cons, List.nodup_cons] at hnodup
      rw [List.forall_mem_cons] at hall
      rw [assignBlocks]
      rw [if_pos ((snd_assignBlock hl handles).mpr hall.1)]
      rcases List.mem_cons.mp hb with rfl | hb
      · rw [assignBlocks_of_notMem hl hnodup.1, assignBlock_self hl]
      · have hne : b.handle ≠ c.handle := fun h => hnodup.1 (h ▸ List.mem_map_of_mem hb)
        rw [ih hnodup.2 hall.2 hb, assignBlock_of_ne hl hne]

/-- Whatever is assigned is what its block is after. -/
lemma assignBlocks_sound (hl : dm.Lawful) {bs : List HandleBlock} {e : EslHandle}
    (handles : GattHandles) :
    (dm.assignBlocks bs handles).2 e = handles e
      ∨ ∃ b ∈ bs, b.handle = e ∧ ∃ a, dm.find b = some a
        ∧ (dm.assignBlocks bs handles).2 e = a.handle := by
  induction bs generalizing handles with
  | nil => exact .inl rfl
  | cons b bs ih =>
      have hblock : (dm.assignBlock b handles).1 e = handles e
          ∨ b.handle = e ∧ ∃ a, dm.find b = some a ∧ (dm.assignBlock b handles).1 e = a.handle := by
        by_cases he : e = b.handle
        · subst he
          rw [assignBlock_self hl]
          cases hfind : dm.find b with
          | none => exact .inl rfl
          | some a => exact .inr ⟨rfl, a, rfl, rfl⟩
        · exact .inl (assignBlock_of_ne hl he)
      rw [assignBlocks]
      split
      · rcases ih (dm.assignBlock b handles).1 with h | ⟨c, hc, hce, a, hfind, h⟩
        · rw [h]
          refine hblock.imp_right ?_
          rintro ⟨hb, a, hfind, ha⟩
          exact ⟨b, List.mem_cons_self, hb, a, hfind, ha⟩
        · exact .inr ⟨c, List.mem_cons_of_mem _ hc, hce, a, hfind, h⟩
      · refine hblock.imp_right ?_
        rintro ⟨hb, a, hfind, ha⟩
        exact ⟨b, List.mem_cons_self, hb, a, hfind, ha⟩

/-- **`bt_esl_handles_assign`.** -/
lemma handlesAssigned (hl : dm.Lawful) (old : GattHandles) :
    HandlesAssigned dm old (dm.btEslHandlesAssign old) := by
  have hassign : dm.serviceUuid = btUuidEslService →
      dm.btEslHandlesAssign old = dm.assignBlocks handleBlocks fun _ => 0 :=
    fun h => if_neg (not_not.mpr h)
  refine ⟨fun h => if_pos h, ?_, ?_, ?_⟩
  · intro h
    rw [hassign h, fst_assignBlocks hl]
  · intro hok b hb
    by_cases h : dm.serviceUuid = btUuidEslService
    · rw [hassign h] at hok ⊢
      exact assignBlocks_of_mem hl (by decide) ((fst_assignBlocks hl).mp hok) hb
    · rw [btEslHandlesAssign, if_pos h] at hok
      cases hok
  · intro h e he
    rw [hassign h] at he ⊢
    obtain ⟨b, hb, hbe, a, hfind, ha⟩ := (assignBlocks_sound hl _).resolve_left he
    obtain ⟨huuid, hchrc⟩ := lookUp_eq_some hfind
    exact ⟨b, hb, hbe, a, ha.symm, huuid, hchrc⟩

end GattDm

/-! ## The service of a tag -/

/-- A look-up among attributes finds the handle of the attribute it finds in the pool. -/
lemma lookUp_registered (uuid desc : UInt16) (start : ℕ) (pool : List ServiceAttr) :
    lookUp ServiceAttr.chrc ServiceAttr.uuid uuid desc pool = none
        ∧ lookUp GattAttr.chrc GattAttr.uuid uuid desc (registered start pool) = none
      ∨ ∃ k a, pool[k]? = some a ∧ lookUp ServiceAttr.chrc ServiceAttr.uuid uuid desc pool = some a
        ∧ lookUp GattAttr.chrc GattAttr.uuid uuid desc (registered start pool)
          = some ⟨start + k, a.uuid, a.chrc⟩ := by
  have hsection : ∀ (start : ℕ) (pool : List ServiceAttr),
      (belonging ServiceAttr.chrc pool).find? (fun b => b.uuid = desc) = none
          ∧ (belonging GattAttr.chrc (registered start pool)).find? (fun b => b.uuid = desc) = none
        ∨ ∃ k a, pool[k]? = some a
          ∧ (belonging ServiceAttr.chrc pool).find? (fun b => b.uuid = desc) = some a
          ∧ (belonging GattAttr.chrc (registered start pool)).find? (fun b => b.uuid = desc)
            = some ⟨start + k, a.uuid, a.chrc⟩ := by
    intro start pool
    induction pool generalizing start with
    | nil => exact .inl ⟨rfl, rfl⟩
    | cons a pool ih =>
        by_cases hchrc : a.chrc = none
        · by_cases huuid : a.uuid = desc
          · exact .inr ⟨0, a, rfl, by simp [belonging, hchrc, huuid],
              by simp [belonging, registered, hchrc, huuid]⟩
          · rcases ih (start + 1) with ⟨h, h'⟩ | ⟨k, b, hk, h, h'⟩
            · exact .inl ⟨by simpa [belonging, hchrc, huuid] using h,
                by simpa [belonging, registered, hchrc, huuid] using h'⟩
            · refine .inr ⟨k + 1, b, hk, by simpa [belonging, hchrc, huuid] using h, ?_⟩
              simpa [belonging, registered, hchrc, huuid, Nat.add_assoc, Nat.add_comm 1] using h'
        · exact .inl ⟨by simp [belonging, hchrc], by simp [belonging, registered, hchrc]⟩
  induction pool generalizing start with
  | nil => exact .inl ⟨rfl, rfl⟩
  | cons a pool ih =>
      by_cases ha : a.chrc = some uuid
      · rw [lookUp, if_pos ha, registered, lookUp, if_pos ha]
        rcases hsection (start + 1) pool with h | ⟨k, b, hk, h, h'⟩
        · exact .inl h
        · exact .inr ⟨k + 1, b, hk, h, by rw [h', Nat.add_right_comm, Nat.add_assoc]⟩
      · rw [lookUp, if_neg ha, registered, lookUp, if_neg ha]
        rcases ih (start + 1) with h | ⟨k, b, hk, h, h'⟩
        · exact .inl h
        · exact .inr ⟨k + 1, b, hk, h, by rw [h', Nat.add_right_comm, Nat.add_assoc]⟩

section Tag

variable {dm : GattDm} {tag : TagService} {h : GattHandles} {b : HandleBlock} {a : ServiceAttr}

/-- What a block finds in the pool of a tag. -/
def ServiceBuild.find (build : ServiceBuild) (b : HandleBlock) : Option ServiceAttr :=
  lookUp ServiceAttr.chrc ServiceAttr.uuid b.chrc b.desc build.pool

/-- The attribute of the pool is reached. -/
lemma reached_of_find (hattrs : dm.attrs = tag.attrs) (hfind : tag.build.find b = some a) :
    ∃ handle, (dm.find b).map (·.handle) = some handle ∧ handle ≠ 0
      ∧ tag.attrAt handle = some a := by
  rw [GattDm.find, hattrs, TagService.attrs]
  rcases lookUp_registered b.chrc b.desc tag.start tag.build.pool with
    ⟨hnone, -⟩ | ⟨k, a', hk, ha, hr⟩
  · rw [ServiceBuild.find, hnone] at hfind
    cases hfind
  · obtain rfl : a' = a := Option.some.inj (ha.symm.trans hfind)
    refine ⟨tag.start + k, by rw [hr]; rfl, ?_, ?_⟩
    · have := tag.start_pos
      omega
    · rw [TagService.attrAt, if_pos (Nat.le_add_right _ _), Nat.add_sub_cancel_left, hk]

/-- What is not in the pool is not found. -/
lemma find_eq_none (hattrs : dm.attrs = tag.attrs) (hfind : tag.build.find b = none) :
    dm.find b = none := by
  rw [GattDm.find, hattrs, TagService.attrs]
  rcases lookUp_registered b.chrc b.desc tag.start tag.build.pool with ⟨-, hr⟩ | ⟨k, a, hk, ha, hr⟩
  · exact hr
  · rw [ServiceBuild.find, ha] at hfind
    cases hfind

/-- A declaration of the tag's service is in the pool. -/
lemma exists_mem_pool {x : GattAttr} {start : ℕ} {pool : List ServiceAttr}
    (hx : x ∈ registered start pool) : ∃ a ∈ pool, a.chrc = x.chrc := by
  induction pool generalizing start with
  | nil => cases hx
  | cons a pool ih =>
      rcases List.mem_cons.mp hx with rfl | hx
      · exact ⟨a, List.mem_cons_self, rfl⟩
      · obtain ⟨b, hb, hchrc⟩ := ih hx
        exact ⟨b, List.mem_cons_of_mem _ hb, hchrc⟩

/-- **Every build offers what is needed.** -/
lemma find_pool (build : ServiceBuild) : ∀ b ∈ handleBlocks,
    (build.find b).isSome ∨ b.required = false ∧ ∀ a ∈ build.pool, a.chrc ≠ some b.chrc := by
  obtain ⟨_ | _, _ | _, _ | _⟩ := build <;> decide

lemma offers_of_tag (hattrs : dm.attrs = tag.attrs) : ∀ b ∈ handleBlocks, dm.Offers b := by
  intro b hb
  rcases find_pool tag.build b hb with hsome | ⟨hopt, hnot⟩
  · obtain ⟨a, ha⟩ := Option.isSome_iff_exists.mp hsome
    obtain ⟨handle, hhandle, -⟩ := reached_of_find hattrs ha
    refine .inl ?_
    cases hfind : dm.find b with
    | none =>
        rw [hfind] at hhandle
        cases hhandle
    | some x => rfl
  · refine .inr ⟨hopt, fun x hx => ?_⟩
    rw [hattrs] at hx
    obtain ⟨a, ha, hchrc⟩ := exists_mem_pool hx
    rw [← hchrc]
    exact hnot a ha

/-- The attribute that a handle should be of. -/
def ServiceBuild.attr (build : ServiceBuild) (e : EslHandle) : Option ServiceAttr :=
  (handleBlocks.find? fun b => b.handle = e).bind build.find

lemma attr_provision (build : ServiceBuild) (w : ConfigWrite) :
    (build.attr w.handle).bind (·.write) = some (.provision w.characteristic) := by
  obtain ⟨_ | _, _ | _, _ | _⟩ := build <;> cases w <;> rfl

lemma attr_ecp (build : ServiceBuild) : (build.attr .ecp).bind (·.write) = some .eslControlWrite
    ∧ (build.attr .ecpCcc).bind (·.write) = some .ccc := by
  obtain ⟨_ | _, _ | _, _ | _⟩ := build <;> exact ⟨rfl, rfl⟩

lemma attr_info (build : ServiceBuild) : ∀ field ∈ ReadField.long,
    if build.has field then (build.attr field.handle).bind (·.read) = some (.info field)
    else build.attr field.handle = none := by
  obtain ⟨_ | _, _ | _, _ | _⟩ := build <;> decide

/-- **Every build of the tag is reached.** -/
lemma reachesTag (hattrs : dm.attrs = tag.attrs)
    (hh : ∀ b ∈ handleBlocks, h b.handle = ((dm.find b).map (·.handle)).getD 0) :
    ReachesTag tag h := by
  have hblock : ∀ {e : EslHandle} {b : HandleBlock},
      handleBlocks.find? (fun b => b.handle = e) = some b →
      b ∈ handleBlocks ∧ b.handle = e := by
    intro e b hb
    have he := List.find?_some hb
    exact ⟨List.mem_of_find?_eq_some hb, of_decide_eq_true he⟩
  have hreached : ∀ e a, tag.build.attr e = some a → tag.attrAt (h e) = some a ∧ h e ≠ 0 := by
    intro e a ha
    obtain ⟨b, hb, hfind⟩ := Option.bind_eq_some_iff.mp ha
    obtain ⟨hmem, rfl⟩ := hblock hb
    obtain ⟨handle, hhandle, hne, hattr⟩ := reached_of_find hattrs hfind
    rw [hh b hmem, hhandle]
    exact ⟨hattr, hne⟩
  have hwrite : ∀ e w, (tag.build.attr e).bind (·.write) = some w →
      (tag.attrAt (h e)).bind (·.write) = some w := by
    intro e w hw
    obtain ⟨a, ha, hw⟩ := Option.bind_eq_some_iff.mp hw
    rw [(hreached e a ha).1, Option.bind_some, hw]
  refine ⟨fun w => hwrite _ _ (attr_provision _ w), hwrite _ _ (attr_ecp _).1,
    hwrite _ _ (attr_ecp _).2, fun field hfield => ?_⟩
  have hinfo := attr_info tag.build field hfield
  split at hinfo
  · rename_i hhas
    obtain ⟨a, ha, hread⟩ := Option.bind_eq_some_iff.mp hinfo
    rw [if_pos hhas, (hreached _ a ha).1, Option.bind_some, hread]
    exact ⟨rfl, (hreached _ a ha).2⟩
  · rename_i hhas
    rw [if_neg hhas]
    -- the block has found nothing
    have hsome : ∀ field ∈ ReadField.long,
        (handleBlocks.find? fun b => b.handle = field.handle).isSome := by decide
    obtain ⟨b, hb⟩ := Option.isSome_iff_exists.mp (hsome field hfield)
    obtain ⟨hmem, hhandle⟩ := hblock hb
    rw [ServiceBuild.attr, hb, Option.bind_some] at hinfo
    rw [← hhandle, hh b hmem, find_eq_none hattrs hinfo]
    rfl

end Tag

/-! ## Runs -/

namespace GattClient

variable {cfg : ConnConfig} {atNull : BtAddrLe} {db : BtAddrLe → GattDm} {s s' : GattClient}
  {i connIdx : UInt8}

/-- What the handles of a connection are: those of its own peer, which no other connection has. -/
structure DiscoveryInv (cfg : ConnConfig) (db : BtAddrLe → GattDm) (s : GattClient) : Prop where
  range : ∀ i, s.conns.conn i = true → i.toNat < cfg.maxConn
  distinct : ∀ i j, s.conns.conn i = true → s.conns.conn j = true → s.conns.dst i = s.conns.dst j →
    i = j
  discovered : ∀ i, s.conns.discovered i = true → s.conns.conn i = true
  handles : ∀ i, s.conns.discovered i = true →
    (db (s.conns.dst i)).serviceUuid = btUuidEslService →
      s.handles i = ((db (s.conns.dst i)).assignBlocks handleBlocks fun _ => 0).2
  subscribed : ∀ i, ∀ params ∈ s.subscribed i, s.conns.discovered i = true
    ∧ params = (s.handles i .ecp, s.handles i .ecpCcc)

/-- **Every discovered connection knows its peer.** -/
lemma DiscoveryInv.knowsPeers (hdb : ∀ peer, (db peer).Lawful) (h : DiscoveryInv cfg db s) :
    s.KnowsPeers db := by
  intro i hi
  set dm := db (s.conns.dst i) with hdm
  have hassign : dm.serviceUuid = btUuidEslService →
      (dm.btEslHandlesAssign fun _ => 0).2 = s.handles i := by
    intro huuid
    rw [GattDm.btEslHandlesAssign, if_neg (not_not.mpr huuid)]
    exact (h.handles i hi huuid).symm
  have hspec := GattDm.handlesAssigned (hdb (s.conns.dst i)) fun _ => 0
  rw [← hdm] at hspec
  have hcomplete : dm.serviceUuid = btUuidEslService → (∀ b ∈ handleBlocks, dm.Offers b) →
      ∀ b ∈ handleBlocks, s.handles i b.handle = ((dm.find b).map (·.handle)).getD 0 := by
    intro huuid hall
    rw [← hassign huuid]
    exact hspec.complete ((hspec.succeeds huuid).mpr hall)
  refine ⟨?_, hcomplete, ?_, fun params hp => (h.subscribed i params hp).2⟩
  · intro huuid
    rw [← hassign huuid]
    exact hspec.sound huuid
  · intro huuid tag hattrs
    exact reachesTag hattrs (hcomplete huuid (offers_of_tag hattrs))

lemma DiscoveryInv.init (storage : TagStorage) : DiscoveryInv cfg db (GattClient.init storage) where
  range := by rintro _ ⟨⟩
  distinct := by rintro _ _ ⟨⟩
  discovered := by rintro _ ⟨⟩
  handles := by rintro _ ⟨⟩
  subscribed := by rintro _ _ ⟨⟩

/-- Loads and configurations are about other parts of the records. -/
lemma DiscoveryInv.same (h : DiscoveryInv cfg db s) {conns : ConnTable}
    (hconn : conns.conn = s.conns.conn) (hdst : conns.dst = s.conns.dst)
    (hdisc : conns.discovered = s.conns.discovered) :
    DiscoveryInv cfg db { s with conns := conns } := by
  obtain ⟨hrange, hdistinct, hdiscovered, hhandles, hsub⟩ := h
  refine ⟨?_, ?_, ?_, ?_, ?_⟩
  · rwa [hconn]
  · rwa [hconn, hdst]
  · rwa [hconn, hdisc]
  · rwa [hdisc, hdst]
  · rwa [hdisc]

lemma DiscoveryInv.connected (h : DiscoveryInv cfg db s) {peer : BtAddrLe} {source : EslAclSource}
    (hidx : connIdx.toNat < cfg.maxConn) (hfree : s.conns.conn connIdx = false)
    (hpeer : s.conns.hasPeer cfg peer = false) :
    DiscoveryInv cfg db { s with conns := s.conns.connected connIdx peer source } := by
  refine ⟨fun i => ConnTable.range_connected h.range hidx,
    fun i j => ConnTable.distinct_connected h.range h.distinct hpeer, ?_, ?_, ?_⟩
  · intro i hi
    obtain ⟨hii, hold⟩ := ConnTable.of_discovered_connected hi
    rw [(ConnTable.connected_of_ne hii).1]
    exact h.discovered i hold
  · intro i hi
    obtain ⟨hii, hold⟩ := ConnTable.of_discovered_connected hi
    rw [(ConnTable.connected_of_ne hii).2.1]
    exact h.handles i hold
  · intro i params hp
    obtain ⟨hi, hparams⟩ := h.subscribed i params hp
    have hii : i ≠ connIdx := by
      rintro rfl
      rw [h.discovered i hi] at hfree
      cases hfree
    refine ⟨?_, hparams⟩
    rwa [(ConnTable.connected_of_ne hii).2.2.1]

lemma DiscoveryInv.disconnected (h : DiscoveryInv cfg db s) :
    DiscoveryInv cfg db { s with
      conns := s.conns.disconnected connIdx
      subscribed := Function.update s.subscribed connIdx none } := by
  refine ⟨fun i hi => h.range i (ConnTable.of_conn_disconnected hi).2, ?_, ?_, ?_, ?_⟩
  · intro i j hi hj hij
    exact h.distinct i j (ConnTable.of_conn_disconnected hi).2
      (ConnTable.of_conn_disconnected hj).2 hij
  · intro i hi
    obtain ⟨hii, hold⟩ := ConnTable.of_discovered_disconnected hi
    exact (ConnTable.disconnected_of_ne hii).1.trans (h.discovered i hold)
  · intro i hi
    exact h.handles i (ConnTable.of_discovered_disconnected hi).2
  · intro i params hp
    have hsub : params ∈ Function.update s.subscribed connIdx none i := hp
    have hii : i ≠ connIdx := by
      rintro rfl
      rw [Function.update_self] at hsub
      cases hsub
    rw [Function.update_of_ne hii] at hsub
    obtain ⟨hi, hparams⟩ := h.subscribed i params hsub
    exact ⟨(ConnTable.disconnected_of_ne hii).2.1.trans hi, hparams⟩

/-- What a discovery notes of the connections. -/
lemma conns_eslDiscoveryComplete (cfg : ConnConfig) (atNull : BtAddrLe) (connIdx : UInt8)
    (s : ConnTable) :
    (s.eslDiscoveryComplete cfg atNull connIdx).conn = s.conn
      ∧ (s.eslDiscoveryComplete cfg atNull connIdx).dst = s.dst
      ∧ (s.eslDiscoveryComplete cfg atNull connIdx).discovered
        = Function.update s.discovered connIdx (s.conn connIdx) := by
  rw [ConnTable.eslDiscoveryComplete, ConnTable.bleAddrToConnIdx]
  split
  · exact ⟨rfl, rfl, rfl⟩
  · exact ⟨rfl, rfl, rfl⟩

/-- A subscription is kept, or is to the handles of the record. -/
lemma subscribed_subscribeReceive (connIdx : UInt8) (s : GattClient) (accepted : Bool)
    (i : UInt8) :
    (s.subscribeReceive connIdx accepted).subscribed i = s.subscribed i
      ∨ i = connIdx ∧ (s.subscribeReceive connIdx accepted).subscribed i
        = some (s.handles connIdx .ecp, s.handles connIdx .ecpCcc) := by
  rw [subscribeReceive]
  split
  · exact .inl rfl
  · split
    · by_cases hii : i = connIdx
      · subst hii
        exact .inr ⟨rfl, Function.update_self ..⟩
      · exact .inl (Function.update_of_ne hii _ _)
    · exact .inl rfl

lemma frame_subscribeReceive (connIdx : UInt8) (s : GattClient) (accepted : Bool) :
    (s.subscribeReceive connIdx accepted).conns = s.conns
      ∧ (s.subscribeReceive connIdx accepted).handles = s.handles := by
  rw [subscribeReceive]
  split
  · exact ⟨rfl, rfl⟩
  · split <;> exact ⟨rfl, rfl⟩

/-- A discovery on a connection that is up. -/
lemma DiscoveryInv.eslDiscovered (h : DiscoveryInv cfg db s) (hconn : s.conns.conn connIdx = true)
    {accepted : Bool} : DiscoveryInv cfg db
      ({ s with conns := s.conns.eslDiscoveryComplete cfg atNull connIdx }.eslDiscoveryComplete
        (db (s.conns.dst connIdx)) connIdx accepted) := by
  set dm := db (s.conns.dst connIdx) with hdm
  set assigned := (dm.btEslHandlesAssign (s.handles connIdx)).2 with hassigned
  obtain ⟨hc, hd, hdisc⟩ := conns_eslDiscoveryComplete cfg atNull connIdx s.conns
  rw [hconn] at hdisc
  -- a second discovery finds the same handles again
  have hagain : s.conns.discovered connIdx = true → assigned = s.handles connIdx := by
    intro hi
    rw [hassigned, GattDm.btEslHandlesAssign]
    split
    · rfl
    · rename_i huuid
      exact (h.handles connIdx hi (not_not.mp huuid)).symm
  have hhandles : dm.serviceUuid = btUuidEslService →
      assigned = (dm.assignBlocks handleBlocks fun _ => 0).2 := by
    intro huuid
    rw [hassigned, GattDm.btEslHandlesAssign, if_neg (not_not.mpr huuid)]
  set t : GattClient :=
    { s with
      conns := s.conns.eslDiscoveryComplete cfg atNull connIdx
      handles := Function.update s.handles connIdx assigned } with ht
  show DiscoveryInv cfg db (t.subscribeReceive connIdx accepted)
  obtain ⟨hconns, hh⟩ := frame_subscribeReceive connIdx t accepted
  have hold : ∀ i, s.conns.discovered i = true → t.handles i = s.handles i := by
    intro i hi
    by_cases hii : i = connIdx
    · subst hii
      exact (Function.update_self ..).trans (hagain hi)
    · exact Function.update_of_ne hii _ _
  have hstays : ∀ i, s.conns.discovered i = true → t.conns.discovered i = true := by
    intro i hi
    rw [show t.conns.discovered = Function.update s.conns.discovered connIdx true from hdisc]
    by_cases hii : i = connIdx
    · rw [hii, Function.update_self]
    · rwa [Function.update_of_ne hii]
  refine ⟨?_, ?_, ?_, ?_, ?_⟩
  · rw [hconns, hc]
    exact h.range
  · rw [hconns, hc, hd]
    exact h.distinct
  · rw [hconns, hc, hdisc]
    intro i hi
    by_cases hii : i = connIdx
    · rwa [hii]
    · rw [Function.update_of_ne hii] at hi
      exact h.discovered i hi
  · rw [hconns, hd, hdisc, hh]
    intro i hi
    by_cases hii : i = connIdx
    · subst hii
      exact fun huuid => (Function.update_self ..).trans (hhandles huuid)
    · rw [Function.update_of_ne hii] at hi
      rw [hold i hi]
      exact h.handles i hi
  · intro i params hp
    rw [hconns, hh]
    rcases subscribed_subscribeReceive connIdx t accepted i with hsub | ⟨hii, hsub⟩
    · rw [hsub] at hp
      obtain ⟨hi, hparams⟩ := h.subscribed i params hp
      rw [hold i hi]
      exact ⟨hstays i hi, hparams⟩
    · rw [hsub] at hp
      rw [hii]
      refine ⟨?_, (Option.some.inj hp).symm⟩
      rw [show t.conns.discovered = Function.update s.conns.discovered connIdx true from hdisc,
        Function.update_self]

/-- **One step.** -/
theorem DiscoveryInv.preserved :
    PreservedUnder (step cfg atNull db) (InTime cfg atNull) (DiscoveryInv cfg db) := by
  rintro s ⟨e, accepted⟩ s' h hg hstep
  obtain ⟨conns, hconns, hs'⟩ := Option.map_eq_some_iff.mp hstep
  cases e with
  | connected connIdx peer source =>
      obtain ⟨⟨hidx, hfree, hpeer⟩, rfl⟩ :=
        Option.ite_none_right_eq_some.mp hconns |>.imp id Option.some.inj
      rw [← hs']
      exact h.connected hidx hfree hpeer
  | disconnected connIdx =>
      obtain ⟨-, rfl⟩ := Option.ite_none_right_eq_some.mp hconns |>.imp id Option.some.inj
      rw [← hs']
      exact h.disconnected
  | eslDiscovered connIdx =>
      obtain ⟨hidx, rfl⟩ := Option.ite_none_right_eq_some.mp hconns |>.imp id Option.some.inj
      obtain ⟨hconn, hown⟩ := hg
      rw [← hs']
      dsimp only
      rw [ConnTable.connIdxOf_dst hidx hconn
        (fun j hj hdst => h.distinct j connIdx hj hconn hdst) hown]
      exact h.eslDiscovered hconn
  | loadBegin =>
      obtain ⟨-, rfl⟩ := Option.ite_none_right_eq_some.mp hconns |>.imp id Option.some.inj
      rw [← hs']
      exact h.same rfl rfl rfl
  | loadEnd =>
      obtain ⟨args, -, rfl⟩ := Option.map_eq_some_iff.mp hconns
      rw [← hs']
      exact h.same rfl rfl rfl
  | configured connIdx eslAddr random =>
      obtain ⟨-, rfl⟩ := Option.ite_none_right_eq_some.mp hconns |>.imp id Option.some.inj
      rw [← hs']
      exact h.same rfl rfl rfl

/-- **Discovery keeps tags apart and finds everything.**  `bt_esl_handles_assign` is exact for every
peer, and in every run in which discoveries complete while the connection is up and finds its index,
each discovered connection has the handles of its own peer; those of a tag reach what they are meant
for, in every build. -/
theorem knowsPeers_of_inTime (cfg : ConnConfig) (atNull : BtAddrLe) (db : BtAddrLe → GattDm)
    (hdb : ∀ peer, (db peer).Lawful) (storage : TagStorage) (es : List (ConnEvent × Bool))
    (hG : StepsMeet (step cfg atNull db) (InTime cfg atNull) (GattClient.init storage) es) :
    (∀ peer old, HandlesAssigned (db peer) old ((db peer).btEslHandlesAssign old))
      ∧ AlongRun (step cfg atNull db) (KnowsPeers db) (GattClient.init storage) es :=
  ⟨fun peer old => GattDm.handlesAssigned (hdb peer) old,
    (alongRun_of_stepsMeet DiscoveryInv.preserved (.init storage) hG).imp fun _ h => h.knowsPeers hdb⟩

end GattClient

/-! ### Two tags at one index -/

/-- The look-ups, in a list of attributes. -/
def GattDm.ofAttrs (attrs : List GattAttr) : GattDm where
  serviceUuid := btUuidEslService
  attrs := attrs
  charByUuid uuid := attrs.find? fun a => a.chrc = some uuid
  descByUuid a uuid := ((attrs.dropWhile fun b => b ≠ a).tail.takeWhile fun b => b.chrc = none).find?
    fun b => b.uuid = uuid

lemma GattDm.lawful_ofAttrs {attrs : List GattAttr} (hnodup : attrs.Nodup) :
    (GattDm.ofAttrs attrs).Lawful := by
  refine ⟨fun _ => rfl, fun before a behind uuid heq => ?_⟩
  have hdrop : attrs.dropWhile (fun b => b ≠ a) = a :: behind := by
    have hsplit : attrs = before ++ a :: behind := heq
    have hnot : a ∉ before := by
      rw [hsplit] at hnodup
      exact fun hmem => (List.nodup_append.mp hnodup).2.2 a hmem a List.mem_cons_self rfl
    rw [hsplit, List.dropWhile_append_of_pos, List.dropWhile_cons_of_neg (by simp)]
    exact fun b hb => decide_eq_true fun h => hnot (h ▸ hb)
  show ((attrs.dropWhile fun b => b ≠ a).tail.takeWhile _).find? _ = _
  rw [hdrop, List.tail_cons]

/-- A tag with everything, and one without displays whose service begins elsewhere. -/
def twoServices (peer : BtAddrLe) : TagService :=
  if peer.type = 0 then ⟨⟨true, true, true⟩, 16, by decide⟩ else ⟨⟨false, false, true⟩, 40, by decide⟩

/-- Both are discovered at index 0, one after the other, and a third peer at index 1. -/
def discoveredInTurn : List (ConnEvent × Bool) :=
  [ (.connected 0 ⟨0, Vector.replicate 6 1⟩ .fromScan, true), (.eslDiscovered 0, true)
  , (.disconnected 0, true), (.connected 0 ⟨1, Vector.replicate 6 2⟩ .fromScan, true)
  , (.connected 1 ⟨0, Vector.replicate 6 3⟩ .fromScan, true), (.eslDiscovered 1, true)
  , (.eslDiscovered 0, true) ]

theorem knowsPeers_discoveredInTurn :
    let db := fun peer => GattDm.ofAttrs (twoServices peer).attrs
    AlongRun (GattClient.step .two ⟨0, Vector.replicate 6 3⟩ db) (GattClient.KnowsPeers db)
        (GattClient.init .empty) discoveredInTurn
      ∧ (run (GattClient.step .two ⟨0, Vector.replicate 6 3⟩ db) (GattClient.init .empty)
            discoveredInTurn).map (fun s =>
          (s.handles 0 .eslAddr, s.handles 0 .dispInf, s.subscribed 0)) = some (42, 0, some (52, 53)) := by
  have hdb : ∀ peer, (GattDm.ofAttrs (twoServices peer).attrs).Lawful := by
    intro peer
    refine GattDm.lawful_ofAttrs ?_
    rw [twoServices]
    split
    · decide
    · decide
  exact ⟨(GattClient.knowsPeers_of_inTime .two _ _ hdb .empty discoveredInTurn (by decide +kernel)).2,
    by decide +kernel⟩

end NrfEsl
