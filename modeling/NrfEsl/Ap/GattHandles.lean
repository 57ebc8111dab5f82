import NrfEsl.Ap.Connections
import NrfEsl.Tag.GattService

/-!
# The handles of a tag's characteristics

When ESL discovery of a connection completes, `bt_esl_handles_assign` looks up the attributes it
needs and keeps their handles in the record of the connection; `bt_esl_c_subscribe_receive`
subscribes to the Control Point.  Every later read and write of the access point is for a handle of
the record.

Discovery itself is the stack's (`bt_gatt_dm`), and so are the look-ups in what it has found:
`GattDm`.
-/

namespace NrfEsl

/-! ## What the stack has discovered -/

/-- A discovered service. -/
structure GattDm where
  /-- `bt_gatt_dm_service_get` and `bt_gatt_dm_attr_service_val` -/
  serviceUuid : UInt16
  attrs : List GattAttr
  /-- `bt_gatt_dm_char_by_uuid` -/
  charByUuid : UInt16 → Option GattAttr
  /-- `bt_gatt_dm_desc_by_uuid` -/
  descByUuid : GattAttr → UInt16 → Option GattAttr

/-- The look-ups are as documented: the first declaration with a UUID, and the first attribute with a
UUID from a declaration on, up to the next declaration. -/
structure GattDm.Lawful (dm : GattDm) : Prop where
  charByUuid : ∀ uuid, dm.charByUuid uuid = dm.attrs.find? fun a => a.chrc = some uuid
  descByUuid : ∀ before a behind uuid, dm.attrs = before ++ a :: behind →
    dm.descByUuid a uuid = (behind.takeWhile fun b => b.chrc = none).find? fun b => b.uuid = uuid

/-! ## bt_esl_handles_assign -/

/-- `enum ESL_CLIENT_HANDLES` -/
inductive EslHandle
  | eslAddr | apSyncKey | eslRespKey | eslAbsTime | dispInf | imageInf | sensorInf | ledInf | ecp
  | ecpCcc | disPnpid
  deriving DecidableEq, Repr

/-- `struct bt_esl_client_handles`; 0 is `BT_ATT_INVALID_HANDLE`. -/
abbrev GattHandles := EslHandle → ℕ

/-- One block of the function: the attribute with UUID `desc` of a characteristic. -/
structure HandleBlock where
  handle : EslHandle
  chrc : UInt16
  desc : UInt16
  required : Bool
  deriving DecidableEq, Repr

/-- The blocks, in their order.  The CCC is looked up in the characteristic found just before. -/
def handleBlocks : List HandleBlock :=
  [ ⟨.eslAddr, btUuidEslAddr, btUuidEslAddr, true⟩
  , ⟨.apSyncKey, btUuidApSyncKey, btUuidApSyncKey, true⟩
  , ⟨.eslRespKey, btUuidEslRespKey, btUuidEslRespKey, true⟩
  , ⟨.eslAbsTime, btUuidEslAbsTime, btUuidEslAbsTime, true⟩
  , ⟨.ecp, btUuidEslContPoint, btUuidEslContPoint, true⟩
  , ⟨.ecpCcc, btUuidEslContPoint, btUuidGattCcc, true⟩
  -- "Conditional Characteristics"
  , ⟨.dispInf, btUuidDispInf, btUuidDispInf, false⟩
  , ⟨.imageInf, btUuidImgInf, btUuidImgInf, false⟩
  , ⟨.sensorInf, btUuidSensorInf, btUuidSensorInf, false⟩
  , ⟨.ledInf, btUuidLedInf, btUuidLedInf, false⟩ ]

/-- The errors of the function. -/
inductive AssignError
  | enotsup | einval
  deriving DecidableEq, Repr

namespace GattDm

variable (dm : GattDm)

/-- A block, and whether the function goes on. -/
def assignBlock (b : HandleBlock) (handles : GattHandles) : GattHandles × Bool :=
  match dm.charByUuid b.chrc with
  | none => (handles, !b.required)
  | some gattChrc =>
      match dm.descByUuid gattChrc b.desc with
      | none => (handles, false)
      | some gattDesc => (Function.update handles b.handle gattDesc.handle, true)

/-- Blocks until one fails. -/
def assignBlocks : List HandleBlock → GattHandles → Option AssignError × GattHandles
  | [], handles => (none, handles)
  | b :: bs, handles =>
      let r := dm.assignBlock b handles
      if r.2 then assignBlocks bs r.1 else (some .einval, r.1)

/-- `bt_esl_handles_assign` on the handles of a record. -/
def btEslHandlesAssign (handles : GattHandles) : Option AssignError × GattHandles :=
  if dm.serviceUuid ≠ btUuidEslService then (some .enotsup, handles)
  else dm.assignBlocks handleBlocks fun _ => 0

end GattDm

/-! ## Records of connections -/

/-- The connections, and of their records what is about handles. -/
structure GattClient where
  conns : ConnTable
  handles : UInt8 → GattHandles
  /-- The value handle and the CCC handle of `ecp_notif_params`, when
  `ESL_C_ECP_NOTIF_ENABLED` is set. -/
  subscribed : UInt8 → Option (ℕ × ℕ)

namespace GattClient

/-- After start-up. -/
def init (storage : TagStorage) : GattClient where
  conns := .init storage
  handles := fun _ _ => 0
  subscribed := fun _ => none

/-- `bt_esl_c_subscribe_receive`; `accepted` is the result of `bt_gatt_subscribe`. -/
def subscribeReceive (connIdx : UInt8) (accepted : Bool) (s : GattClient) : GattClient :=
  match s.subscribed connIdx with
  | some _ => s
  | none =>
      if s.conns.conn connIdx ∧ accepted then
        let params := (s.handles connIdx .ecp, s.handles connIdx .ecpCcc)
        { s with subscribed := Function.update s.subscribed connIdx (some params) }
      else s

/-- `esl_discovery_complete`, which does not look at the result of `bt_esl_handles_assign`. -/
def eslDiscoveryComplete (dm : GattDm) (connIdx : UInt8) (accepted : Bool) (s : GattClient) :
    GattClient :=
  let assigned := (dm.btEslHandlesAssign (s.handles connIdx)).2
  { s with handles := Function.update s.handles connIdx assigned }.subscribeReceive connIdx accepted

/-- One event, with the result of a subscription.  Every peer has its own database. -/
def step (cfg : ConnConfig) (atNull : BtAddrLe) (db : BtAddrLe → GattDm) (s : GattClient)
    (e : ConnEvent × Bool) : Option GattClient :=
  (s.conns.step cfg atNull e.1).map fun conns =>
    match e.1 with
    | .eslDiscovered connIdx =>
        match s.conns.connIdxOf cfg atNull (s.conns.dst connIdx) with
        | some idx =>
            { s with conns := conns }.eslDiscoveryComplete (db (s.conns.dst connIdx)) idx e.2
        | none => { s with conns := conns }
    | .disconnected connIdx =>
        { s with conns := conns, subscribed := Function.update s.subscribed connIdx none }
    | _ => { s with conns := conns }

end GattClient

/-! ## Which handle is used for what -/

/-- The handle that a write of the configuration worker is for. -/
def ConfigWrite.handle : ConfigWrite → EslHandle
  | .eslAddr _ => .eslAddr
  | .apKey _ => .apSyncKey
  | .rspKey _ => .eslRespKey
  | .absTime _ => .eslAbsTime

/-- The handle that a read is for. -/
def ReadField.handle : ReadField → EslHandle
  | .display => .dispInf
  | .image => .imageInf
  | .sensor => .sensorInf
  | .led => .ledInf
  | .pnpId => .disPnpid

end NrfEsl
