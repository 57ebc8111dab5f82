import NrfEsl.Ap.ReadMulti
import NrfEsl.Tag.View

/-!
# The ESL service of a tag

`bt_esl_init` puts the attributes of the service into a pool, which the stack registers with handles
one after the other.  Which characteristics of displays, sensors and LEDs there are depends on the
build.

An attribute names the functions that the stack calls for a read and for a write; the writes of the
four provisioning characteristics are `EslTag.attWrite`.
-/

namespace NrfEsl

/-! ## UUIDs -/

def btUuidGattPrimary : UInt16 := 0x2800
def btUuidGattChrc : UInt16 := 0x2803
def btUuidGattCcc : UInt16 := 0x2902
def btUuidEslService : UInt16 := 0x1857
def btUuidEslAddr : UInt16 := 0x2BF6
def btUuidApSyncKey : UInt16 := 0x2BF7
def btUuidEslRespKey : UInt16 := 0x2BF8
def btUuidEslAbsTime : UInt16 := 0x2BF9
def btUuidDispInf : UInt16 := 0x2BFA
def btUuidImgInf : UInt16 := 0x2BFB
def btUuidSensorInf : UInt16 := 0x2BFC
def btUuidLedInf : UInt16 := 0x2BFD
def btUuidEslContPoint : UInt16 := 0x2BFE

/-! ## The pool -/

/-- The read callbacks. -/
inductive TagRead
  /-- `esl_addr_read`, `ap_key_read`, `esl_rsp_key_read` and `abs_time_read` -/
  | provision (chrc : Characteristic)
  /-- `esl_disp_read`, `esl_image_read`, `esl_sensor_read` and `esl_led_read` -/
  | info (field : ReadField)
  deriving DecidableEq, Repr

/-- The write callbacks. -/
inductive TagWrite
  /-- `esl_addr_write`, `ap_key_write`, `esl_rsp_key_write` and `abs_time_write` -/
  | provision (chrc : Characteristic)
  | eslControlWrite
  /-- The stack's own, which calls `esl_cont_point_ccc_changed`. -/
  | ccc
  deriving DecidableEq, Repr

/-- An attribute in the pool. -/
structure ServiceAttr where
  uuid : UInt16
  /-- What a characteristic declaration declares. -/
  chrc : Option UInt16 := none
  read : Option TagRead := none
  write : Option TagWrite := none
  deriving DecidableEq, Repr

/-- `BT_GATT_POOL_SVC` -/
def btGattPoolSvc (pool : List ServiceAttr) : List ServiceAttr :=
  pool ++ [{ uuid := btUuidGattPrimary }]

/-- `BT_GATT_POOL_CHRC`: the declaration and the value. -/
def btGattPoolChrc (uuid : UInt16) (read : Option TagRead) (write : Option TagWrite)
    (pool : List ServiceAttr) : List ServiceAttr :=
  pool ++
    [{ uuid := btUuidGattChrc, chrc := some uuid }, { uuid := uuid, read := read, write := write }]

/-- `BT_GATT_POOL_CCC` -/
def btGattPoolCcc (pool : List ServiceAttr) : List ServiceAttr :=
  pool ++ [{ uuid := btUuidGattCcc, write := some .ccc }]

/-- Which conditional characteristics a build has. -/
structure ServiceBuild where
  /-- `CONFIG_BT_ESL_IMAGE_AVAILABLE` -/
  images : Bool
  /-- `CONFIG_BT_ESL_SENSOR_MAX > 0` -/
  sensors : Bool
  /-- `CONFIG_BT_ESL_LED_MAX > 0` -/
  leds : Bool
  deriving DecidableEq, Repr

namespace ServiceBuild

/-- The characteristics that a build has information in. -/
def has (build : ServiceBuild) : ReadField → Bool
  | .display | .image => build.images
  | .sensor => build.sensors
  | .led => build.leds
  | .pnpId => false

/-- `esl_display_register` -/
def eslDisplayRegister : List ServiceAttr → List ServiceAttr :=
  btGattPoolChrc btUuidDispInf (some (.info .display)) none

/-- `esl_sensor_register` -/
def eslSensorRegister : List ServiceAttr → List ServiceAttr :=
  btGattPoolChrc btUuidSensorInf (some (.info .sensor)) none

/-- `esl_led_register` -/
def eslLedRegister : List ServiceAttr → List ServiceAttr :=
  btGattPoolChrc btUuidLedInf (some (.info .led)) none

/-- `bt_esl_init` as far as the pool goes. -/
def pool (build : ServiceBuild) : List ServiceAttr :=
  let p := btGattPoolSvc []
  let p := btGattPoolChrc btUuidEslAddr (some (.provision .addr)) (some (.provision .addr)) p
  let p := btGattPoolChrc btUuidApSyncKey (some (.provision .apSyncKey))
    (some (.provision .apSyncKey)) p
  let p := btGattPoolChrc btUuidEslRespKey (some (.provision .responseKey))
    (some (.provision .responseKey)) p
  let p := btGattPoolChrc btUuidEslAbsTime (some (.provision .absTime)) (some (.provision .absTime)) p
  let p := if build.images then
      btGattPoolChrc btUuidImgInf (some (.info .image)) none (eslDisplayRegister p)
    else p
  let p := if build.sensors then eslSensorRegister p else p
  let p := if build.leds then eslLedRegister p else p
  btGattPoolCcc (btGattPoolChrc btUuidEslContPoint none (some .eslControlWrite) p)

end ServiceBuild

/-! ## Handles -/

/-- What a client sees of an attribute. -/
structure GattAttr where
  handle : ℕ
  uuid : UInt16
  chrc : Option UInt16 := none
  deriving DecidableEq, Repr

/-- The stack counts the handles of a service up. -/
def registered : ℕ → List ServiceAttr → List GattAttr
  | _, [] => []
  | handle, a :: pool => ⟨handle, a.uuid, a.chrc⟩ :: registered (handle + 1) pool

/-- A tag's service, from its first handle on. -/
structure TagService where
  build : ServiceBuild
  start : ℕ
  start_pos : 0 < start

namespace TagService

/-- What a client discovers. -/
def attrs (s : TagService) : List GattAttr := registered s.start s.build.pool

/-- The attribute that a request for a handle reaches. -/
def attrAt (s : TagService) (handle : ℕ) : Option ServiceAttr :=
  if s.start ≤ handle then s.build.pool[handle - s.start]? else none

end TagService

end NrfEsl
