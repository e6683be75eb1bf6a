import MouseControl.Fault
import MouseControl.Json.Printer

/-! Mice as they appear on the bus, and the catalog of those that are supported. A unit is told by
vendor, product and serial number. -/
namespace MouseControl
open Text

structure Device where
  vendorId : UInt16
  productId : UInt16
  modelName : String
  serialNumber : String
deriving DecidableEq, Repr

inductive Family where
  | t50
  | generic
deriving DecidableEq, Repr

def Family.name : Family → String
  | .t50 => "T50"
  | .generic => "Bloody (generic)"

namespace Catalog

def vendorId : UInt16 := 0x09DA
def vendorIds : List UInt16 := [vendorId]
def t50 : UInt16 := 0x7F1B
def t50Rgb : UInt16 := 0x7F1C
def t50Family : List UInt16 := [t50, t50Rgb]

def modelName (vendor product : UInt16) : String :=
  if vendor = vendorId then
    if product = t50 then "Bloody T50"
    else if product = t50Rgb then "Bloody T50 RGB"
    else "Bloody mouse"
  else "Unknown device"

end Catalog

namespace Device

def display (device : Device) : String :=
  let serial := if device.serialNumber.isEmpty then "" else s!", serial: {device.serialNumber}"
  s!"{device.modelName} (VID: 0x{upperHex 4 device.vendorId.toNat}, " ++
    s!"PID: 0x{upperHex 4 device.productId.toNat}{serial})"

def members (device : Device) : List (String × Json.Scalar) :=
  [("vendor_id", .number device.vendorId.toNat), ("product_id", .number device.productId.toNat),
    ("model_name", .text device.modelName), ("serial_number", .text device.serialNumber)]

def sameUnit (device other : Device) : Bool :=
  device.vendorId == other.vendorId && device.productId == other.productId &&
    device.serialNumber == other.serialNumber

def isSupported (device : Device) : Bool :=
  Catalog.vendorIds.contains device.vendorId

def isBloody (device : Device) : Bool :=
  device.vendorId == Catalog.vendorId

def isT50 (device : Device) : Bool :=
  device.isBloody && Catalog.t50Family.contains device.productId

def family? (device : Device) : Option Family :=
  if !device.isSupported then none
  else if device.isT50 then some .t50
  else some .generic

def requireT50 (device : Device) : Except Error Unit :=
  if device.isT50 then .ok ()
  else .error (.unsupportedDevice device.vendorId device.productId)

def requireSupported (device : Device) : Except Error Unit :=
  if device.isSupported then .ok ()
  else .error (.unsupportedDevice device.vendorId device.productId)

end Device

/-- One interface of the bus; a unit has several. A missing string is told apart from an empty one. -/
structure Interface where
  vendorId : UInt16
  productId : UInt16
  product : Option String
  serial : Option String
deriving DecidableEq, Repr

def Interface.device (interface : Interface) : Device where
  vendorId := interface.vendorId
  productId := interface.productId
  modelName := interface.product.getD (Catalog.modelName interface.vendorId interface.productId)
  serialNumber := interface.serial.getD ""

def addUnit (units : List Device) (device : Device) : List Device :=
  if units.any (·.sameUnit device) then units else units ++ [device]

/-- The units behind a list of interfaces, each in the words of its first interface. -/
def unitsOf (interfaces : List Interface) : List Device :=
  (interfaces.map Interface.device).foldl addUnit []

def supported (devices : List Device) : List Device :=
  devices.filter Device.isSupported

end MouseControl
