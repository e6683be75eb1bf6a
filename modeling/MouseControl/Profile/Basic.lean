import MouseControl.Json.Printer

/-! Performance profiles. -/
namespace MouseControl

structure Profile where
  dpi : UInt32
  pollingRate : UInt32
  liftOff : UInt32
deriving DecidableEq, Repr

namespace Profile

def standard : Profile := ⟨800, 1000, 2⟩

def json (profile : Profile) : String :=
  Json.compact [("dpi", .number profile.dpi.toNat),
    ("polling_rate_hz", .number profile.pollingRate.toNat),
    ("lift_off_distance", .number profile.liftOff.toNat)]

end Profile

end MouseControl
