import MouseControl.Check
import MouseControl.Device

/-! Sinks that receive profiles. A sink keeps the last profile it accepted; one that is set to fail
accepts none. -/
namespace MouseControl

structure Sink where
  failure : Option String
  last : Option (Device × Profile)
deriving DecidableEq, Repr

namespace Sink

def accepting : Sink := ⟨none, none⟩

def failing (reason : String) : Sink := ⟨some reason, none⟩

def receive (sink : Sink) (device : Device) (profile : Profile) : Except LinkError Unit × Sink :=
  match sink.failure with
  | some reason => (.error (.hid reason), sink)
  | none => (.ok (), { sink with last := some (device, profile) })

def apply (sink : Sink) (device : Device) (profile : Profile) : Except Error Unit × Sink :=
  match checkProfile profile, device.requireSupported with
  | .error error, _ => (.error error, sink)
  | .ok _, .error error => (.error error, sink)
  | .ok _, .ok _ =>
    let (result, sink) := sink.receive device profile
    (result.mapError (.transportFailed 0), sink)

end Sink

end MouseControl
