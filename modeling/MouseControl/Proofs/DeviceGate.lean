import MouseControl.Proofs.ExitStatus

/-! The gate before the devices. If opening by vendor and product gives an interface with that vendor and
product, then every report of a run goes to a supported mouse, and every report of the vendor protocol to
one that speaks it. A serial number does not get around the gate. -/
namespace MouseControl

def Bus.OpensAsAsked (bus : Bus) : Prop :=
  ∀ vendorId productId serial interface, bus.pick vendorId productId serial = some interface →
    interface.vendorId = vendorId ∧ interface.productId = productId

private theorem Bus.idle_opensAsAsked (interfaces : List Interface) (failStarts : List (Nat × String))
    (failOpen : Option String) (mouse : Mouse) :
    (Bus.idle interfaces failStarts failOpen mouse).OpensAsAsked := by
  intro vendorId productId serial interface given
  have fits := List.find?_some given
  simp only [Bool.and_eq_true, beq_iff_eq] at fits
  exact fits.1

private theorem Bus.OpensAsAsked.gives {bus : Bus} (asked : bus.OpensAsAsked) {device : Device}
    {interface : Interface} (given : bus.Gives device interface) :
    interface.vendorId = device.vendorId ∧ interface.productId = device.productId := by
  obtain ⟨serial, picked⟩ := given
  exact asked _ _ serial interface picked

theorem Device.isSupported_iff (device : Device) :
    device.isSupported = true ↔ device.vendorId = 0x09DA := by
  simp [isSupported, Catalog.vendorIds, Catalog.vendorId]

private theorem Device.isT50_iff (device : Device) :
    device.isT50 = true ↔
      device.vendorId = 0x09DA ∧ (device.productId = 0x7F1B ∨ device.productId = 0x7F1C) := by
  simp [isT50, isBloody, Catalog.t50Family, Catalog.vendorId, Catalog.t50, Catalog.t50Rgb]

namespace Cli
open Job

private theorem Reach.admits_ids {reach : Reach} {device : Device}
    (admitted : reach.admits device = true) :
    reach ≠ .none ∧ device.vendorId = 0x09DA ∧
      (reach ≠ .raw → device.productId = 0x7F1B ∨ device.productId = 0x7F1C) := by
  cases reach with
  | none => cases admitted
  | raw => exact ⟨by decide, device.isSupported_iff.mp admitted, fun other => absurd rfl other⟩
  | vendor =>
    obtain ⟨maker, product⟩ := device.isT50_iff.mp admitted
    exact ⟨by decide, maker, fun _ => product⟩

/-- Between two states of a bus its units were listed, to select one of them. -/
def Listed (before after : Bus) : Prop :=
  before.starts < after.starts ∧ before.failStarts.lookup before.starts = none

section Serial
variable {serial : String} {device : Device}

private theorem openT50_refused {world : World}
    (first : (supported (unitsOf world.bus.interfaces)).find? (·.serialNumber == serial) = some device)
    (other : device.isT50 = false) :
    (openT50 (some serial) world).2 = world.started ∧
      ∃ failure, (openT50 (some serial) world).1 = .error failure ∧
        (world.bus.failStarts.lookup world.bus.starts = none →
          failure = .failed (.unsupportedDevice device.vendorId device.productId)) := by
  have selecting := selectDevice_apply (some serial) Device.isT50 world
  cases lookup : world.bus.failStarts.lookup world.bus.starts with
  | some text =>
    rw [lookup] at selecting
    rw [openT50, bind_error selecting]
    exact ⟨rfl, _, rfl, fun wrong => (by cases wrong)⟩
  | none =>
    have chosen : choose (some serial) Device.isT50 (supported (unitsOf world.bus.interfaces)) =
        some device := first
    rw [lookup, chosen] at selecting
    rw [openT50, bind_ok selecting, bind_error (requireT50_refused other world.started)]
    exact ⟨rfl, _, rfl, fun _ => rfl⟩

private theorem Through.refused {mayCrash : Prop} {job : Job Unit}
    (through : Through (openT50 (some serial)) mayCrash job) {world : World}
    (first : (supported (unitsOf world.bus.interfaces)).find? (·.serialNumber == serial) = some device)
    (other : device.isT50 = false) :
    (job world).2.bus.events = world.bus.events ∧
      (Listed world.bus (job world).2.bus →
        (job world).1 = .error (.failed (.unsupportedDevice device.vendorId device.productId))) := by
  induction through generalizing world with
  | after quiet rest ih =>
    rename_i earlier next
    have alone : (earlier world).2.bus = world.bus := (quiet world).1
    rcases ran : earlier world with ⟨failure | value, left⟩
    · rw [ran] at alone
      rw [bind_error ran, show left.bus = world.bus from alone]
      refine ⟨rfl, fun listed => ?_⟩
      exact absurd listed.1 (Nat.lt_irrefl _)
    · rw [ran] at alone
      have same : left.bus = world.bus := alone
      rw [bind_ok ran, ← same]
      exact ih world value left ran (by rw [same]; exact first)
  | opening exchanging =>
    obtain ⟨left, failure, failed, refused⟩ := openT50_refused first other
    have stopped : openT50 (some serial) world = (.error failure, world.started) :=
      Prod.ext failed left
    rw [bind_error stopped]
    exact ⟨rfl, fun listed => congrArg Except.error (refused listed.2)⟩

end Serial

/-- Every report of a run goes to an interface of the one supported vendor and, raw reports apart, to one
of the two products that speak the vendor protocol. A command of the vendor protocol for a serial number
whose first supported unit does not speak it opens nothing, and fails for that reason if it gets as far as
selecting the unit. -/
theorem reports_pass_gate (arguments : List String) (readFile : ReadFile) {bus : Bus}
    (asked : bus.OpensAsAsked) :
    ∃ made, (run arguments readFile bus).events = bus.events ++ made ∧
      (∀ interface call, .report interface call ∈ made →
        interface.vendorId = 0x09DA ∧
        ∃ invocation, readArguments arguments = .ok invocation ∧
          invocation.command.reach ≠ .none ∧
          (invocation.command.reach ≠ .raw →
            interface.productId = 0x7F1B ∨ interface.productId = 0x7F1C)) ∧
      ∀ invocation serial device result world, readArguments arguments = .ok invocation →
        invocation.command.reach = .vendor → invocation.serial = some serial →
        (supported (unitsOf bus.interfaces)).find? (·.serialNumber == serial) = some device →
        device.isT50 = false →
        perform readFile invocation.serial invocation.command ⟨bus, "", ""⟩ = (result, world) →
        made = [] ∧ (Listed bus world.bus →
          result = .error (.failed (.unsupportedDevice device.vendorId device.productId))) := by
  cases read : readArguments arguments with
  | error stop =>
    obtain ⟨kept, _⟩ := run_stopped readFile bus read
    refine ⟨[], by rw [kept, List.append_nil], fun _ _ member => (by cases member), ?_⟩
    intro invocation serial device result world wrong
    cases wrong
  | ok invocation =>
    obtain ⟨result, world, made, ended, kept, events, _, course⟩ := run_performed readFile bus read
    refine ⟨made, events, ?_, ?_⟩
    · intro interface call member
      obtain ⟨device, admitted, given⟩ := course.reached interface call member
      obtain ⟨maker, product⟩ := asked.gives given
      rw [maker, product]
      obtain ⟨reaches, supported, speaks⟩ := Reach.admits_ids admitted
      exact ⟨supported, invocation, rfl, reaches, speaks⟩
    · rintro _ serial device _ _ ⟨⟩ vendor named first other performed
      rw [ended] at performed
      cases performed
      have through := perform_vendor readFile invocation.serial vendor
      rw [named] at through ended
      obtain ⟨untouched, refused⟩ := @Through.refused _ _ _ _ through ⟨bus, "", ""⟩ first other
      rw [ended] at untouched refused
      refine ⟨?_, refused⟩
      rw [kept] at untouched
      exact List.self_eq_append_right.mp untouched.symm

-- Of two supported units only the first speaks the vendor protocol. For the first a report goes out,
-- which fails; for the second nothing is opened.
theorem reports_pass_gate_by_serial :
    let bus := Bus.idle
      [⟨0x09DA, 0x7F1B, some "Bloody T50", some "SN1"⟩, ⟨0x09DA, 0x1234, none, some "SN2"⟩]
      [] none { Mouse.fresh with failWrites := [(0, .timeout "x")] }
    let readFile : ReadFile := fun _ => .error .invalidUtf8
    bus.OpensAsAsked ∧
      (run ["--serial", "SN1", "backlight", "get"] readFile bus).events.length = 2 ∧
      (∀ interface call,
        .report interface call ∈ (run ["--serial", "SN1", "backlight", "get"] readFile bus).events →
          interface.productId = 0x7F1B ∨ interface.productId = 0x7F1C) ∧
      (run ["--serial", "SN2", "backlight", "get"] readFile bus).events = [] := by
  intro bus readFile
  have asked : bus.OpensAsAsked := Bus.idle_opensAsAsked _ _ _ _
  refine ⟨asked, by with_unfolding_all rfl, ?_, ?_⟩
  · have read : readArguments ["--serial", "SN1", "backlight", "get"] =
        .ok ⟨.backlight .get, some "SN1"⟩ := by with_unfolding_all rfl
    obtain ⟨made, kept, passes, _⟩ :=
      reports_pass_gate ["--serial", "SN1", "backlight", "get"] readFile asked
    intro interface call member
    rw [kept] at member
    obtain ⟨_, invocation, same, _, speaks⟩ := passes interface call member
    rw [read] at same
    cases same
    exact speaks (by decide)
  · have read : readArguments ["--serial", "SN2", "backlight", "get"] =
        .ok ⟨.backlight .get, some "SN2"⟩ := by with_unfolding_all rfl
    have first : (supported (unitsOf bus.interfaces)).find? (·.serialNumber == "SN2") =
        some ⟨0x09DA, 0x1234, "Bloody mouse", "SN2"⟩ := by with_unfolding_all rfl
    obtain ⟨made, kept, _, refused⟩ :=
      reports_pass_gate ["--serial", "SN2", "backlight", "get"] readFile asked
    obtain ⟨untouched, _⟩ := refused _ "SN2" _ _ _ read rfl rfl first (by decide) rfl
    rw [kept, untouched]
    rfl

end Cli

end MouseControl
