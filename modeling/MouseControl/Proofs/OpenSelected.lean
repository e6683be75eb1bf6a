import MouseControl.Proofs.Job

/-! The unit that was selected and the interface that is opened. Selecting goes through the units in the
order of their first interfaces, opening through the interfaces by vendor and product, and by serial
number if the unit has one. The two meet in the same unit, except where a unit without a serial number is
asked for behind another one of the same vendor and product. -/
namespace MouseControl

namespace Device

def sameModel (device other : Device) : Bool :=
  device.vendorId == other.vendorId && device.productId == other.productId

private theorem sameModel_iff (device other : Device) : device.sameModel other = true ↔
    device.vendorId = other.vendorId ∧ device.productId = other.productId := by
  simp [sameModel]

theorem sameUnit_iff (device other : Device) : device.sameUnit other = true ↔
    device.sameModel other = true ∧ device.serialNumber = other.serialNumber := by
  simp [sameUnit, sameModel]

end Device

def Modelwise (property : Device → Bool) : Prop :=
  ∀ device other : Device, device.sameModel other = true → property device = property other

def Unitwise (property : Device → Bool) : Prop :=
  ∀ device other : Device, device.sameUnit other = true → property device = property other

theorem isSupported_modelwise : Modelwise Device.isSupported := by
  intro device other same
  simp [Device.isSupported, ((Device.sameModel_iff _ _).mp same).1]

private theorem isT50_modelwise : Modelwise Device.isT50 := by
  intro device other same
  obtain ⟨vendor, product⟩ := (Device.sameModel_iff _ _).mp same
  simp [Device.isT50, Device.isBloody, vendor, product]

private theorem find?_addUnit {property : Device → Bool} (unitwise : Unitwise property)
    (units : List Device) (device : Device) :
    (addUnit units device).find? property =
      (units.find? property).or ([device].find? property) := by
  unfold addUnit
  split
  · rename_i known
    obtain ⟨unit, member, same⟩ := List.any_eq_true.mp known
    cases found : units.find? property with
    | some first => simp
    | none =>
      have absent := List.find?_eq_none.mp found unit member
      rw [unitwise unit device same] at absent
      simp [absent]
  · exact List.find?_append

private theorem find?_foldl_addUnit {property : Device → Bool} (unitwise : Unitwise property)
    (devices units : List Device) :
    (devices.foldl addUnit units).find? property =
      (units.find? property).or (devices.find? property) := by
  induction devices generalizing units with
  | nil => simp
  | cons device rest ih =>
    rw [List.foldl_cons, ih, find?_addUnit unitwise, Option.or_assoc, ← List.find?_append]
    simp

private theorem find?_unitsOf {property : Device → Bool} (unitwise : Unitwise property)
    (interfaces : List Interface) :
    (unitsOf interfaces).find? property =
      (interfaces.find? fun interface => property interface.device).map Interface.device := by
  rw [unitsOf, find?_foldl_addUnit unitwise, List.find?_nil, Option.none_or, List.find?_map]
  rfl

private theorem find?_narrower {α : Type} {wide narrow : α → Bool} {items : List α} {item : α}
    (found : items.find? wide = some item) (fits : narrow item = true)
    (implies : ∀ other, narrow other = true → wide other = true) :
    items.find? narrow = some item := by
  obtain ⟨_, earlier, later, split, before⟩ := List.find?_eq_some_iff_append.mp found
  apply List.find?_eq_some_iff_append.mpr
  refine ⟨fits, earlier, later, split, ?_⟩
  intro other member
  cases accepted : narrow other with
  | false => rfl
  | true =>
    have absent := before other member
    simp [implies other accepted] at absent

namespace Cli
open Job

def wanted (serial : Option String) (prefer : Device → Bool) (device : Device) : Bool :=
  device.isSupported && (serial.elim (prefer device) (device.serialNumber == ·))

theorem choose_eq (serial : Option String) (prefer : Device → Bool) (devices : List Device) :
    choose serial prefer devices = devices.find? fun device =>
      serial.elim (prefer device) (device.serialNumber == ·) := by
  cases serial <;> rfl

def reached (target device : Device) : Bool :=
  device.sameModel target &&
    (target.serialNumber == "" || device.serialNumber == target.serialNumber)

private theorem firstInterface?_reached (interfaces : List Interface) (target : Device) :
    firstInterface? interfaces target.vendorId target.productId
        (if target.serialNumber.isEmpty then none else some target.serialNumber) =
      interfaces.find? fun interface => reached target interface.device := by
  unfold firstInterface?
  congr 1
  funext interface
  by_cases unnumbered : target.serialNumber = ""
  · simp [reached, Device.sameModel, Interface.device, unnumbered]
  · have numbered : (target.serialNumber == "") = false := beq_eq_false_iff_ne.mpr unnumbered
    cases number : interface.serial with
    | none => simp [reached, Device.sameModel, Interface.device, unnumbered, number, Ne.symm]
    | some text => simp [reached, Device.sameModel, Interface.device, unnumbered, number, numbered]

section Selection
variable {serial : Option String} {prefer : Device → Bool} {interfaces : List Interface}
  {target : Device} {interface : Interface}
  (modelwise : Modelwise prefer)

private theorem reached_unitwise (target : Device) : Unitwise (reached target) := by
  intro device other same
  obtain ⟨model, number⟩ := (Device.sameUnit_iff _ _).mp same
  obtain ⟨vendor, product⟩ := (Device.sameModel_iff _ _).mp model
  simp [reached, Device.sameModel, vendor, product, number]

include modelwise

private theorem wanted_unitwise : Unitwise (wanted serial prefer) := by
  intro device other same
  obtain ⟨model, number⟩ := (Device.sameUnit_iff _ _).mp same
  simp [wanted, isSupported_modelwise _ _ model, number, modelwise _ _ model]

private theorem choose_first
    (chosen : choose serial prefer (supported (unitsOf interfaces)) = some target) :
    ∃ first, interfaces.find? (fun interface => wanted serial prefer interface.device) = some first ∧
      first.device = target ∧ wanted serial prefer target = true := by
  have listed : choose serial prefer (supported (unitsOf interfaces)) =
      (unitsOf interfaces).find? (wanted serial prefer) := by
    rw [choose_eq, supported, List.find?_filter]
    congr 1
    funext device
    simp [wanted]
  rw [listed] at chosen
  have accepted := List.find?_some chosen
  rw [find?_unitsOf (wanted_unitwise modelwise)] at chosen
  obtain ⟨first, found, same⟩ := Option.map_eq_some_iff.mp chosen
  exact ⟨first, found, same, accepted⟩

private theorem wanted_of_reached {device : Device} (named : serial ≠ some "")
    (selected : wanted serial prefer target = true) (same : reached target device = true) :
    wanted serial prefer device = true := by
  simp only [reached, Bool.and_eq_true, Bool.or_eq_true, beq_iff_eq] at same
  obtain ⟨model, number⟩ := same
  cases serial with
  | none => simpa [wanted, isSupported_modelwise _ _ model, modelwise _ _ model] using selected
  | some serial =>
    simp only [wanted, Option.elim_some, Bool.and_eq_true, beq_iff_eq] at selected
    have numbered : target.serialNumber ≠ "" := by
      rw [selected.2]
      exact fun empty => named (congrArg some empty)
    simp [wanted, isSupported_modelwise _ _ model, selected.1, number.resolve_left numbered,
      selected.2]

private theorem opened_selected (named : serial ≠ some "")
    (chosen : choose serial prefer (supported (unitsOf interfaces)) = some target)
    (opened : interfaces.find? (fun interface => reached target interface.device) = some interface) :
    interface.device = target := by
  obtain ⟨first, selected, rfl, accepted⟩ := choose_first modelwise chosen
  have again : interfaces.find? (fun interface => reached first.device interface.device) =
      some first := by
    apply find?_narrower selected
    · simp [reached, Device.sameModel]
    · intro other same
      exact wanted_of_reached modelwise named accepted same
  rw [again] at opened
  cases opened
  rfl

/-- A unit without serial number is opened by its model, so that the interface opened is that of the
first unit of the model. -/
private theorem opened_by_model
    (chosen : choose (some "") prefer (supported (unitsOf interfaces)) = some target)
    (opened : interfaces.find? (fun interface => reached target interface.device) = some interface) :
    target.serialNumber = "" ∧
      (supported (unitsOf interfaces)).find? (·.sameModel target) = some interface.device ∧
      (interface.device.serialNumber = "" → interface.device = target) := by
  obtain ⟨first, selected, rfl, accepted⟩ := choose_first modelwise chosen
  obtain ⟨supports, unnumbered⟩ : first.device.isSupported = true ∧ first.device.serialNumber = "" := by
    simpa [wanted] using accepted
  refine ⟨unnumbered, ?_, ?_⟩
  · have model : (fun device : Device => decide (device.isSupported = true ∧
        device.sameModel first.device = true)) = reached first.device := by
      funext device
      cases same : device.sameModel first.device with
      | false => simp [reached, same]
      | true => simp [reached, same, unnumbered, isSupported_modelwise _ _ same, supports]
    rw [supported, List.find?_filter, model, find?_unitsOf (reached_unitwise first.device), opened]
    rfl
  · intro alike
    -- Both are the first interface that is at once wanted and within reach.
    have fromSelected : interfaces.find? (fun interface => wanted (some "") prefer interface.device &&
        reached first.device interface.device) = some first := by
      apply find?_narrower selected
      · simp [accepted, reached, Device.sameModel]
      · intro other same
        exact (Bool.and_eq_true_iff.mp same).1
    have fromOpened : interfaces.find? (fun interface => wanted (some "") prefer interface.device &&
        reached first.device interface.device) = some interface := by
      apply find?_narrower opened
      · have reaches := List.find?_some opened
        have model := (Bool.and_eq_true_iff.mp reaches).1
        simp [reaches, wanted, isSupported_modelwise _ _ model, supports, alike]
      · intro other same
        exact (Bool.and_eq_true_iff.mp same).2
    rw [fromSelected] at fromOpened
    cases fromOpened
    rfl

end Selection

private theorem openDevice_ok {target : Device} {world left : World} {handle : Handle}
    (opened : openDevice target world = (.ok handle, left)) :
    handle.target = target ∧ world.bus.pick target.vendorId target.productId
      (if target.serialNumber.isEmpty then none else some target.serialNumber) =
        some handle.interface := by
  simp only [openDevice, bind_apply, onBus, Bus.start, Bus.openInterface] at opened
  cases lookup : world.bus.failStarts.lookup world.bus.starts with
  | some text =>
    rw [lookup] at opened
    cases opened
  | none =>
    cases broken : world.bus.failOpen with
    | some text =>
      simp only [lookup, broken, Session.mapError_ok] at opened
      cases opened
    | none =>
      simp only [lookup, broken, Session.mapError_ok] at opened
      cases given : world.bus.pick target.vendorId target.productId
          (if target.serialNumber.isEmpty then none else some target.serialNumber) with
      | none =>
        rw [given] at opened
        cases opened
      | some interface =>
        rw [given] at opened
        cases opened
        exact ⟨rfl, rfl⟩

private theorem selectDevice_ok {serial : Option String} {prefer : Device → Bool} {world left : World}
    {device : Device} (selected : selectDevice serial prefer world = (.ok device, left)) :
    choose serial prefer (supported (unitsOf world.bus.interfaces)) = some device ∧
      left = world.started := by
  rw [selectDevice_apply] at selected
  cases lookup : world.bus.failStarts.lookup world.bus.starts with
  | some text =>
    rw [lookup] at selected
    cases selected
  | none =>
    cases chosen : choose serial prefer (supported (unitsOf world.bus.interfaces)) with
    | none =>
      rw [lookup, chosen] at selected
      cases selected
    | some other =>
      rw [lookup, chosen] at selected
      cases selected
      exact ⟨rfl, rfl⟩

private theorem opened_as_selected {serial : Option String} {prefer : Device → Bool}
    (modelwise : Modelwise prefer) {world after left : World} {target : Device} {handle : Handle}
    (first : world.bus.pick = firstInterface? world.bus.interfaces)
    (selected : selectDevice serial prefer world = (.ok target, after))
    (opened : openDevice target after = (.ok handle, left)) :
    handle.interface.vendorId = handle.target.vendorId ∧
      handle.interface.productId = handle.target.productId ∧
      (handle.interface.serial.getD "" = handle.target.serialNumber ↔
        (serial = some "" →
          (supported (unitsOf world.bus.interfaces)).find? (·.sameModel handle.target) =
            some handle.target)) := by
  obtain ⟨chosen, rfl⟩ := selectDevice_ok selected
  obtain ⟨rfl, picked⟩ := openDevice_ok opened
  have found : world.bus.interfaces.find? (fun interface => reached handle.target interface.device) =
      some handle.interface := by
    rw [← firstInterface?_reached, ← first]
    exact picked
  have reaches := List.find?_some found
  obtain ⟨vendor, product⟩ := (Device.sameModel_iff _ _).mp (Bool.and_eq_true_iff.mp reaches).1
  refine ⟨vendor, product, ?_⟩
  by_cases named : serial = some ""
  · subst named
    obtain ⟨unnumbered, listed, only⟩ := opened_by_model modelwise chosen found
    rw [listed, unnumbered]
    constructor
    · intro number _
      rw [only number]
    · intro same
      have alike := congrArg Device.serialNumber (Option.some.inj (same rfl))
      exact alike.trans unnumbered
  · have same := opened_selected modelwise named chosen found
    constructor
    · intro _ wrong
      exact absurd wrong named
    · intro _
      rw [← same]
      rfl

/-- An interface that is opened has the vendor and the product of the unit that was selected. It has its
serial number too, unless the unit was asked for by an empty serial number and another unit of its vendor
and product is listed before it. -/
theorem opened_unit_is_selected_iff (serial : Option String) {world left : World} {handle : Handle}
    (first : world.bus.pick = firstInterface? world.bus.interfaces)
    (opened : openT50 serial world = (.ok handle, left) ∨
      openSupported serial world = (.ok handle, left)) :
    handle.interface.vendorId = handle.target.vendorId ∧
      handle.interface.productId = handle.target.productId ∧
      (handle.interface.serial.getD "" = handle.target.serialNumber ↔
        (serial = some "" →
          (supported (unitsOf world.bus.interfaces)).find? (·.sameModel handle.target) =
            some handle.target)) := by
  rcases opened with vendor | raw
  · rcases selected : selectDevice serial Device.isT50 world with ⟨failure | target, after⟩
    · rw [openT50, bind_error selected] at vendor
      cases vendor
    · rw [openT50, bind_ok selected] at vendor
      cases speaks : target.isT50 with
      | false =>
        rw [bind_error (requireT50_refused speaks after)] at vendor
        cases vendor
      | true =>
        have passed : check target.requireT50 after = (.ok (), after) := by
          simp [check, Device.requireT50, speaks, Session.mapError_ok]
        rw [bind_ok passed] at vendor
        exact opened_as_selected isT50_modelwise first selected vendor
  · rcases selected : selectDevice serial (fun _ => true) world with ⟨failure | target, after⟩
    · rw [openSupported, bind_error selected] at raw
      cases raw
    · rw [openSupported, bind_ok selected] at raw
      exact opened_as_selected (fun _ _ _ => rfl) first selected raw

-- The last of three units of one model is opened when it is asked for by its serial number.
theorem opened_unit_is_selected_last :
    let bus := Bus.idle [⟨0x09DA, 0x7F1B, none, some "SN1"⟩, ⟨0x09DA, 0x7F1B, none, none⟩,
      ⟨0x09DA, 0x7F1B, none, some "SN2"⟩] [] none Mouse.fresh
    ∃ handle left, openT50 (some "SN2") ⟨bus, "", ""⟩ = (.ok handle, left) ∧
      bus.pick = firstInterface? bus.interfaces ∧ handle.target.serialNumber = "SN2" ∧
      handle.interface.serial.getD "" = "SN2" := by
  intro bus
  have opened : openT50 (some "SN2") ⟨bus, "", ""⟩ =
      (.ok ⟨⟨0x09DA, 0x7F1B, none, some "SN2"⟩, ⟨0x09DA, 0x7F1B, "Bloody T50", "SN2"⟩⟩,
        (openT50 (some "SN2") ⟨bus, "", ""⟩).2) := by with_unfolding_all rfl
  obtain ⟨_, _, same⟩ := opened_unit_is_selected_iff (some "SN2") rfl (.inl opened)
  exact ⟨_, _, opened, rfl, rfl, same.mpr fun wrong => absurd wrong (by decide)⟩

-- Of two units of one model only the second has no serial number. It is the one asked for, and the
-- first is opened.
theorem opened_unit_not_selected :
    let bus := Bus.idle
      [⟨0x09DA, 0x7F1B, none, some "SN1"⟩, ⟨0x09DA, 0x7F1B, none, some ""⟩] [] none Mouse.fresh
    ∃ handle left, openT50 (some "") ⟨bus, "", ""⟩ = (.ok handle, left) ∧
      handle.target.serialNumber = "" ∧ handle.interface.serial = some "SN1" := by
  intro bus
  exact ⟨_, _, by with_unfolding_all rfl, by decide, by decide⟩

end Cli

end MouseControl
