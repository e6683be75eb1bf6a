import Mathlib.Data.List.Nodup
import MouseControl.Proofs.DeviceGate
import MouseControl.Proofs.OpenSelected

/-! Discovery. The interfaces of a bus are collapsed into units, each told by its first interface and in
the order of these. Units of one vendor can be picked out before or after, and of those the first that
fits is selected. -/
namespace MouseControl
variable {interfaces : List Interface} {devices : List Device}

abbrev UnitKey := UInt16 × UInt16 × String

def Device.unit (device : Device) : UnitKey :=
  (device.vendorId, device.productId, device.serialNumber)

/-- A missing serial number counts as empty. -/
def Interface.unit (interface : Interface) : UnitKey :=
  (interface.vendorId, interface.productId, interface.serial.getD "")

def firstPlace (interfaces : List Interface) (unit : UnitKey) : Nat :=
  (interfaces.map Interface.unit).idxOf unit

/-- A device is told by the first interface of its unit: it has the product string of that one, or the
name in the catalog if there is none. -/
def ToldByFirst (interfaces : List Interface) (device : Device) : Prop :=
  ∃ interface, interfaces[firstPlace interfaces device.unit]? = some interface ∧
    device = ⟨interface.vendorId, interface.productId,
      interface.product.getD (Catalog.modelName interface.vendorId interface.productId),
      interface.serial.getD ""⟩

structure Collapsed (interfaces : List Interface) (devices : List Device) : Prop where
  apart : (devices.map Device.unit).Nodup
  covered : ∀ interface ∈ interfaces, devices.countP (fun device => device.unit == interface.unit) = 1
  told : ∀ device ∈ devices, ToldByFirst interfaces device
  ordered : devices.Pairwise fun device other =>
    firstPlace interfaces device.unit < firstPlace interfaces other.unit

private theorem Device.sameUnit_iff_unit (device other : Device) :
    device.sameUnit other = true ↔ device.unit = other.unit := by
  simp [Device.sameUnit, Device.unit, and_assoc]

private theorem unit_known (devices : List Device) (device : Device) :
    devices.any (·.sameUnit device) = true ↔ device.unit ∈ devices.map Device.unit := by
  simp only [List.any_eq_true, List.mem_map, Device.sameUnit_iff_unit]

private theorem addUnit_known {device : Device} (known : device.unit ∈ devices.map Device.unit) :
    addUnit devices device = devices := by
  rw [addUnit, if_pos ((unit_known _ _).mpr known)]

private theorem addUnit_new {device : Device} (new : device.unit ∉ devices.map Device.unit) :
    addUnit devices device = devices ++ [device] := by
  rw [addUnit, if_neg (mt (unit_known _ _).mp new)]

private theorem countP_unit {unit : UnitKey} (apart : (devices.map Device.unit).Nodup)
    (member : unit ∈ devices.map Device.unit) :
    devices.countP (fun device => device.unit == unit) = 1 := by
  rw [← List.count_eq_one_of_mem apart member, List.count, List.countP_map]
  rfl

private theorem firstPlace_append {unit : UnitKey} (member : unit ∈ interfaces.map Interface.unit)
    (more : List Interface) : firstPlace (interfaces ++ more) unit = firstPlace interfaces unit := by
  rw [firstPlace, List.map_append, List.idxOf_append, if_pos member]
  rfl

private theorem firstPlace_lt {unit : UnitKey} (member : unit ∈ interfaces.map Interface.unit) :
    firstPlace interfaces unit < interfaces.length := by
  rw [firstPlace, ← List.length_map Interface.unit]
  exact List.idxOf_lt_length_of_mem member

private theorem firstPlace_last {interface : Interface}
    (new : interface.unit ∉ interfaces.map Interface.unit) :
    firstPlace (interfaces ++ [interface]) interface.unit = interfaces.length := by
  rw [firstPlace, List.map_append, List.idxOf_append, if_neg new]
  simp

namespace Collapsed

private theorem nil : Collapsed [] [] := by
  constructor <;> simp

private theorem mem_units (collapsed : Collapsed interfaces devices) (unit : UnitKey) :
    unit ∈ devices.map Device.unit ↔ unit ∈ interfaces.map Interface.unit := by
  constructor
  · intro member
    obtain ⟨device, found, rfl⟩ := List.mem_map.mp member
    obtain ⟨interface, place, same⟩ := collapsed.told device found
    have unit : interface.unit = device.unit := by rw [same]; rfl
    exact List.mem_map.mpr ⟨interface, List.mem_of_getElem? place, unit⟩
  · intro member
    obtain ⟨interface, listed, rfl⟩ := List.mem_map.mp member
    have one : 0 < devices.countP (fun device => device.unit == interface.unit) := by
      rw [collapsed.covered interface listed]
      decide
    obtain ⟨device, found, same⟩ := List.countP_pos_iff.mp one
    exact List.mem_map.mpr ⟨device, found, eq_of_beq same⟩

private theorem add (collapsed : Collapsed interfaces devices) (interface : Interface) :
    Collapsed (interfaces ++ [interface]) (addUnit devices interface.device) := by
  have member {device : Device} (found : device ∈ devices) :
      device.unit ∈ interfaces.map Interface.unit :=
    (collapsed.mem_units _).mp (List.mem_map_of_mem found)
  have place {device : Device} (found : device ∈ devices) :=
    firstPlace_append (member found) [interface]
  have told : ∀ device ∈ devices, ToldByFirst (interfaces ++ [interface]) device := by
    intro device found
    have before := collapsed.told device found
    rwa [ToldByFirst, place found, List.getElem?_append_left (firstPlace_lt (member found))]
  have ordered : devices.Pairwise fun device other =>
      firstPlace (interfaces ++ [interface]) device.unit <
        firstPlace (interfaces ++ [interface]) other.unit := by
    refine collapsed.ordered.imp_of_mem ?_
    intro device other first second less
    rwa [place first, place second]
  by_cases known : interface.unit ∈ devices.map Device.unit
  · rw [addUnit_known known]
    refine ⟨collapsed.apart, ?_, told, ordered⟩
    intro other listed
    apply countP_unit collapsed.apart
    rcases List.mem_append.mp listed with before | last
    · exact (collapsed.mem_units _).mpr (List.mem_map_of_mem before)
    · rwa [List.mem_singleton.mp last]
  · have new : interface.unit ∉ interfaces.map Interface.unit := mt (collapsed.mem_units _).mpr known
    rw [addUnit_new known]
    have apart : ((devices ++ [interface.device]).map Device.unit).Nodup := by
      rw [List.map_append]
      exact List.Nodup.append collapsed.apart (List.nodup_singleton _)
        (List.disjoint_singleton.mpr known)
    refine ⟨apart, ?_, ?_, ?_⟩
    · intro other listed
      apply countP_unit apart
      rw [List.map_append, List.mem_append]
      rcases List.mem_append.mp listed with before | last
      · exact .inl ((collapsed.mem_units _).mpr (List.mem_map_of_mem before))
      · rw [List.mem_singleton.mp last]
        exact .inr (List.mem_singleton_self _)
    · intro device found
      rcases List.mem_append.mp found with before | last
      · exact told device before
      · rw [List.mem_singleton.mp last]
        refine ⟨interface, ?_, rfl⟩
        change (interfaces ++ [interface])[firstPlace _ interface.unit]? = _
        rw [firstPlace_last new, List.getElem?_concat_length]
    · refine List.pairwise_append.mpr ⟨ordered, List.pairwise_singleton _ _, ?_⟩
      intro device found other last
      rw [List.mem_singleton.mp last, place found]
      change _ < firstPlace _ interface.unit
      rw [firstPlace_last new]
      exact firstPlace_lt (member found)

private theorem addAll (collapsed : Collapsed interfaces devices) (more : List Interface) :
    Collapsed (interfaces ++ more) ((more.map Interface.device).foldl addUnit devices) := by
  induction more generalizing interfaces devices with
  | nil => simpa using collapsed
  | cons interface rest ih =>
    rw [← List.singleton_append, ← List.append_assoc]
    exact ih (collapsed.add interface)

end Collapsed

private theorem collapsed_unitsOf (interfaces : List Interface) :
    Collapsed interfaces (unitsOf interfaces) :=
  Collapsed.nil.addAll interfaces

section Filter
variable {property : Device → Bool} (unitwise : Unitwise property)
include unitwise

private theorem filter_addUnit (units : List Device) (device : Device) :
    (addUnit units device).filter property =
      if property device then addUnit (units.filter property) device else units.filter property := by
  by_cases known : device.unit ∈ units.map Device.unit
  · rw [addUnit_known known]
    split
    · rename_i accepted
      obtain ⟨unit, member, same⟩ := List.mem_map.mp known
      have alike : property unit = true := by
        rw [unitwise unit device ((Device.sameUnit_iff_unit _ _).mpr same), accepted]
      rw [addUnit_known]
      exact List.mem_map.mpr ⟨unit, List.mem_filter.mpr ⟨member, alike⟩, same⟩
    · rfl
  · rw [addUnit_new known, List.filter_append]
    split
    · rename_i accepted
      rw [addUnit_new, List.filter_singleton, accepted]
      · rfl
      · intro member
        obtain ⟨unit, found, same⟩ := List.mem_map.mp member
        exact known (List.mem_map.mpr ⟨unit, (List.mem_filter.mp found).1, same⟩)
    · rename_i refused
      rw [List.filter_singleton, Bool.not_eq_true _ |>.mp refused]
      exact List.append_nil _

private theorem filter_foldl_addUnit (devices units : List Device) :
    (devices.foldl addUnit units).filter property =
      (devices.filter property).foldl addUnit (units.filter property) := by
  induction devices generalizing units with
  | nil => rfl
  | cons device rest ih =>
    rw [List.foldl_cons, ih, filter_addUnit unitwise, List.filter_cons]
    split <;> rfl

private theorem filter_unitsOf (interfaces : List Interface) :
    (unitsOf interfaces).filter property =
      unitsOf (interfaces.filter fun interface => property interface.device) := by
  rw [unitsOf, filter_foldl_addUnit unitwise, List.filter_map]
  rfl

end Filter

private theorem isSupported_unitwise : Unitwise Device.isSupported := by
  intro device other same
  exact isSupported_modelwise device other ((Device.sameUnit_iff _ _).mp same).1

private theorem isSupported_eq (device : Device) : device.isSupported = (device.vendorId == 0x09DA) := by
  rw [Bool.eq_iff_iff, Device.isSupported_iff, beq_iff_eq]

private theorem supported_eq (devices : List Device) :
    supported devices = devices.filter fun device => device.vendorId == 0x09DA := by
  rw [supported, funext isSupported_eq]

private theorem supported_unitsOf (interfaces : List Interface) : supported (unitsOf interfaces) =
    unitsOf (interfaces.filter fun interface => interface.vendorId == 0x09DA) := by
  rw [supported, filter_unitsOf isSupported_unitwise, funext isSupported_eq]
  rfl

namespace Cli
variable {serial : Option String} {prefer : Device → Bool}

def Fits (serial : Option String) (prefer : Device → Bool) (device : Device) : Prop :=
  serial.elim (prefer device = true) (device.serialNumber = ·)

def FirstWith (property : Device → Prop) (devices : List Device) (device : Device) : Prop :=
  ∃ before after, devices = before ++ device :: after ∧ property device ∧
    ∀ other ∈ before, ¬ property other

private theorem fits_iff (serial : Option String) (prefer : Device → Bool) (device : Device) :
    serial.elim (prefer device) (device.serialNumber == ·) = true ↔ Fits serial prefer device := by
  cases serial with
  | none => exact Iff.rfl
  | some serial => exact beq_iff_eq

private theorem choose_eq_some_iff {device : Device} : choose serial prefer devices = some device ↔
    FirstWith (Fits serial prefer) devices device := by
  have refused (other : Device) :
      (!serial.elim (prefer other) (other.serialNumber == ·)) = true ↔
        ¬ Fits serial prefer other := by
    rw [Bool.not_eq_true', ← Bool.not_eq_true, fits_iff]
  rw [choose_eq, List.find?_eq_some_iff_append, fits_iff]
  simp only [refused]
  constructor
  · rintro ⟨here, before, after, split, earlier⟩
    exact ⟨before, after, split, here, earlier⟩
  · rintro ⟨before, after, split, here, earlier⟩
    exact ⟨here, before, after, split, earlier⟩

private theorem choose_eq_none_iff :
    choose serial prefer devices = none ↔ ∀ device ∈ devices, ¬ Fits serial prefer device := by
  simp only [choose_eq, List.find?_eq_none, fits_iff]

/-- On a bus that starts, discovery collapses the interfaces into units without loss. The supported ones
are those of the one vendor, in the same order and as if the others had not been there, and the first of
them that fits is selected. -/
theorem discovery_collapses_units (world : World) (serial : Option String) (prefer : Device → Bool)
    (starts : world.bus.failStarts.lookup world.bus.starts = none) :
    ∃ devices found : List Device,
      world.bus.discover.1 = .ok devices ∧ Collapsed world.bus.interfaces devices ∧
      world.bus.discoverSupported.1 = .ok found ∧
      found = (devices.filter fun device => device.vendorId == 0x09DA) ∧
      found = unitsOf (world.bus.interfaces.filter fun interface => interface.vendorId == 0x09DA) ∧
      (∀ device, (selectDevice serial prefer world).1 = .ok device ↔
        FirstWith (Fits serial prefer) found device) ∧
      ((selectDevice serial prefer world).1 = .error (.noDevice serial) ↔
        ∀ device ∈ found, ¬ Fits serial prefer device) := by
  have listed : world.bus.discover.1 = .ok (unitsOf world.bus.interfaces) := by
    simp only [Bus.discover, Bus.start, starts]
    rfl
  have found : world.bus.discoverSupported.1 = .ok (supported (unitsOf world.bus.interfaces)) := by
    rw [discoverSupported_apply, starts]
  refine ⟨_, _, listed, collapsed_unitsOf _, found, supported_eq _, supported_unitsOf _, ?_, ?_⟩
  · intro device
    rw [← choose_eq_some_iff, selectDevice_apply, starts]
    cases choose serial prefer (supported (unitsOf world.bus.interfaces)) <;> simp
  · rw [← choose_eq_none_iff, selectDevice_apply, starts]
    cases choose serial prefer (supported (unitsOf world.bus.interfaces)) <;> simp

-- Another vendor's device and two units of one model, each with two interfaces. The second unit has an
-- empty serial number at first and then none.
theorem discovery_collapses_units_interleaved :
    let bus := Bus.idle [⟨0x09DA, 0x7F1B, none, some "SN1"⟩, ⟨0x046D, 0xC53F, some "Receiver", none⟩,
      ⟨0x09DA, 0x7F1B, some "T50", some ""⟩, ⟨0x09DA, 0x7F1B, some "T50 keys", some "SN1"⟩,
      ⟨0x09DA, 0x7F1B, none, none⟩] [] none Mouse.fresh
    bus.failStarts.lookup bus.starts = none ∧
      ∃ devices, bus.discover.1 = .ok devices ∧ Collapsed bus.interfaces devices ∧
        bus.discoverSupported.1 = .ok [⟨0x09DA, 0x7F1B, "Bloody T50", "SN1"⟩,
          ⟨0x09DA, 0x7F1B, "T50", ""⟩] ∧
        (selectDevice (some "") Device.isT50 ⟨bus, "", ""⟩).1 = .ok ⟨0x09DA, 0x7F1B, "T50", ""⟩ := by
  intro bus
  obtain ⟨devices, found, listed, collapsed, kept, _, units, selects, _⟩ :=
    discovery_collapses_units ⟨bus, "", ""⟩ (some "") Device.isT50 rfl
  have two : found = [⟨0x09DA, 0x7F1B, "Bloody T50", "SN1"⟩, ⟨0x09DA, 0x7F1B, "T50", ""⟩] :=
    units.trans (by with_unfolding_all rfl)
  subst two
  refine ⟨rfl, devices, listed, collapsed, kept, (selects _).mpr ?_⟩
  refine ⟨[⟨0x09DA, 0x7F1B, "Bloody T50", "SN1"⟩], [], rfl, rfl, ?_⟩
  intro other member
  rw [List.mem_singleton.mp member]
  change ¬ "SN1" = ""
  decide

end Cli

end MouseControl
