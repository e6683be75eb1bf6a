import MouseControl.Bus
import MouseControl.Proofs.Mouse
import MouseControl.Proofs.Rejection
import MouseControl.Proofs.WordOverrun

/-! Operations on an open unit. Every call of an operation on the unit that was meant reaches the bus and
is recorded there as a report on the open interface, so that the record tells what an operation did. The
answers are those that the mouse has queued, as long as there are any. -/
namespace MouseControl

def Bus.Gives (bus : Bus) (device : Device) (interface : Interface) : Prop :=
  ∃ serial, bus.pick device.vendorId device.productId serial = some interface

def Contact.call : Contact → Call
  | .write id report _ => .write id (Handle.numbered id report)
  | .read id length _ => .read id (max length 1)

namespace Mouse
variable {mouse : Mouse}

end Mouse

namespace Handle

def record (handle : Handle) (contacts : List Contact) : List Event :=
  contacts.map fun contact => .report handle.interface contact.call

private theorem record_snoc (handle : Handle) (contacts : List Contact) (contact : Contact) :
    handle.record (contacts ++ [contact]) =
      handle.record contacts ++ [.report handle.interface contact.call] := by
  simp [record]

@[simp] theorem checkTarget_self (handle : Handle) : handle.checkTarget handle.target = .ok () := by
  simp [checkTarget, Device.sameUnit]

/-- A bus that has recorded the calls kept with its state, after an earlier record. -/
def Logged (handle : Handle) (earlier : List Event) (traced : Traced Bus) (bus : Bus) : Prop :=
  traced.state = bus ∧ bus.events = earlier ++ handle.record traced.contacts

private theorem write_recorded (handle : Handle) (id : UInt8) (data : List UInt8) (bus : Bus) :
    (handle.link.write handle.target id data bus).2.events =
      bus.events ++ [.report handle.interface (.write id (numbered id data))] := by
  simp [link, Bus.send, Bus.events, numbered]

private theorem read_recorded (handle : Handle) (id : UInt8) (length : Nat) (bus : Bus) :
    (handle.link.read handle.target id length bus).2.events =
      bus.events ++ [.report handle.interface (.read id (max length 1))] := by
  simp only [link, checkTarget_self]
  rcases fetched : bus.fetch handle.interface id (max length 1) with ⟨result, left⟩
  have kept : left.events =
      bus.events ++ [.report handle.interface (.read id (max length 1))] := by
    have same := congrArg (fun pair => pair.2.events) fetched
    simp only [Bus.fetch, Bus.events, List.reverse_cons] at same
    exact same.symm
  rcases result with text | _ | ⟨byte, rest⟩ <;> exact kept

private theorem link_recorded (handle : Handle) (earlier : List Event) :
    Link.Alike handle.target (handle.Logged earlier) handle.link.traced handle.link where
  write := by
    rintro ⟨state, contacts⟩ _ id report ⟨rfl, kept⟩
    refine ⟨rfl, rfl, ?_⟩
    rw [write_recorded, kept, List.append_assoc]
    simp only [Link.traced, record_snoc, Contact.call]
  read := by
    rintro ⟨state, contacts⟩ _ id length ⟨rfl, kept⟩
    refine ⟨rfl, rfl, ?_⟩
    rw [read_recorded, kept, List.append_assoc]
    simp only [Link.traced, record_snoc, Contact.call]

theorem perform_events (handle : Handle) (deed : Deed) (bus : Bus) :
    (deed.perform handle.link.traced handle.target ⟨bus, []⟩).1 =
        (deed.perform handle.link handle.target bus).1 ∧
      (deed.perform handle.link handle.target bus).2.events = bus.events ++
        handle.record (deed.perform handle.link.traced handle.target ⟨bus, []⟩).2.contacts := by
  have begins : handle.Logged bus.events ⟨bus, []⟩ bus := ⟨rfl, (List.append_nil _).symm⟩
  obtain ⟨same, _, kept⟩ :=
    deed.perform_alike handle.target (handle.link_recorded bus.events) ⟨bus, []⟩ bus begins
  exact ⟨same, kept⟩

/-- An operation on an open unit leaves the record of its calls. It fails with a rejection exactly if
there are none, and only one that overruns crashes if there are any. -/
theorem perform_recorded (handle : Handle) (deed : Deed) (bus : Bus) :
    ∃ contacts, (deed.perform handle.link handle.target bus).2.events =
        bus.events ++ handle.record contacts ∧
      (∀ error, (deed.perform handle.link handle.target bus).1 = .error (.failed error) →
        FailsFairly contacts error) ∧
      ∀ crash, (deed.perform handle.link handle.target bus).1 = .error (.crashed crash) →
        contacts ≠ [] → deed.Overruns := by
  obtain ⟨same, kept⟩ := handle.perform_events deed bus
  refine ⟨_, kept, ?_, ?_⟩
  · intro error failed
    exact (deed.perform_fair handle.link handle.target ⟨bus, []⟩ rfl).2 error _
      (Prod.ext (same.trans failed) rfl)
  · intro crash crashed touched
    refine Classical.byContradiction fun safe => touched ?_
    exact Deed.crash_untouched safe (Prod.ext (same.trans crashed) rfl)

end Handle

end MouseControl
