import MouseControl.Cli.Run
import MouseControl.Proofs.OpenUnit

/-! Parts of a run. A command that reaches a unit has three of them: what it checks beforehand, which
leaves the bus alone, the opening of a unit, and what it does with the open unit. The bus records no
report before the third part, and that part fails with no rejection once there is one. -/
namespace MouseControl.Cli
variable {α β γ : Type}

namespace Job

theorem bind_apply (first : Job α) (next : α → Job β) (world : World) :
    (first >>= next) world =
      match first world with
      | (.ok value, left) => next value left
      | (.error failure, left) => (.error failure, left) := by
  simp only [bind, ExceptT.bind, ExceptT.mk, StateT.bind]
  rcases first world with ⟨_ | _, _⟩ <;> rfl

theorem bind_ok {first : Job α} {next : α → Job β} {world left : World} {value : α}
    (ran : first world = (.ok value, left)) : (first >>= next) world = next value left := by
  rw [bind_apply, ran]

theorem bind_error {first : Job α} {next : α → Job β} {world left : World} {failure : Failure}
    (stopped : first world = (.error failure, left)) :
    (first >>= next) world = (.error failure, left) := by
  rw [bind_apply, stopped]

end Job

namespace Failure

/-- A failure whose status goes by its own error and not by one behind it. -/
def Own (failure : Failure) : Prop :=
  failure.isRejection = true → ∃ error, failure = .failed error ∧ error.isRejection = true

/-- A failure that leaves open whether the device was touched, a crash only if one may happen. -/
def Late (mayCrash : Prop) (failure : Failure) : Prop :=
  failure.isRejection = false ∧ ∀ crash, failure = .crashed crash → mayCrash

theorem own_of_not {failure : Failure} (accepted : failure.isRejection = false) : failure.Own := by
  intro rejected
  rw [accepted] at rejected
  cases rejected

theorem own_of_single {error : Error} (single : error.isSequenceFailure = false) :
    (failed error).Own := by
  intro rejected
  refine ⟨error, rfl, ?_⟩
  cases error with
  | sequenceFailed operation step total cause => cases single
  | transportFailed opcode cause => cases rejected
  | _ => simpa [isRejection, Error.causes] using rejected

private theorem late_of_fair {contacts : List Contact} {error : Error} (fair : FailsFairly contacts error)
    (touched : contacts ≠ []) (mayCrash : Prop) : (failed error).Late mayCrash := by
  obtain ⟨own, behind⟩ := fair
  refine ⟨?_, fun crash wrong => (by cases wrong)⟩
  have accepted : error.isRejection = false := by
    rw [← Bool.not_eq_true, own]
    exact touched
  simp only [isRejection, accepted, Bool.false_or, List.any_eq_false]
  intro cause member
  cases cause with
  | error cause => simp [behind cause member]
  | linkError cause => simp

private theorem own_of_fair {contacts : List Contact} {error : Error}
    (fair : FailsFairly contacts error) :
    (failed error).Own := by
  by_cases untouched : contacts = []
  · exact fun _ => ⟨error, rfl, fair.1.mpr untouched⟩
  · exact own_of_not (late_of_fair fair untouched False).1

end Failure

namespace Job

/-- A job after which a view of the bus is what it was, and that hides no rejection behind another
error. -/
def Quiet (view : Bus → γ) (job : Job α) : Prop :=
  ∀ world, view (job world).2.bus = view world.bus ∧
    ∀ failure, (job world).1 = .error failure → failure.Own

section Quiet
variable {view : Bus → γ}

theorem Quiet.bind {first : Job α} {next : α → Job β} (begins : Quiet view first)
    (rest : ∀ value, Quiet view (next value)) : Quiet view (first >>= next) := by
  intro world
  obtain ⟨kept, own⟩ := begins world
  rcases ran : first world with ⟨failure | value, left⟩
  · rw [ran] at kept own
    rw [bind_error ran]
    refine ⟨kept, fun other same => ?_⟩
    cases same
    exact own failure rfl
  · rw [ran] at kept
    rw [bind_ok ran]
    obtain ⟨later, fine⟩ := rest value left
    exact ⟨later.trans kept, fine⟩

theorem quiet_pure (value : α) : Quiet view (pure value) :=
  fun _ => ⟨rfl, fun _ wrong => (by cases wrong)⟩

theorem quiet_orElse {ε : Type} {failure : ε → Failure} {result : Except ε α}
    (own : ∀ error, result = .error error → (failure error).Own) :
    Quiet view (orElse failure result) := by
  intro world
  refine ⟨rfl, fun other same => ?_⟩
  cases result with
  | error error =>
    cases same
    exact own error rfl
  | ok value => cases same

theorem quiet_check {result : Except Error α}
    (single : ∀ error, result = .error error → error.isSequenceFailure = false) :
    Quiet view (check result) :=
  quiet_orElse fun error failed => Failure.own_of_single (single error failed)

theorem quiet_rejects {result : Except Error α} (rejects : Rejects result) :
    Quiet view (check result) :=
  quiet_orElse fun error failed _ => ⟨error, rfl, rejects error failed⟩

end Quiet

def Tells (job : Job Unit) : Prop :=
  ∀ world, (job world).1 = .ok () ∧ (job world).2.bus = world.bus

theorem tells_say (line : String) : Tells (say line) := fun _ => ⟨rfl, rfl⟩

theorem tells_warn (line : String) : Tells (warn line) := fun _ => ⟨rfl, rfl⟩

theorem Tells.bind {first : Job Unit} {next : Unit → Job Unit} (begins : Tells first)
    (rest : Tells (next ())) : Tells (first >>= next) := by
  intro world
  obtain ⟨fine, kept⟩ := begins world
  have ran : first world = (.ok (), (first world).2) := Prod.ext fine rfl
  rw [bind_ok ran, ← kept]
  exact rest _

theorem tells_forM {items : List α} {job : α → Job Unit} (each : ∀ item, Tells (job item)) :
    Tells (items.forM job) := by
  induction items with
  | nil => exact fun _ => ⟨rfl, rfl⟩
  | cons item rest ih => exact (each item).bind ih

theorem Tells.quiet {job : Job Unit} (tells : Tells job) (view : Bus → γ) : Quiet view job := by
  intro world
  obtain ⟨fine, kept⟩ := tells world
  refine ⟨congrArg view kept, fun failure wrong => ?_⟩
  rw [fine] at wrong
  cases wrong

end Job

open Job

def World.started (world : World) : World :=
  { world with bus := { world.bus with starts := world.bus.starts + 1 } }

theorem discoverSupported_apply (bus : Bus) :
    bus.discoverSupported =
      (match bus.failStarts.lookup bus.starts with
      | some text => .error (.ofText text)
      | none => .ok (supported (unitsOf bus.interfaces)),
      { bus with starts := bus.starts + 1 }) := by
  simp only [Bus.discoverSupported, Bus.discover, Bus.start]
  cases bus.failStarts.lookup bus.starts <;> rfl

theorem selectDevice_apply (serial : Option String) (prefer : Device → Bool) (world : World) :
    selectDevice serial prefer world =
      (match world.bus.failStarts.lookup world.bus.starts with
      | some text => .error (.discovery (.ofText text))
      | none =>
        match choose serial prefer (supported (unitsOf world.bus.interfaces)) with
        | some device => .ok device
        | none => .error (.noDevice serial), world.started) := by
  simp only [selectDevice, bind_apply, onBus, discoverSupported_apply]
  cases world.bus.failStarts.lookup world.bus.starts with
  | some text => rfl
  | none =>
    simp only [Session.mapError_ok]
    cases choose serial prefer (supported (unitsOf world.bus.interfaces)) <;> rfl

theorem quiet_selectDevice (serial : Option String) (prefer : Device → Bool) :
    Quiet Bus.events (selectDevice serial prefer) := by
  intro world
  rw [selectDevice_apply]
  refine ⟨rfl, fun failure same => Failure.own_of_not ?_⟩
  repeat' split at same
  all_goals cases same
  all_goals rfl

private theorem choose_mem {serial : Option String} {prefer : Device → Bool} {devices : List Device}
    {device : Device} (chosen : choose serial prefer devices = some device) : device ∈ devices := by
  cases serial <;> exact List.mem_of_find?_eq_some chosen

private theorem selectDevice_supported {serial : Option String} {prefer : Device → Bool}
    {world left : World} {device : Device}
    (selected : selectDevice serial prefer world = (.ok device, left)) : device.isSupported = true := by
  rw [selectDevice_apply] at selected
  cases lookup : world.bus.failStarts.lookup world.bus.starts with
  | some text =>
    rw [lookup] at selected
    cases selected
  | none =>
    rw [lookup] at selected
    cases chosen : choose serial prefer (supported (unitsOf world.bus.interfaces)) with
    | none =>
      rw [chosen] at selected
      cases selected
    | some other =>
      rw [chosen] at selected
      cases selected
      exact (List.mem_filter.mp (choose_mem chosen)).2

def ReportFree (events : List Event) : Prop := ∀ interface call, .report interface call ∉ events

theorem reportFree_nil : ReportFree [] := fun _ _ => List.not_mem_nil

/-- How a job ends that opens a unit of some kind and exchanges no report. -/
structure Opened (admits : Device → Bool) (world : World) (ended : Except Failure Handle × World) :
    Prop where
  silent : ∃ openings, ended.2.bus.events = world.bus.events ++ openings ∧ ReportFree openings
  own : ∀ failure, ended.1 = .error failure → failure.Own
  admitted : ∀ handle, ended.1 = .ok handle →
    admits handle.target = true ∧ world.bus.Gives handle.target handle.interface

def Opens (admits : Device → Bool) (opener : Job Handle) : Prop :=
  ∀ world, Opened admits world (opener world)

section Opens
variable {admits : Device → Bool} {serial : Option String}

private theorem Opened.failed {world left : World} {failure : Failure} (own : failure.Own)
    {openings : List Event} (kept : left.bus.events = world.bus.events ++ openings)
    (free : ReportFree openings) : Opened admits world (.error failure, left) := by
  refine ⟨⟨openings, kept, free⟩, fun other same => ?_, fun handle wrong => (by cases wrong)⟩
  cases same
  exact own

private theorem reportFree_opening (vendorId productId : UInt16) (serial : Option String) :
    ReportFree [.opening vendorId productId serial] := by simp [ReportFree]

private theorem openDevice_opens {target : Device} (admitted : admits target = true) :
    Opens admits (openDevice target) := by
  intro world
  simp only [openDevice, bind_apply, onBus, Bus.start, Bus.openInterface]
  cases world.bus.failStarts.lookup world.bus.starts with
  | some text =>
    exact .failed (Failure.own_of_not rfl) (List.append_nil _).symm reportFree_nil
  | none =>
    cases broken : world.bus.failOpen with
    | some text =>
      exact .failed (Failure.own_of_not rfl) List.reverse_cons (reportFree_opening _ _ _)
    | none =>
      simp only [Session.mapError_ok]
      cases given : world.bus.pick target.vendorId target.productId
          (if target.serialNumber.isEmpty then none else some target.serialNumber) with
      | none => exact .failed (Failure.own_of_not rfl) List.reverse_cons (reportFree_opening _ _ _)
      | some interface =>
        refine ⟨⟨_, List.reverse_cons, reportFree_opening _ _ _⟩, fun failure wrong => (by cases wrong),
          fun handle same => ?_⟩
        cases same
        exact ⟨admitted, _, given⟩

private theorem selected_opens {prefer : Device → Bool} {next : Device → Job Handle}
    (opens : ∀ device, device.isSupported = true → Opens admits (next device)) :
    Opens admits (selectDevice serial prefer >>= next) := by
  intro world
  have left : (selectDevice serial prefer world).2 = world.started := by rw [selectDevice_apply]
  have own := (quiet_selectDevice serial prefer world).2
  rcases selected : selectDevice serial prefer world with ⟨failure | device, after⟩
  · rw [bind_error selected]
    rw [selected] at left own
    subst left
    exact .failed (own failure rfl) (List.append_nil _).symm reportFree_nil
  · rw [bind_ok selected]
    have supported := selectDevice_supported selected
    rw [selected] at left
    subst left
    -- Starting the bus changes neither its record nor what opening gives.
    obtain ⟨silent, own, admitted⟩ := opens device supported world.started
    exact ⟨silent, own, admitted⟩

theorem requireT50_refused {device : Device} (other : device.isT50 = false) (world : World) :
    check device.requireT50 world =
      (.error (.failed (.unsupportedDevice device.vendorId device.productId)), world) := by
  simp [check, Device.requireT50, other, Session.mapError_error]

theorem openT50_opens (serial : Option String) : Opens Device.isT50 (openT50 serial) := by
  refine selected_opens fun device _ => ?_
  intro world
  cases speaks : device.isT50 with
  | false =>
    rw [bind_error (requireT50_refused speaks world)]
    exact .failed (Failure.own_of_single rfl) (List.append_nil _).symm reportFree_nil
  | true =>
    have passed : check device.requireT50 world = (.ok (), world) := by
      simp [check, Device.requireT50, speaks, Session.mapError_ok]
    rw [bind_ok passed]
    exact openDevice_opens speaks world

theorem openSupported_opens (serial : Option String) :
    Opens Device.isSupported (openSupported serial) :=
  selected_opens fun _ supported => openDevice_opens supported

end Opens

/-- A job that only exchanges reports with an open unit, and that after the first of them fails with no
rejection. -/
def Exchanging (handle : Handle) (mayCrash : Prop) (job : Job Unit) : Prop :=
  ∀ world, ∃ contacts, (job world).2.bus.events = world.bus.events ++ handle.record contacts ∧
    ∀ failure, (job world).1 = .error failure →
      failure.Own ∧ (contacts ≠ [] → failure.Late mayCrash)

theorem exchanging_ask (handle : Handle) (deed : Deed) {after : deed.Reply → Job Unit} {mayCrash : Prop}
    (tells : ∀ reply, Tells (after reply)) (crashes : deed.Overruns → mayCrash) :
    Exchanging handle mayCrash
      (ask handle (fun link device => deed.perform link device) >>= after) := by
  intro world
  obtain ⟨contacts, kept, fair, overruns⟩ := handle.perform_recorded deed world.bus
  have asked : ask handle (fun link device => deed.perform link device) world =
      ((deed.perform handle.link handle.target world.bus).1.mapError Failure.ofHalt,
        { world with bus := (deed.perform handle.link handle.target world.bus).2 }) := rfl
  refine ⟨contacts, ?_⟩
  rcases ran : deed.perform handle.link handle.target world.bus with ⟨(error | crash) | reply, left⟩
  · rw [ran] at kept fair asked
    rw [bind_error asked]
    refine ⟨kept, fun failure same => ?_⟩
    cases same
    exact ⟨Failure.own_of_fair (fair error rfl), fun touched =>
      Failure.late_of_fair (fair error rfl) touched mayCrash⟩
  · rw [ran] at kept overruns asked
    rw [bind_error asked]
    refine ⟨kept, fun failure same => ?_⟩
    cases same
    exact ⟨Failure.own_of_not rfl, fun touched => ⟨rfl, fun _ _ => crashes (overruns crash rfl touched)⟩⟩
  · rw [ran] at kept asked
    obtain ⟨fine, same⟩ := tells reply { world with bus := left }
    rw [bind_ok asked, same]
    refine ⟨kept, fun failure wrong => ?_⟩
    rw [fine] at wrong
    cases wrong

theorem exchanging_say (handle : Handle) (deed : Deed) {line : deed.Reply → String} {mayCrash : Prop}
    (safe : ¬ deed.Overruns) :
    Exchanging handle mayCrash
      (ask handle (fun link device => deed.perform link device) >>= fun reply => say (line reply)) :=
  exchanging_ask handle deed (fun _ => tells_say _) fun overruns => absurd overruns safe

theorem exchanging_crash (handle : Handle) (mayCrash : Prop) (crash : Crash) :
    Exchanging handle mayCrash (throw (.crashed crash)) := by
  intro world
  refine ⟨[], (List.append_nil _).symm, fun failure same => ?_⟩
  cases same
  exact ⟨Failure.own_of_not rfl, fun touched => absurd rfl touched⟩

/-- A job that leaves the bus alone until it opens a unit, and then exchanges reports with that unit. -/
inductive Through (opener : Job Handle) (mayCrash : Prop) : Job Unit → Prop where
  | opening {act : Handle → Job Unit}
      (exchanging : ∀ handle, Exchanging handle mayCrash (act handle)) :
      Through opener mayCrash (opener >>= act)
  | after {α : Type} {first : Job α} {next : α → Job Unit} (quiet : Quiet id first)
      (rest : ∀ world value left, first world = (.ok value, left) →
        Through opener mayCrash (next value)) :
      Through opener mayCrash (first >>= next)

/-- What a run has left on the bus: reports on interfaces of admitted devices only, and where there is
one, no failure that is a rejection. -/
structure Course (bus : Bus) (admits : Device → Bool) (mayCrash : Prop) (result : Except Failure Unit)
    (made : List Event) : Prop where
  own : ∀ failure, result = .error failure → failure.Own
  reached : ∀ interface call, .report interface call ∈ made →
    ∃ device, admits device = true ∧ bus.Gives device interface
  late : ∀ interface call, .report interface call ∈ made →
    ∀ failure, result = .error failure → failure.Late mayCrash

theorem ReportFree.course {made : List Event} (free : ReportFree made)
    {result : Except Failure Unit} (own : ∀ failure, result = .error failure → failure.Own) (bus : Bus)
    (admits : Device → Bool) (mayCrash : Prop) : Course bus admits mayCrash result made :=
  ⟨own, fun interface call member => absurd member (free interface call),
    fun interface call member => absurd member (free interface call)⟩

theorem Through.course {opener : Job Handle} {mayCrash : Prop} {job : Job Unit}
    {admits : Device → Bool} (through : Through opener mayCrash job) (opens : Opens admits opener)
    (world : World) :
    ∃ made, (job world).2.bus.events = world.bus.events ++ made ∧
      Course world.bus admits mayCrash (job world).1 made := by
  induction through generalizing world with
  | after quiet rest ih =>
    rename_i first next
    obtain ⟨alone, own⟩ := quiet world
    rcases ran : first world with ⟨failure | value, left⟩
    · rw [ran] at alone own
      rw [bind_error ran]
      refine ⟨[], ?_, reportFree_nil.course (fun other same => ?_) _ _ _⟩
      · rw [List.append_nil]
        exact congrArg Bus.events alone
      · cases same
        exact own failure rfl
    · rw [ran] at alone
      rw [bind_ok ran, ← show left.bus = world.bus from alone]
      exact ih world value left ran left
  | opening exchanging =>
    obtain ⟨⟨openings, kept, free⟩, own, admitted⟩ := opens world
    rcases opened : opener world with ⟨failure | handle, left⟩
    · rw [opened] at kept own
      rw [bind_error opened]
      refine ⟨openings, kept, free.course (fun other same => ?_) _ _ _⟩
      cases same
      exact own failure rfl
    · rw [opened] at kept admitted
      rw [bind_ok opened]
      obtain ⟨contacts, later, fails⟩ := exchanging handle left
      have recorded (interface : Interface) (call : Call)
          (member : .report interface call ∈ openings ++ handle.record contacts) :
          .report interface call ∈ handle.record contacts :=
        (List.mem_append.mp member).resolve_left (free interface call)
      refine ⟨openings ++ handle.record contacts, ?_, fun failure failed => (fails failure failed).1,
        ?_, ?_⟩
      · rw [later, kept, List.append_assoc]
      · intro interface call member
        obtain ⟨contact, _, same⟩ := List.mem_map.mp (recorded interface call member)
        cases same
        exact ⟨handle.target, admitted handle rfl⟩
      · intro interface call member failure failed
        refine (fails failure failed).2 ?_
        rintro rfl
        cases recorded interface call member

end MouseControl.Cli
