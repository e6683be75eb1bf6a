import MouseControl.Proofs.Mouse
import MouseControl.Proofs.Sends

/-! The ranges of the guarded registers. A request writes no other register than that of its opcode, and
no operation has a request for a guarded register whose first byte is out of range, a DPI step on an
opcode of its caller included. So every state that a series of operations goes through is in range. -/
namespace MouseControl
variable {σ : Type}

structure Filmed (σ : Type) where
  state : σ
  frames : List σ

def Link.filmed (link : Link σ) : Link (Filmed σ) where
  write device id report film :=
    let (answer, state) := link.write device id report film.state
    (answer, ⟨state, film.frames ++ [state]⟩)
  read device id length film :=
    let (answer, state) := link.read device id length film.state
    (answer, ⟨state, film.frames ++ [state]⟩)

private theorem Link.filmed_alike (link : Link σ) (device : Device) : Link.Alike device
    (fun (film : Filmed σ) (state : σ) => film.state = state) link.filmed link where
  write := by
    rintro ⟨state, frames⟩ _ id report rfl
    exact ⟨rfl, rfl⟩
  read := by
    rintro ⟨state, frames⟩ _ id length rfl
    exact ⟨rfl, rfl⟩

private theorem Turn.foldl_play_filmed (link : Link σ) (turns : List Turn) (film : Filmed σ) :
    (turns.foldl (play link.filmed) film).state = turns.foldl (play link) film.state := by
  induction turns generalizing film with
  | nil => rfl
  | cons turn rest ih =>
    have same := (turn.deed.perform_alike turn.device (link.filmed_alike turn.device) film film.state
      rfl).2
    rw [List.foldl_cons, ih, List.foldl_cons]
    exact congrArg (fun state => rest.foldl (play link) state) same

/-- The guarded registers, as far as there are any, begin with a level and a slot that exist. -/
structure Mouse.InRange (mouse : Mouse) : Prop where
  backlight : ∀ region, mouse.registers[Opcode.backlight]? = some region → region.byte 0 ≤ 10
  coreSlot : ∀ region, mouse.registers[Opcode.coreSlot]? = some region → region.byte 0 ≤ 3

structure Request.InRange (request : Request) : Prop where
  backlight : request.opcode = Opcode.backlight → request.flag ≠ 0 →
    (Region.ofBytes request.region).byte 0 ≤ 10
  coreSlot : request.opcode = Opcode.coreSlot → request.flag ≠ 0 →
    (Region.ofBytes request.region).byte 0 ≤ 3

namespace Request

private theorem inRange_elsewhere {request : Request} {opcode : UInt8} (only : request.opcode = opcode)
    (other : opcode ≠ Opcode.backlight) (another : opcode ≠ Opcode.coreSlot) : request.InRange := by
  subst only
  exact ⟨fun same => absurd same other, fun same => absurd same another⟩

private theorem inRange_read (opcode : UInt8) : (read opcode).InRange :=
  ⟨fun _ writes => absurd rfl writes, fun _ writes => absurd rfl writes⟩

private theorem inRange_small {opcode first : UInt8} (small : first ≤ 2) (rest : List UInt8) :
    (write opcode (first :: rest)).InRange := by
  have begins : (Region.ofBytes (write opcode (first :: rest)).region).byte 0 ≤ 2 := by
    rw [Mouse.ofBytes_first]
    exact small
  exact ⟨fun _ _ => UInt8.le_trans begins (by decide), fun _ _ => UInt8.le_trans begins (by decide)⟩

end Request

private theorem Deed.sends_inRange {deed : Deed} (typed : deed.isTyped = true) {request : Request}
    (sends : deed.Sends request) : request.InRange := by
  cases deed with
  | execute request => cases typed
  | writeReport id data => cases typed
  | readReport id length => cases typed
  | setBacklight level =>
    obtain ⟨allowed, rfl⟩ := sends
    refine ⟨fun _ _ => allowed, fun same => ?_⟩
    have apart : Opcode.backlight ≠ Opcode.coreSlot := by decide
    exact absurd same apart
  | setCoreSlot slot =>
    obtain ⟨allowed, rfl⟩ := sends
    refine ⟨fun same => ?_, fun _ _ => allowed⟩
    have apart : Opcode.coreSlot ≠ Opcode.backlight := by decide
    exact absurd same apart
  | stepDpi code opcode commit =>
    -- The opcode is the caller's and may be that of a guarded register.
    obtain ⟨small, rfl⟩ := sends
    exact Request.inRange_small small _
  | getBacklight | getCoreSlot | getCoreState | getSledProfile | getSledEnabled =>
    cases sends
    exact Request.inRange_read _
  | setSledProfile index =>
    have only : request.opcode = Opcode.sledProfile := congrArg Request.opcode sends
    exact Request.inRange_elsewhere only (by decide) (by decide)
  | setSledEnabled enabled =>
    have only : request.opcode = Opcode.sledEnable := congrArg Request.opcode sends
    exact Request.inRange_elsewhere only (by decide) (by decide)
  | readEight _ | readDwords _ _ | writeDwords _ _ | save _ | saveStep _ | saveRun _ =>
    exact Request.inRange_elsewhere sends (by decide) (by decide)
  | writeWords _ _ _ | writeTable _ _ =>
    rcases sends with only | only <;>
      exact Request.inRange_elsewhere only (by decide) (by decide)

namespace Mouse

private theorem write_bounded {mouse : Mouse} {request : Request} (fits : request.Fits)
    {register bound : UInt8}
    (bounded : ∀ region, mouse.registers[register]? = some region → region.byte 0 ≤ bound)
    (fine : request.opcode = register → request.flag ≠ 0 →
      (Region.ofBytes request.region).byte 0 ≤ bound) :
    ∀ region, (mouse.write reportId request.report).2.registers[register]? = some region →
      region.byte 0 ≤ bound := by
  intro region held
  rcases mouse.write_register fits register with kept | ⟨same, writes, stored⟩
  · rw [kept] at held
    exact bounded region held
  · rw [stored] at held
    cases held
    exact fine same writes

private theorem InRange.write {mouse : Mouse} (range : mouse.InRange) {request : Request}
    (fine : request.InRange) (fits : request.Fits) :
    (mouse.write reportId request.report).2.InRange :=
  ⟨write_bounded fits range.backlight fine.backlight, write_bounded fits range.coreSlot fine.coreSlot⟩

private theorem InRange.read {mouse : Mouse} (range : mouse.InRange) (length : Nat) :
    (mouse.read length).2.InRange := by
  constructor
  · intro region held
    rw [read_register] at held
    exact range.backlight region held
  · intro region held
    rw [read_register] at held
    exact range.coreSlot region held

def FilmInRange (film : Filmed Mouse) : Prop :=
  film.state.InRange ∧ ∀ frame ∈ film.frames, frame.InRange

private theorem FilmInRange.next {film : Filmed Mouse} (range : FilmInRange film) {state : Mouse}
    (next : state.InRange) : FilmInRange ⟨state, film.frames ++ [state]⟩ := by
  refine ⟨next, ?_⟩
  intro frame member
  rcases List.mem_append.mp member with earlier | last
  · exact range.2 frame earlier
  · rw [List.mem_singleton.mp last]
    exact next

private theorem filmed_keeps_inRange {deed : Deed} (typed : deed.isTyped = true) (device : Device) :
    Mouse.link.filmed.Keeps device FilmInRange deed.Sends where
  write := by
    intro request film sends fits range
    exact range.next (range.1.write (Deed.sends_inRange typed sends) fits)
  read := by
    intro film range
    exact range.next (range.1.read packetLength)

end Mouse

/-- A series of operations, each with any arguments, takes a mouse in range through states in range only:
after every call of each operation, also between its packets and where it fails. -/
theorem typed_operations_stay_in_range {start : Mouse} {turns : List Turn}
    (typed : ∀ turn ∈ turns, turn.deed.isTyped = true) (range : start.InRange) :
    ∃ frames, turns.foldl (Turn.play Mouse.link.filmed) ⟨start, []⟩ =
        ⟨turns.foldl (Turn.play Mouse.link) start, frames⟩ ∧
      (turns.foldl (Turn.play Mouse.link) start).InRange ∧ ∀ frame ∈ frames, frame.InRange := by
  have same := Turn.foldl_play_filmed Mouse.link turns ⟨start, []⟩
  have kept : Mouse.FilmInRange (turns.foldl (Turn.play Mouse.link.filmed) ⟨start, []⟩) := by
    apply Turn.foldl_play_keeps
    · intro turn member
      exact Deed.perform_keeps (typed turn member)
        (Mouse.filmed_keeps_inRange (typed turn member) turn.device)
    · exact ⟨range, fun _ member => (by cases member)⟩
  refine ⟨(turns.foldl (Turn.play Mouse.link.filmed) ⟨start, []⟩).frames, ?_, ?_, kept.2⟩
  · rw [← same]
  · rw [← same]
    exact kept.1

-- A DPI step on the opcode of the core slot takes effect although its answer is lost, and the level
-- after it is turned down.
theorem typed_operations_stay_in_range_aliased :
    let device : Device := ⟨0x09DA, 0x7F1B, "Bloody T50", "SN1"⟩
    let start := { Mouse.fresh with queue := [[1]], failReads := [(0, .timeout "x")] }
    let turns : List Turn :=
      [⟨device, .stepDpi 2 Opcode.coreSlot true⟩, ⟨device, .setBacklight 11⟩]
    let left := turns.foldl (Turn.play Mouse.link) start
    (∀ turn ∈ turns, turn.deed.isTyped = true) ∧ start.InRange ∧ left.InRange ∧
      left.registers[Opcode.coreSlot]? = some (.ofBytes [2, 1]) := by
  intro device start turns left
  have typed : ∀ turn ∈ turns, turn.deed.isTyped = true := by simp [turns, Deed.isTyped]
  have range : start.InRange := by constructor <;> simp [start, Mouse.fresh]
  obtain ⟨_, _, last, _⟩ := typed_operations_stay_in_range typed range
  have held : left.registers = (∅ : Std.HashMap UInt8 Region).insert Opcode.coreSlot
      (.ofBytes [2, 1]) := by with_unfolding_all rfl
  refine ⟨typed, range, last, ?_⟩
  rw [held]
  exact Std.HashMap.getElem?_insert_self

end MouseControl
