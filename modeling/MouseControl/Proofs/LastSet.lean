import MouseControl.Proofs.Mouse
import MouseControl.Proofs.Rejection
import MouseControl.Proofs.Sends

/-! Settings over a series of operations. A setting is read as it was last set: what counts is whether the
request of a set reached the mouse, not how the set ended, and nothing but a set of the same setting
changes it. -/
namespace MouseControl

inductive Setting where
  | backlight
  | coreSlot
  | sledProfile
  | sledEnabled
deriving DecidableEq

def Mouse.firstByte (mouse : Mouse) (opcode : UInt8) : UInt8 :=
  (mouse.registers[opcode]?).elim 0 (·.byte 0)

private theorem Mouse.firstByte_holdings {mouse other : Mouse} (same : mouse.holdings = other.holdings)
    (opcode : UInt8) : mouse.firstByte opcode = other.firstByte opcode :=
  congrArg (fun holdings : Holdings => (holdings.registers[opcode]?).elim 0 (·.byte 0)) same

def chronicle : Mouse → List Turn → List (Deed × List Contact)
  | _, [] => []
  | mouse, turn :: rest =>
    (turn.deed, (turn.deed.perform Mouse.link.traced turn.device ⟨mouse, []⟩).2.contacts) ::
      chronicle (turn.play Mouse.link mouse) rest

namespace Setting

def opcode : Setting → UInt8
  | backlight => Opcode.backlight
  | coreSlot => Opcode.coreSlot
  | sledProfile => Opcode.sledProfile
  | sledEnabled => Opcode.sledEnable

def reader : Setting → Deed
  | backlight => .getBacklight
  | coreSlot => .getCoreSlot
  | sledProfile => .getSledProfile
  | sledEnabled => .getSledEnabled

def reply : (setting : Setting) → UInt8 → setting.reader.Reply
  | backlight, value | coreSlot, value | sledProfile, value => value
  | sledEnabled, value => value != 0

def newValue? : Setting → Deed → Option UInt8
  | backlight, .setBacklight level => some level
  | coreSlot, .setCoreSlot slot => some slot
  | sledProfile, .setSledProfile index => some index
  | sledEnabled, .setSledEnabled enabled => some (if enabled then 1 else 0)
  | _, _ => none

/-- The byte that an operation set, if its request reached the mouse. -/
def delivered? (setting : Setting) (entry : Deed × List Contact) : Option UInt8 :=
  if (entry.2.filterMap Contact.delivered?).isEmpty then none else setting.newValue? entry.1

def lastSet? (setting : Setting) (log : List (Deed × List Contact)) : Option UInt8 :=
  (log.filterMap setting.delivered?).getLast?

def allows : Setting → UInt8 → Bool
  | backlight, level => level ≤ backlightMax
  | coreSlot, slot => slot ≤ coreSlotMax
  | sledProfile, _ | sledEnabled, _ => true

/-- Whether an operation is typed and no DPI step on the opcode of the setting. -/
def spares (setting : Setting) : Deed → Bool
  | .stepDpi _ opcode _ => opcode != setting.opcode
  | deed => deed.isTyped

private theorem spares_typed {setting : Setting} {deed : Deed} (spared : setting.spares deed = true) :
    deed.isTyped = true := by
  cases deed with
  | stepDpi code opcode commit => rfl
  | _ => exact spared

private theorem opcode_injective {first second : Setting} (same : first.opcode = second.opcode) :
    first = second := by
  revert same
  cases first <;> cases second <;> decide

private theorem opcode_ne_of_unset (own : Setting) {setting : Setting} {deed : Deed} {value : UInt8}
    (unset : setting.newValue? deed = none) (set : own.newValue? deed = some value) :
    own.opcode ≠ setting.opcode := by
  intro same
  cases opcode_injective same
  rw [unset] at set
  cases set

private theorem sends_elsewhere {setting : Setting} {deed : Deed} (spared : setting.spares deed = true)
    (unset : setting.newValue? deed = none) {request : Request} (sends : deed.Sends request)
    (writes : request.flag ≠ 0) : request.opcode ≠ setting.opcode := by
  cases deed with
  | execute request => cases spared
  | writeReport id data => cases spared
  | readReport id length => cases spared
  | setBacklight level =>
    obtain ⟨_, rfl⟩ := sends
    exact backlight.opcode_ne_of_unset unset rfl
  | setCoreSlot slot =>
    obtain ⟨_, rfl⟩ := sends
    exact coreSlot.opcode_ne_of_unset unset rfl
  | setSledProfile index =>
    cases sends
    exact sledProfile.opcode_ne_of_unset unset rfl
  | setSledEnabled enabled =>
    cases sends
    exact sledEnabled.opcode_ne_of_unset unset rfl
  | stepDpi code opcode commit =>
    obtain ⟨_, rfl⟩ := sends
    exact bne_iff_ne.mp spared
  | getBacklight | getCoreSlot | getCoreState | getSledProfile | getSledEnabled =>
    cases sends
    exact absurd rfl writes
  | readEight _ | readDwords _ _ | writeDwords _ _ | save _ | saveStep _ | saveRun _ =>
    have only : request.opcode = _ := sends
    rw [only]
    cases setting <;> decide
  | writeWords _ _ _ | writeTable _ _ =>
    rcases sends with only | only <;> rw [only] <;> cases setting <;> decide

private theorem opcode_apart (setting : Setting) :
    setting.opcode ≠ Opcode.flashWriteWords ∧ setting.opcode ≠ Opcode.flashWriteDwords ∧
      setting.opcode ≠ Opcode.flashRead8 ∧ setting.opcode ≠ Opcode.flashReadDwords := by
  cases setting <;> decide

private theorem perform_read (setting : Setting) (mouse : Mouse) (region : Region) :
    (mouse.perform setting.opcode readFlag region).1 =
      (mouse.registers[setting.opcode]?).getD .zero := by
  obtain ⟨words, dwords, eight, window⟩ := setting.opcode_apart
  simp [Mouse.perform, words, dwords, eight, window, readFlag]

private theorem perform_write (setting : Setting) (mouse : Mouse) (region : Region) :
    (mouse.perform setting.opcode writeFlag region).2.registers[setting.opcode]? = some region := by
  obtain ⟨words, dwords, eight, window⟩ := setting.opcode_apart
  simp [Mouse.perform, words, dwords, eight, window, writeFlag]

private theorem setRegister_course {σ : Type} (link : Link σ) (device : Device) (opcode : UInt8)
    (payload : List UInt8) (state : σ) :
    (setRegister link device opcode payload state).2 =
        (execute link device (.write opcode payload) state).2 ∧
      (setRegister link device opcode payload state).1.isOk =
        (execute link device (.write opcode payload) state).1.isOk := by
  rw [setRegister, Session.bind_apply]
  rcases execute link device (.write opcode payload) state with ⟨_ | _, _⟩ <;> exact ⟨rfl, rfl⟩

private theorem setBounded_course {σ : Type} (link : Link σ) (device : Device) (opcode : UInt8)
    {value bound : UInt8} {error : Error} (state : σ) :
    let set := Session.check (if value ≤ bound then .ok value else .error error) >>=
      fun value => setRegister link device opcode [value]
    ((set state).2 = if decide (value ≤ bound) then
        (execute link device (.write opcode [value]) state).2 else state) ∧
      (set state).1.isOk = (decide (value ≤ bound) &&
        (execute link device (.write opcode [value]) state).1.isOk) := by
  intro set
  by_cases allowed : value ≤ bound
  · have sent : set = setRegister link device opcode [value] := by
      simp only [set, if_pos allowed]
      rfl
    rw [sent, decide_eq_true allowed, if_pos rfl, Bool.true_and]
    exact setRegister_course link device opcode [value] state
  · simp only [set, if_neg allowed, decide_eq_false allowed]
    exact ⟨rfl, rfl⟩

/-- For a set, either its byte is turned down and nothing is sent, or the byte is sent in one exchange and
the set ends as the exchange does. -/
private theorem set_course {setting : Setting} {deed : Deed} {value : UInt8}
    (set : setting.newValue? deed = some value) {σ : Type} (link : Link σ) (device : Device) (state : σ) :
    ((deed.perform link device state).2 = if setting.allows value then
        (execute link device (.write setting.opcode [value]) state).2 else state) ∧
      (deed.perform link device state).1.isOk = (setting.allows value &&
        (execute link device (.write setting.opcode [value]) state).1.isOk) := by
  cases setting with
  | backlight =>
    cases deed with
    | setBacklight level =>
      cases set
      exact setBounded_course link device _ state
    | _ => cases set
  | coreSlot =>
    cases deed with
    | setCoreSlot slot =>
      cases set
      exact setBounded_course link device _ state
    | _ => cases set
  | sledProfile =>
    cases deed with
    | setSledProfile index =>
      cases set
      exact setRegister_course link device _ _ state
    | _ => cases set
  | sledEnabled =>
    cases deed with
    | setSledEnabled enabled =>
      cases set
      exact setRegister_course link device _ _ state
    | _ => cases set

private theorem write_fits (setting : Setting) (value : UInt8) :
    (Request.write setting.opcode [value]).Fits := by
  simp [Request.Fits, Request.write, regionLength_eq]

private theorem execute_set (setting : Setting) (value : UInt8) (device : Device) (mouse : Mouse) :
    let request := Request.write setting.opcode [value]
    (execute Mouse.link device request mouse).2.firstByte setting.opcode =
      if ((execute Mouse.link.traced device request ⟨mouse, []⟩).2.contacts.filterMap
          Contact.delivered?).isEmpty then mouse.firstByte setting.opcode
      else value := by
  intro request
  have fits : request.Fits := setting.write_fits value
  obtain ⟨result, left, contacts, traced, ran, held⟩ :=
    Mouse.replayed_run mouse (execute_alike device (Mouse.replayed_alike mouse) request)
  obtain ⟨made, outcome, _, exchange, _, executed⟩ :=
    execute_traced Mouse.link device request mouse fits []
  rw [traced] at executed
  cases executed
  rw [ran, traced]
  have stored : (mouse.taking (reportId, request.report)).firstByte setting.opcode = value := by
    rw [Mouse.taking_report mouse fits, Mouse.firstByte]
    change ((mouse.perform setting.opcode writeFlag _).2.registers[setting.opcode]?).elim 0 _ = value
    rw [perform_write]
    rfl
  have kept := Mouse.firstByte_holdings held setting.opcode
  cases exchange with
  | unsent cause => exact kept
  | unanswered cause => exact kept.trans stored
  | answered answer => exact kept.trans stored

private theorem unset_keeps {setting : Setting} {turn : Turn} (spared : setting.spares turn.deed = true)
    (unset : setting.newValue? turn.deed = none) (mouse : Mouse) :
    (turn.play Mouse.link mouse).firstByte setting.opcode = mouse.firstByte setting.opcode := by
  have links : Mouse.link.Keeps turn.device
      (fun other => other.registers[setting.opcode]? = mouse.registers[setting.opcode]?)
      turn.deed.Sends := by
    constructor
    · intro request state sends fits same
      rcases state.write_register fits setting.opcode with kept | ⟨hit, writes, _⟩
      · exact kept.trans same
      · exact absurd hit (sends_elsewhere spared unset sends writes)
    · intro state same
      exact (state.read_register packetLength setting.opcode).trans same
  have kept := Deed.perform_keeps (spares_typed spared) links mouse rfl
  exact congrArg (fun register : Option Region => register.elim 0 (·.byte 0)) kept

private theorem firstByte_play {setting : Setting} {turn : Turn}
    (spared : setting.spares turn.deed = true) (mouse : Mouse) :
    (turn.play Mouse.link mouse).firstByte setting.opcode =
      (setting.delivered? (turn.deed,
        (turn.deed.perform Mouse.link.traced turn.device ⟨mouse, []⟩).2.contacts)).getD
          (mouse.firstByte setting.opcode) := by
  cases set : setting.newValue? turn.deed with
  | none => simp [unset_keeps spared set, delivered?, set]
  | some value =>
    simp only [Turn.play, delivered?, set]
    rw [(set_course set Mouse.link turn.device mouse).1,
      (set_course set Mouse.link.traced turn.device ⟨mouse, []⟩).1]
    split
    · rw [execute_set]
      split <;> rfl
    · rfl

private theorem firstByte_foldl {setting : Setting} {turns : List Turn}
    (spared : ∀ turn ∈ turns, setting.spares turn.deed = true) (mouse : Mouse) :
    (turns.foldl (Turn.play Mouse.link) mouse).firstByte setting.opcode =
      (setting.lastSet? (chronicle mouse turns)).getD (mouse.firstByte setting.opcode) := by
  induction turns generalizing mouse with
  | nil => rfl
  | cons turn rest ih =>
    rw [List.foldl_cons, ih (fun other member => spared other (by simp [member])),
      firstByte_play (spared turn (by simp)), chronicle, lastSet?, lastSet?, List.filterMap_cons]
    cases setting.delivered? (turn.deed,
        (turn.deed.perform Mouse.link.traced turn.device ⟨mouse, []⟩).2.contacts) with
    | none => rfl
    | some value => simp [List.getLast?_cons]

private theorem byteAt_first (region : Region) : byteAt region.bytes 0 = .ok (region.byte 0) := by
  have inside : 0 < region.bytes.length := by
    rw [region.length_eq]
    decide
  rw [byteAt_ok inside, Region.byte]
  simp [inside]

private theorem getRegister_mouse (setting : Setting) (device : Device) {mouse : Mouse}
    (empty : mouse.queue = []) :
    (getRegister Mouse.link device setting.opcode mouse).1 =
      match mouse.failWrites.lookup mouse.writes with
      | some cause => .error (.failed (.transportFailed setting.opcode cause))
      | none =>
        match mouse.failReads.lookup mouse.reads with
        | some cause => .error (.failed (.transportFailed setting.opcode cause))
        | none => .ok (mouse.firstByte setting.opcode) := by
  have executed := Mouse.execute_mouse device (Request.read_fits setting.opcode) empty
  cases untaken : mouse.failWrites.lookup mouse.writes with
  | some cause =>
    rw [untaken] at executed
    rw [getRegister, Session.bind_error executed]
    rfl
  | none =>
    cases unanswered : mouse.failReads.lookup mouse.reads with
    | some cause =>
      rw [untaken, unanswered] at executed
      rw [getRegister, Session.bind_error executed]
      rfl
    | none =>
      rw [untaken, unanswered] at executed
      rw [getRegister, Session.bind_ok executed]
      change (byteAt (mouse.perform setting.opcode readFlag _).1.bytes 0).mapError Halt.crashed = _
      rw [perform_read, byteAt_first, Mouse.firstByte]
      cases mouse.registers[setting.opcode]? <;> rfl

private theorem reader_left {σ : Type} (setting : Setting) (link : Link σ) (device : Device) (state : σ) :
    (setting.reader.perform link device state).1 =
      (getRegister link device setting.opcode state).1.map setting.reply := by
  cases setting with
  | backlight => exact (congrFun Except.map_id _).symm
  | coreSlot => exact (congrFun Except.map_id _).symm
  | sledProfile => exact (congrFun Except.map_id _).symm
  | sledEnabled =>
    change (getSledEnabled link device state).1 = _
    rw [getSledEnabled, Session.bind_apply]
    change _ = (getRegister link device Opcode.sledEnable state).1.map _
    rcases getRegister link device Opcode.sledEnable state with ⟨_ | _, _⟩ <;> rfl

private theorem reader_mouse (setting : Setting) (device : Device) {mouse : Mouse}
    (empty : mouse.queue = []) :
    (∀ reply, (setting.reader.perform Mouse.link device mouse).1 = .ok reply →
      reply = setting.reply (mouse.firstByte setting.opcode)) ∧
    ((∃ reply, (setting.reader.perform Mouse.link device mouse).1 = .ok reply) ↔
      mouse.failWrites.lookup mouse.writes = none ∧ mouse.failReads.lookup mouse.reads = none) := by
  rw [setting.reader_left, setting.getRegister_mouse device empty]
  cases mouse.failWrites.lookup mouse.writes with
  | some cause => simp [Except.map]
  | none =>
    cases mouse.failReads.lookup mouse.reads with
    | some cause => simp [Except.map]
    | none => simp [Except.map]

private theorem delivers_execute {σ : Type} {link : Link σ} {device : Device} {request : Request}
    (fits : request.Fits) (state : σ) :
    ((execute link.traced device request ⟨state, []⟩).2.contacts.filterMap
        Contact.delivered?).isEmpty = !(link.write device reportId request.report state).1.isOk := by
  rw [execute_apply, Request.encode_of_fits fits]
  rcases sending : link.write device reportId request.report state with ⟨cause | _, written⟩
  · simp only [Link.traced_write [] sending]
    rfl
  · simp only [Link.traced_write [] sending]
    rcases fetching : link.read device reportId packetLength written with ⟨cause | answer, left⟩
    · simp only [Link.traced_read _ fetching]
      rfl
    · simp only [Link.traced_read _ fetching]
      rfl

private theorem delivered_iff {setting : Setting} {deed : Deed} {value : UInt8}
    (set : setting.newValue? deed = some value) (device : Device) (mouse : Mouse) :
    setting.delivered? (deed, (deed.perform Mouse.link.traced device ⟨mouse, []⟩).2.contacts) =
        some value ↔
      setting.allows value = true ∧ mouse.failWrites.lookup mouse.writes = none := by
  rw [delivered?, set, (set_course set Mouse.link.traced device ⟨mouse, []⟩).1]
  cases setting.allows value with
  | false => simp
  | true =>
    rw [if_pos rfl, delivers_execute (setting.write_fits value),
      Mouse.write_report device (setting.write_fits value)]
    cases mouse.failWrites.lookup mouse.writes <;> simp [Except.isOk, Except.toBool]

private theorem set_ok_iff {setting : Setting} {deed : Deed} {value : UInt8}
    (set : setting.newValue? deed = some value) (device : Device) {mouse : Mouse}
    (empty : mouse.queue = []) :
    (deed.perform Mouse.link device mouse).1.isOk = true ↔
      setting.allows value = true ∧ mouse.failWrites.lookup mouse.writes = none ∧
        mouse.failReads.lookup mouse.reads = none := by
  rw [(set_course set Mouse.link device mouse).2,
    Mouse.execute_mouse device (setting.write_fits value) empty]
  cases mouse.failWrites.lookup mouse.writes with
  | some cause => simp [Except.isOk, Except.toBool]
  | none =>
    cases mouse.failReads.lookup mouse.reads with
    | some cause => simp [Except.isOk, Except.toBool]
    | none => simp [Except.isOk, Except.toBool]

private theorem spares_set {setting : Setting} {deed : Deed} {value : UInt8}
    (set : setting.newValue? deed = some value) : setting.spares deed = true := by
  cases deed with
  | setBacklight _ | setCoreSlot _ | setSledProfile _ | setSledEnabled _ => rfl
  | _ => cases setting <;> cases set

private theorem firstByte_delivered {setting : Setting} {turn : Turn} {value : UInt8}
    (set : setting.newValue? turn.deed = some value) {mouse : Mouse}
    (allowed : setting.allows value = true)
    (taken : mouse.failWrites.lookup mouse.writes = none) {later : List Turn}
    (unset : ∀ other ∈ later, setting.spares other.deed = true ∧ setting.newValue? other.deed = none) :
    (later.foldl (Turn.play Mouse.link) (turn.play Mouse.link mouse)).firstByte setting.opcode =
      value := by
  let holds (mouse : Mouse) : Prop := mouse.firstByte setting.opcode = value
  change holds (later.foldl _ _)
  apply Turn.foldl_play_keeps
  · intro other member mouse same
    obtain ⟨spared, unset⟩ := unset other member
    exact (unset_keeps spared unset mouse).trans same
  · change (turn.play Mouse.link mouse).firstByte setting.opcode = value
    rw [firstByte_play (spares_set set),
      (delivered_iff set turn.device mouse).mpr ⟨allowed, taken⟩, Option.getD_some]

end Setting

private theorem Mouse.Scripted.foldl_play {start mouse : Mouse} (scripted : Scripted start mouse)
    (turns : List Turn) : Scripted start (turns.foldl (Turn.play Mouse.link) mouse) := by
  apply Turn.foldl_play_keeps
  · intro turn _ state scripted
    exact (turn.deed.perform_alike turn.device (scripted_alike start) state state ⟨rfl, scripted⟩).2.2
  · exact scripted

/-- After any series of operations from an empty queue, a setting that is read with success has the value
of its last set that reached the mouse, or else its value at the start. It is read with success unless the
script has one of the two calls fail. A set reaches the mouse exactly if its byte passes the check and the
script spares its write, and it ends well if the script spares its read too. What is read after a set that
ended well is its byte, until the next set. -/
theorem settings_last_write_wins (setting : Setting) {start : Mouse} {turns : List Turn}
    (empty : start.queue = []) (spared : ∀ turn ∈ turns, setting.spares turn.deed = true)
    (device : Device) :
    let mouse := turns.foldl (Turn.play Mouse.link) start
    let value := (setting.lastSet? (chronicle start turns)).getD (start.firstByte setting.opcode)
    (∀ reply, (setting.reader.perform Mouse.link device mouse).1 = .ok reply →
      reply = setting.reply value) ∧
    ((∃ reply, (setting.reader.perform Mouse.link device mouse).1 = .ok reply) ↔
      start.failWrites.lookup mouse.writes = none ∧ start.failReads.lookup mouse.reads = none) ∧
    ∀ (turn : Turn) (byte : UInt8), setting.newValue? turn.deed = some byte →
      (setting.delivered? (turn.deed,
          (turn.deed.perform Mouse.link.traced turn.device ⟨mouse, []⟩).2.contacts) = some byte ↔
        setting.allows byte = true ∧ start.failWrites.lookup mouse.writes = none) ∧
      ((turn.deed.perform Mouse.link turn.device mouse).1.isOk = true ↔
        setting.allows byte = true ∧ start.failWrites.lookup mouse.writes = none ∧
          start.failReads.lookup mouse.reads = none) ∧
      ((turn.deed.perform Mouse.link turn.device mouse).1.isOk = true → ∀ later : List Turn,
        (∀ other ∈ later, setting.spares other.deed = true ∧ setting.newValue? other.deed = none) →
        ∀ reply, (setting.reader.perform Mouse.link device
            (later.foldl (Turn.play Mouse.link) (turn.play Mouse.link mouse))).1 = .ok reply →
          reply = setting.reply byte) := by
  intro mouse value
  have scripted : Mouse.Scripted start mouse := Mouse.Scripted.foldl_play ⟨empty, rfl, rfl⟩ turns
  have held : mouse.firstByte setting.opcode = value := Setting.firstByte_foldl spared start
  obtain ⟨values, succeeds⟩ := setting.reader_mouse device scripted.queue
  rw [← scripted.failWrites, ← scripted.failReads, ← held]
  refine ⟨values, succeeds, fun turn byte set => ?_⟩
  have ended := Setting.set_ok_iff set turn.device scripted.queue
  refine ⟨Setting.delivered_iff set turn.device mouse, ended, fun ok later unset reply read => ?_⟩
  obtain ⟨allowed, taken, _⟩ := ended.mp ok
  have empty := (scripted.foldl_play (turn :: later)).queue
  have last := (setting.reader_mouse device empty).1 reply read
  rwa [List.foldl_cons, Setting.firstByte_delivered set allowed taken unset] at last

-- The answer to the first set is lost, so that it fails, and the second is turned down. The DPI step goes
-- out on an opcode of the flash memory. The level read afterwards is that of the first set.
theorem settings_last_write_wins_unanswered :
    let device : Device := ⟨0x09DA, 0x7F1B, "Bloody T50", "SN1"⟩
    let start := { Mouse.fresh with failReads := [(0, .timeout "x")] }
    let turns : List Turn := [⟨device, .setBacklight 7⟩, ⟨device, .setBacklight 11⟩,
      ⟨device, .stepDpi 1 Opcode.flashWriteWords true⟩]
    start.queue = [] ∧ (∀ turn ∈ turns, Setting.backlight.spares turn.deed = true) ∧
      (setBacklight Mouse.link device 7 start).1 =
        .error (.failed (.transportFailed Opcode.backlight (.timeout "x"))) ∧
      (getBacklight Mouse.link device (turns.foldl (Turn.play Mouse.link) start)).1 = .ok 7 := by
  intro device start turns
  have spared : ∀ turn ∈ turns, Setting.backlight.spares turn.deed = true := by
    simp [turns, Setting.spares, Deed.isTyped, Setting.opcode, Opcode.flashWriteWords, Opcode.backlight]
  have last : Setting.backlight.lastSet? (chronicle start turns) = some 7 := by
    with_unfolding_all rfl
  have empty : start.queue = [] := rfl
  obtain ⟨values, succeeds, _⟩ := settings_last_write_wins .backlight empty spared device
  obtain ⟨reply, read⟩ := succeeds.mpr ⟨by with_unfolding_all rfl, by with_unfolding_all rfl⟩
  refine ⟨empty, spared, by with_unfolding_all rfl, ?_⟩
  have seven := values reply read
  rw [last] at seven
  exact read.trans (congrArg Except.ok seven)

end MouseControl
