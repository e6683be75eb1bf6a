import MouseControl.Proofs.Job

/-! The course of every command. Each command is told by the units it reaches: none, any supported unit
with raw reports, or a unit that speaks the vendor protocol. Whatever the bus and the files, the reports
that a command exchanges are with units it reaches. -/
namespace MouseControl

namespace Cli
open Job Text
variable {γ : Type}

inductive Reach where
  | none
  | raw
  | vendor
deriving DecidableEq

def Reach.admits : Reach → Device → Bool
  | none, _ => false
  | raw, device => device.isSupported
  | vendor, device => device.isT50

namespace Command

def reach : Command → Reach
  | listDevices _ | validateProfile _ | applyProfile _ => .none
  | readReport .. | writeReport .. => .raw
  | backlight _ | coreSlot _ | coreState _ | sledProfile _ | sledEnabled _ | dpiStep .. | flashRead _
  | flashReadDwords .. | flashWrite .. | flashWriteDwords .. | adjustGun .. | save _ | exchange .. =>
    .vendor

/-- The one command that can crash after a report. -/
def Overruns : Command → Prop
  | flashWrite address data verify =>
    ∃ bytes, readHex data = .ok bytes ∧ Flash.Overruns address bytes verify
  | _ => False

end Command

private theorem flashData_ok {data : String} {unit : Nat} {world left : World} {bytes : List UInt8}
    (passed : flashData data unit world = (.ok bytes, left)) : readHex data = .ok bytes := by
  simp only [flashData, bind_apply, orElse, warn] at passed
  cases read : readHex data with
  | error error =>
    rw [read] at passed
    cases passed
  | ok others =>
    rw [read] at passed
    simp only [Session.mapError_ok] at passed
    cases checked : checkPayloadLength others.length unit with
    | error halt =>
      rw [checked] at passed
      cases passed
    | ok count =>
      rw [checked] at passed
      cases passed
      rfl

private theorem quiet_checkPayloadLength {view : Bus → γ} (length unit : Nat) :
    Quiet view (orElse Failure.ofHalt (checkPayloadLength length unit)) := by
  refine quiet_orElse fun halt failed => ?_
  unfold checkPayloadLength at failed
  repeat' split at failed
  all_goals cases failed
  · exact Failure.own_of_single rfl
  · exact Failure.own_of_not rfl
  · exact Failure.own_of_single rfl

private theorem quiet_readHex {view : Bus → γ} (text : String) :
    Quiet view (orElse Failure.ofHexHalt (readHex text)) := by
  refine quiet_orElse fun halt _ => ?_
  cases halt <;> exact Failure.own_of_not rfl

private theorem quiet_flashData (data : String) (unit : Nat) : Quiet id (flashData data unit) :=
  (quiet_readHex data).bind fun _ => (quiet_checkPayloadLength _ unit).bind fun _ =>
    ((tells_warn _).quiet id).bind fun _ => quiet_pure _

private theorem Failure.own_of_rejects {α : Type} {result : Except Error α} {failure : Failure}
    (rejects : Rejects result) (failed : result.mapError Failure.failed = .error failure) :
    failure.Own := by
  cases result with
  | ok value => cases failed
  | error error =>
    cases failed
    exact fun _ => ⟨error, rfl, rejects error rfl⟩

private theorem readStep_own {text : String} {failure : Failure}
    (failed : readStep text = .error failure) : failure.Own := by
  unfold readStep at failed
  repeat' split at failed
  · cases failed
  · exact Failure.own_of_rejects (DpiStep.ofCode_rejects _) failed
  · cases failed
    exact Failure.own_of_not rfl

private theorem readStrategy_own {text : String} {failure : Failure}
    (failed : readStrategy text = .error failure) : failure.Own := by
  unfold readStrategy at failed
  repeat' split at failed
  · cases failed
  · exact Failure.own_of_rejects (Save.Strategy.ofCode_rejects _) failed
  · cases failed
    exact Failure.own_of_not rfl

private theorem stepDpi_byCode (step : DpiStep) (opcode : UInt8) (commit : Bool) :
    (fun (link : Link Bus) (device : Device) => stepDpi link device step opcode commit) =
      fun link device => Deed.perform link device (.stepDpi step.code opcode commit) := by
  cases step <;> rfl

theorem perform_vendor (readFile : ReadFile) (serial : Option String) {command : Command}
    (vendor : command.reach = .vendor) :
    Through (openT50 serial) command.Overruns (perform readFile serial command) := by
  cases command with
  | listDevices json => cases vendor
  | validateProfile source => cases vendor
  | applyProfile source => cases vendor
  | readReport id length => cases vendor
  | writeReport id data => cases vendor
  | backlight action =>
    refine .opening fun handle => ?_
    cases action with
    | get => exact exchanging_say handle .getBacklight not_false
    | set value => exact exchanging_say handle (.setBacklight value) not_false
  | coreSlot action =>
    refine .opening fun handle => ?_
    cases action with
    | get => exact exchanging_say handle .getCoreSlot not_false
    | set value => exact exchanging_say handle (.setCoreSlot value) not_false
  | coreState json =>
    refine .opening fun handle => exchanging_ask handle .getCoreState ?_ False.elim
    intro state
    cases json with
    | true => exact tells_say _
    | false => exact tells_forM fun _ => tells_say _
  | sledProfile action =>
    refine .opening fun handle => ?_
    cases action with
    | get => exact exchanging_say handle .getSledProfile not_false
    | set value => exact exchanging_say handle (.setSledProfile value) not_false
  | sledEnabled action =>
    refine .opening fun handle => ?_
    cases action with
    | get => exact exchanging_say handle .getSledEnabled not_false
    | turn on => exact exchanging_say handle (.setSledEnabled on) not_false
  | dpiStep action opcode commit =>
    refine .after (quiet_orElse fun _ => readStep_own) fun _ step _ _ => .opening fun handle => ?_
    rw [stepDpi_byCode]
    exact exchanging_say handle (.stepDpi step.code opcode commit) not_false
  | flashRead address =>
    exact .opening fun handle => exchanging_say handle (.readEight address) not_false
  | flashReadDwords address count =>
    refine .after (quiet_rejects (rejects_unless rfl)) fun _ count _ _ => .opening fun handle => ?_
    exact exchanging_ask handle (.readDwords address count)
      (fun _ => tells_forM fun _ => tells_say _) False.elim
  | flashWrite address data verify =>
    refine .after (quiet_flashData data _) fun _ bytes _ passed => .opening fun handle => ?_
    exact exchanging_ask handle (.writeWords address bytes verify) (fun _ => tells_say _)
      fun overruns => ⟨bytes, flashData_ok passed, overruns⟩
  | flashWriteDwords address data =>
    refine .after (quiet_flashData data _) fun _ bytes _ _ => .opening fun handle => ?_
    exact exchanging_say handle (.writeDwords address bytes) not_false
  | adjustGun base path =>
    refine .after (quiet_orElse fun _ _ => Failure.own_of_not rfl) fun _ table _ _ => ?_
    refine .after (quiet_rejects (rejects_if rfl)) fun _ _ _ _ => ?_
    refine .after ((tells_warn _).quiet id) fun _ _ _ _ => ?_
    exact .opening fun handle => exchanging_say handle (.writeTable base table) not_false
  | save name =>
    refine .after (quiet_orElse fun _ => readStrategy_own) fun _ strategy _ _ => ?_
    exact .opening fun handle => exchanging_say handle (.saveRun (.start strategy)) not_false
  | exchange opcode write offset payload =>
    refine .after (quiet_readHex _) fun _ bytes _ _ => .opening fun handle => ?_
    exact exchanging_say handle
      (.execute ⟨opcode, if write then writeFlag else readFlag, offset, bytes⟩) not_false

private theorem perform_raw (readFile : ReadFile) (serial : Option String) {command : Command}
    (raw : command.reach = .raw) :
    Through (openSupported serial) command.Overruns (perform readFile serial command) := by
  cases command with
  | readReport id length =>
    refine .opening fun handle => ?_
    by_cases huge : capacity < length
    · simp only [if_pos huge]
      exact exchanging_crash handle _ .capacity
    · simp only [if_neg huge]
      exact exchanging_say handle (.readReport id length) not_false
  | writeReport id data =>
    refine .after (quiet_readHex _) fun _ bytes _ _ => .opening fun handle => ?_
    exact exchanging_say handle (.writeReport id bytes) not_false
  | _ => cases raw

private theorem quiet_discoverSupported :
    Quiet Bus.events (onBus Failure.discovery Bus.discoverSupported) := by
  intro world
  simp only [onBus, discoverSupported_apply]
  refine ⟨rfl, fun failure same => ?_⟩
  cases lookup : world.bus.failStarts.lookup world.bus.starts with
  | none =>
    rw [lookup] at same
    cases same
  | some text =>
    rw [lookup] at same
    cases same
    exact Failure.own_of_not rfl

private theorem loadProfile_single {readFile : ReadFile} {source : ProfileSource} {error : Error}
    (failed : loadProfile readFile source = .error error) : error.isSequenceFailure = false := by
  cases source with
  | numbers profile => cases failed
  | file path =>
    simp only [loadProfile] at failed
    cases read : readText readFile path with
    | error fault =>
      rw [read] at failed
      cases failed
      rfl
    | ok text =>
      rw [read] at failed
      cases parsed : Profile.ofText text with
      | error fault =>
        simp only [bind, Except.bind, Session.mapError_ok, parsed, Session.mapError_error] at failed
        cases failed
        rfl
      | ok profile =>
        simp only [bind, Except.bind, Session.mapError_ok, parsed] at failed
        cases failed

private theorem checkProfile_rejects (profile : Profile) : Rejects (checkProfile profile) := by
  intro error failed
  simp only [checkProfile, checkDpi, checkPollingRate, checkLiftOff, bind, Except.bind] at failed
  repeat' split at failed
  all_goals cases failed
  all_goals rename_i wrong
  all_goals split at wrong <;> cases wrong
  all_goals rfl

private theorem accepting_rejects (device : Device) (profile : Profile) :
    Rejects (Sink.accepting.apply device profile).1 := by
  intro error failed
  simp only [Sink.apply] at failed
  repeat' split at failed
  all_goals cases failed
  · rename_i checked
    exact checkProfile_rejects profile error checked
  · rename_i refused
    have rejects : Rejects device.requireSupported := rejects_if rfl
    exact rejects error refused

private theorem perform_none (readFile : ReadFile) (serial : Option String) {command : Command}
    (none : command.reach = .none) : Quiet Bus.events (perform readFile serial command) := by
  cases command with
  | listDevices json =>
    refine quiet_discoverSupported.bind fun devices => ?_
    split
    · exact (tells_say _).quiet _
    · split
      · exact ((tells_say _).bind (tells_say _)).quiet _
      · exact (tells_forM fun _ => tells_say _).quiet _
  | validateProfile source =>
    refine (quiet_check fun _ => loadProfile_single).bind fun profile => ?_
    exact (quiet_rejects (checkProfile_rejects profile)).bind fun _ => (tells_say _).quiet _
  | applyProfile source =>
    refine (quiet_check fun _ => loadProfile_single).bind fun profile => ?_
    refine (quiet_selectDevice serial _).bind fun device => ?_
    refine (quiet_rejects (accepting_rejects device profile)).bind fun _ => ?_
    split
    · exact ((tells_say _).bind ((tells_say _).bind ((tells_say _).bind (tells_say _)))).quiet _
    · exact quiet_pure ()
  | _ => cases none

theorem perform_course (readFile : ReadFile) (serial : Option String) (command : Command)
    (world : World) :
    ∃ made, (perform readFile serial command world).2.bus.events = world.bus.events ++ made ∧
      Course world.bus command.reach.admits command.Overruns
        (perform readFile serial command world).1 made := by
  cases reach : command.reach with
  | none =>
    obtain ⟨kept, own⟩ := perform_none readFile serial reach world
    refine ⟨[], ?_, reportFree_nil.course own _ _ _⟩
    rw [kept, List.append_nil]
  | raw => exact (perform_raw readFile serial reach).course (openSupported_opens serial) world
  | vendor => exact (perform_vendor readFile serial reach).course (openT50_opens serial) world

end Cli

end MouseControl
