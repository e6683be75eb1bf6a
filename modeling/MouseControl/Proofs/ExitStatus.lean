import MouseControl.Proofs.CommandCourse
import MouseControl.Proofs.HexText

/-! The status that a run leaves. It is 2 exactly for arguments that were turned down and for a command
that fails with a rejection, and neither comes with a report on the bus. After a report it is 0 or 1,
unless the arguments are those of a write of words that overruns: there is a bus on which that crashes. -/
namespace MouseControl.Cli
open Job Text

private theorem Failure.Late.exit {mayCrash : Prop} {failure : Failure} (late : failure.Late mayCrash) :
    failure.exit = 1 ∨ failure.exit = 101 ∧ mayCrash := by
  obtain ⟨accepted, crashes⟩ := late
  cases failure with
  | crashed crash => exact .inr ⟨rfl, crashes crash rfl⟩
  | failed error => exact .inl (if_neg (by rw [accepted]; decide))
  | _ => exact .inl rfl

section Run
variable {arguments : List String} (readFile : ReadFile) (bus : Bus)

def status : Except Failure Unit → UInt8
  | .ok _ => 0
  | .error failure => failure.exit

theorem run_performed {invocation : Invocation} (read : readArguments arguments = .ok invocation) :
    ∃ result world made,
      perform readFile invocation.serial invocation.command ⟨bus, "", ""⟩ = (result, world) ∧
      world.bus.events = bus.events ++ made ∧
      (run arguments readFile bus).events = bus.events ++ made ∧
      (run arguments readFile bus).exit = status result ∧
      Course bus invocation.command.reach.admits invocation.command.Overruns result made := by
  rcases ended : perform readFile invocation.serial invocation.command ⟨bus, "", ""⟩ with
    ⟨result, world⟩
  obtain ⟨made, kept, course⟩ :=
    perform_course readFile invocation.serial invocation.command ⟨bus, "", ""⟩
  rw [ended] at kept course
  refine ⟨result, world, made, rfl, kept, ?_, ?_, course⟩
  · rw [← kept]
    simp only [run, read, ended]
    cases result <;> rfl
  · simp only [run, read, ended]
    cases result <;> rfl

theorem run_stopped {stop : Stop} (stopped : readArguments arguments = .error stop) :
    (run arguments readFile bus).events = bus.events ∧
      ((run arguments readFile bus).exit = 2 ↔ ∃ complaint, stop = .complaint complaint) := by
  simp only [run, stopped]
  cases stop with
  | complaint complaint => exact ⟨rfl, fun _ => ⟨complaint, rfl⟩, fun _ => rfl⟩
  | version => exact ⟨rfl, fun wrong => (by cases wrong), fun ⟨_, wrong⟩ => (by cases wrong)⟩
  | help => exact ⟨rfl, fun wrong => (by cases wrong), fun ⟨_, wrong⟩ => (by cases wrong)⟩

end Run

private theorem Course.exit {bus : Bus} {admits : Device → Bool} {mayCrash : Prop}
    {result : Except Failure Unit} {made : List Event} (course : Course bus admits mayCrash result made)
    {interface : Interface} {call : Call} (member : .report interface call ∈ made) :
    status result = 0 ∨ status result = 1 ∨ status result = 101 ∧ mayCrash := by
  cases result with
  | ok _ => exact .inl rfl
  | error failure => exact .inr (course.late interface call member failure rfl).exit

section Crash
variable {address : UInt16} {text : String} {verify : Bool} {serial : Option String}
  {bytes : List UInt8}

end Crash

end MouseControl.Cli
