import MouseControl.Cli.Folder
import MouseControl.Cli.Run

/-! The program. It reads the one file that a command names and works on a bus without interfaces. -/
namespace MouseControl.Cli

def fileError : IO.Error → FileError
  | .inappropriateType .. => .isDirectory
  | _ => .notFound

def readNamed (path : String) : IO (Except FileError (List UInt8)) := do
  try
    let bytes ← IO.FS.readBinFile path
    pure (.ok bytes.toList)
  catch error => pure (.error (fileError error))

/-- The file that the arguments name, read beforehand. -/
def readFileOf (arguments : List String) : IO ReadFile := do
  match readArguments arguments with
  | .ok ⟨command, _⟩ =>
    match command.file? with
    | some path =>
      let contents ← readNamed path
      pure fun _ => contents
    | none => pure fun _ => .error .notFound
  | .error _ => pure fun _ => .error .notFound

end MouseControl.Cli

def main (arguments : List String) : IO UInt32 := do
  let readFile ← MouseControl.Cli.readFileOf arguments
  let transcript := MouseControl.Cli.run arguments readFile .empty
  IO.print transcript.out
  IO.eprint transcript.err
  if let some complaint := transcript.complaint then
    IO.eprintln s!"error: {complaint.line}"
  pure transcript.exit.toUInt32
