import MouseControl.Fault

/-! A folder of files without folders in it, and the paths that lead into it. Around it there are
only folders. -/
namespace MouseControl.Cli

structure Folder where
  files : List (String × List UInt8)

namespace Folder

inductive Place where
  | here
  | around
  | file (bytes : List UInt8)
deriving DecidableEq, Repr

def nameMax : Nat := 255

def pathMax : Nat := 4095

/-- Follows one name of a path. An empty name or a single dot stays where it is, two dots lead out.
Nothing is known by name around the folder, and nothing is below a file. -/
def step (folder : Folder) (place : Place) (name : String) : Except FileError Place :=
  match place with
  | .file _ => .error .notDirectory
  | .here =>
    if name = "" ∨ name = "." then .ok .here
    else if name = ".." then .ok .around
    else if nameMax < name.utf8ByteSize then .error .nameTooLong
    else (folder.files.lookup name).elim (.error .notFound) (.ok ∘ .file)
  | .around =>
    if name = "" ∨ name = "." ∨ name = ".." then .ok .around
    else if nameMax < name.utf8ByteSize then .error .nameTooLong
    else .error .notFound

/-- Follows a path, which starts outside if it begins with a slash. -/
def follow (folder : Folder) (path : String) : Except FileError Place :=
  if pathMax < path.utf8ByteSize then .error .nameTooLong
  else (path.splitOn "/").foldlM folder.step (if path.startsWith "/" then .around else .here)

def read (folder : Folder) (path : String) : Except FileError (List UInt8) := do
  match ← folder.follow path with
  | .file bytes => .ok bytes
  | .here | .around => .error .isDirectory

end Folder

end MouseControl.Cli
