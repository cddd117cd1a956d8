import CheckedMarkup.CommandLine.Basic

/-! # The command as a program

Reads the file that the arguments name, prints, and ends with a code.
-/

namespace CheckedMarkup

def FileError.ofSystem : IO.Error → FileError
  | .noFileOrDirectory .. => .notFound
  | .permissionDenied _ code _ => .system code.toNat "PermissionDenied" "Permission denied"
  | .inappropriateType _ code _ => .system code.toNat "IsADirectory" "Is a directory"
  | error => .system 0 "Other" (toString error)

def CommandLine.readTextFile (path : String) : IO (Except FileError String) := do
  try
    match String.fromUTF8? (← IO.FS.readBinFile path) with
    | some text => return .ok text
    | none => return .error .notText
  catch error => return .error (FileError.ofSystem error)

end CheckedMarkup

open CheckedMarkup CheckedMarkup.CommandLine in
def main (arguments : List String) : IO UInt32 := do
  let file ←
    match Invocation.read arguments with
    | .request ⟨some path, _⟩ => some <$> readTextFile path
    | _ => pure none
  let exit := run (fun _ => file.getD (.error .notFound)) arguments
  IO.print exit.output
  IO.eprint exit.errors
  return UInt32.ofNat exit.code
