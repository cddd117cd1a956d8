import CheckedMarkup.CommandLine.Arguments
import CheckedMarkup.CommandLine.Diagnosis
import CheckedMarkup.Sample
import CheckedMarkup.Vocabulary.Dump
import CheckedMarkup.Vocabulary.Xhtml

/-! # The command

What the command prints and how it ends, as a function of its arguments and of
the file that they name.
-/

namespace CheckedMarkup.CommandLine

structure Exit where
  code : Nat
  output : String
  errors : String
deriving Repr, DecidableEq

def versionText : String := "tagstream 0.1.0"

def vocabularyOf : Option (Except FileError String) → Except Failure Vocabulary
  | none => .ok .xhtml
  | some (.error error) => .error (.file error)
  | some (.ok document) =>
      match Table.read document >>= Table.compile with
      | .ok vocabulary => .ok vocabulary
      | .error error => .error (.vocabulary error)

def Action.lines (vocabulary : Vocabulary) : Action → Except Failure (List String)
  | demo =>
      match Sample.page vocabulary with
      | .ok page => .ok [page]
      | .error error => .error (.call error)
  | list none => .ok vocabulary.names
  | list (some position) => .ok ((vocabulary.elementsAt position).map ElementDecl.name)
  | describe element =>
      match vocabulary.find? element with
      | some decl => .ok [decl.toJson.pretty]
      | none => .error (.unknownElement element)

def Request.lines (request : Request) (file : Option (Except FileError String)) :
    Except Failure (List String) := do
  request.action.lines (← vocabularyOf file)

/-- How the command ends after a request, given the file that the request names. -/
def Request.exit (request : Request) (file : Option (Except FileError String)) : Exit :=
  match request.lines file with
  | .ok lines => ⟨0, String.join (lines.map (· ++ "\n")), ""⟩
  | .error failure => ⟨1, "", "Error: " ++ failure.inspected ++ "\n"⟩

/-- How the command ends where files are read by `readFile`. -/
def run (readFile : String → Except FileError String) (arguments : List String) : Exit :=
  match Invocation.read arguments with
  | .version => ⟨0, versionText ++ "\n", ""⟩
  | .usageError => ⟨2, "", ""⟩
  | .request request => request.exit (request.schema.map readFile)

end CheckedMarkup.CommandLine
