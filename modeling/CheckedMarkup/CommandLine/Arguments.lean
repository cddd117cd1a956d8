import CheckedMarkup.Vocabulary.Position

/-! # Arguments of the command

The command has a name of an action among its arguments. The option `--schema`
may stand before or after it, and each other option after it. The value of an
option is the next argument, or follows an equals sign.
-/

namespace CheckedMarkup.CommandLine

inductive Action where
  | demo
  | list (position : Option Position)
  | describe (element : String)
deriving Repr, DecidableEq

/-- An action over the vocabulary of a file, or over the one that is built in. -/
structure Request where
  schema : Option String
  action : Action
deriving Repr, DecidableEq

inductive Invocation where
  | request (request : Request)
  | version
  | usageError
deriving Repr, DecidableEq

inductive ValueOption where
  | schema
  | position
deriving Repr, DecidableEq

def ValueOption.name : ValueOption → String
  | schema => "--schema"
  | position => "--position"

/-- Whether an argument is written like an option. A single hyphen is not. -/
def isOption (argument : String) : Bool :=
  match argument.toList with
  | '-' :: _ :: _ => true
  | _ => false

/-- The value that an argument attaches to an option with an equals sign. -/
def attachedValue? (option : ValueOption) (argument : String) : Option String :=
  let start := (option.name ++ "=").toList
  if start.isPrefixOf argument.toList then
    some (String.ofList (argument.toList.drop start.length))
  else none

/-- What the arguments of one level have said so far. -/
structure Level where
  schema : Option String
  position : Option Position
  words : List String
  /-- The option whose value has to come next. -/
  pending : Option ValueOption
  /-- Whether all that follows is words. -/
  wordsOnly : Bool
deriving Repr, DecidableEq

namespace Level

def blank : Level := ⟨none, none, [], none, false⟩

/-- Gives an option its value. An option has one value, and a path is not empty. -/
def give (level : Level) (option : ValueOption) (value : String) : Option Level :=
  match option with
  | .schema =>
      if level.schema.isSome || value.isEmpty then none
      else some { level with schema := some value, pending := none }
  | .position =>
      if level.position.isSome then none
      else match Position.parse value with
        | .ok position => some { level with position := some position, pending := none }
        | .error _ => none

def readOption (level : Level) (argument : String) : List ValueOption → Option Level
  | [] => none
  | option :: others =>
      if argument = option.name then some { level with pending := some option }
      else match attachedValue? option argument with
        | some value => level.give option value
        | none => level.readOption argument others

def read (options : List ValueOption) (level : Level) (argument : String) : Option Level :=
  match level.pending with
  | some option => if isOption argument then none else level.give option argument
  | none =>
      if level.wordsOnly || !isOption argument then
        some { level with words := level.words ++ [argument] }
      else if argument = "--" then some { level with wordsOnly := true }
      else level.readOption argument options

end Level

def readAction (name : String) (arguments : List String) : Option Request := do
  let options ←
    if name = "list" then some [.schema, .position]
    else if name = "demo" ∨ name = "describe" then some [.schema]
    else none
  let level ← arguments.foldlM (Level.read options) .blank
  if level.pending.isSome then none
  else match name, level.words with
    | "demo", [] => some ⟨level.schema, .demo⟩
    | "list", [] => some ⟨level.schema, .list level.position⟩
    | "describe", [element] => some ⟨level.schema, .describe element⟩
    | _, _ => none

def readFrom (level : Level) : List String → Invocation
  | [] => .usageError
  | argument :: rest =>
      if level.pending.isNone ∧
          (argument = "--version" ∨ ['-', 'V'].isPrefixOf argument.toList) then
        .version
      else match level.read [.schema] argument with
        | none => .usageError
        | some level =>
            if level.wordsOnly then .usageError
            else if level.words.isEmpty then readFrom level rest
            else match readAction argument rest with
              | none => .usageError
              | some request => .request { request with schema := request.schema <|> level.schema }

def Invocation.read (arguments : List String) : Invocation := readFrom .blank arguments

end CheckedMarkup.CommandLine
