import CheckedMarkup.Log
import CheckedMarkup.Session.Check

/-! # Sessions

A session makes one document. It collects finished fragments, keeps the
elements that are still open, and takes calls until it is finished. A call
is carried out step by step, and any of its steps may be the last if it fails.
-/

namespace CheckedMarkup

/-- One call to a session. The tags `τ` and the pieces `π` of content may still be plans. -/
inductive Call (τ π : Type) where
  /-- Makes a fragment without adding it to the document. -/
  | render (tag : τ)
  | element (tag : τ)
  | start (tag : τ)
  /-- Closes the innermost open element, which has to have this name. -/
  | close (name : String)
  | write (pieces : List π)
  | comment (lines : List String)
  | script (lines : List String)
  | finish
deriving Repr, DecidableEq

inductive Reply where
  | nothing
  | fragment (fragment : Fragment)
  | document (text : String)
deriving Repr, DecidableEq

/-- A document that is being made. -/
structure Session where
  vocabulary : Vocabulary
  escaper : Escaper
  /-- What has been added, in order. -/
  fragments : List Fragment
  /-- The names of the open elements, innermost first. -/
  stack : List String
  isFinished : Bool

/-- What a call leads to, whether it succeeds or not. -/
structure Outcome where
  answer : Except CallError Reply
  /-- The session after the call. -/
  session : Session
  log : List Log.Entry

def joinLines (lines : List String) : String := "\n".intercalate lines

/-- The comment that holds some lines. They are not escaped. -/
def commentText (lines : List String) : String := "<!-- " ++ joinLines lines ++ " -->"

/-- The block of script that holds some lines, hidden from readers that know no scripts. -/
def scriptText (lines : List String) : String :=
  "<script type=\"text/javascript\"><!--\n" ++ joinLines lines ++ "\n//--></script>"

namespace Session

def new (vocabulary : Vocabulary) (escaper : Escaper) : Session :=
  ⟨vocabulary, escaper, [], [], false⟩

/-- The open elements, outermost first. -/
def openTags (session : Session) : List String := session.stack.reverse

def depth (session : Session) : Nat := session.stack.length

def document (session : Session) : String := (Fragment.concat session.fragments).text

def add (session : Session) (fragments : List Fragment) : Session :=
  { session with fragments := session.fragments ++ fragments }

def make (session : Session) (form : Form) (tag : Tag) : Except CallError Fragment :=
  return (← session.vocabulary.template form tag).encode session.escaper

end Session

/-- A session in the middle of a call, and what the call has logged so far. -/
structure Progress where
  session : Session
  log : List Log.Entry

/-- What is done to a session. It may fail on the way, and what was done by then stays done. -/
abbrev SessionM := EStateM CallError Progress

namespace SessionM

def current : SessionM Session := return (← get).session

def setSession (session : Session) : SessionM Unit :=
  modify fun progress => { progress with session := session }

def add (fragments : List Fragment) : SessionM Unit := do
  setSession ((← current).add fragments)

def setStack (stack : List String) : SessionM Unit := do
  setSession { ← current with stack := stack }

def log (entry : Log.Entry) : SessionM Unit :=
  modify fun progress => { progress with log := progress.log ++ [entry] }

def ensure (condition : Bool) (error : CallError) : SessionM Unit :=
  if condition then pure () else throw error

/-- A finished session takes no calls. -/
def ensureUnfinished : SessionM Unit := do
  ensure (!(← current).isFinished) .finished

/-- Makes a fragment without adding it to the document. -/
def render (tag : Tag) : SessionM Fragment := do
  ensureUnfinished
  liftExcept ((← current).make .whole tag)

def element (tag : Tag) : SessionM Fragment := do
  let fragment ← render tag
  log (.added fragment)
  add [fragment]
  return fragment

/-- Opens an element. The stack keeps its declared name. -/
def start (tag : Tag) : SessionM Unit := do
  ensureUnfinished
  let session ← current
  let element ← liftExcept (session.vocabulary.element tag.name)
  let fragment ← liftExcept (session.make .opening tag)
  log (.opened tag.name session.depth)
  add [fragment]
  setStack (element.name :: session.stack)

/-- Closes the innermost open element, under any spelling of its name. -/
def close (name : String) : SessionM Unit := do
  ensureUnfinished
  match (← current).stack with
  | [] => throw (.noOpenTags name)
  | innermost :: rest =>
      ensure (Text.sameUpToCase innermost name) (.mismatchedClose name innermost)
      setStack rest
      log (.closed innermost rest.length)
      add [⟨ElementDecl.closingTag innermost⟩]

def write (pieces : List Piece) : SessionM Unit := do
  ensureUnfinished
  add (pieces.map (Piece.encode (← current).escaper))

def comment (lines : List String) : SessionM Unit := do
  ensureUnfinished
  add [⟨commentText lines⟩]

def script (lines : List String) : SessionM Unit := do
  ensureUnfinished
  add [⟨scriptText lines⟩]

/-- Ends the document. Its fragments are handed out and not kept. -/
def finish : SessionM String := do
  ensureUnfinished
  let session ← current
  ensure session.stack.isEmpty (.unclosedTags session.openTags)
  setSession { session with isFinished := true }
  setSession { ← current with fragments := [] }
  log (.finished session.fragments.length session.document.utf8ByteSize)
  return session.document

/-- Takes one call. -/
def take : Call Tag Piece → SessionM Reply
  | .render tag => return .fragment (← render tag)
  | .element tag => return .fragment (← element tag)
  | .start tag => do start tag; return .nothing
  | .close name => do close name; return .nothing
  | .write pieces => do write pieces; return .nothing
  | .comment lines => do comment lines; return .nothing
  | .script lines => do script lines; return .nothing
  | .finish => return .document (← finish)

end SessionM

namespace Session

def call (session : Session) (call : Call Tag Piece) : Outcome :=
  match (SessionM.take call).run ⟨session, []⟩ with
  | .ok reply progress => ⟨.ok reply, progress.session, progress.log⟩
  | .error error progress => ⟨.error error, progress.session, progress.log⟩

def answer (session : Session) (call : Call Tag Piece) : Except CallError Reply :=
  (session.call call).answer

/-- The session after a call. -/
def after (session : Session) (call : Call Tag Piece) : Session := (session.call call).session

/-- What is logged when a session is given up: a warning if elements are open. -/
def farewell (session : Session) : List Log.Entry :=
  if session.isFinished || session.stack.isEmpty then [] else [.abandoned session.openTags]

/-- Takes calls up to the first that is refused, and then gives the session up. -/
def runAll (session : Session) :
    List (Call Tag Piece) → Except CallError (List Reply) × List Log.Entry
  | [] => (.ok [], session.farewell)
  | call :: rest =>
      let outcome := session.call call
      match outcome.answer with
      | .error error => (.error error, outcome.log ++ outcome.session.farewell)
      | .ok reply =>
          let (replies, log) := outcome.session.runAll rest
          (replies.map (reply :: ·), outcome.log ++ log)

end Session

end CheckedMarkup
