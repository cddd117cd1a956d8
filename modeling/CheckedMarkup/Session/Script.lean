import CheckedMarkup.Session.Basic
import CheckedMarkup.Tag.Plan

/-! # Scripts

A script is a list of calls that is written before any of them is taken. Its
content may refer to the fragment that an earlier call of the script returned;
a call that returned none counts as an empty fragment.
-/

namespace CheckedMarkup

/-- A piece of content in a script. -/
inductive Source where
  | piece (piece : Piece)
  /-- The fragment returned by a step, counted from zero. -/
  | earlier (step : Nat)
deriving Repr, DecidableEq

/-- One step of a script. -/
abbrev Step := Call (Plan Source) Source

def Reply.fragment? : Reply → Option Fragment
  | fragment markup => some markup
  | nothing | document _ => none

/-- The fragment that a call returned. One that is refused returns none. -/
def Outcome.fragment? (outcome : Outcome) : Option Fragment :=
  outcome.answer.toOption.bind Reply.fragment?

@[simp] theorem Outcome.fragment?_ok (reply : Reply) (session : Session) (log : List Log.Entry) :
    fragment? ⟨.ok reply, session, log⟩ = reply.fragment? := rfl

@[simp] theorem Outcome.fragment?_error (error : CallError) (session : Session)
    (log : List Log.Entry) : fragment? ⟨.error error, session, log⟩ = none := rfl

/-- The piece that a source stands for, once the earlier steps have returned their fragments. -/
def Source.resolve (returned : List (Option Fragment)) : Source → Piece
  | .piece content => content
  | .earlier step => .markup ((returned[step]?.getD none).getD .empty)

def Step.resolve (returned : List (Option Fragment)) : Step → Call Tag Piece
  | .render plan => .render (plan.map (Source.resolve returned)).tag
  | .element plan => .element (plan.map (Source.resolve returned)).tag
  | .start plan => .start (plan.map (Source.resolve returned)).tag
  | .close name => .close name
  | .write sources => .write (sources.map (Source.resolve returned))
  | .comment lines => .comment lines
  | .script lines => .script lines
  | .finish => .finish

/-- What is logged before the call of a step is taken, while its tag is made. -/
def Step.notices : Step → List Log.Entry
  | .render plan | .element plan | .start plan => plan.notices
  | .close _ | .write _ | .comment _ | .script _ | .finish => []

/-- What one step led to: the answer to its call, and the session after it. -/
structure Moment where
  answer : Except CallError Reply
  session : Session

/-- What a script led to, step by step, and what was logged up to the end of the session. -/
structure Transcript where
  moments : List Moment
  log : List Log.Entry

namespace Session

/-- Takes the steps of a script, given the fragments that earlier steps returned. -/
def follow (session : Session) (returned : List (Option Fragment)) : List Step → Transcript
  | [] => ⟨[], session.farewell⟩
  | step :: rest =>
      let outcome := session.call (step.resolve returned)
      let transcript := outcome.session.follow (returned ++ [outcome.fragment?]) rest
      ⟨⟨outcome.answer, outcome.session⟩ :: transcript.moments,
        step.notices ++ outcome.log ++ transcript.log⟩

/-- Follows a script from its first step, and then gives the session up. -/
def runScript (session : Session) (script : List Step) : Transcript :=
  session.follow [] script

end Session

end CheckedMarkup
