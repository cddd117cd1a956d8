import CheckedMarkup.Session.Basic

/-! # The sample page

A small page that shows what a vocabulary is good for.
-/

namespace CheckedMarkup.Sample

def line (name text : String) : Call Tag Piece := .element ((Tag.named name).text text)

def calls : List (Call Tag Piece) :=
  [.start (.named "html"),
    .start (.named "head"),
    line "title" "Hello world!",
    .close "head",
    .start (.named "body"),
    line "h1" "Hello world!",
    line "p" "So how is it going?  <>!",
    .close "body",
    .close "html",
    .finish]

def replyText : Reply → String
  | .nothing => ""
  | .fragment fragment => fragment.text
  | .document text => text

/-- The page over a vocabulary, and what is logged while it is made. -/
def run (vocabulary : Vocabulary) : Except CallError String × List Log.Entry :=
  let (replies, log) := (Session.new vocabulary .xml).runAll calls
  (replies.map fun replies => (replies.getLast?.map replyText).getD "", log)

def page (vocabulary : Vocabulary) : Except CallError String := (run vocabulary).1

end CheckedMarkup.Sample
