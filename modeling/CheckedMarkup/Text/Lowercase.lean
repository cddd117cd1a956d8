import CheckedMarkup.Text.CaseTable

/-! # Lower case in every script

A character has one lower-case form, with two exceptions: the dotted capital
`İ` becomes two characters, and the capital sigma is written `ς` at the end of
a word and `σ` elsewhere. Only the sigma looks at its neighbours.
-/

namespace CheckedMarkup.Text

/-- The capital sigma, whose lower-case form depends on its place in the word. -/
def capitalSigma : Char := 'Σ'

/-- The capital `İ`, whose lower-case form is `i` with a combining dot above. -/
def dottedCapitalI : Char := 'İ'

def lowerChar (c : Char) : List Char :=
  if c = dottedCapitalI then ['i', '\u0307']
  else match caseRuns.find? (·.covers c.toNat) with
    | some run => [Char.ofNat (run.target + (c.toNat - run.first))]
    | none => [c]

/-- Whether a cased letter comes first, once the characters that words ignore are skipped. -/
def startsCased (text : List Char) : Bool :=
  match text.dropWhile caseIgnorableSet.has with
  | [] => false
  | c :: _ => casedSet.has c

/-- Whether a place ends a word: letters stand `before` it, nearest first, and none `after` it. -/
def endsWord (before after : List Char) : Bool :=
  startsCased before && !startsCased after

/-- The lower-case form of `text` in the place where `before`, nearest first, has been read. -/
def lowerFrom (before : List Char) : List Char → List Char
  | [] => []
  | c :: rest =>
      (if c = capitalSigma then [if endsWord before rest then 'ς' else 'σ'] else lowerChar c)
        ++ lowerFrom (c :: before) rest

def lowercase (text : String) : String :=
  String.ofList (lowerFrom [] text.toList)

/-- Two texts that differ at most in the case of the letters `A` to `Z`. -/
def sameUpToCase (first second : String) : Bool :=
  first.toLower == second.toLower

end CheckedMarkup.Text
