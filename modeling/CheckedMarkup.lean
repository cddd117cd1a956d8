import CheckedMarkup.CommandLine.Basic
import CheckedMarkup.Decimal.Numeral
import CheckedMarkup.Main
import CheckedMarkup.Session.Script
import CheckedMarkup.Proofs.Text.LowerCase
import CheckedMarkup.Proofs.Fallible
import CheckedMarkup.Proofs.Vocabulary.Names
import CheckedMarkup.Proofs.Markup.Escaping
import CheckedMarkup.Proofs.Session.Checking
import CheckedMarkup.Proofs.Session.Making
import CheckedMarkup.Proofs.Session.Run
import CheckedMarkup.Proofs.Tag.Made
import CheckedMarkup.Proofs.Markup.Forest
import CheckedMarkup.Proofs.Session.Document
import CheckedMarkup.Proofs.Session.Alike
import CheckedMarkup.Proofs.Session.Nesting
import CheckedMarkup.Proofs.Tree.Basic
import CheckedMarkup.Proofs.Tree.Decoding
import CheckedMarkup.Proofs.Tree.Normal
import CheckedMarkup.Proofs.Vocabulary.Flattening
import CheckedMarkup.Proofs.Vocabulary.Compiling
import CheckedMarkup.Proofs.Text.Words
import CheckedMarkup.Proofs.Keyed
import CheckedMarkup.Proofs.Vocabulary.Entries
import CheckedMarkup.Proofs.Vocabulary.Proper
import CheckedMarkup.Proofs.Vocabulary.Printing
import CheckedMarkup.Proofs.Vocabulary.Cycles
import CheckedMarkup.Proofs.Session.Idle
import CheckedMarkup.Proofs.Session.History
import CheckedMarkup.Proofs.Session.Plans
import CheckedMarkup.Proofs.Session.Outline
import CheckedMarkup.Proofs.Session.Leaves
import CheckedMarkup.Proofs.Text.Letters
import CheckedMarkup.Proofs.Session.Casing
import CheckedMarkup.Proofs.Session.Usable
import CheckedMarkup.Proofs.Vocabulary.Modular
import CheckedMarkup.Proofs.Session.Breaches
import CheckedMarkup.Proofs.Vocabulary.Dump
import CheckedMarkup.Proofs.Vocabulary.Loading
import CheckedMarkup.Proofs.Vocabulary.Grammar
import CheckedMarkup.Proofs.Vocabulary.Marking
import CheckedMarkup.Proofs.Tag.Changes
import CheckedMarkup.Proofs.Session.FixedType
import CheckedMarkup.Proofs.Session.Content
import CheckedMarkup.Proofs.Session.Farewell
import CheckedMarkup.Proofs.Tag.Gathered
import CheckedMarkup.Proofs.Session.Fitting
import CheckedMarkup.Proofs.Sample
import CheckedMarkup.Proofs.Log
import CheckedMarkup.Proofs.Session.Replay
