import ReservedWords.Barrier
import ReservedWords.Main
import ReservedWords.Session
import ReservedWords.Proofs.Sorting
import ReservedWords.Proofs.Text.Utf8
import ReservedWords.Proofs.Path
import ReservedWords.Proofs.FileTree.Ways
import ReservedWords.Proofs.Dictionary
import ReservedWords.Proofs.Json.Printing
import ReservedWords.Proofs.Document
import ReservedWords.Proofs.Config
import ReservedWords.Proofs.Extractor
import ReservedWords.Proofs.Barrier.Moves
import ReservedWords.Proofs.Barrier.Coherence
import ReservedWords.Proofs.Barrier.Runs
import ReservedWords.Proofs.Barrier.Accounting
import ReservedWords.Proofs.Barrier.Progress
import ReservedWords.Proofs.Barrier.Initialization
import ReservedWords.Proofs.Session.Tracing
import ReservedWords.Proofs.Session.Snapshot
import ReservedWords.Proofs.Classification.Collection
import ReservedWords.Proofs.Classification.Queries
import ReservedWords.Proofs.Classification.Partition
import ReservedWords.Proofs.Classification.Buckets
import ReservedWords.Proofs.Definition.Places
import ReservedWords.Proofs.Definition.Whitelisting
import ReservedWords.Proofs.Classification.Acceptance
import ReservedWords.Proofs.Outcome
import ReservedWords.Proofs.Grammar.Loading
import ReservedWords.Proofs.Grammar.Lexemes
import ReservedWords.Proofs.Grammar.Reading
import ReservedWords.Proofs.Grammar.Representation
import ReservedWords.Proofs.Classification.Completeness
import ReservedWords.Proofs.Classification.Canonical
import ReservedWords.Proofs.Grammar.Drafts
import ReservedWords.Proofs.Grammar.Order
import ReservedWords.Proofs.Grammar.Sources
import ReservedWords.Proofs.Grammar.Parts
import ReservedWords.Proofs.Grammar.Naming
import ReservedWords.Proofs.Grammar.Names
import ReservedWords.Proofs.Grammar.Declared
import ReservedWords.Proofs.Grammar.Literals
import ReservedWords.Proofs.Grammar.Failures
import ReservedWords.Proofs.Grammar.Atoms
import ReservedWords.Proofs.Grammar.Resolution
import ReservedWords.Proofs.Grammar.Edits
import ReservedWords.Proofs.Grammar.Imports
import ReservedWords.Proofs.Loading.Cache
import ReservedWords.Proofs.Loading.Footprint
import ReservedWords.Proofs.Loading.Discipline
import ReservedWords.Proofs.Loading.Independence
import ReservedWords.Proofs.Expectation
import ReservedWords.Proofs.CommandLine.Endings
import ReservedWords.Proofs.CommandLine.Surroundings
import ReservedWords.Proofs.CommandLine.Agreement
import ReservedWords.Proofs.CommandLine.Effects
import ReservedWords.Proofs.Classification.FirstSeen
import ReservedWords.Proofs.Classification.Union
import ReservedWords.Proofs.Classification.Offences
import ReservedWords.Proofs.Classification.Additions
import ReservedWords.Proofs.Config.Acceptance
import ReservedWords.Proofs.Config.RoundTrip
import ReservedWords.Proofs.Expectation.Layout
import ReservedWords.Proofs.Expectation.Faults
import ReservedWords.Proofs.Definition.Edits
import ReservedWords.Proofs.FileTree.Newlines
import ReservedWords.Proofs.Loading.Newlines
import ReservedWords.Proofs.CommandLine.Newlines
