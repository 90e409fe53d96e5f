import ChatCommand.Console.Basic
import ChatCommand.Console.Files
import ChatCommand.Console.Host
import ChatCommand.Console.Options
import ChatCommand.Console.Program
import ChatCommand.Console.Render
import ChatCommand.Console.Request
import ChatCommand.Console.Session
import ChatCommand.Data.Datum
import ChatCommand.Data.Json
import ChatCommand.Data.MessagePack
import ChatCommand.Decimal.Binary64
import ChatCommand.Decimal.Reader
import ChatCommand.Decimal.Shortest
import ChatCommand.Error
import ChatCommand.Grammar.Arithmetic
import ChatCommand.Grammar.Basic
import ChatCommand.Grammar.Filters
import ChatCommand.Grammar.Joining
import ChatCommand.Grammar.Rule
import ChatCommand.Grammar.Signature
import ChatCommand.Grammar.Standard
import ChatCommand.Grammar.Things
import ChatCommand.Grammar.Times
import ChatCommand.Main
import ChatCommand.Phrase.Basic
import ChatCommand.Phrase.Words
import ChatCommand.Proofs.Arithmetic.Brackets
import ChatCommand.Proofs.Arithmetic.Breaking
import ChatCommand.Proofs.Arithmetic.Contexts
import ChatCommand.Proofs.Arithmetic.Fillings
import ChatCommand.Proofs.Arithmetic.Formula
import ChatCommand.Proofs.Arithmetic.Fusing
import ChatCommand.Proofs.Arithmetic.Layout
import ChatCommand.Proofs.Arithmetic.NumberWords
import ChatCommand.Proofs.Arithmetic.Numeral
import ChatCommand.Proofs.Arithmetic.Outcome
import ChatCommand.Proofs.Arithmetic.Precedence
import ChatCommand.Proofs.Arithmetic.Replacement
import ChatCommand.Proofs.Arithmetic.Rewriting
import ChatCommand.Proofs.Arithmetic.Spelling
import ChatCommand.Proofs.Console.Files
import ChatCommand.Proofs.Console.Sessions
import ChatCommand.Proofs.Data.Datum
import ChatCommand.Proofs.Data.Json
import ChatCommand.Proofs.Data.MessagePack
import ChatCommand.Proofs.Data.Values
import ChatCommand.Proofs.Decimal.Whole
import ChatCommand.Proofs.Grammar.Assignment
import ChatCommand.Proofs.Grammar.Entities
import ChatCommand.Proofs.Grammar.Gathering
import ChatCommand.Proofs.Grammar.Outcomes
import ChatCommand.Proofs.Grammar.Registration
import ChatCommand.Proofs.Grammar.Selection
import ChatCommand.Proofs.Grammar.Speaker
import ChatCommand.Proofs.Grammar.Typing
import ChatCommand.Proofs.Phrase.Batches
import ChatCommand.Proofs.Phrase.Contents
import ChatCommand.Proofs.Phrase.Distinct
import ChatCommand.Proofs.Phrase.Ranking
import ChatCommand.Proofs.Phrase.Rejoining
import ChatCommand.Proofs.Phrase.Scanning
import ChatCommand.Proofs.Recognition.Arguments
import ChatCommand.Proofs.Recognition.Budget
import ChatCommand.Proofs.Recognition.CallingWords
import ChatCommand.Proofs.Recognition.Calls
import ChatCommand.Proofs.Recognition.Extraction
import ChatCommand.Proofs.Recognition.FullNames
import ChatCommand.Proofs.Recognition.Independence
import ChatCommand.Proofs.Recognition.Methods
import ChatCommand.Proofs.Recognition.Minima
import ChatCommand.Proofs.Recognition.Origin
import ChatCommand.Proofs.Recognition.Primary
import ChatCommand.Proofs.Recognition.Ranked
import ChatCommand.Proofs.Recognition.Readings
import ChatCommand.Proofs.Recognition.Telling
import ChatCommand.Proofs.Recognition.Thresholds
import ChatCommand.Proofs.Recognition.Timing
import ChatCommand.Proofs.Recognition.Typing
import ChatCommand.Proofs.Regex.Fragments
import ChatCommand.Proofs.Regex.Language
import ChatCommand.Proofs.Regex.Ways
import ChatCommand.Proofs.Roster.Records
import ChatCommand.Proofs.Roster.Snapshot
import ChatCommand.Proofs.Sentence.Blocks
import ChatCommand.Proofs.Sentence.Confidence
import ChatCommand.Proofs.Sentence.Cutoff
import ChatCommand.Proofs.Sentence.Decided
import ChatCommand.Proofs.Sentence.Focus
import ChatCommand.Proofs.Sentence.History
import ChatCommand.Proofs.Sentence.Readings
import ChatCommand.Proofs.Sentence.Redexes
import ChatCommand.Proofs.Sentence.Related
import ChatCommand.Proofs.Sentence.Steps
import ChatCommand.Proofs.Sentence.Texts
import ChatCommand.Proofs.Sentence.TokenInvariant
import ChatCommand.Proofs.Sentence.Windows
import ChatCommand.Proofs.Similarity.Agreement
import ChatCommand.Proofs.Similarity.EditDistance
import ChatCommand.Proofs.Similarity.Exact
import ChatCommand.Proofs.Similarity.LastWord
import ChatCommand.Proofs.Similarity.Percent
import ChatCommand.Proofs.Similarity.Plurals
import ChatCommand.Proofs.Text.Ends
import ChatCommand.Proofs.Text.Lowercase
import ChatCommand.Proofs.Time.Agreement
import ChatCommand.Proofs.Time.Ahead
import ChatCommand.Proofs.Time.Calendar
import ChatCommand.Proofs.Time.Clock
import ChatCommand.Proofs.Time.Durations
import ChatCommand.Proofs.Time.Earliest
import ChatCommand.Proofs.Time.Moving
import ChatCommand.Proofs.Time.Sums
import ChatCommand.Proofs.Time.Timestamp
import ChatCommand.Proofs.Time.Together
import ChatCommand.Proofs.Token.Equivalence
import ChatCommand.Proofs.Token.Typing
import ChatCommand.Proofs.Vocabulary.Documents
import ChatCommand.Proofs.Vocabulary.Entries
import ChatCommand.Proofs.Vocabulary.Expressions
import ChatCommand.Recognition.Commands
import ChatCommand.Recognition.Config
import ChatCommand.Recognition.Match
import ChatCommand.Recognition.Names
import ChatCommand.Recognition.Parser
import ChatCommand.Regex.Assembly
import ChatCommand.Regex.Automaton
import ChatCommand.Regex.Basic
import ChatCommand.Regex.CharSet
import ChatCommand.Regex.Class
import ChatCommand.Regex.Match
import ChatCommand.Regex.Reader
import ChatCommand.Roster.Demo
import ChatCommand.Roster.Entity
import ChatCommand.Roster.Snapshot
import ChatCommand.Roster.State
import ChatCommand.Score
import ChatCommand.Sentence.Basic
import ChatCommand.Sentence.Context
import ChatCommand.Sentence.Merging
import ChatCommand.Sentence.Parse
import ChatCommand.Sentence.Reduction
import ChatCommand.Sentence.Repetition
import ChatCommand.Similarity.EditDistance
import ChatCommand.Similarity.Text
import ChatCommand.Text.Blank
import ChatCommand.Text.Digit
import ChatCommand.Text.Letter
import ChatCommand.Text.LetterCase
import ChatCommand.Text.Lines
import ChatCommand.Text.Lowercase
import ChatCommand.Text.Named
import ChatCommand.Text.Quoted
import ChatCommand.Text.RangeTable
import ChatCommand.Text.Visibility
import ChatCommand.Time.Calendar
import ChatCommand.Time.Instant
import ChatCommand.Time.Pattern
import ChatCommand.Time.Record
import ChatCommand.Time.Resolution
import ChatCommand.Time.Timestamp
import ChatCommand.Token.Basic
import ChatCommand.Token.Class
import ChatCommand.Token.Variant
import ChatCommand.Vocabulary.Builtin
import ChatCommand.Vocabulary.Catalog
import ChatCommand.Vocabulary.Family
import ChatCommand.Vocabulary.Reading
