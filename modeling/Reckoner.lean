import Reckoner.Decimal
import Reckoner.Binary64.Rounding
import Reckoner.Binary64.Shortest
import Reckoner.Binary64.Remainder
import Reckoner.Number.Basic
import Reckoner.Number.Text
import Reckoner.Number.Arithmetic
import Reckoner.Operator
import Reckoner.Token
import Reckoner.Failure
import Reckoner.Lexeme
import Reckoner.Token.Scan
import Reckoner.Program
import Reckoner.Program.Parse
import Reckoner.Tree.Item
import Reckoner.Tree.ParseTree
import Reckoner.Tree.Dot
import Reckoner.NameMap
import Reckoner.Scope
import Reckoner.Instruction
import Reckoner.Machine
import Reckoner.Machine.Steps
import Reckoner.Compilation
import Reckoner.Journal
import Reckoner.Text.Ranges
import Reckoner.Text.Unprintable
import Reckoner.Text.ExtendingMark
import Reckoner.Text.DefaultIgnorable
import Reckoner.Text.Quoted
import Reckoner.Text.ControlSequence
import Reckoner.Dump
import Reckoner.Dump.Program
import Reckoner.Dump.Failure
import Reckoner.CommandLine.Request
import Reckoner.CommandLine.Response
import Reckoner.Main
import Reckoner.Proofs.Diagnosis
import Reckoner.Proofs.LongestMatch
import Reckoner.Proofs.Layout
import Reckoner.Proofs.Lockstep
import Reckoner.Proofs.Definedness
import Reckoner.Proofs.DeclaredVariables
import Reckoner.Proofs.Replay
import Reckoner.Proofs.Causes
import Reckoner.Proofs.Frame
import Reckoner.Proofs.OutputText
import Reckoner.Proofs.Sections
import Reckoner.Proofs.Agreement
import Reckoner.Proofs.Concatenation
import Reckoner.Proofs.Composition
import Reckoner.Proofs.Correspondence
import Reckoner.Proofs.Renaming
import Reckoner.Proofs.SourceLines
import Reckoner.Proofs.Batches
import Reckoner.Proofs.Emitters
import Reckoner.Proofs.PreOrder
import Reckoner.Proofs.Spelling
import Reckoner.Proofs.IntegerSteps
import Reckoner.Proofs.NumberText
import Reckoner.Proofs.DotReader
import Reckoner.Proofs.TreeContent
import Reckoner.Proofs.Dependence
import Reckoner.Proofs.Folds
import Reckoner.Proofs.Zeros
import Reckoner.Proofs.StepPaths
import Reckoner.Proofs.LegalDeclarations
import Reckoner.Proofs.Temporaries
import Reckoner.Proofs.Transparency
import Reckoner.Proofs.FailureOrder
import Reckoner.Proofs.Noninterference
import Reckoner.Proofs.EndOfInput
import Reckoner.Proofs.Numerals
