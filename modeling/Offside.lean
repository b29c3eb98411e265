import Offside.Text.CodeRanges
import Offside.Text.Blank
import Offside.Text.Unprintable
import Offside.Text.Extending
import Offside.Text.Width
import Offside.Text.Column
import Offside.Text.Quoted
import Offside.Source.Span
import Offside.Source.Position
import Offside.Source.Line
import Offside.Token.Basic
import Offside.Token.Fault
import Offside.Token.Gap
import Offside.Token.Reading
import Offside.Token.Lexer
import Offside.Scope
import Offside.Draft
import Offside.Target
import Offside.Scheme.Demand
import Offside.Error
import Offside.Log.Record
import Offside.Log.Event
import Offside.Scheme.Symbol
import Offside.Scheme.Predict
import Offside.Session.Basic
import Offside.Session.Step
import Offside.Session.Measure
import Offside.Session.Run
import Offside.Diagnostic.Cell
import Offside.Diagnostic.Label
import Offside.Diagnostic.Bracket
import Offside.Diagnostic.Frame
import Offside.Session.Program
import Offside.FileTree
import Offside.Sink
import Offside.Compile
import Offside.Token.Listing
import Offside.CommandLine.Invocation
import Offside.CommandLine.Arguments
import Offside.CommandLine.Plan
import Offside.Main
import Offside.Proofs.Grammar.Word
import Offside.Proofs.Grammar.Tree
import Offside.Proofs.Grammar.Follow
import Offside.Proofs.Grammar.Resolved
import Offside.Proofs.Grammar.Unique
import Offside.Proofs.Grammar.Apart
import Offside.Proofs.Grammar.Blank
import Offside.Proofs.Lexing.Reading
import Offside.Proofs.Lexing.Tokens
import Offside.Proofs.Lexing.Spelling
import Offside.Proofs.Lexing.Lexeme
import Offside.Proofs.Lexing.Longest
import Offside.Proofs.Lexing.Progress
import Offside.Proofs.Lexing.Blamed
import Offside.Proofs.Lexing.Lossless
import Offside.Proofs.Lexing.Faulty
import Offside.Proofs.Session.Window
import Offside.Proofs.Session.Moves
import Offside.Proofs.Session.Covers
import Offside.Proofs.Session.Predict
import Offside.Proofs.Session.Sound
import Offside.Proofs.Session.Awaits
import Offside.Proofs.Session.Complete
import Offside.Proofs.Session.Accepts
import Offside.Proofs.Session.Viable
import Offside.Proofs.Session.FirstError
import Offside.Proofs.Session.Calls
import Offside.Proofs.Session.Growth
import Offside.Proofs.Session.Balance
import Offside.Proofs.Session.Lockstep
import Offside.Proofs.Session.Resumed
import Offside.Proofs.Session.Targets
import Offside.Proofs.Session.Spacing
import Offside.Proofs.Render.Draw
import Offside.Proofs.Render.Layout
import Offside.Proofs.Render.Code
import Offside.Proofs.Session.Monotone
import Offside.Proofs.Render.Inline
import Offside.Proofs.Render.Lines
import Offside.Proofs.Render.Recover
import Offside.Proofs.Render.Nesting
import Offside.Proofs.Render.Injective
import Offside.Proofs.Render.Blocks
import Offside.Proofs.Render.Margins
import Offside.Proofs.Python.Lexical
import Offside.Proofs.Python.Relexed
import Offside.Proofs.Python.Verbatim
import Offside.Proofs.Sink.Files
import Offside.Proofs.Sink.Handover
import Offside.Proofs.CommandLine.Understood
import Offside.Proofs.CommandLine.Effects
import Offside.Proofs.Session.Answered
import Offside.Proofs.Grammar.Outline
import Offside.Proofs.Grammar.Declaring
import Offside.Proofs.Session.Asked
import Offside.Proofs.Session.Stopping
import Offside.Proofs.Diagnostic.Shown
import Offside.Proofs.Diagnostic.Places
import Offside.Proofs.Session.Told
import Offside.Proofs.Session.Tracks
import Offside.Proofs.Session.Account
import Offside.Proofs.Session.Logged
import Offside.Proofs.Session.Declared
import Offside.Proofs.Source.Coordinates
import Offside.Proofs.Lexing.Rows
import Offside.Proofs.Draft.Operations
import Offside.Proofs.Listing.Quoted
import Offside.Proofs.Listing.Reread
