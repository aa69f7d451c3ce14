import MonkeyTokens.CommandLine.Argument
import MonkeyTokens.CommandLine.Arguments
import MonkeyTokens.CommandLine.Environment
import MonkeyTokens.CommandLine.Help
import MonkeyTokens.CommandLine.Message
import MonkeyTokens.Cursor
import MonkeyTokens.Directory
import MonkeyTokens.Failure
import MonkeyTokens.Lexeme
import MonkeyTokens.Listing
import MonkeyTokens.Log.Directive
import MonkeyTokens.Log.Filter
import MonkeyTokens.Log.Note
import MonkeyTokens.Main
import MonkeyTokens.Output
import MonkeyTokens.Reading
import MonkeyTokens.Run
import MonkeyTokens.Scanner
import MonkeyTokens.Session
import MonkeyTokens.SystemError
import MonkeyTokens.Text.Alphanumeric
import MonkeyTokens.Text.Bytes
import MonkeyTokens.Text.Cluster
import MonkeyTokens.Text.Cluster.Properties
import MonkeyTokens.Text.Line
import MonkeyTokens.Text.Pattern
import MonkeyTokens.Text.Pattern.Escape
import MonkeyTokens.Text.Pattern.Nesting
import MonkeyTokens.Text.Pattern.Switches
import MonkeyTokens.Text.Plain
import MonkeyTokens.Text.Quoted
import MonkeyTokens.Text.Ranges
import MonkeyTokens.Text.Unprintable
import MonkeyTokens.Token
import MonkeyTokens.Proofs.Layout
import MonkeyTokens.Proofs.RoundTrip
import MonkeyTokens.Proofs.Calls
import MonkeyTokens.Proofs.Tiling
import MonkeyTokens.Proofs.Strictness
import MonkeyTokens.Proofs.Joining
import MonkeyTokens.Proofs.Place
import MonkeyTokens.Proofs.Lines
import MonkeyTokens.Proofs.Interleaving
import MonkeyTokens.Proofs.Appending
import MonkeyTokens.Proofs.Dashes
import MonkeyTokens.Proofs.Quoting
import MonkeyTokens.Proofs.Listings
import MonkeyTokens.Proofs.Input
import MonkeyTokens.Proofs.Runs
import MonkeyTokens.Proofs.Sessions
import MonkeyTokens.Proofs.LineByLine
import MonkeyTokens.Proofs.Finding
import MonkeyTokens.Proofs.Alphabet
import MonkeyTokens.Proofs.MaximalRuns
import MonkeyTokens.Proofs.Pairing
import MonkeyTokens.Proofs.Coordinates
import MonkeyTokens.Proofs.Words
import MonkeyTokens.Proofs.Restarting
import MonkeyTokens.Proofs.Escaping
import MonkeyTokens.Proofs.ErrorTexts
import MonkeyTokens.Proofs.Verbatim
import MonkeyTokens.Proofs.BlankLines
import MonkeyTokens.Proofs.Scanning
import MonkeyTokens.Proofs.Looping
