import MonkeyTokens.Main
import MonkeyTokens.Prompt.Highlight
import MonkeyTokens.Token.Cursor
import MonkeyTokens.Proofs.Text.Slice
import MonkeyTokens.Proofs.Token.Grammar
import MonkeyTokens.Proofs.Token.Munch
import MonkeyTokens.Proofs.Token.Scanned
import MonkeyTokens.Proofs.Token.Stream
import MonkeyTokens.Proofs.Token.Tiling
import MonkeyTokens.Proofs.Token.MaximalMunch
import MonkeyTokens.Proofs.Token.Concatenation
import MonkeyTokens.Proofs.Token.Layout
import MonkeyTokens.Proofs.Token.ListCursor
import MonkeyTokens.Proofs.Token.SourceCursor
import MonkeyTokens.Proofs.Token.Progress
import MonkeyTokens.Proofs.Program.Console
import MonkeyTokens.Proofs.Text.Bytes
import MonkeyTokens.Proofs.Token.Alphabet
import MonkeyTokens.Proofs.Program.Legality
import MonkeyTokens.Proofs.History.Store
import MonkeyTokens.Proofs.Program.Sessions
import MonkeyTokens.Proofs.History.Contents
import MonkeyTokens.Proofs.History.File
import MonkeyTokens.Proofs.History.Restart
import MonkeyTokens.Proofs.Session.Remembered
import MonkeyTokens.Proofs.Program.Modes
import MonkeyTokens.Proofs.Prompt.WordStart
import MonkeyTokens.Proofs.Text.Ansi
import MonkeyTokens.Proofs.Token.Catalog
import MonkeyTokens.Proofs.Dump.Lines
import MonkeyTokens.Proofs.Dump.Bounded
import MonkeyTokens.Proofs.Prompt.Coloring
import MonkeyTokens.Proofs.Prompt.Balance
import MonkeyTokens.Proofs.Prompt.Command
import MonkeyTokens.Proofs.Session.Action
import MonkeyTokens.Proofs.Prompt.Agreement
import MonkeyTokens.Proofs.Prompt.Offers
