import CommandShell.Abbreviations
import CommandShell.App
import CommandShell.Builtin
import CommandShell.CloseMatch
import CommandShell.Completion.Engine
import CommandShell.Completion.Flags
import CommandShell.Completion.Programs
import CommandShell.CursorWord
import CommandShell.Drawing.Colour
import CommandShell.Drawing.Constant
import CommandShell.Drawing.Grid
import CommandShell.Drawing.Line
import CommandShell.Drawing.Markup
import CommandShell.Drawing.Message
import CommandShell.Drawing.Panel
import CommandShell.Drawing.Row
import CommandShell.Drawing.Style
import CommandShell.Drawing.StyleNames
import CommandShell.Drawing.StyledText
import CommandShell.Drawing.SymbolNames
import CommandShell.Drawing.Symbols
import CommandShell.Drawing.Tree
import CommandShell.Editor
import CommandShell.Execute
import CommandShell.Fault
import CommandShell.Files.Path
import CommandShell.Files.Tree
import CommandShell.Files.Walk
import CommandShell.Highlight
import CommandShell.History
import CommandShell.Job
import CommandShell.Journal
import CommandShell.Json.Basic
import CommandShell.Json.Display
import CommandShell.Json.Reader
import CommandShell.Json.Whole
import CommandShell.Json.Writer
import CommandShell.Key
import CommandShell.Keyboard
import CommandShell.LineBuffer
import CommandShell.Loop
import CommandShell.Main
import CommandShell.Notice
import CommandShell.Number.Binary64
import CommandShell.Options
import CommandShell.Pager
import CommandShell.Program
import CommandShell.Proofs.ActSteps
import CommandShell.Proofs.JobAccount
import CommandShell.Proofs.JobGrammar
import CommandShell.Proofs.JobWriting
import CommandShell.Proofs.KeyTurns
import CommandShell.Proofs.LineMarks
import CommandShell.Proofs.ScanSteps
import CommandShell.Proofs.TokenSpans
import CommandShell.Screen
import CommandShell.Session
import CommandShell.Settings
import CommandShell.Shell
import CommandShell.Table
import CommandShell.Terminal
import CommandShell.Text.Basic
import CommandShell.Text.Blank
import CommandShell.Text.Digit
import CommandShell.Text.Integer
import CommandShell.Text.Lines
import CommandShell.Text.Lowercase
import CommandShell.Text.Printable
import CommandShell.Text.Quoted
import CommandShell.Text.Ranges
import CommandShell.Text.Uppercase
import CommandShell.Text.Utf8
import CommandShell.Text.Width
import CommandShell.Token
import CommandShell.Word
import CommandShell.World
import CommandShell.Proofs.Likeness
import CommandShell.Proofs.Frames
import CommandShell.Proofs.LineRuns
import CommandShell.Proofs.LineAccount
import CommandShell.Proofs.KeyRuns
import CommandShell.Proofs.PagerWord
import CommandShell.Proofs.HistoryWalk
import CommandShell.Proofs.FolderWalks
import CommandShell.Proofs.SameWork
import CommandShell.Proofs.TypedLines
import CommandShell.Proofs.JoinedLines
import CommandShell.Proofs.LineSequence
import CommandShell.Proofs.Utf8Text
import CommandShell.Proofs.TextLines
import CommandShell.Proofs.HistoryRecords
import CommandShell.Proofs.FileWrites
import CommandShell.Proofs.HistoryRuns
import CommandShell.Proofs.HistoryTail
import CommandShell.Proofs.CommandWords
import CommandShell.Proofs.CommandLookups
import CommandShell.Proofs.SessionStart
import CommandShell.Proofs.TableKeys
import CommandShell.Proofs.JsonTexts
import CommandShell.Proofs.AbbreviationRuns
import CommandShell.Proofs.FileReads
import CommandShell.Proofs.HomePaths
import CommandShell.Proofs.RefusedCalls
import CommandShell.Proofs.FolderKeeping
import CommandShell.Proofs.FolderMoves
import CommandShell.Proofs.StandingFolders
import CommandShell.Proofs.FolderTracking
import CommandShell.Proofs.SheetCodes
import CommandShell.Proofs.DrawnText
import CommandShell.Proofs.CursorRow
import CommandShell.Proofs.SettingsLoad
import CommandShell.Proofs.CandidateSources
import CommandShell.Proofs.WordBefore
import CommandShell.Proofs.CompletionRoutes
import CommandShell.Proofs.NarrowedPager
import CommandShell.Proofs.AcceptedCandidates
import CommandShell.Proofs.PlainWords
import CommandShell.Proofs.AcceptedPaths
import CommandShell.Proofs.FlagRows
import CommandShell.Proofs.KeyStrokes
import CommandShell.Proofs.FlagLookups
import CommandShell.Proofs.FolderGrowth
import CommandShell.Proofs.FailedLookups
import CommandShell.Proofs.WorkFaults
import CommandShell.Proofs.EditorRanges
import CommandShell.Proofs.HistoryCursor
import CommandShell.Proofs.QuoteSigns
import CommandShell.Proofs.Respacing
import CommandShell.Proofs.ControlSequences
import CommandShell.Proofs.StartAttempts
import CommandShell.Proofs.SpanRanges
import CommandShell.Proofs.EntryPaths
import CommandShell.Proofs.ListedCommands
import CommandShell.Proofs.LineZipper
import CommandShell.Proofs.PagerWindow
import CommandShell.Proofs.StruckPages
import CommandShell.Proofs.OfferedCommands
import CommandShell.Proofs.HeldBytes
import CommandShell.Proofs.UnfinishedCharacters
import CommandShell.Proofs.TerminalReads
import CommandShell.Proofs.ShownFolders
import CommandShell.Proofs.Suggestions
import CommandShell.Proofs.SavedAbbreviations
import CommandShell.Proofs.RecordedLines
import CommandShell.Proofs.ShownText
import CommandShell.Proofs.ShownOutput
