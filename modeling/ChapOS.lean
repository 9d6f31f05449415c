import ChapOS.ConsoleSheet
import ChapOS.PageTranslation
import ChapOS.ReadBounds
import ChapOS.FileStream
import ChapOS.ReadLaw
import ChapOS.DirectoryListing
import ChapOS.CommandWords
import ChapOS.ExecutableHeader
import ChapOS.LineDiscipline
import ChapOS.TerminalCopies
import ChapOS.DescriptorLifetimes
import ChapOS.ClockRate
import ChapOS.ClockWrites
import ChapOS.Modifiers
import ChapOS.Arguments
import ChapOS.VideoMapping
import ChapOS.ExitStatus
import ChapOS.SystemCallLinkage
import ChapOS.TerminalSwitching
import ChapOS.LaunchFailures
import ChapOS.ProgramImage
import ChapOS.CursorRuns
import ChapOS.LineEcho
import ChapOS.FormatStrings
import ChapOS.BlockRoutines
import ChapOS.BlockAddressing
import ChapOS.KeyboardLine
import ChapOS.Blinkers
import ChapOS.UserSupport
import ChapOS.UserSessions
import ChapOS.CatProgram
import ChapOS.ListProgram
import ChapOS.GrepProgram
import ChapOS.InterruptLinkage
import ChapOS.LibraryCalls
import ChapOS.InterruptTable
import ChapOS.ClockReads
import ChapOS.Lamps
import ChapOS.FishProgram
import ChapOS.FishAnimation
import ChapOS.ProgramCalls
import ChapOS.ShellProgram
import ChapOS.ShellSession
