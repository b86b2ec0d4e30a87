import CommandShell.Builtin
import CommandShell.CommandLine
import CommandShell.Completion
import CommandShell.FrontEnd
import CommandShell.LogOutput
import CommandShell.Main
import CommandShell.Routing
import CommandShell.Screen
import CommandShell.Session
import CommandShell.Settings.Load
import CommandShell.Setup
import CommandShell.Token
import CommandShell.Proofs.Lexing
import CommandShell.Proofs.Peeling
import CommandShell.Proofs.Cutting
import CommandShell.Proofs.Expansion
import CommandShell.Proofs.Change
import CommandShell.Proofs.Run
import CommandShell.Proofs.Depth
import CommandShell.Proofs.Nesting
import CommandShell.Proofs.Termination
import CommandShell.Proofs.Agreement
import CommandShell.Proofs.Replay
import CommandShell.Proofs.Reachable
import CommandShell.Proofs.Binding
import CommandShell.Proofs.AliasCall
import CommandShell.Proofs.Quoting
import CommandShell.Proofs.Adding
import CommandShell.Proofs.Registration
import CommandShell.Proofs.FailedAdds
import CommandShell.Proofs.Guard
import CommandShell.Proofs.Replies
import CommandShell.Proofs.FailStop
import CommandShell.Proofs.Confined
import CommandShell.Proofs.Told
import CommandShell.Proofs.History
import CommandShell.Proofs.Brackets
import CommandShell.Proofs.FrontEnds
import CommandShell.Proofs.Arguments
import CommandShell.Proofs.Segments
import CommandShell.Proofs.Respelling
import CommandShell.Proofs.WellFormed
import CommandShell.Proofs.Layering
import CommandShell.Proofs.AliasLines
import CommandShell.Proofs.MacroLines
import CommandShell.Proofs.Completing
import CommandShell.Proofs.Accepting
import CommandShell.Proofs.Loading
