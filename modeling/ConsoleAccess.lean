import ConsoleAccess.Main
import ConsoleAccess.Policy.Scopes
import ConsoleAccess.Transfer.Run
import ConsoleAccess.Proofs.Policy.Matching
import ConsoleAccess.Proofs.Policy.Decision
import ConsoleAccess.Proofs.Policy.Question
import ConsoleAccess.Proofs.Policy.OwnRequest
import ConsoleAccess.Proofs.Client.CachedSession
import ConsoleAccess.Proofs.Policy.Monotonicity
import ConsoleAccess.Proofs.Policy.PayloadSession
import ConsoleAccess.Proofs.Policy.Containment
import ConsoleAccess.Proofs.Policy.WildcardGrants
import ConsoleAccess.Proofs.Transfer.History
import ConsoleAccess.Proofs.Transfer.OrderedList
import ConsoleAccess.Proofs.Transfer.TaskLives
import ConsoleAccess.Proofs.Client.Secrecy
import ConsoleAccess.Proofs.Command.Lines
import ConsoleAccess.Proofs.Command.Offline
import ConsoleAccess.Proofs.Auth.SharedFlow
import ConsoleAccess.Proofs.Policy.PayloadEntries
import ConsoleAccess.Proofs.Transfer.SplitSpawns
import ConsoleAccess.Proofs.Transfer.SpawnRaces
import ConsoleAccess.Proofs.Policy.GatedDisplay
import ConsoleAccess.Proofs.Policy.AppendedGrants
import ConsoleAccess.Proofs.Policy.GrantScopes
import ConsoleAccess.Proofs.Text.Order
import ConsoleAccess.Proofs.Policy.ListedGrants
import ConsoleAccess.Proofs.Policy.InheritedDenies
import ConsoleAccess.Proofs.Policy.WildcardScopes
import ConsoleAccess.Proofs.Policy.RawStatements
import ConsoleAccess.Proofs.Policy.ResourceUnion
import ConsoleAccess.Proofs.Policy.PayloadReading
import ConsoleAccess.Proofs.Auth.InvalidSession
import ConsoleAccess.Proofs.Command.WhoamiTrace
import ConsoleAccess.Proofs.Policy.PrintedPatterns
import ConsoleAccess.Proofs.Client.LoginBody
import ConsoleAccess.Proofs.Command.DisabledLine
import ConsoleAccess.Proofs.Command.SessionListing
import ConsoleAccess.Proofs.Policy.ByteMatching
