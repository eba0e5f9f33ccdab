import RemoteConsole.CommandLine.Process
import RemoteConsole.Connection.Journal
import RemoteConsole.Connection.Pipeline
import RemoteConsole.Connection.Teardown
import RemoteConsole.Main
import RemoteConsole.Proofs.Address.Port
import RemoteConsole.Proofs.Client.Attempt
import RemoteConsole.Proofs.Client.Checks
import RemoteConsole.Proofs.Client.Desk
import RemoteConsole.Proofs.Client.Generations
import RemoteConsole.Proofs.Client.Ids
import RemoteConsole.Proofs.Client.Leftovers
import RemoteConsole.Proofs.Client.Login
import RemoteConsole.Proofs.Client.Move
import RemoteConsole.Proofs.Client.Notices
import RemoteConsole.Proofs.Client.Rounds
import RemoteConsole.Proofs.Client.Shift
import RemoteConsole.Proofs.Client.Sound
import RemoteConsole.Proofs.Client.Standing
import RemoteConsole.Proofs.Client.Stream
import RemoteConsole.Proofs.Client.Trials
import RemoteConsole.Proofs.Client.Unattended
import RemoteConsole.Proofs.Client.Unsent
import RemoteConsole.Proofs.Client.Verdicts
import RemoteConsole.Proofs.Client.Vigil
import RemoteConsole.Proofs.Client.Waiting
import RemoteConsole.Proofs.CommandLine.Admission
import RemoteConsole.Proofs.CommandLine.Loop
import RemoteConsole.Proofs.Connection.Audience
import RemoteConsole.Proofs.Connection.Authentication
import RemoteConsole.Proofs.Connection.Closing
import RemoteConsole.Proofs.Connection.Delivery
import RemoteConsole.Proofs.Connection.Entries
import RemoteConsole.Proofs.Connection.Reassembly
import RemoteConsole.Proofs.Connection.Tasks
import RemoteConsole.Proofs.Connection.Undersized
import RemoteConsole.Proofs.Frame.Buffer
import RemoteConsole.Proofs.Frame.Conservation
import RemoteConsole.Proofs.Frame.Limit
import RemoteConsole.Proofs.Frame.Reading
import RemoteConsole.Proofs.Frame.Verdict
import RemoteConsole.Proofs.Listener.Chronicle
import RemoteConsole.Proofs.Packet.Body
import RemoteConsole.Proofs.Packet.Format
import RemoteConsole.Proofs.Query.Challenge
import RemoteConsole.Proofs.Query.Cursor
import RemoteConsole.Proofs.Query.Handshake
import RemoteConsole.Proofs.Query.Payload
import RemoteConsole.Proofs.Query.Status
import RemoteConsole.Proofs.Rehearsal
import RemoteConsole.Proofs.Request.Fallback
import RemoteConsole.Proofs.Request.Isolation
import RemoteConsole.Proofs.Request.Ledger
import RemoteConsole.Proofs.Request.Queue
import RemoteConsole.Proofs.Request.Seniority
import RemoteConsole.Proofs.Request.Turns
import RemoteConsole.Proofs.Request.Withdrawal
import RemoteConsole.Rehearsal.Play
import RemoteConsole.Rehearsal.Queries
import RemoteConsole.Rehearsal.Terminal
