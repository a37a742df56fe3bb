import ChessnutMove.Protocol.CommandEquality
import ChessnutMove.Protocol.PositionGrammar
import ChessnutMove.Protocol.ResponseGrammar
import ChessnutMove.Protocol.SquareCodec
import ChessnutMove.Protocol.Notation
import ChessnutMove.Protocol.LedCommands
import ChessnutMove.Transport.Delivery
import ChessnutMove.Transport.Btleplug
import ChessnutMove.Tokio.Spawn
import ChessnutMove.Tokio.Grammar
import ChessnutMove.Tokio.Broadcast
import ChessnutMove.Tokio.Serial
import ChessnutMove.Tokio.Timeouts
import ChessnutMove.Tokio.Board
import ChessnutMove.Tokio.Sessions
import ChessnutMove.Tokio.Verdict
import ChessnutMove.Tokio.Noninterference
import ChessnutMove.Library.BroadcastLog
import ChessnutMove.Tokio.Handle
import ChessnutMove.Tokio.Calls
import ChessnutMove.Tokio.Progress
import ChessnutMove.Tokio.Streams
import ChessnutMove.Tokio.Shutdown
import ChessnutMove.Tokio.Termination
import ChessnutMove.Tokio.Settling
import ChessnutMove.Library.Watch
import ChessnutMove.Tokio.Lifecycle
import ChessnutMove.Tokio.OnTransport
import ChessnutMove.Transport.PeripheralLog
import ChessnutMove.Tokio.EndToEnd
import ChessnutMove.Tokio.Exit
import ChessnutMove.Tokio.RealTime
import ChessnutMove.Library.FirstFault
import ChessnutMove.Protocol.Faults
import ChessnutMove.Library.Journal
import ChessnutMove.Clients.Programs
import ChessnutMove.Clients.Visits
import ChessnutMove.Clients.Returns
