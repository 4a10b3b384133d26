import UniRil.Lib.Lines
import UniRil.Lib.Runs
import UniRil.Lib.StateRules
import UniRil.CString
import UniRil.AtTok
import UniRil.Readline.Code
import UniRil.Readline.Spec
import UniRil.Readline.Proofs
import UniRil.Readline.Prompt
import UniRil.Readline.Framing
import UniRil.Command.Code
import UniRil.Command.Frozen
import UniRil.Command.Matching
import UniRil.RequestThreads.Code
import UniRil.RequestThreads.Station
import UniRil.RequestThreads.Progress
import UniRil.RequestThreads.Dispatch
import UniRil.ThreadPool
import UniRil.Data.State
import UniRil.Data.Slots
import UniRil.Data.Context
import UniRil.Data.Activation
import UniRil.Data.Setup
import UniRil.Data.Requests
import UniRil.Data.Frames
import UniRil.Data.Ownership
import UniRil.Data.Rounds
import UniRil.Data.ErrorHandling
import UniRil.Data.Teardown
import UniRil.Data.Addresses
import UniRil.Data.Established
import UniRil.Lib.Ring
import UniRil.Lib.FailRules
import UniRil.Hex
import UniRil.Data.Waiting
import UniRil.Data.Moves
import UniRil.Data.Calls
import UniRil.Data.Mapping
import UniRil.Data.Flags
import UniRil.Data.Dispatch
import UniRil.Data.Steps
import UniRil.Data.Answered
import UniRil.Stk.Parser
import UniRil.Stk.RoundTrip
import UniRil.Stk.Contexts
import UniRil.Stk.ContextRing
import UniRil.Stk.Bip
import UniRil.Stk.Client
import UniRil.Stk.Channels
import UniRil.Stk.Sessions
import UniRil.Stk.Answers
import UniRil.Stk.Receive
import UniRil.Stk.Send
import UniRil.Sms.Warning
import UniRil.Stk.Bounds
import UniRil.AsyncCmd.Code
import UniRil.AsyncCmd.Lists
import UniRil.AsyncCmd.Operations
import UniRil.AsyncCmd.Lifetime
import UniRil.Decimal
import UniRil.Sms.Broadcast
import UniRil.Lib.Programs
import UniRil.Network.Code
import UniRil.Network.Machine
import UniRil.Network.Locks
import UniRil.Network.Settled
import UniRil.Network.Course
import UniRil.Network.Outcome
import UniRil.Network.Serial
import UniRil.Network.Barrier
import UniRil.RequestThreads.Channels
import UniRil.RequestThreads.Owners
import UniRil.Sim.CardStatus
import UniRil.Sim.BusyPoll
import UniRil.Libril.WakeLock
import UniRil.Libril.Tokens
import UniRil.Libril.SapQueue
import UniRil.Network.SignalProcess
import UniRil.Network.OperatorNames
import UniRil.Sim.Ownership
import UniRil.Data.Restored
import UniRil.Sim.Authentication
import UniRil.Sim.Answered
import UniRil.Sim.PinEntered
import UniRil.Libril.TimersInOrder
import UniRil.Libril.ReturnStatus
import UniRil.RadioSwitch
import UniRil.Sim.LongReads
import UniRil.Sim.Fcp
import UniRil.Sim.Templates
import UniRil.Call.VideoCall
import UniRil.Call.DtmfList
import UniRil.Misc.VsimSocket
import UniRil.Misc.Requests
import UniRil.Misc.Answered
import UniRil.Call.CurrentCalls
import UniRil.Call.Requests
import UniRil.Call.Answered
import UniRil.Properties
import UniRil.Sim.PinProperty
import UniRil.Lib.Base64
import UniRil.Sim.AuthBase64
import UniRil.Sim.AuthRoundTrip
import UniRil.Sim.ChallengeReads
import UniRil.Sim.ApduAnswers
import UniRil.Sim.OpenChannel
import UniRil.Sim.WhiteList
import UniRil.NetworkRequests.NetworkList
import UniRil.NetworkRequests.Operator
import UniRil.NetworkRequests.Fields
import UniRil.NetworkRequests.CellsDecoded
import UniRil.NetworkRequests.NetworkScan
import UniRil.NetworkRequests.ScanRequest
import UniRil.NetworkRequests.SignalValues
import UniRil.NetworkRequests.Registration
import UniRil.Handlers.Commands
import UniRil.Call.Tokens
import UniRil.Call.EccList
import UniRil.Call.EmergencyRedial
import UniRil.Call.EccNetworkList
import UniRil.Lib.Alike
import UniRil.Call.CallEntries
import UniRil.Call.SwitchMultiCall
import UniRil.Call.Dsci
import UniRil.AsyncCmd.Endings
import UniRil.AsyncCmd.Blocks
import UniRil.AsyncCmd.FreedOnce
import UniRil.Misc.VsimGrace
import UniRil.Lib.Truncate
import UniRil.Divril.Code
import UniRil.Divril.Answers
import UniRil.Divril.Relay
import UniRil.Data.Cgdcont
import UniRil.Libril.RecordStream
import UniRil.Command.Rejection
import UniRil.Data.PdnTable
import UniRil.Data.CallList
import UniRil.Data.CgdcontRead
import UniRil.Stk.Headers
import UniRil.AtTok.Fields
import UniRil.AtTok.Numerals
import UniRil.Lib.Walks
import UniRil.Stk.Elements
import UniRil.Stk.AccessPointName
import UniRil.Stk.ElementBuffers
import UniRil.Stk.Confirmation
import UniRil.Stk.Decoding
import UniRil.Stk.CommandType
import UniRil.Stk.ContextByCid
import UniRil.Stk.ModemReset
import UniRil.Data.ReadIPAddr
import UniRil.NetworkRequests.FindInBuf
import UniRil.Sms.ImsRetry
import UniRil.Lib.Reused
import UniRil.Ss.CallForward
import UniRil.Ss.Ussd
import UniRil.Lib.TwoRuns
import UniRil.Data.OneSim
import UniRil.Data.TwoRuns
import UniRil.NetworkRequests.Answered
import UniRil.Sms.Answered
import UniRil.Sms.SmscAddress
import UniRil.Ss.Answered
import UniRil.Stk.Delivery
import UniRil.Stk.Requests
import UniRil.Libril.MemorySettled
import UniRil.Dispatch.Unsolicited
import UniRil.Stk.Responses
