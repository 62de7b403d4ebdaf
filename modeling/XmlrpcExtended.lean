import XmlrpcExtended.PythonText
import XmlrpcExtended.TransitionRuns
import XmlrpcExtended.LockedObjects
import XmlrpcExtended.SlotTotals
import XmlrpcExtended.Stations
import XmlrpcExtended.ServerStats
import XmlrpcExtended.TrackerCalls
import XmlrpcExtended.ServerConfig
import XmlrpcExtended.ServerMachine
import XmlrpcExtended.ServerSteps
import XmlrpcExtended.ServerBooks
import XmlrpcExtended.ServerCapacity
import XmlrpcExtended.ServerShares
import XmlrpcExtended.ServerGauges
import XmlrpcExtended.ServerArrivals
import XmlrpcExtended.ServerClose
import XmlrpcExtended.ServerLocking
import XmlrpcExtended.ServerProgress
import XmlrpcExtended.ServerRefinement
import XmlrpcExtended.PythonCalls
import XmlrpcExtended.Dispatch
import XmlrpcExtended.DispatchAgreement
import XmlrpcExtended.Marshaller
import XmlrpcExtended.MarshaledDispatch
import XmlrpcExtended.MarshaledAnswers
import XmlrpcExtended.Multicall
import XmlrpcExtended.MulticallAgreement
import XmlrpcExtended.AsgiLifecycle
import XmlrpcExtended.AsgiShutdown
import XmlrpcExtended.AsgiWorkers
import XmlrpcExtended.ClientTransport
import XmlrpcExtended.ClientCalls
import XmlrpcExtended.ClientAgreement
import XmlrpcExtended.PythonInt
import XmlrpcExtended.PythonNumerals
import XmlrpcExtended.RequestGate
import XmlrpcExtended.AsgiHttp
import XmlrpcExtended.XmlReader
import XmlrpcExtended.XmlDeclaration
import XmlrpcExtended.Unmarshaller
import XmlrpcExtended.RejectResponse
import XmlrpcExtended.FaultResponse
import XmlrpcExtended.AsgiRequests
import XmlrpcExtended.AsgiConnections
import XmlrpcExtended.AsgiConversations
import XmlrpcExtended.AsgiProgress
import XmlrpcExtended.UnnamedCalls
import XmlrpcExtended.Charsets
import XmlrpcExtended.ResponseCharset
import XmlrpcExtended.XmlReferences
import XmlrpcExtended.ReadableFaults
import XmlrpcExtended.GateHeaders
import XmlrpcExtended.PythonClasses
import XmlrpcExtended.HandlerClasses
import XmlrpcExtended.PathWhitelist
import XmlrpcExtended.ClientBlocks
import XmlrpcExtended.SpawnWorkers
import XmlrpcExtended.XmlWriting
import XmlrpcExtended.ValueReading
import XmlrpcExtended.CallDocuments
import XmlrpcExtended.ThreadedDispatch
import XmlrpcExtended.RemoteCalls
import XmlrpcExtended.ThreadedCalls
