import IndustrialGateway.PublicationGate
import IndustrialGateway.Outage
import IndustrialGateway.Delivery
import IndustrialGateway.TagIdentity
import IndustrialGateway.FailureReports
import IndustrialGateway.ModbusGrouping
import IndustrialGateway.ImportFailure
import IndustrialGateway.DeviceCsv
import IndustrialGateway.RuntimeRuns
import IndustrialGateway.RtuTraffic
import IndustrialGateway.TopicAgreement
import IndustrialGateway.TopicRace
import IndustrialGateway.RouteTransfer
import IndustrialGateway.PluginCsv
import IndustrialGateway.Coalescing
import IndustrialGateway.RuntimeEvents
import IndustrialGateway.SubscriptionLifecycle
import IndustrialGateway.SinkMessages
import IndustrialGateway.StatusTopic
import IndustrialGateway.MeasurementJson
import IndustrialGateway.SinkTransactions
import IndustrialGateway.TagClients
import IndustrialGateway.RefreshLoops
import IndustrialGateway.RunsApart
import IndustrialGateway.ResponderRuns
import IndustrialGateway.ModbusPlanning
import IndustrialGateway.RegisterCodec
import IndustrialGateway.RtuChecksum
import IndustrialGateway.RtuTrimming
import IndustrialGateway.RtuAgreement
import IndustrialGateway.RtuMatching
import IndustrialGateway.RuntimeRows
import IndustrialGateway.RtuGrammar
import IndustrialGateway.RouteSelection
import IndustrialGateway.ModbusDecoding
import IndustrialGateway.TopicRefresh
import IndustrialGateway.FlatPayload
import IndustrialGateway.Lib.Marks
import IndustrialGateway.StatusNotes
import IndustrialGateway.StatusCadence
import IndustrialGateway.PublisherRules
import IndustrialGateway.HeartbeatRuns
import IndustrialGateway.TagUpserts
import IndustrialGateway.ImportFrame
import IndustrialGateway.ClientIds
import IndustrialGateway.OpcUaModes
import IndustrialGateway.Logging
import IndustrialGateway.LoggerRuns
import IndustrialGateway.DeviceSaves
import IndustrialGateway.AutomaticTopics
import IndustrialGateway.MessageRuns
import IndustrialGateway.RegisterRelay
import IndustrialGateway.TagFile
import IndustrialGateway.WebApi
import IndustrialGateway.WebSessions
import IndustrialGateway.WebEdits
import IndustrialGateway.WebRuns
import IndustrialGateway.RtuProbe
import IndustrialGateway.Lib.Alarm
import IndustrialGateway.PublisherThread
import IndustrialGateway.ModbusFaults
