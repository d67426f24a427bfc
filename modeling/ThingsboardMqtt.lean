import ThingsboardMqtt.Wapper.Reassembly
import ThingsboardMqtt.Ota.ChunkAnswers
import ThingsboardMqtt.Helper.RequestFates
import ThingsboardMqtt.Ota.CleanUp
import ThingsboardMqtt.Ota.ImageIntegrity
import ThingsboardMqtt.Ota.StateReports
import ThingsboardMqtt.Helper.ResponseTopics
import ThingsboardMqtt.Helper.OtaEntries
import ThingsboardMqtt.Helper.Correlation
import ThingsboardMqtt.Helper.StandingSubscriptions
import ThingsboardMqtt.Wapper.TopicBounds
import ThingsboardMqtt.Helper.KeyLists
import ThingsboardMqtt.Helper.Connections
import ThingsboardMqtt.Helper.DestroyedClient
import ThingsboardMqtt.Ota.RepeatedChunks
import ThingsboardMqtt.Ota.AttributeTypes
import ThingsboardMqtt.Wapper.TransportConfig
import ThingsboardMqtt.Helper.UpdateCallbacks
import ThingsboardMqtt.Extension.SharedHistories
import ThingsboardMqtt.Extension.SharedUpdates
import ThingsboardMqtt.Library.LiveBuffers
import ThingsboardMqtt.Helper.FailedRequests
import ThingsboardMqtt.Helper.PayloadCopies
import ThingsboardMqtt.Helper.ServerRpcEvents
import ThingsboardMqtt.Helper.ServerRpcAnswers
import ThingsboardMqtt.Helper.ProvisionAnswers
import ThingsboardMqtt.Helper.ProvisionOrder
import ThingsboardMqtt.Helper.KeyGroups
import ThingsboardMqtt.Helper.RequestJson
import ThingsboardMqtt.Helper.ConnectUrl
import ThingsboardMqtt.Wapper.Overlaps
import ThingsboardMqtt.Ota.Bookkeeping
import ThingsboardMqtt.Extension.SharedInitialValues
import ThingsboardMqtt.Ota.ChecksumComparison
import ThingsboardMqtt.Helper.UniqueIds
import ThingsboardMqtt.Helper.RequestIdRuns
import ThingsboardMqtt.Helper.UnreliableNetwork
import ThingsboardMqtt.Helper.Timeliness
import ThingsboardMqtt.Extension.ClientRestart
import ThingsboardMqtt.Helper.StoredConfigs
import ThingsboardMqtt.Helper.WireRuns
import ThingsboardMqtt.Helper.SubscribedKeys
import ThingsboardMqtt.Ota.StoredRuns
