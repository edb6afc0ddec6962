import OmmoSdk.Theory.Generations
import OmmoSdk.Theory.Handles
import OmmoSdk.Theory.KeyedStores
import OmmoSdk.Theory.Loop
import OmmoSdk.Theory.Memory
import OmmoSdk.Theory.Footprint
import OmmoSdk.Theory.Reach
import OmmoSdk.Theory.Threads
import OmmoSdk.Theory.Exclusion
import OmmoSdk.Sdk.Types
import OmmoSdk.Sdk.Protobuf
import OmmoSdk.Sdk.ConversionAccesses
import OmmoSdk.Theory.OwnedArrays
import OmmoSdk.Sdk.OwnedTypes
import OmmoSdk.Sdk.DeepCopies
import OmmoSdk.Theory.Custody
import OmmoSdk.Theory.OwningMaps
import OmmoSdk.Theory.Presence
import OmmoSdk.Sdk.ServiceMessages
import OmmoSdk.Sdk.OwnedConversions
import OmmoSdk.Sdk.ConversionOwnership
import OmmoSdk.Theory.Calendar
import OmmoSdk.Theory.FixedWidth
import OmmoSdk.Sdk.SystemTime
import OmmoSdk.Sdk.Utils
import OmmoSdk.Sdk.CallData
import OmmoSdk.Storage.PacketBuffers
import OmmoSdk.Storage.PushHistory
import OmmoSdk.Storage.DeviceData
import OmmoSdk.Storage.PacketOrigin
import OmmoSdk.Storage.BaseStationData
import OmmoSdk.Storage.SwitchWindow
import OmmoSdk.Storage.Polling
import OmmoSdk.Storage.NewestPacket
import OmmoSdk.Storage.SinceAccesses
import OmmoSdk.Storage.OwnedBuffers
import OmmoSdk.Storage.StoreCustody
import OmmoSdk.Client.DataManager
import OmmoSdk.Client.PacketRouting
import OmmoSdk.Client.ClientManager
import OmmoSdk.Client.Registry
import OmmoSdk.Client.RegistryRuns
import OmmoSdk.Client.WirelessCall
import OmmoSdk.Client.WirelessTraffic
import OmmoSdk.Client.WirelessCommands
import OmmoSdk.Client.StreamCall
import OmmoSdk.Client.StreamDelivery
import OmmoSdk.Client.WirelessManager
import OmmoSdk.Client.ClientContext
import OmmoSdk.Client.StationRequests
import OmmoSdk.Client.Threads
import OmmoSdk.Client.Follows
import OmmoSdk.Client.Sequential
import OmmoSdk.Client.OpeningWindows
import OmmoSdk.Client.StoredPointers
import OmmoSdk.Client.CallLists
import OmmoSdk.Client.EventStream
import OmmoSdk.Client.LockTurns
import OmmoSdk.Client.ClosedRequests
import OmmoSdk.Client.StorageDuties
import OmmoSdk.Client.ChannelMonitor
import OmmoSdk.Client.DataContext
import OmmoSdk.Client.StorageTurns
import OmmoSdk.Client.ContextDelivery
import OmmoSdk.Client.ManagerMemory
import OmmoSdk.Client.LostCalls
import OmmoSdk.Client.RunningClient
import OmmoSdk.Client.Shutdown
import OmmoSdk.Client.CallEnds
import OmmoSdk.Client.Reconnect
import OmmoSdk.Client.StorageKeys
import OmmoSdk.Client.Availability
import OmmoSdk.Client.LockOrder
