import MediaFramework.Library.Machine
import MediaFramework.Focus.HolderCalls
import MediaFramework.Focus.FocusRuns
import MediaFramework.Focus.FocusSuggestion
import MediaFramework.Library.Framing
import MediaFramework.Parcel.MediaParcel
import MediaFramework.Parcel.ParcelRecv
import MediaFramework.Parcel.ParcelBounds
import MediaFramework.Parcel.ParcelFraming
import MediaFramework.Parcel.ParcelSend
import MediaFramework.Server.NotifyStream
import MediaFramework.Client.MediaProxy
import MediaFramework.Client.MediaUv
import MediaFramework.Client.UvWritings
import MediaFramework.Client.UvRequests
import MediaFramework.Client.UvOrder
import MediaFramework.Library.Awaiting
import MediaFramework.Client.UvReplies
import MediaFramework.Client.UvPipes
import MediaFramework.Library.Scanf
import MediaFramework.Session.MediaMetadata
import MediaFramework.Session.MediaSession
import MediaFramework.Session.SessionRuns
import MediaFramework.Session.SessionEvents
import MediaFramework.Library.Recency
import MediaFramework.Session.ActiveControllee
import MediaFramework.Session.SessionClient
import MediaFramework.Session.MetadataWire
import MediaFramework.Session.MetadataTrip
import MediaFramework.Session.ControllerCache
import MediaFramework.Parcel.ParcelAppend
import MediaFramework.Parcel.ParcelFormat
import MediaFramework.Client.MediaRequests
import MediaFramework.Server.RpcLayout
import MediaFramework.Server.MediaGraph
import MediaFramework.Server.MediaServer
import MediaFramework.Server.MediaHandlers
import MediaFramework.Library.Registry
import MediaFramework.Server.ServerObjects
import MediaFramework.Server.ServerRuns
import MediaFramework.Server.ServerRecord
import MediaFramework.Server.ServerHandles
import MediaFramework.Server.ServerNotices
import MediaFramework.Focus.FocusHandles
import MediaFramework.Server.ServerSlots
import MediaFramework.Server.GraphCommands
import MediaFramework.Server.NullPointers
import MediaFramework.Client.ProxyListener
import MediaFramework.Client.UvAwaits
import MediaFramework.Session.UvController
import MediaFramework.Client.UvReconnect
import MediaFramework.Client.UvLive
import MediaFramework.Client.UvDisconnect
import MediaFramework.Library.TailQueue
import MediaFramework.Server.CommandQueue
import MediaFramework.Server.GraphRunOnce
import MediaFramework.Server.PollCollectors
import MediaFramework.Server.FinalizeFraming
import MediaFramework.Server.PolicyPersist
import MediaFramework.Focus.FocusAdmission
import MediaFramework.Focus.FocusTable
import MediaFramework.Focus.FocusTableBounds
import MediaFramework.Client.MediaUvGraph
import MediaFramework.Client.UvStreamUse
import MediaFramework.Focus.FocusFormat
import MediaFramework.Client.PolicyCompletes
import MediaFramework.Client.CpuNames
import MediaFramework.Client.ProxyAttempts
import MediaFramework.Client.MediaSocket
import MediaFramework.Client.StreamRefs
import MediaFramework.Session.QueryAnswers
import MediaFramework.Client.PlayerQuery
import MediaFramework.Client.StartAuto
import MediaFramework.Client.DataPipe
import MediaFramework.Client.MediaDtmf
import MediaFramework.Session.MetadataDecode
import MediaFramework.Session.MetadataMerge
import MediaFramework.Library.StrtokInPlace
import MediaFramework.Server.PolicyPlugins
import MediaFramework.Library.MessageLife
import MediaFramework.Client.UvFrees
import MediaFramework.Client.TakePicture
import MediaFramework.Client.FailedRequests
import MediaFramework.Client.MediaUvFocus
import MediaFramework.Client.UvCalls
import MediaFramework.Client.FocusLives
import MediaFramework.Server.MediaDaemon
import MediaFramework.Server.DaemonRounds
import MediaFramework.Client.DtmfTones
import MediaFramework.Library.Strtol
import MediaFramework.Server.PolicyLibrary
import MediaFramework.Client.MediaPolicy
import MediaFramework.Client.PolicyRemote
import MediaFramework.Client.UvPolicyValues
import MediaFramework.Server.SessionRelay
import MediaFramework.Library.Ownership
import MediaFramework.Parcel.ParcelHeap
import MediaFramework.Client.RequestMemory
import MediaFramework.Server.FocusViews
