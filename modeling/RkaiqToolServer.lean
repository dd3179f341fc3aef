import RkaiqToolServer.StepRun
import RkaiqToolServer.EventOrder
import RkaiqToolServer.ByteCodec
import RkaiqToolServer.WordMixing
import RkaiqToolServer.ChunkStream
import RkaiqToolServer.CommandData
import RkaiqToolServer.MultiFrameProcess
import RkaiqToolServer.RawCapture
import RkaiqToolServer.RawCaptureLifecycle
import RkaiqToolServer.MultiFrameCapture
import RkaiqToolServer.AppMode
import RkaiqToolServer.MessageForward
import RkaiqToolServer.ServerControl
import RkaiqToolServer.MurMurHash
import RkaiqToolServer.AppModeLinks
import RkaiqToolServer.CaptureModeSafety
import RkaiqToolServer.FileTransfer
import RkaiqToolServer.FileRoundTrip
import RkaiqToolServer.FileIntegrity
import RkaiqToolServer.ReceiveLoop
import RkaiqToolServer.SegmentationInvariance
import RkaiqToolServer.ForwarderThreads
import RkaiqToolServer.ForwarderUniqueness
import RkaiqToolServer.ResponseRouting
import RkaiqToolServer.DescriptorOwnership
import RkaiqToolServer.ListSplits
import RkaiqToolServer.AiqPacket
import RkaiqToolServer.AiqRoundTrip
import RkaiqToolServer.AiqReassembly
import RkaiqToolServer.AiqVerification
import RkaiqToolServer.AiqBounds
import RkaiqToolServer.MediaInfo
import RkaiqToolServer.SensorSlots
import RkaiqToolServer.SensorRegistration
import RkaiqToolServer.OfflineRaw
import RkaiqToolServer.OnLineCapture
import RkaiqToolServer.MemoryAccess
import RkaiqToolServer.ByteStores
import RkaiqToolServer.SendDelivery
import RkaiqToolServer.SendReads
import RkaiqToolServer.CheckSum
import RkaiqToolServer.ReceiveAccounting
import RkaiqToolServer.FileBounds
import RkaiqToolServer.FileSave
import RkaiqToolServer.ReplyDeterminism
import RkaiqToolServer.UapiSet
import RkaiqToolServer.LockDiscipline
import RkaiqToolServer.FlowQueue
import RkaiqToolServer.FlowLocks
import RkaiqToolServer.FlowSteps
import RkaiqToolServer.FlowBound
import RkaiqToolServer.FlowWakeup
import RkaiqToolServer.FlowShutdown
import RkaiqToolServer.SessionHandoff
import RkaiqToolServer.SessionLocks
import RkaiqToolServer.SessionExchange
import RkaiqToolServer.SessionRendezvous
import RkaiqToolServer.SessionReturn
import RkaiqToolServer.ParamText
import RkaiqToolServer.MediaConfig
import RkaiqToolServer.ConfigRoundTrip
import RkaiqToolServer.CaptureSettings
import RkaiqToolServer.PayloadCheckSum
import RkaiqToolServer.NormalCapture
import RkaiqToolServer.AveragedFrames
import RkaiqToolServer.MultiFrameBounds
import RkaiqToolServer.CameraRead
import RkaiqToolServer.YuvCapture
import RkaiqToolServer.YuvAccounting
import RkaiqToolServer.DescriptorTable
import RkaiqToolServer.CaptureCommands
import RkaiqToolServer.DescriptorBalance
import RkaiqToolServer.CameraBuffers
import RkaiqToolServer.CameraUse
import RkaiqToolServer.CaptureBuffers
import RkaiqToolServer.SensorMatching
import RkaiqToolServer.IsppRegistration
import RkaiqToolServer.RegistrationFailure
import RkaiqToolServer.LensTable
import RkaiqToolServer.LinkSetup
import RkaiqToolServer.CommandOutput
import RkaiqToolServer.OfflineRawBounds
import RkaiqToolServer.ParamReceive
import RkaiqToolServer.ForwarderEnd
import RkaiqToolServer.PrefixReads
import RkaiqToolServer.TcpMessage
import RkaiqToolServer.CommandRun
import RkaiqToolServer.MessageReads
import RkaiqToolServer.PacketReads
import RkaiqToolServer.Leftovers
import RkaiqToolServer.ReplyPayload
import RkaiqToolServer.EncoderStream
import RkaiqToolServer.CamCaptureHelper
import RkaiqToolServer.RtspCamera
import RkaiqToolServer.LiveSource
import RkaiqToolServer.TokenBalance
import RkaiqToolServer.CacheBound
import RkaiqToolServer.NaluSearch
import RkaiqToolServer.NaluSplit
import RkaiqToolServer.NaluByType
import RkaiqToolServer.BufferPool
import RkaiqToolServer.SlotTable
import RkaiqToolServer.FlowSlots
import RkaiqToolServer.DownFlows
import RkaiqToolServer.MemoryBlocks
import RkaiqToolServer.OsdRegions
import RkaiqToolServer.OsdImages
import RkaiqToolServer.TextScan
import RkaiqToolServer.TwinArrays
import RkaiqToolServer.MediaGraph
import RkaiqToolServer.MediaMirror
import RkaiqToolServer.MediaSetup
import RkaiqToolServer.MediaLinkText
import RkaiqToolServer.MediaRun
import RkaiqToolServer.SensorGraph
import RkaiqToolServer.Scanner
import RkaiqToolServer.FormatNames
import RkaiqToolServer.PadFormat
import RkaiqToolServer.PadFormatText
import RkaiqToolServer.FormatSetup
import RkaiqToolServer.BitRates
import RkaiqToolServer.MppSettings
import RkaiqToolServer.MppChanges
import RkaiqToolServer.MppRequests
import RkaiqToolServer.MppMirror
import RkaiqToolServer.MppRates
import RkaiqToolServer.RoiText
import RkaiqToolServer.EncoderFrames
import RkaiqToolServer.DropQueue
import RkaiqToolServer.EncoderQueue
import RkaiqToolServer.FlowParam
import RkaiqToolServer.VideoEncoderFlow
import RkaiqToolServer.RtspSizes
