import RejiStudio.Lib.Machine
import RejiStudio.Lib.BufferCopy
import RejiStudio.Lib.BoundedQueue
import RejiStudio.Lib.Broadcast
import RejiStudio.Lib.Custody
import RejiStudio.Lib.CyclicIds
import RejiStudio.Lib.Deadlines
import RejiStudio.Lib.Decimal
import RejiStudio.Lib.Delimited
import RejiStudio.Lib.Feed
import RejiStudio.Lib.FixedWindow
import RejiStudio.Lib.LastEntries
import RejiStudio.Lib.Ledger
import RejiStudio.Lib.LedgerIdentity
import RejiStudio.Lib.LengthPrefixed
import RejiStudio.Lib.LossyText
import RejiStudio.Lib.NearestEven
import RejiStudio.Lib.OnlineStatistics
import RejiStudio.Lib.RoundingError
import RejiStudio.Lib.SpscRing
import RejiStudio.Lib.StableSort
import RejiStudio.Lib.Text
import RejiStudio.Rtmp.AnnexB
import RejiStudio.Rtmp.NalScan
import RejiStudio.Rtmp.SequenceHeader
import RejiStudio.Rtmp.RoundTrip
import RejiStudio.Rtmp.AudioConfig
import RejiStudio.Rtmp.Timestamps
import RejiStudio.Rtmp.FlvTag
import RejiStudio.Rtmp.AvcConfig
import RejiStudio.Ws.Gate
import RejiStudio.Ws.StreamFlags
import RejiStudio.Orchestrator.Calibration
import RejiStudio.Orchestrator.CalibrationRuns
import RejiStudio.Orchestrator.CalibrationExact
import RejiStudio.Orchestrator.CallFrames
import RejiStudio.Orchestrator.ConditionLeaves
import RejiStudio.Orchestrator.ConditionNormalForm
import RejiStudio.Orchestrator.CalibratedConditions
import RejiStudio.Orchestrator.ConflictResolution
import RejiStudio.Orchestrator.CollectedActions
import RejiStudio.Orchestrator.ActionIds
import RejiStudio.Orchestrator.TriggerCharges
import RejiStudio.Orchestrator.Healing
import RejiStudio.Orchestrator.ModeChange
import RejiStudio.Orchestrator.MetricFlow
import RejiStudio.Orchestrator.Outflow
import RejiStudio.Orchestrator.ApprovalPrompt
import RejiStudio.Orchestrator.PendingPrompts
import RejiStudio.Orchestrator.PendingRuns
import RejiStudio.Orchestrator.RejectCooldown
import RejiStudio.Orchestrator.RuleReload
import RejiStudio.Orchestrator.RuleConstruction
import RejiStudio.Orchestrator.TriggerSpacing
import RejiStudio.Pipeline.ActionEncoding
import RejiStudio.Pipeline.ActionReports
import RejiStudio.Pipeline.AudioRing
import RejiStudio.Pipeline.AudioSessions
import RejiStudio.Pipeline.CapturePackets
import RejiStudio.Pipeline.FormatGate
import RejiStudio.Pipeline.BitrateBounds
import RejiStudio.Pipeline.BitratePolicy
import RejiStudio.Pipeline.BitrateSteps
import RejiStudio.Pipeline.CoPilotGate
import RejiStudio.Pipeline.NvencEncoder
import RejiStudio.Pipeline.PitchCopy
import RejiStudio.Pipeline.EncoderReports
import RejiStudio.Pipeline.EncoderResolution
import RejiStudio.Pipeline.CommandRouter
import RejiStudio.Pipeline.FirstPacket
import RejiStudio.Pipeline.FrameCmdRing
import RejiStudio.Pipeline.FramePacer
import RejiStudio.Pipeline.HealingPath
import RejiStudio.Pipeline.IdrRequest
import RejiStudio.Pipeline.Lifecycle
import RejiStudio.Pipeline.ManualMode
import RejiStudio.Pipeline.StreamSession
import RejiStudio.Pipeline.SehFilter
import RejiStudio.Pipeline.TickConversions
import RejiStudio.Pipeline.FramePacing
import RejiStudio.Pipeline.IdrCadence
import RejiStudio.Pipeline.MetricsCollector
import RejiStudio.Pipeline.DropPercentage
import RejiStudio.Gpu.ExternalMemoryBridge
import RejiStudio.Gpu.TargetPool
import RejiStudio.Gpu.BridgeResources
import RejiStudio.Gpu.BridgeHandles
import RejiStudio.Gpu.ResourceConservation
import RejiStudio.Orchestrator.AppliedReports
import RejiStudio.Orchestrator.LayerCooldown
import RejiStudio.Orchestrator.HealingLogFlush
import RejiStudio.Gpu.CopyOptimizer
import RejiStudio.Gpu.TimelineValues
import RejiStudio.Gpu.Preview
import RejiStudio.Gpu.GlSync
import RejiStudio.Gpu.TargetImages
import RejiStudio.Gpu.FrameCache
import RejiStudio.Gpu.LayoutTracking
import RejiStudio.Gpu.ImportRetry
import RejiStudio.Gpu.GlSampling
import RejiStudio.Recovery.RecoveryCoordinator
import RejiStudio.Recovery.RecoveryProgress
import RejiStudio.Recovery.ReinitCadence
import RejiStudio.Recovery.TextureOwnership
import RejiStudio.Srt.SrtOutput
import RejiStudio.Srt.InstanceCount
import RejiStudio.Srt.ConnectionLoss
import RejiStudio.Srt.PacketDelivery
import RejiStudio.Pipeline.QueueConsumers
import RejiStudio.Ws.CStrBounded
import RejiStudio.Ws.Password
import RejiStudio.Ws.SceneList
import RejiStudio.Ws.SceneSelection
import RejiStudio.Ws.ProgramScene
import RejiStudio.Ws.CommandDelivery
import RejiStudio.Ws.Classification
import RejiStudio.Ws.Timecode
import RejiStudio.Lib.WireSession
import RejiStudio.Rtmp.ChunkStream
import RejiStudio.Rtmp.ChunkHeader
import RejiStudio.Rtmp.ChunkRoundTrip
import RejiStudio.Rtmp.ExtendedTimestamp
import RejiStudio.Rtmp.PacketBuffer
import RejiStudio.Rtmp.PacketWrite
import RejiStudio.Rtmp.TagDelivery
import RejiStudio.Lib.GuardedLedger
import RejiStudio.Lib.HandOver
import RejiStudio.Pipeline.NvencSession
import RejiStudio.Gpu.VulkanInitializer
import RejiStudio.Pipeline.DxgiCapture
import RejiStudio.Pipeline.DuplicationUse
import RejiStudio.Pipeline.SharedTexture
import RejiStudio.Rtmp.HappyEyeballs
import RejiStudio.Rtmp.SocketLife
import RejiStudio.Rtmp.TransportSockets
import RejiStudio.Rtmp.Amf
import RejiStudio.Rtmp.AmfWire
import RejiStudio.Rtmp.AmfRoundTrip
import RejiStudio.Rtmp.AmfStall
import RejiStudio.Pipeline.WasapiCapture
import RejiStudio.Pipeline.WasapiOpening
import RejiStudio.Pipeline.WasapiEngine
import RejiStudio.Pipeline.WasapiPackets
