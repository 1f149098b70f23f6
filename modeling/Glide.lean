import Glide.Library.AsciiText
import Glide.Library.BinaryFloat
import Glide.Library.Crc
import Glide.Library.IncrementalParser
import Glide.Library.NumberText
import Glide.Library.Runs
import Glide.MavlinkFrames
import Glide.MavlinkPackets
import Glide.MavlinkDecode
import Glide.MavlinkBridge
import Glide.TelemetryLines
import Glide.TcpSending
import Glide.ParameterActions
import Glide.ZeroTruncation
import Glide.RtpPackets
import Glide.NalPayloads
import Glide.RtpDepacketizer
import Glide.RtpSender
import Glide.NalAssembler
import Glide.RtpReception
import Glide.RtpJpeg
import Glide.RockchipMppRtpDecoder
import Glide.ImxVpuRtpDecoder
import Glide.NalIntegrity
import Glide.PictureIntegrity
import Glide.LosslessDepacketization
import Glide.RockchipFrames
import Glide.ScanOutSafety
import Glide.IpcServer
import Glide.IpcClient
import Glide.IpcSending
import Glide.Library.StringConversions
import Glide.BridgeConnection
import Glide.PreviewControl
import Glide.RuntimeControls
import Glide.TelemetryConnection
import Glide.MavlinkState
import Glide.ControlClients
import Glide.InputLines
import Glide.ControlSettings
import Glide.Library.Attempts
import Glide.DrmCalls
import Glide.KmsPlanes
import Glide.KmsAtomicCompositor
import Glide.CompositorPhases
import Glide.ExclusivePlanes
import Glide.AtomicRequests
import Glide.HeldFramebuffers
import Glide.LiveFramebuffers
import Glide.CompositorThreads
import Glide.FlowBufferOwnership
import Glide.Library.BinaryRecords
import Glide.OfflineMapPackages
import Glide.MapRoundTrip
import Glide.SliceHeaders
import Glide.RtpFeed
import Glide.CedarRtpDecoder
import Glide.SequenceGaps
import Glide.CedarAccessUnits
import Glide.CedarNalUnits
import Glide.CedarIntegrity
import Glide.CedarParameterSets
import Glide.RockchipSubmissions
import Glide.RecoverySeed
import Glide.UserInterface
import Glide.KeyboardAndPointer
import Glide.MenuSelection
import Glide.CoordinatesPreference
import Glide.MapSuppression
import Glide.Library.CheckedBuffers
import Glide.PngImages
import Glide.Library.MachineArithmetic
import Glide.VideoDestination
import Glide.InFormatsBlob
import Glide.VideoLayouts
import Glide.ModeSelection
import Glide.BoundedResync
import Glide.GemHandles
import Glide.Library.JpegFiles
import Glide.MjpegSender
import Glide.MjpegHeaders
import Glide.MjpegIntegrity
import Glide.CheckedParsing
import Glide.ParsingBounds
import Glide.TelemetryEmulator
import Glide.StatusTexts
import Glide.PngFilters
import Glide.PngBounds
import Glide.PngAgreement
import Glide.MapTiles
import Glide.ExpGolomb
import Glide.Library.StreamExtraction
import Glide.TelemetrySnapshot
import Glide.TelemetryInvariants
import Glide.TelemetryHop
import Glide.LinkReadout
import Glide.TelemetryAtomicity
import Glide.WindowsArguments
import Glide.CoreAssignment
import Glide.LineRasteriser
import Glide.GpuMapLines
import Glide.NetworkDiscovery
import Glide.TileCache
import Glide.MapAtlas
import Glide.AircraftMarker
import Glide.IncrementalCommits
import Glide.Library.StampedCaches
import Glide.GlesVideoImages
import Glide.DiscoveryNetwork
import Glide.ShownPeers
import Glide.ProbePacing
import Glide.Library.DoubleText
import Glide.Library.SettingLines
import Glide.DeviceSettings
import Glide.KmsDmabufVideoPlane
import Glide.Library.LiveNames
import Glide.PresentedPictures
import Glide.Library.SpacedTimes
import Glide.Library.TimedSignals
import Glide.PresentationLoop
import Glide.SampleLoop
import Glide.Library.PixelTables
import Glide.UiPixels
import Glide.Library.OptionScanning
import Glide.WorkerArguments
import Glide.WorkerSupervision
