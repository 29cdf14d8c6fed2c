import SamsungHardware.AudioRouting.OffloadState
import SamsungHardware.AudioRouting.PlaybackDevice
import SamsungHardware.AudioRouting.WriteLock
import SamsungHardware.BootImages.BootAddresses
import SamsungHardware.BootImages.DtbhTables
import SamsungHardware.CameraFrames.InterleavedData
import SamsungHardware.CameraFrames.SortedFrames
import SamsungHardware.ColorConversion.RgbToYuv
import SamsungHardware.EdidParsing.EdidCache
import SamsungHardware.EdidParsing.QueryBounds
import SamsungHardware.ExifSegments.ExifReader
import SamsungHardware.FingerprintLockout.LockoutSuccess
import SamsungHardware.FingerprintLockout.UserDirectories
import SamsungHardware.FrameSplitting.CutIndependence
import SamsungHardware.FrameSplitting.InputProgress
import SamsungHardware.FrameSplitting.PictureCuts
import SamsungHardware.HdmiService.DdcReferences
import SamsungHardware.HdmiService.MessageQueue
import SamsungHardware.HwComposer.AssignedWindows
import SamsungHardware.LightControl.NotificationLed
import SamsungHardware.OmxComponents.BufferCounts
import SamsungHardware.OmxComponents.CoreHandles
import SamsungHardware.OmxComponents.FailedCommands
import SamsungHardware.OmxComponents.PortSwitching
import SamsungHardware.OmxComponents.SignalWait
import SamsungHardware.PowerHints.InteractionHandler
import SamsungHardware.PowerHints.PowerModes
import SamsungHardware.RilClient.ResponseCorrelation
import SamsungHardware.RilDaemon.DeletedEvents
import SamsungHardware.RilDaemon.PendingLists
import SamsungHardware.RilDaemon.SapRequests
import SamsungHardware.RilDaemon.TimerOrder
import SamsungHardware.RilDaemon.UnsolicitedResponses
import SamsungHardware.RilDaemon.WakeLock
import SamsungHardware.ThermalControl.CoolingAggregation
import SamsungHardware.ThermalControl.FailedAllocation
import SamsungHardware.ThermalControl.PowerAverages
import SamsungHardware.ThermalControl.ReleaseOrder
import SamsungHardware.ThermalControl.SeverityHints
import SamsungHardware.ThermalControl.StatsRecords
import SamsungHardware.TiledFrames.PlaneAddresses
import SamsungHardware.TiledFrames.TileRoundTrip
import SamsungHardware.TiledFrames.UnrolledTiles
import SamsungHardware.UsbPorts.CallbackShutdown
import SamsungHardware.VideoDecoding.FrameTimestamps
