import NrfEsl.Lib.TransitionSystem
import NrfEsl.Lib.Traced
import NrfEsl.Lib.Memory
import NrfEsl.Lib.Tiling
import NrfEsl.Lib.RollbackBuffer
import NrfEsl.Common
import NrfEsl.Ead
import NrfEsl.Tag.State
import NrfEsl.Tag.StateMachine
import NrfEsl.Tag.Provision
import NrfEsl.Tag.Command
import NrfEsl.Tag.Workers
import NrfEsl.Tag.Device
import NrfEsl.Tag.Parser
import NrfEsl.Tag.Step
import NrfEsl.Tag.View
import NrfEsl.Tag.Display
import NrfEsl.Tag.Led
import NrfEsl.Packet
import NrfEsl.CommandSlot
import NrfEsl.Association
import NrfEsl.SameEffect
import NrfEsl.Dispatch
import NrfEsl.Malformed
import NrfEsl.ResponseSequence
import NrfEsl.Unassociation
import NrfEsl.TimeoutCoherence
import NrfEsl.StateGraph
import NrfEsl.SynchronizedBit
import NrfEsl.LinkLoss
import NrfEsl.FreshProvisioning
import NrfEsl.Ap.Step
import NrfEsl.PayloadKept
import NrfEsl.Framing
import NrfEsl.ReceivedData
import NrfEsl.PacketSlot
import NrfEsl.ResponsesProcessed
import NrfEsl.ResponseSlots
import NrfEsl.DisplayedImage
import NrfEsl.PendingTimed
import NrfEsl.WorkTable
import NrfEsl.Lib.KeyValueStore
import NrfEsl.Tag.Settings
import NrfEsl.Persistence
import NrfEsl.Ap.EcpCommand
import NrfEsl.CommandCodec
import NrfEsl.Lib.InverseMaps
import NrfEsl.Ap.TagStorage
import NrfEsl.TagDatabase
import NrfEsl.Lib.RoundRobin
import NrfEsl.Ap.AutoConfig
import NrfEsl.AddressAllocation
import NrfEsl.Ap.Unassociate
import NrfEsl.BondRemoval
import NrfEsl.Lib.Lifecycle
import NrfEsl.Ap.Discovery
import NrfEsl.DiscoveryOrder
import NrfEsl.Ap.Configure
import NrfEsl.TagConfiguration
import NrfEsl.Ap.Connections
import NrfEsl.RecordOwnership
import NrfEsl.Ap.WriteFlag
import NrfEsl.WriteCompletion
import NrfEsl.ClockAgreement
import NrfEsl.ErrorResponses
import NrfEsl.OpcodeClassification
import NrfEsl.Lib.Cells
import NrfEsl.WrittenResponse
import NrfEsl.ResponseCodec
import NrfEsl.TimedScheduling
import NrfEsl.Lib.Text
import NrfEsl.Gui.TlvGenerator
import NrfEsl.Ap.PushCommand
import NrfEsl.GeneratedCommand
import NrfEsl.Lib.Program
import NrfEsl.Lib.Device
import NrfEsl.Lib.FileSystem
import NrfEsl.Lib.RecordStore
import NrfEsl.Tag.ImageStorage
import NrfEsl.Tag.ImageObjects
import NrfEsl.OwnImage
import NrfEsl.Tag.ImageReference
import NrfEsl.Tag.ImageUpload
import NrfEsl.ImageSize
import NrfEsl.Lib.Interleaving
import NrfEsl.UploadInterleaving
import NrfEsl.Tag.LedPlayback
import NrfEsl.LedRepeats
import NrfEsl.LedArithmetic
import NrfEsl.LedAgreement
import NrfEsl.ProvisioningWrites
import NrfEsl.Lib.Sweep
import NrfEsl.SubeventPush
import NrfEsl.RejectedResponse
import NrfEsl.PlaintextOnAir
import NrfEsl.ShellPush
import NrfEsl.Ap.ReadMulti
import NrfEsl.MultipleRead
import NrfEsl.SensorInformation
import NrfEsl.SensorParser
import NrfEsl.Lib.FileSession
import NrfEsl.Ap.TagFiles
import NrfEsl.TagRecord
import NrfEsl.TagFileErrors
import NrfEsl.Ap.RspKeys
import NrfEsl.RspKeySlots
import NrfEsl.AddressLookup
import NrfEsl.Ap.ScannedTags
import NrfEsl.ScannedList
import NrfEsl.Ap.AutoConnect
import NrfEsl.ConnectGuard
import NrfEsl.Ap.ImageWorker
import NrfEsl.PastAfterImages
import NrfEsl.Tag.ImageReads
import NrfEsl.BackEnds
import NrfEsl.Tag.ImageDump
import NrfEsl.ChunkedChecksum
import NrfEsl.ChunkedDisplay
import NrfEsl.FailedChunks
import NrfEsl.Lib.Windows
import NrfEsl.Ap.Buttons
import NrfEsl.ButtonGroups
import NrfEsl.Gui.RspKeyList
import NrfEsl.GuiKeyLookup
import NrfEsl.Ap.ImageFiles
import NrfEsl.ImageReadErrors
import NrfEsl.Lib.Bitmap
import NrfEsl.Tag.Paint
import NrfEsl.PixelAddressing
import NrfEsl.PaintedPixels
import NrfEsl.RectangleFill
import NrfEsl.Tag.PaintBands
import NrfEsl.BandRendering
import NrfEsl.Lib.PythonText
import NrfEsl.Gui.ImageArray
import NrfEsl.ImageConversion
import NrfEsl.PacketBuffer
import NrfEsl.Tag.FontReads
import NrfEsl.GlyphLookup
import NrfEsl.PacketRuns
import NrfEsl.Network
import NrfEsl.Exchange
import NrfEsl.Ap.ReadLong
import NrfEsl.LongRead
import NrfEsl.ImageDelivery
import NrfEsl.ConfiguredTags
import NrfEsl.Tag.Uptime
import NrfEsl.TimedFleet
import NrfEsl.Ap.DummyCmd
import NrfEsl.DummyPackets
import NrfEsl.Lib.AttributeTable
import NrfEsl.Tag.GattService
import NrfEsl.Ap.GattHandles
import NrfEsl.GattDiscovery
import NrfEsl.Ap.ClientSettings
import NrfEsl.ApRestarts
