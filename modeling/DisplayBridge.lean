import DisplayBridge.Lib.LittleEndian
import DisplayBridge.Lib.Swift
import DisplayBridge.Protocol
import DisplayBridge.Mac.InputForwarder
import DisplayBridge.Ubuntu.Input
import DisplayBridge.WireFormat
import DisplayBridge.Ubuntu.Streamer
import DisplayBridge.MouseButtons
import DisplayBridge.Lib.Circular
import DisplayBridge.Ubuntu.Ring
import DisplayBridge.Ubuntu.PoppedFrame
import DisplayBridge.Lib.Bits
import DisplayBridge.Lib.H265
import DisplayBridge.Ubuntu.Bitstream
import DisplayBridge.Ubuntu.Encoder
import DisplayBridge.Ubuntu.ParameterSets
import DisplayBridge.Ubuntu.SliceHeader
import DisplayBridge.Lib.Runs
import DisplayBridge.Ubuntu.Encode
import DisplayBridge.Ubuntu.ForceIdr
import DisplayBridge.Ubuntu.RingQueue
import DisplayBridge.Ubuntu.Sender
import DisplayBridge.Ubuntu.FirstFrame
import DisplayBridge.Lib.LossyLine
import DisplayBridge.Ubuntu.ReferenceChain
import DisplayBridge.Lib.AnnexB
import DisplayBridge.Mac.AnnexB
import DisplayBridge.Mac.HEVCDecoder
import DisplayBridge.Mac.ParameterSetCache
import DisplayBridge.Mac.SRTReceiver
import DisplayBridge.Mac.KeyframeGate
import DisplayBridge.Mac.NoTrap
import DisplayBridge.Lib.ByteStream
import DisplayBridge.Mac.Transcode
import DisplayBridge.PackedHeaders
import DisplayBridge.Ubuntu.VaParameters
import DisplayBridge.Lib.DropOldest
import DisplayBridge.Ubuntu.RingFifo
import DisplayBridge.Ubuntu.Gop
import DisplayBridge.FrameDelivery
import DisplayBridge.Timestamps
import DisplayBridge.ScrollEvents
import DisplayBridge.Mac.TargetHost
import DisplayBridge.Mac.Pipeline
import DisplayBridge.Ubuntu.SyntaxElements
import DisplayBridge.Ubuntu.FailedPush
import DisplayBridge.Lib.Handles
import DisplayBridge.Ubuntu.Connection
import DisplayBridge.Lib.Writes
import DisplayBridge.Ubuntu.Conversion
import DisplayBridge.Ubuntu.ConvBuf
import DisplayBridge.Ubuntu.Capture
import DisplayBridge.Lib.Calls
import DisplayBridge.Mac.ServiceDiscovery
import DisplayBridge.Ubuntu.VaCalls
import DisplayBridge.Ubuntu.VaObjects
import DisplayBridge.Mac.Padding
import DisplayBridge.Mac.Fallback
import DisplayBridge.Mac.Retarget
import DisplayBridge.ModifierKeys
import DisplayBridge.Ubuntu.Bitrate
import DisplayBridge.Ubuntu.EscapeLength
import DisplayBridge.Ubuntu.HeaderBuffers
import DisplayBridge.Lib.Inevitable
import DisplayBridge.Ubuntu.Shutdown
import DisplayBridge.Lib.Sampling
import DisplayBridge.Mac.MetalRenderer
import DisplayBridge.ColourPath
import DisplayBridge.Mac.ReceiverThread
import DisplayBridge.Lib.Ticker
import DisplayBridge.Ubuntu.Pacing
import DisplayBridge.Lib.Resources
import DisplayBridge.Ubuntu.Lifecycle
import DisplayBridge.Forwarded
import DisplayBridge.KeyboardKeys
import DisplayBridge.Ubuntu.InputDevice
import DisplayBridge.Pointer
import DisplayBridge.Vkms.CrcWorker
import DisplayBridge.Vkms.Writeback
import DisplayBridge.Lib.Fallible
import DisplayBridge.Lib.References
import DisplayBridge.Vkms.Config
import DisplayBridge.Vkms.OutputInit
import DisplayBridge.Vkms.Init
import DisplayBridge.Vkms.Formats
