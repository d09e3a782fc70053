import Mp3Decoder.Lib.BigEndianBits
import Mp3Decoder.Lib.LittleEndianWords
import Mp3Decoder.Lib.MachineInt
import Mp3Decoder.Lib.BoundedQueue
import Mp3Decoder.Lib.ClumpTable
import Mp3Decoder.Lib.CosineError
import Mp3Decoder.Lib.CosineTable
import Mp3Decoder.Lib.Crc
import Mp3Decoder.Lib.DelayLine
import Mp3Decoder.Lib.ErrorBudget
import Mp3Decoder.Lib.FastCosine
import Mp3Decoder.Lib.LappedTransform
import Mp3Decoder.Lib.PolyphaseFilter
import Mp3Decoder.Lib.RingWindow
import Mp3Decoder.Lib.Schedule
import Mp3Decoder.Lib.Segment
import Mp3Decoder.Lib.SentinelSearch
import Mp3Decoder.Lib.SignFeedback
import Mp3Decoder.Lib.Stutter
import Mp3Decoder.Mad.Bit
import Mp3Decoder.Mad.BitCrc
import Mp3Decoder.Mad.Stream
import Mp3Decoder.Mad.Header
import Mp3Decoder.Mad.HeaderFields
import Mp3Decoder.Mad.FreeRate
import Mp3Decoder.Mad.FreeFormat
import Mp3Decoder.Mad.HeaderSearch
import Mp3Decoder.Mad.HeaderRuns
import Mp3Decoder.Mad.SideInfo
import Mp3Decoder.Mad.SideInfoAccepted
import Mp3Decoder.Mad.SideInfoAgree
import Mp3Decoder.Mad.Bands
import Mp3Decoder.Mad.Scalefactors
import Mp3Decoder.Mad.ScalefactorsAgree
import Mp3Decoder.Mad.MainPtr
import Mp3Decoder.Mad.HuffmanTables
import Mp3Decoder.Mad.Huffdecode
import Mp3Decoder.Mad.HuffReference
import Mp3Decoder.Mad.HuffTrace
import Mp3Decoder.Mad.HuffCache
import Mp3Decoder.Mad.HuffRefine
import Mp3Decoder.Mad.HuffBounds
import Mp3Decoder.Mad.HuffAgree
import Mp3Decoder.Mad.MainData
import Mp3Decoder.Mad.Layer3
import Mp3Decoder.Mad.Reservoir
import Mp3Decoder.Mad.ReadsAhead
import Mp3Decoder.Mad.Frame
import Mp3Decoder.Mad.FrameRuns
import Mp3Decoder.Mad.FrameLayout
import Mp3Decoder.Mad.DecodeAgree
import Mp3Decoder.Mad.RqTable
import Mp3Decoder.Mad.Requantize
import Mp3Decoder.Mad.Reorder
import Mp3Decoder.Mad.ReorderPlaces
import Mp3Decoder.Mad.Stereo
import Mp3Decoder.Mad.StereoBands
import Mp3Decoder.Mad.Imdct
import Mp3Decoder.Mad.Samples
import Mp3Decoder.Mad.ZeroSubbands
import Mp3Decoder.Mad.Uninitialised
import Mp3Decoder.Mad.ModeExtension
import Mp3Decoder.Mad.ExtensionFrames
import Mp3Decoder.Mad.Synth
import Mp3Decoder.Mad.SynthHalf
import Mp3Decoder.Mad.SynthWindow
import Mp3Decoder.Mad.SynthSliding
import Mp3Decoder.Mad.Dct32
import Mp3Decoder.Mad.SynthStandard
import Mp3Decoder.Mad.Constants
import Mp3Decoder.Mad.Sdct
import Mp3Decoder.Mad.ImdctAccuracy
import Mp3Decoder.Mad.OverlapRuns
import Mp3Decoder.Lib.BitWriter
import Mp3Decoder.Lib.ClumpCodes
import Mp3Decoder.Mad.HuffCodes
import Mp3Decoder.Mad.HuffEncode
import Mp3Decoder.Mad.SideInfoEncode
import Mp3Decoder.Mad.ScalefactorsEncode
import Mp3Decoder.Mad.MainDataEncode
import Mp3Decoder.Mad.StreamEncode
import Mp3Decoder.Mad.FrameEncode
import Mp3Decoder.Mad.AncBitlen
import Mp3Decoder.Mad.RunSync
import Mp3Decoder.Mad.HeaderCallback
import Mp3Decoder.Driver.SpiRam
import Mp3Decoder.Driver.I2sFreertos
import Mp3Decoder.Driver.I2sQueue
import Mp3Decoder.Driver.I2sRate
import Mp3Decoder.Driver.I2sWords
import Mp3Decoder.User.SpiramFifo
import Mp3Decoder.User.SpiramFifoChip
import Mp3Decoder.User.SpiramFifoOrder
import Mp3Decoder.User.SpiramFifoWakeup
import Mp3Decoder.User.SmallFifo
import Mp3Decoder.User.Player
import Mp3Decoder.User.Decoder
import Mp3Decoder.User.DecoderProgress
import Mp3Decoder.User.DecoderStream
import Mp3Decoder.User.DecoderSafety
import Mp3Decoder.User.DecoderLoop
import Mp3Decoder.User.Resync
import Mp3Decoder.User.RateControl
import Mp3Decoder.User.Pwm
import Mp3Decoder.User.DeltaSigma
