import ZstdRuby.Extension.BufferAccess
import ZstdRuby.Extension.Compress
import ZstdRuby.Extension.Decompress
import ZstdRuby.Extension.NativeResources
import ZstdRuby.Extension.ObjectLifetime
import ZstdRuby.Extension.SharedStream
import ZstdRuby.Extension.SkippableFrame
import ZstdRuby.Extension.StreamIo
import ZstdRuby.Extension.StreamObjects
import ZstdRuby.Extension.StreamingCompress
import ZstdRuby.Extension.StreamingDecompress
import ZstdRuby.Foundation.CallLoops
import ZstdRuby.Foundation.CallRecord
import ZstdRuby.Foundation.DrainedDecoder
import ZstdRuby.Foundation.FrameSequence
import ZstdRuby.Foundation.LittleEndian
import ZstdRuby.Foundation.Loop
import ZstdRuby.Foundation.ManagedHeap
import ZstdRuby.Foundation.Recorded
import ZstdRuby.Foundation.Run
import ZstdRuby.Foundation.StreamingDecoder
import ZstdRuby.Foundation.StreamingEncoder
import ZstdRuby.Foundation.UnitDecoder
import ZstdRuby.Foundation.UnitMachine
import ZstdRuby.Libzstd.Common
import ZstdRuby.Libzstd.CompressContinue
import ZstdRuby.Libzstd.CompressStream
import ZstdRuby.Libzstd.Compression
import ZstdRuby.Libzstd.CompressionParameters
import ZstdRuby.Libzstd.DecompressContinue
import ZstdRuby.Libzstd.DecompressFrame
import ZstdRuby.Libzstd.DecompressStream
import ZstdRuby.Libzstd.Decompression
import ZstdRuby.Libzstd.FrameHeader
import ZstdRuby.Libzstd.FrameHeaderWriter
import ZstdRuby.Libzstd.RawBlocks
import ZstdRuby.Libzstd.SkippableFrame
import ZstdRuby.Properties.BlockWriting
import ZstdRuby.Properties.BufferAccess
import ZstdRuby.Properties.ByteOrder
import ZstdRuby.Properties.CompressStream
import ZstdRuby.Properties.CompressStreamSession
import ZstdRuby.Properties.CompressionParameters
import ZstdRuby.Properties.DecodeOneFrame
import ZstdRuby.Properties.DecompressFrame
import ZstdRuby.Properties.DecompressTermination
import ZstdRuby.Properties.DictionaryLifetime
import ZstdRuby.Properties.DurableWrites
import ZstdRuby.Properties.EndToEnd
import ZstdRuby.Properties.ErrorProtocol
import ZstdRuby.Properties.FlushedData
import ZstdRuby.Properties.FrameScan
import ZstdRuby.Properties.FrameStart
import ZstdRuby.Properties.FrameWriting
import ZstdRuby.Properties.NativeResources
import ZstdRuby.Properties.OneShot
import ZstdRuby.Properties.PositionTracking
import ZstdRuby.Properties.RawBlocks
import ZstdRuby.Properties.RejectedWrites
import ZstdRuby.Properties.ScanArithmetic
import ZstdRuby.Properties.SharedStream
import ZstdRuby.Properties.StoredEncoder
import ZstdRuby.Properties.StoredFrames
import ZstdRuby.Properties.StreamCalls
import ZstdRuby.Properties.StreamDecoder
import ZstdRuby.Properties.StreamFailure
import ZstdRuby.Properties.StreamFormat
import ZstdRuby.Properties.StreamObjectRuns
import ZstdRuby.Properties.StreamObjects
import ZstdRuby.Properties.StreamProgress
import ZstdRuby.Properties.StreamingCompress
import ZstdRuby.Properties.StreamingDecompress
import ZstdRuby.Properties.UnsharedStream
import ZstdRuby.Properties.WholeFrames
import ZstdRuby.Ruby.Value
