import GrCompress.CompressDecompressPipeline
import GrCompress.StreamTransport
import GrCompress.DecoderAgreement
import GrCompress.BlockShutdown
import GrCompress.RecordPaths
import GrCompress.SinkSwitching
import GrCompress.Packed12Precision
import GrCompress.PartialWrites
import GrCompress.CompressFailure
import GrCompress.BlockDiscipline
import GrCompress.WireLengths
import GrCompress.SourceRepositioning
import GrCompress.HandleOwnership
import GrCompress.FailedOpens
import GrCompress.SinkItemsize
import GrCompress.HostileInput
import GrCompress.RejectedMessages
import GrCompress.CompressorRoom
import GrCompress.StreamedDelivery
import GrCompress.KilledRecording
import GrCompress.SourceReadAhead
import GrCompress.TimedCompression
import GrCompress.CompressionTest
import GrCompress.LiveRecording
import GrCompress.CaptureSessions
import GrCompress.PackedRecording
import GrCompress.ReceiverRestarts
import GrCompress.WriteThrough
