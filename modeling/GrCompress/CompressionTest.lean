import GrCompress.DecompressBlock
import GrCompress.TimedCompression
import GrCompress.WireLengths

/-!
# The test program

`TestCompression` of `test_compress.cc` compresses a file with `compress_impl::test`
and gives what the block remembers of it to `decompress_impl::test`, each once and
then again and again. The second gets the size of the file as the size to decompress
to, but the first compresses what is pending once that is a block of 64000 bytes. So
the program restores its file when the file is such a block by itself.
-/

namespace GrCompress.CompressionTest

open GrCompress.CallRuns
open GrCompress.CheckedStorage
open GrCompress.ThresholdBatching
open GrCompress.ZstdCodec
open GrCompress.RecordFormat
open GrCompress.CompressBlock
open GrCompress.CompressCalls
open GrCompress.TimedCompression
open GrCompress.WireLengths (CompressesWithinBound succeeds_of_within_bound payload_within_bound
  stored_within_bound)
open GrCompress.DecompressBlock (DecompressImpl)
open GrCompress.StoredFrameCodec

set_option autoImplicit false

variable {zstd : Zstd}

/-! ## decompress_impl::test -/

def largeBlockSize : Nat := 64000

/-- What is remembered after these bytes have been added. -/
def remembered (pending bytes : Bytes) (last : Option Bytes) : Option Bytes :=
  if largeBlockSize ≤ pending.length + bytes.length then some (pending ++ bytes) else last

end GrCompress.CompressionTest
