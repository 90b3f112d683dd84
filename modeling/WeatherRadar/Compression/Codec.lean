import WeatherRadar.Compression.BlockSort
import WeatherRadar.Compression.Bzip2
import WeatherRadar.Compression.Deflate
import WeatherRadar.Compression.Zlib
/-!
# Codecs

A product file can be compressed as a whole, in zlib streams, or in its blocks, by block sorting.
Reading and writing of products only need the four functions that a `Codec` collects.
-/

namespace WeatherRadar

/-- Functions that compress and expand. -/
structure Codec where
  /-- Reads one zlib stream at the start of some bytes. -/
  inflateStream : Zlib.StreamReader
  /-- The zlib stream that holds some bytes. -/
  deflateStream : List UInt8 → List UInt8
  /-- The contents of block-sorted data, if it is sound. -/
  expandBlocks : List UInt8 → Option (List UInt8)
  /-- The block-sorted data that holds some bytes. -/
  packBlocks : List UInt8 → List UInt8

namespace Codec

def standard : Codec where
  inflateStream := Zlib.singleStream
  deflateStream bytes := (Zlib.compress ⟨bytes.toArray⟩).data.toList
  expandBlocks bytes := (Bzip2.decompress ⟨bytes.toArray⟩).map (·.data.toList)
  packBlocks bytes := (Bzip2.compress ⟨bytes.toArray⟩).data.toList

end Codec

end WeatherRadar
