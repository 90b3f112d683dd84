import WeatherRadar.Angle
import WeatherRadar.BoundingBox
import WeatherRadar.Calendar
import WeatherRadar.Color
import WeatherRadar.Compression.BlockSort
import WeatherRadar.Compression.Bzip2
import WeatherRadar.Compression.Checksum
import WeatherRadar.Compression.Codec
import WeatherRadar.Compression.Deflate
import WeatherRadar.Compression.Inflate
import WeatherRadar.Compression.Zlib
import WeatherRadar.CoveragePattern
import WeatherRadar.Error
import WeatherRadar.Geo.Beam
import WeatherRadar.Geo.Ellipsoid
import WeatherRadar.Geo.Error
import WeatherRadar.Geo.GateGeometry
import WeatherRadar.Geo.Geodesic
import WeatherRadar.Geo.Georeference
import WeatherRadar.Geo.Grid
import WeatherRadar.Geo.PolarTable
import WeatherRadar.Geo.Sweep
import WeatherRadar.Json.Reader
import WeatherRadar.Json.Record
import WeatherRadar.Json.Value
import WeatherRadar.Json.Writer
import WeatherRadar.Layer
import WeatherRadar.Level3.Cursor
import WeatherRadar.Level3.DataLevel
import WeatherRadar.Level3.Error
import WeatherRadar.Level3.Gates
import WeatherRadar.Level3.Header
import WeatherRadar.Level3.Heading
import WeatherRadar.Level3.Product
import WeatherRadar.Level3.ProductKind
import WeatherRadar.Level3.Reading
import WeatherRadar.Level3.Sample
import WeatherRadar.Level3.Symbology
import WeatherRadar.Level3.Writing
import WeatherRadar.Main
import WeatherRadar.Number.BigEndian
import WeatherRadar.Number.Binary
import WeatherRadar.Number.Reading
import WeatherRadar.Number.Scalar
import WeatherRadar.Number.Shortest
import WeatherRadar.Number.Text
import WeatherRadar.Pipeline.Error
import WeatherRadar.Pipeline.Replay
import WeatherRadar.Pipeline.Scheduler
import WeatherRadar.Pipeline.Settings
import WeatherRadar.Pipeline.Snapshot
import WeatherRadar.Pipeline.Source
import WeatherRadar.Pipeline.Store
import WeatherRadar.Pipeline.WorkerSettings
import WeatherRadar.Png.Chunk
import WeatherRadar.Png.Error
import WeatherRadar.Png.Indexed
import WeatherRadar.Png.Reading
import WeatherRadar.Png.Writing
import WeatherRadar.Proofs.Calendar
import WeatherRadar.Proofs.Level3.Decoded
import WeatherRadar.Proofs.Level3.Degrees
import WeatherRadar.Proofs.Level3.Fields
import WeatherRadar.Proofs.Level3.Framing
import WeatherRadar.Proofs.Level3.HeadingGrammar
import WeatherRadar.Proofs.Level3.HeadingWords
import WeatherRadar.Proofs.Level3.Radials
import WeatherRadar.Proofs.Level3.Reads
import WeatherRadar.Proofs.Level3.RoundTrip
import WeatherRadar.Proofs.Level3.Runs
import WeatherRadar.Proofs.Pipeline.Bookkeeping
import WeatherRadar.Proofs.Pipeline.Calls
import WeatherRadar.Proofs.Pipeline.InFlight
import WeatherRadar.Proofs.Pipeline.Interleaving
import WeatherRadar.Proofs.Pipeline.NewestFrame
import WeatherRadar.Proofs.Pipeline.Settling
import WeatherRadar.Proofs.Pipeline.Turns
import WeatherRadar.Proofs.Png.Chunks
import WeatherRadar.Proofs.Png.Colors
import WeatherRadar.Proofs.Png.Rows
import WeatherRadar.Record
import WeatherRadar.Render.Detail
import WeatherRadar.Render.Error
import WeatherRadar.Render.Frame
import WeatherRadar.Render.Mesh
import WeatherRadar.Render.Palette
import WeatherRadar.Render.PaletteTable
import WeatherRadar.Render.Raster
import WeatherRadar.Report.Basic
import WeatherRadar.Report.Frame
import WeatherRadar.Report.Map
import WeatherRadar.Report.Pipeline
import WeatherRadar.Report.Png
import WeatherRadar.Report.Product
import WeatherRadar.Site
import WeatherRadar.Text.Blank
import WeatherRadar.Text.Case
import WeatherRadar.Text.CaseData
import WeatherRadar.Text.Hex
import WeatherRadar.Text.Substring
import WeatherRadar.Text.Utf8
import WeatherRadar.Yaml.Node
import WeatherRadar.Yaml.Reading
import WeatherRadar.Yaml.Scalar
import WeatherRadar.Yaml.Token
import WeatherRadar.Proofs.Level3.Isolation
import WeatherRadar.Proofs.Azimuth
import WeatherRadar.Proofs.Geo.Rays
import WeatherRadar.Proofs.Render.Quads
import WeatherRadar.Proofs.Geo.Winding
import WeatherRadar.Proofs.Geo.Wedges
import WeatherRadar.Proofs.Geo.Rotation
import WeatherRadar.Proofs.Geo.Turning
import WeatherRadar.Proofs.Png.Lossless
import WeatherRadar.Proofs.Geo.PolarTable
import WeatherRadar.Proofs.Render.Agreement
import WeatherRadar.Proofs.Level3.ShortReads
import WeatherRadar.Proofs.Level3.Truncation
import WeatherRadar.Proofs.Level3.PackedBlocks
import WeatherRadar.Proofs.Pipeline.Comparison
import WeatherRadar.Proofs.Pipeline.EarlyCheck
import WeatherRadar.Proofs.Level3.WellFormed
import WeatherRadar.Proofs.Level3.HeadingPieces
import WeatherRadar.Proofs.Render.SharedEdges
import WeatherRadar.Proofs.Pipeline.Alone
import WeatherRadar.Proofs.Pipeline.Rounds
import WeatherRadar.Proofs.Pipeline.LayersApart
import WeatherRadar.Proofs.Pipeline.Replays
import WeatherRadar.Proofs.Level3.MissingRadials
import WeatherRadar.Proofs.Level3.Sections
import WeatherRadar.Proofs.Level3.ShortestRuns
import WeatherRadar.Proofs.Level3.Samples
import WeatherRadar.Proofs.Level3.HeaderOnly
import WeatherRadar.Proofs.Geo.Arrangement
import WeatherRadar.Proofs.NotANumber
import WeatherRadar.Proofs.Render.Resampling
import WeatherRadar.Compression.Streaming
import WeatherRadar.Proofs.Compression.Prefixes
import WeatherRadar.Proofs.Compression.Streams
import WeatherRadar.Proofs.Level3.InflatedStreams
import WeatherRadar.Proofs.Png.Searches
import WeatherRadar.Proofs.Render.VertexBudget
import WeatherRadar.Proofs.Geo.WedgeWidths
import WeatherRadar.Proofs.Geo.Search
import WeatherRadar.Proofs.Pipeline.BuiltFrames
import WeatherRadar.Search
import WeatherRadar.Proofs.Search
import WeatherRadar.Proofs.FloatOrder
import WeatherRadar.Proofs.Render.PaletteSteps
import WeatherRadar.Proofs.Render.LevelTable
import WeatherRadar.Proofs.Render.PaletteTables
import WeatherRadar.Proofs.Text.Trimming
import WeatherRadar.Proofs.Text.Ascii
import WeatherRadar.Proofs.Keys
import WeatherRadar.Proofs.Number.Numerals
import WeatherRadar.Proofs.Color
import WeatherRadar.Proofs.Layer
import WeatherRadar.Proofs.SiteCatalog
import WeatherRadar.Proofs.Text.Substrings
import WeatherRadar.Proofs.Text.Braces
import WeatherRadar.Proofs.Pipeline.ConfiguredLayers
import WeatherRadar.Proofs.Pipeline.Addresses
import WeatherRadar.Proofs.Pipeline.NewestFile
import WeatherRadar.Proofs.Number.ScalarOrder
import WeatherRadar.Proofs.BoundingBox
import WeatherRadar.Proofs.Geo.Grid
import WeatherRadar.Proofs.Geo.PixelMap
import WeatherRadar.Proofs.Level3.Words
import WeatherRadar.Proofs.Level3.Readers
import WeatherRadar.Proofs.Level3.ReaderRuns
import WeatherRadar.Proofs.Number.FloatRank
import WeatherRadar.Proofs.Number.FloatRemainder
