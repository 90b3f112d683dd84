import WeatherRadar.Png.Reading
import WeatherRadar.Png.Writing
import WeatherRadar.Report.Basic
import WeatherRadar.Text.Utf8
/-!
# Reports on image files

A file is described by its chunks and by the pixels that a reader sees in it, so that files with
the same image have the same report however their data are compressed.
-/

namespace WeatherRadar.Report

open WeatherRadar.Png

/-- A pixel as hexadecimal digits. -/
def pixel (color : Rgba) : Json := hex (pixelBytes color)

def paletteLength (file : File) : Nat := ((file.data? ['P', 'L', 'T', 'E']).getD []).length / 3

/-- The size of an image, if its header can be read, and the data of its rows. -/
def stored (file : File) : (Nat × Nat × UInt8) × Array UInt8 :=
  (file.header?.getD (0, 0, 6), ((file.rows? .standard).getD []).toArray)

def pngParts (file : File) : List (String × Json) :=
  let ((width, height, colorType), rows) := stored file
  let rowBytes := width * bytesPerPixel colorType + 1
  [("signature", hex file.signature),
    ("ihdr", hex ((file.data? ['I', 'H', 'D', 'R']).getD [])),
    ("trailing", nat file.trailing.length),
    ("raw_len", nat rows.size),
    ("chunks", list (file.chunks.map fun chunk =>
      list [text (Utf8.decode chunk.letters), flag chunk.sound])),
    ("palette_len", nat (paletteLength file)),
    ("trns_len", optional (fun data => nat data.length) (file.data? ['t', 'R', 'N', 'S'])),
    ("filters_zero", flag ((List.range height).all fun row => rows.getD (row * rowBytes) 1 == 0)),
    ("pixel_count", nat (width * height))]

/-- The order of colors by their channels. -/
def colorLe (a b : Rgba) : Bool :=
  let key (c : Rgba) : Nat := bigEndian (pixelBytes c)
  key a ≤ key b

/-- The colors and pixels of a file.  The order of the palette of a large image means nothing. -/
def pngPixels (file : File) : List (String × Json) :=
  let ((width, height, colorType), rows) := stored file
  let found := (unfiltered? rows.toList (width * bytesPerPixel colorType) height).getD []
  let pixels := resolve colorType file.palette.toArray found
  let palette :=
    if width * height ≥ chunkedFrom then file.palette.mergeSort colorLe else file.palette
  let bytes := pixels.flatMap fun color? => (color?.map pixelBytes).getD []
  let shown (color? : Option Rgba) : Json :=
    match color? with
    | some color => pixel color
    | none => text "out of palette"
  [("palette", list (palette.map pixel)), ("pixels", runList shown (pixels.take 1024)),
    ("pixels_crc32", nat (Checksum.crc32 ⟨bytes.toArray⟩).toNat)]

/-- The parts of a file, for a file of some bytes. -/
def png (bytes : List UInt8) : Json := record (pngParts (.ofBytes bytes))

/-- The parts and pixels of a file. -/
def wholePng (bytes : List UInt8) : Json :=
  let file := File.ofBytes bytes
  record (pngParts file ++ pngPixels file)

end WeatherRadar.Report
