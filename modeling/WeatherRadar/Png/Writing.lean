import WeatherRadar.Compression.Codec
import WeatherRadar.Png.Chunk
import WeatherRadar.Png.Error
import WeatherRadar.Png.Indexed
/-!
# Writing image files

Images are written with a palette if they have few colors, and with all channels of each pixel
otherwise.
-/

namespace WeatherRadar.Png

/-- Appends the pixels that bytes spell in fours. -/
def pixelsFrom (found : List Rgba) : List UInt8 → List Rgba
  | r :: g :: b :: a :: rest => pixelsFrom (⟨r, g, b, a⟩ :: found) rest
  | _ => found.reverse

/-- The pixels that bytes spell in fours. -/
def pixelsOf (bytes : List UInt8) : List Rgba := pixelsFrom [] bytes

def pixelBytes (color : Rgba) : List UInt8 := [color.r, color.g, color.b, color.a]

/-- Refuses bytes that are not as many as an image of this size has. -/
def checkLength (bytes : List UInt8) (width height pixelBytes : Nat) : Except ImageFault Unit :=
  let expected := width * height * pixelBytes
  if width == 0 || height == 0 || bytes.length != expected then
    .error (.length bytes.length width height expected)
  else .ok ()

/-- The rows of an image, each after a zero for the filter that is not used. -/
def scanlines (bytes : List UInt8) (rowBytes height : Nat) : List UInt8 :=
  let all := bytes.toArray
  (List.range height).flatMap fun row =>
    0 :: (all.extract (row * rowBytes) ((row + 1) * rowBytes)).toList

def fileBytes (codec : Codec) (width height : Nat) (colorType : ColorType)
    (palette : List UInt8) (bytes : List UInt8) : List UInt8 :=
  signature ++ chunkBytes .header (headerData width height colorType) ++ palette ++
    chunkBytes .imageData (codec.deflateStream
      (scanlines bytes (width * colorType.pixelBytes) height)) ++
    chunkBytes .finish []

/-- The chunks of a palette.  Alpha is left out if no color is transparent. -/
def paletteChunks (palette : List Rgba) : List UInt8 :=
  chunkBytes .palette (palette.flatMap fun color => [color.r, color.g, color.b]) ++
    if palette.any (·.a < 255) then chunkBytes .transparency (palette.map (·.a)) else []

def encodeIndexed (codec : Codec) (width height : Nat) (palette : List Rgba)
    (indices : List UInt8) : Except ImageFault (List UInt8) := do
  checkLength indices width height 1
  if palette.isEmpty || palette.length > maxPaletteSize then
    throw (.paletteSize palette.length)
  return fileBytes codec width height .indexed (paletteChunks palette) indices

def encodeRgba (codec : Codec) (width height : Nat) (bytes : List UInt8) :
    Except ImageFault (List UInt8) := do
  checkLength bytes width height 4
  return fileBytes codec width height .rgba [] bytes

/-- The number of pixels from which on an image is searched for colors in chunks. -/
def chunkedFrom : Nat := 4096

/-- How large images are searched for colors. -/
structure ColorSearch where
  workers : Nat
  /-- The order in which the colors of a chunk are taken. -/
  arrange : Nat → List Rgba → List Rgba

/-- One worker that takes colors as it finds them. -/
def ColorSearch.single : ColorSearch := ⟨1, fun _ colors => colors⟩

/-- The file of an image, with a palette if it has few colors. -/
def encodeWith (codec : Codec) (search : ColorSearch) (width height : Nat)
    (bytes : List UInt8) : Except ImageFault (List UInt8) := do
  checkLength bytes width height 4
  let pixels := pixelsOf bytes
  let image? :=
    if width * height ≥ chunkedFrom then
      IndexedImage.ofChunks? search.arrange search.workers pixels
    else IndexedImage.ofPixels? pixels
  match image? with
  | some image =>
    encodeIndexed codec width height image.palette.toList image.indices.toList
  | none => encodeRgba codec width height bytes

def encode (width height : Nat) (bytes : List UInt8) : Except ImageFault (List UInt8) :=
  encodeWith .standard .single width height bytes

end WeatherRadar.Png
