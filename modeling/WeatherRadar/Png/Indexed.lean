import WeatherRadar.Color
/-!
# Images of few colors

An image of at most 256 colors is a palette and, for each pixel, the number of its color.  Large
images are searched for colors in chunks that do not depend on each other; the colors of a chunk
may come in any order, which changes the order of the palette but not the colors of the pixels.
-/

namespace WeatherRadar.Png

/-- The greatest number of colors of a palette. -/
def maxPaletteSize : Nat := 256

/-- A palette, and the number of the color of each pixel. -/
structure IndexedImage where
  palette : Array Rgba
  indices : Array UInt8
  deriving DecidableEq

namespace IndexedImage

def pixel? (image : IndexedImage) (i : Nat) : Option Rgba := do
  image.palette[(← image.indices[i]?).toNat]?

/-- Adds a pixel, and its color if it is new; none if there are too many colors. -/
def push? (image : IndexedImage) (color : Rgba) : Option IndexedImage :=
  match image.palette.idxOf? color with
  | some i => some { image with indices := image.indices.push (UInt8.ofNat i) }
  | none =>
    if image.palette.size ≥ maxPaletteSize then none
    else some ⟨image.palette.push color, image.indices.push (UInt8.ofNat image.palette.size)⟩

/-- The image of some pixels, with its colors in the order in which they occur; none if there are
too many. -/
def ofPixels? (pixels : List Rgba) : Option IndexedImage := pixels.foldlM push? ⟨#[], #[]⟩

def addNew (found : List Rgba) (color : Rgba) : List Rgba :=
  if found.contains color then found else color :: found

/-- The different colors of a chunk; none is added once there are too many. -/
def chunkColors (pixels : List Rgba) : List Rgba :=
  pixels.foldl (fun found color =>
    if found.length > maxPaletteSize then found else addNew found color) []

/-- Adds a color to a palette; none if there are too many. -/
def addColor? (palette : Array Rgba) (color : Rgba) : Option (Array Rgba) :=
  if palette.contains color then some palette
  else if palette.size ≥ maxPaletteSize then none
  else some (palette.push color)

/-- The number of a color of a palette. -/
def indexIn (palette : Array Rgba) (color : Rgba) : UInt8 :=
  UInt8.ofNat ((palette.idxOf? color).getD 0)

/-- Some pixels in chunks of a size. -/
def chunksOf (size : Nat) (pixels : Array Rgba) : List (List Rgba) :=
  (List.range ((pixels.size + size - 1) / size)).map fun i =>
    (pixels.extract (i * size) ((i + 1) * size)).toList

/-- The number of pixels of a chunk, for a number of workers. -/
def chunkSize (workers pixels : Nat) : Nat := max (pixels / workers) 256

/-- The numbers of the colors of pixels, chunk by chunk. -/
def numberChunks (palette : Array Rgba) (chunks : List (List Rgba)) : Array UInt8 :=
  (chunks.flatMap fun chunk => chunk.map (indexIn palette)).toArray

/-- The image of some pixels, with the colors of chunk `i` put in an order by `arrange i`; none if
there are too many colors. -/
def ofChunks? (arrange : Nat → List Rgba → List Rgba) (workers : Nat) (pixels : List Rgba) :
    Option IndexedImage := do
  let all := pixels.toArray
  let chunks := chunksOf (chunkSize workers all.size) all
  let colors := chunks.zipIdx.flatMap fun (chunk, i) => arrange i (chunkColors chunk)
  let palette ← colors.foldlM addColor? #[]
  return ⟨palette, numberChunks palette chunks⟩

end IndexedImage

end WeatherRadar.Png
