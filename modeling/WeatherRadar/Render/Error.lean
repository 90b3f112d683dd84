import WeatherRadar.Geo.Error
import WeatherRadar.Level3.Product
import WeatherRadar.Png.Error
/-!
# What can be wrong with a frame

The causes for which a frame, a palette or an image is refused, with the text that reports each.
-/

namespace WeatherRadar.Render

open WeatherRadar.Level3 (UnparsedReason)

/-- Why there is nothing to draw. -/
inductive EmptyReason where
  | unparsed (reason : UnparsedReason)
  | noRadials
  /-- Nothing is known about the data levels of the product. -/
  | unknownProduct (code : ProductCode)
  /-- No radial has both a gate and a direction. -/
  | noGates

/-- The text that reports why there is nothing to draw. -/
def EmptyReason.message : EmptyReason → String
  | unparsed .unknownProduct => "UnknownProduct"
  | unparsed (.unsupportedPacket code) => "UnsupportedPacket(" ++ toString code ++ ")"
  | unparsed .noSymbology => "NoSymbology"
  | noRadials => "no radials"
  | unknownProduct code => "unknown product " ++ toString code.toInt
  | noGates => "no radials with gates"

/-- Why a palette is unusable. -/
inductive PaletteFault where
  | noSteps
  | infiniteBound (bound : Float32)
  | unorderedBounds (bound next : Float32)
  | color (error : MetadataError)
  /-- Another palette, or the same one, is for this product already. -/
  | productTaken (code : ProductCode)
  /-- The palette file does not hold palettes. -/
  | malformed
  | unreadable

def PaletteFault.message : PaletteFault → String
  | noSteps => "no color steps"
  | infiniteBound bound => "non-finite bound " ++ float32Text bound
  | unorderedBounds bound next =>
    "bounds not ascending at " ++ float32Text bound ++ " -> " ++ float32Text next
  | color error => error.message
  | productTaken code => "product " ++ toString code.toInt ++ " already has a palette"
  | malformed => "not a palette file"
  | unreadable => "cannot be read"

/-- Why no frame is built. -/
inductive RenderError where
  | notRenderable (reason : EmptyReason)
  | missingTimestamp
  | noPalette (code : ProductCode)
  | invalidPalette (name : String) (fault : PaletteFault)
  | palettesInstalled
  | geo (error : Geo.GeoError)
  | image (fault : Png.ImageFault)

namespace RenderError

def message : RenderError → String
  | notRenderable reason => "Product has nothing to render: " ++ reason.message
  | missingTimestamp => "Product has no volume scan or generation time"
  | noPalette code => "No palette for product " ++ toString code.toInt
  | invalidPalette name fault => "Invalid palette '" ++ name ++ "': " ++ fault.message
  | palettesInstalled => "Palettes were already installed"
  | geo error => error.message
  | image fault => "Image encoding failed: " ++ fault.message

def kind : RenderError → String
  | notRenderable _ => "not_renderable"
  | missingTimestamp => "missing_timestamp"
  | noPalette _ => "no_palette"
  | invalidPalette _ _ => "invalid_palette"
  | palettesInstalled => "palettes_installed"
  | geo error => error.kind
  | image _ => "encode"

end RenderError

end WeatherRadar.Render
