/-!
# What can be wrong with an image

The causes for which pixels are not written as an image, with the text that reports each.
-/

namespace WeatherRadar.Png

/-- Why pixels are no image. -/
inductive ImageFault where
  /-- The number of bytes does not fit the size of the image. -/
  | length (actual width height expected : Nat)
  | paletteSize (colors : Nat)

def ImageFault.message : ImageFault → String
  | length actual width height expected =>
    toString actual ++ " bytes for a " ++ toString width ++ "x" ++ toString height ++
      " image, expected " ++ toString expected
  | paletteSize colors => "palette of " ++ toString colors ++ " colors"

end WeatherRadar.Png
