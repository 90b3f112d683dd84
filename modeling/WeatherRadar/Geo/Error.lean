import WeatherRadar.BoundingBox
import WeatherRadar.Error
/-!
# What can be wrong with a place on the map

The causes for which gates cannot be placed on the map, with the text that reports each.
-/

namespace WeatherRadar.Geo

/-- Why the layout of gates along a radial is unusable. -/
inductive GeometryFault where
  | gateSpacing (meters : Float)
  | firstGateRange (meters : Float)
  | elevation (degrees : Float)
  | described (text : String)

def GeometryFault.message : GeometryFault → String
  | gateSpacing meters => "gate spacing " ++ floatText meters ++ " m"
  | firstGateRange meters => "first gate range " ++ floatText meters ++ " m"
  | elevation degrees => "elevation angle " ++ floatText degrees ++ " deg"
  | described text => text

/-- Why a grid of pixels cannot cover a box. -/
inductive GridFault (α : Type) where
  | noPixels (width height : Nat)
  | degenerate (box : BoundingBox α)
  | singular

def GridFault.message : GridFault Float → String
  | noPixels width height => toString width ++ "x" ++ toString height ++ " pixels"
  | degenerate box => "degenerate bounding box " ++ box.describe
  | singular => "singular transform"

/-- Why gates cannot be placed on the map. -/
inductive GeoError where
  | site (id : String) (fault : SiteFault)
  | geometry (fault : GeometryFault)
  | grid (fault : GridFault Float)

namespace GeoError

def message : GeoError → String
  | site id fault => "Georeference error for site '" ++ id ++ "': " ++ fault.message
  | geometry fault => "Invalid gate geometry: " ++ fault.message
  | grid fault => "Invalid raster grid: " ++ fault.message

def kind : GeoError → String
  | site _ _ => "georeference"
  | geometry _ => "invalid_geometry"
  | grid _ => "invalid_grid"

def ofMetadata : MetadataError → GeoError
  | .invalidSite id fault => site id fault
  | .siteNotFound id => site id (.described "site not found")
  | e => site "" (.described e.message)

end GeoError

end WeatherRadar.Geo
