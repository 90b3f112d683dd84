import WeatherRadar.Number.Text
/-!
# What can be wrong with sites, layers and settings

The causes for which a site, a layer name, a color or a settings file is refused, with the text
that reports each.
-/

namespace WeatherRadar

/-- Why the position of a site is unusable. -/
inductive SiteFault where
  | latitude (degrees : Float)
  | longitude (degrees : Float)
  | elevation (meters : Float)
  | described (text : String)
  deriving DecidableEq

def SiteFault.message : SiteFault → String
  | .latitude degrees => "latitude " ++ floatText degrees ++ " out of range"
  | .longitude degrees => "longitude " ++ floatText degrees ++ " out of range"
  | .elevation meters => "elevation " ++ floatText meters ++ " m out of range"
  | .described text => text

/-- Why a site, layer, color or settings file is refused. -/
inductive MetadataError where
  | siteNotFound (id : String)
  | invalidSite (id : String) (fault : SiteFault)
  | invalidLayer (text : String)
  | unknownProduct (code : Int)
  | invalidColor (text : String)
  | config (reason : String)
  | dataRead (reason : String)
  deriving DecidableEq

namespace MetadataError

def message : MetadataError → String
  | siteNotFound id => "Radar site not found: " ++ id
  | invalidSite id fault => "Invalid site metadata for '" ++ id ++ "': " ++ fault.message
  | invalidLayer text => "Invalid layer identifier: " ++ text
  | unknownProduct code => "Unknown product code: " ++ toString code
  | invalidColor text => "Invalid color: " ++ text
  | config reason => "Configuration error: " ++ reason
  | dataRead reason => "Failed to read data: " ++ reason

def kind : MetadataError → String
  | siteNotFound _ => "site_not_found"
  | invalidSite _ _ => "invalid_site"
  | invalidLayer _ => "invalid_layer"
  | unknownProduct _ => "unknown_product"
  | invalidColor _ => "invalid_color"
  | config _ => "config"
  | dataRead _ => "data_read"

def isSiteError : MetadataError → Bool
  | siteNotFound _ | invalidSite _ _ => true
  | _ => false

end MetadataError

end WeatherRadar
