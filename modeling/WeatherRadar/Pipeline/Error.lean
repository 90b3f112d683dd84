import WeatherRadar.Geo.Error
import WeatherRadar.Level3.Error
import WeatherRadar.Render.Error
import WeatherRadar.Calendar
import WeatherRadar.Layer
/-!
# What can go wrong with an update

The causes for which a file is not fetched and for which an update of a layer brings no frame,
with the text that reports each.
-/

namespace WeatherRadar.Pipeline

/-- Why no file of a product was fetched. -/
inductive FetchError where
  | invalidTemplate (template : String)
  | unknownProduct (product : ProductCode)
  | noDirectory (product : ProductCode)
  | http (url : String) (status : Nat)
  | request (reason : String)
  | notFound (site : String) (product : ProductCode)
  | io (reason : String)
  deriving DecidableEq, Repr

namespace FetchError

def message : FetchError → String
  | invalidTemplate template => "Invalid URL template '" ++ template ++ "'"
  | unknownProduct product => "Product " ++ toString product.toInt ++ " has no AWIPS category"
  | noDirectory product => "Product " ++ toString product.toInt ++ " has no tgftp directory"
  | http url status => "HTTP " ++ toString status ++ " from " ++ url
  | request reason => "Request failed: " ++ reason
  | notFound site product =>
    "No product " ++ toString product.toInt ++ " found for " ++ site
  | io reason => "I/O error: " ++ reason

def kind : FetchError → String
  | invalidTemplate _ => "invalid_template"
  | unknownProduct _ => "unknown_product"
  | noDirectory _ => "no_directory"
  | http _ _ => "http"
  | request _ => "request"
  | notFound _ _ => "not_found"
  | io _ => "io"

end FetchError

/-- Why an update of a layer brought no frame. -/
inductive UpdateError where
  | fetch (error : FetchError)
  | decode (error : Level3.Error)
  | georeference (error : Geo.GeoError)
  | render (error : Render.RenderError)
  | site (error : MetadataError)
  | stale (layer : LayerId) (candidate current : Instant)
  | unknownLayer (layer : LayerId)
  | workerGone
  | config (reason : String)

namespace UpdateError

def message : UpdateError → String
  | fetch error => "Fetch failed: " ++ error.message
  | decode error => "Decode failed: " ++ error.message
  | georeference error => "Georeference failed: " ++ error.message
  | render error => "Frame build failed: " ++ error.message
  | site error => error.message
  | stale layer candidate current =>
    "Frame for " ++ layer.text ++ " at " ++ candidate.text ++
      " is not newer than the current frame at " ++ current.text
  | unknownLayer layer => "Layer " ++ layer.text ++ " is not configured"
  | workerGone => "Build worker stopped before returning a result"
  | config reason => "Configuration error: " ++ reason

def kind : UpdateError → String
  | fetch _ => "fetch"
  | decode error => error.kind
  | georeference error => error.kind
  | render error => error.kind
  | site error => error.kind
  | stale _ _ _ => "stale"
  | unknownLayer _ => "unknown_layer"
  | workerGone => "worker_gone"
  | config _ => "config"

/-- Whether the product was read but came too late. -/
def isStale : UpdateError → Bool
  | stale _ _ _ => true
  | _ => false

end UpdateError

end WeatherRadar.Pipeline
