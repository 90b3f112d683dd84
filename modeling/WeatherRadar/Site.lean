import WeatherRadar.Error
import WeatherRadar.Json.Reader
import WeatherRadar.Json.Record
import WeatherRadar.Text.Blank
import WeatherRadar.Text.Case
/-!
# Radar sites

A site is a named antenna position.  The catalog holds sites by id; three letters find the site
whose id adds a region letter in front of them.
-/

namespace WeatherRadar

/-- The position of a radar antenna. -/
structure Site where
  id : String
  name : String
  latitude : Float
  longitude : Float
  elevation : Float
  deriving DecidableEq

namespace Site

/-- A site without a name. -/
def unnamed (id : String) (latitude longitude elevation : Float) : Site :=
  ⟨id, "", latitude, longitude, elevation⟩

def fault? (site : Site) : Option SiteFault :=
  if !(site.latitude.isFinite && -90.0 ≤ site.latitude && site.latitude ≤ 90.0) then
    some (.latitude site.latitude)
  else if !(site.longitude.isFinite && -180.0 ≤ site.longitude && site.longitude ≤ 180.0) then
    some (.longitude site.longitude)
  else if !(site.elevation.isFinite && -500.0 ≤ site.elevation && site.elevation ≤ 9000.0) then
    some (.elevation site.elevation)
  else none

def validate (site : Site) : Except MetadataError Unit :=
  match site.fault? with
  | some fault => .error (.invalidSite site.id fault)
  | none => .ok ()

def ofJson? (json : Json) : Option Site := do
  let record ← Json.record? ["id", "name", "latitude", "longitude", "elevation_m"] json
  return {
    id := ← record.required "id" Json.string?
    name := ← record.defaulted "name" "" Json.string?
    latitude := ← record.required "latitude" Json.float?
    longitude := ← record.required "longitude" Json.float?
    elevation := ← record.required "elevation_m" Json.float? }

end Site

/-- Sites by id.  No two have the same id, and every id is in normal form. -/
structure SiteCatalog where
  sites : List Site

namespace SiteCatalog

/-- The form in which ids are stored and looked up. -/
def normalId (id : String) : String := upperCase (trimBlanks id)

def empty : SiteCatalog := ⟨[]⟩

/-- Puts a site under its id, in place of one that is there. -/
def insert (catalog : SiteCatalog) (site : Site) : SiteCatalog :=
  let site := { site with id := normalId site.id }
  ⟨site :: catalog.sites.filter (·.id != site.id)⟩

/-- The catalog of some sites, later ones in place of earlier ones. -/
def ofSites (sites : List Site) : SiteCatalog := sites.foldl insert empty

def get? (catalog : SiteCatalog) (id : String) : Option Site :=
  catalog.sites.find? (·.id == id)

def size (catalog : SiteCatalog) : Nat := catalog.sites.length

def ids (catalog : SiteCatalog) : List String :=
  (catalog.sites.map (·.id)).mergeSort fun a b => a ≤ b

/-- The only site whose id ends with a text. -/
def onlyEndingWith? (catalog : SiteCatalog) (ending : String) : Option Site :=
  match catalog.sites.filter fun site => ending.toList.isSuffixOf site.id.toList with
  | [site] => some site
  | _ => none

/-- The site that a query means: the one of that id, or for three letters the one with a `K` in
front, or the only one that ends with them. -/
def find? (catalog : SiteCatalog) (query : String) : Option Site :=
  let id := normalId query
  catalog.get? id <|>
    if id.utf8ByteSize == 3 then
      catalog.get? ("K" ++ id) <|> catalog.onlyEndingWith? id
    else none

/-- The usable site that a query means. -/
def lookup (catalog : SiteCatalog) (query : String) : Except MetadataError Site :=
  match catalog.find? query with
  | none => .error (.siteNotFound query)
  | some site => site.validate.map fun _ => site

def ofJson (text : String) : Except MetadataError SiteCatalog :=
  let sites? := do
    let record ← Json.record? ["sites"] (← Json.parse? text)
    record.required "sites" (Json.list? Site.ofJson?)
  match sites? with
  | some sites => .ok (ofSites sites)
  | none => .error (.config "JSON error: not a site catalog")

/-- The catalog that is used when no other is configured. -/
def standard : SiteCatalog := ofSites [
  ⟨"KAMX", "Miami, FL", 25.6111, -80.4128, 4.0⟩,
  ⟨"KDIX", "Philadelphia, PA", 39.9469, -74.4108, 45.0⟩,
  ⟨"KFWS", "Dallas/Ft. Worth, TX", 32.5730, -97.3031, 208.0⟩,
  ⟨"KINX", "Tulsa, OK", 36.1750, -95.5644, 204.0⟩,
  ⟨"KLOT", "Chicago, IL", 41.6044, -88.0847, 202.0⟩,
  ⟨"KMUX", "San Francisco, CA", 37.1553, -121.8983, 1057.0⟩,
  ⟨"KOKX", "New York City, NY", 40.8656, -72.8639, 26.0⟩,
  ⟨"KTLX", "Oklahoma City, OK", 35.3331, -97.2778, 370.0⟩,
  ⟨"KVNX", "Vance AFB, OK", 36.7408, -98.1278, 369.0⟩,
  ⟨"PAHG", "Anchorage, AK", 60.7258, -151.3514, 74.0⟩]

end SiteCatalog

end WeatherRadar
