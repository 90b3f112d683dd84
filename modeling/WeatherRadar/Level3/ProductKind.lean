import WeatherRadar.Layer
/-!
# Kinds of products

The products that can be read: their names, how their gates are packed, what their data levels
stand for and where they are published.
-/

namespace WeatherRadar.Level3

/-- How the radials of a product are packed. -/
inductive PacketLayout where
  | runLength
  /-- Up to 256 levels, one byte for each gate. -/
  | digital
  deriving DecidableEq, Repr

/-- How data levels stand for values. -/
inductive LevelScheme where
  /-- A flagged threshold for each of sixteen levels. -/
  | flagged
  /-- A least value, an increment and a number of levels. -/
  | linear
  deriving DecidableEq, Repr

/-- What is known about the products of one code. -/
structure ProductKind where
  code : ProductCode
  name : String
  /-- The category in headings and file names. -/
  category : String
  units : String
  layout : PacketLayout
  scheme : LevelScheme
  /-- Length of a gate in meters. -/
  gateSpacing : Nat
  /-- The directory of the public server, if the product is there. -/
  directory : Option String
  deriving Repr

namespace ProductKind

def known : List ProductKind := [
  ⟨19, "Base Reflectivity", "N0R", "dBZ", .runLength, .flagged, 1000, some "p19r0"⟩,
  ⟨20, "Base Reflectivity (248 nm)", "N0Z", "dBZ", .runLength, .flagged, 2000, some "p20-r"⟩,
  ⟨27, "Base Velocity", "N0V", "kt", .runLength, .flagged, 1000, some "p27v0"⟩,
  ⟨30, "Base Spectrum Width", "NSW", "kt", .runLength, .flagged, 1000, some "p30sw"⟩,
  ⟨56, "Storm Relative Mean Radial Velocity", "N0S", "kt", .runLength, .flagged, 1000,
    some "p56rm"⟩,
  ⟨94, "Digital Base Reflectivity", "N0Q", "dBZ", .digital, .linear, 1000, some "p94r0"⟩,
  ⟨99, "Digital Base Velocity", "N0U", "m/s", .digital, .linear, 250, some "p99v0"⟩,
  ⟨153, "Super Resolution Reflectivity", "N0B", "dBZ", .digital, .linear, 250, none⟩,
  ⟨154, "Super Resolution Velocity", "N0G", "m/s", .digital, .linear, 250, none⟩,
  ⟨155, "Super Resolution Spectrum Width", "N0W", "m/s", .digital, .linear, 250, none⟩]

def ofCode? (code : ProductCode) : Option ProductKind := known.find? (·.code == code)

def foldedLetter (c : Char) : Char := c.toUpper

/-- The kind of product with a category, in any case of its letters. -/
def ofCategory? (category : String) : Option ProductKind :=
  let folded := category.toList.map foldedLetter
  known.find? (·.category.toList.map foldedLetter == folded)

end ProductKind

end WeatherRadar.Level3
