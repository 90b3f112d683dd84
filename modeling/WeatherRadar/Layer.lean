import WeatherRadar.Error
import WeatherRadar.Number.Reading
import WeatherRadar.Text.Blank
import WeatherRadar.Text.Case
/-!
# Layers

A layer is one product of one radar site, written `SITE/CODE`.
-/

namespace WeatherRadar

abbrev ProductCode := Int16

/-- One product of one site. -/
structure LayerId where
  site : String
  product : ProductCode
  deriving DecidableEq, Repr

namespace LayerId

/-- The layer of a site, whose id is trimmed and put in upper case. -/
def ofSite (site : String) (product : ProductCode) : LayerId :=
  ⟨upperCase (trimBlanks site), product⟩

def text (layer : LayerId) : String := layer.site ++ "/" ++ toString layer.product.toInt

/-- Whether a character is a letter or digit of ASCII. -/
def isAlphanumeric (c : Char) : Bool :=
  ('0' ≤ c && c ≤ '9') || ('a' ≤ c && c ≤ 'z') || ('A' ≤ c && c ≤ 'Z')

/-- The layer that characters spell: a site of letters and digits, a slash, and a code, with blanks
around either. -/
def ofChars? (cs : List Char) : Option LayerId :=
  match cs.dropWhile (· != '/') with
  | [] => none
  | _ :: code =>
    let site := trimBlanks (String.ofList (cs.takeWhile (· != '/')))
    if site.isEmpty || !site.toList.all isAlphanumeric then none
    else (readInteger? 16 (trimBlanks (String.ofList code)).toList).map fun code =>
      ofSite site (Int16.ofInt code)

def ofText (text : String) : Except MetadataError LayerId :=
  match ofChars? text.toList with
  | some layer => .ok layer
  | none => .error (.invalidLayer text)

/-- The order of layers: by site, then by code. -/
def le (a b : LayerId) : Bool :=
  a.site < b.site || (a.site == b.site && a.product.toInt ≤ b.product.toInt)

end LayerId

end WeatherRadar
