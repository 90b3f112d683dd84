import WeatherRadar.Level3.ProductKind
import WeatherRadar.Pipeline.Error
import WeatherRadar.Text.Substring
import WeatherRadar.Text.Utf8
/-!
# Where product files come from

Files are fetched from addresses with places for site and product, or found in a tree of
directories, where the newest file whose name fits is taken.
-/

namespace WeatherRadar.Pipeline

open WeatherRadar.Level3

def knownKind (product : ProductCode) : Except FetchError ProductKind :=
  match ProductKind.ofCode? product with
  | some kind => .ok kind
  | none => .error (.unknownProduct product)

theorem knownKind_of_some {product : ProductCode} {kind : ProductKind}
    (h : ProductKind.ofCode? product = some kind) : knownKind product = .ok kind := by
  rw [knownKind, h]

theorem knownKind_of_none {product : ProductCode} (h : ProductKind.ofCode? product = none) :
    knownKind product = .error (.unknownProduct product) := by
  rw [knownKind, h]

/-- The directory of a product on the public server. -/
def publicDirectory (product : ProductCode) : Except FetchError String := do
  match (← knownKind product).directory with
  | some directory => .ok directory
  | none => .error (.noDirectory product)

/-! ## Addresses -/

/-- An address with places for site and product. -/
structure UrlTemplate where
  text : String
  deriving DecidableEq, Repr

/-- What stands in a template for something to be filled in. -/
inductive Placeholder where
  | lowerSite
  | upperSite
  | product
  | lowerCategory
  | upperCategory
  | directory
  deriving DecidableEq, Repr

def Placeholder.name : Placeholder → String
  | lowerSite => "site"
  | upperSite => "SITE"
  | product => "product"
  | lowerCategory => "category"
  | upperCategory => "CATEGORY"
  | directory => "dir"

/-- A place as it is written: its name in braces. -/
def Placeholder.chars (place : Placeholder) : List Char :=
  '\x7b' :: place.name.toList ++ ['\x7d']

def Placeholder.fill (place : Placeholder) (value : String) (text : List Char) : List Char :=
  replaceAll place.chars value.toList text

namespace UrlTemplate

/-- Reads a template, which must be an address of the web. -/
def ofText (text : String) : Except FetchError UrlTemplate :=
  let text := trimBlanks text
  if text.startsWith "http://" || text.startsWith "https://" then .ok ⟨text⟩
  else .error (.invalidTemplate text)

def fillSite (site : String) (product : ProductCode) (text : List Char) : List Char :=
  Placeholder.fill .product (toString product.toInt) <|
    Placeholder.fill .upperSite (upperCase site) <|
      Placeholder.fill .lowerSite (lowerCase site) text

/-- A text with the category of a product filled in, if there is a place for it. -/
def fillCategory (product : ProductCode) (text : List Char) :
    Except FetchError (List Char) := do
  if occursIn Placeholder.lowerCategory.chars text ||
      occursIn Placeholder.upperCategory.chars text then
    let category := (← knownKind product).category
    return Placeholder.fill .upperCategory category <|
      Placeholder.fill .lowerCategory (lowerCase category) text
  else return text

/-- A text with the public directory of a product filled in, if there is a place for it. -/
def fillDirectory (product : ProductCode) (text : List Char) :
    Except FetchError (List Char) := do
  if occursIn Placeholder.directory.chars text then
    return Placeholder.fill .directory (← publicDirectory product) text
  else return text

/-- The address of the newest file of a product. -/
def url (template : UrlTemplate) (site : String) (product : ProductCode) :
    Except FetchError String := do
  let text := fillSite (trimBlanks site) product template.text.toList
  return String.ofList (← fillDirectory product (← fillCategory product text))

end UrlTemplate

/-! ## Directories -/

/-- When a file was changed. -/
structure FileTime where
  /-- Nanoseconds since the beginning of 1970. -/
  nanoseconds : Int
  deriving DecidableEq, Repr

namespace FileTime

instance : LT FileTime := ⟨fun a b => a.nanoseconds < b.nanoseconds⟩

instance (a b : FileTime) : Decidable (a < b) :=
  inferInstanceAs (Decidable (a.nanoseconds < b.nanoseconds))

def ofInstant (t : Instant) : FileTime := ⟨t.seconds * 1000000000⟩

instance : Coe Instant FileTime := ⟨ofInstant⟩

/-- The beginning of 1970. -/
def epoch : FileTime := ⟨0⟩

end FileTime

/-- Where a file is: the names of the directories down to the file, and its own.  Names are bytes,
which need not spell a text. -/
structure StoredPath where
  names : List (List UInt8)
  deriving DecidableEq, Repr

namespace StoredPath

instance : LT StoredPath := ⟨fun a b => a.names < b.names⟩

instance (a b : StoredPath) : Decidable (a < b) := inferInstanceAs (Decidable (a.names < b.names))

def ofTexts (names : List String) : StoredPath := ⟨names.map Utf8.encode⟩

instance : Coe (List String) StoredPath := ⟨ofTexts⟩

def text (path : StoredPath) : String := "/".intercalate (path.names.map Utf8.decode)

end StoredPath

/-- A file in a tree of directories. -/
structure StoredFile where
  path : StoredPath
  /-- When it was changed, if that can be told. -/
  changed? : Option FileTime
  deriving DecidableEq, Repr

namespace StoredFile

/-- The last name of the path of a file, as a text. -/
def name (file : StoredFile) : String := Utf8.decode (file.path.names.getLast?.getD [])

def text (file : StoredFile) : String := file.path.text

/-- When a file was changed; one for which that cannot be told counts as very old. -/
def changed (file : StoredFile) : FileTime := file.changed?.getD .epoch

/-- Whether a file was changed after another, or together and its path comes after. -/
def isLaterThan (file other : StoredFile) : Bool :=
  other.changed < file.changed || (other.changed == file.changed && other.path < file.path)

def later (best : Option StoredFile) (file : StoredFile) : Option StoredFile :=
  match best with
  | none => some file
  | some other => if file.isLaterThan other then some file else some other

def latest? (files : List StoredFile) : Option StoredFile := files.foldl later none

end StoredFile

/-- A site id without the region letter in front, if there is one. -/
def shortSite (site : String) : String :=
  match site.toList with
  | c :: rest => if site.utf8ByteSize == 4 && c.utf8Size == 1 then String.ofList rest else site
  | [] => site

/-- Whether a file name has the category of a product and a site in it, in any case of letters. -/
def nameFits (category site name : String) : Bool :=
  let name := (upperCase name).toList
  occursIn category.toList name &&
    (occursIn site.toList name || occursIn (shortSite site).toList name)

/-- The newest file of a product of a site. -/
def findLatest (files : List StoredFile) (site : String) (product : ProductCode) :
    Except FetchError StoredFile := do
  let category := (← knownKind product).category
  let site := upperCase (trimBlanks site)
  match StoredFile.latest? (files.filter fun file => nameFits category site file.name) with
  | some file => return file
  | none => throw (.notFound site product)

end WeatherRadar.Pipeline
