import Mathlib.Logic.Function.Basic
import WeatherRadar.Pipeline.Source
import WeatherRadar.Proofs.Number.Numerals
import WeatherRadar.Proofs.Text.Braces
import WeatherRadar.Proofs.Text.Substrings
/-!
# Addresses from templates

A template is made of characters that are no braces and of places.  To fill in one place after
another is to fill in all places at once: what stands in a place has no braces, so that replacing
one place neither makes nor destroys another one (`fill_written`).
-/

namespace WeatherRadar.Pipeline

open WeatherRadar.Level3

/-! ## Pieces of templates -/

/-- A piece of a template. -/
inductive Piece where
  | plain (c : Char) (h : isBrace c = false)
  | place (place : Placeholder)

/-- A piece with some characters in its place. -/
def Piece.written (filling : Placeholder → List Char) : Piece → List Char
  | .plain c _ => [c]
  | .place other => filling other

/-- The text of some pieces, with some characters in each place. -/
def written (filling : Placeholder → List Char) (pieces : List Piece) : List Char :=
  pieces.flatMap (Piece.written filling)

/-- Some places are filled in with characters that are no braces, and the others are as they stand
in a template. -/
def IsFilling (filling : Placeholder → List Char) : Prop :=
  ∀ place, filling place = place.chars ∨ HasNoBraces (filling place)

theorem hasNoBraces_written {filling : Placeholder → List Char} {pieces : List Piece}
    (h : ∀ place, .place place ∈ pieces → HasNoBraces (filling place)) :
    HasNoBraces (written filling pieces) := by
  intro c hc
  obtain ⟨piece, hpiece, hmem⟩ := List.mem_flatMap.1 hc
  cases piece with
  | plain d hd => rwa [List.mem_singleton.1 hmem]
  | place place => exact h place hpiece c hmem

/-! ## Where a place begins -/

theorem Placeholder.chars_ne_nil (place : Placeholder) : place.chars ≠ [] := List.cons_ne_nil _ _

theorem Placeholder.not_isInfix {cs : List Char} (h : HasNoBraces cs) (place : Placeholder) :
    ¬place.chars <:+: cs := by
  intro hwithin
  have hbrace := h _ (hwithin.subset (List.mem_cons_self ..))
  cases hbrace

theorem Placeholder.eq_of_isPrefix : ∀ {place other : Placeholder},
    place.chars <+: other.chars → place = other := by
  intro place other
  cases place <;> cases other <;> decide

theorem beginsNowhere_of_hasNoBraces {cs : List Char} (h : HasNoBraces cs) (place : Placeholder) :
    BeginsNowhere place.chars cs := by
  refine beginsNowhere_of_not_mem fun hmem => ?_
  cases h _ hmem

/-- A place does not begin within another one: the braces of places stand at their ends. -/
theorem beginsNowhere_of_ne {place other : Placeholder} (h : place ≠ other) :
    BeginsNowhere place.chars other.chars := by
  refine ⟨fun rest hbegins => ?_, beginsNowhere_of_not_mem ?_⟩
  · have hother : other.chars <+: other.chars ++ rest := List.prefix_append _ _
    obtain hfront | hfront := List.prefix_or_prefix_of_prefix hbegins hother
    · exact h (Placeholder.eq_of_isPrefix hfront)
    · exact h (Placeholder.eq_of_isPrefix hfront).symm
  · cases other <;> decide

variable {filling : Placeholder → List Char} {place : Placeholder}

/-- A place begins in no piece but itself, and there only if it is not filled in. -/
theorem IsFilling.beginsNowhere (h : IsFilling filling) {piece : Piece}
    (hpiece : piece = .place place → HasNoBraces (filling place)) :
    BeginsNowhere place.chars (piece.written filling) := by
  cases piece with
  | plain c hc => exact beginsNowhere_of_hasNoBraces (List.forall_mem_singleton.2 hc) place
  | place other =>
      by_cases hother : other = place
      · subst hother
        exact beginsNowhere_of_hasNoBraces (hpiece rfl) other
      · obtain hchars | hbraces := h other
        · rw [Piece.written, hchars]
          exact beginsNowhere_of_ne (Ne.symm hother)
        · exact beginsNowhere_of_hasNoBraces hbraces place

theorem written_cons (filling : Placeholder → List Char) (piece : Piece) (pieces : List Piece) :
    written filling (piece :: pieces) = piece.written filling ++ written filling pieces := rfl

theorem IsFilling.occursIn_written (h : IsFilling filling) (hplace : filling place = place.chars)
    (pieces : List Piece) :
    occursIn place.chars (written filling pieces) = true ↔ .place place ∈ pieces := by
  induction pieces with
  | nil => exact iff_of_false Bool.false_ne_true List.not_mem_nil
  | cons piece pieces ih =>
      rw [written_cons]
      by_cases hpiece : piece = .place place
      · subst hpiece
        rw [occursIn_iff_isInfix, Piece.written, hplace]
        exact iff_of_true (List.infix_append [] _ _) (List.mem_cons_self ..)
      · rw [occursIn_pass (h.beginsNowhere fun heq => absurd heq hpiece), ih, List.mem_cons,
          or_iff_right (Ne.symm hpiece)]

/-- To fill in a place in a text is to fill it in wherever it is a piece. -/
theorem IsFilling.fill_written (h : IsFilling filling) (hplace : filling place = place.chars)
    (value : String) (pieces : List Piece) :
    place.fill value (written filling pieces) =
      written (Function.update filling place value.toList) pieces := by
  induction pieces with
  | nil => exact replaceAll_nil
  | cons piece pieces ih =>
      rw [Placeholder.fill] at ih ⊢
      rw [written_cons, written_cons]
      by_cases hpiece : piece = .place place
      · subst hpiece
        rw [Piece.written, Piece.written, hplace, Function.update_self,
          replaceAll_meet place.chars_ne_nil, ih]
      · rw [replaceAll_pass (h.beginsNowhere fun heq => absurd heq hpiece), ih]
        congr 1
        cases piece with
        | plain c _ => rfl
        | place other =>
            have hother : other ≠ place := fun heq => hpiece (heq ▸ rfl)
            rw [Piece.written, Piece.written, Function.update_of_ne hother]

/-! ## What stands in a place -/

/-- What stands in an address for a place, if there is something that can. -/
def Placeholder.value? (site : String) (product : ProductCode) : Placeholder → Option String
  | lowerSite => some (lowerCase (trimBlanks site))
  | upperSite => some (upperCase (trimBlanks site))
  | .product => some (toString product.toInt)
  | lowerCategory => (ProductKind.ofCode? product).map (lowerCase ·.category)
  | upperCategory => (ProductKind.ofCode? product).map (upperCase ·.category)
  | directory => (ProductKind.ofCode? product).bind (·.directory)

theorem hasNoBraces_of_isNumeral {cs : List Char} {n : Int} (h : IsNumeral cs n) :
    HasNoBraces cs := by
  have hdigits : ∀ {digits}, IsDigits digits → HasNoBraces digits := by
    intro digits hdigits c hc
    have hdigit := hdigits.2 c hc
    rw [isBrace, Bool.or_eq_false_iff, beq_eq_false_iff_ne, beq_eq_false_iff_ne]
    constructor <;> rintro rfl <;> cases hdigit
  cases h with
  | unsigned h => exact hdigits h
  | plus h => exact List.forall_mem_cons.2 ⟨by decide, hdigits h⟩
  | minus h => exact List.forall_mem_cons.2 ⟨by decide, hdigits h⟩

theorem of_mem_known {kind : ProductKind} (h : kind ∈ ProductKind.known) :
    HasNoBraces kind.category.toList ∧ upperCase kind.category = kind.category ∧
      ∀ directory ∈ kind.directory, HasNoBraces directory.toList := by
  have hall : ∀ kind ∈ ProductKind.known,
      HasNoBraces kind.category.toList ∧ upperCase kind.category = kind.category ∧
        ∀ directory ∈ kind.directory, HasNoBraces directory.toList := by
    decide +kernel
  exact hall kind h

/-- What stands in a place has no braces if the site has none. -/
theorem hasNoBraces_value {site : String} (hsite : HasNoBraces site.toList) {product : ProductCode}
    {value : String} (h : place.value? site product = some value) : HasNoBraces value.toList := by
  have hknown : ∀ kind, ProductKind.ofCode? product = some kind → kind ∈ ProductKind.known :=
    fun _ hkind => List.mem_of_find?_eq_some hkind
  have htrimmed := hasNoBraces_trimBlanks hsite
  cases place with
  | lowerSite =>
      obtain rfl := Option.some.inj h
      exact hasNoBraces_lowerCase htrimmed
  | upperSite =>
      obtain rfl := Option.some.inj h
      exact hasNoBraces_upperCase htrimmed
  | product =>
      obtain rfl := Option.some.inj h
      exact hasNoBraces_of_isNumeral (isNumeral_toString _)
  | lowerCategory =>
      obtain ⟨kind, hkind, rfl⟩ := Option.map_eq_some_iff.1 h
      exact hasNoBraces_lowerCase (of_mem_known (hknown kind hkind)).1
  | upperCategory =>
      obtain ⟨kind, hkind, rfl⟩ := Option.map_eq_some_iff.1 h
      exact hasNoBraces_upperCase (of_mem_known (hknown kind hkind)).1
  | directory =>
      obtain ⟨kind, hkind, hdirectory⟩ := Option.bind_eq_some_iff.1 h
      exact (of_mem_known (hknown kind hkind)).2.2 value hdirectory

/-! ## Filling in one place after another -/

/-- A text is that of a template with something in some places, the others being as they were. -/
def FilledIn (pieces : List Piece) (site : String) (product : ProductCode)
    (places : List Placeholder) (text : List Char) : Prop :=
  ∃ filling, text = written filling pieces ∧
    (∀ place ∈ places, ∃ value,
      place.value? site product = some value ∧ filling place = value.toList) ∧
    ∀ place, place ∉ places → filling place = place.chars

/-- An address is the text of a template with something in every place, and has no place left. -/
structure IsFilledIn (pieces : List Piece) (site : String) (product : ProductCode) (url : String) :
    Prop where
  values : ∃ values : Placeholder → String,
    (∀ place, .place place ∈ pieces → place.value? site product = some (values place)) ∧
      url.toList = written (fun place => (values place).toList) pieces
  noPlace : ∀ place : Placeholder, ¬place.chars <:+: url.toList

/-- A template has a place for a category or a directory, and its product is unknown. -/
def NeedsKind (pieces : List Piece) (product : ProductCode) : Prop :=
  ((.place .lowerCategory ∈ pieces ∨ .place .upperCategory ∈ pieces) ∨
    .place .directory ∈ pieces) ∧ ProductKind.ofCode? product = none

/-- A template has a place for a directory, and its product is known but has none. -/
def NeedsDirectory (pieces : List Piece) (product : ProductCode) : Prop :=
  .place .directory ∈ pieces ∧
    ∃ kind, ProductKind.ofCode? product = some kind ∧ kind.directory = none

section Steps

variable {pieces : List Piece} {site : String} {product : ProductCode} {kind : ProductKind}
  {places : List Placeholder} {text : List Char}

theorem filledIn_template (pieces : List Piece) (site : String) (product : ProductCode) :
    FilledIn pieces site product [] (written Placeholder.chars pieces) :=
  ⟨Placeholder.chars, rfl, by simp, fun _ _ => rfl⟩

theorem isFilling_of_values (hsite : HasNoBraces site.toList)
    (hfilled : ∀ place ∈ places, ∃ value,
      place.value? site product = some value ∧ filling place = value.toList)
    (hleft : ∀ place, place ∉ places → filling place = place.chars) : IsFilling filling := by
  intro place
  by_cases hplace : place ∈ places
  · obtain ⟨value, hvalue, heq⟩ := hfilled place hplace
    rw [heq]
    exact Or.inr (hasNoBraces_value hsite hvalue)
  · exact Or.inl (hleft place hplace)

namespace FilledIn

theorem occursIn_iff (hsite : HasNoBraces site.toList)
    (h : FilledIn pieces site product places text) (hplace : place ∉ places) :
    occursIn place.chars text = true ↔ .place place ∈ pieces := by
  obtain ⟨filling, rfl, hfilled, hleft⟩ := h
  exact (isFilling_of_values hsite hfilled hleft).occursIn_written (hleft place hplace) pieces

theorem fill (hsite : HasNoBraces site.toList) (h : FilledIn pieces site product places text)
    (hplace : place ∉ places) {value : String} (hvalue : place.value? site product = some value) :
    FilledIn pieces site product (place :: places) (place.fill value text) := by
  obtain ⟨filling, rfl, hfilled, hleft⟩ := h
  have hfilling := isFilling_of_values hsite hfilled hleft
  refine ⟨_, hfilling.fill_written (hleft place hplace) value pieces, fun other hother => ?_,
    fun other hother => ?_⟩
  · by_cases heq : other = place
    · subst heq
      exact ⟨value, hvalue, Function.update_self ..⟩
    · rw [Function.update_of_ne heq]
      exact hfilled other ((List.mem_cons.1 hother).resolve_left heq)
  · rw [List.mem_cons, not_or] at hother
    rw [Function.update_of_ne hother.1, hleft other hother.2]

theorem isFilledIn (hsite : HasNoBraces site.toList) (h : FilledIn pieces site product places text)
    (hall : ∀ place, .place place ∈ pieces → place ∈ places) :
    IsFilledIn pieces site product (String.ofList text) := by
  obtain ⟨filling, rfl, hfilled, -⟩ := h
  have hplaces := fun place hplace => hfilled place (hall place hplace)
  refine ⟨⟨fun place => String.ofList (filling place), fun place hplace => ?_, ?_⟩, fun place => ?_⟩
  · obtain ⟨value, hvalue, heq⟩ := hplaces place hplace
    simp only [hvalue, heq, String.ofList_toList]
  · simp only [String.toList_ofList]
  · rw [String.toList_ofList]
    apply Placeholder.not_isInfix
    apply hasNoBraces_written
    intro place hplace
    obtain ⟨value, hvalue, heq⟩ := hplaces place hplace
    rw [heq]
    exact hasNoBraces_value hsite hvalue

end FilledIn

/-! ## Filling in a template -/

namespace UrlTemplate

theorem filledIn_fillSite (hsite : HasNoBraces site.toList) (pieces : List Piece)
    (product : ProductCode) :
    FilledIn pieces site product [.product, .upperSite, .lowerSite]
      (fillSite (trimBlanks site) product (written Placeholder.chars pieces)) := by
  have hnone := filledIn_template pieces site product
  have hlower : FilledIn pieces site product [.lowerSite] _ :=
    hnone.fill hsite List.not_mem_nil rfl
  have hupper : FilledIn pieces site product [.upperSite, .lowerSite] _ :=
    hlower.fill hsite (by decide) rfl
  exact hupper.fill hsite (by decide) rfl

theorem fillCategory_of_unused (hsite : HasNoBraces site.toList)
    (h : FilledIn pieces site product places text) (hlower : .lowerCategory ∉ places)
    (hupper : .upperCategory ∉ places)
    (hunused : .place .lowerCategory ∉ pieces ∧ .place .upperCategory ∉ pieces) :
    fillCategory product text = .ok text := by
  rw [fillCategory, if_neg]
  · rfl
  · rw [Bool.or_eq_true, h.occursIn_iff hsite hlower, h.occursIn_iff hsite hupper, not_or]
    exact hunused

theorem fillCategory_of_used (hsite : HasNoBraces site.toList)
    (h : FilledIn pieces site product places text) (hlower : .lowerCategory ∉ places)
    (hupper : .upperCategory ∉ places)
    (hused : .place .lowerCategory ∈ pieces ∨ .place .upperCategory ∈ pieces) :
    fillCategory product text = (knownKind product).map fun kind =>
      Placeholder.fill .upperCategory kind.category
        (Placeholder.fill .lowerCategory (lowerCase kind.category) text) := by
  rw [fillCategory, if_pos]
  · rfl
  · rw [Bool.or_eq_true, h.occursIn_iff hsite hlower, h.occursIn_iff hsite hupper]
    exact hused

theorem fillDirectory_of_unused (hsite : HasNoBraces site.toList)
    (h : FilledIn pieces site product places text) (hplace : .directory ∉ places)
    (hunused : .place .directory ∉ pieces) : fillDirectory product text = .ok text := by
  rw [fillDirectory, if_neg]
  · rfl
  · rwa [h.occursIn_iff hsite hplace]

theorem fillDirectory_of_used (hsite : HasNoBraces site.toList)
    (h : FilledIn pieces site product places text) (hplace : .directory ∉ places)
    (hused : .place .directory ∈ pieces) :
    fillDirectory product text =
      (publicDirectory product).map fun directory =>
        Placeholder.fill .directory directory text := by
  rw [fillDirectory, if_pos]
  · rfl
  · rwa [h.occursIn_iff hsite hplace]

theorem publicDirectory_eq (hkind : ProductKind.ofCode? product = some kind) :
    publicDirectory product = match kind.directory with
      | some directory => .ok directory
      | none => .error (.noDirectory product) := by
  rw [publicDirectory, knownKind_of_some hkind]
  rfl

/-- With categories filled in if there are places for them, only the directory is left. -/
theorem exists_fillCategory (hsite : HasNoBraces site.toList) (pieces : List Piece)
    (hkind : ProductKind.ofCode? product = some kind) :
    ∃ places text, fillCategory product
        (fillSite (trimBlanks site) product (written Placeholder.chars pieces)) = .ok text ∧
      FilledIn pieces site product places text ∧ .directory ∉ places ∧
      ∀ place, .place place ∈ pieces → place = .directory ∨ place ∈ places := by
  have hfilled := filledIn_fillSite hsite pieces product
  by_cases hused : .place .lowerCategory ∈ pieces ∨ .place .upperCategory ∈ pieces
  · have hlower : Placeholder.lowerCategory.value? site product =
        some (lowerCase kind.category) := by
      rw [Placeholder.value?, hkind, Option.map_some]
    have hupper : Placeholder.upperCategory.value? site product = some kind.category := by
      rw [Placeholder.value?, hkind, Option.map_some,
        (of_mem_known (List.mem_of_find?_eq_some hkind)).2.1]
    refine ⟨_, _, ?_, (hfilled.fill hsite (by decide) hlower).fill hsite (by decide) hupper,
      by decide, fun place _ => ?_⟩
    · rw [fillCategory_of_used hsite hfilled (by decide) (by decide) hused,
        knownKind_of_some hkind]
      rfl
    · cases place <;> decide
  · rw [not_or] at hused
    refine ⟨_, _, fillCategory_of_unused hsite hfilled (by decide) (by decide) hused, hfilled,
      by decide, fun place hplace => ?_⟩
    cases place with
    | lowerCategory => exact absurd hplace hused.1
    | upperCategory => exact absurd hplace hused.2
    | _ => decide

variable {template : UrlTemplate}

theorem url_of_needsKind (htext : template.text.toList = written Placeholder.chars pieces)
    (hsite : HasNoBraces site.toList) (h : NeedsKind pieces product) :
    template.url site product = .error (.unknownProduct product) := by
  obtain ⟨hneeds, hkind⟩ := h
  have hfilled := filledIn_fillSite hsite pieces product
  rw [url, htext]
  by_cases hused : .place .lowerCategory ∈ pieces ∨ .place .upperCategory ∈ pieces
  · rw [fillCategory_of_used hsite hfilled (by decide) (by decide) hused, knownKind_of_none hkind]
    rfl
  · rw [fillCategory_of_unused hsite hfilled (by decide) (by decide) (not_or.1 hused)]
    show (fillDirectory product _).map String.ofList = _
    rw [fillDirectory_of_used hsite hfilled (by decide) (hneeds.resolve_left hused),
      publicDirectory, knownKind_of_none hkind]
    rfl

theorem url_of_needsDirectory (htext : template.text.toList = written Placeholder.chars pieces)
    (hsite : HasNoBraces site.toList) (h : NeedsDirectory pieces product) :
    template.url site product = .error (.noDirectory product) := by
  obtain ⟨hused, kind, hkind, hdirectory⟩ := h
  obtain ⟨places, text, hcategory, hfilled, hplace, -⟩ :=
    exists_fillCategory hsite pieces hkind
  rw [url, htext, hcategory]
  show (fillDirectory product text).map String.ofList = _
  rw [fillDirectory_of_used hsite hfilled hplace hused, publicDirectory_eq hkind, hdirectory]
  rfl

theorem exists_url (htext : template.text.toList = written Placeholder.chars pieces)
    (hsite : HasNoBraces site.toList) (hkind : ¬NeedsKind pieces product)
    (hdirectory : ¬NeedsDirectory pieces product) :
    ∃ url, template.url site product = .ok url ∧ IsFilledIn pieces site product url := by
  rw [url, htext]
  cases hknown : ProductKind.ofCode? product with
  | none =>
      have hfilled := filledIn_fillSite hsite pieces product
      obtain ⟨hcategories, hunused⟩ := not_or.1 fun hneeds => hkind ⟨hneeds, hknown⟩
      have hunusedCategories := not_or.1 hcategories
      rw [fillCategory_of_unused hsite hfilled (by decide) (by decide) hunusedCategories]
      show ∃ url, (fillDirectory product _).map String.ofList = _ ∧ _
      rw [fillDirectory_of_unused hsite hfilled (by decide) hunused]
      refine ⟨_, rfl, hfilled.isFilledIn hsite fun place hplace => ?_⟩
      cases place with
      | lowerCategory => exact absurd hplace hunusedCategories.1
      | upperCategory => exact absurd hplace hunusedCategories.2
      | directory => exact absurd hplace hunused
      | _ => decide
  | some kind =>
      obtain ⟨places, text, hcategory, hfilled, hplace, hall⟩ :=
        exists_fillCategory hsite pieces hknown
      rw [hcategory]
      show ∃ url, (fillDirectory product text).map String.ofList = _ ∧ _
      by_cases hused : .place .directory ∈ pieces
      · obtain ⟨directory, hsome⟩ := Option.ne_none_iff_exists'.1 fun hnone =>
          hdirectory ⟨hused, kind, hknown, hnone⟩
        have hvalue : Placeholder.directory.value? site product = some directory := by
          rw [Placeholder.value?, hknown, Option.bind_some, hsome]
        rw [fillDirectory_of_used hsite hfilled hplace hused, publicDirectory_eq hknown, hsome]
        refine ⟨_, rfl, (hfilled.fill hsite hplace hvalue).isFilledIn hsite fun place hmem => ?_⟩
        exact List.mem_cons.2 (hall place hmem)
      · rw [fillDirectory_of_unused hsite hfilled hplace hused]
        refine ⟨_, rfl, hfilled.isFilledIn hsite fun place hmem => ?_⟩
        refine (hall place hmem).resolve_left ?_
        rintro rfl
        exact hused hmem

/-- An address is the template with the values of site and product in all of its places, however
often and in whatever order they occur.  There is one unless the template has a place for which
something must be known that is not. -/
theorem url_substitutes (htext : template.text.toList = written Placeholder.chars pieces)
    (hsite : HasNoBraces site.toList) (product : ProductCode) :
    ((∃ url, template.url site product = .ok url) ↔
      ¬NeedsKind pieces product ∧ ¬NeedsDirectory pieces product) ∧
    (template.url site product = .error (.unknownProduct product) ↔ NeedsKind pieces product) ∧
    (template.url site product = .error (.noDirectory product) ↔
      NeedsDirectory pieces product) ∧
    ∀ url, template.url site product = .ok url → IsFilledIn pieces site product url := by
  have hnotBoth : NeedsKind pieces product → ¬NeedsDirectory pieces product := by
    rintro ⟨-, hnone⟩ ⟨-, kind, hsome, -⟩
    rw [hnone] at hsome
    cases hsome
  by_cases hkind : NeedsKind pieces product
  · have hdirectory := hnotBoth hkind
    simp [url_of_needsKind htext hsite hkind, hkind, hdirectory]
  by_cases hdirectory : NeedsDirectory pieces product
  · simp [url_of_needsDirectory htext hsite hdirectory, hkind, hdirectory]
  · obtain ⟨url, hurl, hfilled⟩ := exists_url htext hsite hkind hdirectory
    simp [hurl, hkind, hdirectory, hfilled]

/-- Places side by side and one of them twice, for a product, an unknown one and one without a
directory. -/
theorem url_substitutes_side_by_side :
    let template : UrlTemplate :=
      ⟨"\x7bSITE\x7d\x7bsite\x7d/\x7bdir\x7d.\x7bproduct\x7d\x7bdir\x7d"⟩
    let pieces : List Piece := [.place .upperSite, .place .lowerSite, .plain '/' rfl,
      .place .directory, .plain '.' rfl, .place .product, .place .directory]
    let site := "\tkTlx "
    template.text.toList = written Placeholder.chars pieces ∧ HasNoBraces site.toList ∧
      template.url site 94 = .ok "KTLXktlx/p94r0.94p94r0" ∧
      IsFilledIn pieces site 94 "KTLXktlx/p94r0.94p94r0" ∧
      template.url site 28 = .error (.unknownProduct 28) ∧
      template.url site 153 = .error (.noDirectory 153) := by
  intro template pieces site
  have htext : template.text.toList = written Placeholder.chars pieces := by decide +kernel
  have hsite : HasNoBraces site.toList := by decide
  have hdirectory : Piece.place .directory ∈ pieces := by simp [pieces]
  have hurl : template.url site 94 = .ok "KTLXktlx/p94r0.94p94r0" := by decide +kernel
  refine ⟨htext, hsite, hurl, (url_substitutes htext hsite 94).2.2.2 _ hurl, ?_, ?_⟩
  · exact (url_substitutes htext hsite 28).2.1.2 ⟨Or.inr hdirectory, rfl⟩
  · exact (url_substitutes htext hsite 153).2.2.1.2 ⟨hdirectory, _, rfl, rfl⟩

end UrlTemplate

end Steps

end WeatherRadar.Pipeline
