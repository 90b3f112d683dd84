import WeatherRadar.Layer
import WeatherRadar.Proofs.Number.Numerals
import WeatherRadar.Proofs.Text.Ascii
import WeatherRadar.Proofs.Text.Trimming
/-!
# Spellings of layers

A layer is spelled by a site of letters and digits, a slash, and a numeral of its product code, with
blanks around either (`ofText_eq_ok_iff`).  The text of a layer that is read is one of its
spellings, so that layers are the same exactly if their texts are (`ofText_canonical`).
-/

namespace WeatherRadar.LayerId

/-! ## Letters and digits -/

theorem isAlphanumeric_eq (c : Char) : isAlphanumeric c = c.isAlphanum := by
  have hupper : ('A' ≤ c && c ≤ 'Z') = c.isUpper := (Bool.decide_and _ _).symm
  have hletters : c.isAlphanum = (c.isUpper || c.isLower || c.isDigit) := rfl
  rw [isAlphanumeric, hupper, hletters, Bool.or_comm, Bool.or_assoc, Bool.or_comm c.isLower]
  rfl

theorem toNat_lt_of_isAlphanum {c : Char} (h : c.isAlphanum = true) : c.toNat < 128 := by
  rw [← isAlphanumeric_eq, isAlphanumeric] at h
  simp only [Bool.or_eq_true, Bool.and_eq_true, decide_eq_true_eq] at h
  obtain (⟨-, hdigit⟩ | ⟨-, hlower⟩) | ⟨-, hupper⟩ := h
  · exact toNat_lt_of_le hdigit (by decide)
  · exact toNat_lt_of_le hlower (by decide)
  · exact toNat_lt_of_le hupper (by decide)

/-- Letters and digits are no blanks and no slashes, and stay letters and digits in upper case. -/
theorem of_isAlphanum {c : Char} (h : c.isAlphanum = true) :
    isBlank c = false ∧ c ≠ '/' ∧ c.toUpper.isAlphanum = true ∧ c.toUpper.toUpper = c.toUpper := by
  have hascii : ∀ n < 128, (Char.ofNat n).isAlphanum = true →
      isBlank (Char.ofNat n) = false ∧ Char.ofNat n ≠ '/' ∧
        (Char.ofNat n).toUpper.isAlphanum = true ∧
        (Char.ofNat n).toUpper.toUpper = (Char.ofNat n).toUpper := by
    decide
  exact forall_ascii (P := fun c => c.isAlphanum = true → isBlank c = false ∧ c ≠ '/' ∧
    c.toUpper.isAlphanum = true ∧ c.toUpper.toUpper = c.toUpper) hascii (toNat_lt_of_isAlphanum h) h

/-! ## Spellings -/

/-- Some characters spell a site and a code.  The site is what stands in front of the first slash,
trimmed, and has letters and digits only; what stands behind it, trimmed, is a numeral of the code,
and the code has sixteen bits. -/
structure Spells (cs site : List Char) (code : Int) : Prop where
  parts : ∃ left right numeral, cs = left ++ '/' :: right ∧ '/' ∉ left ∧ TrimsTo left site ∧
    TrimsTo right numeral ∧ IsNumeral numeral code
  ne_nil : site ≠ []
  alphanumeric : ∀ c ∈ site, c.isAlphanum = true
  le_code : -32768 ≤ code
  code_le : code ≤ 32767

variable {cs site : List Char} {code : Int} {layer : LayerId}

theorem trimsTo_site (h : ∀ c ∈ site, c.isAlphanum = true) : TrimsTo site site :=
  trimsTo_self fun c hc => (of_isAlphanum (h c hc)).1

theorem toList_ofSite {site : String} (h : ∀ c ∈ site.toList, c.isAlphanum = true)
    (code : ProductCode) : (ofSite site code).site.toList = site.toList.map Char.toUpper := by
  have htrim : trimBlanks site = site :=
    String.toList_inj.1 (toList_trimBlanks_eq_iff.2 (trimsTo_site h))
  rw [ofSite, htrim, toList_upperCase fun c hc => toNat_lt_of_isAlphanum (h c hc)]

/-- The layer of a site of letters and digits and a code that is read. -/
theorem readCode_eq_some_iff {site : String} (h : ∀ c ∈ site.toList, c.isAlphanum = true)
    {numeral : List Char} :
    ((readInteger? 16 numeral).map fun code => ofSite site (Int16.ofInt code)) = some layer ↔
      IsNumeral numeral layer.product.toInt ∧ layer.site.toList = site.toList.map Char.toUpper := by
  rw [Option.map_eq_some_iff]
  constructor
  · rintro ⟨code, hcode, rfl⟩
    obtain ⟨hnumeral, hleast, hmost⟩ := readInteger?_eq_some_iff.1 hcode
    have hproduct : (ofSite site (Int16.ofInt code)).product.toInt = code :=
      Int16.toInt_ofInt_of_le hleast hmost
    rw [hproduct]
    exact ⟨hnumeral, toList_ofSite h _⟩
  · rintro ⟨hnumeral, hupper⟩
    refine ⟨layer.product.toInt, readInteger?_eq_some_iff.2 ⟨hnumeral, ?_, ?_⟩, ?_⟩
    · exact layer.product.le_toInt
    · exact layer.product.toInt_lt
    · have hsite : (ofSite site layer.product).site = layer.site :=
        String.toList_inj.1 ((toList_ofSite h _).trans hupper.symm)
      rw [Int16.ofInt_toInt]
      calc ofSite site layer.product
          = ⟨(ofSite site layer.product).site, layer.product⟩ := rfl
        _ = layer := by rw [hsite]

theorem bne_slash_of_not_mem (h : '/' ∉ cs) : ∀ c ∈ cs, (c != '/') = true := by
  intro c hc
  rw [bne_iff_ne]
  rintro rfl
  exact h hc

/-- What is read in front of the first slash and behind it. -/
theorem ofChars?_slash {left right : List Char} (hleft : '/' ∉ left) :
    ofChars? (left ++ '/' :: right) = some layer ↔
      ∃ site numeral, (TrimsTo left site ∧ site ≠ [] ∧ ∀ c ∈ site, c.isAlphanum = true) ∧
        (TrimsTo right numeral ∧ IsNumeral numeral layer.product.toInt) ∧
        layer.site.toList = site.map Char.toUpper := by
  have hrun := bne_slash_of_not_mem hleft
  have hslash : ∀ c ∈ ('/' :: right).head?, (c != '/') = false := head?_cons rfl
  rw [ofChars?, dropWhile_run hrun hslash, takeWhile_run hrun hslash]
  simp only [trimsTo_iff]
  generalize trimBlanks (String.ofList left) = site
  generalize trimBlanks (String.ofList right) = numeral
  have hguard : (site.isEmpty || !site.toList.all isAlphanumeric) = false ↔
      site.toList ≠ [] ∧ ∀ c ∈ site.toList, c.isAlphanum = true := by
    simp [isAlphanumeric_eq]
  split
  next hfails =>
    constructor
    · intro h
      cases h
    · rintro ⟨_, _, ⟨rfl, hwell⟩, -⟩
      rw [hguard.2 hwell] at hfails
      cases hfails
  next hpasses =>
    obtain ⟨hne, hall⟩ := hguard.1 (Bool.eq_false_iff.2 hpasses)
    rw [readCode_eq_some_iff hall]
    constructor
    · rintro ⟨hcode, hupper⟩
      exact ⟨_, _, ⟨rfl, hne, hall⟩, ⟨rfl, hcode⟩, hupper⟩
    · rintro ⟨_, _, ⟨rfl, -⟩, ⟨rfl, hcode⟩, hupper⟩
      exact ⟨hcode, hupper⟩

theorem ofChars?_eq_some_iff :
    ofChars? cs = some layer ↔
      ∃ site, Spells cs site layer.product.toInt ∧ layer.site.toList = site.map Char.toUpper := by
  constructor
  · intro h
    by_cases hslash : '/' ∈ cs
    · obtain ⟨left, right, rfl, hleft⟩ := List.eq_append_cons_of_mem hslash
      obtain ⟨site, numeral, ⟨hsite, hne, hall⟩, ⟨hright, hnumeral⟩, hupper⟩ :=
        (ofChars?_slash hleft).1 h
      refine ⟨site, ⟨⟨left, right, numeral, rfl, hleft, hsite, hright, hnumeral⟩, hne, hall, ?_,
        ?_⟩, hupper⟩
      · exact layer.product.le_toInt
      · exact Int.le_of_lt_add_one layer.product.toInt_lt
    · have hnone : cs.dropWhile (· != '/') = [] :=
        List.dropWhile_eq_nil_iff.2 (bne_slash_of_not_mem hslash)
      rw [ofChars?, hnone] at h
      cases h
  · rintro ⟨site, ⟨⟨left, right, numeral, rfl, hleft, hsite, hright, hnumeral⟩, hne, hall, -, -⟩,
      hupper⟩
    exact (ofChars?_slash hleft).2
      ⟨site, numeral, ⟨hsite, hne, hall⟩, ⟨hright, hnumeral⟩, hupper⟩

theorem ofText_eq_ok_iff {text : String} :
    ofText text = .ok layer ↔ ∃ site, Spells text.toList site layer.product.toInt ∧
      layer.site.toList = site.map Char.toUpper := by
  rw [← ofChars?_eq_some_iff, ofText]
  cases ofChars? text.toList <;> simp

/-- Every spelling is that of a layer. -/
theorem exists_ofText_of_spells {text : String} (h : Spells text.toList site code) :
    ∃ layer, ofText text = .ok layer := by
  have hcode : (Int16.ofInt code).toInt = code :=
    Int16.toInt_ofInt_of_le h.le_code (Int.lt_add_one_of_le h.code_le)
  refine ⟨⟨String.ofList (site.map Char.toUpper), Int16.ofInt code⟩, ofText_eq_ok_iff.2
    ⟨site, ?_, String.toList_ofList⟩⟩
  rwa [hcode]

theorem ofText_eq_error_iff {text : String} {fault : MetadataError} :
    ofText text = .error fault ↔
      fault = .invalidLayer text ∧ ∀ site code, ¬Spells text.toList site code := by
  constructor
  · intro h
    refine ⟨?_, fun site code hspells => ?_⟩
    · unfold ofText at h
      split at h
      · cases h
      · exact (Except.error.inj h).symm
    · obtain ⟨layer, hlayer⟩ := exists_ofText_of_spells hspells
      rw [hlayer] at h
      cases h
  · rintro ⟨rfl, hnone⟩
    cases hread : ofChars? text.toList with
    | none => rw [ofText, hread]
    | some layer =>
        obtain ⟨site, hspells, -⟩ := ofChars?_eq_some_iff.1 hread
        exact absurd hspells (hnone _ _)

/-! ## Texts of layers -/

theorem isBlank_of_isNumeral {numeral : List Char} (h : IsNumeral numeral code) :
    ∀ c ∈ numeral, isBlank c = false := by
  have hdigits : ∀ {digits}, IsDigits digits → ∀ c ∈ digits, isBlank c = false := by
    intro digits hdigits c hc
    refine (of_isAlphanum ?_).1
    rw [Char.isAlphanum, hdigits.2 c hc, Bool.or_true]
  cases h with
  | unsigned h => exact hdigits h
  | plus h => exact List.forall_mem_cons.2 ⟨by decide, hdigits h⟩
  | minus h => exact List.forall_mem_cons.2 ⟨by decide, hdigits h⟩

theorem toList_text (layer : LayerId) :
    layer.text.toList = layer.site.toList ++ '/' :: (toString layer.product.toInt).toList := by
  simp [text]

/-- The text of a layer that is read spells the layer. -/
theorem ofText_text {text : String} (h : ofText text = .ok layer) :
    ofText layer.text = .ok layer := by
  obtain ⟨site, hspells, hupper⟩ := ofText_eq_ok_iff.1 h
  have hall : ∀ c ∈ layer.site.toList, c.isAlphanum = true ∧ c.toUpper = c := by
    rw [hupper]
    intro c hc
    obtain ⟨d, hd, rfl⟩ := List.mem_map.1 hc
    exact (of_isAlphanum (hspells.alphanumeric d hd)).2.2
  have halphanumeric : ∀ c ∈ layer.site.toList, c.isAlphanum = true := fun c hc => (hall c hc).1
  have hslash : '/' ∉ layer.site.toList := fun hmem => absurd (halphanumeric _ hmem) (by decide)
  have hnumeral := isNumeral_toString layer.product.toInt
  have hfixed : layer.site.toList.map Char.toUpper = layer.site.toList :=
    (List.map_congr_left fun c hc => (hall c hc).2).trans (List.map_id' _)
  have hne : layer.site.toList ≠ [] := by
    rw [hupper]
    exact fun hnil => hspells.ne_nil (List.map_eq_nil_iff.1 hnil)
  refine ofText_eq_ok_iff.2 ⟨layer.site.toList, ⟨⟨_, _, _, toList_text layer, hslash,
    trimsTo_site halphanumeric, trimsTo_self (isBlank_of_isNumeral hnumeral), hnumeral⟩, hne,
    halphanumeric, hspells.le_code, hspells.code_le⟩, hfixed.symm⟩

/-- A text is read as a layer exactly if it spells a site and a code, and the layer has the site in
upper case and the code.  The text of the layer is read as the same layer, so that two texts are
read as the same layer exactly if the layers have the same text. -/
theorem ofText_canonical :
    (∀ text, (∃ layer, ofText text = .ok layer) ↔ ∃ site code, Spells text.toList site code) ∧
    (∀ text layer, ofText text = .ok layer ↔
      ∃ site, Spells text.toList site layer.product.toInt ∧
        layer.site.toList = site.map Char.toUpper) ∧
    (∀ text fault, ofText text = .error fault ↔
      fault = .invalidLayer text ∧ ∀ site code, ¬Spells text.toList site code) ∧
    (∀ text layer, ofText text = .ok layer → ofText layer.text = .ok layer) ∧
    ∀ a b layer other, ofText a = .ok layer → ofText b = .ok other →
      (layer = other ↔ layer.text = other.text) := by
  refine ⟨fun text => ⟨?_, ?_⟩, fun _ _ => ofText_eq_ok_iff, fun _ _ => ofText_eq_error_iff,
    fun _ _ => ofText_text, fun a b layer other ha hb => ⟨congrArg LayerId.text, fun hsame => ?_⟩⟩
  · rintro ⟨layer, h⟩
    obtain ⟨site, hspells, -⟩ := ofText_eq_ok_iff.1 h
    exact ⟨site, _, hspells⟩
  · rintro ⟨site, code, hspells⟩
    exact exists_ofText_of_spells hspells
  · have hlayer := ofText_text ha
    rw [hsame, ofText_text hb] at hlayer
    exact (Except.ok.inj hlayer).symm

/-- A spelling with blanks, lower case, a sign and zeros in front, and the text of another layer. -/
theorem ofText_canonical_spellings :
    let layer : LayerId := ⟨"KTLX", 94⟩
    let other : LayerId := ⟨"KTLX", -32768⟩
    ofText "\tktlx / +0094\n" = .ok layer ∧ ofText layer.text = .ok layer ∧
      ofText "KTLX/-32768" = .ok other ∧ ofText other.text = .ok other ∧
      (layer = other ↔ layer.text = other.text) := by
  intro layer other
  have hlayer : ofText "\tktlx / +0094\n" = .ok layer := by rfl
  have hother : ofText "KTLX/-32768" = .ok other := by rfl
  obtain ⟨-, -, -, hback, hsame⟩ := ofText_canonical
  exact ⟨hlayer, hback _ _ hlayer, hother, hback _ _ hother, hsame _ _ _ _ hlayer hother⟩

end WeatherRadar.LayerId
