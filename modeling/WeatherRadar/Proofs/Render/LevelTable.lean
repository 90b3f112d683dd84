import WeatherRadar.Proofs.Level3.Truncation
import WeatherRadar.Render.PaletteTable
/-!
# The table of level colors

Gates are colored by looking up their levels in a table that is made once for a product.  A level
has there what coloring its value gives, in the table and past its end (`getD_ofLevels`).  A product
that is read and has gates is of a known kind (`exists_dataLevels_of_gateLevel?`), and so it has a
table, which gives its gates the colors that the palettes give their values
(`level_table_agrees`).
-/

namespace WeatherRadar.Render

open WeatherRadar.Level3

/-- The level of a gate. -/
def gateLevel? {α : Type} (product : Product α) (radial gate : Nat) : Option UInt16 :=
  product.radials[radial]?.bind fun radial => radial.gates.get? gate

theorem valueAt?_eq {α : Type} (product : Product α) (levels : DataLevels) (radial gate : Nat) :
    product.valueAt? levels radial gate = (gateLevel? product radial gate).map levels.decode := by
  rw [Product.valueAt?, gateLevel?]
  cases product.radials[radial]? with
  | none => rfl
  | some radial =>
      simp only [Option.bind_eq_bind, Option.bind_some]
      cases radial.gates.get? gate <;> rfl

/-- A product that is read and has a gate is of a known kind, for a product of an unknown kind is
only a header. -/
theorem exists_dataLevels_of_gateLevel? {α : Type} [Scalar α] {codec : Codec} {bytes : List UInt8}
    {product : Product α} (hdecode : decodeWith codec bytes = .ok product) {radial gate : Nat}
    {level : UInt16} (hlevel : gateLevel? product radial gate = some level) :
    ∃ levels, product.dataLevels? = some levels := by
  obtain ⟨bytes, heading, hmessage, -⟩ := decodeWith_eq_ok hdecode
  obtain ⟨message, description, rfl | ⟨hknown, symbology, rfl, -⟩⟩ := decodeMessage_eq_ok hmessage
  · simp [gateLevel?] at hlevel
  · rw [← Option.isSome_iff_exists]
    cases symbology <;> rwa [Product.dataLevels?, Option.isSome_map]

namespace LevelColors

/-- A table over the levels gives a level what it gives its value, and past its end what it gives
to no data. -/
theorem getD_ofLevels {β : Type} (levels : DataLevels) (f : DataValue → β) (level : UInt16) :
    (((Array.range levels.size).map fun level => levels.decode (UInt16.ofNat level)).map f).getD
      level.toNat (f .noData) = f (levels.decode level) := by
  rw [Array.getD_eq_getD_getElem?]
  by_cases hlevel : level.toNat < levels.size
  · simp [hlevel]
  · have hpast : levels.decode level = .noData := by
      rw [DataLevels.decode, Array.getD_eq_getD_getElem?,
        Array.getElem?_eq_none (Nat.not_lt.1 hlevel), Option.getD_none]
    simp [hlevel, hpast]

variable (levels : DataLevels) (palette : Palette) (options : ColorOptions)

theorem color_ofLevels (level : UInt16) :
    (ofLevels levels palette options).color level =
      palette.colorFor options (levels.decode level) :=
  getD_ofLevels levels (palette.colorFor options) level

theorem value_ofLevels (level : UInt16) :
    (ofLevels levels palette options).value level =
      (levels.decode level).number?.getD noValue :=
  getD_ofLevels levels (fun value => value.number?.getD noValue) level

theorem isNaN_noValue : noValue.isNaN = true := by decide +kernel

/-- A table holds the colors and the numbers of all levels, those past its end too. -/
structure HoldsLevels (table : LevelColors) : Prop where
  color_eq : ∀ level, table.color level = palette.colorFor options (levels.decode level)
  value_eq : ∀ level number, levels.decode level = .value number → table.value level = number
  /-- Levels that stand for no number have none. -/
  isNaN : ∀ level, (levels.decode level).number? = none → (table.value level).isNaN = true

theorem holdsLevels_ofLevels :
    HoldsLevels levels palette options (ofLevels levels palette options) where
  color_eq := color_ofLevels levels palette options
  value_eq level number hnumber := by rw [value_ofLevels, hnumber]; rfl
  isNaN level hnone := by
    rw [value_ofLevels, hnone]
    exact isNaN_noValue

/-- A level has the color and the number of its value in every table, whatever the thresholds.  A
product that is read and has a gate has levels, and if the palettes have one for the product, then
the table of the two gives the gate the color that the palettes give its value. -/
theorem level_table_agrees (options : ColorOptions) :
    (∀ scheme thresholds palette,
      HoldsLevels (.ofThresholds scheme thresholds) palette options
        (ofLevels (.ofThresholds scheme thresholds) palette options)) ∧
      ∀ (α : Type) [Scalar α] (codec : Codec) (bytes : List UInt8) (product : Product α)
        (palettes : PaletteTable) (palette : Palette),
        decodeWith codec bytes = .ok product →
        palettes.get? product.header.code = some palette →
        ∀ radial gate level, gateLevel? product radial gate = some level →
          ∃ levels value, product.dataLevels? = some levels ∧
            product.valueAt? levels radial gate = some value ∧
            (ofLevels levels palette options).color level =
              palettes.colorize options product.header.code value := by
  constructor
  · exact fun scheme thresholds palette => holdsLevels_ofLevels _ palette options
  · intro α _ codec bytes product palettes palette hdecode hpalette radial gate level hlevel
    obtain ⟨levels, hlevels⟩ := exists_dataLevels_of_gateLevel? hdecode hlevel
    have hvalue : product.valueAt? levels radial gate = some (levels.decode level) := by
      rw [valueAt?_eq, hlevel, Option.map_some]
    refine ⟨levels, levels.decode level, hlevels, hvalue, ?_⟩
    rw [color_ofLevels, PaletteTable.colorize, hpalette, Option.map_some, Option.getD_some]

/-- The first gate of the last radial of a product. -/
theorem level_table_agrees_dropped_sample :
    let palette : Palette :=
      ⟨"Reflectivity", none, [⟨-20.0, .opaqueColor 0 200 0, none⟩], standardRangeFolded⟩
    let palettes : PaletteTable := ⟨[(94, palette)]⟩
    ∃ product : Product Rat, decodeWith Codec.standard droppedSample = .ok product ∧
      palettes.get? product.header.code = some palette ∧ gateLevel? product 1 0 = some 4 ∧
      ∃ levels value, product.dataLevels? = some levels ∧
        product.valueAt? levels 1 0 = some value ∧
        (ofLevels levels palette {}).color 4 =
          palettes.colorize {} product.header.code value := by
  intro palette palettes
  have hchecked : ((decodeWith Codec.standard droppedSample :
      Except Error (Product Rat)).toOption.any fun product =>
        decide (product.header.code = 94 ∧ gateLevel? product 1 0 = some 4)) = true := by
    decide +kernel
  obtain ⟨product, hdecode, hpassed⟩ := exists_ok_of_any hchecked
  obtain ⟨hcode, hlevel⟩ := of_decide_eq_true hpassed
  have hpalette : palettes.get? product.header.code = some palette := by rw [hcode]; rfl
  exact ⟨product, hdecode, hpalette, hlevel,
    (level_table_agrees {}).2 Rat Codec.standard droppedSample product palettes palette hdecode
      hpalette 1 0 4 hlevel⟩

end LevelColors

end WeatherRadar.Render
