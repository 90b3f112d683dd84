import WeatherRadar.BoundingBox
import WeatherRadar.Proofs.NotANumber
/-!
# Scalars in a total order

The scalars that can be compared with themselves are in a total order (`OrderedScalar`), which may
have a greatest and a least member (`BoundedScalar`).  In such an order the lesser of two numbers is
their greatest lower bound (`Scalar.le_min_iff`) and the greater one their least upper bound
(`Scalar.max_le_iff`), whichever of two equal numbers they are.  Floating-point numbers are in such
an order, since they compare as their ranks do; the ones that are not in it are not-a-number
(`isNumber_iff`).
-/

namespace WeatherRadar

/-! ## Total orders -/

namespace Scalar

variable {α : Type} [Scalar α] {x y z : α}

/-- A number that can be compared, to itself at least. -/
def IsNumber (x : α) : Prop := le x x = true

end Scalar

open Scalar (IsNumber)

/-- Comparisons by a total order of the numbers that can be compared. -/
class OrderedScalar (α : Type) [Scalar α] : Prop where
  isNumber_of_le : ∀ {x y : α}, Scalar.le x y = true → IsNumber x ∧ IsNumber y
  le_trans : ∀ {x y z : α}, Scalar.le x y = true → Scalar.le y z = true → Scalar.le x z = true
  le_total : ∀ {x y : α}, IsNumber x → IsNumber y → Scalar.le x y = true ∨ Scalar.le y x = true
  lt_iff : ∀ {x y : α},
    Scalar.lt x y = true ↔ IsNumber x ∧ IsNumber y ∧ ¬Scalar.le y x = true

/-- The greatest and the least number are above and below all others. -/
class BoundedScalar (α : Type) [Scalar α] [Unbounded α] : Prop where
  le_top : ∀ {x : α}, IsNumber x → Scalar.le x Unbounded.top = true
  bottom_le : ∀ {x : α}, IsNumber x → Scalar.le Unbounded.bottom x = true
  isNumber_top : IsNumber (Unbounded.top : α)
  isNumber_bottom : IsNumber (Unbounded.bottom : α)
  bottom_lt_top : Scalar.lt (Unbounded.bottom : α) Unbounded.top = true

namespace Scalar

variable {α : Type} [Scalar α] [OrderedScalar α] {x y z : α}

theorem le_of_lt (h : lt x y = true) : le x y = true := by
  obtain ⟨hx, hy, hyx⟩ := OrderedScalar.lt_iff.1 h
  exact (OrderedScalar.le_total hx hy).resolve_right hyx

theorem le_of_not_lt (hx : IsNumber x) (hy : IsNumber y) (h : ¬lt y x = true) : le x y = true :=
  Decidable.not_not.1 fun hle => h (OrderedScalar.lt_iff.2 ⟨hy, hx, hle⟩)

theorem lt_trans (hxy : lt x y = true) (hyz : lt y z = true) : lt x z = true := by
  obtain ⟨hx, -, -⟩ := OrderedScalar.lt_iff.1 hxy
  obtain ⟨-, hz, hzy⟩ := OrderedScalar.lt_iff.1 hyz
  exact OrderedScalar.lt_iff.2 ⟨hx, hz, fun hzx => hzy (OrderedScalar.le_trans hzx (le_of_lt hxy))⟩

theorem min_cases (hx : IsNumber x) (hy : IsNumber y) :
    (min x y = x ∧ le x y = true) ∨ (min x y = y ∧ le y x = true) := by
  have hself : le x x = true := hx
  rw [min, if_pos hself]
  by_cases hlt : lt y x = true
  · rw [if_pos hlt]
    exact Or.inr ⟨rfl, le_of_lt hlt⟩
  · rw [if_neg hlt]
    exact Or.inl ⟨rfl, le_of_not_lt hx hy hlt⟩

theorem max_cases (hx : IsNumber x) (hy : IsNumber y) :
    (max x y = x ∧ le y x = true) ∨ (max x y = y ∧ le x y = true) := by
  have hself : le x x = true := hx
  rw [max, if_pos hself]
  by_cases hlt : lt x y = true
  · rw [if_pos hlt]
    exact Or.inr ⟨rfl, le_of_lt hlt⟩
  · rw [if_neg hlt]
    exact Or.inl ⟨rfl, le_of_not_lt hy hx hlt⟩

theorem isNumber_min (hx : IsNumber x) (hy : IsNumber y) : IsNumber (min x y) := by
  obtain ⟨heq, -⟩ | ⟨heq, -⟩ := min_cases hx hy
  · rwa [heq]
  · rwa [heq]

theorem isNumber_max (hx : IsNumber x) (hy : IsNumber y) : IsNumber (max x y) := by
  obtain ⟨heq, -⟩ | ⟨heq, -⟩ := max_cases hx hy
  · rwa [heq]
  · rwa [heq]

theorem le_min_iff (hx : IsNumber x) (hy : IsNumber y) :
    le z (min x y) = true ↔ le z x = true ∧ le z y = true := by
  obtain ⟨heq, hle⟩ | ⟨heq, hle⟩ := min_cases hx hy
  · rw [heq]
    exact (and_iff_left_of_imp fun hz => OrderedScalar.le_trans hz hle).symm
  · rw [heq]
    exact (and_iff_right_of_imp fun hz => OrderedScalar.le_trans hz hle).symm

theorem max_le_iff (hx : IsNumber x) (hy : IsNumber y) :
    le (max x y) z = true ↔ le x z = true ∧ le y z = true := by
  obtain ⟨heq, hle⟩ | ⟨heq, hle⟩ := max_cases hx hy
  · rw [heq]
    exact (and_iff_left_of_imp fun hz => OrderedScalar.le_trans hle hz).symm
  · rw [heq]
    exact (and_iff_right_of_imp fun hz => OrderedScalar.le_trans hle hz).symm

end Scalar

/-! ## Floating-point numbers -/

section Floats

variable {x y : Float}

theorem scalar_le_iff_unpacked :
    Scalar.le x y = true ↔ x.toModel.unpack.le y.toModel.unpack = true :=
  decide_eq_true_iff.trans (float_le_iff x y)

theorem scalar_le_iff : Scalar.le x y = true ↔
    ∃ r ∈ rank? x.toModel.unpack, ∃ s ∈ rank? y.toModel.unpack, r ≤ s :=
  scalar_le_iff_unpacked.trans (unpacked_le_iff _ _)

theorem scalar_lt_iff : Scalar.lt x y = true ↔
    ∃ r ∈ rank? x.toModel.unpack, ∃ s ∈ rank? y.toModel.unpack, r < s :=
  decide_eq_true_iff.trans ((float_lt_iff x y).trans (unpacked_lt_iff _ _))

theorem isNumber_iff_rank? : IsNumber x ↔ ∃ r, r ∈ rank? x.toModel.unpack := by
  refine scalar_le_iff.trans ⟨?_, ?_⟩
  · rintro ⟨r, hr, -⟩
    exact ⟨r, hr⟩
  · rintro ⟨r, hr⟩
    exact ⟨r, hr, r, hr, le_refl r⟩

theorem isNumber_iff : IsNumber x ↔ x.isNaN = false := by
  have hnone : rank? x.toModel.unpack = none ↔ x.isNaN = true := rank?_eq_none_iff _
  rw [isNumber_iff_rank?, ← Bool.not_eq_true, ← hnone, ← Ne, Option.ne_none_iff_exists']
  rfl

instance : OrderedScalar Float where
  isNumber_of_le h := by
    obtain ⟨r, hr, s, hs, -⟩ := scalar_le_iff.1 h
    exact ⟨isNumber_iff_rank?.2 ⟨r, hr⟩, isNumber_iff_rank?.2 ⟨s, hs⟩⟩
  le_trans hxy hyz := scalar_le_iff_unpacked.2
    (unpacked_le_trans (scalar_le_iff_unpacked.1 hxy) (scalar_le_iff_unpacked.1 hyz))
  le_total hx hy := by
    obtain ⟨r, hr⟩ := isNumber_iff_rank?.1 hx
    obtain ⟨s, hs⟩ := isNumber_iff_rank?.1 hy
    exact (le_total r s).imp (fun h => scalar_le_iff.2 ⟨r, hr, s, hs, h⟩)
      fun h => scalar_le_iff.2 ⟨s, hs, r, hr, h⟩
  lt_iff := by
    intro x y
    rw [isNumber_iff_rank?, isNumber_iff_rank?, scalar_lt_iff, scalar_le_iff]
    cases rank? x.toModel.unpack <;> cases rank? y.toModel.unpack <;> simp

theorem rank?_top : rank? (Unbounded.top : Float).toModel.unpack = some (rankOf 2 0 0) := by rfl

theorem rank?_bottom :
    rank? (Unbounded.bottom : Float).toModel.unpack = some (rankOf (-2) 0 0) := by rfl

instance : BoundedScalar Float where
  le_top hx := by
    obtain ⟨r, hr⟩ := isNumber_iff_rank?.1 hx
    exact scalar_le_iff.2 ⟨r, hr, _, rank?_top, (rank?_bounds hr).2⟩
  bottom_le hx := by
    obtain ⟨r, hr⟩ := isNumber_iff_rank?.1 hx
    exact scalar_le_iff.2 ⟨_, rank?_bottom, r, hr, (rank?_bounds hr).1⟩
  isNumber_top := isNumber_iff_rank?.2 ⟨_, rank?_top⟩
  isNumber_bottom := isNumber_iff_rank?.2 ⟨_, rank?_bottom⟩
  bottom_lt_top := scalar_lt_iff.2
    ⟨_, rank?_bottom, _, rank?_top, rankOf_lt_of_lt (by decide) _ _ _ _⟩

end Floats

end WeatherRadar
