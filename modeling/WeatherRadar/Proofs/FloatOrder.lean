import Mathlib.Data.Prod.Lex
import Mathlib.Order.Compare
/-!
# The order of floating-point numbers

A number has a rank: by its sign first, then by its exponent and its mantissa, which count backwards
below zero.  Both zeros have the same rank, and not-a-number has none.  Numbers compare as their
ranks do (`compare_eq_bind`), so that away from not-a-number the order of numbers is total.
-/

namespace WeatherRadar

open Float.Model Float.Model.UnpackedFloat

/-! ## Ranks -/

def rankOf (sign exponent mantissa : Int) : Int ×ₗ Int ×ₗ Int :=
  toLex (sign, toLex (exponent, mantissa))

theorem rankOf_lt_of_lt {s t : Int} (h : s < t) (e m d n : Int) :
    rankOf s e m < rankOf t d n := Prod.Lex.toLex_lt_toLex.2 (Or.inl h)

theorem compare_rankOf (s e m d n : Int) :
    compare (rankOf s e m) (rankOf s d n) = (compare e d).then (compare m n) := by
  simp [rankOf, Prod.Lex.compare_def, compareLex, compareOn]

def rank? : UnpackedFloat → Option (Int ×ₗ Int ×ₗ Int)
  | .notANumber => none
  | .infinity .negative => some (rankOf (-2) 0 0)
  | .finite .negative mantissa exponent _ => some (rankOf (-1) (-exponent) (-mantissa))
  | .zero _ => some (rankOf 0 0 0)
  | .finite .positive mantissa exponent _ => some (rankOf 1 exponent mantissa)
  | .infinity .positive => some (rankOf 2 0 0)

theorem rank?_eq_none_iff (f : UnpackedFloat) : rank? f = none ↔ f.isNaN = true := by
  rcases f with (_ | _) | _ | _ | ⟨_ | _, _, _, _⟩
  case notANumber => exact iff_of_true rfl rfl
  all_goals exact iff_of_false (Option.some_ne_none _) Bool.false_ne_true

/-- The ranks of the infinities are below and above all others. -/
theorem rank?_bounds {f : UnpackedFloat} {r : Int ×ₗ Int ×ₗ Int} (h : r ∈ rank? f) :
    rankOf (-2) 0 0 ≤ r ∧ r ≤ rankOf 2 0 0 := by
  rcases f with (_ | _) | _ | _ | ⟨_ | _, _, _, _⟩
  case notANumber => cases h
  case infinity.negative =>
    obtain rfl := Option.some.inj h
    exact ⟨le_refl _, (rankOf_lt_of_lt (by decide) _ _ _ _).le⟩
  case infinity.positive =>
    obtain rfl := Option.some.inj h
    exact ⟨(rankOf_lt_of_lt (by decide) _ _ _ _).le, le_refl _⟩
  all_goals
    obtain rfl := Option.some.inj h
    exact ⟨(rankOf_lt_of_lt (by decide) _ _ _ _).le, (rankOf_lt_of_lt (by decide) _ _ _ _).le⟩

theorem compare_neg_neg (i j : Int) : compare (-i) (-j) = compare j i := by
  simp only [compare, compareOfLessAndEq, Int.neg_lt_neg_iff, Int.neg_inj, eq_comm]

theorem compare_natCast (m n : Nat) : compare (m : Int) n = compare m n := by
  simp only [compare, compareOfLessAndEq, Int.ofNat_lt, Int.ofNat_inj]

theorem compare_eq_bind (f g : UnpackedFloat) :
    f.compare g = (rank? f).bind fun r => (rank? g).map fun s => compare r s := by
  -- Except for two finite numbers of one sign, the first parts of the ranks decide.
  rcases f with (_ | _) | _ | _ | ⟨_ | _, m, e, _⟩ <;>
    rcases g with (_ | _) | _ | _ | ⟨_ | _, n, d, _⟩
  case finite.negative.finite.negative =>
    show some ((compare e d).then (compare m n)).swap =
      some (compare (rankOf (-1) (-e) (-m)) (rankOf (-1) (-d) (-n)))
    rw [compare_rankOf, compare_neg_neg, compare_neg_neg, compare_natCast, Ordering.swap_then,
      ← Std.OrientedCmp.eq_swap, ← Std.OrientedCmp.eq_swap]
  case finite.positive.finite.positive =>
    show some ((compare e d).then (compare m n)) =
      some (compare (rankOf 1 e m) (rankOf 1 d n))
    rw [compare_rankOf, compare_natCast]
  all_goals rfl

theorem unpacked_le_iff (f g : UnpackedFloat) :
    f.le g = true ↔ ∃ r ∈ rank? f, ∃ s ∈ rank? g, r ≤ s := by
  rw [UnpackedFloat.le, compare_eq_bind]
  cases rank? f <;> cases rank? g <;> simp [← Ordering.ne_gt_iff_isLE, compare_le_iff_le]

theorem unpacked_le_trans {f g h : UnpackedFloat} (hfg : f.le g = true) (hgh : g.le h = true) :
    f.le h = true := by
  obtain ⟨r, hr, s, hs, hrs⟩ := (unpacked_le_iff f g).1 hfg
  obtain ⟨s', hs', t, ht, hst⟩ := (unpacked_le_iff g h).1 hgh
  obtain rfl := Option.mem_unique hs hs'
  exact (unpacked_le_iff f h).2 ⟨r, hr, t, ht, hrs.trans hst⟩

theorem unpacked_lt_iff (f g : UnpackedFloat) :
    f.lt g = true ↔ ∃ r ∈ rank? f, ∃ s ∈ rank? g, r < s := by
  rw [UnpackedFloat.lt, compare_eq_bind]
  cases rank? f <;> cases rank? g <;> simp [compare_lt_iff_lt]

theorem unpacked_not_le_of_isNaN (f : UnpackedFloat) {g : UnpackedFloat} (hg : g.isNaN = true) :
    ¬f.le g = true := by
  rw [unpacked_le_iff, (rank?_eq_none_iff g).2 hg]
  simp

/-- Of two numbers, the first one is less or the second one is at most as great. -/
theorem unpacked_lt_iff_not_le {f g : UnpackedFloat} (hf : f.isNaN = false)
    (hg : g.isNaN = false) : f.lt g = true ↔ ¬g.le f = true := by
  have hsome : ∀ {f : UnpackedFloat}, f.isNaN = false → ∃ r, rank? f = some r := by
    intro f hf
    rw [← Option.ne_none_iff_exists', Ne, rank?_eq_none_iff, hf]
    exact Bool.false_ne_true
  obtain ⟨r, hr⟩ := hsome hf
  obtain ⟨s, hs⟩ := hsome hg
  simp [unpacked_lt_iff, unpacked_le_iff, hr, hs]

theorem unpacked_isNaN_of_isFinite {f : UnpackedFloat} (h : f.isFinite = true) :
    f.isNaN = false := by
  cases f with
  | notANumber => cases h
  | infinity _ => rfl
  | zero _ => rfl
  | finite _ _ _ _ => rfl

/-! ## Numbers of 32 bits -/

namespace Float32

def rank? (x : Float32) : Option (Int ×ₗ Int ×ₗ Int) := WeatherRadar.rank? x.toModel.unpack

variable {x y z : Float32}

theorem le_iff_unpacked : x ≤ y ↔ x.toModel.unpack.le y.toModel.unpack = true := by
  show decide (x.toModel ≤ y.toModel) = true ↔ _
  exact decide_eq_true_iff

theorem lt_iff_unpacked : x < y ↔ x.toModel.unpack.lt y.toModel.unpack = true := by
  show decide (x.toModel < y.toModel) = true ↔ _
  exact decide_eq_true_iff

theorem le_iff : x ≤ y ↔ ∃ r ∈ rank? x, ∃ s ∈ rank? y, r ≤ s :=
  le_iff_unpacked.trans (unpacked_le_iff _ _)

theorem lt_iff : x < y ↔ ∃ r ∈ rank? x, ∃ s ∈ rank? y, r < s :=
  lt_iff_unpacked.trans (unpacked_lt_iff _ _)

theorem le_trans (hxy : x ≤ y) (hyz : y ≤ z) : x ≤ z :=
  le_iff_unpacked.2 (unpacked_le_trans (le_iff_unpacked.1 hxy) (le_iff_unpacked.1 hyz))

theorem lt_trans (hxy : x < y) (hyz : y < z) : x < z := by
  obtain ⟨r, hr, s, hs, hrs⟩ := lt_iff.1 hxy
  obtain ⟨s', hs', t, ht, hst⟩ := lt_iff.1 hyz
  obtain rfl := Option.mem_unique hs hs'
  exact lt_iff.2 ⟨r, hr, t, ht, hrs.trans hst⟩

theorem le_of_lt (h : x < y) : x ≤ y := by
  obtain ⟨r, hr, s, hs, hrs⟩ := lt_iff.1 h
  exact le_iff.2 ⟨r, hr, s, hs, hrs.le⟩

theorem not_le_of_isNaN (x : Float32) (hy : y.isNaN = true) : ¬x ≤ y := by
  rw [le_iff_unpacked]
  exact unpacked_not_le_of_isNaN _ hy

theorem lt_iff_not_le (hx : x.isNaN = false) (hy : y.isNaN = false) : x < y ↔ ¬y ≤ x := by
  rw [lt_iff_unpacked, le_iff_unpacked]
  exact unpacked_lt_iff_not_le hx hy

theorem isNaN_of_isFinite (h : x.isFinite = true) : x.isNaN = false :=
  unpacked_isNaN_of_isFinite h

/-! ## Infinities -/

def infinity : Float32 := 1.0 / 0.0

theorem rank?_infinity : rank? infinity = some (rankOf 2 0 0) := by rfl

theorem rank?_neg_infinity : rank? (-infinity) = some (rankOf (-2) 0 0) := by rfl

/-- A finite number is above negative infinity and below infinity. -/
theorem lt_infinity (h : x.isFinite = true) : -infinity < x ∧ x < infinity := by
  rw [lt_iff, lt_iff, rank?_infinity, rank?_neg_infinity]
  have h : x.toModel.unpack.isFinite = true := h
  rw [rank?]
  generalize x.toModel.unpack = f at h ⊢
  cases f with
  | notANumber => cases h
  | infinity _ => cases h
  | zero _ =>
      constructor <;> exact ⟨_, rfl, _, rfl, rankOf_lt_of_lt (by decide) _ _ _ _⟩
  | finite sign _ _ _ =>
      cases sign <;> constructor <;>
        exact ⟨_, rfl, _, rfl, rankOf_lt_of_lt (by decide) _ _ _ _⟩

end Float32

end WeatherRadar
