import Mathlib.Data.List.GetD
import WeatherRadar.Proofs.Azimuth
import WeatherRadar.Proofs.Geo.Rays
import WeatherRadar.Proofs.Search
/-!
# Going around clockwise

The azimuths at which the radials of a sweep start are met in turn again and again when one goes
around clockwise.  Written one after another, with a full turn added each time, they increase, and
what lies between one and the next is a cell of the circle: every azimuth is in one
(`Winding.exists_cell`) and only in one (`Winding.cell_unique`).  The search in the ascending
starts of a sweep ends at the cell of the azimuth that is looked for (`locate?_eq`).
-/

namespace WeatherRadar.Geo

open AddCommGroup

/-! ## Arcs -/

/-- Whether an azimuth is on the way clockwise from one azimuth to another: the first one is, the
second one is not. -/
def InArc (start finish azimuth : Rat) : Prop :=
  clockwiseDelta start azimuth < clockwiseDelta start finish

theorem InArc.congr {start start' finish finish' azimuth azimuth' : Rat}
    (hstart : start ≡ start' [PMOD 360]) (hfinish : finish ≡ finish' [PMOD 360])
    (hazimuth : azimuth ≡ azimuth' [PMOD 360]) :
    InArc start finish azimuth ↔ InArc start' finish' azimuth' := by
  rw [InArc, InArc, clockwiseDelta_congr hstart hazimuth, clockwiseDelta_congr hstart hfinish]

theorem not_inArc_self (x azimuth : Rat) : ¬ InArc x x azimuth := by
  rw [InArc, clockwiseDelta_self]
  exact not_lt.2 (clockwiseDelta_nonneg x azimuth)

theorem InArc.exists {start finish azimuth : Rat} (hle : start ≤ finish)
    (h : InArc start finish azimuth) : ∃ u, u ≡ azimuth [PMOD 360] ∧ start ≤ u ∧ u < finish := by
  have hnonneg := clockwiseDelta_nonneg start azimuth
  have hway : clockwiseDelta start finish ≤ finish - start := by
    apply clockwiseDelta_le
    · exact sub_nonneg.2 hle
    · rw [add_sub_cancel]
  rw [InArc] at h
  exact ⟨start + clockwiseDelta start azimuth, add_clockwiseDelta_modEq start azimuth,
    by linarith, by linarith⟩

theorem inArc_iff_exists {start finish azimuth : Rat} (hle : start ≤ finish)
    (hlt : finish - start < 360) :
    InArc start finish azimuth ↔ ∃ u, u ≡ azimuth [PMOD 360] ∧ start ≤ u ∧ u < finish := by
  refine ⟨InArc.exists hle, ?_⟩
  rintro ⟨u, hu, hlow, hhigh⟩
  rw [InArc, clockwiseDelta_of_le hle hlt, ← clockwiseDelta_congr modEq_rfl hu,
    clockwiseDelta_of_le hlow (by linarith)]
  linarith

/-! ## Cells -/

/-- Azimuths met in turn on the way around, `n` in each turn. -/
structure Winding (n : Nat) (p : Nat → Rat) : Prop where
  lt_succ (i : Nat) : p i < p (i + 1)
  add_turn (i : Nat) : p (i + n) = p i + 360

namespace Winding

variable {n : Nat} {p : Nat → Rat}

theorem strictMono (h : Winding n p) : StrictMono p := strictMono_nat_of_lt_succ h.lt_succ

theorem add_turns (h : Winding n p) (i turns : Nat) :
    p (i + n * turns) = p i + turns • (360 : Rat) := by
  induction turns with
  | zero => rw [Nat.mul_zero, Nat.add_zero, zero_nsmul, add_zero]
  | succ turns ih => rw [Nat.mul_succ, ← Nat.add_assoc, h.add_turn, ih, succ_nsmul, add_assoc]

theorem sub_lt (h : Winding n p) {i j : Nat} (hlt : j < i + n) : p j - p i < 360 := by
  have hturn := h.strictMono hlt
  rw [h.add_turn] at hturn
  linarith

theorem modEq_of_mod_eq (h : Winding n p) {i j : Nat} (hij : i % n = j % n) :
    p i ≡ p j [PMOD 360] := by
  have hreduce : ∀ k, p k ≡ p (k % n) [PMOD 360] := by
    intro k
    have hturns := h.add_turns (k % n) (k / n)
    rw [Nat.mod_add_div] at hturns
    rw [hturns]
    exact add_nsmul_modEq _
  exact (hreduce i).trans (hij ▸ (hreduce j).symm)

theorem cell_add_turns (h : Winding n p) {i j turns : Nat} {u : Rat} (hi : p i ≤ u)
    (hi' : u < p (i + 1)) (hj : p j ≤ u + turns • (360 : Rat))
    (hj' : u + turns • (360 : Rat) < p (j + 1)) : j = i + n * turns := by
  have hlow : p (i + n * turns) ≤ u + turns • (360 : Rat) := by
    rw [h.add_turns]
    linarith
  have hhigh : u + turns • (360 : Rat) < p (i + n * turns + 1) := by
    rw [Nat.add_right_comm, h.add_turns]
    linarith
  have hij := h.strictMono.lt_iff_lt.1 (hlow.trans_lt hj')
  have hji := h.strictMono.lt_iff_lt.1 (hj.trans_lt hhigh)
  omega

/-- An azimuth is in one cell only. -/
theorem cell_unique (h : Winding n p) {i j : Nat} {u v : Rat} (hi : p i ≤ u) (hi' : u < p (i + 1))
    (hj : p j ≤ v) (hj' : v < p (j + 1)) (hsame : u ≡ v [PMOD 360]) : i % n = j % n := by
  obtain ⟨turns, rfl⟩ := modEq_iff_eq_add_zsmul.1 hsame
  obtain ⟨turns, rfl | rfl⟩ := turns.eq_nat_or_neg
  · rw [natCast_zsmul] at hj hj'
    rw [h.cell_add_turns hi hi' hj hj', Nat.add_mul_mod_self_left]
  · rw [neg_zsmul, natCast_zsmul, ← sub_eq_add_neg] at hj hj'
    rw [← sub_add_cancel u (turns • (360 : Rat))] at hi hi'
    rw [h.cell_add_turns hj hj' hi hi', Nat.add_mul_mod_self_left]

/-- Every azimuth is in a cell that is not before a given one. -/
theorem exists_cell (h : Winding n p) (first : Nat) (azimuth : Rat) :
    ∃ i u, first ≤ i ∧ u ≡ azimuth [PMOD 360] ∧ p i ≤ u ∧ u < p (i + 1) := by
  have hlow := clockwiseDelta_nonneg (p first) azimuth
  have hhigh := clockwiseDelta_lt (p first) azimuth
  have hsame := add_clockwiseDelta_modEq (p first) azimuth
  generalize hu : p first + clockwiseDelta (p first) azimuth = u at hsame
  have habove : u < p (first + n) := by
    rw [h.add_turn]
    linarith
  -- the cells from the first one on, as far as they are needed
  have hsearch : ∀ count, u < p (first + count) →
      ∃ i, first ≤ i ∧ p i ≤ u ∧ u < p (i + 1) := by
    intro count
    induction count with
    | zero =>
        intro hlt
        rw [Nat.add_zero] at hlt
        linarith
    | succ count ih =>
        intro hlt
        by_cases hle : p (first + count) ≤ u
        · exact ⟨first + count, Nat.le_add_right first count, hle, hlt⟩
        · exact ih (not_le.1 hle)
  obtain ⟨i, hi, hle, hlt⟩ := hsearch n habove
  exact ⟨i, u, hi, hsame, hle, hlt⟩

theorem inArc_iff (h : Winding n p) (htwo : 2 ≤ n) (i : Nat) (azimuth : Rat) :
    InArc (p i) (p (i + 1)) azimuth ↔
      ∃ u, u ≡ azimuth [PMOD 360] ∧ p i ≤ u ∧ u < p (i + 1) :=
  inArc_iff_exists (h.lt_succ i).le (h.sub_lt (by omega))

end Winding

/-! ## Ascending azimuths -/

/-- Distinct azimuths, clockwise from north. -/
structure Ascending (azimuths : List Rat) : Prop where
  pairwise : azimuths.Pairwise (· < ·)
  nonneg : ∀ azimuth ∈ azimuths, 0 ≤ azimuth
  lt : ∀ azimuth ∈ azimuths, azimuth < 360

/-- The azimuths met in turn on the way around, starting from north. -/
def unroll (azimuths : List Rat) (i : Nat) : Rat :=
  azimuths.getD (i % azimuths.length) 0 + (i / azimuths.length) • (360 : Rat)

theorem unroll_of_lt {azimuths : List Rat} {i : Nat} (hi : i < azimuths.length) :
    unroll azimuths i = azimuths[i] := by
  rw [unroll, Nat.mod_eq_of_lt hi, Nat.div_eq_of_lt hi, zero_nsmul, add_zero,
    List.getD_eq_getElem _ _ hi]

theorem unroll_add_length {azimuths : List Rat} (hne : 0 < azimuths.length) (i : Nat) :
    unroll azimuths (i + azimuths.length) = unroll azimuths i + 360 := by
  rw [unroll, unroll, Nat.add_mod_right, Nat.add_div_right i hne, succ_nsmul, add_assoc]

theorem unroll_modEq {azimuths : List Rat} {i : Nat} {azimuth : Rat}
    (h : azimuths[i % azimuths.length]? = some azimuth) :
    unroll azimuths i ≡ azimuth [PMOD 360] := by
  rw [unroll, List.getD_eq_getElem?_getD, h, Option.getD_some]
  exact add_nsmul_modEq _

/-- From one azimuth to the next it is as far as in the list, or from the last one across north. -/
theorem unroll_succ {azimuths : List Rat} (hne : 0 < azimuths.length) (i : Nat) :
    (∃ (place : Nat) (hplace : place + 1 < azimuths.length),
      unroll azimuths (i + 1) - unroll azimuths i = azimuths[place + 1] - azimuths[place]) ∨
    ∃ (last : Nat) (hlast : last < azimuths.length),
      unroll azimuths (i + 1) - unroll azimuths i = azimuths[0] + 360 - azimuths[last] := by
  have hmod : i % azimuths.length < azimuths.length := Nat.mod_lt i hne
  have hdiv := Nat.div_add_mod i azimuths.length
  generalize hturns : i / azimuths.length = turns at hdiv
  generalize hplace : i % azimuths.length = place at hdiv hmod
  have hi : i = place + azimuths.length * turns := by omega
  by_cases hnext : place + 1 < azimuths.length
  · -- the next one in the same turn
    refine .inl ⟨place, hnext, ?_⟩
    rw [unroll, unroll, hplace, hturns, hi, Nat.add_right_comm, Nat.add_mul_mod_self_left,
      Nat.add_mul_div_left _ _ hne, Nat.mod_eq_of_lt hnext, Nat.div_eq_of_lt hnext, Nat.zero_add,
      List.getD_eq_getElem _ _ hmod, List.getD_eq_getElem _ _ hnext]
    ring
  · -- the first one in the next turn
    have hsucc : i + 1 = 0 + azimuths.length * (turns + 1) := by
      rw [Nat.mul_succ]
      omega
    refine .inr ⟨place, hmod, ?_⟩
    rw [unroll, unroll, hplace, hturns, hsucc, Nat.add_mul_mod_self_left,
      Nat.add_mul_div_left _ _ hne, Nat.zero_mod, Nat.zero_div, Nat.zero_add, succ_nsmul,
      List.getD_eq_getElem _ _ hmod, List.getD_eq_getElem _ _ hne]
    ring

theorem Ascending.winding {azimuths : List Rat} (h : Ascending azimuths)
    (hne : 0 < azimuths.length) : Winding azimuths.length (unroll azimuths) := by
  refine ⟨fun i => ?_, unroll_add_length hne⟩
  rw [← sub_pos]
  obtain ⟨place, hnext, hway⟩ | ⟨last, hlast, hway⟩ := unroll_succ hne i
  · rw [hway, sub_pos]
    exact List.pairwise_iff_getElem.1 h.pairwise place (place + 1) _ hnext (Nat.lt_succ_self place)
  · have hlow := h.nonneg azimuths[0] (List.getElem_mem hne)
    have hhigh := h.lt azimuths[last] (List.getElem_mem hlast)
    linarith

/-- Azimuths clockwise from north, some of which may be equal. -/
structure Ordered (azimuths : List Rat) : Prop where
  pairwise : azimuths.Pairwise (· ≤ ·)
  nonneg : ∀ azimuth ∈ azimuths, 0 ≤ azimuth
  lt : ∀ azimuth ∈ azimuths, azimuth < 360

theorem Ascending.ordered {azimuths : List Rat} (h : Ascending azimuths) : Ordered azimuths :=
  ⟨h.pairwise.imp le_of_lt, h.nonneg, h.lt⟩

theorem Ordered.unroll_mono {azimuths : List Rat} (h : Ordered azimuths)
    (hne : 0 < azimuths.length) : Monotone (unroll azimuths) := by
  refine monotone_nat_of_le_succ fun i => ?_
  rw [← sub_nonneg]
  obtain ⟨place, hnext, hway⟩ | ⟨last, hlast, hway⟩ := unroll_succ hne i
  · rw [hway, sub_nonneg]
    exact List.pairwise_iff_getElem.1 h.pairwise place (place + 1) _ hnext (Nat.lt_succ_self place)
  · have hlow := h.nonneg azimuths[0] (List.getElem_mem hne)
    have hhigh := h.lt azimuths[last] (List.getElem_mem hlast)
    linarith

theorem unroll_add_turns {azimuths : List Rat} (hne : 0 < azimuths.length) (i turns : Nat) :
    unroll azimuths (i + azimuths.length * turns) = unroll azimuths i + turns • (360 : Rat) := by
  rw [unroll, unroll, Nat.add_mul_mod_self_left, Nat.add_mul_div_left _ _ hne, add_nsmul, add_assoc]

namespace Sweep

open Level3

/-! ## Starts of the radials -/

theorem pairwise_extents (radials : List (Radial Rat)) :
    (extents radials).Pairwise fun extent next => extent.start ≤ next.start := by
  have htrans : ∀ a b c : Extent Rat, Scalar.sortsBefore a.start b.start →
      Scalar.sortsBefore b.start c.start → Scalar.sortsBefore a.start c.start := by
    intro a b c hab hbc
    exact decide_eq_true ((of_decide_eq_true hab).trans (of_decide_eq_true hbc))
  have htotal : ∀ a b : Extent Rat, Scalar.sortsBefore a.start b.start ||
      Scalar.sortsBefore b.start a.start := by
    intro a b
    rw [Bool.or_eq_true]
    exact (le_total a.start b.start).imp (decide_eq_true ·) (decide_eq_true ·)
  exact (List.pairwise_mergeSort htrans htotal _).imp fun hle => of_decide_eq_true hle

/-- Starts are azimuths, in order. -/
theorem ordered_extents (radials : List (Radial Rat)) :
    Ordered ((extents radials).map (·.start)) := by
  refine ⟨List.pairwise_map.2 (pairwise_extents radials), fun azimuth hazimuth => ?_,
    fun azimuth hazimuth => ?_⟩
  · obtain ⟨extent, hextent, rfl⟩ := List.mem_map.1 hazimuth
    obtain ⟨radial, -, -, -, hstart, -⟩ := mem_extents hextent
    exact hstart ▸ normalizeAzimuth_nonneg radial.azimuth
  · obtain ⟨extent, hextent, rfl⟩ := List.mem_map.1 hazimuth
    obtain ⟨radial, -, -, -, hstart, -⟩ := mem_extents hextent
    exact hstart ▸ normalizeAzimuth_lt radial.azimuth

theorem ascending_of_pairwise {radials : List (Radial Rat)}
    (h : ((extents radials).map (·.start)).Pairwise (· < ·)) :
    Ascending ((extents radials).map (·.start)) :=
  ⟨h, (ordered_extents radials).nonneg, (ordered_extents radials).lt⟩

/-! ## Looking for an azimuth -/

/-- The starts that are not behind an azimuth come first. -/
theorem isPartitioned_of_pairwise {starts : List Rat} (h : starts.Pairwise (· ≤ ·)) (x : Rat) :
    IsPartitioned (Scalar.le · x) starts := by
  refine h.imp fun {a b} hab hb => ?_
  rw [scalar_le_rat] at hb ⊢
  exact hab.trans hb

/-- The search counts the starts that are not behind an azimuth. -/
theorem partitionPoint_starts {starts : List Rat} (h : starts.Pairwise (· ≤ ·)) (x : Rat) :
    partitionPoint (Scalar.le · x) starts.toArray = starts.countP (· ≤ x) :=
  partitionPoint_eq_countP (isPartitioned_of_pairwise h x)

/-- Whether an azimuth is in a wedge. -/
def InWedge (sweep : Sweep Rat) (span : RadialSpan) (azimuth : Rat) : Prop :=
  InArc (sweep.ray span.startRay) (sweep.ray span.endRay) azimuth

theorem covers_iff (sweep : Sweep Rat) (span : RadialSpan) (azimuth : Rat) :
    sweep.covers span azimuth = true ↔ sweep.InWedge span azimuth := scalar_lt_rat _ _

theorem inWedge_of_find? {sweep : Sweep Rat} {spans : List RadialSpan} {azimuth : Rat}
    {span : RadialSpan} (h : spans.find? (sweep.covers · azimuth) = some span) :
    span ∈ spans ∧ sweep.InWedge span azimuth := by
  have hcovers := List.find?_some h
  rw [covers_iff] at hcovers
  exact ⟨List.mem_of_find?_eq_some h, hcovers⟩

theorem covers_congr (sweep : Sweep Rat) (span : RadialSpan) {azimuth azimuth' : Rat}
    (h : azimuth ≡ azimuth' [PMOD 360]) :
    sweep.covers span azimuth = sweep.covers span azimuth' := by
  simp only [covers, clockwiseDelta_congr modEq_rfl h]

/-- The starts that are not behind an azimuth end between the one before it and the one behind
it. -/
theorem unroll_countP {starts : List Rat} (h : Ordered starts) (hne : 0 < starts.length)
    {x : Rat} (hnonneg : 0 ≤ x) (hlt : x < 360) {count : Nat}
    (hcount : starts.countP (· ≤ x) = count) :
    unroll starts (count + starts.length - 1) ≤ x + 360 ∧ x < unroll starts count := by
  obtain ⟨hle, hplace⟩ := partitionPoint_spec (isPartitioned_of_pairwise h.pairwise x)
  rw [partitionPoint_starts h.pairwise, hcount] at hle hplace
  simp only [List.size_toArray, List.getElem_toArray, scalar_le_rat] at hle hplace
  constructor
  · cases count with
    | zero =>
        rw [Nat.zero_add, unroll_of_lt (by omega)]
        have := h.lt _ (List.getElem_mem (show starts.length - 1 < starts.length by omega))
        linarith
    | succ before =>
        rw [show before + 1 + starts.length - 1 = before + starts.length by omega,
          unroll_add_length hne, unroll_of_lt (by omega)]
        have := (hplace before (by omega)).2 (Nat.lt_succ_self before)
        linarith
  · obtain rfl | hbefore := Nat.eq_or_lt_of_le hle
    · have hfirst := h.nonneg _ (List.getElem_mem hne)
      have hturn := unroll_add_length hne 0
      rw [Nat.zero_add, unroll_of_lt hne] at hturn
      linarith
    · rw [unroll_of_lt hbefore, ← not_le, hplace count hbefore]
      exact Nat.lt_irrefl count

/-- The wedge in a place on the circle, and those next to it. -/
def candidates (spans : Array RadialSpan) (i : Nat) : List RadialSpan :=
  [i % spans.size, (i + 1) % spans.size, (i + spans.size - 1) % spans.size].filterMap (spans[·]?)

/-- Whether a place on a circle of `n` is the one that is looked at, or next to it. -/
def AreNear (n i looked : Nat) : Prop :=
  i % n = looked % n ∨ i % n = (looked + 1) % n ∨ (i + 1) % n = looked % n

instance (n i looked : Nat) : Decidable (AreNear n i looked) := inferInstanceAs (Decidable (_ ∨ _))

@[simp] theorem areNear_mod_left (n i looked : Nat) :
    AreNear n (i % n) looked ↔ AreNear n i looked := by
  rw [AreNear, Nat.mod_mod, Nat.mod_add_mod, AreNear]

@[simp] theorem areNear_mod_right (n i looked : Nat) :
    AreNear n i (looked % n) ↔ AreNear n i looked := by
  rw [AreNear, Nat.mod_mod, Nat.mod_add_mod, AreNear]

theorem areNear_of_le {n place i looked : Nat} (hplace : place % n = (i + 1) % n)
    (hlow : i ≤ looked) (hhigh : looked ≤ i + 2) : AreNear n place looked := by
  obtain rfl | rfl | rfl : looked = i ∨ looked = i + 1 ∨ looked = i + 2 := by omega
  · exact .inr (.inl hplace)
  · exact .inl hplace
  · exact .inr (.inr (Nat.ModEq.add_right 1 hplace))

theorem mem_candidates_iff {spans : Array RadialSpan} {looked : Nat} {span : RadialSpan} :
    span ∈ candidates spans looked ↔
      ∃ i, spans[i]? = some span ∧ AreNear spans.size i looked := by
  have hplace : ∀ i, spans[i]? = some span → i < spans.size := fun i hi =>
    (Array.getElem?_eq_some_iff.1 hi).1
  have hbefore : ∀ i, i < spans.size →
      (i = (looked + spans.size - 1) % spans.size ↔
        (i + 1) % spans.size = looked % spans.size) := by
    intro i hi
    rw [before_congr (Nat.mod_mod looked _).symm,
      before_eq_iff hi (Nat.mod_lt looked (by omega)), eq_comm]
  rw [candidates, List.mem_filterMap]
  constructor
  · rintro ⟨i, hi, hspan⟩
    have hlt := hplace i hspan
    refine ⟨i, hspan, ?_⟩
    rw [AreNear, ← hbefore i hlt, Nat.mod_eq_of_lt hlt]
    simpa using hi
  · rintro ⟨i, hspan, hnear⟩
    have hlt := hplace i hspan
    refine ⟨i, ?_, hspan⟩
    rw [AreNear, ← hbefore i hlt, Nat.mod_eq_of_lt hlt] at hnear
    simpa using hnear

/-- The place of the radial that is met last on the way clockwise from north to an azimuth; it is
the last one of all if there is none before. -/
def metLast (starts : List Rat) (azimuth : Rat) : Nat :=
  (starts.countP (· ≤ normalizeAzimuth azimuth) + starts.length - 1) % starts.length

/-- An azimuth is looked for in the wedge of the radial that is met last, and in those next to
it. -/
theorem locate?_eq_find? {sweep : Sweep Rat} {starts : List Rat} (h : Ordered starts)
    (hne : 0 < starts.length) (hstarts : sweep.nominalStarts = starts.toArray)
    (hspans : sweep.spans.size = starts.length) (azimuth : Rat) :
    sweep.locate? azimuth =
      (candidates sweep.spans (metLast starts azimuth)).find? (sweep.covers · azimuth) := by
  have hsize : sweep.size = starts.length := hspans
  have hzero : (starts.length == 0) = false := beq_eq_false_iff_ne.2 (by omega)
  have hcovers : (fun span => sweep.covers span (normalizeAzimuth azimuth)) =
      fun span => sweep.covers span azimuth :=
    funext fun span => sweep.covers_congr span (normalizeAzimuth_modEq azimuth)
  simp only [locate?, hsize, hzero, scalar_isFinite_rat, Bool.not_true, Bool.or_self, hstarts,
    partitionPoint_starts h.pairwise, hcovers, candidates, hspans, metLast, Nat.mod_mod]
  rw [if_neg Bool.false_ne_true]

/-- An azimuth is behind the start of the radial that is met last, and before that of the next
one. -/
theorem exists_cell_metLast {starts : List Rat} (h : Ordered starts) (hne : 0 < starts.length)
    (first : Nat) (azimuth : Rat) :
    ∃ i u, first ≤ i ∧ i % starts.length = metLast starts azimuth ∧ u ≡ azimuth [PMOD 360] ∧
      unroll starts i ≤ u ∧ u < unroll starts (i + 1) := by
  obtain ⟨hlow, hhigh⟩ := unroll_countP h hne (normalizeAzimuth_nonneg azimuth)
    (normalizeAzimuth_lt azimuth) rfl
  rw [metLast]
  generalize starts.countP (· ≤ normalizeAzimuth azimuth) = count at hlow hhigh ⊢
  obtain ⟨last, hlast⟩ : ∃ last, count + starts.length = last + 1 :=
    Nat.exists_eq_add_one.2 (by omega)
  have hturn := unroll_add_length hne count
  rw [hlast] at hlow hturn ⊢
  rw [Nat.add_sub_cancel] at hlow ⊢
  have hlarge : first ≤ starts.length * first := Nat.le_mul_of_pos_left first hne
  refine ⟨last + starts.length * first, normalizeAzimuth azimuth + 360 + first • 360,
    by omega, Nat.add_mul_mod_self_left _ _ _, ?_, ?_, ?_⟩
  · exact (add_nsmul_modEq _).trans
      ((add_self_modEq _).trans (normalizeAzimuth_modEq azimuth))
  · rw [unroll_add_turns hne]
    linarith
  · rw [Nat.add_right_comm, unroll_add_turns hne]
    linarith

theorem candidates_congr {spans : Array RadialSpan} {i j : Nat}
    (h : i % spans.size = j % spans.size) : candidates spans i = candidates spans j := by
  have hnext : (i + 1) % spans.size = (j + 1) % spans.size := Nat.ModEq.add_right 1 h
  rw [candidates, candidates, h, hnext, before_congr h]

/-- An azimuth is looked for in the wedge of its cell and in those next to it. -/
theorem locate?_eq {sweep : Sweep Rat} {starts : List Rat} (h : Ordered starts)
    (hne : 0 < starts.length) (hstarts : sweep.nominalStarts = starts.toArray)
    (hspans : sweep.spans.size = starts.length) (first : Nat) (azimuth : Rat) :
    ∃ i u, first ≤ i ∧ u ≡ azimuth [PMOD 360] ∧ unroll starts i ≤ u ∧ u < unroll starts (i + 1) ∧
      sweep.locate? azimuth = (candidates sweep.spans i).find? (sweep.covers · azimuth) := by
  obtain ⟨i, u, hfirst, hi, hu, hlow, hhigh⟩ := exists_cell_metLast h hne first azimuth
  refine ⟨i, u, hfirst, hu, hlow, hhigh, ?_⟩
  have hplace : metLast starts azimuth % sweep.spans.size = i % sweep.spans.size := by
    rw [hspans, ← hi, Nat.mod_mod]
  rw [locate?_eq_find? h hne hstarts hspans, candidates_congr hplace]

theorem locate?_of_isEmpty {sweep : Sweep Rat} (h : sweep.spans.size = 0) (azimuth : Rat) :
    sweep.locate? azimuth = none := by
  simp only [locate?, size, h, beq_self_eq_true, Bool.true_or, if_true]

theorem locate?_congr (sweep : Sweep Rat) {azimuth azimuth' : Rat}
    (h : azimuth ≡ azimuth' [PMOD 360]) : sweep.locate? azimuth = sweep.locate? azimuth' := by
  simp only [locate?, scalar_isFinite_rat, normalizeAzimuth_eq_normalizeAzimuth_iff.2 h]

end Sweep

end WeatherRadar.Geo
