import WeatherRadar.Proofs.Number.ScalarOrder
/-!
# The lattice of boxes

One box is within another one if its edges are those of the other one or further in.  In this order
the union of boxes is the least box around both (`union_within_iff`), the overlap is the greatest
box in both (`within_overlap_iff`), the empty box is within all, and the box of some points is the
least one around them (`hull_within_iff`).  Boxes within the same boxes have equal coordinates
(`same_of_within_iff`), so the laws of unions, and that the order of points does not matter, follow
from these.  A point in a box is a box within it (`contains_iff`).
-/

namespace WeatherRadar

open Scalar (IsNumber)

namespace BoundingBox

/-! ## The order of boxes -/

section Order

variable {α : Type} [Scalar α]

/-- All coordinates can be compared. -/
structure IsNumeric (box : BoundingBox α) : Prop where
  minX : IsNumber box.minX
  minY : IsNumber box.minY
  maxX : IsNumber box.maxX
  maxY : IsNumber box.maxY

/-- All coordinates of some points can be compared. -/
def HaveNumbers (points : List (α × α)) : Prop := ∀ p ∈ points, IsNumber p.1 ∧ IsNumber p.2

/-- The edges of a box are those of another one or further in. -/
structure Within (a b : BoundingBox α) : Prop where
  minX : Scalar.le b.minX a.minX = true
  minY : Scalar.le b.minY a.minY = true
  maxX : Scalar.le a.maxX b.maxX = true
  maxY : Scalar.le a.maxY b.maxY = true

/-- The coordinates are equal as numbers: both zeros are the same. -/
structure Same (a b : BoundingBox α) : Prop where
  minX : Scalar.eq a.minX b.minX = true
  minY : Scalar.eq a.minY b.minY = true
  maxX : Scalar.eq a.maxX b.maxX = true
  maxY : Scalar.eq a.maxY b.maxY = true

/-- The box of one point. -/
def ofPoint (x y : α) : BoundingBox α := ⟨x, y, x, y⟩

variable {a b c box : BoundingBox α} {x y : α}

theorem contains_iff : box.contains x y = true ↔ Within (ofPoint x y) box := by
  simp only [contains, Bool.and_eq_true]
  constructor
  · rintro ⟨⟨⟨hminX, hmaxX⟩, hminY⟩, hmaxY⟩
    exact ⟨hminX, hminY, hmaxX, hmaxY⟩
  · rintro ⟨hminX, hminY, hmaxX, hmaxY⟩
    exact ⟨⟨⟨hminX, hmaxX⟩, hminY⟩, hmaxY⟩

theorem same_of_within (hab : Within a b) (hba : Within b a) : Same a b := by
  have heq : ∀ {x y : α}, Scalar.le x y = true → Scalar.le y x = true → Scalar.eq x y = true := by
    intro x y hxy hyx
    rw [Scalar.eq, hxy, hyx]
    rfl
  exact ⟨heq hba.minX hab.minX, heq hba.minY hab.minY, heq hab.maxX hba.maxX,
    heq hab.maxY hba.maxY⟩

theorem Within.refl (h : IsNumeric a) : Within a a := ⟨h.minX, h.minY, h.maxX, h.maxY⟩

/-- Boxes that are within the same boxes are the same. -/
theorem same_of_within_iff (ha : IsNumeric a) (hb : IsNumeric b)
    (h : ∀ c, Within a c ↔ Within b c) : Same a b :=
  same_of_within ((h b).2 (Within.refl hb)) ((h a).1 (Within.refl ha))

/-- Boxes that have the same boxes within them are the same. -/
theorem same_of_iff_within (ha : IsNumeric a) (hb : IsNumeric b)
    (h : ∀ c, Within c a ↔ Within c b) : Same a b :=
  same_of_within ((h a).1 (Within.refl ha)) ((h b).2 (Within.refl hb))

theorem intersects_comm (a b : BoundingBox α) : a.intersects b = b.intersects a := by
  unfold intersects
  rw [Bool.and_comm (Scalar.lt a.minX b.maxX), Bool.and_assoc,
    Bool.and_comm (Scalar.lt a.minY b.maxY), ← Bool.and_assoc]

/-- The points of both boxes. -/
def overlap (a b : BoundingBox α) : BoundingBox α :=
  ⟨Scalar.max a.minX b.minX, Scalar.max a.minY b.minY,
    Scalar.min a.maxX b.maxX, Scalar.min a.maxY b.maxY⟩

theorem intersection?_eq (a b : BoundingBox α) :
    a.intersection? b = if a.intersects b then some (a.overlap b) else none := rfl

variable [OrderedScalar α]

theorem Within.trans (hab : Within a b) (hbc : Within b c) : Within a c :=
  ⟨OrderedScalar.le_trans hbc.minX hab.minX, OrderedScalar.le_trans hbc.minY hab.minY,
    OrderedScalar.le_trans hab.maxX hbc.maxX, OrderedScalar.le_trans hab.maxY hbc.maxY⟩

theorem Within.isNumeric (h : Within a b) : IsNumeric a ∧ IsNumeric b :=
  have hminX := OrderedScalar.isNumber_of_le h.minX
  have hminY := OrderedScalar.isNumber_of_le h.minY
  have hmaxX := OrderedScalar.isNumber_of_le h.maxX
  have hmaxY := OrderedScalar.isNumber_of_le h.maxY
  ⟨⟨hminX.2, hminY.2, hmaxX.1, hmaxY.1⟩, hminX.1, hminY.1, hmaxX.2, hmaxY.2⟩

end Order

/-! ## Unions and overlaps -/

section Lattice

variable {α : Type} [Scalar α] [OrderedScalar α] {a b c box : BoundingBox α} {x y : α}
  {points : List (α × α)}

theorem IsNumeric.union (ha : IsNumeric a) (hb : IsNumeric b) : IsNumeric (a.union b) :=
  ⟨Scalar.isNumber_min ha.minX hb.minX, Scalar.isNumber_min ha.minY hb.minY,
    Scalar.isNumber_max ha.maxX hb.maxX, Scalar.isNumber_max ha.maxY hb.maxY⟩

theorem union_within_iff (ha : IsNumeric a) (hb : IsNumeric b) :
    Within (a.union b) c ↔ Within a c ∧ Within b c := by
  constructor
  · rintro ⟨hminX, hminY, hmaxX, hmaxY⟩
    obtain ⟨hax, hbx⟩ := (Scalar.le_min_iff ha.minX hb.minX).1 hminX
    obtain ⟨hay, hby⟩ := (Scalar.le_min_iff ha.minY hb.minY).1 hminY
    obtain ⟨hax', hbx'⟩ := (Scalar.max_le_iff ha.maxX hb.maxX).1 hmaxX
    obtain ⟨hay', hby'⟩ := (Scalar.max_le_iff ha.maxY hb.maxY).1 hmaxY
    exact ⟨⟨hax, hay, hax', hay'⟩, hbx, hby, hbx', hby'⟩
  · rintro ⟨hac, hbc⟩
    exact ⟨(Scalar.le_min_iff ha.minX hb.minX).2 ⟨hac.minX, hbc.minX⟩,
      (Scalar.le_min_iff ha.minY hb.minY).2 ⟨hac.minY, hbc.minY⟩,
      (Scalar.max_le_iff ha.maxX hb.maxX).2 ⟨hac.maxX, hbc.maxX⟩,
      (Scalar.max_le_iff ha.maxY hb.maxY).2 ⟨hac.maxY, hbc.maxY⟩⟩

theorem IsNumeric.overlap (ha : IsNumeric a) (hb : IsNumeric b) : IsNumeric (a.overlap b) :=
  ⟨Scalar.isNumber_max ha.minX hb.minX, Scalar.isNumber_max ha.minY hb.minY,
    Scalar.isNumber_min ha.maxX hb.maxX, Scalar.isNumber_min ha.maxY hb.maxY⟩

theorem within_overlap_iff (ha : IsNumeric a) (hb : IsNumeric b) :
    Within c (a.overlap b) ↔ Within c a ∧ Within c b := by
  constructor
  · rintro ⟨hminX, hminY, hmaxX, hmaxY⟩
    obtain ⟨hax, hbx⟩ := (Scalar.max_le_iff ha.minX hb.minX).1 hminX
    obtain ⟨hay, hby⟩ := (Scalar.max_le_iff ha.minY hb.minY).1 hminY
    obtain ⟨hax', hbx'⟩ := (Scalar.le_min_iff ha.maxX hb.maxX).1 hmaxX
    obtain ⟨hay', hby'⟩ := (Scalar.le_min_iff ha.maxY hb.maxY).1 hmaxY
    exact ⟨⟨hax, hay, hax', hay'⟩, hbx, hby, hbx', hby'⟩
  · rintro ⟨hca, hcb⟩
    exact ⟨(Scalar.max_le_iff ha.minX hb.minX).2 ⟨hca.minX, hcb.minX⟩,
      (Scalar.max_le_iff ha.minY hb.minY).2 ⟨hca.minY, hcb.minY⟩,
      (Scalar.le_min_iff ha.maxX hb.maxX).2 ⟨hca.maxX, hcb.maxX⟩,
      (Scalar.le_min_iff ha.maxY hb.maxY).2 ⟨hca.maxY, hcb.maxY⟩⟩

theorem overlap_contains_iff (ha : IsNumeric a) (hb : IsNumeric b) :
    (a.overlap b).contains x y = true ↔ a.contains x y = true ∧ b.contains x y = true := by
  rw [contains_iff, contains_iff, contains_iff, within_overlap_iff ha hb]

theorem overlap_comm (ha : IsNumeric a) (hb : IsNumeric b) : Same (a.overlap b) (b.overlap a) :=
  same_of_iff_within (ha.overlap hb) (hb.overlap ha) fun _ => by
    rw [within_overlap_iff ha hb, within_overlap_iff hb ha, and_comm]

theorem intersection?_comm (ha : IsNumeric a) (hb : IsNumeric b) :
    Option.Rel Same (a.intersection? b) (b.intersection? a) := by
  rw [intersection?_eq, intersection?_eq, intersects_comm b a]
  by_cases h : a.intersects b = true
  · rw [if_pos h, if_pos h]
    exact Option.Rel.some (overlap_comm ha hb)
  · rw [if_neg h, if_neg h]
    exact Option.Rel.none

/-- A point lies in a box and not on its edge. -/
structure Encloses (box : BoundingBox α) (x y : α) : Prop where
  minX : Scalar.lt box.minX x = true
  minY : Scalar.lt box.minY y = true
  maxX : Scalar.lt x box.maxX = true
  maxY : Scalar.lt y box.maxY = true

theorem intersects_of_encloses (ha : a.Encloses x y) (hb : b.Encloses x y) :
    a.intersects b = true := by
  simp only [intersects, Bool.and_eq_true]
  exact ⟨⟨⟨Scalar.lt_trans ha.minX hb.maxX, Scalar.lt_trans hb.minX ha.maxX⟩,
    Scalar.lt_trans ha.minY hb.maxY⟩, Scalar.lt_trans hb.minY ha.maxY⟩

/-- A box grows by a point as by the box of that point. -/
theorem expand_within_iff (h : IsNumeric box) (hx : IsNumber x) (hy : IsNumber y) :
    Within (box.expand x y) c ↔ Within box c ∧ c.contains x y = true := by
  have hpoint : IsNumeric (ofPoint x y) := ⟨hx, hy, hx, hy⟩
  rw [contains_iff]
  exact union_within_iff h hpoint

theorem IsNumeric.expand (h : IsNumeric box) (hx : IsNumber x) (hy : IsNumber y) :
    IsNumeric (box.expand x y) :=
  have hpoint : IsNumeric (ofPoint x y) := ⟨hx, hy, hx, hy⟩
  h.union hpoint

/-- Growing a box by points one by one gives the least box around the box and the points. -/
theorem foldl_expand (hpoints : HaveNumbers points) (h : IsNumeric box) :
    IsNumeric (points.foldl (fun box (x, y) => box.expand x y) box) ∧
      ∀ c, Within (points.foldl (fun box (x, y) => box.expand x y) box) c ↔
        Within box c ∧ ∀ p ∈ points, c.contains p.1 p.2 = true := by
  -- The box grows with each point, so the induction is over the points for every box at once.
  induction points generalizing box with
  | nil => exact ⟨h, fun c => by simp⟩
  | cons p points ih =>
      obtain ⟨hp, hrest⟩ := List.forall_mem_cons.1 hpoints
      obtain ⟨hnumeric, hwithin⟩ := ih hrest (h.expand hp.1 hp.2)
      refine ⟨hnumeric, fun c => ?_⟩
      rw [List.foldl_cons, hwithin, expand_within_iff h hp.1 hp.2, List.forall_mem_cons, and_assoc]

theorem isEmpty_of_contains (h : box.contains x y = true) : box.isEmpty = false := by
  obtain ⟨hminX, hminY, hmaxX, hmaxY⟩ := contains_iff.1 h
  have hx : ¬Scalar.lt box.maxX box.minX = true := fun hlt =>
    (OrderedScalar.lt_iff.1 hlt).2.2 (OrderedScalar.le_trans hminX hmaxX)
  have hy : ¬Scalar.lt box.maxY box.minY = true := fun hlt =>
    (OrderedScalar.lt_iff.1 hlt).2.2 (OrderedScalar.le_trans hminY hmaxY)
  rw [isEmpty, Bool.eq_false_iff.2 hx, Bool.eq_false_iff.2 hy]
  rfl

end Lattice

/-! ## Boxes of points -/

section Points

variable {α : Type} [Scalar α] [Unbounded α]

/-- The points grow the empty box one by one. -/
def hull (points : List (α × α)) : BoundingBox α :=
  points.foldl (fun box (x, y) => box.expand x y) empty

theorem ofPoints?_eq (points : List (α × α)) :
    ofPoints? points = if (hull points).isEmpty then none else some (hull points) := rfl

/-- A box holds some points, and every box that holds them holds all that it holds. -/
structure IsLeastAround (box : BoundingBox α) (points : List (α × α)) : Prop where
  contains : ∀ p ∈ points, box.contains p.1 p.2 = true
  least : ∀ other : BoundingBox α, (∀ p ∈ points, other.contains p.1 p.2 = true) →
    ∀ x y, box.contains x y = true → other.contains x y = true

variable [BoundedScalar α] {a b c box : BoundingBox α} {points others xs ys : List (α × α)}

theorem isNumeric_empty : IsNumeric (empty : BoundingBox α) :=
  ⟨BoundedScalar.isNumber_top, BoundedScalar.isNumber_top, BoundedScalar.isNumber_bottom,
    BoundedScalar.isNumber_bottom⟩

theorem empty_within (h : IsNumeric c) : Within empty c :=
  ⟨BoundedScalar.le_top h.minX, BoundedScalar.le_top h.minY, BoundedScalar.bottom_le h.maxX,
    BoundedScalar.bottom_le h.maxY⟩

theorem isEmpty_empty : (empty : BoundingBox α).isEmpty = true := by
  have hlt : Scalar.lt (Unbounded.bottom : α) Unbounded.top = true := BoundedScalar.bottom_lt_top
  simp only [isEmpty, empty, hlt, Bool.true_or]

variable [OrderedScalar α]

theorem union_empty (h : IsNumeric box) : Same (box.union empty) box :=
  same_of_within_iff (h.union isNumeric_empty) h fun _ => by
    rw [union_within_iff h isNumeric_empty]
    exact and_iff_left_of_imp fun hbox => empty_within hbox.isNumeric.2

theorem empty_union (h : IsNumeric box) : Same (empty.union box) box :=
  same_of_within_iff (isNumeric_empty.union h) h fun _ => by
    rw [union_within_iff isNumeric_empty h]
    exact and_iff_right_of_imp fun hbox => empty_within hbox.isNumeric.2

theorem isNumeric_hull (h : HaveNumbers points) : IsNumeric (hull points) :=
  (foldl_expand h isNumeric_empty).1

theorem hull_within_iff (h : HaveNumbers points) :
    Within (hull points) c ↔ IsNumeric c ∧ ∀ p ∈ points, c.contains p.1 p.2 = true := by
  rw [hull, (foldl_expand h isNumeric_empty).2 c]
  exact and_congr_left' ⟨fun hc => hc.isNumeric.2, empty_within⟩

theorem hull_contains (h : HaveNumbers points) :
    ∀ p ∈ points, (hull points).contains p.1 p.2 = true :=
  ((hull_within_iff h).1 (Within.refl (isNumeric_hull h))).2

theorem isEmpty_hull_iff (h : HaveNumbers points) : (hull points).isEmpty = true ↔ points = [] := by
  constructor
  · intro hempty
    refine List.eq_nil_iff_forall_not_mem.2 fun p hp => ?_
    rw [isEmpty_of_contains (hull_contains h p hp)] at hempty
    exact Bool.false_ne_true hempty
  · rintro rfl
    exact isEmpty_empty

theorem ofPoints?_eq_none_iff (h : HaveNumbers points) : ofPoints? points = none ↔ points = [] := by
  rw [ofPoints?_eq, ← isEmpty_hull_iff h]
  cases (hull points).isEmpty <;> simp

theorem ofPoints?_of_ne_nil (h : HaveNumbers points) (hne : points ≠ []) :
    ofPoints? points = some (hull points) := by
  rw [ofPoints?_eq, if_neg fun hempty => hne ((isEmpty_hull_iff h).1 hempty)]

theorem getD_ofPoints? (h : HaveNumbers points) : (ofPoints? points).getD empty = hull points := by
  by_cases hnil : points = []
  · rw [(ofPoints?_eq_none_iff h).2 hnil, hnil]
    rfl
  · rw [ofPoints?_of_ne_nil h hnil]
    rfl

theorem isLeastAround_hull (h : HaveNumbers points) (hne : points ≠ []) :
    IsLeastAround (hull points) points where
  contains := hull_contains h
  least other hother x y hxy := by
    -- The other box has numbers as coordinates, because a point lies in it.
    obtain ⟨p, hp⟩ := List.exists_mem_of_ne_nil points hne
    have hnumeric : IsNumeric other := (contains_iff.1 (hother p hp)).isNumeric.2
    have hwithin : Within (hull points) other := (hull_within_iff h).2 ⟨hnumeric, hother⟩
    exact contains_iff.2 ((contains_iff.1 hxy).trans hwithin)

theorem ofPoints?_isLeastAround (h : HaveNumbers points) :
    ∀ box ∈ ofPoints? points, IsLeastAround box points := by
  intro box hbox
  by_cases hnil : points = []
  · rw [(ofPoints?_eq_none_iff h).2 hnil] at hbox
    cases hbox
  · rw [ofPoints?_of_ne_nil h hnil] at hbox
    obtain rfl := Option.some.inj hbox
    exact isLeastAround_hull h hnil

theorem hull_congr (h : HaveNumbers points) (hmem : ∀ p, p ∈ others ↔ p ∈ points) :
    Same (hull others) (hull points) := by
  have hothers : HaveNumbers others := fun p hp => h p ((hmem p).1 hp)
  refine same_of_within_iff (isNumeric_hull hothers) (isNumeric_hull h) fun c => ?_
  rw [hull_within_iff hothers, hull_within_iff h]
  exact and_congr_right' (forall_congr' fun p => imp_congr_left (hmem p))

theorem ofPoints?_congr (h : HaveNumbers points) (hmem : ∀ p, p ∈ others ↔ p ∈ points) :
    Option.Rel Same (ofPoints? others) (ofPoints? points) := by
  have hothers : HaveNumbers others := fun p hp => h p ((hmem p).1 hp)
  have hnil : others = [] ↔ points = [] := by
    rw [List.eq_nil_iff_forall_not_mem, List.eq_nil_iff_forall_not_mem]
    exact forall_congr' fun p => not_congr (hmem p)
  by_cases hpoints : points = []
  · rw [(ofPoints?_eq_none_iff h).2 hpoints, (ofPoints?_eq_none_iff hothers).2 (hnil.2 hpoints)]
    exact Option.Rel.none
  · rw [ofPoints?_of_ne_nil h hpoints, ofPoints?_of_ne_nil hothers (mt hnil.1 hpoints)]
    exact Option.Rel.some (hull_congr h hmem)

theorem union_hull (hxs : HaveNumbers xs) (hys : HaveNumbers ys) :
    Same ((hull xs).union (hull ys)) (hull (xs ++ ys)) := by
  have happend : HaveNumbers (xs ++ ys) := List.forall_mem_append.2 ⟨hxs, hys⟩
  have hboxes := isNumeric_hull hxs
  refine same_of_within_iff (hboxes.union (isNumeric_hull hys)) (isNumeric_hull happend)
    fun c => ?_
  rw [union_within_iff hboxes (isNumeric_hull hys), hull_within_iff hxs, hull_within_iff hys,
    hull_within_iff happend, List.forall_mem_append]
  exact and_and_left.symm

end Points

/-! ## Boxes of degrees -/

/-- No coordinate is not-a-number. -/
structure AvoidsNaN (box : BoundingBox Float) : Prop where
  minX : box.minX.isNaN = false
  minY : box.minY.isNaN = false
  maxX : box.maxX.isNaN = false
  maxY : box.maxY.isNaN = false

theorem AvoidsNaN.isNumeric {box : BoundingBox Float} (h : box.AvoidsNaN) : IsNumeric box :=
  ⟨isNumber_iff.2 h.minX, isNumber_iff.2 h.minY, isNumber_iff.2 h.maxX, isNumber_iff.2 h.maxY⟩

/-- No coordinate of some points is not-a-number. -/
def PointsAvoidNaN (points : List (Float × Float)) : Prop :=
  ∀ p ∈ points, p.1.isNaN = false ∧ p.2.isNaN = false

instance (points : List (Float × Float)) : Decidable (PointsAvoidNaN points) :=
  inferInstanceAs (Decidable (∀ p ∈ points, p.1.isNaN = false ∧ p.2.isNaN = false))

theorem PointsAvoidNaN.haveNumbers {points : List (Float × Float)} (h : PointsAvoidNaN points) :
    HaveNumbers points := fun p hp => ⟨isNumber_iff.2 (h p hp).1, isNumber_iff.2 (h p hp).2⟩

/-- Boxes form a lattice.  The box of some points is none for no points and otherwise the least box
around them, whichever order they come in and however often; the box of two lists of points is the
union of their boxes, the empty box being that of no points and the unit; boxes that intersect have
an intersection with the points of both, which is the same either way round, and no point is
strictly inside two boxes that do not. -/
theorem boxes_form_lattice :
    (∀ points, PointsAvoidNaN points →
      (ofPoints? points = none ↔ points = []) ∧
      (∀ box ∈ ofPoints? points, IsLeastAround box points) ∧
      ∀ others, (∀ p, p ∈ others ↔ p ∈ points) →
        Option.Rel Same (ofPoints? others) (ofPoints? points)) ∧
    (∀ xs ys, PointsAvoidNaN xs → PointsAvoidNaN ys →
      Same (((ofPoints? xs).getD empty).union ((ofPoints? ys).getD empty))
        ((ofPoints? (xs ++ ys)).getD empty)) ∧
    (∀ box : BoundingBox Float, box.AvoidsNaN →
      Same (box.union empty) box ∧ Same (empty.union box) box) ∧
    ∀ a b : BoundingBox Float, a.AvoidsNaN → b.AvoidsNaN →
      a.intersects b = b.intersects a ∧
      Option.Rel Same (a.intersection? b) (b.intersection? a) ∧
      (a.intersects b = true → ∃ both ∈ a.intersection? b, ∀ x y,
        both.contains x y = true ↔ a.contains x y = true ∧ b.contains x y = true) ∧
      (a.intersects b = false → a.intersection? b = none ∧
        ∀ x y, ¬(a.Encloses x y ∧ b.Encloses x y)) := by
  refine ⟨fun points hpoints => ?points, fun xs ys hxs hys => ?unions, fun box hbox => ?unit,
    fun a b ha hb => ⟨intersects_comm a b, intersection?_comm ha.isNumeric hb.isNumeric,
      fun hmeet => ?overlapping, fun hapart => ?apart⟩⟩
  case points =>
    have hnumbers := hpoints.haveNumbers
    exact ⟨ofPoints?_eq_none_iff hnumbers, ofPoints?_isLeastAround hnumbers,
      fun others hmem => ofPoints?_congr hnumbers hmem⟩
  case unions =>
    have happend : HaveNumbers (xs ++ ys) :=
      List.forall_mem_append.2 ⟨hxs.haveNumbers, hys.haveNumbers⟩
    rw [getD_ofPoints? hxs.haveNumbers, getD_ofPoints? hys.haveNumbers, getD_ofPoints? happend]
    exact union_hull hxs.haveNumbers hys.haveNumbers
  case unit => exact ⟨union_empty hbox.isNumeric, empty_union hbox.isNumeric⟩
  case overlapping =>
    refine ⟨a.overlap b, ?_, fun x y => overlap_contains_iff ha.isNumeric hb.isNumeric⟩
    rw [intersection?_eq, if_pos hmeet]
    rfl
  case apart =>
    constructor
    · rw [intersection?_eq, hapart]
      rfl
    · rintro x y ⟨hx, hy⟩
      rw [intersects_of_encloses hx hy] at hapart
      cases hapart

/-- Points in another order with a repetition have the same box, and boxes that share an edge do not
intersect. -/
theorem boxes_form_lattice_shared_edge :
    Option.Rel Same (ofPoints? [(-96.1, 34.9), (-98.5, 36.2), (-96.1, 34.9)])
      (ofPoints? [(-98.5, 36.2), (-96.1, 34.9)]) ∧
    (∃ both ∈ intersection? ⟨0.0, 0.0, 10.0, 10.0⟩ ⟨5.0, 5.0, 15.0, 15.0⟩,
      both.contains 5.0 10.0 = true) ∧
    ∀ x y, ¬(Encloses ⟨0.0, 0.0, 10.0, 10.0⟩ x y ∧ Encloses ⟨10.0, 0.0, 20.0, 10.0⟩ x y) := by
  obtain ⟨hpoints, -, -, hboxes⟩ := boxes_form_lattice
  have hnumbers : PointsAvoidNaN [(-98.5, 36.2), (-96.1, 34.9)] := by decide +kernel
  have hwest : AvoidsNaN ⟨0.0, 0.0, 10.0, 10.0⟩ := by constructor <;> decide +kernel
  have hmiddle : AvoidsNaN ⟨5.0, 5.0, 15.0, 15.0⟩ := by constructor <;> decide +kernel
  have heast : AvoidsNaN ⟨10.0, 0.0, 20.0, 10.0⟩ := by constructor <;> decide +kernel
  have hrepeated : ∀ p q r : Float × Float, r ∈ [p, q, p] ↔ r ∈ [q, p] := by
    intro p q r
    simp only [List.mem_cons, List.not_mem_nil]
    tauto
  refine ⟨(hpoints _ hnumbers).2.2 _ (hrepeated _ _), ?_, ?_⟩
  · obtain ⟨-, -, hmeet, -⟩ := hboxes _ _ hwest hmiddle
    obtain ⟨both, hboth, hcontains⟩ := hmeet (by decide +kernel)
    exact ⟨both, hboth, (hcontains _ _).2 (by decide +kernel)⟩
  · obtain ⟨-, -, -, hapart⟩ := hboxes _ _ hwest heast
    exact (hapart (by decide +kernel)).2

end BoundingBox

end WeatherRadar
