import WeatherRadar.Calendar
/-!
# Days and seconds

Instants from the beginning of 1970 up to the last day that a header can number are written as a
day and seconds, and read back (`ofJulian?_toJulian`).  The other way, a day and seconds are read
and written back unless the seconds go beyond the day (`toJulian_ofJulian?`).  A calendar whose
range reaches every day that a header can number gives the same instants
(`CalendarRange.ofJulian?_eq`).
-/

namespace WeatherRadar

namespace Instant

theorem toNat_toJulian {t : Instant} (hlast : t.seconds < 65535 * secondsPerDay) :
    t.toJulian.1.toNat = t.seconds.toNat / secondsPerDay + 1 ∧
      t.toJulian.2.toNat = t.seconds.toNat % secondsPerDay := by
  rw [secondsPerDay] at hlast
  simp only [toJulian, secondsPerDay, UInt16.toNat_ofNat', UInt32.toNat_ofNat']
  omega

theorem ofJulian?_toJulian {t : Instant} (hfirst : 0 ≤ t.seconds)
    (hlast : t.seconds < 65535 * secondsPerDay) :
    ofJulian? t.toJulian.1 t.toJulian.2 = some t := by
  obtain ⟨hday, hsecond⟩ := toNat_toJulian hlast
  have hnumbered : (t.toJulian.1 == 0) = false := by
    rw [beq_eq_false_iff_ne]
    intro hzero
    rw [hzero] at hday
    cases hday
  have hsum : (((t.toJulian.1.toNat - 1) * secondsPerDay + t.toJulian.2.toNat : Nat) : Int) =
      t.seconds := by
    rw [hday, hsecond, Nat.add_sub_cancel, Nat.mul_comm, Nat.div_add_mod,
      Int.toNat_of_nonneg hfirst]
  rw [ofJulian?, hnumbered, if_neg Bool.false_ne_true, hsum]

theorem seconds_nonneg_of_ofJulian? {day : UInt16} {seconds : UInt32} {t : Instant}
    (h : ofJulian? day seconds = some t) : 0 ≤ t.seconds := by
  rw [ofJulian?] at h
  split at h
  · cases h
  · obtain rfl := Option.some.inj h
    exact Int.natCast_nonneg _

theorem toNat_pos_of_ne_zero {day : UInt16} (hday : day ≠ 0) : 0 < day.toNat :=
  Nat.pos_of_ne_zero fun hzero => hday (UInt16.toNat_inj.1 hzero)

theorem ofJulian?_of_ne_zero {day : UInt16} (hday : day ≠ 0) (seconds : UInt32) :
    ofJulian? day seconds =
      some ⟨((day.toNat - 1) * secondsPerDay + seconds.toNat : Nat)⟩ := by
  rw [ofJulian?, if_neg (by simpa using hday)]

theorem ofJulian?_eq_none_iff {day : UInt16} {seconds : UInt32} :
    ofJulian? day seconds = none ↔ day = 0 := by
  by_cases hday : day = 0
  · simp [ofJulian?, hday]
  · simp [ofJulian?_of_ne_zero hday, hday]

theorem toJulian_ofJulian? {day : UInt16} {seconds : UInt32} {t : Instant}
    (hseconds : seconds.toNat < secondsPerDay) (h : ofJulian? day seconds = some t) :
    t.toJulian = (day, seconds) := by
  have hday : day ≠ 0 := by
    intro hzero
    rw [ofJulian?_eq_none_iff.2 hzero] at h
    cases h
  have hpos := toNat_pos_of_ne_zero hday
  have hbelow := day.toNat_lt
  rw [ofJulian?_of_ne_zero hday] at h
  obtain rfl := Option.some.inj h
  rw [secondsPerDay] at hseconds ⊢
  have hlast : (((day.toNat - 1) * 86400 + seconds.toNat : Nat) : Int) < 65535 * secondsPerDay := by
    rw [secondsPerDay]
    omega
  obtain ⟨hnumber, hsecond⟩ := toNat_toJulian (t := ⟨_⟩) hlast
  rw [secondsPerDay, Int.toNat_natCast] at hnumber hsecond
  refine Prod.ext (UInt16.toNat_inj.1 (hnumber.trans ?_)) (UInt32.toNat_inj.1 (hsecond.trans ?_))
  · show _ = day.toNat
    omega
  · show _ = seconds.toNat
    omega

/-- A later instant has a later day, or the same day and more seconds. -/
theorem toJulian_strictMono {t u : Instant} (hfirst : 0 ≤ t.seconds) (htu : t < u)
    (hlast : u.seconds < 65535 * secondsPerDay) :
    Prod.Lex (· < ·) (· < ·) t.toJulian u.toJulian := by
  have htu : t.seconds < u.seconds := htu
  obtain ⟨htday, htsecond⟩ := toNat_toJulian (Int.lt_trans htu hlast)
  obtain ⟨huday, husecond⟩ := toNat_toJulian hlast
  rw [secondsPerDay] at htday htsecond huday husecond
  rw [Prod.lex_def, UInt16.lt_iff_toNat_lt, UInt32.lt_iff_toNat_lt, ← UInt16.toNat_inj]
  omega

end Instant

/-! ## Calendars with a range -/

/-- A calendar without instants outside a range and without spans beyond a length, in seconds. -/
structure CalendarRange where
  first : Int
  last : Int
  longest : Nat

namespace CalendarRange

variable {range : CalendarRange}

def instant? (range : CalendarRange) (seconds : Int) : Option Instant :=
  if range.first ≤ seconds ∧ seconds ≤ range.last then some ⟨seconds⟩ else none

def span? (range : CalendarRange) (seconds : Nat) : Option Nat :=
  if seconds ≤ range.longest then some seconds else none

/-- The instant that a span of seconds leads to, if the calendar has both. -/
def after? (range : CalendarRange) (t : Instant) (seconds : Nat) : Option Instant :=
  (range.span? seconds).bind fun span => range.instant? (t.seconds + span)

/-- The instant of a numbered day and the seconds after its midnight, found step by step. -/
def ofJulian? (range : CalendarRange) (day : UInt16) (seconds : UInt32) : Option Instant :=
  if day == 0 then none
  else
    (range.instant? 0).bind fun beginning =>
      (range.after? beginning ((day.toNat - 1) * Instant.secondsPerDay)).bind fun midnight =>
        range.after? midnight seconds.toNat

/-- The seconds of the midnight at which the last day that a header can number begins. -/
def lastMidnight : Nat := 65534 * Instant.secondsPerDay

/-- A calendar reaches as far as the last day and the most seconds that a header can hold. -/
structure ReachesHeaders (range : CalendarRange) : Prop where
  first_le : range.first ≤ 0
  le_last : (lastMidnight + 4294967295 : Nat) ≤ range.last
  le_longest : lastMidnight ≤ range.longest

theorem after?_of_le (h : range.ReachesHeaders) {t seconds : Nat} (hspan : seconds ≤ lastMidnight)
    (hlast : t + seconds ≤ lastMidnight + 4294967295) :
    range.after? ⟨t⟩ seconds = some ⟨(t + seconds : Nat)⟩ := by
  have hfirst : range.first ≤ (t + seconds : Nat) :=
    Int.le_trans h.first_le (Int.natCast_nonneg _)
  have hrange : ((t + seconds : Nat) : Int) ≤ range.last :=
    Int.le_trans (Int.ofNat_le.2 hlast) h.le_last
  rw [after?, span?, if_pos (Nat.le_trans hspan h.le_longest), Option.bind_some, instant?,
    ← Int.natCast_add, if_pos ⟨hfirst, hrange⟩]

/-- What the calendar lacks is never asked for. -/
theorem ofJulian?_eq (h : range.ReachesHeaders) (day : UInt16) (seconds : UInt32) :
    range.ofJulian? day seconds = Instant.ofJulian? day seconds := by
  by_cases hday : day = 0
  · rw [Instant.ofJulian?_eq_none_iff.2 hday, ofJulian?, if_pos (by simpa using hday)]
  · have hmidnight : (day.toNat - 1) * Instant.secondsPerDay ≤ lastMidnight :=
      Nat.mul_le_mul_right _ (Nat.sub_le_sub_right (Nat.le_of_lt_succ day.toNat_lt) 1)
    have hseconds : seconds.toNat ≤ 4294967295 := Nat.le_of_lt_succ seconds.toNat_lt
    have hbeginning : range.instant? 0 = some ⟨(0 : Nat)⟩ :=
      if_pos ⟨h.first_le, Int.le_trans (Int.natCast_nonneg _) h.le_last⟩
    rw [Instant.ofJulian?_of_ne_zero hday, ofJulian?, if_neg (by simpa using hday), hbeginning,
      Option.bind_some, after?_of_le h hmidnight (by omega), Option.bind_some, Nat.zero_add,
      after?_of_le h (Nat.le_trans hseconds (by decide)) (Nat.add_le_add hmidnight hseconds)]

end CalendarRange

/-- Every day but day 0, with any count of seconds, is the instant so many seconds after the
midnight of the day, also in a calendar with a range that reaches the headers.  Seconds within a
day, and instants from the beginning of 1970 to the end of the last day, keep their form both ways,
and later instants have greater forms. -/
theorem Instant.julian_form_faithful :
    (∀ day seconds, ofJulian? day seconds = none ↔ day = 0) ∧
    (∀ day seconds, day ≠ 0 → ofJulian? day seconds =
      some ⟨((day.toNat : Int) - 1) * 86400 + seconds.toNat⟩) ∧
    (∀ range : CalendarRange, range.ReachesHeaders → ∀ day seconds,
      range.ofJulian? day seconds = ofJulian? day seconds) ∧
    (∀ day seconds t, seconds.toNat < 86400 → ofJulian? day seconds = some t →
      t.toJulian = (day, seconds)) ∧
    (∀ t : Instant, 0 ≤ t.seconds → t.seconds < 65535 * 86400 →
      ofJulian? t.toJulian.1 t.toJulian.2 = some t) ∧
    ∀ t u : Instant, 0 ≤ t.seconds → t < u → u.seconds < 65535 * 86400 →
      Prod.Lex (· < ·) (· < ·) t.toJulian u.toJulian := by
  refine ⟨fun _ _ => ofJulian?_eq_none_iff, fun day seconds hday => ?_,
    fun _ h => CalendarRange.ofJulian?_eq h, fun _ _ _ => toJulian_ofJulian?,
    fun _ => ofJulian?_toJulian, fun _ _ => toJulian_strictMono⟩
  have hpos := toNat_pos_of_ne_zero hday
  rw [ofJulian?_of_ne_zero hday, secondsPerDay]
  congr 2
  omega

/-- The last second of the last day, and the most seconds after its midnight in a calendar of some
262,000 years on both sides of the first. -/
theorem Instant.julian_form_faithful_last_day :
    let last : Instant := ⟨5662223999⟩
    ofJulian? 65535 86399 = some last ∧ last.toJulian = (65535, 86399) ∧
      ofJulian? last.toJulian.1 last.toJulian.2 = some last ∧
      Prod.Lex (· < ·) (· < ·) (toJulian ⟨5662223998⟩) last.toJulian ∧
      CalendarRange.ofJulian? ⟨-8334601228800, 8210266876799, 9223372036854775⟩ 65535 4294967295 =
        some ⟨9957104895⟩ := by
  intro last
  obtain ⟨-, hread, hrange, hback, hforth, hmono⟩ := julian_form_faithful
  have hlast : ofJulian? 65535 86399 = some last := hread 65535 86399 (by decide)
  refine ⟨hlast, hback 65535 86399 _ (by decide) hlast, hforth last (by decide) (by decide),
    hmono _ _ (by decide) (by decide) (by decide), ?_⟩
  rw [hrange _ ⟨by decide, by decide, by decide⟩]
  exact hread 65535 4294967295 (by decide)

end WeatherRadar
