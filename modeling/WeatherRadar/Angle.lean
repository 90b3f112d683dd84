import WeatherRadar.Number.Scalar
/-!
# Azimuths

Azimuths are degrees clockwise from north.  They are kept in `[0, 360)`, and the way from one to
another is measured clockwise.
-/

namespace WeatherRadar

variable {α : Type} [Scalar α]

@[inline] def fullTurn : α := Scalar.ofNat 360

/-- The remainder of Euclidean division by a positive number. -/
@[specialize] def euclideanRemainder (x y : α) : α :=
  let r := Scalar.remainder x y
  if Scalar.lt r (Scalar.ofInt 0) then r + y else r

/-- The azimuth in `[0, 360)` that points the same way.  Adding a turn to a tiny negative angle may
round up to a full turn, which is north again. -/
@[specialize] def normalizeAzimuth (degrees : α) : α :=
  if Scalar.isFinite degrees then
    let a := euclideanRemainder degrees fullTurn
    if Scalar.le fullTurn a then Scalar.ofInt 0 else a
  else degrees

/-- Degrees to turn clockwise from one azimuth to another. -/
@[specialize] def clockwiseDelta (start finish : α) : α := normalizeAzimuth (finish - start)

end WeatherRadar
