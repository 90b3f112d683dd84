import WeatherRadar.Level3.Product
import WeatherRadar.Search
/-!
# Wedges of a sweep

A radial covers the wedge between two rays.  Where the end of a radial and the start of the next
one nearly meet, both wedges take the ray halfway between, so that they share an edge.  The radials
are arranged clockwise, and the last one is followed by the first one across north.
-/

namespace WeatherRadar.Geo

open WeatherRadar.Level3

/-- The wedge of a radial: the numbers of the rays at which it starts and ends. -/
structure RadialSpan where
  radial : Nat
  startRay : Nat
  endRay : Nat
  deriving DecidableEq, Repr, Inhabited

/-- The rays and wedges of a sweep. -/
structure Sweep (α : Type) where
  /-- Degrees clockwise from north. -/
  rays : Array α
  /-- The wedges in clockwise order. -/
  spans : Array RadialSpan
  /-- The azimuths at which the radials of the wedges start, in ascending order. -/
  nominalStarts : Array α
  deriving DecidableEq

namespace Sweep

/-- The largest mismatch in degrees that a shared ray closes, if nothing else is asked for. -/
def defaultTolerance : Float := 0.5

/-- The start and the width of a radial in degrees. -/
structure Extent (α : Type) where
  radial : Nat
  start : α
  width : α
  deriving DecidableEq

variable {α : Type} [Scalar α]

/-- The radials that have gates and a direction, clockwise from north; equal ones stay in order. -/
def extents (radials : List (Radial α)) : List (Extent α) :=
  let usable := radials.zipIdx.filter fun (radial, _) =>
    0 < radial.gates.size && Scalar.isFinite radial.azimuth
  (usable.map fun (radial, i) => ⟨i, normalizeAzimuth radial.azimuth, radial.width⟩).mergeSort
    fun a b => Scalar.sortsBefore a.start b.start

/-- A list turned by one: what follows each member of a circle. -/
def successors {β : Type} : List β → List β
  | [] => []
  | x :: xs => xs ++ [x]

/-- Whether a width is one of a wedge. -/
def isUsableWidth (width : α) : Bool :=
  Scalar.isFinite width && Scalar.lt (Scalar.ofInt 0) width && Scalar.le width fullTurn

/-- The width of a radial: the transmitted one, or else the way to the next radial, or else one
degree. -/
def effectiveWidth (count : Nat) (extent next : Extent α) : α :=
  if isUsableWidth extent.width then extent.width
  else
    let gap := if 1 < count then clockwiseDelta extent.start next.start else Scalar.ofInt 0
    if Scalar.lt (Scalar.ofInt 0) gap then gap else Scalar.ofInt 1

def drawn (radials : List (Radial α)) : List (Extent α) :=
  let extents := extents radials
  List.zipWith (fun extent next =>
    { extent with width := effectiveWidth extents.length extent next })
    extents (successors extents)

/-- Where a radial ends and the next one starts. -/
inductive Boundary (α : Type) where
  | shared (ray : α)
  /-- There is a gap or an overlap between them. -/
  | apart (finish start : α)

def Boundary.rays : Boundary α → List α
  | shared ray => [ray]
  | apart finish start => [finish, start]

/-- The way from the end of a radial to the start of the next one, negative where they overlap. -/
def mismatch (extent next : Extent α) : α :=
  clockwiseDelta extent.start next.start - extent.width

/-- The largest mismatch that a shared ray closes between two radials. -/
def limit (tolerance : α) (extent next : Extent α) : α :=
  let half : α := Scalar.ofInt 1 / Scalar.ofInt 2
  Scalar.min (Scalar.min (Scalar.max tolerance (Scalar.ofInt 0)) (extent.width * half))
    (next.width * half)

def boundary (tolerance : α) (extent next : Extent α) : Boundary α :=
  let finish := extent.start + extent.width
  let gap := mismatch extent next
  if Scalar.le (Scalar.abs gap) (limit tolerance extent next) then
    .shared (normalizeAzimuth (finish + gap * (Scalar.ofInt 1 / Scalar.ofInt 2)))
  else .apart (normalizeAzimuth finish) (normalizeAzimuth next.start)

/-- The numbers of the rays of boundaries, when the first one has the number `next`: where the
radial before it ends and where the one behind it starts. -/
def rayNumbers (next : Nat) : List (Boundary α) → List (Nat × Nat)
  | [] => []
  | .shared _ :: rest => (next, next) :: rayNumbers (next + 1) rest
  | .apart _ _ :: rest => (next, next + 1) :: rayNumbers (next + 2) rest

/-- A list turned back by one: what comes before each member of a circle. -/
def predecessors {β : Type} (xs : List β) : List β := (successors xs.reverse).reverse

/-- The sweep of a circle of radials, two at least, with the boundary behind each. -/
def ofBoundaries (extents : List (Extent α)) (boundaries : List (Boundary α)) : Sweep α :=
  let numbers := rayNumbers 0 boundaries
  let spans := List.zipWith (fun extent ((_, startRay), (endRay, _)) =>
    (⟨extent.radial, startRay, endRay⟩ : RadialSpan)) extents ((predecessors numbers).zip numbers)
  ⟨(boundaries.flatMap Boundary.rays).toArray, spans.toArray,
    (extents.map (·.start)).toArray⟩

/-- The sweep of some radials.  Mismatches up to a tolerance in degrees are closed, as far as half
the width of either radial allows. -/
def build (radials : List (Radial α)) (tolerance : α) : Sweep α :=
  match drawn radials with
  | [] => ⟨#[], #[], #[]⟩
  | [e] => ⟨#[normalizeAzimuth e.start, normalizeAzimuth (e.start + e.width)],
      #[⟨e.radial, 0, 1⟩], #[e.start]⟩
  | extents =>
    ofBoundaries extents (List.zipWith (boundary tolerance) extents (successors extents))

def size (sweep : Sweep α) : Nat := sweep.spans.size

def isEmpty (sweep : Sweep α) : Bool := sweep.spans.isEmpty

@[inline] def ray (sweep : Sweep α) (i : Nat) : α := sweep.rays.getD i (Scalar.ofInt 0)

/-- Where a wedge starts and how wide it is, clockwise. -/
def bounds (sweep : Sweep α) (span : RadialSpan) : α × α :=
  let start := sweep.ray span.startRay
  (start, clockwiseDelta start (sweep.ray span.endRay))

/-- Whether an azimuth lies in a wedge: its start does, its end does not. -/
@[specialize] def covers (sweep : Sweep α) (span : RadialSpan) (azimuth : α) : Bool :=
  let (start, width) := sweep.bounds span
  Scalar.lt (clockwiseDelta start azimuth) width

/-- The wedge that an azimuth lies in, if it is not in a gap.  A shared ray moves the edge of a
wedge past the nominal start of a radial by little, so that the wedges next to the nominal one are
the only others that count. -/
@[specialize] def locate? (sweep : Sweep α) (azimuth : α) : Option RadialSpan :=
  let n := sweep.size
  if n == 0 || !Scalar.isFinite azimuth then none
  else
    let azimuth := normalizeAzimuth azimuth
    let count := partitionPoint (Scalar.le · azimuth) sweep.nominalStarts
    let k := (count + n - 1) % n
    let candidates := [k, (k + 1) % n, (k + n - 1) % n].filterMap (sweep.spans[·]?)
    candidates.find? fun span => sweep.covers span azimuth

end Sweep

end WeatherRadar.Geo
