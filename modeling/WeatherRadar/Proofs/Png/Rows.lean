import WeatherRadar.Png.Reading
import WeatherRadar.Png.Writing
import WeatherRadar.Proofs.Blocks
/-!
# Rows read back

The rows of an image are written one behind the other, each after the number of its filter.  Taking
the numbers out again gives the bytes of the image (`unfiltered?_scanlines`).
-/

namespace WeatherRadar.Png

variable {bytes : List UInt8} {rowBytes height : Nat}

/-- A row of an image, after the number of its filter. -/
def filteredRow (bytes : List UInt8) (rowBytes row : Nat) : List UInt8 :=
  0 :: (bytes.drop (row * rowBytes)).take rowBytes

theorem scanlines_eq (bytes : List UInt8) (rowBytes height : Nat) :
    scanlines bytes rowBytes height =
      (List.range height).flatMap (filteredRow bytes rowBytes) := by
  simp only [scanlines, extract_block]
  rfl

theorem length_filteredRow (hbytes : bytes.length = height * rowBytes) {row : Nat}
    (hrow : row < height) : (filteredRow bytes rowBytes row).length = rowBytes + 1 := by
  have hroom : row * rowBytes + rowBytes ≤ height * rowBytes := by
    rw [← Nat.succ_mul]
    exact Nat.mul_le_mul_right rowBytes hrow
  rw [filteredRow, List.length_cons, List.length_take_of_le (by rw [List.length_drop]; omega)]

theorem length_scanlines (hbytes : bytes.length = height * rowBytes) :
    (scanlines bytes rowBytes height).length = height * (rowBytes + 1) := by
  rw [scanlines_eq, length_flatMap_of_length fun row hrow =>
    length_filteredRow hbytes (List.mem_range.1 hrow), List.length_range, Nat.mul_comm]

/-- A row is found behind the number of its filter, which is zero. -/
theorem row_scanlines (hbytes : bytes.length = height * rowBytes) {row : Nat}
    (hrow : row < height) :
    (scanlines bytes rowBytes height)[row * (rowBytes + 1)]? = some 0 ∧
      ((scanlines bytes rowBytes height).drop (row * (rowBytes + 1) + 1)).take rowBytes =
        (bytes.drop (row * rowBytes)).take rowBytes := by
  have hblock := take_drop_flatMap (fun row hrow =>
    length_filteredRow hbytes (List.mem_range.1 hrow)) (List.getElem?_range hrow)
  rw [← scanlines_eq, filteredRow, Nat.mul_comm] at hblock
  generalize (bytes.drop (row * rowBytes)).take rowBytes = content at hblock ⊢
  rw [← List.drop_drop]
  constructor
  · have hhead := congrArg (·[0]?) hblock
    simpa [List.getElem?_take, List.getElem?_drop] using hhead
  · cases hdrop : (scanlines bytes rowBytes height).drop (row * (rowBytes + 1)) with
    | nil =>
        rw [hdrop] at hblock
        cases hblock
    | cons first rest =>
        rw [hdrop, List.take_succ_cons] at hblock
        exact (List.cons.inj hblock).2

/-- The bytes of an image are those of its rows without the numbers of their filters. -/
theorem unfiltered?_scanlines (hbytes : bytes.length = height * rowBytes) :
    unfiltered? (scanlines bytes rowBytes height) rowBytes height = some bytes := by
  have hzero : ((List.range height).all fun row =>
      (scanlines bytes rowBytes height).toArray[row * (rowBytes + 1)]? == some 0) = true := by
    rw [List.all_eq_true]
    intro row hrow
    rw [List.getElem?_toArray, (row_scanlines hbytes (List.mem_range.1 hrow)).1,
      beq_self_eq_true]
  have hrows : ((List.range height).flatMap fun row =>
      ((scanlines bytes rowBytes height).toArray.extract (row * (rowBytes + 1) + 1)
        ((row + 1) * (rowBytes + 1))).toList) = bytes := by
    calc _ = (List.range height).flatMap fun row =>
            (bytes.drop (row * rowBytes)).take rowBytes := by
          rw [List.flatMap_def, List.flatMap_def]
          congr 1
          apply List.map_congr_left
          intro row hrow
          have hstop : (row + 1) * (rowBytes + 1) - (row * (rowBytes + 1) + 1) = rowBytes := by
            rw [Nat.succ_mul]
            omega
          rw [Array.toList_extract, List.extract_eq_take_drop, hstop,
            (row_scanlines hbytes (List.mem_range.1 hrow)).2]
      _ = bytes.take (height * rowBytes) := flatMap_blocks bytes rowBytes height
      _ = bytes := by rw [← hbytes, List.take_length]
  have hsize : ((scanlines bytes rowBytes height).toArray.size != height * (rowBytes + 1)) =
      false := by
    rw [List.size_toArray, length_scanlines hbytes, bne_self_eq_false]
  rw [unfiltered?, hsize, hzero, hrows]
  rfl

end WeatherRadar.Png
