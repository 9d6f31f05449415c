import ChapOS.MemoryMap
import ChapOS.TracedMemory
import Mathlib.Tactic.Basic

/-!
# The console of `lib.c`

Characters and attributes are stored in the video memory window of physical
memory, two bytes to a cell.  The cursor coordinates are plain C integers; the
position last sent to the VGA registers is kept beside them.
-/

namespace ChapOS

open CountedLoops

/-- `NUM_COLS`. -/
@[simp] abbrev numCols : Nat := 80

/-- `NUM_ROWS`. -/
@[simp] abbrev numRows : Nat := 25

/-- `ATTRIB`. -/
def attrib : UInt8 := 0x2

/-- The character `' '`. -/
def space : UInt8 := 0x20

/-- The character `'\n'`. -/
def newLine : UInt8 := 0x0A

/-- The character `'\r'`. -/
def carriageReturn : UInt8 := 0x0D

/-- Physical memory. -/
abbrev PhysicalMemory := TracedMemory Nat UInt8

/-- The state behind `putc`: physical memory, the statics `screen_x` and
`screen_y`, and the position last written to the cursor registers. -/
structure Console where
  mem : PhysicalMemory
  screenX : Int
  screenY : Int
  cursorLocation : Nat

/-- `VIDEO + ((NUM_COLS*y + x) << 1)` in 32-bit arithmetic. -/
def cellAddress (y x : Int) : Nat :=
  ((video + (numCols * y + x) * 2) % 0x100000000).toNat

namespace Console

/-- Write a character and its attribute. -/
def storeCell (mem : PhysicalMemory) (y x : Int) (character : UInt8) :
    PhysicalMemory :=
  (mem.store (cellAddress y x) character).store (cellAddress y x + 1) attrib

/-- `clear`. -/
def clear (console : Console) : Console :=
  { console with
    mem := forUpTo (numRows * numCols)
      (fun index mem => storeCell mem 0 index space) console.mem }

/-- `move_curser`: the location is a `uint16_t`. -/
def moveCurser (console : Console) : Console :=
  let location := ((console.screenX + console.screenY * numCols) % 0x10000).toNat
  { console with
    cursorLocation :=
      if location ≥ numCols * numRows then numCols * numRows - 1 else location }

/-- One cell of the first loop of `move_screen_up`, at row `row + 1`. -/
def shiftCell (row column : Nat) (mem : PhysicalMemory) : PhysicalMemory :=
  storeCell mem row column (mem.read (cellAddress (row + 1) column))

/-- `move_screen_up`. -/
def moveScreenUp (console : Console) : Console :=
  let shifted := forUpTo (numRows - 1)
    (fun row => forUpTo numCols (shiftCell row)) console.mem
  { console with
    mem := forUpTo numCols
      (fun column mem => storeCell mem ((numRows : Int) - 1) column space) shifted }

/-- `putc`. -/
def putc (console : Console) (c : UInt8) : Console :=
  if c = newLine ∨ c = carriageReturn then
    let moved :=
      if console.screenY < (numRows : Int) - 1 then
        { console with screenY := console.screenY + 1 }
      else console.moveScreenUp
    moveCurser { moved with screenX := 0 }
  else
    let written : Console :=
      { console with
        mem := storeCell console.mem console.screenY console.screenX c
        screenX := console.screenX + 1 }
    let moved :=
      if (numRows : Int) - 1 ≤ written.screenY ∧ numCols ≤ written.screenX then
        written.moveScreenUp
      else if numCols ≤ written.screenX then
        { written with screenY := written.screenY + 1 }
      else written
    moveCurser { moved with screenX := moved.screenX.tmod numCols }

/-- Send bytes through `putc` one after the other. -/
def putAll (console : Console) (bytes : List UInt8) : Console :=
  bytes.foldl putc console

/-- `puts`: print up to the first NUL and count the characters.  The string
ends with a NUL after the listed bytes. -/
def puts (console : Console) : List UInt8 → Console × Int
  | [] => (console, 0)
  | c :: rest =>
      if c = 0 then (console, 0)
      else
        let printed := puts (putc console c) rest
        (printed.1, printed.2 + 1)

/-- `printf` of a format without conversion specifications. -/
def printfPlain (console : Console) (format : String) : Console :=
  putAll console (format.toList.map fun c => UInt8.ofNat c.toNat)

/-- The cursor lies on the screen. -/
structure OnScreen (console : Console) : Prop where
  left : 0 ≤ console.screenX
  right : console.screenX < 80
  top : 0 ≤ console.screenY
  bottom : console.screenY < 25

end Console

/-- The bytes of the 80x25 screen. -/
def screenRegion : Set Nat :=
  { address | video ≤ address ∧ address < video + 4000 }

theorem cellAddress_eq {y x : Int} (top : 0 ≤ y) (bottom : y < 25)
    (left : 0 ≤ x) (right : x < 80) :
    cellAddress y x = video + 2 * (80 * y.toNat + x.toNat) := by
  simp only [cellAddress, video, numCols]
  rw [Int.emod_eq_of_lt (by omega) (by omega)]
  omega

theorem cellAddress_mem {y x : Int} (top : 0 ≤ y) (bottom : y < 25)
    (left : 0 ≤ x) (right : x < 80) :
    cellAddress y x ∈ screenRegion ∧ cellAddress y x + 1 ∈ screenRegion := by
  rw [cellAddress_eq top bottom left right]
  simp only [screenRegion, video, Set.mem_ofPred_eq]
  omega

namespace Console

theorem storeCell_storesOnly (mem : PhysicalMemory) {y x : Int}
    (character : UInt8) (top : 0 ≤ y) (bottom : y < 25) (left : 0 ≤ x)
    (right : x < 80) :
    TracedMemory.StoresOnly screenRegion mem (storeCell mem y x character) := by
  have inside := cellAddress_mem top bottom left right
  exact (TracedMemory.store_storesOnly mem character inside.1).andStore
    attrib inside.2

@[simp]
theorem moveCurser_mem (console : Console) :
    console.moveCurser.mem = console.mem :=
  rfl

@[simp]
theorem moveCurser_screenX (console : Console) :
    console.moveCurser.screenX = console.screenX :=
  rfl

@[simp]
theorem moveCurser_screenY (console : Console) :
    console.moveCurser.screenY = console.screenY :=
  rfl

@[simp]
theorem moveScreenUp_screenX (console : Console) :
    console.moveScreenUp.screenX = console.screenX :=
  rfl

@[simp]
theorem moveScreenUp_screenY (console : Console) :
    console.moveScreenUp.screenY = console.screenY :=
  rfl

theorem moveScreenUp_storesOnly (console : Console) :
    TracedMemory.StoresOnly screenRegion console.mem
      console.moveScreenUp.mem := by
  have shifted : TracedMemory.StoresOnly screenRegion console.mem
      (forUpTo (numRows - 1)
        (fun row => forUpTo numCols (shiftCell row)) console.mem) := by
    apply TracedMemory.StoresOnly.forUpTo
    intro row rowLt mem
    apply TracedMemory.StoresOnly.forUpTo
    intro column columnLt current
    simp only [numRows, numCols] at rowLt columnLt
    exact storeCell_storesOnly current _ (by omega) (by omega) (by omega) (by omega)
  refine shifted.trans (TracedMemory.StoresOnly.forUpTo _ ?_)
  intro column columnLt current
  simp only [numCols] at columnLt
  exact storeCell_storesOnly current _ (by simp) (by simp) (by omega) (by omega)

/-- The character shown at a cell. -/
def cell (console : Console) (y x : Nat) : UInt8 :=
  console.mem.read (cellAddress y x)

/-- The attribute byte of a cell. -/
def cellAttribute (console : Console) (y x : Nat) : UInt8 :=
  console.mem.read (cellAddress y x + 1)

theorem cellAddress_nat {y x : Nat} (bottom : y < 25) (right : x < 80) :
    cellAddress y x = video + 2 * (80 * y + x) := by
  simpa using cellAddress_eq (y := y) (x := x)
    (by omega) (by omega) (by omega) (by omega)

/-- Both bytes of every cell after one cell has been written. -/
theorem storeCell_read (mem : PhysicalMemory) (character : UInt8)
    {y x otherY otherX : Nat} (bottom : y < 25) (right : x < 80)
    (otherBottom : otherY < 25) (otherRight : otherX < 80) :
    (storeCell mem y x character).read (cellAddress otherY otherX) =
        (if otherY = y ∧ otherX = x then character
          else mem.read (cellAddress otherY otherX)) ∧
      (storeCell mem y x character).read (cellAddress otherY otherX + 1) =
        (if otherY = y ∧ otherX = x then attrib
          else mem.read (cellAddress otherY otherX + 1)) := by
  simp only [storeCell, TracedMemory.store_read, cellAddress_nat bottom right,
    cellAddress_nat otherBottom otherRight]
  by_cases same : otherY = y ∧ otherX = x
  · obtain ⟨rfl, rfl⟩ := same
    simp
  · have indexNe : 80 * otherY + otherX ≠ 80 * y + x := by omega
    rw [if_neg (by omega), if_neg (by omega), if_neg same, if_neg (by omega),
      if_neg (by omega), if_neg same]
    exact ⟨rfl, rfl⟩

/-- The first `count` cells, in reading order, have been overwritten by the
cells one row below them. -/
private def Shifted (before : PhysicalMemory) (count : Nat)
    (mem : PhysicalMemory) : Prop :=
  ∀ y x : Nat, y < 25 → x < 80 →
    mem.read (cellAddress y x) =
        (if 80 * y + x < count then before.read (cellAddress (y + 1 : Nat) x)
          else before.read (cellAddress y x)) ∧
      mem.read (cellAddress y x + 1) =
        (if 80 * y + x < count then attrib
          else before.read (cellAddress y x + 1))

private theorem Shifted.shiftCell {before mem : PhysicalMemory}
    {row column : Nat} (shifted : Shifted before (80 * row + column) mem)
    (rowLt : row < 24) (columnLt : column < 80) :
    Shifted before (80 * row + (column + 1)) (shiftCell row column mem) := by
  intro y x bottom right
  -- The row below is read before it is itself overwritten.
  have source := (shifted (row + 1) column (by omega) columnLt).1
  rw [if_neg (by omega)] at source
  have stored := storeCell_read mem (mem.read (cellAddress (row + 1 : Nat) column))
    (show row < 25 by omega) columnLt bottom right
  have current := shifted y x bottom right
  unfold Console.shiftCell
  by_cases here : y = row ∧ x = column
  · obtain ⟨rfl, rfl⟩ := here
    rw [if_pos ⟨rfl, rfl⟩, if_pos ⟨rfl, rfl⟩] at stored
    rw [if_pos (by omega), if_pos (by omega)]
    exact ⟨stored.1.trans source, stored.2⟩
  · rw [if_neg here, if_neg here, current.1, current.2] at stored
    have sameSide : 80 * y + x < 80 * row + (column + 1) ↔
        80 * y + x < 80 * row + column := by omega
    simp only [sameSide]
    exact stored

private theorem shifted_rows (before : PhysicalMemory) :
    Shifted before (80 * 24)
      (forUpTo (numRows - 1)
        (fun row => forUpTo numCols (Console.shiftCell row)) before) := by
  apply forUpTo_invariant fun row mem => Shifted before (80 * row) mem
  · intro y x _ _
    simp
  · intro row rowLt mem shifted
    have rowShifted : Shifted before (80 * row + 80)
        (forUpTo numCols (Console.shiftCell row) mem) := by
      apply forUpTo_invariant fun column mem => Shifted before (80 * row + column) mem
      · exact shifted
      · intro column columnLt current currentShifted
        exact currentShifted.shiftCell (by simpa using rowLt)
          (by simpa using columnLt)
    simpa [Nat.mul_succ] using rowShifted

/-- The first `count` columns of the last row have been blanked. -/
private def Blanked (before : PhysicalMemory) (count : Nat)
    (mem : PhysicalMemory) : Prop :=
  ∀ y x : Nat, y < 25 → x < 80 →
    mem.read (cellAddress y x) =
        (if y = 24 ∧ x < count then space else before.read (cellAddress y x)) ∧
      mem.read (cellAddress y x + 1) =
        (if y = 24 ∧ x < count then attrib
          else before.read (cellAddress y x + 1))

private theorem blanked_columns (before : PhysicalMemory) :
    Blanked before numCols
      (forUpTo numCols
        (fun column mem => storeCell mem ((numRows : Int) - 1) column space)
        before) := by
  apply forUpTo_invariant (Blanked before)
  · intro y x _ _
    simp
  · intro column columnLt mem holds y x bottom right
    have stored := storeCell_read mem space (show 24 < 25 by omega)
      (show column < 80 by simpa using columnLt) bottom right
    rw [(holds y x bottom right).1, (holds y x bottom right).2] at stored
    have step : x < column + 1 ↔ x < column ∨ x = column := Nat.lt_succ_iff_lt_or_eq
    refine ⟨stored.1.trans ?_, stored.2.trans ?_⟩ <;> simp only [step] <;>
      by_cases last : y = 24 <;> by_cases here : x = column <;>
        simp [last, here]

/-- After scrolling every cell shows the one below it, the last row is blank,
and every attribute is `ATTRIB`. -/
theorem moveScreenUp_cell (console : Console) {y x : Nat} (bottom : y < 25)
    (right : x < 80) :
    console.moveScreenUp.cell y x =
        (if y < 24 then console.cell (y + 1) x else space) ∧
      console.moveScreenUp.cellAttribute y x = attrib := by
  have moved := shifted_rows console.mem y x bottom right
  revert moved
  unfold cell cellAttribute moveScreenUp
  generalize forUpTo (numRows - 1)
    (fun row => forUpTo numCols (Console.shiftCell row)) console.mem = middle
  intro moved
  obtain ⟨cellEq, attributeEq⟩ := blanked_columns middle y x bottom right
  by_cases last : y = 24
  · rw [if_pos ⟨last, right⟩] at cellEq attributeEq
    exact ⟨by simpa [last] using cellEq, attributeEq⟩
  · rw [if_neg (by omega)] at cellEq attributeEq
    have above : 80 * y + x < 80 * 24 := by omega
    rw [if_pos above, if_pos above] at moved
    exact ⟨by rw [if_pos (by omega)]; exact cellEq.trans moved.1,
      attributeEq.trans moved.2⟩

end Console

end ChapOS
