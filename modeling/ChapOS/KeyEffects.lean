import ChapOS.ConsoleSheet

/-!
# What output and keys leave alone

Printing and the key handlers store to the screen and to the key buffer of the
displayed terminal only, keep the cursor on the screen, and leave the displayed
terminal displayed.
-/

namespace ChapOS

open CountedLoops

namespace Console

variable {console : Console}

/-- The address of a cell counted over the rows. -/
theorem cellAddress_of_cell {y x : Int} (low : 0 ≤ 80 * y + x)
    (high : 80 * y + x < 2000) :
    cellAddress y x = video + 2 * (80 * y + x).toNat := by
  rw [cellAddress]
  simp only [video, numCols]
  omega

/-- A cell counted over the rows lies on the screen. -/
theorem cellAddress_mem_of_cell {y x : Int} (low : 0 ≤ 80 * y + x)
    (high : 80 * y + x < 2000) :
    cellAddress y x ∈ screenRegion ∧ cellAddress y x + 1 ∈ screenRegion := by
  rw [cellAddress_of_cell low high]
  simp only [screenRegion, video, Set.mem_ofPred_eq]
  omega

theorem storeCell_of_cell (mem : PhysicalMemory) {y x : Int} (character : UInt8)
    (low : 0 ≤ 80 * y + x) (high : 80 * y + x < 2000) :
    TracedMemory.StoresOnly screenRegion mem (storeCell mem y x character) := by
  have inside := cellAddress_mem_of_cell low high
  exact (TracedMemory.store_storesOnly mem character inside.1).andStore attrib inside.2

theorem clear_storesOnly (console : Console) :
    TracedMemory.StoresOnly screenRegion console.mem console.clear.mem := by
  apply TracedMemory.StoresOnly.forUpTo
  intro index indexLt mem
  simp only [numRows, numCols] at indexLt
  exact storeCell_of_cell mem space (by omega) (by omega)

theorem putc_storesOnly (onScreen : console.OnScreen) (c : UInt8) :
    TracedMemory.StoresOnly screenRegion console.mem (console.putc c).mem := by
  have ⟨left, right, top, bottom⟩ := onScreen
  have written := storeCell_storesOnly console.mem c top bottom left right
  unfold putc
  split
  · rw [moveCurser_mem]
    dsimp only
    split
    · exact .refl _ _
    · exact console.moveScreenUp_storesOnly
  · dsimp only
    rw [moveCurser_mem]
    split
    · exact written.trans (moveScreenUp_storesOnly _)
    split
    · exact written
    · exact written

theorem putc_onScreen (onScreen : console.OnScreen) (c : UInt8) :
    (console.putc c).OnScreen :=
  ((shows_sheet onScreen).putc c).1.onScreen

theorem putAll_storesOnly (onScreen : console.OnScreen) (bytes : List UInt8) :
    TracedMemory.StoresOnly screenRegion console.mem (console.putAll bytes).mem := by
  induction bytes generalizing console with
  | nil => exact .refl _ _
  | cons c bytes ih =>
      exact (putc_storesOnly onScreen c).trans (ih (putc_onScreen onScreen c))

theorem putAll_onScreen (onScreen : console.OnScreen) (bytes : List UInt8) :
    (console.putAll bytes).OnScreen :=
  ((shows_sheet onScreen).putAll bytes).1.onScreen

end Console

/-- The cursor is on the screen, and `buffer_index` is a byte. -/
structure Tty.Fits (tty : Tty) : Prop where
  onScreen : tty.console.OnScreen
  bufferIndex : tty.keyboard.bufferIndex < 256

/-- Only the displayed terminal has changed. -/
structure Tty.Edits (before after : Tty) : Prop where
  curTermId : after.keyboard.curTermId = before.keyboard.curTermId
  keys : ∀ id, id ≠ before.keyboard.curTermId →
    after.keyboard.bufferKey id = before.keyboard.bufferKey id
  memory : TracedMemory.StoresOnly screenRegion before.console.mem after.console.mem
  fits : after.Fits

namespace Tty

variable {tty first middle last : Tty}

namespace Edits

theorem refl (fits : tty.Fits) : tty.Edits tty :=
  ⟨rfl, fun _ _ => rfl, .refl _ _, fits⟩

theorem trans (before : first.Edits middle) (after : middle.Edits last) :
    first.Edits last where
  curTermId := after.curTermId.trans before.curTermId
  keys id other :=
    (after.keys id (before.curTermId ▸ other)).trans (before.keys id other)
  memory := before.memory.trans after.memory
  fits := after.fits

/-- Changing the flags of the keyboard. -/
theorem flags (fits : tty.Fits) (mode : KeyboardMode) (ctrl alt returned : Bool) :
    tty.Edits
      { tty with
        keyboard :=
          { tty.keyboard with
            keyboardMode := mode, ctrlFlag := ctrl, altFlag := alt
            returnFlag := returned } } :=
  ⟨rfl, fun _ _ => rfl, .refl _ _, ⟨fits.onScreen, fits.bufferIndex⟩⟩

theorem storeKey (fits : tty.Fits) (index : Nat) (key : UInt8) :
    tty.Edits (tty.storeKey index key) :=
  ⟨rfl, fun _ other => Function.update_of_ne other _ _, .refl _ _,
    ⟨fits.onScreen, fits.bufferIndex⟩⟩

theorem setBufferIndex (fits : tty.Fits) (index : Nat) :
    tty.Edits (tty.setBufferIndex index) :=
  ⟨rfl, fun _ _ => rfl, .refl _ _, ⟨fits.onScreen, Nat.mod_lt index (by decide)⟩⟩

/-- Changing the console. -/
theorem console {console : Console} (fits : tty.Fits)
    (memory : TracedMemory.StoresOnly screenRegion tty.console.mem console.mem)
    (onScreen : console.OnScreen) : tty.Edits { tty with console := console } :=
  ⟨rfl, fun _ _ => rfl, memory, ⟨onScreen, fits.bufferIndex⟩⟩

theorem putc (fits : tty.Fits) (c : UInt8) : tty.Edits (tty.putc c) :=
  console fits (Console.putc_storesOnly fits.onScreen c)
    (Console.putc_onScreen fits.onScreen c)

theorem putAll (fits : tty.Fits) (bytes : List UInt8) :
    tty.Edits { tty with console := tty.console.putAll bytes } :=
  console fits (Console.putAll_storesOnly fits.onScreen bytes)
    (Console.putAll_onScreen fits.onScreen bytes)

theorem pressEnter (fits : tty.Fits) : tty.Edits tty.pressEnter := by
  have stored := storeKey fits tty.keyboard.bufferIndex keyNull
  have cleared := setBufferIndex stored.fits 0
  have printed := putc cleared.fits newLine
  exact ((stored.trans cleared).trans printed).trans (flags printed.fits _ _ _ true)

theorem clearScreen (fits : tty.Fits) : tty.Edits tty.clearScreen := by
  have cleared := console fits tty.console.clear_storesOnly
    (show tty.console.clear.OnScreen from
      ⟨fits.onScreen.left, fits.onScreen.right, fits.onScreen.top, fits.onScreen.bottom⟩)
  have emptied := setBufferIndex cleared.fits 0
  refine (cleared.trans emptied).trans (console emptied.fits (.refl _ _) ?_)
  exact ⟨Int.le_refl 0, show (0 : Int) < 80 by decide, Int.le_refl 0,
    show (0 : Int) < 25 by decide⟩

end Edits

section Erase

variable (console : Console)

theorem eraseOnScreen_mem :
    (eraseOnScreen console).mem =
      if console.screenY > 1 ∨ console.screenX > 0 then
        Console.storeCell console.mem console.screenY (console.screenX - 1) space
      else console.mem := by
  unfold eraseOnScreen
  dsimp only
  split <;> split <;> rfl

theorem eraseOnScreen_screenX :
    (eraseOnScreen console).screenX =
      if console.screenX ≠ 0 then console.screenX - 1 else 79 := by
  unfold eraseOnScreen
  dsimp only
  split <;> split <;> rfl

theorem eraseOnScreen_screenY :
    (eraseOnScreen console).screenY =
      if console.screenX ≠ 0 then console.screenY
      else if console.screenY > 0 then console.screenY - 1 else console.screenY := by
  unfold eraseOnScreen
  dsimp only
  split <;> split <;> rfl

variable {console}

theorem eraseOnScreen_storesOnly (onScreen : console.OnScreen) :
    TracedMemory.StoresOnly screenRegion console.mem (eraseOnScreen console).mem := by
  have ⟨left, right, top, bottom⟩ := onScreen
  rw [eraseOnScreen_mem]
  split
  · exact Console.storeCell_of_cell _ _ (by omega) (by omega)
  · exact .refl _ _

theorem eraseOnScreen_onScreen (onScreen : console.OnScreen) :
    (eraseOnScreen console).OnScreen := by
  have ⟨left, right, top, bottom⟩ := onScreen
  constructor
  · rw [eraseOnScreen_screenX]
    split <;> omega
  · rw [eraseOnScreen_screenX]
    split <;> omega
  · rw [eraseOnScreen_screenY]
    split
    · exact top
    · split <;> omega
  · rw [eraseOnScreen_screenY]
    split
    · exact bottom
    · split <;> omega

end Erase

theorem pressBskp_edits (fits : tty.Fits) : tty.Edits tty.pressBskp := by
  have moves {edited : Tty} (edits : tty.Edits edited) :
      tty.Edits { edited with console := edited.console.moveCurser } := by
    refine edits.trans (.console edits.fits (.refl _ _) ?_)
    exact ⟨edits.fits.onScreen.left, edits.fits.onScreen.right,
      edits.fits.onScreen.top, edits.fits.onScreen.bottom⟩
  unfold pressBskp
  dsimp only
  split
  · have stored := Edits.storeKey fits (tty.keyboard.bufferIndex - 1) keyNull
    have dropped := Edits.setBufferIndex stored.fits (tty.keyboard.bufferIndex - 1)
    have erased := Edits.console dropped.fits
      (eraseOnScreen_storesOnly dropped.fits.onScreen)
      (eraseOnScreen_onScreen dropped.fits.onScreen)
    exact moves ((stored.trans dropped).trans erased)
  · exact moves (.refl fits)

theorem pressOtherKey_edits (fits : tty.Fits) (key : Nat) :
    tty.Edits (tty.pressOtherKey key).1 := by
  unfold pressOtherKey
  split
  · exact .refl fits
  dsimp only
  split
  · exact .refl fits
  split
  · split
    · have stored := Edits.storeKey fits tty.keyboard.bufferIndex
        (scancodeArray tty.keyboard.keyboardMode key)
      have counted := Edits.setBufferIndex stored.fits (tty.keyboard.bufferIndex + 1)
      exact (stored.trans counted).trans (.putc counted.fits _)
    · exact .refl fits
  · have cleared : tty.Edits
        (if scancodeArray tty.keyboard.keyboardMode key = 0x6C ∨
            scancodeArray tty.keyboard.keyboardMode key = 0x4C then tty.clearScreen
          else tty) := by
      split
      · exact .clearScreen fits
      · exact .refl fits
    split
    · exact cleared
    · exact cleared

/-- What the handlers of all keys do, `handleKey` does. -/
theorem handleKey_cases {holds : Tty × KeyAction → Prop} (tty : Tty) (key : Nat)
    (flags : ∀ mode ctrl alt, holds
      ({ tty with
          keyboard :=
            { tty.keyboard with keyboardMode := mode, ctrlFlag := ctrl, altFlag := alt } },
        .done))
    (entered : holds (tty.pressEnter, .done)) (erased : holds (tty.pressBskp, .done))
    (function : ∀ id < 3, holds (tty.pressFunctionKey id))
    (other : holds (tty.pressOtherKey key)) : holds (tty.handleKey key) := by
  unfold handleKey
  refine iteInduction (fun _ => flags _ _ _) fun _ => ?_
  refine iteInduction (fun _ => entered) fun _ => ?_
  refine iteInduction (fun _ => flags _ _ _) fun _ => ?_
  refine iteInduction (fun _ => flags _ _ _) fun _ => ?_
  refine iteInduction (fun _ => flags _ _ _) fun _ => ?_
  refine iteInduction (fun _ => flags _ _ _) fun _ => ?_
  refine iteInduction (fun _ => erased) fun _ => ?_
  refine iteInduction (fun _ => flags _ _ _) fun _ => ?_
  refine iteInduction (fun _ => flags _ _ _) fun _ => ?_
  refine iteInduction (fun _ => flags _ _ _) fun _ => ?_
  refine iteInduction (fun _ => flags _ _ _) fun _ => ?_
  refine iteInduction (fun _ => function 0 (by decide)) fun _ => ?_
  refine iteInduction (fun _ => function 1 (by decide)) fun _ => ?_
  refine iteInduction (fun _ => function 2 (by decide)) fun _ => ?_
  exact other

/-- A scancode edits the displayed terminal only. -/
theorem handleKey_edits (fits : tty.Fits) (key : Nat) :
    tty.Edits (tty.handleKey key).1 := by
  apply @handleKey_cases (fun handled => tty.Edits handled.1)
  · intro mode ctrl alt
    exact .flags fits mode ctrl alt _
  · exact .pressEnter fits
  · exact pressBskp_edits fits
  · intro id _
    exact .refl fits
  · exact pressOtherKey_edits fits key

theorem pressFunctionKey_of_terminalLoS {function id : Nat}
    (requested : (tty.pressFunctionKey function).2 = .terminalLoS id) :
    tty.pressFunctionKey function = (tty, .terminalLoS id) ∧ id = function := by
  unfold pressFunctionKey at requested ⊢
  dsimp only at requested
  split at requested
  · rename_i alt
    obtain rfl := KeyAction.terminalLoS.inj requested
    exact ⟨by rw [if_pos alt], rfl⟩
  · exact nomatch requested

theorem pressOtherKey_requests_nothing (tty : Tty) (key id : Nat) :
    (tty.pressOtherKey key).2 ≠ .terminalLoS id := by
  unfold pressOtherKey
  split
  · exact nofun
  dsimp only
  split
  · exact nofun
  split
  · split <;> exact nofun
  · split <;> exact nofun

/-- A terminal is requested by Alt and one of the keys F1 to F3, which edit
nothing. -/
theorem handleKey_of_terminalLoS {key id : Nat}
    (requested : (tty.handleKey key).2 = .terminalLoS id) :
    tty.handleKey key = (tty, .terminalLoS id) ∧ id < 3 := by
  have cases : (tty.handleKey key).2 = .terminalLoS id →
      tty.handleKey key = (tty, .terminalLoS id) ∧ id < 3 := by
    apply @handleKey_cases fun handled => handled.2 = .terminalLoS id →
      handled = (tty, .terminalLoS id) ∧ id < 3
    · intro mode ctrl alt done
      exact nomatch done
    · intro done
      exact nomatch done
    · intro done
      exact nomatch done
    · intro number numberLt requested
      obtain ⟨same, rfl⟩ := pressFunctionKey_of_terminalLoS requested
      exact ⟨same, numberLt⟩
    · intro requested
      exact absurd requested (pressOtherKey_requests_nothing tty key id)
  exact cases requested

end Tty

end ChapOS
