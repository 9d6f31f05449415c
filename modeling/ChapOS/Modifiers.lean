import ChapOS.KernelViews
import ChapOS.LineDiscipline
import ChapOS.ProcessTurnover
import Mathlib.Data.List.Induction

/-!
# The modifier keys

`keyboard_mode` packs the caps lock and the shift keys into four values.  The
handlers of the keys are compared with what the received scancodes say: whether
the caps lock has been pressed an odd number of times, and whether one of the two
shift keys is down.
-/

namespace ChapOS

namespace KeyboardMode

/-- The caps component of `keyboard_mode`. -/
def caps : KeyboardMode → Bool
  | .pressCapOnly | .pressShiftCap => true
  | .pressNothing | .pressShiftOnly => false

/-- The shift component of `keyboard_mode`. -/
def shift : KeyboardMode → Bool
  | .pressShiftOnly | .pressShiftCap => true
  | .pressNothing | .pressCapOnly => false

/-- The value with the given components. -/
def ofParts : Bool → Bool → KeyboardMode
  | false, false => .pressNothing
  | false, true => .pressShiftOnly
  | true, false => .pressCapOnly
  | true, true => .pressShiftCap

@[simp]
theorem caps_ofParts (caps shift : Bool) : (ofParts caps shift).caps = caps := by
  cases caps <;> cases shift <;> rfl

@[simp]
theorem shift_ofParts (caps shift : Bool) : (ofParts caps shift).shift = shift := by
  cases caps <;> cases shift <;> rfl

/-- What a scancode does to the two components.  A shift key that goes down clears
caps in `PRESS_SHIFT_CAP`, and one that goes up keeps caps only there. -/
def afterKey (mode : KeyboardMode) (key : Nat) : KeyboardMode :=
  if key = capsDown then ofParts (!mode.caps) mode.shift
  else if key = leftShiftDown ∨ key = rightShiftDown then
    ofParts (mode.caps && !mode.shift) true
  else if key = leftShiftUp ∨ key = rightShiftUp then
    ofParts (mode.caps && mode.shift) false
  else mode

end KeyboardMode

namespace Tty

variable (tty : Tty)

theorem pressCaps_mode : tty.pressCaps.keyboard.keyboardMode =
    .ofParts (!tty.keyboard.keyboardMode.caps) tty.keyboard.keyboardMode.shift := by
  unfold pressCaps
  cases tty.keyboard.keyboardMode <;> rfl

theorem pressShift_mode : tty.pressShift.keyboard.keyboardMode =
    .ofParts (tty.keyboard.keyboardMode.caps && !tty.keyboard.keyboardMode.shift)
      true := by
  unfold pressShift
  cases tty.keyboard.keyboardMode <;> rfl

theorem unpressShift_mode : tty.unpressShift.keyboard.keyboardMode =
    .ofParts (tty.keyboard.keyboardMode.caps && tty.keyboard.keyboardMode.shift)
      false := by
  unfold unpressShift
  cases tty.keyboard.keyboardMode <;> rfl

theorem pressBskp_mode :
    tty.pressBskp.keyboard.keyboardMode = tty.keyboard.keyboardMode := by
  unfold pressBskp
  dsimp only
  split <;> rfl

theorem pressOtherKey_mode (key : Nat) :
    (tty.pressOtherKey key).1.keyboard.keyboardMode = tty.keyboard.keyboardMode := by
  unfold pressOtherKey
  split
  · rfl
  dsimp only
  split
  · rfl
  split
  · split <;> rfl
  · have cleared :
        (if scancodeArray tty.keyboard.keyboardMode key = 0x6C ∨
            scancodeArray tty.keyboard.keyboardMode key = 0x4C then tty.clearScreen
          else tty).keyboard.keyboardMode = tty.keyboard.keyboardMode := by
      split <;> rfl
    split
    · exact cleared
    · exact cleared

/-- A scancode changes `keyboard_mode` in this way only. -/
theorem handleKey_mode (key : Nat) :
    (tty.handleKey key).1.keyboard.keyboardMode =
      tty.keyboard.keyboardMode.afterKey key := by
  by_cases pressed : key ∈ [capsDown, enter, leftShiftDown, rightShiftDown, bksp, ctrlDown,
      altDown, f1Down, f2Down, f3Down]
  · simp only [List.mem_cons, List.not_mem_nil, or_false] at pressed
    rcases pressed with rfl | rfl | rfl | rfl | rfl | rfl | rfl | rfl | rfl | rfl
    · exact tty.pressCaps_mode
    · rfl
    · exact tty.pressShift_mode
    · exact tty.pressShift_mode
    · exact tty.pressBskp_mode
    all_goals rfl
  by_cases released : key ∈ [leftShiftUp, rightShiftUp, ctrlUp, altUp]
  · simp only [List.mem_cons, List.not_mem_nil, or_false] at released
    rcases released with rfl | rfl | rfl | rfl
    · exact tty.unpressShift_mode
    · exact tty.unpressShift_mode
    all_goals rfl
  · rw [handleKey_of_other pressed released, pressOtherKey_mode]
    simp only [List.mem_cons, List.not_mem_nil, or_false, not_or] at pressed released
    obtain ⟨notCaps, -, notLeftDown, notRightDown, -⟩ := pressed
    obtain ⟨notLeftUp, notRightUp, -⟩ := released
    rw [KeyboardMode.afterKey, if_neg notCaps,
      if_neg (not_or.mpr ⟨notLeftDown, notRightDown⟩),
      if_neg (not_or.mpr ⟨notLeftUp, notRightUp⟩)]

end Tty

/-- A key is down when the last scancode it has sent is its make code. -/
def IsDown (make release : Nat) (keys : List Nat) : Prop :=
  (keys.filter fun key => key = make ∨ key = release).getLast? = some make

/-- The caps lock has been pressed an odd number of times. -/
def CapsOn (keys : List Nat) : Prop :=
  keys.count capsDown % 2 = 1

def LeftShift (keys : List Nat) : Prop :=
  IsDown leftShiftDown leftShiftUp keys

def RightShift (keys : List Nat) : Prop :=
  IsDown rightShiftDown rightShiftUp keys

/-- What `keyboard_mode` should say after the scancodes `keys`. -/
structure Tracks (mode : KeyboardMode) (keys : List Nat) : Prop where
  caps : mode.caps = true ↔ CapsOn keys
  shift : mode.shift = true ↔ LeftShift keys ∨ RightShift keys

/-- A scancode that the handlers get right: no shift key goes down, or repeats, while
caps and shift are both on; none goes up while the other is down; and while caps is
on none goes up that was not down. -/
structure HandledRight (keys : List Nat) (key : Nat) : Prop where
  down : key = leftShiftDown ∨ key = rightShiftDown →
    ¬(CapsOn keys ∧ (LeftShift keys ∨ RightShift keys))
  leftUp : key = leftShiftUp →
    ¬RightShift keys ∧ (CapsOn keys → LeftShift keys)
  rightUp : key = rightShiftUp →
    ¬LeftShift keys ∧ (CapsOn keys → RightShift keys)

instance (make release : Nat) (keys : List Nat) : Decidable (IsDown make release keys) :=
  inferInstanceAs (Decidable (_ = _))

instance (keys : List Nat) : Decidable (CapsOn keys) :=
  inferInstanceAs (Decidable (_ = _))

instance (keys : List Nat) : Decidable (LeftShift keys) :=
  inferInstanceAs (Decidable (IsDown _ _ keys))

instance (keys : List Nat) : Decidable (RightShift keys) :=
  inferInstanceAs (Decidable (IsDown _ _ keys))

instance (keys : List Nat) (key : Nat) : Decidable (HandledRight keys key) :=
  decidable_of_iff
    ((key = leftShiftDown ∨ key = rightShiftDown →
        ¬(CapsOn keys ∧ (LeftShift keys ∨ RightShift keys))) ∧
      (key = leftShiftUp → ¬RightShift keys ∧ (CapsOn keys → LeftShift keys)) ∧
      (key = rightShiftUp → ¬LeftShift keys ∧ (CapsOn keys → RightShift keys)))
    ⟨fun ⟨down, leftUp, rightUp⟩ => ⟨down, leftUp, rightUp⟩,
      fun ⟨down, leftUp, rightUp⟩ => ⟨down, leftUp, rightUp⟩⟩

section Received

variable {make release key : Nat} {keys : List Nat} {mode : KeyboardMode}

theorem isDown_snoc_make : IsDown make release (keys ++ [make]) := by
  simp [IsDown]

theorem isDown_snoc_release (different : make ≠ release) :
    ¬IsDown make release (keys ++ [release]) := by
  simp [IsDown, different.symm]

theorem isDown_snoc_other (notMake : key ≠ make) (notRelease : key ≠ release) :
    IsDown make release (keys ++ [key]) ↔ IsDown make release keys := by
  simp [IsDown, notMake, notRelease]

theorem capsOn_snoc_caps : CapsOn (keys ++ [capsDown]) ↔ ¬CapsOn keys := by
  simp only [CapsOn, List.count_append, List.count_singleton_self]
  omega

theorem capsOn_snoc_other (notCaps : key ≠ capsDown) :
    CapsOn (keys ++ [key]) ↔ CapsOn keys := by
  simp [CapsOn, List.count_append, notCaps]

theorem tracks_ofParts_iff {caps shift : Bool} :
    Tracks (.ofParts caps shift) keys ↔
      (caps = true ↔ CapsOn keys) ∧ (shift = true ↔ LeftShift keys ∨ RightShift keys) := by
  constructor
  · intro tracks
    exact ⟨by simpa using tracks.caps, by simpa using tracks.shift⟩
  · rintro ⟨capsRight, shiftRight⟩
    exact ⟨by simpa using capsRight, by simpa using shiftRight⟩

/-- A shift key that goes down loses caps if shift was on. -/
theorem Tracks.shiftDown_iff (tracks : Tracks mode keys) {after : List Nat}
    (kept : CapsOn after ↔ CapsOn keys) (held : LeftShift after ∨ RightShift after) :
    Tracks (.ofParts (mode.caps && !mode.shift) true) after ↔
      ¬(CapsOn keys ∧ (LeftShift keys ∨ RightShift keys)) := by
  rw [tracks_ofParts_iff, kept, Bool.and_eq_true, Bool.not_eq_true', ← Bool.not_eq_true,
    tracks.caps, tracks.shift]
  constructor
  · rintro ⟨caps, -⟩ ⟨on, shift⟩
    exact (caps.mpr on).2 shift
  · intro notBoth
    exact ⟨⟨And.left, fun on => ⟨on, fun shift => notBoth ⟨on, shift⟩⟩⟩,
      iff_of_true rfl held⟩

/-- A shift key that goes up takes the other one with it, and loses caps if shift
was off. -/
theorem Tracks.shiftUp_iff (tracks : Tracks mode keys) {after : List Nat}
    {own other : Prop} (shift : LeftShift keys ∨ RightShift keys ↔ own ∨ other)
    (kept : CapsOn after ↔ CapsOn keys)
    (left : LeftShift after ∨ RightShift after ↔ other) :
    Tracks (.ofParts (mode.caps && mode.shift) false) after ↔
      ¬other ∧ (CapsOn keys → own) := by
  rw [tracks_ofParts_iff, kept, left, Bool.and_eq_true, tracks.caps, tracks.shift, shift]
  constructor
  · rintro ⟨caps, held⟩
    have notOther : ¬other := fun isHeld => Bool.false_ne_true (held.mpr isHeld)
    exact ⟨notOther, fun on => (caps.mpr on).2.resolve_right notOther⟩
  · rintro ⟨notOther, isOwn⟩
    exact ⟨⟨And.left, fun on => ⟨on, Or.inl (isOwn on)⟩⟩,
      iff_of_false Bool.false_ne_true notOther⟩

/-- One scancode: the mode still says what it should exactly when the scancode is
handled right. -/
theorem Tracks.snoc_iff (tracks : Tracks mode keys) (key : Nat) :
    Tracks (mode.afterKey key) (keys ++ [key]) ↔ HandledRight keys key := by
  by_cases isCaps : key = capsDown
  · subst isCaps
    refine iff_of_true ?_ ⟨nofun, nofun, nofun⟩
    rw [KeyboardMode.afterKey, if_pos rfl, tracks_ofParts_iff, capsOn_snoc_caps,
      LeftShift, RightShift, isDown_snoc_other (by decide) (by decide),
      isDown_snoc_other (by decide) (by decide), ← tracks.caps]
    exact ⟨by simp, tracks.shift⟩
  have kept := @capsOn_snoc_other key keys isCaps
  by_cases isLeftDown : key = leftShiftDown
  · subst isLeftDown
    rw [KeyboardMode.afterKey, if_neg isCaps, if_pos (Or.inl rfl),
      tracks.shiftDown_iff kept (Or.inl isDown_snoc_make)]
    exact ⟨fun right => ⟨fun _ => right, nofun, nofun⟩,
      fun right => right.down (Or.inl rfl)⟩
  by_cases isRightDown : key = rightShiftDown
  · subst isRightDown
    rw [KeyboardMode.afterKey, if_neg isCaps, if_pos (Or.inr rfl),
      tracks.shiftDown_iff kept (Or.inr isDown_snoc_make)]
    exact ⟨fun right => ⟨fun _ => right, nofun, nofun⟩,
      fun right => right.down (Or.inr rfl)⟩
  have notDown := not_or.mpr ⟨isLeftDown, isRightDown⟩
  by_cases isLeftUp : key = leftShiftUp
  · subst isLeftUp
    have left : LeftShift (keys ++ [leftShiftUp]) ∨ RightShift (keys ++ [leftShiftUp]) ↔
        RightShift keys :=
      (or_iff_right (isDown_snoc_release (by decide))).trans
        (isDown_snoc_other (by decide) (by decide))
    rw [KeyboardMode.afterKey, if_neg isCaps, if_neg notDown, if_pos (Or.inl rfl),
      tracks.shiftUp_iff Iff.rfl kept left]
    exact ⟨fun right => ⟨nofun, fun _ => right, nofun⟩, fun right => right.leftUp rfl⟩
  by_cases isRightUp : key = rightShiftUp
  · subst isRightUp
    have left : LeftShift (keys ++ [rightShiftUp]) ∨ RightShift (keys ++ [rightShiftUp]) ↔
        LeftShift keys :=
      (or_iff_left (isDown_snoc_release (by decide))).trans
        (isDown_snoc_other (by decide) (by decide))
    rw [KeyboardMode.afterKey, if_neg isCaps, if_neg notDown, if_pos (Or.inr rfl),
      tracks.shiftUp_iff or_comm kept left]
    exact ⟨fun right => ⟨nofun, nofun, fun _ => right⟩, fun right => right.rightUp rfl⟩
  · refine iff_of_true ?_ ⟨fun down => absurd down notDown, fun up => absurd up isLeftUp,
      fun up => absurd up isRightUp⟩
    rw [KeyboardMode.afterKey, if_neg isCaps, if_neg notDown,
      if_neg (not_or.mpr ⟨isLeftUp, isRightUp⟩)]
    constructor
    · rw [kept]
      exact tracks.caps
    · rw [LeftShift, RightShift, isDown_snoc_other isLeftDown isLeftUp,
        isDown_snoc_other isRightDown isRightUp]
      exact tracks.shift

/-- From boot on the mode says what it should after every scancode exactly when every
scancode is handled right. -/
theorem tracks_always_iff (keys : List Nat) :
    (∀ before, before <+: keys →
        Tracks (before.foldl KeyboardMode.afterKey .pressNothing) before) ↔
      ∀ before key, before ++ [key] <+: keys → HandledRight before key := by
  constructor
  · intro tracks before key isPrefix
    have now := tracks before ((List.prefix_append before [key]).trans isPrefix)
    have next := tracks (before ++ [key]) isPrefix
    rw [List.foldl_append] at next
    exact (now.snoc_iff key).mp next
  · intro right before
    induction before using List.reverseRecOn with
    | nil => exact fun _ => ⟨by simp [KeyboardMode.caps, CapsOn], by
        simp [KeyboardMode.shift, LeftShift, RightShift, IsDown]⟩
    | append_singleton before key ih =>
        intro isPrefix
        have now := ih ((List.prefix_append before [key]).trans isPrefix)
        rw [List.foldl_append]
        exact (now.snoc_iff key).mpr (right before key isPrefix)

end Received

/-- `keyboard_mode` is out of reach of the terminals and of `execute`. -/
theorem ignores_keyboardMode : Ignores fun kernel => kernel.tty.keyboard.keyboardMode where
  setPaging _ _ := rfl
  setMem _ _ := rfl
  fault _ := rfl
  setTerminal _ _ _ := rfl
  setConsole _ _ := rfl
  setBufferIndex _ _ := rfl
  setCurTermId _ _ := rfl
  setStack _ _ _ _ := rfl
  enableIrq _ _ := rfl
  sendEoi _ _ := rfl
  disableIrq _ _ := rfl
  rtcInterrupt _ := rfl
  execute layout fs stale command kernel := by
    have done := kernel.execute_cases layout fs stale command
    generalize kernel.execute layout fs stale command = result at done ⊢
    cases done <;> rfl

namespace Kernel

variable (layout : KernelLayout) (fs : FileSystem) (kernel : Kernel)

theorem write_keyboard (stale : StaleLocals) (fd : Int) (buf : Option CString)
    (nbytes : Int) :
    (kernel.write stale fd buf nbytes).1.tty.keyboard = kernel.tty.keyboard := by
  rcases kernel.write_result stale fd buf nbytes with ⟨devices, wrote⟩ | ⟨bytes, wrote⟩
  · rw [wrote]
    rfl
  · rw [wrote]
    rfl

/-- A descriptor call leaves the keyboard's statics as they are when it ends. -/
theorem fileCall_keyboard (request : FileRequest) (stale : StaleLocals) :
    (kernel.fileCall fs ⟨request.wokenIn kernel.tty, stale⟩).1.tty.keyboard =
      kernel.tty.keyboard := by
  cases request with
  | «open» filename =>
      exact congrArg Tty.keyboard (ignoresCalls_tty.open fs kernel stale filename)
  | close fd => exact congrArg Tty.keyboard (ignoresCalls_tty.close kernel fd)
  | read fd buf nbytes woken =>
      exact congrArg Tty.keyboard (ignoresCalls_tty.read fs kernel stale fd _ nbytes)
  | write fd buf nbytes => exact kernel.write_keyboard stale fd buf nbytes

theorem halt_keyboardMode (stale : StaleLocals) (status : Nat) :
    (kernel.halt layout fs stale status).1.tty.keyboard.keyboardMode =
      kernel.tty.keyboard.keyboardMode := by
  have same := congrArg (fun tty => tty.keyboard.keyboardMode)
    kernel.leaveProcess_sameInput.2
  by_cases isRoot : kernel.activeProcNum = 0
  · rw [halt_of_root layout fs stale status isRoot, returnZero_kernel,
      ignores_keyboardMode.execute]
    exact same
  · rw [halt_of_child layout fs stale status isRoot]
    exact same

/-- The scancode an event handles. -/
def scancode : Event → Option Nat
  | .keyboard key _ => some key
  | _ => none

/-- Every event leaves `keyboard_mode` to the scancode it handles. -/
theorem handle_keyboardMode (event : Event) :
    (kernel.handle layout fs event).1.tty.keyboard.keyboardMode =
      (scancode event).toList.foldl KeyboardMode.afterKey
        kernel.tty.keyboard.keyboardMode := by
  by_cases isKey : ∃ key stale, event = .keyboard key stale
  · obtain ⟨key, stale, rfl⟩ := isKey
    have edited := kernel.tty.handleKey_mode key
    have handled := ignores_keyboardMode.keyboardIntHandler layout fs kernel stale key
    cases action : (kernel.tty.handleKey key).2 with
    | done =>
        rw [action] at handled
        exact handled.trans edited
    | halt =>
        rw [action] at handled
        obtain ⟨start, -, -, tty, halted⟩ := handled
        have same := start.halt_keyboardMode layout fs stale 0
        rw [tty] at same
        exact (halted.trans same).trans edited
    | terminalLoS id =>
        rw [action] at handled
        exact handled.trans edited
  have noKey : scancode event = none := by
    cases event with
    | keyboard key stale => exact absurd ⟨key, stale, rfl⟩ isKey
    | _ => rfl
  rw [noKey]
  cases halts : kernel.halting event with
  | some stale =>
      cases halts_of_halting halts with
      | halt status => exact kernel.halt_keyboardMode layout fs stale status
      | exception message => exact halt_keyboardMode layout fs _ stale exceptRetval
      | keyboard key ctrlC => exact absurd ⟨key, stale, rfl⟩ isKey
  | none =>
      by_cases isCall : ∃ request stale, event = .fileCall request stale
      · obtain ⟨request, stale, rfl⟩ := isCall
        exact congrArg Keyboard.keyboardMode (kernel.fileCall_keyboard fs request stale)
      · exact ignores_keyboardMode.handle layout fs kernel
          (fun request stale same => isCall ⟨request, stale, same⟩) halts
          fun key stale same => isKey ⟨key, stale, same⟩

/-- The scancodes handled in a run, in order. -/
def scancodes (labels : List (Event × Outcome)) : List Nat :=
  labels.filterMap fun label => scancode label.1

end Kernel

section Runs

variable {layout : KernelLayout} {fs : FileSystem} {first kernel : Kernel}
  {labels : List (Event × Outcome)}

theorem keyboardMode_of_run (run : Run (Kernel.Step layout fs) first labels kernel) :
    kernel.tty.keyboard.keyboardMode =
      (Kernel.scancodes labels).foldl KeyboardMode.afterKey
        first.tty.keyboard.keyboardMode := by
  induction run with
  | nil state => rfl
  | @cons start middle last label rest step run ih =>
      have handled := start.handle_keyboardMode layout fs label.1
      rw [step.2] at handled
      rw [ih, handled]
      cases isKey : Kernel.scancode label.1 with
      | none => simp [Kernel.scancodes, isKey]
      | some key => simp [Kernel.scancodes, isKey]

theorem scancodes_prefix {before : List Nat} (isPrefix : before <+: Kernel.scancodes labels) :
    ∃ handled, handled <+: labels ∧ Kernel.scancodes handled = before := by
  obtain ⟨after, joined⟩ := isPrefix
  obtain ⟨handled, rest, rfl, isBefore, -⟩ := List.filterMap_eq_append_iff.mp joined.symm
  exact ⟨handled, List.prefix_append handled rest, isBefore⟩

/-- In a run from boot, `keyboard_mode` says in every state whether caps is on and
whether a shift key is down, exactly when the run handles every scancode right. -/
theorem modifiers_tracked_iff (released : first.tty.keyboard.keyboardMode = .pressNothing)
    (run : Run (Kernel.Step layout fs) first labels kernel) :
    (∀ before middle, before <+: labels →
        Run (Kernel.Step layout fs) first before middle →
          Tracks middle.tty.keyboard.keyboardMode (Kernel.scancodes before)) ↔
      ∀ before key, before ++ [key] <+: Kernel.scancodes labels →
        HandledRight before key := by
  rw [← tracks_always_iff]
  constructor
  · intro tracked before isPrefix
    obtain ⟨handled, ⟨rest, isRun⟩, rfl⟩ := scancodes_prefix isPrefix
    rw [← isRun] at run
    obtain ⟨middle, reached, -⟩ := run.split
    have tracks := tracked handled middle ⟨rest, isRun⟩ reached
    rwa [keyboardMode_of_run reached, released] at tracks
  · rintro tracked before middle ⟨rest, rfl⟩ reached
    rw [keyboardMode_of_run reached, released]
    exact tracked _ ((List.prefix_append before rest).filterMap _)

/-- Keys that are handled in place, one after the other. -/
theorem exists_keyRun (layout : KernelLayout) (fs : FileSystem) {keys : List Nat}
    (inPlace : ∀ key ∈ keys, ∀ tty : Tty, (tty.handleKey key).2 = .done)
    (running : first.faulting = false) (kernelMode : first.userMode = false) :
    ∃ labels last, Kernel.scancodes labels = keys ∧
      Run (Kernel.Step layout fs) first labels last := by
  induction keys generalizing first with
  | nil => exact ⟨[], first, rfl, Run.nil first⟩
  | cons key keys ih =>
      have done := inPlace key List.mem_cons_self first.tty
      obtain ⟨devices, handled⟩ := @keyboard_of_done layout fs first key .zero done
      obtain ⟨labels, last, scanned, run⟩ :=
        @ih ((first.setTty (first.tty.handleKey key).1).setDevices devices)
          (fun other member => inPlace other (List.mem_cons_of_mem key member)) running
          kernelMode
      refine ⟨(.keyboard key .zero, .returned 0) :: labels, last, ?_,
        Run.cons ⟨⟨running, kernelMode⟩, handled⟩ run⟩
      rw [← scanned]
      rfl

/-- The keys whose handlers only change `keyboard_mode`. -/
def modifierKeys : List Nat :=
  [capsDown, leftShiftDown, leftShiftUp, rightShiftDown, rightShiftUp]

theorem modifierKeys_inPlace : ∀ key ∈ modifierKeys, ∀ tty : Tty,
    (tty.handleKey key).2 = .done := by
  intro key member tty
  simp only [modifierKeys, List.mem_cons, List.not_mem_nil, or_false] at member
  rcases member with rfl | rfl | rfl | rfl | rfl <;> rfl

theorem exists_modifierRun {keys : List Nat} (modifiers : keys ⊆ modifierKeys) :
    ∃ labels last, Kernel.scancodes labels = keys ∧
      Run (Kernel.Step lowLayout oversizedImage) startedKernel labels last :=
  exists_keyRun lowLayout oversizedImage
    (fun key member => modifierKeys_inPlace key (modifiers member)) rfl rfl

/-- Caps and one shift key, pressed in turn. -/
theorem modifiers_tracked_caps_shift :
    ∃ labels last, Kernel.scancodes labels = [capsDown, leftShiftDown, leftShiftUp] ∧
      Run (Kernel.Step lowLayout oversizedImage) startedKernel labels last ∧
      Tracks last.tty.keyboard.keyboardMode [capsDown, leftShiftDown, leftShiftUp] := by
  obtain ⟨labels, last, scanned, run⟩ :=
    exists_modifierRun (show [capsDown, leftShiftDown, leftShiftUp] ⊆ modifierKeys by decide)
  refine ⟨labels, last, scanned, run, ?_⟩
  have right : ∀ before key, before ++ [key] <+: Kernel.scancodes labels →
      HandledRight before key := by
    rw [scanned]
    rintro before key ⟨rest, joined⟩
    rcases before with _ | ⟨first, _ | ⟨second, _ | ⟨third, more⟩⟩⟩
    · obtain ⟨rfl, -⟩ := List.cons.inj joined
      decide
    · obtain ⟨rfl, later⟩ := List.cons.inj joined
      obtain ⟨rfl, -⟩ := List.cons.inj later
      decide
    · obtain ⟨rfl, later⟩ := List.cons.inj joined
      obtain ⟨rfl, last⟩ := List.cons.inj later
      obtain ⟨rfl, -⟩ := List.cons.inj last
      decide
    · simp at joined
  have tracked := (modifiers_tracked_iff rfl run).mpr right labels last
    (List.prefix_refl labels) run
  rwa [scanned] at tracked

/-- The shift key that stays down no longer counts once the other one goes up, and caps
is lost when a shift key repeats. -/
theorem modifiers_lost :
    startedKernel.Boots lowLayout ∧
    (∃ labels last,
        Kernel.scancodes labels = [leftShiftDown, rightShiftDown, leftShiftUp] ∧
        Run (Kernel.Step lowLayout oversizedImage) startedKernel labels last ∧
        ¬Tracks last.tty.keyboard.keyboardMode (Kernel.scancodes labels)) ∧
      ∃ labels last,
        Kernel.scancodes labels = [capsDown, leftShiftDown, leftShiftDown] ∧
        Run (Kernel.Step lowLayout oversizedImage) startedKernel labels last ∧
        ¬Tracks last.tty.keyboard.keyboardMode (Kernel.scancodes labels) := by
  have mode {labels : List (Event × Outcome)} {last : Kernel}
      (run : Run (Kernel.Step lowLayout oversizedImage) startedKernel labels last) :
      last.tty.keyboard.keyboardMode =
        (Kernel.scancodes labels).foldl KeyboardMode.afterKey .pressNothing :=
    keyboardMode_of_run run
  refine ⟨startedKernel_boots, ?_, ?_⟩
  · obtain ⟨labels, last, scanned, run⟩ := exists_modifierRun
      (show [leftShiftDown, rightShiftDown, leftShiftUp] ⊆ modifierKeys by decide)
    refine ⟨labels, last, scanned, run, ?_⟩
    rw [mode run, scanned]
    intro tracks
    exact absurd (tracks.shift.mpr (by decide)) (by decide)
  · obtain ⟨labels, last, scanned, run⟩ := exists_modifierRun
      (show [capsDown, leftShiftDown, leftShiftDown] ⊆ modifierKeys by decide)
    refine ⟨labels, last, scanned, run, ?_⟩
    rw [mode run, scanned]
    intro tracks
    exact absurd (tracks.caps.mpr (by decide)) (by decide)

end Runs

end ChapOS
