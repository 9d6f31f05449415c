import ChapOS.Blinkers
import ChapOS.Lamps

/-!
# What the blinkers show

Over a well formed list the data of `blink.S` are lamps in the text picture of video
memory: adding and removing puts lamps up and takes them down, and a tasklet is a tick of
every lamp.  A lamp counts its lengths in ticks, in the way that the signed comparison of
`mp1_rtc_tasklet` does.
-/

namespace ChapOS

open WhileLoops LinkedLists Lamps

/-- After how many decrements a counter is no longer positive as a signed word. -/
def ticksOf (length : UInt16) : Nat :=
  if 0 < length ∧ length ≤ 0x8000 then length.toNat else 1

def Mp1BlinkStruct.lamp (blink : Mp1BlinkStruct) : Lamp UInt16 UInt8 where
  place := blink.location
  onGlyph := blink.onChar
  offGlyph := blink.offChar
  onTicks := ticksOf blink.onLength
  offTicks := ticksOf blink.offLength
  left := ticksOf blink.countdown
  lit := blink.status.toBitVec.getLsbD 0

/-- What a lamp keeps. -/
def blinkerOf (lamp : Lamp UInt16 UInt8) : Blinker where
  location := lamp.place
  onChar := lamp.onGlyph
  offChar := lamp.offGlyph

/-- The characters on the screen, by location. -/
def Blinkers.picture (state : Blinkers) (location : UInt16) : UInt8 :=
  state.vmem.read (state.vmemBaseAddr + location.toUInt32 <<< 1)

/-- What a call does to the lamps. -/
def BlinkCall.act (current : Show UInt16 UInt8) : BlinkCall → Show UInt16 UInt8
  | .add contents =>
      if contents.location < 80 * 25 ∧ current.lamps.length < 80 * 25 then
        current.add contents.started.lamp
      else current
  | .remove argument => current.remove argument.toUInt16
  | .find _ => current
  | .sync argument =>
      match current.lamps.find? fun lamp => lamp.place == (argument >>> 16).toUInt16,
        current.lamps.find? fun lamp => lamp.place == argument.toUInt16 with
      | some source, some target => current.retime source target.place target.offGlyph
      | _, _ => current
  | .tasklet => current.tick

section Counters

variable {countdown : UInt16}

theorem ticksOf_eq (length : UInt16) :
    ticksOf length =
      if 0 < length.toNat ∧ length.toNat ≤ 0x8000 then length.toNat else 1 :=
  rfl

theorem ticksOf_pos (length : UInt16) : 0 < ticksOf length := by
  rw [ticksOf_eq]
  split <;> omega

theorem countdown_pos_iff (countdown : UInt16) :
    0 < (countdown - 1).toInt16 ↔ 1 < ticksOf countdown := by
  have isInt : (countdown - 1).toInt16.toInt = (countdown - 1).toBitVec.toInt := rfl
  have zero : (0 : Int16).toInt = 0 := rfl
  have one : (1 : UInt16).toNat = 1 := rfl
  have below := countdown.toNat_lt
  rw [Int16.lt_iff_toInt_lt, isInt, zero, BitVec.toInt_eq_toNat_cond,
    UInt16.toNat_toBitVec, UInt16.toNat_sub, one, ticksOf_eq]
  split <;> split <;> omega

theorem ticksOf_sub_one (more : 1 < ticksOf countdown) :
    ticksOf (countdown - 1) = ticksOf countdown - 1 := by
  have one : (1 : UInt16).toNat = 1 := rfl
  have below := countdown.toNat_lt
  rw [ticksOf_eq] at more
  rw [ticksOf_eq, ticksOf_eq, UInt16.toNat_sub, one]
  split at more
  · rename_i counts
    rw [if_pos counts, if_pos (by omega)]
    omega
  · omega

theorem status_off (status : UInt16) :
    status &&& 1 = 0 ↔ status.toBitVec.getLsbD 0 = false := by
  rw [← UInt16.toBitVec_inj]
  constructor
  · intro off
    have bit := congrArg (fun bits : BitVec 16 => bits.getLsbD 0) off
    simpa using bit
  · intro off
    ext index indexLt
    cases index with
    | zero => simpa using off
    | succ index => simp

theorem started_lit (contents : Mp1BlinkStruct) : contents.started.lamp.lit = true := by
  simp [Mp1BlinkStruct.lamp, Mp1BlinkStruct.started]

theorem status_switched (status : UInt16) :
    (status ^^^ 1).toBitVec.getLsbD 0 = !status.toBitVec.getLsbD 0 := by
  simp

theorem low_toUInt16 (argument : UInt32) :
    (argument &&& 0xFFFF).toUInt16 = argument.toUInt16 := by
  apply UInt16.toNat_inj.mp
  have low : (0xFFFF : UInt32).toNat = 2 ^ 16 - 1 := rfl
  rw [UInt32.toNat_toUInt16, UInt32.toNat_toUInt16, UInt32.toNat_and, low,
    Nat.and_two_pow_sub_one_eq_mod, Nat.mod_mod]

end Counters

namespace Blinkers

variable {placement : Placement} {turns : Nat} {state other : Blinkers}
  {blinkers : List Blinker} {slots : List Slot} {slot : Slot}

section Pictures

/-- Different locations are different bytes of video memory. -/
theorem cell_injective (base : UInt32) {location elsewhere : UInt16}
    (same : base + location.toUInt32 <<< 1 = base + elsewhere.toUInt32 <<< 1) :
    location = elsewhere := by
  have shifted : location.toUInt32 <<< 1 = elsewhere.toUInt32 <<< 1 := by
    simpa using same
  have bytes := congrArg UInt32.toNat shifted
  rw [UInt32.toNat_shiftLeft, UInt32.toNat_shiftLeft, UInt16.toNat_toUInt32,
    UInt16.toNat_toUInt32] at bytes
  have one : (1 : UInt32).toNat % 32 = 1 := rfl
  rw [one, Nat.shiftLeft_eq, Nat.shiftLeft_eq] at bytes
  have := location.toNat_lt
  have := elsewhere.toNat_lt
  apply UInt16.toNat_inj.mp
  omega

theorem picture_poke (character : UInt8) (location : UInt16) :
    (state.mp1Poke character (location.toUInt32 <<< 1)).picture =
      Function.update state.picture location character := by
  ext1 elsewhere
  unfold picture mp1Poke
  by_cases here : elsewhere = location
  · rw [here, Function.update_self, TracedMemory.store_read_self]
  · rw [Function.update_of_ne here, TracedMemory.store_read_of_ne]
    intro same
    exact here (cell_injective state.vmemBaseAddr same)

end Pictures

section Ticks

theorem poke_blinkArray (character : UInt8) (offset : UInt32) :
    (state.mp1Poke character offset).blinkArray = state.blinkArray :=
  rfl

theorem modify_picture (change : Mp1BlinkStruct → Mp1BlinkStruct) :
    (state.modify slot change).picture = state.picture :=
  rfl

theorem tick_of_ne {elsewhere : Slot} (different : elsewhere ≠ slot) :
    (state.tick slot).blinkArray elsewhere = state.blinkArray elsewhere := by
  unfold tick
  dsimp only
  split
  · exact modify_of_ne _ different
  · split
    · rw [modify_of_ne _ different, poke_blinkArray, modify_of_ne _ different]
    · rw [modify_of_ne _ different, poke_blinkArray, modify_of_ne _ different]

/-- The body of the loop is a tick of the lamp. -/
theorem tick_spec (state : Blinkers) (slot : Slot) :
    ((state.tick slot).blinkArray slot).lamp = (state.blinkArray slot).lamp.tick ∧
      (state.tick slot).picture =
        Show.redraw state.picture (state.blinkArray slot).lamp := by
  have left : (state.blinkArray slot).lamp.left = ticksOf (state.blinkArray slot).countdown :=
    rfl
  have lit : (state.blinkArray slot).lamp.lit =
      (state.blinkArray slot).status.toBitVec.getLsbD 0 :=
    rfl
  unfold Lamp.tick Show.redraw tick
  dsimp only
  rw [modify_self]
  dsimp only
  by_cases stays : 0 < ((state.blinkArray slot).countdown - 1).toInt16
  · have more := (countdown_pos_iff _).mp stays
    rw [if_pos stays, left, if_pos more, if_pos more, modify_self, ← ticksOf_sub_one more]
    exact ⟨rfl, rfl⟩
  · have last := (countdown_pos_iff _).not.mp stays
    rw [if_neg stays, left, if_neg last, if_neg last, Lamp.tick, left, if_neg last]
    by_cases off : (state.blinkArray slot).status &&& 1 = 0
    · have isOff := (status_off _).mp off
      rw [if_pos off, modify_self, poke_blinkArray, modify_self, modify_picture, picture_poke,
        modify_picture]
      constructor
      · simp only [Mp1BlinkStruct.lamp, Lamp.switched, status_switched, isOff]
        rfl
      · simp only [Lamp.shown, Lamp.switched, lit, isOff]
        rfl
    · have isOn : (state.blinkArray slot).status.toBitVec.getLsbD 0 = true := by
        rwa [status_off, Bool.not_eq_false] at off
      rw [if_neg off, modify_self, poke_blinkArray, modify_self, modify_picture, picture_poke,
        modify_picture]
      constructor
      · simp only [Mp1BlinkStruct.lamp, Lamp.switched, status_switched, isOn]
        rfl
      · simp only [Lamp.shown, Lamp.switched, lit, isOn]
        rfl

theorem foldl_tick_of_not_mem (state : Blinkers) (outside : slot ∉ slots) :
    (slots.foldl tick state).blinkArray slot = state.blinkArray slot := by
  induction slots generalizing state with
  | nil => rfl
  | cons first slots ih =>
      rw [List.mem_cons, not_or] at outside
      rw [List.foldl_cons, ih _ outside.2, tick_of_ne outside.1]

/-- Ticks of different slots do not disturb each other. -/
theorem foldl_tick_spec (distinct : slots.Nodup) (state : Blinkers) :
    (∀ slot ∈ slots, ((slots.foldl tick state).blinkArray slot).lamp =
        (state.blinkArray slot).lamp.tick) ∧
      (slots.foldl tick state).picture =
        (slots.map fun slot => (state.blinkArray slot).lamp).foldl Show.redraw
          state.picture := by
  induction slots generalizing state with
  | nil => exact ⟨fun _ mem => (List.not_mem_nil mem).elim, rfl⟩
  | cons first slots ih =>
      obtain ⟨fresh, restDistinct⟩ := List.nodup_cons.mp distinct
      obtain ⟨lamps, drawn⟩ := ih restDistinct (state.tick first)
      have others (slot : Slot) (mem : slot ∈ slots) :
          (state.tick first).blinkArray slot = state.blinkArray slot := by
        apply tick_of_ne
        rintro rfl
        exact fresh mem
      constructor
      · intro slot mem
        rw [List.foldl_cons]
        rcases List.mem_cons.mp mem with rfl | mem
        · rw [foldl_tick_of_not_mem _ fresh]
          exact (tick_spec state slot).1
        · rw [lamps slot mem, others slot mem]
      · have sameLamps : (slots.map fun slot => ((state.tick first).blinkArray slot).lamp) =
            slots.map fun slot => (state.blinkArray slot).lamp := by
          apply List.map_congr_left
          intro slot mem
          rw [others slot mem]
        rw [List.foldl_cons, drawn, sameLamps, (tick_spec state first).2, List.map_cons,
          List.foldl_cons]

end Ticks

theorem writeLink_lamp (pointer : Nat) (link : Link Slot) (elsewhere : Slot) :
    ((state.writeLink pointer link).blinkArray elsewhere).lamp =
      (state.blinkArray elsewhere).lamp := by
  cases link with
  | head => rfl
  | behind slot =>
      rw [writeLink]
      apply modify_keeps Mp1BlinkStruct.lamp
      intro blink
      rfl

/-- The slots of the list hold the lamps, and the screen shows the picture. -/
structure Shows (placement : Placement) (state : Blinkers) (blinkers : List Blinker)
    (slots : List Slot) (current : Show UInt16 UInt8) : Prop
    extends Kept placement state blinkers slots where
  lamps : slots.map (fun slot => (state.blinkArray slot).lamp) = current.lamps
  drawn : state.picture = current.picture

namespace Shows

variable {current : Show UInt16 UInt8}

theorem length_lamps (shows : Shows placement state blinkers slots current) :
    current.lamps.length = blinkers.length := by
  rw [← shows.lamps, List.length_map, shows.length_eq]

/-- The first slot at a location holds the first lamp there. -/
theorem find_lamp (shows : Shows placement state blinkers slots current) (location : UInt16) :
    (current.lamps.find? fun lamp => lamp.place == location) =
      (slots.find? (state.isAt location)).map fun slot => (state.blinkArray slot).lamp := by
  rw [← shows.lamps, List.find?_map]
  rfl

theorem tasklet (shows : Shows placement state blinkers slots current)
    (enough : 80 * 25 < turns) :
    ∃ after, state.mp1RtcTasklet placement turns = some after ∧
      Shows placement after blinkers slots current.tick := by
  have within := shows.length_le
  have folded : state.mp1RtcTasklet placement turns = some (slots.foldl Blinkers.tick state) := by
    apply walk_folds (SameList state) shows.holds
    · intro other
      rfl
    · intro slot _ other same
      have ticked := same.tick slot
      refine ⟨?_, ticked⟩
      rw [placement.layout_pointer, taskletTurn, if_neg (placement.address_ne_null slot),
        placement.slotAt_address]
      exact congrArg (fun next => Turn.next (next, other.tick slot)) (ticked.next slot)
    · exact SameList.refl state
    · omega
  obtain ⟨after, ended, kept⟩ := shows.toKept.tasklet enough
  obtain rfl : slots.foldl Blinkers.tick state = after :=
    Option.some.inj (folded.symm.trans ended)
  obtain ⟨lamps, drawn⟩ := foldl_tick_spec shows.nodup state
  refine ⟨_, ended, kept, ?_, ?_⟩
  · show _ = current.lamps.map Lamp.tick
    rw [← shows.lamps, List.map_map]
    exact List.map_congr_left lamps
  · rw [drawn, shows.lamps, shows.drawn]
    rfl

theorem addAt (shows : Shows placement state blinkers slots current)
    (allocated : state.mp1Malloc = some slot) {contents : Mp1BlinkStruct}
    (used : contents.location ≠ 0) :
    Shows placement (state.addAt placement slot contents) (contents.blinker :: blinkers)
      (slot :: slots) (current.add contents.started.lamp) := by
  have fresh : slot ∉ slots :=
    shows.location_eq_zero.mp (location_of_mp1Malloc allocated)
  refine ⟨shows.toKept.addAt allocated used, ?_, ?_⟩
  · show _ = contents.started.lamp :: current.lamps
    have others : slots.map (fun other =>
        ((state.addAt placement slot contents).blinkArray other).lamp) = current.lamps := by
      rw [← shows.lamps]
      apply List.map_congr_left
      rintro other mem
      have different : other ≠ slot := by
        rintro rfl
        exact fresh mem
      rw [addAt_blinkArray, Function.update_of_ne different]
    rw [List.map_cons, others, addAt_blinkArray, Function.update_self]
    rfl
  · show _ = Function.update current.picture contents.location contents.started.lamp.shown
    rw [Lamp.shown, if_pos (started_lit contents), ← shows.drawn]
    unfold Blinkers.addAt
    dsimp only
    rw [modify_self, modify_self]
    exact picture_poke _ _

theorem add (shows : Shows placement state blinkers slots current) {contents : Mp1BlinkStruct}
    (unlessFull : contents.location = 0 → blinkers.length = 80 * 25) :
    ∃ slots, Shows placement (state.mp1IoctlAdd placement contents).2
      ((BlinkCall.add contents).change blinkers) slots
      ((BlinkCall.add contents).act current) := by
  rw [mp1IoctlAdd, BlinkCall.change, BlinkCall.act, shows.length_lamps]
  by_cases inside : contents.location < 80 * 25
  · rw [if_neg (UInt16.not_le.mpr inside)]
    cases allocated : state.mp1Malloc with
    | none =>
        have isFull := shows.full.mp allocated
        rw [if_neg fun both => both.2.ne isFull, if_neg fun both => both.2.ne isFull]
        exact ⟨slots, shows⟩
    | some slot =>
        have notFull : blinkers.length ≠ 80 * 25 := by
          intro isFull
          have none := shows.full.mpr isFull
          rw [allocated] at none
          cases none
        have bound := shows.length_le
        rw [← shows.length_eq] at bound
        rw [if_pos ⟨inside, by omega⟩, if_pos ⟨inside, by omega⟩]
        exact ⟨slot :: slots, shows.addAt allocated fun atZero => notFull (unlessFull atZero)⟩
  · rw [if_pos (UInt16.not_lt.mp inside), if_neg fun both => inside both.1,
      if_neg fun both => inside both.1]
    exact ⟨slots, shows⟩

/-- Unlinking and freeing a slot changes nothing that the others hold. -/
theorem unlink {before after : List Slot}
    (shows : Shows placement state blinkers (before ++ slot :: after) current) :
    Shows placement
      ((state.writeLink (state.blinkArray slot).next (linkAfter .head before)).mp1Free slot)
      ((before ++ after).map fun slot => (state.blinkArray slot).blinker) (before ++ after)
      ⟨(before ++ after).map fun slot => (state.blinkArray slot).lamp, current.picture⟩ := by
  have distinct := List.nodup_middle.mp shows.nodup
  refine ⟨shows.toKept.unlink, ?_, ?_⟩
  · apply List.map_congr_left
    intro other mem
    have different : other ≠ slot := by
      rintro rfl
      exact (List.nodup_cons.mp distinct).1 mem
    rw [mp1Free, modify_of_ne _ different, writeLink_lamp]
  · rw [mp1Free, modify_picture, ← shows.drawn]
    cases linkAfter .head before with
    | head => rfl
    | behind _ => rfl

theorem remove (shows : Shows placement state blinkers slots current)
    (enough : 80 * 25 < turns) (argument : UInt32) :
    ∃ after, (state.mp1IoctlRemove placement turns argument).map Prod.snd = some after ∧
      ∃ slots, Shows placement after ((BlinkCall.remove argument).change blinkers) slots
        ((BlinkCall.remove argument).act current) := by
  have erased : (BlinkCall.remove argument).change blinkers =
      (slots.eraseP (state.isAt argument.toUInt16)).map fun slot =>
        (state.blinkArray slot).blinker := by
    rw [BlinkCall.change, ← shows.holdsBlinkers, List.eraseP_map]
    rfl
  have erasedLamps : (BlinkCall.remove argument).act current =
      ⟨(slots.eraseP (state.isAt argument.toUInt16)).map fun slot =>
        (state.blinkArray slot).lamp, current.picture⟩ := by
    rw [BlinkCall.act, Show.remove, ← shows.lamps, List.eraseP_map]
    rfl
  unfold mp1IoctlRemove
  rw [shows.mp1FindHelper_eq enough, erased, erasedLamps]
  cases search : slots.find? _ with
  | none =>
      rw [List.eraseP_of_forall_not (List.find?_eq_none.mp search), shows.holdsBlinkers]
      exact ⟨state, rfl, slots, shows.toKept, shows.lamps.trans shows.lamps.symm, shows.drawn⟩
  | some slot =>
      obtain ⟨isWanted, before, after, rfl, notBefore⟩ :=
        List.find?_eq_some_iff_append.mp search
      have skipped : ∀ other ∈ before, ¬state.isAt argument.toUInt16 other = true := by
        intro other mem
        simpa using notBefore other mem
      have notNull := placement.address_ne_null slot
      rw [List.eraseP_append_right _ skipped, List.eraseP_cons_of_pos isWanted]
      refine ⟨(state.writeLink (state.blinkArray slot).next (linkAfter .head before)).mp1Free
        slot, ?_, before ++ after, shows.unlink⟩
      simp [notNull, shows.removeFindPrev_ends enough]

/-- The target goes on like the source. -/
theorem syncCopy (shows : Shows placement state blinkers slots current) {source target : Slot}
    {location : UInt16} (found : slots.find? (state.isAt location) = some target) :
    Shows placement (state.syncCopy source target) blinkers slots
      (current.retime (state.blinkArray source).lamp (state.blinkArray target).location
        (state.blinkArray target).offChar) := by
  obtain ⟨isWanted, before, after, rfl, notBefore⟩ :=
    List.find?_eq_some_iff_append.mp found
  have here : (state.blinkArray target).location = location := eq_of_beq isWanted
  have distinct := List.nodup_middle.mp shows.nodup
  have others (other : Slot) (different : other ≠ target) :
      (state.syncCopy source target).blinkArray other = state.blinkArray other := by
    unfold Blinkers.syncCopy
    dsimp only
    rw [poke_blinkArray, modify_of_ne _ different]
  refine ⟨shows.toKept.congr (SameList.syncCopy state source target), ?_, ?_⟩
  · show _ = current.lamps.replaceF _
    rw [← shows.lamps, List.map_append, List.map_cons, List.map_append, List.map_cons,
      Show.replaceF_append]
    · have same (part : List Slot) (within : ∀ other ∈ part, other ∈ before ++ after) :
          (part.map fun other => ((state.syncCopy source target).blinkArray other).lamp) =
            part.map fun other => (state.blinkArray other).lamp := by
        apply List.map_congr_left
        intro other mem
        rw [others]
        rintro rfl
        exact (List.nodup_cons.mp distinct).1 (within other mem)
      rw [same before fun other mem => List.mem_append_left after mem,
        same after fun other mem => List.mem_append_right before mem]
      congr 2
      unfold Blinkers.syncCopy
      dsimp only
      rw [poke_blinkArray, modify_self]
      rfl
    · intro earlier mem
      obtain ⟨other, otherMem, rfl⟩ := List.mem_map.mp mem
      have passed : state.isAt location other = false := by
        simpa using notBefore other otherMem
      rw [here]
      exact ne_of_beq_false passed
    · rfl
  · show _ = Function.update current.picture _ _
    rw [← shows.drawn]
    unfold Blinkers.syncCopy
    dsimp only
    rw [modify_self]
    exact picture_poke _ _

theorem sync (shows : Shows placement state blinkers slots current)
    (enough : 80 * 25 < turns) (argument : UInt32) :
    ∃ after, (state.mp1IoctlSync placement turns argument).map Prod.snd = some after ∧
      Shows placement after blinkers slots ((BlinkCall.sync argument).act current) := by
  rw [mp1IoctlSync, BlinkCall.act, shows.mp1FindHelper_eq enough,
    shows.mp1FindHelper_eq enough, low_toUInt16, shows.find_lamp, shows.find_lamp]
  cases slots.find? (state.isAt (argument >>> 16).toUInt16) with
  | none => exact ⟨state, rfl, shows⟩
  | some source =>
      cases found : slots.find? (state.isAt argument.toUInt16) with
      | none =>
          refine ⟨state, ?_, shows⟩
          simp
      | some target =>
          refine ⟨state.syncCopy source target, ?_, shows.syncCopy found⟩
          simp [placement.address_ne_null]

theorem run (shows : Shows placement state blinkers slots current)
    (enough : 80 * 25 < turns) (call : BlinkCall)
    (unlessFull : ∀ contents, call = .add contents → contents.location = 0 →
      blinkers.length = 80 * 25) :
    ∃ after, call.run placement turns state = some after ∧
      ∃ slots, Shows placement after (call.change blinkers) slots (call.act current) := by
  cases call with
  | add contents => exact ⟨_, rfl, shows.add (unlessFull contents rfl)⟩
  | remove argument => exact shows.remove enough argument
  | find location =>
      obtain ⟨result, found⟩ := shows.find enough location
      refine ⟨state, ?_, slots, shows⟩
      rw [BlinkCall.run, found]
      rfl
  | sync argument =>
      obtain ⟨after, synced, showsAfter⟩ := shows.sync enough argument
      exact ⟨after, synced, slots, showsAfter⟩
  | tasklet =>
      obtain ⟨after, ended, showsAfter⟩ := shows.tasklet enough
      exact ⟨after, ended, slots, showsAfter⟩

end Shows

end Blinkers

namespace BlinkCall

open Blinkers

variable {placement : Placement} {turns : Nat} {calls : List BlinkCall}

/-- The lamps and the picture behind some calls on an empty list. -/
def showAfter (screen : UInt16 → UInt8) (calls : List BlinkCall) : Show UInt16 UInt8 :=
  calls.foldl act ⟨[], screen⟩

theorem showAfter_append_cons (screen : UInt16 → UInt8) (before after : List BlinkCall)
    (call : BlinkCall) :
    showAfter screen (before ++ call :: after) =
      after.foldl act (call.act (showAfter screen before)) := by
  unfold showAfter
  rw [List.foldl_append, List.foldl_cons]

/-- A run whose list stays well formed shows what the lamps show. -/
theorem shows_of_zeroOnlyIfFull (enough : 80 * 25 < turns) (vmemBaseAddr : UInt32)
    (vmem : TracedMemory UInt32 UInt8) (zero : ZeroOnlyIfFull calls) :
    ∃ state, runAll placement turns (start vmemBaseAddr vmem) calls = some state ∧
      ∃ slots, Shows placement state (present calls) slots
        (showAfter (start vmemBaseAddr vmem).picture calls) := by
  induction calls using List.reverseRecOn with
  | nil => exact ⟨_, rfl, [], Kept.start_kept placement vmemBaseAddr vmem, rfl, rfl⟩
  | append_singleton calls call ih =>
      obtain ⟨state, ran, slots, shows⟩ := ih (zero.of_prefix (List.prefix_append calls [call]))
      rw [runAll_append_singleton, ran, present_append_singleton, showAfter_append_cons,
        List.foldl_nil]
      apply shows.run enough call
      rintro contents rfl atZero
      exact zero calls contents (List.prefix_refl _) atZero

/-- The call is about the blinker at a location. -/
def touches (location : UInt16) : BlinkCall → Bool
  | .add contents => contents.location == location
  | .remove argument => argument.toUInt16 == location
  | .sync argument => argument.toUInt16 == location
  | .find _ | .tasklet => false

def isTasklet : BlinkCall → Bool
  | .tasklet => true
  | _ => false

/-- How many of the calls are tasklets. -/
def ticks (calls : List BlinkCall) : Nat :=
  calls.countP isTasklet

section Untouched

variable {current : Show UInt16 UInt8} {lamp : Lamp UInt16 UInt8}

theorem act_sameAt {location : UInt16} {call : BlinkCall}
    (untouched : call.touches location = false) (notTick : call.isTasklet = false) :
    Show.SameAt location current (call.act current) := by
  cases call with
  | add contents =>
      have elsewhere : contents.started.lamp.place ≠ location := ne_of_beq_false untouched
      rw [act]
      split
      · exact .add elsewhere
      · exact ⟨rfl, rfl⟩
  | remove argument => exact .remove (ne_of_beq_false untouched)
  | find _ => exact ⟨rfl, rfl⟩
  | sync argument =>
      have elsewhere : argument.toUInt16 ≠ location := ne_of_beq_false untouched
      rw [act]
      split
      · rename_i source target _ found
        have isThere := List.find?_some found
        have here : target.place = argument.toUInt16 := eq_of_beq isThere
        rw [← here] at elsewhere
        exact .retime elsewhere source _
      · exact ⟨rfl, rfl⟩
  | tasklet => cases notTick

theorem ticks_cons (call : BlinkCall) (calls : List BlinkCall) :
    ticks (call :: calls) = ticks calls + if call.isTasklet then 1 else 0 :=
  List.countP_cons

theorem foldl_act_displays (displays : current.Displays lamp)
    (untouched : ∀ call ∈ calls, call.touches lamp.place = false) :
    (calls.foldl act current).Displays (Lamp.tick^[ticks calls] lamp) := by
  induction calls generalizing current lamp with
  | nil => exact displays
  | cons call calls ih =>
      have rest : ∀ later ∈ calls, later.touches lamp.place = false := fun later mem =>
        untouched later (List.mem_cons_of_mem call mem)
      rw [List.foldl_cons, ticks_cons]
      cases isTick : call.isTasklet with
      | false =>
          exact ih (displays.congr (act_sameAt (untouched call List.mem_cons_self) isTick)) rest
      | true =>
          cases call with
          | tasklet =>
              rw [← Lamp.tick_place] at rest
              exact ih displays.tick rest
          | _ => cases isTick

end Untouched

theorem map_replaceF_blinkerOf (source : Lamp UInt16 UInt8) (place : UInt16)
    (lamps : List (Lamp UInt16 UInt8)) :
    (lamps.replaceF (Show.retimedAt source place)).map blinkerOf = lamps.map blinkerOf := by
  induction lamps with
  | nil => rfl
  | cons first lamps ih =>
      by_cases here : first.place = place
      · have retimed : Show.retimedAt source place first = some (first.retimed source) :=
          if_pos here
        rw [List.replaceF_cons_of_some _ retimed, List.map_cons, List.map_cons]
        rfl
      · have kept : Show.retimedAt source place first = none := if_neg here
        rw [List.replaceF_cons_of_none _ kept, List.map_cons, List.map_cons, ih]

/-- The lamps are the blinkers that are present. -/
theorem showAfter_blinkers (screen : UInt16 → UInt8) (calls : List BlinkCall) :
    (showAfter screen calls).lamps.map blinkerOf = present calls := by
  induction calls using List.reverseRecOn with
  | nil => rfl
  | append_singleton calls call ih =>
      have length := congrArg List.length ih
      rw [List.length_map] at length
      rw [present_append_singleton, ← ih]
      unfold showAfter at length ⊢
      rw [List.foldl_append, List.foldl_cons, List.foldl_nil]
      generalize calls.foldl act ⟨[], screen⟩ = current at length
      cases call with
      | add contents =>
          rw [act, change, List.length_map]
          split
          · rfl
          · rfl
      | remove argument =>
          rw [act, change, Show.remove, List.eraseP_map]
          rfl
      | find _ => rfl
      | sync argument =>
          rw [act, change]
          split
          · exact map_replaceF_blinkerOf _ _ _
          · rfl
      | tasklet =>
          rw [act, change, Show.tick, List.map_map]
          apply List.map_congr_left
          intro lamp _
          simp [blinkerOf]

/-- A blinker that is added where there is none is displayed, in the phase that the
tasklets since then have brought it to. -/
theorem displays_of_added (screen : UInt16 → UInt8) {before after : List BlinkCall}
    {contents : Mp1BlinkStruct} (inside : contents.location < 80 * 25)
    (room : (present before).length < 80 * 25)
    (alone : ∀ blinker ∈ present before, blinker.location ≠ contents.location)
    (untouched : ∀ call ∈ after, call.touches contents.location = false) :
    (showAfter screen (before ++ .add contents :: after)).Displays
      (Lamp.tick^[ticks after] contents.started.lamp) := by
  have blinkers := showAfter_blinkers screen before
  have last : showAfter screen (before ++ .add contents :: after) =
      after.foldl act ((showAfter screen before).add contents.started.lamp) := by
    rw [← blinkers, List.length_map] at room
    rw [showAfter_append_cons, act, if_pos ⟨inside, room⟩]
  have free : (showAfter screen before).lampsAt contents.started.lamp.place = [] := by
    unfold Show.lampsAt
    rw [List.filter_eq_nil_iff]
    intro lamp mem
    have isPresent : blinkerOf lamp ∈ present before := by
      rw [← blinkers]
      exact List.mem_map_of_mem mem
    have elsewhere : lamp.place ≠ contents.started.lamp.place := alone _ isPresent
    simpa using elsewhere
  rw [last]
  exact foldl_act_displays (.of_add free) untouched

/-- What is displayed depends on the number of ticks only. -/
theorem shown_of_displays {current : Show UInt16 UInt8} {contents : Mp1BlinkStruct}
    {elapsed : Nat} (displays : current.Displays (Lamp.tick^[elapsed] contents.started.lamp)) :
    current.picture contents.location =
      if elapsed % (ticksOf contents.onLength + ticksOf contents.offLength) <
          ticksOf contents.onLength then contents.onChar
      else contents.offChar := by
  have atPhase : contents.started.lamp.AtPhase 0 :=
    .of_lit (ticksOf_pos _) (ticksOf_pos _) (started_lit contents) rfl
  have drawn := displays.drawn
  rw [(Lamp.iterate_tick _ _).1, atPhase.shown_iterate] at drawn
  exact drawn

end BlinkCall

open BlinkCall Blinkers

/-- A blinker that is alone at its location shows its two characters in turn, each for its
number of tasklets, whatever happens at other locations. -/
theorem blinker_alternates (placement : Placement) {turns : Nat} (enough : 80 * 25 < turns)
    (vmemBaseAddr : UInt32) (vmem : TracedMemory UInt32 UInt8) {before after : List BlinkCall}
    {contents : Mp1BlinkStruct}
    (zero : ZeroOnlyIfFull (before ++ .add contents :: after))
    (inside : contents.location < 80 * 25) (room : (present before).length < 80 * 25)
    (alone : ∀ blinker ∈ present before, blinker.location ≠ contents.location)
    (untouched : ∀ call ∈ after, call.touches contents.location = false) :
    ∃ state, runAll placement turns (start vmemBaseAddr vmem)
        (before ++ .add contents :: after) = some state ∧
      state.vmem.read (state.vmemBaseAddr + contents.location.toUInt32 <<< 1) =
        if ticks after % (ticksOf contents.onLength + ticksOf contents.offLength) <
            ticksOf contents.onLength then contents.onChar
        else contents.offChar := by
  obtain ⟨state, ran, slots, shows⟩ := @shows_of_zeroOnlyIfFull placement turns _ enough
    vmemBaseAddr vmem zero
  refine ⟨state, ran, ?_⟩
  have drawn := shown_of_displays (displays_of_added (start vmemBaseAddr vmem).picture inside
    room alone untouched)
  rw [← shows.drawn] at drawn
  exact drawn

/-- The blinker that `main` adds, after its first 200 tasklets. -/
theorem blinker_alternates_main :
    ∃ state, runAll fishPlacement 2001 (start 0 blankVmem)
        (BlinkCall.add (fishBlink 540) :: List.replicate 200 .tasklet) = some state ∧
      state.vmem.read (state.vmemBaseAddr + (540 : UInt16).toUInt32 <<< 1) = 73 := by
  have nonzero : ∀ contents,
      BlinkCall.add contents ∈
        [] ++ BlinkCall.add (fishBlink 540) :: List.replicate 200 .tasklet →
      contents.location ≠ 0 := by
    intro contents isCall
    simp only [List.nil_append, List.mem_cons, BlinkCall.add.injEq, List.mem_replicate,
      reduceCtorEq, and_false, or_false] at isCall
    rw [isCall]
    decide
  obtain ⟨state, ran, drawn⟩ := blinker_alternates fishPlacement (show 80 * 25 < 2001 by decide)
    0 blankVmem (zeroOnlyIfFull_of_nonzero nonzero) (by decide) (by decide)
    (fun _ mem => (List.not_mem_nil mem).elim) (by
      intro call mem
      rw [List.eq_of_mem_replicate mem]
      rfl)
  refine ⟨state, ran, drawn.trans ?_⟩
  rw [ticks, List.countP_replicate]
  decide

end ChapOS
