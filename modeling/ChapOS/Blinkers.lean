import ChapOS.LinkedLists
import ChapOS.TracedMemory
import Mathlib.Data.Fintype.Card

/-!
# The blinkers of the fish program

The blinkers are a list through the slots of `blink_array`.  No slot says whether it is
on the list: `mp1_malloc` takes a slot to be free when its location is 0, and
`mp1_ioctl_add` stores any location below 80*25 into the slot it is given.  The list
stays well formed as long as no blinker at location 0 is put on it; one that is has its
slot handed out again, and is then linked to itself.
-/

namespace ChapOS

open WhileLoops LinkedLists

structure Mp1BlinkStruct where
  location : UInt16
  onChar : UInt8
  offChar : UInt8
  onLength : UInt16
  offLength : UInt16
  countdown : UInt16
  status : UInt16
  next : Nat
  deriving DecidableEq, Repr

namespace Mp1BlinkStruct

def zero : Mp1BlinkStruct :=
  ⟨0, 0, 0, 0, 0, 0, 0, 0⟩

/-- The structure that `mp1_ioctl_add` makes of the caller's. -/
def started (contents : Mp1BlinkStruct) : Mp1BlinkStruct :=
  { contents with status := 1, countdown := contents.onLength }

end Mp1BlinkStruct

/-- An index into `blink_array`. -/
abbrev Slot := Fin (80 * 25)

/-- Where the linker puts `blink_array`. -/
structure Placement where
  base : Nat
  notNull : 0 < base
  fits : base + 16 * (80 * 25) ≤ 2 ^ 32

namespace Placement

/-- `&blink_array[slot]` -/
def address (placement : Placement) (slot : Slot) : Nat :=
  placement.base + 16 * slot

/-- The slot that a pointer points to. -/
def slotAt (placement : Placement) (pointer : Nat) : Option Slot :=
  if isSlot : placement.base ≤ pointer ∧ (pointer - placement.base) % 16 = 0 ∧
      (pointer - placement.base) / 16 < 80 * 25 then
    some ⟨(pointer - placement.base) / 16, isSlot.2.2⟩
  else none

@[simp]
theorem slotAt_address (placement : Placement) (slot : Slot) :
    placement.slotAt (placement.address slot) = some slot := by
  have isSlot : placement.base ≤ placement.address slot ∧
      (placement.address slot - placement.base) % 16 = 0 ∧
      (placement.address slot - placement.base) / 16 < 80 * 25 := by
    have := slot.isLt
    unfold address
    omega
  rw [slotAt, dif_pos isSlot]
  congr
  unfold address
  omega

theorem address_ne_null (placement : Placement) (slot : Slot) :
    placement.address slot ≠ 0 := by
  have := placement.notNull
  unfold address
  omega

def layout (placement : Placement) : Layout Slot Nat where
  pointer := placement.address
  null := 0
  injective := by
    intro first second same
    have slots := congrArg placement.slotAt same
    rw [slotAt_address, slotAt_address] at slots
    exact Option.some.inj slots
  ne_null := placement.address_ne_null

@[simp]
theorem layout_pointer (placement : Placement) (slot : Slot) :
    placement.layout.pointer slot = placement.address slot :=
  rfl

@[simp]
theorem layout_null (placement : Placement) : placement.layout.null = 0 :=
  rfl

end Placement

/-- The data of `fish.c` and `blink.S`. -/
structure Blinkers where
  blinkArray : Slot → Mp1BlinkStruct
  mp1ListHead : Nat
  vmemBaseAddr : UInt32
  vmem : TracedMemory UInt32 UInt8

namespace Blinkers

variable (placement : Placement) (turns : Nat) (state : Blinkers)

/-- Change one element of `blink_array`. -/
def modify (slot : Slot) (change : Mp1BlinkStruct → Mp1BlinkStruct) : Blinkers :=
  { state with
    blinkArray := Function.update state.blinkArray slot (change (state.blinkArray slot)) }

/-- `movb %cl,(vmem_base_addr,%eax,1)` -/
def mp1Poke (cl : UInt8) (eax : UInt32) : Blinkers :=
  { state with vmem := state.vmem.store (state.vmemBaseAddr + eax) cl }

/-- No slot stands for the null pointer. -/
def mp1Malloc : Option Slot :=
  (List.finRange (80 * 25)).find? fun slot => (state.blinkArray slot).location == 0

def mp1Free (slot : Slot) : Blinkers :=
  state.modify slot fun _ => .zero

/-- The loop of `mp1_find_helper`, with `%ebx` as its state. -/
def findTurn (location : UInt16) (pointer : Nat) : Turn Nat Nat :=
  if pointer = 0 then .exit 0
  else
    match placement.slotAt pointer with
    | none => .stuck
    | some slot =>
        if (state.blinkArray slot).location == location then .exit pointer
        else .next (state.blinkArray slot).next

/-- Only the low 16 bits of the argument are compared. -/
def mp1FindHelper (argument : UInt32) : Option Nat :=
  runFor (state.findTurn placement argument.toUInt16) turns state.mp1ListHead

/-- The head of the list and the `NEXT` fields. -/
def links : Linked Slot Nat where
  head := state.mp1ListHead
  next := fun slot => (state.blinkArray slot).next

def writeLink (pointer : Nat) : Link Slot → Blinkers
  | .head => { state with mp1ListHead := pointer }
  | .behind slot => state.modify slot fun blink => { blink with next := pointer }

/-- What `mp1_ioctl_add` does with the slot it is given. -/
def addAt (slot : Slot) (contents : Mp1BlinkStruct) : Blinkers :=
  let copied := state.modify slot fun _ => contents.started
  let linked := copied.modify slot fun blink => { blink with next := copied.mp1ListHead }
  let pushed := { linked with mp1ListHead := placement.address slot }
  pushed.mp1Poke (pushed.blinkArray slot).onChar
    ((pushed.blinkArray slot).location.toUInt32 <<< 1)

def mp1IoctlAdd (contents : Mp1BlinkStruct) : Int × Blinkers :=
  if 80 * 25 ≤ contents.location then (-1, state)
  else
    match state.mp1Malloc with
    | none => (-1, state)
    | some slot => (0, state.addAt placement slot contents)

/-- The loop `remove_find_prev`, with `%edx` as its state. -/
def removeFindPrev (found : Nat) (link : Link Slot) : Turn (Link Slot) (Link Slot) :=
  if state.links.read link = found then .exit link
  else
    match placement.slotAt (state.links.read link) with
    | none => .stuck
    | some slot => .next (.behind slot)

def mp1IoctlRemove (argument : UInt32) : Option (Int × Blinkers) := do
  let found ← state.mp1FindHelper placement turns argument
  if found = 0 then return (-1, state)
  let link ← runFor (state.removeFindPrev placement found) turns .head
  let slot ← placement.slotAt found
  let unlinked := state.writeLink (state.blinkArray slot).next link
  return (0, unlinked.mp1Free slot)

/-- The structure that is copied out, if there is one at the location. -/
def mp1IoctlFind (location : UInt16) : Option (Int × Option Mp1BlinkStruct) := do
  let found ← state.mp1FindHelper placement turns location.toUInt32
  if found = 0 then return (-1, none)
  let slot ← placement.slotAt found
  return (0, some (state.blinkArray slot))

/-- From `sync_copy_loop` on. -/
def syncCopy (source target : Slot) : Blinkers :=
  let copied := state.modify target fun blink =>
    { blink with
      onLength := (state.blinkArray source).onLength
      offLength := (state.blinkArray source).offLength
      countdown := (state.blinkArray source).countdown
      status := (state.blinkArray source).status }
  -- `testb $0x1` clears the sign flag, so that `cmovl` never moves `ON_CHAR`.
  copied.mp1Poke (copied.blinkArray target).offChar
    ((copied.blinkArray target).location.toUInt32 <<< 1)

/-- The high half of the argument names the blinker that is copied from, the low half
the one that is copied to. -/
def mp1IoctlSync (argument : UInt32) : Option (Int × Blinkers) := do
  let first ← state.mp1FindHelper placement turns (argument >>> 16)
  if first = 0 then return (-1, state)
  let second ← state.mp1FindHelper placement turns (argument &&& 0xFFFF)
  if second = 0 then return (-1, state)
  let source ← placement.slotAt first
  let target ← placement.slotAt second
  return (0, state.syncCopy source target)

/-- The body of `tasklet_loop`. -/
def tick (slot : Slot) : Blinkers :=
  let counted := state.modify slot fun blink => { blink with countdown := blink.countdown - 1 }
  let blink := counted.blinkArray slot
  if 0 < blink.countdown.toInt16 then counted
  else if blink.status &&& 1 = 0 then
    (counted.mp1Poke blink.onChar (blink.location.toUInt32 <<< 1)).modify slot fun blink =>
      { blink with countdown := blink.onLength, status := blink.status ^^^ 1 }
  else
    (counted.mp1Poke blink.offChar (blink.location.toUInt32 <<< 1)).modify slot fun blink =>
      { blink with countdown := blink.offLength, status := blink.status ^^^ 1 }

/-- The loop of `mp1_rtc_tasklet`, with `%ebx` and the data as its state. -/
def taskletTurn (current : Nat × Blinkers) : Turn (Nat × Blinkers) Blinkers :=
  if current.1 = 0 then .exit current.2
  else
    match placement.slotAt current.1 with
    | none => .stuck
    | some slot =>
        let ticked := current.2.tick slot
        .next ((ticked.blinkArray slot).next, ticked)

def mp1RtcTasklet : Option Blinkers :=
  runFor (taskletTurn placement) turns (state.mp1ListHead, state)

end Blinkers

/-- A call of `mp1_ioctl` or of `mp1_rtc_tasklet`. -/
inductive BlinkCall where
  | add (contents : Mp1BlinkStruct)
  | remove (argument : UInt32)
  | find (location : UInt16)
  | sync (argument : UInt32)
  | tasklet

namespace BlinkCall

/-- The data behind a call, if its loops end within a number of turns. -/
def run (placement : Placement) (turns : Nat) (state : Blinkers) : BlinkCall → Option Blinkers
  | .add contents => some (state.mp1IoctlAdd placement contents).2
  | .remove argument => (state.mp1IoctlRemove placement turns argument).map Prod.snd
  | .find location => (state.mp1IoctlFind placement turns location).map fun _ => state
  | .sync argument => (state.mp1IoctlSync placement turns argument).map Prod.snd
  | .tasklet => state.mp1RtcTasklet placement turns

def runAll (placement : Placement) (turns : Nat) (state : Blinkers)
    (calls : List BlinkCall) : Option Blinkers :=
  calls.foldlM (run placement turns) state

end BlinkCall

/-- What a blinker on the list keeps. -/
structure Blinker where
  location : UInt16
  onChar : UInt8
  offChar : UInt8
  deriving DecidableEq, Repr

def Mp1BlinkStruct.blinker (blink : Mp1BlinkStruct) : Blinker where
  location := blink.location
  onChar := blink.onChar
  offChar := blink.offChar

/-- A call puts a blinker on the screen or takes one off. -/
def BlinkCall.change (blinkers : List Blinker) : BlinkCall → List Blinker
  | .add contents =>
      if contents.location < 80 * 25 ∧ blinkers.length < 80 * 25 then
        contents.blinker :: blinkers
      else blinkers
  | .remove argument => blinkers.eraseP fun blinker => blinker.location == argument.toUInt16
  | .find _ | .sync _ | .tasklet => blinkers

/-- The blinkers added and not yet removed, the latest first. -/
def BlinkCall.present (calls : List BlinkCall) : List Blinker :=
  calls.foldl change []

namespace Blinkers

/-- A zeroed `blink_array` and an empty list. -/
def start (vmemBaseAddr : UInt32) (vmem : TracedMemory UInt32 UInt8) : Blinkers where
  blinkArray := fun _ => .zero
  mp1ListHead := 0
  vmemBaseAddr := vmemBaseAddr
  vmem := vmem

/-- The list is finite and goes through different slots, which hold the blinkers, and
`mp1_malloc` returns none of them. -/
def WellFormed (placement : Placement) (state : Blinkers) (blinkers : List Blinker) : Prop :=
  ∃ slots : List Slot,
    state.links.Holds placement.layout slots ∧ slots.Nodup ∧
    slots.map (fun slot => (state.blinkArray slot).blinker) = blinkers ∧
    ∀ slot, state.mp1Malloc = some slot → slot ∉ slots

variable {placement : Placement} {turns : Nat} {state other : Blinkers}
  {blinkers : List Blinker} {slots : List Slot} {slot : Slot}

section Slots

theorem modify_self (change : Mp1BlinkStruct → Mp1BlinkStruct) :
    (state.modify slot change).blinkArray slot = change (state.blinkArray slot) :=
  Function.update_self _ _ _

theorem modify_of_ne (change : Mp1BlinkStruct → Mp1BlinkStruct) {elsewhere : Slot}
    (different : elsewhere ≠ slot) :
    (state.modify slot change).blinkArray elsewhere = state.blinkArray elsewhere :=
  Function.update_of_ne different _ _

/-- A change that keeps a field of its slot keeps the field of every slot. -/
theorem modify_keeps {Value : Type*} (field : Mp1BlinkStruct → Value)
    {change : Mp1BlinkStruct → Mp1BlinkStruct}
    (kept : ∀ blink, field (change blink) = field blink) (elsewhere : Slot) :
    field ((state.modify slot change).blinkArray elsewhere) =
      field (state.blinkArray elsewhere) := by
  by_cases same : elsewhere = slot
  · rw [same, modify_self, kept]
  · rw [modify_of_ne change same]

theorem writeLink_links (pointer : Nat) (link : Link Slot) :
    (state.writeLink pointer link).links = state.links.write pointer link := by
  cases link with
  | head => rfl
  | behind slot =>
      have next : (fun elsewhere =>
          ((state.writeLink pointer (.behind slot)).blinkArray elsewhere).next) =
          Function.update (fun elsewhere => (state.blinkArray elsewhere).next) slot pointer := by
        funext elsewhere
        by_cases same : elsewhere = slot
        · subst same
          rw [Function.update_self, writeLink, modify_self]
        · rw [Function.update_of_ne same, writeLink, modify_of_ne _ same]
      exact congrArg (Linked.mk state.mp1ListHead) next

theorem writeLink_blinker (pointer : Nat) (link : Link Slot) (elsewhere : Slot) :
    ((state.writeLink pointer link).blinkArray elsewhere).blinker =
      (state.blinkArray elsewhere).blinker := by
  cases link with
  | head => rfl
  | behind slot =>
      rw [writeLink]
      apply modify_keeps Mp1BlinkStruct.blinker
      intro blink
      rfl

theorem location_of_mp1Malloc (allocated : state.mp1Malloc = some slot) :
    (state.blinkArray slot).location = 0 := by
  have isFree := List.find?_some allocated
  exact eq_of_beq isFree

theorem mp1Malloc_eq_none :
    state.mp1Malloc = none ↔ ∀ slot, (state.blinkArray slot).location ≠ 0 := by
  simp [mp1Malloc]

theorem mp1Malloc_of_first (isFree : (state.blinkArray 0).location = 0) :
    state.mp1Malloc = some 0 := by
  have first : List.finRange (1999 + 1) = 0 :: (List.finRange 1999).map Fin.succ :=
    List.finRange_succ
  rw [mp1Malloc]
  exact (congrArg (List.find? _) first).trans (List.find?_cons_of_pos (beq_of_eq isFree))

/-- `mp1_malloc` reads nothing but the locations. -/
theorem mp1Malloc_congr
    (same : ∀ slot, (other.blinkArray slot).location = (state.blinkArray slot).location) :
    other.mp1Malloc = state.mp1Malloc := by
  simp only [mp1Malloc, same]

end Slots

/-- The list goes through some slots, which hold the blinkers; the other slots, and no
more, have location 0. -/
structure Kept (placement : Placement) (state : Blinkers) (blinkers : List Blinker)
    (slots : List Slot) : Prop where
  holds : state.links.Holds placement.layout slots
  holdsBlinkers : slots.map (fun slot => (state.blinkArray slot).blinker) = blinkers
  onList : ∀ slot ∈ slots, (state.blinkArray slot).location ≠ 0
  offList : ∀ slot, slot ∉ slots → (state.blinkArray slot).location = 0

/-- The slot holds a blinker at the location. -/
def isAt (state : Blinkers) (location : UInt16) (slot : Slot) : Bool :=
  (state.blinkArray slot).location == location

/-- The links, and what the blinkers on the list keep, are the same. -/
structure SameList (state other : Blinkers) : Prop where
  head : other.mp1ListHead = state.mp1ListHead
  next : ∀ slot, (other.blinkArray slot).next = (state.blinkArray slot).next
  blinker : ∀ slot, (other.blinkArray slot).blinker = (state.blinkArray slot).blinker

namespace SameList

theorem refl (state : Blinkers) : SameList state state :=
  ⟨rfl, fun _ => rfl, fun _ => rfl⟩

theorem modify (same : SameList state other) {change : Mp1BlinkStruct → Mp1BlinkStruct}
    (next : ∀ blink, (change blink).next = blink.next)
    (blinker : ∀ blink, (change blink).blinker = blink.blinker) :
    SameList state (other.modify slot change) where
  head := same.head
  next elsewhere := (modify_keeps Mp1BlinkStruct.next next elsewhere).trans
    (same.next elsewhere)
  blinker elsewhere := (modify_keeps Mp1BlinkStruct.blinker blinker elsewhere).trans
    (same.blinker elsewhere)

theorem poke (same : SameList state other) (cl : UInt8) (eax : UInt32) :
    SameList state (other.mp1Poke cl eax) :=
  ⟨same.head, same.next, same.blinker⟩

theorem tick (same : SameList state other) (slot : Slot) : SameList state (other.tick slot) := by
  have counted : SameList state (other.modify slot fun blink =>
      { blink with countdown := blink.countdown - 1 }) :=
    same.modify (fun _ => rfl) fun _ => rfl
  unfold Blinkers.tick
  dsimp only
  split
  · exact counted
  · split
    · exact (counted.poke _ _).modify (fun _ => rfl) fun _ => rfl
    · exact (counted.poke _ _).modify (fun _ => rfl) fun _ => rfl

theorem syncCopy (state : Blinkers) (source target : Slot) :
    SameList state (state.syncCopy source target) := by
  apply poke
  apply (refl state).modify
  · intro blink
    rfl
  · intro blink
    rfl

end SameList

section Push

theorem addAt_blinkArray (contents : Mp1BlinkStruct) :
    (state.addAt placement slot contents).blinkArray =
      Function.update state.blinkArray slot
        { contents.started with next := state.mp1ListHead } := by
  simp [addAt, modify, mp1Poke]

theorem addAt_links (contents : Mp1BlinkStruct) :
    (state.addAt placement slot contents).links =
      Linked.mk (placement.layout.pointer slot)
        (Function.update state.links.next slot state.links.head) := by
  have next : (fun elsewhere =>
      ((state.addAt placement slot contents).blinkArray elsewhere).next) =
      Function.update state.links.next slot state.links.head := by
    rw [addAt_blinkArray]
    funext elsewhere
    by_cases same : elsewhere = slot
    · rw [same, Function.update_self, Function.update_self]
      rfl
    · rw [Function.update_of_ne same, Function.update_of_ne same]
      rfl
  exact congrArg (Linked.mk (placement.address slot)) next

/-- The slot of a blinker at location 0 is on the list and handed out again. -/
theorem not_wellFormed_of_addAt (allocated : state.mp1Malloc = some slot)
    {contents : Mp1BlinkStruct} (atZero : contents.location = 0) (others : List Blinker) :
    ¬(state.addAt placement slot contents).WellFormed placement others := by
  rintro ⟨slots, holds, -, -, returned⟩
  have again : (state.addAt placement slot contents).mp1Malloc = some slot := by
    rw [← allocated]
    apply mp1Malloc_congr
    intro other
    rw [addAt_blinkArray]
    by_cases same : other = slot
    · rw [same, Function.update_self, location_of_mp1Malloc allocated]
      exact atZero
    · rw [Function.update_of_ne same]
  apply returned slot again
  rw [Linked.Holds, addAt_links] at holds
  obtain ⟨rest, rfl, -⟩ := Chain.of_pointer holds
  exact List.mem_cons_self

end Push

section SelfLinked

/-- The walk of `mp1_rtc_tasklet` does not leave a slot that links to itself. -/
theorem mp1RtcTasklet_of_selfLinked (head : state.mp1ListHead = placement.address slot)
    (linked : (state.blinkArray slot).next = placement.address slot) (turns : Nat) :
    state.mp1RtcTasklet placement turns = none := by
  apply runFor_of_goesOn fun current =>
    current.1 = placement.address slot ∧
      (current.2.blinkArray slot).next = placement.address slot
  · rintro ⟨pointer, current⟩ ⟨rfl, stillLinked⟩
    have next := ((SameList.refl current).tick slot).next slot
    refine ⟨(placement.address slot, current.tick slot), ?_, rfl, next.trans stillLinked⟩
    dsimp only at stillLinked
    rw [taskletTurn, if_neg (placement.address_ne_null slot), placement.slotAt_address,
      ← stillLinked, ← next]
  · exact ⟨head, linked⟩

theorem not_wellFormed_of_selfLinked (head : state.mp1ListHead = placement.address slot)
    (linked : (state.blinkArray slot).next = placement.address slot)
    (blinkers : List Blinker) : ¬state.WellFormed placement blinkers := by
  rintro ⟨slots, holds, -⟩
  unfold Linked.Holds links at holds
  rw [head] at holds
  exact Chain.not_self_linked linked holds

end SelfLinked

namespace Kept

theorem location_eq_zero (kept : Kept placement state blinkers slots) :
    (state.blinkArray slot).location = 0 ↔ slot ∉ slots := by
  constructor
  · intro isFree mem
    exact kept.onList slot mem isFree
  · exact kept.offList slot

theorem nodup (kept : Kept placement state blinkers slots) : slots.Nodup :=
  Chain.nodup kept.holds

theorem length_eq (kept : Kept placement state blinkers slots) :
    blinkers.length = slots.length := by
  rw [← kept.holdsBlinkers, List.length_map]

theorem length_le (kept : Kept placement state blinkers slots) :
    slots.length ≤ 80 * 25 := by
  have bound := kept.nodup.length_le_card
  rwa [Fintype.card_fin] at bound

/-- No slot is free exactly when as many blinkers as there are slots are on the list. -/
theorem full (kept : Kept placement state blinkers slots) :
    state.mp1Malloc = none ↔ blinkers.length = 80 * 25 := by
  have allSlots : slots.length = 80 * 25 ↔ ∀ slot, slot ∈ slots := by
    have card := Finset.card_eq_iff_eq_univ slots.toFinset
    rw [List.toFinset_card_of_nodup kept.nodup, Fintype.card_fin,
      Finset.eq_univ_iff_forall] at card
    simpa only [List.mem_toFinset] using card
  rw [mp1Malloc_eq_none, kept.length_eq, allSlots]
  constructor
  · intro allUsed slot
    by_contra free
    exact allUsed slot (kept.offList slot free)
  · intro all slot
    exact kept.onList slot (all slot)

theorem wellFormed (kept : Kept placement state blinkers slots) :
    state.WellFormed placement blinkers := by
  refine ⟨slots, kept.holds, kept.nodup, kept.holdsBlinkers, ?_⟩
  intro slot allocated
  exact kept.location_eq_zero.mp (location_of_mp1Malloc allocated)

theorem congr (kept : Kept placement state blinkers slots) (same : SameList state other) :
    Kept placement other blinkers slots := by
  have location : ∀ slot,
      (other.blinkArray slot).location = (state.blinkArray slot).location :=
    fun slot => congrArg Blinker.location (same.blinker slot)
  constructor
  · exact kept.holds.congr same.head fun slot _ => same.next slot
  · simp only [same.blinker]
    exact kept.holdsBlinkers
  · intro slot mem
    rw [location]
    exact kept.onList slot mem
  · intro slot free
    rw [location]
    exact kept.offList slot free

section Walks

theorem mp1FindHelper_eq (kept : Kept placement state blinkers slots)
    (enough : 80 * 25 < turns) (argument : UInt32) :
    state.mp1FindHelper placement turns argument =
      some ((slots.find? (state.isAt argument.toUInt16)).elim 0 placement.address) := by
  have within := kept.length_le
  apply search_ends kept.holds
  · rfl
  · intro slot _
    rw [placement.layout_pointer, findTurn, if_neg (placement.address_ne_null slot),
      placement.slotAt_address]
    rfl
  · omega

theorem find (kept : Kept placement state blinkers slots) (enough : 80 * 25 < turns)
    (location : UInt16) :
    ∃ result, state.mp1IoctlFind placement turns location = some result := by
  unfold mp1IoctlFind
  rw [kept.mp1FindHelper_eq enough]
  cases slots.find? _ with
  | none => exact ⟨_, rfl⟩
  | some slot =>
      have notNull := placement.address_ne_null slot
      simp [notNull]

theorem sync (kept : Kept placement state blinkers slots) (enough : 80 * 25 < turns)
    (argument : UInt32) :
    ∃ after, (state.mp1IoctlSync placement turns argument).map Prod.snd = some after ∧
      Kept placement after blinkers slots := by
  unfold mp1IoctlSync
  rw [kept.mp1FindHelper_eq enough, kept.mp1FindHelper_eq enough]
  cases slots.find? _ with
  | none => exact ⟨state, rfl, kept⟩
  | some source =>
      cases slots.find? _ with
      | none =>
          refine ⟨state, ?_, kept⟩
          simp
      | some target =>
          refine ⟨state.syncCopy source target, ?_,
            kept.congr (SameList.syncCopy state source target)⟩
          simp [placement.address_ne_null]

theorem tasklet (kept : Kept placement state blinkers slots) (enough : 80 * 25 < turns) :
    ∃ after, state.mp1RtcTasklet placement turns = some after ∧
      Kept placement after blinkers slots := by
  have within := kept.length_le
  have ended : ∃ after, state.mp1RtcTasklet placement turns = some after ∧
      SameList state after := by
    apply walk_ends (SameList state) (SameList state) kept.holds
    · intro current same
      exact ⟨current, rfl, same⟩
    · intro slot _ current same
      have ticked := same.tick slot
      refine ⟨current.tick slot, ?_, ticked⟩
      rw [placement.layout_pointer, taskletTurn, if_neg (placement.address_ne_null slot),
        placement.slotAt_address]
      exact congrArg (fun next => Turn.next (next, current.tick slot)) (ticked.next slot)
    · exact SameList.refl state
    · omega
  obtain ⟨after, ends, same⟩ := ended
  exact ⟨after, ends, kept.congr same⟩

end Walks

section Add

/-- A blinker at another location than 0 is added at the head. -/
theorem addAt (kept : Kept placement state blinkers slots)
    (allocated : state.mp1Malloc = some slot) {contents : Mp1BlinkStruct}
    (used : contents.location ≠ 0) :
    Kept placement (state.addAt placement slot contents) (contents.blinker :: blinkers)
      (slot :: slots) := by
  have fresh : slot ∉ slots := kept.location_eq_zero.mp (location_of_mp1Malloc allocated)
  have elsewhere : ∀ other, other ≠ slot →
      (state.addAt placement slot contents).blinkArray other = state.blinkArray other := by
    intro other different
    rw [addAt_blinkArray, Function.update_of_ne different]
  have notSlot : ∀ other ∈ slots, other ≠ slot := by
    rintro other mem rfl
    exact fresh mem
  constructor
  · rw [addAt_links]
    exact kept.holds.push fresh
  · have behind : slots.map (fun slot' =>
        ((state.addAt placement slot contents).blinkArray slot').blinker) = blinkers := by
      rw [← kept.holdsBlinkers]
      apply List.map_congr_left
      intro other mem
      rw [elsewhere other (notSlot other mem)]
    rw [List.map_cons, behind, addAt_blinkArray, Function.update_self]
    rfl
  · intro other mem
    rcases List.mem_cons.mp mem with rfl | mem
    · rw [addAt_blinkArray, Function.update_self]
      exact used
    · rw [elsewhere other (notSlot other mem)]
      exact kept.onList other mem
  · intro other free
    rw [List.mem_cons, not_or] at free
    rw [elsewhere other free.1]
    exact kept.offList other free.2

theorem not_wellFormed_of_add (kept : Kept placement state blinkers slots)
    (notFull : blinkers.length ≠ 80 * 25) {contents : Mp1BlinkStruct}
    (atZero : contents.location = 0) (others : List Blinker) :
    ¬(state.mp1IoctlAdd placement contents).2.WellFormed placement others := by
  have inside : ¬80 * 25 ≤ contents.location := by
    rw [atZero]
    decide
  rw [mp1IoctlAdd, if_neg inside]
  cases allocated : state.mp1Malloc with
  | none => exact absurd (kept.full.mp allocated) notFull
  | some slot => exact not_wellFormed_of_addAt allocated atZero others

theorem add (kept : Kept placement state blinkers slots) {contents : Mp1BlinkStruct}
    (unlessFull : contents.location = 0 → blinkers.length = 80 * 25) :
    ∃ slots, Kept placement (state.mp1IoctlAdd placement contents).2
      ((BlinkCall.add contents).change blinkers) slots := by
  rw [mp1IoctlAdd, BlinkCall.change]
  by_cases inside : contents.location < 80 * 25
  · rw [if_neg (UInt16.not_le.mpr inside)]
    cases allocated : state.mp1Malloc with
    | none =>
        have isFull := kept.full.mp allocated
        rw [if_neg fun both => both.2.ne isFull]
        exact ⟨slots, kept⟩
    | some slot =>
        have notFull : blinkers.length ≠ 80 * 25 := by
          intro isFull
          exact nomatch allocated.symm.trans (kept.full.mpr isFull)
        have bound := kept.length_le
        rw [← kept.length_eq] at bound
        rw [if_pos ⟨inside, by omega⟩]
        exact ⟨slot :: slots, kept.addAt allocated fun atZero => notFull (unlessFull atZero)⟩
  · rw [if_pos (UInt16.not_lt.mp inside), if_neg fun both => inside both.1]
    exact ⟨slots, kept⟩

end Add

section Remove

/-- The loop finds the link that leads to a slot. -/
theorem removeFindPrev_ends {before after : List Slot}
    (kept : Kept placement state blinkers (before ++ slot :: after))
    (enough : 80 * 25 < turns) :
    runFor (state.removeFindPrev placement (placement.address slot)) turns .head =
      some (linkAfter .head before) := by
  have within := kept.length_le
  have distinct := List.nodup_middle.mp kept.nodup
  have notBefore : slot ∉ before := fun mem =>
    (List.nodup_cons.mp distinct).1 (List.mem_append_left after mem)
  rw [List.length_append, List.length_cons] at within
  obtain ⟨middle, leads, atSlot⟩ := Segment.split kept.holds
  cases atSlot with
  | cons _ rest =>
      apply linkSearch_ends leads notBefore
      · intro link read
        rw [removeFindPrev]
        exact if_pos read
      · intro link passed _ read different
        have notFound : placement.address passed ≠ placement.address slot := by
          intro same
          exact different (placement.layout.injective same)
        rw [removeFindPrev, read, placement.layout_pointer, if_neg notFound,
          placement.slotAt_address]
      · omega

theorem unlink {before after : List Slot}
    (kept : Kept placement state blinkers (before ++ slot :: after)) :
    Kept placement
      ((state.writeLink (state.blinkArray slot).next (linkAfter .head before)).mp1Free slot)
      ((before ++ after).map fun slot => (state.blinkArray slot).blinker)
      (before ++ after) := by
  have distinct := List.nodup_middle.mp kept.nodup
  have notSlot : ∀ other ∈ before ++ after, other ≠ slot := by
    rintro other mem rfl
    exact (List.nodup_cons.mp distinct).1 mem
  have onList : ∀ other, other ∈ before ++ slot :: after ↔
      other = slot ∨ other ∈ before ++ after :=
    fun other => List.perm_middle.mem_iff.trans List.mem_cons
  generalize isLinked : state.writeLink (state.blinkArray slot).next (linkAfter .head before) =
    linked
  have blinker : ∀ other,
      (linked.blinkArray other).blinker = (state.blinkArray other).blinker := by
    intro other
    rw [← isLinked, writeLink_blinker]
  have location : ∀ other,
      (linked.blinkArray other).location = (state.blinkArray other).location :=
    fun other => congrArg Blinker.location (blinker other)
  constructor
  · have holds : linked.links.Holds placement.layout (before ++ after) := by
      rw [← isLinked, writeLink_links]
      exact kept.holds.unlink
    apply holds.congr
    · rfl
    · intro other mem
      exact congrArg Mp1BlinkStruct.next (modify_of_ne _ (notSlot other mem))
  · apply List.map_congr_left
    intro other mem
    rw [mp1Free, modify_of_ne _ (notSlot other mem), blinker]
  · intro other mem
    rw [mp1Free, modify_of_ne _ (notSlot other mem), location]
    exact kept.onList other ((onList other).mpr (Or.inr mem))
  · intro other free
    rw [mp1Free]
    by_cases same : other = slot
    · rw [same, modify_self]
      rfl
    · rw [modify_of_ne _ same, location]
      apply kept.offList
      rw [onList, not_or]
      exact ⟨same, free⟩

theorem remove (kept : Kept placement state blinkers slots) (enough : 80 * 25 < turns)
    (argument : UInt32) :
    ∃ after, (state.mp1IoctlRemove placement turns argument).map Prod.snd = some after ∧
      ∃ slots, Kept placement after ((BlinkCall.remove argument).change blinkers) slots := by
  have erased : (BlinkCall.remove argument).change blinkers =
      (slots.eraseP (state.isAt argument.toUInt16)).map fun slot =>
        (state.blinkArray slot).blinker := by
    rw [BlinkCall.change, ← kept.holdsBlinkers, List.eraseP_map]
    rfl
  unfold mp1IoctlRemove
  rw [kept.mp1FindHelper_eq enough, erased]
  cases search : slots.find? _ with
  | none =>
      rw [List.eraseP_of_forall_not (List.find?_eq_none.mp search), kept.holdsBlinkers]
      exact ⟨state, rfl, slots, kept⟩
  | some slot =>
      obtain ⟨isWanted, before, after, rfl, notBefore⟩ :=
        List.find?_eq_some_iff_append.mp search
      have skipped : ∀ other ∈ before, ¬state.isAt argument.toUInt16 other = true := by
        intro other mem
        simpa using notBefore other mem
      have notNull := placement.address_ne_null slot
      rw [List.eraseP_append_right _ skipped, List.eraseP_cons_of_pos isWanted]
      refine ⟨(state.writeLink (state.blinkArray slot).next (linkAfter .head before)).mp1Free
        slot, ?_, before ++ after, kept.unlink⟩
      simp [notNull, kept.removeFindPrev_ends enough]

end Remove

theorem start_kept (placement : Placement) (vmemBaseAddr : UInt32)
    (vmem : TracedMemory UInt32 UInt8) :
    Kept placement (start vmemBaseAddr vmem) [] [] where
  holds := .nil 0
  holdsBlinkers := rfl
  onList _ mem := nomatch mem
  offList _ _ := rfl

/-- A call keeps the list, unless it puts a blinker at location 0 on it. -/
theorem run (kept : Kept placement state blinkers slots) (enough : 80 * 25 < turns)
    (call : BlinkCall)
    (unlessFull : ∀ contents, call = .add contents → contents.location = 0 →
      blinkers.length = 80 * 25) :
    ∃ after, call.run placement turns state = some after ∧
      ∃ slots, Kept placement after (call.change blinkers) slots := by
  cases call with
  | add contents => exact ⟨_, rfl, kept.add (unlessFull contents rfl)⟩
  | remove argument => exact kept.remove enough argument
  | find location =>
      obtain ⟨result, found⟩ := kept.find enough location
      refine ⟨state, ?_, slots, kept⟩
      rw [BlinkCall.run, found]
      rfl
  | sync argument =>
      obtain ⟨after, synced, keptAfter⟩ := kept.sync enough argument
      exact ⟨after, synced, slots, keptAfter⟩
  | tasklet =>
      obtain ⟨after, ended, keptAfter⟩ := kept.tasklet enough
      exact ⟨after, ended, slots, keptAfter⟩

end Kept

end Blinkers

namespace BlinkCall

open Blinkers

variable {placement : Placement} {turns : Nat} {state : Blinkers} {calls : List BlinkCall}

theorem runAll_append_singleton (call : BlinkCall) :
    runAll placement turns state (calls ++ [call]) =
      (runAll placement turns state calls).bind fun after => call.run placement turns after := by
  unfold runAll
  rw [List.foldlM_append]
  cases calls.foldlM (run placement turns) state with
  | none => rfl
  | some after =>
      rw [Option.bind_eq_bind, Option.bind_some, Option.bind_some, List.foldlM_cons]
      exact bind_pure (call.run placement turns after)

theorem present_append_singleton (call : BlinkCall) :
    present (calls ++ [call]) = call.change (present calls) := by
  unfold present
  rw [List.foldl_append]
  rfl

/-- A blinker at location 0 is added only to a full list. -/
def ZeroOnlyIfFull (calls : List BlinkCall) : Prop :=
  ∀ made contents, made ++ [.add contents] <+: calls → contents.location = 0 →
    (present made).length = 80 * 25

theorem ZeroOnlyIfFull.of_prefix (zero : ZeroOnlyIfFull calls) {made : List BlinkCall}
    (isPrefix : made <+: calls) : ZeroOnlyIfFull made := by
  intro earlier contents before
  exact zero earlier contents (before.trans isPrefix)

theorem zeroOnlyIfFull_of_nonzero
    (nonzero : ∀ contents, .add contents ∈ calls → contents.location ≠ 0) :
    ZeroOnlyIfFull calls := by
  intro made contents isPrefix atZero
  have isCall := isPrefix.subset (List.mem_append_right made (List.mem_singleton_self _))
  exact absurd atZero (nonzero contents isCall)

theorem kept_of_zeroOnlyIfFull (enough : 80 * 25 < turns) (vmemBaseAddr : UInt32)
    (vmem : TracedMemory UInt32 UInt8) (zero : ZeroOnlyIfFull calls) :
    ∃ state, runAll placement turns (start vmemBaseAddr vmem) calls = some state ∧
      ∃ slots, Kept placement state (present calls) slots := by
  induction calls using List.reverseRecOn with
  | nil => exact ⟨_, rfl, [], Kept.start_kept placement vmemBaseAddr vmem⟩
  | append_singleton calls call ih =>
      obtain ⟨state, ran, slots, kept⟩ := ih (zero.of_prefix (List.prefix_append calls [call]))
      rw [runAll_append_singleton, ran, present_append_singleton]
      apply kept.run enough call
      rintro contents rfl atZero
      exact zero calls contents (List.prefix_refl _) atZero

theorem wellFormed_iff_zeroOnlyIfFull (placement : Placement) {turns : Nat}
    (enough : 80 * 25 < turns) (vmemBaseAddr : UInt32) (vmem : TracedMemory UInt32 UInt8)
    (calls : List BlinkCall) :
    (∀ made, made <+: calls → ∃ state,
      runAll placement turns (start vmemBaseAddr vmem) made = some state ∧
        state.WellFormed placement (present made)) ↔ ZeroOnlyIfFull calls := by
  constructor
  · intro wellFormed
    induction calls using List.reverseRecOn with
    | nil =>
        intro made contents isPrefix
        exact absurd (List.prefix_nil.mp isPrefix) (List.append_ne_nil_of_right_ne_nil made
          (List.cons_ne_nil _ _))
    | append_singleton calls call ih =>
        have earlier : ZeroOnlyIfFull calls := by
          apply ih
          intro made isPrefix
          exact wellFormed made (isPrefix.trans (List.prefix_append calls [call]))
        intro made contents isPrefix atZero
        rcases List.prefix_concat_iff.mp isPrefix with isLast | isEarlier
        · obtain ⟨rfl, last⟩ := List.append_inj' isLast rfl
          obtain rfl := (List.cons.inj last).1
          obtain ⟨before, ran, slots, kept⟩ := kept_of_zeroOnlyIfFull enough vmemBaseAddr vmem
            earlier
          obtain ⟨after, ranOn, good⟩ := wellFormed _ (List.prefix_refl _)
          rw [runAll_append_singleton, ran] at ranOn
          obtain rfl := Option.some.inj ranOn
          by_contra notFull
          exact kept.not_wellFormed_of_add notFull atZero _ good
        · exact earlier made contents isEarlier atZero
  · intro zero made isPrefix
    obtain ⟨state, ran, slots, kept⟩ :=
      kept_of_zeroOnlyIfFull enough vmemBaseAddr vmem (zero.of_prefix isPrefix)
    exact ⟨state, ran, kept.wellFormed⟩

end BlinkCall

namespace Blinkers

/-- The linker puts `blink_array` behind the code of the program. -/
def fishPlacement : Placement :=
  ⟨0x0804A000, by decide, by decide⟩

/-- The blinker that `main` adds, at any location. -/
def fishBlink (location : UInt16) : Mp1BlinkStruct :=
  ⟨location, 73, 77, 7, 6, 0, 0, 0⟩

def blankVmem : TracedMemory UInt32 UInt8 :=
  ⟨fun _ => 0, []⟩

/-- The last calls of `main`, with blinkers at 40 and 200 in front of them. -/
def mainCalls : List BlinkCall :=
  [.add (fishBlink 40), .add (fishBlink 200), .add (fishBlink 540), .tasklet,
    .sync (40 * 65536 + 540), .tasklet, .remove 200]

theorem wellFormed_of_main :
    ∃ state, BlinkCall.runAll fishPlacement 2001 (start 0 blankVmem) mainCalls = some state ∧
      state.WellFormed fishPlacement
        [(fishBlink 540).blinker, (fishBlink 40).blinker] := by
  have nonzero : ∀ contents, .add contents ∈ mainCalls → contents.location ≠ 0 := by
    intro contents isCall
    simp only [mainCalls, List.mem_cons, BlinkCall.add.injEq, List.not_mem_nil, reduceCtorEq,
      or_false] at isCall
    rcases isCall with rfl | rfl | rfl <;> decide
  have shown : BlinkCall.present mainCalls =
      [(fishBlink 540).blinker, (fishBlink 40).blinker] := by
    decide
  have enough : 80 * 25 < 2001 := by decide
  have wellFormed := (BlinkCall.wellFormed_iff_zeroOnlyIfFull fishPlacement enough 0
    blankVmem mainCalls).mpr (BlinkCall.zeroOnlyIfFull_of_nonzero nonzero) mainCalls
    (List.prefix_refl mainCalls)
  rwa [shown] at wellFormed

/-- The slot of a blinker at the top left cell is given to the next one, which is then
linked to itself: the next tick does not end. -/
theorem tasklet_stuck_behind_location_zero :
    ∃ state, (∀ turns, BlinkCall.runAll fishPlacement turns (start 0 blankVmem)
      [.add (fishBlink 0), .add (fishBlink 540)] = some state) ∧
      (∀ blinkers, ¬state.WellFormed fishPlacement blinkers) ∧
      ∀ turns, state.mp1RtcTasklet fishPlacement turns = none := by
  have first : (start 0 blankVmem).mp1IoctlAdd fishPlacement (fishBlink 0) =
      (0, (start 0 blankVmem).addAt fishPlacement 0 (fishBlink 0)) := by
    rw [mp1IoctlAdd, if_neg (by decide), mp1Malloc_of_first rfl]
  generalize isBefore : (start 0 blankVmem).addAt fishPlacement 0 (fishBlink 0) = before at first
  have again : before.mp1Malloc = some 0 := by
    apply mp1Malloc_of_first
    rw [← isBefore, addAt_blinkArray, Function.update_self]
    rfl
  have second : before.mp1IoctlAdd fishPlacement (fishBlink 540) =
      (0, before.addAt fishPlacement 0 (fishBlink 540)) := by
    rw [mp1IoctlAdd, if_neg (by decide), again]
  have head : (before.addAt fishPlacement 0 (fishBlink 540)).mp1ListHead =
      fishPlacement.address 0 :=
    rfl
  have linked : ((before.addAt fishPlacement 0 (fishBlink 540)).blinkArray 0).next =
      fishPlacement.address 0 := by
    rw [addAt_blinkArray, Function.update_self, ← isBefore]
    rfl
  refine ⟨before.addAt fishPlacement 0 (fishBlink 540), ?_,
    not_wellFormed_of_selfLinked head linked, mp1RtcTasklet_of_selfLinked head linked⟩
  intro turns
  rw [BlinkCall.runAll, List.foldlM_cons, BlinkCall.run, first]
  show some (before.mp1IoctlAdd fishPlacement (fishBlink 540)).2 = _
  rw [second]

end Blinkers

end ChapOS
