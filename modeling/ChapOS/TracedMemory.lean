import ChapOS.CountedLoops
import Mathlib.Data.Set.Basic

/-!
# Memories with a store trace

A memory that remembers the addresses it was stored to.  The trace makes
"every store stays inside this region" a statement about each store, also
about one that writes the value already there.  `StoresOnly` is the footprint
of a computation: its new stores all fall into a region, and whatever lies
outside the region reads as before.
-/

/-- A total memory together with the addresses stored to, latest first. -/
structure TracedMemory (Address Value : Type*) where
  read : Address → Value
  stores : List Address

namespace TracedMemory

open CountedLoops

variable {Address Value : Type*}

/-- The computation from `before` to `after` stores only inside `region`. -/
def StoresOnly (region : Set Address)
    (before after : TracedMemory Address Value) : Prop :=
  (∃ fresh, after.stores = fresh ++ before.stores ∧
    ∀ address ∈ fresh, address ∈ region) ∧
  ∀ address, address ∉ region → after.read address = before.read address

namespace StoresOnly

variable {region larger : Set Address}
  {first middle last : TracedMemory Address Value}

theorem refl (region : Set Address)
    (memory : TracedMemory Address Value) :
    StoresOnly region memory memory :=
  ⟨⟨[], rfl, by simp⟩, fun _ _ => rfl⟩

theorem trans (before : StoresOnly region first middle)
    (after : StoresOnly region middle last) :
    StoresOnly region first last := by
  obtain ⟨⟨firstFresh, firstStores, firstIn⟩, firstFrame⟩ := before
  obtain ⟨⟨lastFresh, lastStores, lastIn⟩, lastFrame⟩ := after
  refine ⟨⟨lastFresh ++ firstFresh, ?_, ?_⟩, ?_⟩
  · rw [lastStores, firstStores, List.append_assoc]
  · intro address member
    rcases List.mem_append.mp member with inLast | inFirst
    · exact lastIn address inLast
    · exact firstIn address inFirst
  · intro address outside
    rw [lastFrame address outside, firstFrame address outside]

theorem mono (footprint : StoresOnly region first last)
    (included : region ⊆ larger) : StoresOnly larger first last := by
  obtain ⟨⟨fresh, stores, inside⟩, frame⟩ := footprint
  refine ⟨⟨fresh, stores, ?_⟩, ?_⟩
  · intro address member
    exact included (inside address member)
  · intro address outside
    exact frame address fun inRegion => outside (included inRegion)

/-- A frame of the footprint: nothing outside the region changes. -/
theorem read_eq (footprint : StoresOnly region first last)
    {address : Address} (outside : address ∉ region) :
    last.read address = first.read address :=
  footprint.2 address outside

/-- Starting from an empty trace, every recorded store is in the region. -/
theorem mem_region (footprint : StoresOnly region first last)
    (untraced : first.stores = []) {address : Address}
    (stored : address ∈ last.stores) : address ∈ region := by
  obtain ⟨⟨fresh, stores, inside⟩, -⟩ := footprint
  rw [stores, untraced, List.append_nil] at stored
  exact inside address stored

/-- A trace only grows. -/
theorem mem_stores (footprint : StoresOnly region first last)
    {address : Address} (stored : address ∈ first.stores) :
    address ∈ last.stores := by
  obtain ⟨⟨fresh, stores, -⟩, -⟩ := footprint
  rw [stores]
  exact List.mem_append_right fresh stored

/-- A counted loop whose bodies store only inside a region does so too. -/
theorem forUpTo {count : Nat}
    {body : Nat → TracedMemory Address Value → TracedMemory Address Value}
    (memory : TracedMemory Address Value)
    (bodies : ∀ index < count, ∀ current,
      StoresOnly region current (body index current)) :
    StoresOnly region memory (CountedLoops.forUpTo count body memory) := by
  apply forUpTo_invariant fun _ current => StoresOnly region memory current
  · exact StoresOnly.refl region memory
  · intro index indexLt current footprint
    exact footprint.trans (bodies index indexLt current)

end StoresOnly

variable [DecidableEq Address]

/-- Write one value and record its address. -/
def store (memory : TracedMemory Address Value) (address : Address)
    (value : Value) : TracedMemory Address Value where
  read := Function.update memory.read address value
  stores := address :: memory.stores

@[simp]
theorem store_read_self (memory : TracedMemory Address Value)
    (address : Address) (value : Value) :
    (memory.store address value).read address = value := by
  simp [store]

theorem store_read_of_ne (memory : TracedMemory Address Value)
    {address other : Address} (value : Value) (different : other ≠ address) :
    (memory.store address value).read other = memory.read other := by
  simp [store, different]

theorem store_read (memory : TracedMemory Address Value)
    (address other : Address) (value : Value) :
    (memory.store address value).read other =
      if other = address then value else memory.read other := by
  simp [store, Function.update_apply]

@[simp]
theorem store_stores (memory : TracedMemory Address Value)
    (address : Address) (value : Value) :
    (memory.store address value).stores = address :: memory.stores :=
  rfl

theorem store_storesOnly {region : Set Address}
    (memory : TracedMemory Address Value) {address : Address}
    (value : Value) (inside : address ∈ region) :
    StoresOnly region memory (memory.store address value) := by
  refine ⟨⟨[address], rfl, ?_⟩, ?_⟩
  · simpa using inside
  · intro other outside
    exact store_read_of_ne memory value fun same => outside (same ▸ inside)

theorem StoresOnly.andStore {region : Set Address}
    {first last : TracedMemory Address Value}
    (footprint : StoresOnly region first last)
    {address : Address} (value : Value) (inside : address ∈ region) :
    StoresOnly region first (last.store address value) :=
  footprint.trans (store_storesOnly last value inside)

/-- Store `values 0`, ..., `values (count - 1)` at the addresses `target 0`,
..., `target (count - 1)`. -/
def storeSequence (memory : TracedMemory Address Value)
    (target : Nat → Address) (values : Nat → Value) (count : Nat) :
    TracedMemory Address Value :=
  forUpTo count (fun index current => current.store (target index) (values index))
    memory

theorem storeSequence_succ (memory : TracedMemory Address Value)
    (target : Nat → Address) (values : Nat → Value) (count : Nat) :
    memory.storeSequence target values (count + 1) =
      (memory.storeSequence target values count).store
        (target count) (values count) :=
  rfl

/-- Only the values at the indices below the count matter. -/
theorem storeSequence_congr (memory : TracedMemory Address Value)
    (target : Nat → Address) {values others : Nat → Value} {count : Nat}
    (same : ∀ index < count, values index = others index) :
    memory.storeSequence target values count =
      memory.storeSequence target others count := by
  apply forUpTo_congr
  intro index indexLt current
  rw [same index indexLt]

theorem storeSequence_storesOnly (memory : TracedMemory Address Value)
    (target : Nat → Address) (values : Nat → Value) (count : Nat) :
    StoresOnly { address | ∃ index < count, address = target index } memory
      (memory.storeSequence target values count) := by
  apply StoresOnly.forUpTo
  intro index indexLt current
  exact store_storesOnly current (values index) ⟨index, indexLt, rfl⟩

/-- A sequence of stores to distinct addresses leaves each its own value. -/
theorem storeSequence_read (memory : TracedMemory Address Value)
    {target : Nat → Address} (values : Nat → Value) {count : Nat}
    (distinct : ∀ first < count, ∀ second < count,
      target first = target second → first = second)
    {index : Nat} (indexLt : index < count) :
    (memory.storeSequence target values count).read (target index) =
      values index := by
  induction count with
  | zero => omega
  | succ count ih =>
      rw [storeSequence_succ, store_read]
      by_cases last : index = count
      · subst last
        simp
      · have different : target index ≠ target count := fun same =>
          last (distinct index indexLt count (Nat.lt_succ_self count) same)
        rw [if_neg different]
        apply ih
        · intro first firstLt second secondLt
          exact distinct first (by omega) second (by omega)
        · omega

/-- The trace of a sequence of stores lists its targets, the latest first. -/
theorem storeSequence_stores (memory : TracedMemory Address Value)
    (target : Nat → Address) (values : Nat → Value) (count : Nat) :
    (memory.storeSequence target values count).stores =
      ((List.range count).map target).reverse ++ memory.stores := by
  induction count with
  | zero => rfl
  | succ count ih =>
      rw [storeSequence_succ, store_stores, ih, List.range_succ]
      simp

/-- The trace of a sequence of stores lists each of its targets. -/
theorem mem_storeSequence_stores (memory : TracedMemory Address Value)
    (target : Nat → Address) (values : Nat → Value) {count index : Nat}
    (indexLt : index < count) :
    target index ∈ (memory.storeSequence target values count).stores := by
  induction count with
  | zero => omega
  | succ count ih =>
      rw [storeSequence_succ, store_stores]
      by_cases last : index = count
      · simp [last]
      · exact List.mem_cons_of_mem _ (ih (by omega))

theorem storeSequence_add (memory : TracedMemory Address Value)
    (target : Nat → Address) (values : Nat → Value) (first count : Nat) :
    memory.storeSequence target values (first + count) =
      (memory.storeSequence target values first).storeSequence
        (fun index => target (first + index)) (fun index => values (first + index))
        count :=
  forUpTo_add first count _ memory

/-- Carry the values at `source 0`, ..., `source (count - 1)` over to the addresses
`target 0`, ..., `target (count - 1)`, one after the other. -/
def moveSequence (memory : TracedMemory Address Value) (target source : Nat → Address)
    (count : Nat) : TracedMemory Address Value :=
  forUpTo count
    (fun index current => current.store (target index) (current.read (source index)))
    memory

theorem moveSequence_succ (memory : TracedMemory Address Value)
    (target source : Nat → Address) (count : Nat) :
    memory.moveSequence target source (count + 1) =
      (memory.moveSequence target source count).store (target count)
        ((memory.moveSequence target source count).read (source count)) :=
  rfl

theorem moveSequence_add (memory : TracedMemory Address Value)
    (target source : Nat → Address) (first count : Nat) :
    memory.moveSequence target source (first + count) =
      (memory.moveSequence target source first).moveSequence
        (fun index => target (first + index)) (fun index => source (first + index))
        count :=
  forUpTo_add first count _ memory

/-- Only the addresses at the indices below the count matter. -/
theorem moveSequence_congr (memory : TracedMemory Address Value)
    {target source otherTarget otherSource : Nat → Address} {count : Nat}
    (sameTarget : ∀ index < count, target index = otherTarget index)
    (sameSource : ∀ index < count, source index = otherSource index) :
    memory.moveSequence target source count =
      memory.moveSequence otherTarget otherSource count := by
  apply forUpTo_congr
  intro index indexLt current
  rw [sameTarget index indexLt, sameSource index indexLt]

/-- A move that reads no address behind its own store carries the values over that were
there before it. -/
theorem moveSequence_eq_storeSequence (memory : TracedMemory Address Value)
    {target source : Nat → Address} {count : Nat}
    (ahead : ∀ first second, first < second → second < count →
      target first ≠ source second) :
    memory.moveSequence target source count =
      memory.storeSequence target (fun index => memory.read (source index)) count := by
  induction count with
  | zero => rfl
  | succ count ih =>
      have unstored : (memory.storeSequence target
          (fun index => memory.read (source index)) count).read (source count) =
          memory.read (source count) := by
        apply (storeSequence_storesOnly memory target _ count).read_eq
        rintro ⟨index, indexLt, same⟩
        exact ahead index count indexLt (Nat.lt_succ_self count) same.symm
      rw [moveSequence_succ, storeSequence_succ,
        ih fun first second before below =>
          ahead first second before (Nat.lt_succ_of_lt below), unstored]

/-- Copy `count` values from `src` on to `dest` on, one after the other. -/
def copyRange (memory : TracedMemory Nat Value) (dest src count : Nat) :
    TracedMemory Nat Value :=
  forUpTo count
    (fun index current => current.store (dest + index) (current.read (src + index)))
    memory

theorem copyRange_succ (memory : TracedMemory Nat Value) (dest src count : Nat) :
    memory.copyRange dest src (count + 1) =
      (memory.copyRange dest src count).store (dest + count)
        ((memory.copyRange dest src count).read (src + count)) :=
  rfl

theorem copyRange_storesOnly (memory : TracedMemory Nat Value) (dest src count : Nat) :
    StoresOnly { address | dest ≤ address ∧ address < dest + count } memory
      (memory.copyRange dest src count) := by
  apply StoresOnly.forUpTo
  intro index indexLt current
  apply store_storesOnly
  exact ⟨Nat.le_add_right dest index, by omega⟩

/-- Between disjoint ranges, a copy carries every value over. -/
theorem copyRange_read (memory : TracedMemory Nat Value) {dest src count index : Nat}
    (disjoint : dest + count ≤ src ∨ src + count ≤ dest) (indexLt : index < count) :
    (memory.copyRange dest src count).read (dest + index) =
      memory.read (src + index) := by
  induction count with
  | zero => omega
  | succ count ih =>
      rw [copyRange_succ, store_read]
      by_cases last : index = count
      · subst last
        rw [if_pos rfl]
        apply (memory.copyRange_storesOnly dest src index).read_eq
        simp only [Set.mem_ofPred_eq, not_and]
        omega
      · rw [if_neg (by omega)]
        exact ih (by omega) (by omega)

end TracedMemory
