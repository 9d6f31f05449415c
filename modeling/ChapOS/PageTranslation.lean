import ChapOS.Paging
import Mathlib.Tactic.IntervalCases

/-!
# What the page tables translate to

The mappings in force are few: the kernel page, the video page, the image page
of one process, the user-level video page and the backing page of one
terminal.  Here the tables are shown to represent exactly these mappings, so
that a walk of any 32-bit address can be read off them.
-/

namespace ChapOS

open CountedLoops

/-- The calls that change mappings once paging is initialised. -/
inductive MappingCall where
  | mapUserImgPage (processId : Int)
  | mapTermVID (termId : Nat)
  | newUserVIDPage

/-- The user-level mappings in force: the last accepted process, whether the
video page has been mapped, and the last accepted terminal. -/
structure Mappings where
  image : Option Nat
  video : Bool
  terminal : Option Nat

namespace Mappings

/-- No user-level page is mapped. -/
def initial : Mappings :=
  ⟨none, false, none⟩

/-- The mappings after a call; arguments out of range are rejected. -/
def call (mappings : Mappings) : MappingCall → Mappings
  | .mapUserImgPage processId =>
      if 0 ≤ processId ∧ processId ≤ 6 then
        { mappings with image := some processId.toNat }
      else mappings
  | .mapTermVID termId =>
      if termId < 3 then { mappings with terminal := some termId } else mappings
  | .newUserVIDPage => { mappings with video := true }

/-- The translation of a 32-bit address. -/
def translate (mappings : Mappings) (linear : Nat) :
    Option PageWalk.Translation :=
  if 0x400000 ≤ linear ∧ linear < 0x800000 then
    some ⟨linear, true, false⟩
  else if 0xB8000 ≤ linear ∧ linear < 0xB9000 then
    some ⟨linear, true, false⟩
  else if 0x08000000 ≤ linear ∧ linear < 0x08400000 then
    mappings.image.map fun p =>
      ⟨(p + 2) * 0x400000 + (linear - 0x08000000), true, true⟩
  else if 0x08400000 ≤ linear ∧ linear < 0x08401000 then
    if mappings.video then
      some ⟨0xB8000 + (linear - 0x08400000), true, true⟩
    else none
  else if 0x08401000 ≤ linear ∧ linear < 0x08402000 then
    mappings.terminal.map fun t =>
      ⟨0x01C00000 + t * 4096 + (linear - 0x08401000), true, true⟩
  else none

end Mappings

/-- A call is rejected when its argument is out of range. -/
def MappingCall.Rejected : MappingCall → Prop
  | .mapUserImgPage processId => processId < 0 ∨ 6 < processId
  | .mapTermVID termId => 3 ≤ termId
  | .newUserVIDPage => False

namespace Paging

/-- The tables after a call, with `new_userVID_page` called as in `vidmap`. -/
def call (layout : KernelLayout) (paging : Paging) : MappingCall → Paging
  | .mapUserImgPage processId => (paging.mapUserImgPage processId).1
  | .mapTermVID termId => (paging.mapTermVID layout termId).1
  | .newUserVIDPage => paging.newUserVIDPage layout userImgEnd

/-- The entry `page_dir[0x21]` and the entries below it represent the user
video page and the terminal page. -/
structure Represents (layout : KernelLayout) (paging : Paging)
    (mappings : Mappings) : Prop where
  low : paging.pageDir 0 = layout.pageTableAddr ||| 3
  kernel : paging.pageDir 1 = 0x400000 ||| 0x83
  image : paging.pageDir 0x20 =
    match mappings.image with
    | none => 0
    | some p => userImgEntry p
  userTable : paging.pageDir 0x21 =
    if mappings.video = true ∨ mappings.terminal.isSome = true then
      layout.userPageTableAddr ||| 7
    else 0
  otherDir : ∀ index < 1024, index ≠ 0 → index ≠ 1 → index ≠ 0x20 →
    index ≠ 0x21 → paging.pageDir index = 0
  screen : paging.pageTable 0xB8 = 0xB8000 ||| 3
  otherTable : ∀ index < 1024, index ≠ 0xB8 → paging.pageTable index = 0
  userVideo : paging.userPageTable 0 =
    if mappings.video then 0xB8000 ||| 7 else 0
  userTerminal : paging.userPageTable 1 =
    match mappings.terminal with
    | none => 0
    | some t => (0x01C00000 + t * 4096) ||| 7
  otherUser : ∀ index < 1024, index ≠ 0 → index ≠ 1 →
    paging.userPageTable index = 0
  terminal_lt : ∀ t ∈ mappings.terminal, t < 3

variable {layout : KernelLayout} {paging : Paging} {mappings : Mappings}

/-- Masking a 4KB-aligned 32-bit address with `HI_PTE_MASK` keeps it. -/
theorem and_hiPteMask {address : Nat} (aligned : 2 ^ 12 ∣ address)
    (bounded : address < 2 ^ 32) : address &&& hiPteMask = address := by
  obtain ⟨frame, rfl⟩ := aligned
  have maskEq : hiPteMask = 2 ^ 12 * (2 ^ 20 - 1) := by decide
  have frameLt : frame < 2 ^ 20 := by omega
  apply Nat.eq_of_testBit_eq
  intro bit
  rw [maskEq, Nat.testBit_and, Nat.testBit_two_pow_mul, Nat.testBit_two_pow_mul,
    Nat.testBit_two_pow_sub_one]
  by_cases inFrame : bit - 12 < 20
  · simp only [inFrame, decide_true, Bool.and_true]
    cases decide (12 ≤ bit) <;> simp
  · have clear : frame.testBit (bit - 12) = false :=
      Nat.testBit_lt_two_pow (Nat.lt_of_lt_of_le frameLt
        (Nat.pow_le_pow_right (by omega) (by omega)))
    simp [clear]

theorem userImgEntry_eq (processId : Nat) :
    userImgEntry processId = (processId + 2) * 0x400000 ||| 0x87 := by
  have frame : (processId + 2) * pde8MBPhy / 2 = (processId + 2) * 0x400000 := by
    simp only [pde8MBPhy]
    omega
  rw [userImgEntry, frame, Nat.lor_assoc, Nat.lor_assoc]
  rfl

theorem represents_initializePaging (layout : KernelLayout) (paging : Paging) :
    (paging.initializePaging layout).Represents layout Mappings.initial := by
  have masked := and_hiPteMask layout.pageTable_aligned layout.pageTable_lt
  have dirClear (index : Nat) (indexLt : index < 1024) :
      paging.clearTables.pageDir index = 0 := by
    simp [clearTables, forUpTo_assign, indexLt]
  have tableClear (index : Nat) (indexLt : index < 1024) :
      paging.clearTables.pageTable index = 0 := by
    simp [clearTables, forUpTo_assign, indexLt]
  have userClear (index : Nat) (indexLt : index < 1024) :
      paging.clearTables.userPageTable index = 0 := by
    simp [clearTables, forUpTo_assign, indexLt]
  refine
    { low := ?_
      kernel := ?_
      image := ?_
      userTable := ?_
      otherDir := ?_
      screen := ?_
      otherTable := ?_
      userVideo := ?_
      userTerminal := ?_
      otherUser := ?_
      terminal_lt := by simp [Mappings.initial] }
  · simp only [initializePaging, setPageDir, setPageTable]
    rw [Function.update_of_ne (by decide), Function.update_self, masked,
      Nat.lor_assoc]
    rfl
  · simp only [initializePaging, setPageDir, setPageTable]
    rw [Function.update_self, Function.update_of_ne (by decide),
      dirClear 1 (by decide)]
    rfl
  · simp [initializePaging, setPageDir, setPageTable, dirClear, Mappings.initial]
  · simp [initializePaging, setPageDir, setPageTable, dirClear, Mappings.initial]
  · intro index indexLt notZero notOne _ _
    simp [initializePaging, setPageDir, setPageTable, notZero, notOne,
      dirClear index indexLt]
  · simp [initializePaging, setPageDir, setPageTable]
  · intro index indexLt notVideo
    simp [initializePaging, setPageDir, setPageTable, notVideo,
      tableClear index indexLt]
  · simp [initializePaging, setPageDir, setPageTable, userClear, Mappings.initial]
  · simp [initializePaging, setPageDir, setPageTable, userClear, Mappings.initial]
  · intro index indexLt _ _
    simp [initializePaging, setPageDir, setPageTable, userClear index indexLt]

/-- A rejected call leaves the tables alone. -/
theorem call_of_rejected (layout : KernelLayout) (paging : Paging)
    {mappingCall : MappingCall} (rejected : mappingCall.Rejected) :
    paging.call layout mappingCall = paging := by
  cases mappingCall with
  | mapUserImgPage processId =>
      have outside : (maxUserImage : Int) < processId ∨ processId < 0 := by
        simp only [MappingCall.Rejected, maxUserImage] at rejected ⊢
        omega
      simp only [call, mapUserImgPage]
      rw [if_pos outside]
  | mapTermVID termId =>
      simp only [call, mapTermVID]
      rw [if_pos (show numTerm ≤ termId from rejected)]
  | newUserVIDPage => exact rejected.elim

theorem mappings_call_of_rejected {mappingCall : MappingCall}
    (rejected : mappingCall.Rejected) : mappings.call mappingCall = mappings := by
  cases mappingCall with
  | mapUserImgPage processId =>
      simp only [MappingCall.Rejected] at rejected
      simp only [Mappings.call]
      rw [if_neg (by omega)]
  | mapTermVID termId =>
      simp only [MappingCall.Rejected] at rejected
      simp only [Mappings.call]
      rw [if_neg (by omega)]
  | newUserVIDPage => exact rejected.elim

private theorem Represents.mapUserImgPage_call (represents : paging.Represents layout mappings)
    {processId : Int} (accepted : ¬(MappingCall.mapUserImgPage processId).Rejected) :
    (paging.call layout (.mapUserImgPage processId)).Represents layout
      (mappings.call (.mapUserImgPage processId)) := by
  simp only [MappingCall.Rejected] at accepted
  simp only [Paging.call, mapUserImgPage, Mappings.call]
  rw [if_neg (by simp only [maxUserImage]; omega), if_pos (by omega)]
  exact
    { represents with
      low := by simpa [setPageDir] using represents.low
      kernel := by simpa [setPageDir] using represents.kernel
      image := by simp [setPageDir]
      userTable := by simpa [setPageDir] using represents.userTable
      otherDir := by
        intro index indexLt notZero notOne notImage notUser
        simpa [setPageDir, notImage] using
          represents.otherDir index indexLt notZero notOne notImage notUser }

private theorem Represents.mapTermVID_call (represents : paging.Represents layout mappings)
    {termId : Nat} (accepted : ¬(MappingCall.mapTermVID termId).Rejected) :
    (paging.call layout (.mapTermVID termId)).Represents layout
      (mappings.call (.mapTermVID termId)) := by
  simp only [MappingCall.Rejected] at accepted
  simp only [Paging.call, mapTermVID, Mappings.call]
  rw [if_neg (by simp only [numTerm]; omega), if_pos (by omega)]
  have dirIndex : termVirAddr >>> msb10Bits = 0x21 := by decide
  have userIndex : (termVirAddr >>> mid10Bits) &&& mask10Bits = 1 := by decide
  rw [dirIndex, userIndex]
  exact
    { represents with
      low := by simpa [setPageDir, setUserPageTable] using represents.low
      kernel := by
        simpa [setPageDir, setUserPageTable] using represents.kernel
      image := by simpa [setPageDir, setUserPageTable] using represents.image
      userTable := by simp [setPageDir, setUserPageTable]
      otherDir := by
        intro index indexLt notZero notOne notImage notUser
        simpa [setPageDir, setUserPageTable, notUser] using
          represents.otherDir index indexLt notZero notOne notImage notUser
      userVideo := by
        simpa [setPageDir, setUserPageTable] using represents.userVideo
      userTerminal := by simp [setPageDir, setUserPageTable]
      otherUser := by
        intro index indexLt notZero notOne
        simpa [setPageDir, setUserPageTable, notOne] using
          represents.otherUser index indexLt notZero notOne
      terminal_lt := by
        intro t member
        simp only [Option.mem_def, Option.some.injEq] at member
        omega }

private theorem Represents.newUserVIDPage_call
    (represents : paging.Represents layout mappings) :
    (paging.call layout .newUserVIDPage).Represents layout
      (mappings.call .newUserVIDPage) := by
  simp only [Paging.call, newUserVIDPage, Mappings.call]
  have dirIndex : userImgEnd >>> msb10Bits = 0x21 := by decide
  have userIndex : (userImgEnd >>> mid10Bits) &&& mask10Bits = 0 := by decide
  rw [dirIndex, userIndex]
  exact
    { represents with
      low := by simpa [setPageDir, setUserPageTable] using represents.low
      kernel := by
        simpa [setPageDir, setUserPageTable] using represents.kernel
      image := by simpa [setPageDir, setUserPageTable] using represents.image
      userTable := by simp [setPageDir, setUserPageTable]
      otherDir := by
        intro index indexLt notZero notOne notImage notUser
        simpa [setPageDir, setUserPageTable, notUser] using
          represents.otherDir index indexLt notZero notOne notImage notUser
      userVideo := by simp [setPageDir, setUserPageTable]
      userTerminal := by
        simpa [setPageDir, setUserPageTable] using represents.userTerminal
      otherUser := by
        intro index indexLt notZero notOne
        simpa [setPageDir, setUserPageTable, notZero] using
          represents.otherUser index indexLt notZero notOne }

/-- Every call keeps the tables in step with the mappings. -/
theorem Represents.call (represents : paging.Represents layout mappings)
    (mappingCall : MappingCall) :
    (paging.call layout mappingCall).Represents layout
      (mappings.call mappingCall) := by
  by_cases rejected : mappingCall.Rejected
  · rw [call_of_rejected layout paging rejected, mappings_call_of_rejected rejected]
    exact represents
  · cases mappingCall with
    | mapUserImgPage processId => exact represents.mapUserImgPage_call rejected
    | mapTermVID termId => exact represents.mapTermVID_call rejected
    | newUserVIDPage => exact represents.newUserVIDPage_call

/-- Addresses of the first 4MB: only the video page is present. -/
private theorem Represents.walk_low (represents : paging.Represents layout mappings)
    {linear : Nat} (low : PageWalk.directoryIndex linear = 0) :
    paging.walk layout linear = mappings.translate linear := by
  have split := PageWalk.linear_eq linear
  have tableLt := PageWalk.tableIndex_lt linear
  have entry : (paging.tables layout).directory (PageWalk.directoryIndex linear) =
      layout.pageTableAddr ||| 3 := by
    rw [low]
    exact represents.low
  rw [Paging.walk, PageWalk.walk_of_table paging.pageTable entry
    layout.pageTable_aligned (by decide) (by decide) (by decide)
    (by simp [Paging.tables])]
  by_cases screen : PageWalk.tableIndex linear = 0xB8
  · rw [screen, represents.screen, if_pos (by decide),
      PageWalk.frameBase_or (by decide) (by decide)]
    have placed : 0xB8000 + linear % 2 ^ 12 = linear := by omega
    rw [placed, Mappings.translate, if_neg (by omega), if_pos (by omega)]
    rfl
  · rw [represents.otherTable _ tableLt screen, if_neg (by decide),
      Mappings.translate, if_neg (by omega), if_neg (by omega), if_neg (by omega),
      if_neg (by omega), if_neg (by omega)]

/-- Addresses of the kernel page. -/
private theorem Represents.walk_kernel
    (represents : paging.Represents layout mappings) {linear : Nat}
    (kernel : PageWalk.directoryIndex linear = 1) :
    paging.walk layout linear = mappings.translate linear := by
  have split := PageWalk.linear_eq linear
  have tableLt := PageWalk.tableIndex_lt linear
  have entry : (paging.tables layout).directory (PageWalk.directoryIndex linear) =
      0x400000 ||| 0x83 := by
    rw [kernel]
    exact represents.kernel
  rw [Paging.walk, PageWalk.walk_of_large entry (by decide) (by decide) (by decide)
    (by decide), Mappings.translate, if_pos (by omega)]
  have placed : 0x400000 + linear % 2 ^ 22 = linear := by omega
  rw [placed]
  rfl

/-- Once `mapUserImgPage` has mapped it, the image page is walked alike whatever the
other entries hold. -/
theorem mapUserImgPage_walk (layout : KernelLayout) (paging : Paging) {id linear : Nat}
    (idLe : id ≤ 6) (inPage : 0x08000000 ≤ linear ∧ linear < 0x08400000) :
    (paging.mapUserImgPage id).1.walk layout linear =
      some ⟨(id + 2) * 0x400000 + (linear - 0x08000000), true, true⟩ := by
  have split := PageWalk.linear_eq linear
  have tableLt := PageWalk.tableIndex_lt linear
  have image : PageWalk.directoryIndex linear = 0x20 := by omega
  have accepted : ¬((maxUserImage : Int) < id ∨ (id : Int) < 0) := by
    simp only [maxUserImage]
    omega
  have entry : ((paging.mapUserImgPage id).1.tables layout).directory
      (PageWalk.directoryIndex linear) = (id + 2) * 0x400000 ||| 0x87 := by
    rw [image, mapUserImgPage, if_neg accepted, ← userImgEntry_eq, Int.toNat_natCast]
    simp [tables, setPageDir]
  rw [Paging.walk, PageWalk.walk_of_large entry (by omega) (by decide) (by decide)
    (by decide)]
  have placed : linear % 2 ^ 22 = linear - 0x08000000 := by omega
  rw [placed]
  rfl

/-- Addresses of the image page. -/
private theorem Represents.walk_image
    (represents : paging.Represents layout mappings) {linear : Nat}
    (image : PageWalk.directoryIndex linear = 0x20) :
    paging.walk layout linear = mappings.translate linear := by
  have split := PageWalk.linear_eq linear
  have tableLt := PageWalk.tableIndex_lt linear
  have entry : (paging.tables layout).directory (PageWalk.directoryIndex linear) =
      match mappings.image with
      | none => 0
      | some p => userImgEntry p := by
    rw [image]
    exact represents.image
  rw [Mappings.translate, if_neg (by omega), if_neg (by omega), if_pos (by omega)]
  cases running : mappings.image with
  | none =>
      simp only [running] at entry
      rw [Paging.walk, PageWalk.walk_of_absent (by rw [entry]; rfl)]
      rfl
  | some p =>
      simp only [running, userImgEntry_eq] at entry
      rw [Paging.walk, PageWalk.walk_of_large entry (by omega) (by decide)
        (by decide) (by decide)]
      have placed : linear % 2 ^ 22 = linear - 0x08000000 := by omega
      rw [placed]
      rfl

/-- Addresses above the image page: the user-level video page and the page of
the last terminal. -/
private theorem Represents.walk_user
    (represents : paging.Represents layout mappings) {linear : Nat}
    (user : PageWalk.directoryIndex linear = 0x21) :
    paging.walk layout linear = mappings.translate linear := by
  have split := PageWalk.linear_eq linear
  have tableLt := PageWalk.tableIndex_lt linear
  have entry : (paging.tables layout).directory (PageWalk.directoryIndex linear) =
      if mappings.video = true ∨ mappings.terminal.isSome = true then
        layout.userPageTableAddr ||| 7
      else 0 := by
    rw [user]
    exact represents.userTable
  rw [Mappings.translate, if_neg (by omega), if_neg (by omega), if_neg (by omega)]
  by_cases mapped : mappings.video = true ∨ mappings.terminal.isSome = true
  · rw [if_pos mapped] at entry
    have walked := PageWalk.walk_of_table paging.userPageTable entry
      layout.userPageTable_aligned (by decide) (by decide) (by decide)
      (by simp [Paging.tables, layout.distinct])
    rw [Paging.walk, walked]
    by_cases first : PageWalk.tableIndex linear = 0
    · have placed : linear % 2 ^ 12 = linear - 0x08400000 := by omega
      rw [first, represents.userVideo, placed,
        if_pos (show 0x08400000 ≤ linear ∧ linear < 0x08401000 by omega)]
      cases mappings.video with
      | false =>
          rw [if_neg Bool.false_ne_true, if_neg Bool.false_ne_true,
            if_neg (by decide)]
      | true =>
          rw [if_pos rfl, if_pos rfl, if_pos (by decide),
            PageWalk.frameBase_or (by decide) (by decide)]
          rfl
    · rw [if_neg (show ¬(0x08400000 ≤ linear ∧ linear < 0x08401000) by omega)]
      by_cases second : PageWalk.tableIndex linear = 1
      · have placed : linear % 2 ^ 12 = linear - 0x08401000 := by omega
        rw [second, represents.userTerminal, placed,
          if_pos (show 0x08401000 ≤ linear ∧ linear < 0x08402000 by omega)]
        cases backing : mappings.terminal with
        | none => rfl
        | some t =>
            have aligned : 2 ^ 12 ∣ 0x01C00000 + t * 4096 := by omega
            have bitEq (bit : Nat) (bitLt : bit < 12) :=
              PageWalk.testBit_or_of_aligned 7 aligned bitLt
            simp only [PageWalk.present, PageWalk.writable, PageWalk.userLevel,
              bitEq 0 (by decide), bitEq 1 (by decide), bitEq 2 (by decide),
              PageWalk.frameBase_or aligned (show 7 < 2 ^ 12 by decide)]
            rfl
      · rw [if_neg (show ¬(0x08401000 ≤ linear ∧ linear < 0x08402000) by omega),
          represents.otherUser _ tableLt first second, if_neg (by decide)]
  · rw [if_neg mapped] at entry
    rw [Paging.walk, PageWalk.walk_of_absent (by rw [entry]; rfl)]
    simp only [not_or, Bool.not_eq_true, Option.isSome_eq_false_iff,
      Option.isNone_iff_eq_none] at mapped
    simp [mapped.1, mapped.2]

/-- The tables translate a 32-bit address as the mappings they represent. -/
theorem Represents.walk_eq (represents : paging.Represents layout mappings)
    {linear : Nat} (linearLt : linear < 2 ^ 32) :
    paging.walk layout linear = mappings.translate linear := by
  by_cases low : PageWalk.directoryIndex linear = 0
  · exact represents.walk_low low
  by_cases kernel : PageWalk.directoryIndex linear = 1
  · exact represents.walk_kernel kernel
  by_cases image : PageWalk.directoryIndex linear = 0x20
  · exact represents.walk_image image
  by_cases user : PageWalk.directoryIndex linear = 0x21
  · exact represents.walk_user user
  have split := PageWalk.linear_eq linear
  have tableLt := PageWalk.tableIndex_lt linear
  have entry : (paging.tables layout).directory (PageWalk.directoryIndex linear) =
      0 :=
    represents.otherDir _ (by omega) low kernel image user
  rw [Paging.walk, PageWalk.walk_of_absent (by rw [entry]; rfl),
    Mappings.translate, if_neg (by omega), if_neg (by omega), if_neg (by omega),
    if_neg (by omega), if_neg (by omega)]

/-- A sequence of calls keeps the tables in step with the mappings. -/
theorem Represents.calls (represents : paging.Represents layout mappings)
    (mappingCalls : List MappingCall) :
    (mappingCalls.foldl (Paging.call layout) paging).Represents layout
      (mappingCalls.foldl Mappings.call mappings) := by
  induction mappingCalls generalizing paging mappings with
  | nil => exact represents
  | cons mappingCall rest ih => exact ih (represents.call mappingCall)

end Paging

/-- After any calls made since `initialize_paging`, every 32-bit address
translates as the last accepted arguments say, and a call with a rejected
argument changes no translation. -/
theorem page_tables_translate (layout : KernelLayout) (paging : Paging)
    (mappingCalls : List MappingCall) {linear : Nat} (linearLt : linear < 2 ^ 32) :
    let mapped := mappingCalls.foldl (Paging.call layout)
      (paging.initializePaging layout)
    mapped.walk layout linear =
        (mappingCalls.foldl Mappings.call Mappings.initial).translate linear ∧
      ∀ rejected : MappingCall, rejected.Rejected →
        (mapped.call layout rejected).walk layout linear =
          mapped.walk layout linear := by
  intro mapped
  have represents :=
    (Paging.represents_initializePaging layout paging).calls mappingCalls
  refine ⟨represents.walk_eq linearLt, ?_⟩
  intro rejected isRejected
  rw [Paging.call_of_rejected layout mapped isRejected]

/-- Process 3 is mapped, then terminal 1 and the video page: the first image
byte lies in the fifth 4MB of memory. -/
theorem page_tables_translate_image :
    ([MappingCall.mapUserImgPage 3, .mapTermVID 1, .newUserVIDPage].foldl
        (Paging.call lowLayout)
        (Paging.initializePaging lowLayout
          ⟨fun _ => 0, fun _ => 0, fun _ => 0⟩)).walk lowLayout progImageVaddr =
      some ⟨0x01448000, true, true⟩ :=
  (page_tables_translate _ _ _ (by decide)).1

end ChapOS
