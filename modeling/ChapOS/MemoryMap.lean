/-!
# The memory map

Addresses that the headers of the kernel agree on.
-/

namespace ChapOS

/-- `VIDEO`. -/
@[simp] abbrev video : Nat := 0xB8000

/-- `USER_IMG_START`. -/
@[simp] abbrev userImgStart : Nat := 0x8000000

/-- `USER_IMG_END`. -/
@[simp] abbrev userImgEnd : Nat := 0x8400000

/-- `PROG_IMAGE_VADDR`. -/
@[simp] abbrev progImageVaddr : Nat := 0x08048000

/-- `TERM_VIR_ADDR`. -/
@[simp] abbrev termVirAddr : Nat := 0x08401000

/-- `TERM_PHY_ADDR`. -/
@[simp] abbrev termPhyAddr : Nat := 0x01C00000

/-- `NUM_TERM`. -/
@[simp] abbrev numTerm : Nat := 3

/-- `PAGE_8MB`. -/
@[simp] abbrev page8MB : Nat := 0x800000

/-- `STACK_8KB`. -/
@[simp] abbrev stack8KB : Nat := 0x2000

/-- `PCB_MASK`. -/
@[simp] abbrev pcbMask : Nat := 0xFFFFE000

end ChapOS
