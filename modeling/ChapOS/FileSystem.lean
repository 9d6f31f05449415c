import ChapOS.CStrings
import ChapOS.TracedMemory

/-!
# The file system of `file_sys_module.c`

The image is read in place: a boot block with the directory, one block for
each inode and the data blocks, all found by address arithmetic from the start
of the module.
-/

namespace ChapOS

@[simp] abbrev fileNameSize : Nat := 32
@[simp] abbrev maxDentryNum : Nat := 63
@[simp] abbrev dataBlockSize : Nat := 4096
@[simp] abbrev minReadElfSize : Nat := 4

/-- The fields of `dentry_t` that are used. -/
structure Dentry where
  fileName : CString
  fileType : Nat
  inodeNum : Nat

/-- Memory as the file system reads it, with the start of the module. -/
structure FileSystem where
  mem : Nat → UInt8
  fileSysStart : Nat

namespace FileSystem

/-- The `uint32_t` stored at an address. -/
def word (fs : FileSystem) (address : Nat) : Nat :=
  (fs.mem address).toNat + 0x100 * (fs.mem (address + 1)).toNat +
    0x10000 * (fs.mem (address + 2)).toNat +
    0x1000000 * (fs.mem (address + 3)).toNat

/-- `boot_block_ptr->num_inodes`. -/
def numInodes (fs : FileSystem) : Nat :=
  fs.word (fs.fileSysStart + 4)

/-- `boot_block_ptr->num_data_blocks`. -/
def numDataBlocks (fs : FileSystem) : Nat :=
  fs.word (fs.fileSysStart + 8)

/-- `inode_start`. -/
def inodeStart (fs : FileSystem) : Nat :=
  (fs.fileSysStart + dataBlockSize) % 2 ^ 32

/-- `data_block_start`. -/
def dataBlockStart (fs : FileSystem) : Nat :=
  (fs.fileSysStart + (1 + fs.numInodes) * dataBlockSize) % 2 ^ 32

/-- The address of `boot_block_ptr->dir_entries[index]`: the entries of 64
bytes follow the first 64 bytes of the boot block. -/
def dirEntry (fs : FileSystem) (index : Nat) : Nat :=
  fs.fileSysStart + 64 + 64 * index

/-- `boot_block_ptr->dir_entries[index].file_name`. -/
def entryName (fs : FileSystem) (index : Nat) : CString :=
  fun i => fs.mem (fs.dirEntry index + i)

/-- `boot_block_ptr->dir_entries[index].file_type`. -/
def entryType (fs : FileSystem) (index : Nat) : Nat :=
  fs.word (fs.dirEntry index + fileNameSize)

/-- `boot_block_ptr->dir_entries[index].inode_num`. -/
def entryInode (fs : FileSystem) (index : Nat) : Nat :=
  fs.word (fs.dirEntry index + fileNameSize + 4)

/-- The loop of `read_dentry_by_name` from entry `i`, with `remaining` entries
to go. -/
def searchByName (fs : FileSystem) (fname : CString) (dentry : Dentry) :
    Nat → Nat → Int × Dentry
  | 0, _ => (-1, dentry)
  | remaining + 1, i =>
      if strncmp fname (fs.entryName i) fileNameSize = 0 then
        (0,
          { fileName := strncpy dentry.fileName fname fileNameSize
            fileType := fs.entryType i
            inodeNum := fs.entryInode i })
      else searchByName fs fname dentry remaining (i + 1)

/-- `read_dentry_by_name`. -/
def readDentryByName (fs : FileSystem) (fname : CString) (dentry : Dentry) :
    Int × Dentry :=
  fs.searchByName fname dentry maxDentryNum 0

/-- `read_dentry_by_index`. -/
def readDentryByIndex (fs : FileSystem) (index : Nat) (dentry : Dentry) :
    Int × Dentry :=
  if maxDentryNum ≤ index then (-1, dentry)
  else if fs.entryName index 0 = 0 then (-1, dentry)
  else
    (0,
      { fileName := strncpy dentry.fileName (fs.entryName index) fileNameSize
        fileType := fs.entryType index
        inodeNum := fs.entryInode index })

/-- The address of an inode block. -/
def inodePtr (fs : FileSystem) (inode : Nat) : Nat :=
  (fs.inodeStart + inode * dataBlockSize) % 2 ^ 32

/-- The `length` field of an inode. -/
def inodeLength (fs : FileSystem) (inode : Nat) : Nat :=
  fs.word (fs.inodePtr inode)

/-- The `data_block[index]` field of an inode. -/
def dataBlock (fs : FileSystem) (inode index : Nat) : Nat :=
  fs.word (fs.inodePtr inode + 4 + 4 * index)

/-- `data_block_start + data_block[index] * DATA_BLOCK_SIZE`. -/
def blockAddress (fs : FileSystem) (inode index : Nat) : Nat :=
  (fs.dataBlockStart + fs.dataBlock inode index * dataBlockSize) % 2 ^ 32

/-- The locals of the copy loop of `read_data`, and the memory it copies into. -/
structure ReadCursor (Memory : Type) where
  i : Nat
  curBlockIndex : Nat
  locCurBlockIndex : Nat
  curDataBlock : Nat
  memory : Memory

section ReadData

-- `assign i source` is the effect of `buf[i] = *source` on the memory of `buf`.
variable {Memory : Type} (fs : FileSystem) (assign : Nat → Nat → Memory → Memory)

/-- The body of the copy loop. -/
def readByte (inode : Nat) (cursor : ReadCursor Memory) : ReadCursor Memory :=
  let placed : ReadCursor Memory :=
    if cursor.locCurBlockIndex = dataBlockSize then
      { cursor with
        curBlockIndex := cursor.curBlockIndex + 1
        locCurBlockIndex := 0
        curDataBlock := fs.blockAddress inode (cursor.curBlockIndex + 1) }
    else cursor
  let readDataAddr := (placed.curDataBlock + placed.locCurBlockIndex) % 2 ^ 32
  { placed with
    i := placed.i + 1
    locCurBlockIndex := placed.locCurBlockIndex + 1
    memory := assign placed.i readDataAddr placed.memory }

/-- The copy loop, with `remaining` indices left below `length`. -/
def readLoop (inode offset : Nat) : Nat → ReadCursor Memory → ReadCursor Memory
  | 0, cursor => cursor
  | remaining + 1, cursor =>
      if (cursor.i + offset) % 2 ^ 32 ≤ fs.inodeLength inode then
        readLoop inode offset remaining (fs.readByte assign inode cursor)
      else cursor

/-- `read_data`. -/
def readData (inode offset : Nat) (memory : Memory) (length : Nat) :
    Int × Memory :=
  if fs.numInodes ≤ inode then (-1, memory)
  else if fs.inodeLength inode ≤ offset then (0, memory)
  else
    let curBlockIndex := offset / dataBlockSize
    let finished := fs.readLoop assign inode offset length
      { i := 0
        curBlockIndex := curBlockIndex
        locCurBlockIndex := offset % dataBlockSize
        curDataBlock := fs.blockAddress inode curBlockIndex
        memory := memory }
    (finished.i, finished.memory)

end ReadData

/-- `buf[i] = *source` for a buffer of the caller. -/
def assignBuffer (fs : FileSystem) (i source : Nat)
    (buf : TracedMemory Nat UInt8) : TracedMemory Nat UInt8 :=
  buf.store i (fs.mem source)

/-- A file of an image to be laid out. -/
structure ImageFile where
  name : List UInt8
  fileType : Nat
  length : Nat

/-- Byte `k` of a little-endian word. -/
def littleEndian (value k : Nat) : UInt8 :=
  UInt8.ofNat (value / 256 ^ k)

/-- The boot block of an image. -/
def bootBlockByte (files : List ImageFile) (position : Nat) : UInt8 :=
  if position < 4 then littleEndian files.length position
  else if position < 8 then littleEndian files.length (position - 4)
  else if position < 12 then littleEndian 1 (position - 8)
  else if position < 64 then 0
  else
    match files[(position - 64) / 64]? with
    | none => 0
    | some file =>
        let field := (position - 64) % 64
        if field < 32 then file.name.getD field 0
        else if field < 36 then littleEndian file.fileType (field - 32)
        else if field < 40 then littleEndian ((position - 64) / 64) (field - 36)
        else 0

/-- An image whose files have one inode each, in order, and all repeat its only
data block. -/
def ofFiles (start : Nat) (files : List ImageFile) (block : List UInt8) :
    FileSystem where
  fileSysStart := start
  mem address :=
    let position := address - start
    let offset := position % dataBlockSize
    if position < dataBlockSize then bootBlockByte files position
    else
      match files[position / dataBlockSize - 1]? with
      | none => block.getD offset 0
      | some file => if offset < 4 then littleEndian file.length offset else 0

/-- `get_file_size`. -/
def getFileSize (fs : FileSystem) (inodeNum : Nat) : Nat :=
  fs.inodeLength inodeNum

end FileSystem

end ChapOS
