import ChapOS.CStrings
import ChapOS.TracedMemory

/-!
# The command line of `execute`

The loop at the start of `execute` copies the first word of the command into
`file_name_command` and the second into `arg_command`.  Both arrays are taken as
unbounded memories that remember where they were stored to.
-/

namespace ChapOS

open CountedLoops

@[simp] abbrev maxNameSize : Nat := 10
@[simp] abbrev maxArgSize : Nat := 100

/-- The locals of the parsing loop; a point that holds -1 is `none`. -/
structure ParseState where
  i : Nat
  nameStartingPoint : Option Nat
  nameEndingPoint : Option Nat
  argStartingPoint : Option Nat
  argEndingPoint : Option Nat
  fileNameCommand : TracedMemory Nat UInt8
  argCommand : TracedMemory Nat UInt8

/-- How the parsing loop is left: at the NUL, by its `break` or by its
`return -1`. -/
inductive ParseExit where
  | endOfCommand
  | argSpace
  | refused
  deriving DecidableEq, Repr

/-- An array of NULs. -/
def clearedArray (size : Nat) : TracedMemory Nat UInt8 :=
  forUpTo size (fun i array => array.store i 0) ⟨fun _ => 0, []⟩

/-- The locals before the loop. -/
def ParseState.initial : ParseState where
  i := 0
  nameStartingPoint := none
  nameEndingPoint := none
  argStartingPoint := none
  argEndingPoint := none
  fileNameCommand := clearedArray maxNameSize
  argCommand := clearedArray maxArgSize

/-- The body of the parsing loop for the character `command[i]`. -/
def ParseState.step (state : ParseState) (character : UInt8) :
    ParseState × Option ParseExit :=
  match state.nameStartingPoint with
  | none =>
      if character = 0x20 then ({ state with i := state.i + 1 }, none)
      else ({ state with nameStartingPoint := some state.i }, none)
  | some nameStart =>
      match state.nameEndingPoint with
      | none =>
          if character ≠ 0x20 then
            ({ state with
                fileNameCommand :=
                  state.fileNameCommand.store (state.i - nameStart) character
                i := state.i + 1 }, none)
          else
            ({ state with
                nameEndingPoint := some state.i
                fileNameCommand :=
                  state.fileNameCommand.store (state.i - nameStart) 0 }, none)
      | some _ =>
          match state.argStartingPoint with
          | none =>
              if character = 0x20 then ({ state with i := state.i + 1 }, none)
              else ({ state with argStartingPoint := some state.i }, none)
          | some argStart =>
              if state.argEndingPoint = none then
                if character ≠ 0x20 then
                  ({ state with
                      argCommand := state.argCommand.store (state.i - argStart)
                        character
                      i := state.i + 1 }, none)
                else
                  ({ state with
                      argEndingPoint := some state.i
                      argCommand := state.argCommand.store (state.i - argStart) 0 },
                    some .argSpace)
              else (state, some .refused)

/-- The parsing loop, for at most `fuel` iterations. -/
def parseLoop (command : CString) : Nat → ParseState → ParseState × ParseExit
  | 0, state => (state, .endOfCommand)
  | fuel + 1, state =>
      if command state.i = 0 then (state, .endOfCommand)
      else
        let next := state.step (command state.i)
        match next.2 with
        | none => parseLoop command fuel next.1
        | some exit => (next.1, exit)

/-- The parsing loop on a command given by the bytes before its NUL; no
character takes more than two iterations. -/
def parseCommand (command : List UInt8) : ParseState × ParseExit :=
  parseLoop (cString command) (2 * command.length + 1) .initial

end ChapOS
