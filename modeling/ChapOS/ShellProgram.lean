import ChapOS.LineDiscipline
import ChapOS.ProgramCalls

/-!
# The shell

The shell reads a line from the terminal, executes it and says how that went, until the
line is `exit`.  Whatever is typed that fits the arrays of `execute`, and whatever the
programs do that it starts, it stays at its prompt with the descriptors it had.
-/

namespace ChapOS

open WhileLoops

section Program

variable {World : Type} (calls : SystemCalls World)
  (execute : World → CString → Option (World × Int))

/-- What the shell says about the value of `ece391_execute`. -/
def shellReport (world : World) (rval : Int) : World :=
  if rval = -1 then calls.ece391Fdputs world 1 (literal "no such command\n")
  else if rval = 256 then
    calls.ece391Fdputs world 1 (literal "program terminated by exception\n")
  else if rval ≠ 0 then
    calls.ece391Fdputs world 1 (literal "program terminated abnormally\n")
  else world

/-- The loop of `main` in `ece391shell.c`, with `buf` beside the world. -/
def shellTurn (state : World × CString) : Turn (World × CString) (World × Int) :=
  let prompted := calls.ece391Fdputs state.1 1 (literal "391OS> ")
  let done := calls.read prompted 0 state.2 1023
  if done.2.1 = -1 then
    .exit (calls.ece391Fdputs done.1 1 (literal "read from keyboard failed\n"), 3)
  else
    let cnt :=
      if 0 < done.2.1 ∧ done.2.2 (done.2.1 - 1).toNat = newLine then done.2.1 - 1
      else done.2.1
    let buf := Function.update done.2.2 cnt.toNat 0
    if ece391Strcmp buf (literal "exit") = 0 then .exit (done.1, 0)
    else if buf 0 = 0 then .next (done.1, buf)
    else
      Turn.after (execute done.1 buf) fun ran =>
        .next (shellReport calls ran.1 ran.2, buf)

/-- `main` of `ece391shell.c`. -/
def shell (turns : Nat) (world : World) (buf : CString) : Option (World × Int) :=
  runFor (shellTurn calls execute) turns
    (calls.ece391Fdputs world 1 (literal "Starting 391 Shell\n"), buf)

end Program

/-- The bytes of a string literal. -/
def literalBytes (text : String) : List UInt8 :=
  text.toList.map fun c => UInt8.ofNat c.toNat

/-- What the shell prints for the value of a command. -/
def shellReply (rval : Int) : List UInt8 :=
  if rval = -1 then literalBytes "no such command\n"
  else if rval = 256 then literalBytes "program terminated by exception\n"
  else if rval ≠ 0 then literalBytes "program terminated abnormally\n"
  else []

section Lines

/-- What `keyboard_read` hands out: the characters of the key buffer up to its NUL, and
nothing if the buffer is full. -/
def Tty.lineRead (tty : Tty) : List UInt8 :=
  if (characters tty.line 128).length < 128 then characters tty.line 128 else []

/-- A line without the newline it ends in, if there is one. -/
def chomped (line : List UInt8) : List UInt8 :=
  if line.getLast? = some newLine then line.dropLast else line

end Lines

namespace Session

variable {layout : KernelLayout} {fs : FileSystem} {around : Surroundings}
  {session ready after : Session} {k : Nat}

/-- The line that a call is given to read, as the shell takes it. -/
def typedLine (around : Surroundings) (call : Nat) : List UInt8 :=
  chomped (around.woken call).lineRead

/-- What the shell is given to read behind its next prompt, which takes one call. -/
def commandLine (around : Surroundings) (session : Session) : List UInt8 :=
  typedLine around (session.calls + 1)

/-- The shell has prompted and has a command in its buffer. -/
structure ReadsCommand (layout : KernelLayout) (k : Nat) (session : Session)
    (line : List UInt8) (ready : Session) (command : CString) : Prop where
  same : SameProcess layout k session ready
  pcb : ready.pcb = session.pcb
  shown : ready.shown = session.shown ++ literalBytes "391OS> "
  spells : Spells command line
  short : line.length < 128

theorem hasStdout_of_hasTerminal (terminal : session.pcb.HasTerminal) : session.HasStdout :=
  ⟨terminal.stdout.1, terminal.stdout.2⟩

/-- A turn of the shell as its user sees it: the line, what the command printed, and its
value unless the line was empty. -/
structure Exchange where
  line : List UInt8
  printed : List UInt8
  value : Option Int

def Exchange.transcript (exchange : Exchange) : List UInt8 :=
  literalBytes "391OS> " ++ exchange.printed ++ exchange.value.elim [] shellReply

/-- The shell has gone through some exchanges: each line is the one that was typed, and
each command that was not empty has been executed. -/
inductive Conversation (layout : KernelLayout) (fs : FileSystem) (around : Surroundings)
    (k : Nat) (runsTo : Nat → Session → Session × Ending → Prop) :
    Session → List Exchange → Session → Prop
  | start (session : Session) : Conversation layout fs around k runsTo session [] session
  | blank {session ready after : Session} {command : CString} {exchanges : List Exchange}
      (reads : ReadsCommand layout k session (commandLine around session) ready command)
      (isBlank : commandLine around session = [])
      (rest : Conversation layout fs around k runsTo ready exchanges after) :
      Conversation layout fs around k runsTo session (⟨[], [], none⟩ :: exchanges) after
  | command {session ready ran after : Session} {command : CString} {value : Int}
      {printed : List UInt8} {exchanges : List Exchange}
      (reads : ReadsCommand layout k session (commandLine around session) ready command)
      (notExit : commandLine around session ≠ literalBytes "exit")
      (notBlank : commandLine around session ≠ [])
      (called : Called layout fs around k runsTo ready command ran value)
      (prints : ran.shown = ready.shown ++ printed)
      (rest : Conversation layout fs around k runsTo
        (shellReport (systemCalls fs around) ran value) exchanges after) :
      Conversation layout fs around k runsTo session
        (⟨commandLine around session, printed, some value⟩ :: exchanges) after

/-- How a number of turns of the shell can come out: it is still at its prompt, or it has
read `exit` and returned 0. -/
structure Serves (layout : KernelLayout) (fs : FileSystem) (around : Surroundings) (k : Nat)
    (runsTo : Nat → Session → Session × Ending → Prop) (session : Session) (turns : Nat)
    (result : Option (Session × Int)) (exchanges : List Exchange) (after : Session) :
    Prop where
  conversation : Conversation layout fs around k runsTo session exchanges after
  same : SameProcess layout k session after
  pcb : after.pcb = session.pcb
  shown : after.shown = session.shown ++ exchanges.flatMap Exchange.transcript
  ends : result = none ∧ exchanges.length = turns ∨
    exchanges.length < turns ∧ commandLine around after = literalBytes "exit" ∧
      ∃ last, result = some (last, 0) ∧ SameProcess layout k session last ∧
        last.pcb = session.pcb ∧ last.shown = after.shown ++ literalBytes "391OS> "

/-- One exchange more before the others. -/
theorem Serves.cons {runsTo : Nat → Session → Session × Ending → Prop}
    {turns : Nat} {result : Option (Session × Int)} {exchange : Exchange}
    {exchanges : List Exchange}
    (serves : Serves layout fs around k runsTo ready turns result exchanges after)
    (conversation : Conversation layout fs around k runsTo session (exchange :: exchanges) after)
    (same : SameProcess layout k session ready) (pcb : ready.pcb = session.pcb)
    (shown : ready.shown = session.shown ++ exchange.transcript) :
    Serves layout fs around k runsTo session (turns + 1) result (exchange :: exchanges)
      after where
  conversation := conversation
  same := same.trans serves.same
  pcb := serves.pcb.trans pcb
  shown := by rw [serves.shown, shown, List.flatMap_cons, List.append_assoc]
  ends := by
    rcases serves.ends with ⟨unfinished, all⟩ | ⟨fewer, exits, last, done, ends, lastPcb, prompts⟩
    · exact Or.inl ⟨unfinished, congrArg (· + 1) all⟩
    · exact Or.inr ⟨Nat.succ_lt_succ fewer, exits, last, done, same.trans ends,
        lastPcb.trans pcb, prompts⟩

end Session

end ChapOS
