import Mathlib

/-! # The loss filters

`Loss` and `DynamicLoss` draw a random number for each packet and drop the packet if
the number is below the loss in force.  The draw and the losses are `float`s in the
code, which are rational numbers, and nothing is done with them but comparing.
`DynamicLoss` goes round a list of losses, each in force for its time.  They hold no
packets.
-/

namespace ShapingRouter

/-- `Loss`. -/
structure Loss where
  loss : ℚ := 0
  deriving DecidableEq, Repr

namespace Loss

def setLoss (_f : Loss) (loss : ℚ) : Loss := ⟨loss⟩

/-- Whether `handlePacket` drops the packet, having drawn `r`. -/
def drops (f : Loss) (r : ℚ) : Bool := decide (r < f.loss)

end Loss

/-- `DynamicLoss`.  `timers` are the pending timers, with what they were armed for in
milliseconds. -/
structure DynamicLoss where
  currentLoss : ℚ
  currentIndex : Nat
  times : List Int
  losses : List ℚ
  timers : List Int
  deriving DecidableEq, Repr

namespace DynamicLoss

/-- The constructor.  It leaves `currentLoss_` and `currentIndex_` as they are. -/
def new (currentLoss : ℚ) (currentIndex : Nat) : DynamicLoss :=
  ⟨currentLoss, currentIndex, [1], [0], []⟩

/-- `setLosses`: it answers whether it took the lists. -/
def setLosses (f : DynamicLoss) (times : List Int) (losses : List ℚ) : DynamicLoss × Bool :=
  if times.length ≠ losses.length then (f, false)
  else ({ f with times := times, losses := losses }, true)

/-- The loss at `i` comes into force, and the timer is armed for its time.  Reading
past the end, which the code leaves undefined, gives 0. -/
def enter (f : DynamicLoss) (i : Nat) : DynamicLoss :=
  { f with
    currentLoss := f.losses.getD i 0
    currentIndex := i
    timers := f.timers ++ [f.times.getD i 0 * 1000] }

def init (f : DynamicLoss) : DynamicLoss := f.enter 0

/-- `handleTimeout`, called by the `k`th pending timer. -/
def handleTimeout (f : DynamicLoss) (k : Nat) : Option DynamicLoss :=
  if k < f.timers.length then
    let next := f.currentIndex + 1
    some ({ f with timers := f.timers.eraseIdx k }.enter (if next ≥ f.losses.length then 0 else next))
  else none

/-- Whether `handlePacket` drops the packet, having drawn `r`. -/
def drops (f : DynamicLoss) (r : ℚ) : Bool := decide (r < f.currentLoss)

end DynamicLoss
end ShapingRouter
