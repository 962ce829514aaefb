import Mathlib

/-! # Burst

`Burst` collects packets for a while and then forwards them all at once.  Its name
for forwarding packets as they come is sleeping.  Every timer that it arms calls
`init` again, which turns to the other phase.
-/

namespace ShapingRouter

/-- `Burst`, with packets `π`.  Durations are in milliseconds; `timers` are the pending
timers with what they were armed for. -/
structure Burst (π : Type) where
  queue : List π := []
  burstDur : Int := 0
  sleepDur : Int := 10
  sleeping : Bool := false
  timers : List Int := []

namespace Burst
variable {π : Type}

def setBurstDuration (f : Burst π) (dur : Int) : Burst π := { f with burstDur := dur }
def setSleepDuration (f : Burst π) (sleep : Int) : Burst π := { f with sleepDur := sleep }
def startSleeping (f : Burst π) : Burst π := { f with sleeping := true }
def stopSleeping (f : Burst π) : Burst π := { f with sleeping := false }

/-- `init`, and the packets that it forwards. -/
def init (f : Burst π) : Burst π × List π :=
  if f.sleeping then ({ f with sleeping := false, timers := f.timers ++ [f.burstDur] }, [])
  else
    ({ f with queue := [], sleeping := true, timers := f.timers ++ [f.sleepDur] }, f.queue)

/-- The `k`th pending timer expires. -/
def timeout (f : Burst π) (k : Nat) : Option (Burst π × List π) :=
  if k < f.timers.length then some { f with timers := f.timers.eraseIdx k }.init else none

/-- `handlePacket`, and the packets that it forwards. -/
def handlePacket (f : Burst π) (pkt : π) : Burst π × List π :=
  if f.sleeping then (f, [pkt]) else ({ f with queue := f.queue ++ [pkt] }, [])

/-- What the filter holds. -/
def held (f : Burst π) : Multiset π := f.queue

theorem held_init (f : Burst π) : f.init.1.held + f.init.2 = f.held := by
  unfold init
  split
  · simp [held]
  · simp [held]

theorem held_timeout {f : Burst π} {k : Nat} {r : Burst π × List π} (h : f.timeout k = some r) :
    r.1.held + r.2 = f.held := by
  obtain ⟨_, h⟩ := Option.ite_none_right_eq_some.mp h
  obtain rfl := Option.some.inj h
  exact held_init _

theorem held_handlePacket (f : Burst π) (pkt : π) :
    (f.handlePacket pkt).1.held + (f.handlePacket pkt).2 = f.held + {pkt} := by
  unfold handlePacket
  split
  · simp
  · simp [held, ← Multiset.coe_add]

end Burst
end ShapingRouter
