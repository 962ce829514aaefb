import Mathlib
import ShapingRouter.AsyncQueue
import ShapingRouter.Library.Holdings

/-! # The delay filters

`StaticDelay` and `DynamicDelay` treat a packet in the same way: it waits in a
queue for `popHandler`, which arms a timer with what is left of the delay; when the
timer expires, the packet is forwarded and `popHandler` asks for the next one.
`DelayLine` is this common part, for any type `π` of packets.  `StaticDelay` adds
the delay, and `DynamicDelay` adds the delay and the queue of delays that it goes
round.

Nobody closes the queue of a delay filter, and a `DelayLine` says so.  Times are in
microseconds.  `held` is what a filter holds, and no operation loses any of it.
-/

namespace ShapingRouter
open Library

/-- The callback that a delay filter registers for packets. -/
inductive DelayCallback
  | popHandler
  deriving DecidableEq, Repr

/-- The packets of a delay filter: in the queue, in posted calls of `popHandler`, and
in pending timers, each with the time it was armed for. -/
structure DelayLine (π : Type) where
  queue : AsyncQueue DelayCallback π
  posted : List (DelayCallback × Delivery π)
  timers : List (π × Int)
  isOpen : queue.Open

namespace DelayLine
variable {π : Type}

def new : DelayLine π := ⟨{}, [], [], rfl, rfl⟩

/-- `queue_.asyncPop` of `popHandler`. -/
def asyncPop (l : DelayLine π) : DelayLine π where
  queue := (l.queue.asyncPop .popHandler).1
  posted := l.posted ++ (l.queue.asyncPop .popHandler).2
  timers := l.timers
  isOpen := (AsyncQueue.asyncPop_open _).mpr l.isOpen

/-- `handlePacket`. -/
def handlePacket (l : DelayLine π) (pkt : π) : DelayLine π where
  queue := (l.queue.push pkt).1
  posted := l.posted ++ (l.queue.push pkt).2
  timers := l.timers
  isOpen := (AsyncQueue.push_open _).mpr l.isOpen

/-- The `k`th posted call of `popHandler` runs, with `delay_` as `delay`; `age` is the
time since a packet's time stamp. -/
def popHandler (l : DelayLine π) (delay : Int) (age : π → Int) (k : Nat) : Option (DelayLine π) :=
  match l.posted[k]? with
  | some (_, .ok pkt) =>
    let left := delay - age pkt
    some { l with
      posted := l.posted.eraseIdx k
      timers := l.timers ++ [(pkt, if left < 0 then 0 else left)] }
  | some (_, .stopped) => some { l with posted := l.posted.eraseIdx k }
  | none => none

/-- The `k`th pending timer expires: its packet is forwarded.  The next `asyncPop`
comes after the forwarding in the code, which does not touch this filter. -/
def timeout (l : DelayLine π) (k : Nat) : Option (DelayLine π × π) :=
  match l.timers[k]? with
  | some (pkt, _) => some ({ l with timers := l.timers.eraseIdx k }.asyncPop, pkt)
  | none => none

/-- The packet of a posted call. -/
def carried : DelayCallback × Delivery π → Multiset π
  | (_, .ok pkt) => {pkt}
  | (_, .stopped) => 0

/-- The packets that wait in the queue, in a posted call or in a pending timer. -/
def held (l : DelayLine π) : Multiset π :=
  l.queue.theQueue + holdings carried l.posted + holdings (fun t => {t.1}) l.timers

theorem holdings_carried (posted : List (DelayCallback × Delivery π)) :
    holdings carried posted = AsyncQueue.handedOver posted := by
  induction posted with
  | nil => rfl
  | cons p posted ih =>
    rw [holdings_cons, ih]
    rcases p with ⟨c, pkt | _⟩
    · rfl
    · exact zero_add _

theorem held_asyncPop (l : DelayLine π) : l.asyncPop.held = l.held := by
  have hdata := congrArg Multiset.ofList (l.queue.asyncPop_data DelayCallback.popHandler)
  rw [← Multiset.coe_add] at hdata
  simp only [held, asyncPop, holdings_append, holdings_carried] at hdata ⊢
  rw [← hdata]
  abel

theorem held_handlePacket (l : DelayLine π) (pkt : π) :
    (l.handlePacket pkt).held = l.held + {pkt} := by
  have hdata := congrArg Multiset.ofList (AsyncQueue.push_data l.isOpen pkt)
  rw [← Multiset.coe_add, ← Multiset.coe_add] at hdata
  simp only [held, handlePacket, holdings_append, holdings_carried] at hdata ⊢
  calc _ = (↑(AsyncQueue.handedOver (l.queue.push pkt).2) + ↑(l.queue.push pkt).1.theQueue) +
        ↑(AsyncQueue.handedOver l.posted) + holdings (fun t => {t.1}) l.timers := by abel
    _ = _ := by rw [hdata, Multiset.coe_singleton]; abel

theorem held_popHandler {l l' : DelayLine π} {delay : Int} {age : π → Int} {k : Nat}
    (h : l.popHandler delay age k = some l') : l'.held = l.held := by
  unfold popHandler at h
  split at h
  · rename_i c pkt hk
    obtain rfl := Option.some.inj h
    have hposted := holdings_eraseIdx carried hk
    simp only [held, holdings_append, holdings_cons, holdings_nil, ← hposted, carried]
    abel
  · rename_i c hk
    obtain rfl := Option.some.inj h
    have hposted := holdings_eraseIdx carried hk
    simp only [held, ← hposted, carried, add_zero]
  · cases h

theorem held_timeout {l l' : DelayLine π} {pkt : π} {k : Nat} (h : l.timeout k = some (l', pkt)) :
    l'.held + {pkt} = l.held := by
  unfold timeout at h
  split at h
  · rename_i pkt' d hk
    obtain ⟨rfl, rfl⟩ := Prod.mk.inj (Option.some.inj h)
    have htimers := holdings_eraseIdx (fun t : π × Int => {t.1}) hk
    rw [held_asyncPop]
    simp only [held, ← htimers]
    abel
  · cases h

end DelayLine

/-! ## The two filters -/

/-- `StaticDelay`. -/
structure StaticDelay (π : Type) extends DelayLine π where
  delay : Int

namespace StaticDelay
variable {π : Type}

/-- The constructor. -/
def new : StaticDelay π := { DelayLine.new with delay := 0 }

/-- `setDelay`, in milliseconds. -/
def setDelay (f : StaticDelay π) (delay : Int) : StaticDelay π := { f with delay := delay * 1000 }

def init (f : StaticDelay π) : StaticDelay π := { f with toDelayLine := f.asyncPop }

def handlePacket (f : StaticDelay π) (pkt : π) : StaticDelay π :=
  { f with toDelayLine := f.toDelayLine.handlePacket pkt }

def popHandler (f : StaticDelay π) (age : π → Int) (k : Nat) : Option (StaticDelay π) :=
  (f.toDelayLine.popHandler f.delay age k).map fun l => { f with toDelayLine := l }

def timeout (f : StaticDelay π) (k : Nat) : Option (StaticDelay π × π) :=
  (f.toDelayLine.timeout k).map fun r => ({ f with toDelayLine := r.1 }, r.2)

end StaticDelay

/-- The callback that `DynamicDelay` registers for delays. -/
inductive CurveCallback
  | delayPopHandler
  deriving DecidableEq, Repr

/-- `DynamicDelay`.  `curvePosted` are the posted calls of `delayPopHandler`, and
`curveTimers` its pending timers. -/
structure DynamicDelay (π : Type) extends DelayLine π where
  delay : Int
  delayQ : AsyncQueue CurveCallback Int
  curvePosted : List (CurveCallback × Delivery Int)
  curveTimers : List Int

namespace DynamicDelay
variable {π : Type}

/-- The constructor, and `setDelays`, which pushes the curve it computes, in
milliseconds, to `delayQ_`. -/
def new (curve : List Int) : DynamicDelay π :=
  { DelayLine.new with
    delay := 0, delayQ := { theQueue := curve }, curvePosted := [], curveTimers := [] }

/-- `int_`. -/
def interval : Int := 1000 * 1000

/-- `delayQ_.asyncPop` of `delayPopHandler`. -/
def awaitDelay (f : DynamicDelay π) : DynamicDelay π :=
  { f with
    delayQ := (f.delayQ.asyncPop .delayPopHandler).1
    curvePosted := f.curvePosted ++ (f.delayQ.asyncPop .delayPopHandler).2 }

def init (f : DynamicDelay π) : DynamicDelay π :=
  { f.awaitDelay with toDelayLine := f.asyncPop }

def handlePacket (f : DynamicDelay π) (pkt : π) : DynamicDelay π :=
  { f with toDelayLine := f.toDelayLine.handlePacket pkt }

/-- The `k`th posted call of `delayPopHandler` runs.  It does not look at its error
code; without data, the delay it is given is 0. -/
def delayPopHandler (f : DynamicDelay π) (k : Nat) : Option (DynamicDelay π) :=
  match f.curvePosted[k]? with
  | some (_, delivery) =>
    let d := match delivery with
      | .ok d => d
      | .stopped => 0
    some { f with
      delayQ := (f.delayQ.push d).1
      curvePosted := f.curvePosted.eraseIdx k ++ (f.delayQ.push d).2
      delay := d * 1000
      curveTimers := f.curveTimers ++ [interval] }
  | none => none

/-- The `k`th pending timer of `delayPopHandler` expires. -/
def delayTimeout (f : DynamicDelay π) (k : Nat) : Option (DynamicDelay π) :=
  if k < f.curveTimers.length then
    some { f with curveTimers := f.curveTimers.eraseIdx k }.awaitDelay
  else none

def popHandler (f : DynamicDelay π) (age : π → Int) (k : Nat) : Option (DynamicDelay π) :=
  (f.toDelayLine.popHandler f.delay age k).map fun l => { f with toDelayLine := l }

def timeout (f : DynamicDelay π) (k : Nat) : Option (DynamicDelay π × π) :=
  (f.toDelayLine.timeout k).map fun r => ({ f with toDelayLine := r.1 }, r.2)

/-- Delays and packets have nothing to do with each other. -/
theorem delayPopHandler_line {f f' : DynamicDelay π} {k : Nat}
    (h : f.delayPopHandler k = some f') : f'.toDelayLine = f.toDelayLine := by
  unfold delayPopHandler at h
  split at h
  · obtain rfl := Option.some.inj h
    rfl
  · cases h

theorem delayTimeout_line {f f' : DynamicDelay π} {k : Nat} (h : f.delayTimeout k = some f') :
    f'.toDelayLine = f.toDelayLine := by
  obtain ⟨_, h⟩ := Option.ite_none_right_eq_some.mp h
  obtain rfl := Option.some.inj h
  rfl

end DynamicDelay
end ShapingRouter
