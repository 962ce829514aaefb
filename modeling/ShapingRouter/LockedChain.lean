import Mathlib
import ShapingRouter.BucketQueue
import ShapingRouter.FilterChain
import ShapingRouter.NatBox
import ShapingRouter.OutputStage
import ShapingRouter.Router

/-! # A chain of filters with its threads and its locks

`FilterChain` lets the calls of several threads take turns in any order.  Here the
threads also take the locks, and hold them as the code does: `TokenBucket::trySend` and
the flush of `Burst::init` call the filters behind while they hold their mutex, and a
delay filter asks for the next packet only when the call for the last one has come back.

A thread is a stack of frames, what it has still to do next on top.  Thread 0 is the
packet thread, which takes a new packet when it has nothing left to do; each timer and
each posted call begins a thread of its own.  A step is one frame, up to the next call of
`handlePacket` or to the next lock.  `Nat::handlePacket` up to its forwarding is one step,
and so is an operation of an `AsyncQueue`.

The chain is that of either mode.  Packets are numbered in the order in which they come.
-/

namespace ShapingRouter
open Library

/-! ## Filters, locks and frames -/

/-- The filters of a chain. -/
inductive RouterFilter
  | input
  | inputDrop
  | shaping (f : ShapingFilter)
  | nat (n : NatBox)
  | output
  | outputLibnet (stage : OutputStage PacketPtr)

namespace RouterFilter

/-- The class of a filter. -/
def cls : RouterFilter → FilterClass
  | input => .Input
  | inputDrop => .InputDrop
  | shaping (.loss _) => .Loss
  | shaping (.burst _) => .Burst
  | shaping (.staticDelay _) => .StaticDelay
  | shaping (.dynamicDelay _) => .DynamicDelay
  | shaping (.dynamicLoss _) => .DynamicLoss
  | shaping (.tokenBucketFilter _) => .TokenBucketFilter
  | nat _ => .Nat
  | output => .Output
  | outputLibnet _ => .OutputLibnet

/-- The filters that the `filters` option may list. -/
def Listed : RouterFilter → Prop
  | shaping _ | nat _ => True
  | input | inputDrop | output | outputLibnet _ => False

end RouterFilter

/-- The mutex of a `Burst`, or of one bucket of a `TokenBucketFilter`: the position of the
filter, and the direction of the bucket. -/
structure ChainLock where
  filter : Nat
  isIngoing : Bool
  deriving DecidableEq, Repr

/-- The mutex of a `Burst`. -/
def ChainLock.ofBurst (i : Nat) : ChainLock := ⟨i, false⟩

/-- What a thread has still to do in the filter at a position: `handlePacket`; the locked
push of `Burst::handlePacket`; `Burst::init`, its flush, and what follows the flush;
the locked sections of a bucket, the end of its `trySend`, and the timer that `run`
arms; the `asyncPop` of a delay filter, once its packet is forwarded. -/
inductive ChainFrame
  | handle (i : Nat) (p : PacketPtr)
  | push (i : Nat) (p : PacketPtr)
  | init (i : Nat)
  | flush (i : Nat)
  | flushed (i : Nat)
  | refill (i : Nat) (isIngoing : Bool) (diff : UInt64)
  | trySend (i : Nat) (isIngoing : Bool)
  | unlock (i : Nat) (isIngoing : Bool)
  | rearm (i : Nat) (isIngoing : Bool)
  | asyncPop (i : Nat)
  deriving DecidableEq, Repr

namespace ChainFrame

/-- The position of the filter. -/
def filter : ChainFrame → Nat
  | handle i _ | push i _ | init i | flush i | flushed i => i
  | refill i _ _ | trySend i _ | unlock i _ | rearm i _ | asyncPop i => i

/-- The lock that a thread holds which has the frame still to do. -/
def holds : ChainFrame → Option ChainLock
  | flushed i => some (.ofBurst i)
  | unlock i isIngoing => some ⟨i, isIngoing⟩
  | _ => none

/-- The packets that a frame carries. -/
def carried : ChainFrame → List PacketPtr
  | handle _ p | push _ p => [p]
  | _ => []

end ChainFrame

namespace TokenBucketFilter
variable {π : Type}

/-- The filter with another bucket in one direction. -/
def setBucket (f : TokenBucketFilter π) (isIngoing : Bool) (b : TokenBucket π) :
    TokenBucketFilter π :=
  (f.onBucket isIngoing (b, [])).1

end TokenBucketFilter

namespace DelayLine
variable {π : Type}

/-- The `k`th pending timer expires.  What is left of its handler is to forward the
packet, and `asyncPop`. -/
def expire (l : DelayLine π) (k : Nat) : Option (DelayLine π × π) :=
  match l.timers[k]? with
  | some (pkt, _) => some ({ l with timers := l.timers.eraseIdx k }, pkt)
  | none => none

end DelayLine

/-! ## The machine -/

/-- A chain, the packets, and the threads.  `headers` has what a `Packet` has besides its
`ParentPacket`; the rest of the record is not read there. -/
structure LockedChain where
  filters : List RouterFilter
  pool : PacketPool
  headers : PacketPtr → Packet
  threads : List (List ChainFrame)

/-- What begins on a thread of the pool: a posted call, or a timer.  The clock shows `now`
or the readings, and `run` is what became of a run of `popHandler` in the output stage,
which libnet decides. -/
inductive PoolTask
  | popHandler (k now : Nat)
  | timeout (k now : Nat)
  | delayPopHandler (k : Nat)
  | delayTimeout (k : Nat)
  | run (isIngoing : Bool) (k : Nat) (reads : TokenBucketFilter.Readings)
  | popOutput (k : Nat) (d : Delivery PacketPtr) (run : PopRun)

/-- What happens: a packet comes; thread `t` does its next frame, in which a filter that
draws draws `r`; a task begins in the filter at `i`. -/
inductive LockedEvent
  | arrive (pkt : Packet)
  | run (t : Nat) (frame : ChainFrame) (r : ℚ) (now : Nat)
  | task (i : Nat) (task : PoolTask)

namespace LockedChain

/-- No thread holds the lock. -/
def Free (s : LockedChain) (lock : ChainLock) : Prop :=
  ∀ stack ∈ s.threads, ∀ frame ∈ stack, frame.holds ≠ some lock

instance (s : LockedChain) (lock : ChainLock) : Decidable (s.Free lock) :=
  inferInstanceAs (Decidable (∀ stack ∈ s.threads, ∀ frame ∈ stack, frame.holds ≠ some lock))

def setFilter (s : LockedChain) (i : Nat) (f : RouterFilter) : LockedChain :=
  { s with filters := s.filters.set i f }

def setShaping (s : LockedChain) (i : Nat) (f : ShapingFilter) : LockedChain :=
  s.setFilter i (.shaping f)

/-- The packet, as `dynamic_pointer_cast<Packet>` has it. -/
def packet (s : LockedChain) (p : PacketPtr) : Option Packet :=
  (s.pool.packets.objects p).map fun parent => { s.headers p with toParentPacket := parent }

/-- The NAT has rewritten the packet. -/
def rewrite (s : LockedChain) (p : PacketPtr) (pkt : Packet) : LockedChain :=
  { s with
    pool := { s.pool with packets := s.pool.packets.modify p fun _ => pkt.toParentPacket }
    headers := Function.update s.headers p pkt }

/-- `handlePacket` of the filter at `i`: the state afterwards, and what the thread has to
do next.  `none` where a lock is not free. -/
def handle (s : LockedChain) (r : ℚ) (now i : Nat) (p : PacketPtr) :
    RouterFilter → Option (LockedChain × List ChainFrame)
  | .input => some (s, [.handle (i + 1) p])
  | .inputDrop => some ({ s with pool := s.pool.setVerdict p false }, [.handle (i + 1) p])
  | .shaping (.burst f) => some (s, [if f.sleeping then .handle (i + 1) p else .push i p])
  | .shaping (.tokenBucketFilter f) =>
    let d := s.pool.isIngoing p
    if s.Free ⟨i, d⟩ then
      some (s.setShaping i (.tokenBucketFilter (f.setBucket d ((f.bucket d).enqueue r p))),
        [.trySend i d])
    else none
  | .shaping f =>
    let o := f.handlePacket s.pool r p
    some ({ s.setShaping i o.filter with pool := o.pool }, o.forwarded.map (.handle (i + 1)))
  | .nat n =>
    match s.packet p with
    | some pkt =>
      (n.step now pkt).map fun o =>
        match o.2 with
        | some pkt' => ((s.setFilter i (.nat o.1)).rewrite p pkt', [.handle (i + 1) p])
        | none => (s.setFilter i (.nat o.1), [])
    | none => none
  | .output => some ({ s with pool := s.pool.setVerdict p true }, [])
  | .outputLibnet stage => some (s.setFilter i (.outputLibnet (stage.onQueue (·.push p))), [])

/-- The next frame of a thread: the state afterwards, and the frames that take its place.
`none` where the thread waits for a lock. -/
def runFrame (s : LockedChain) (r : ℚ) (now : Nat) (frame : ChainFrame) :
    Option (LockedChain × List ChainFrame) :=
  match frame, s.filters[frame.filter]? with
  | .handle i p, some f => s.handle r now i p f
  | .push i p, some (.shaping (.burst f)) =>
    -- whatever `sleeping_` is by now
    if s.Free (.ofBurst i) then
      some (s.setShaping i (.burst { f with queue := f.queue ++ [p] }), [])
    else none
  | .init i, some (.shaping (.burst f)) =>
    if f.sleeping then
      some (s.setShaping i (.burst
        { f with sleeping := false, timers := f.timers ++ [f.burstDur] }), [])
    else some (s, [.flush i])
  | .flush i, some (.shaping (.burst f)) =>
    -- the code clears the buffer after the last call, but nobody sees it before the unlock
    if s.Free (.ofBurst i) then
      some (s.setShaping i (.burst { f with queue := [] }),
        f.queue.map (.handle (i + 1)) ++ [.flushed i])
    else none
  | .flushed i, some (.shaping (.burst f)) =>
    some (s.setShaping i (.burst { f with sleeping := true, timers := f.timers ++ [f.sleepDur] }), [])
  | .refill i d diff, some (.shaping (.tokenBucketFilter f)) =>
    if s.Free ⟨i, d⟩ then
      some (s.setShaping i (.tokenBucketFilter (f.setBucket d ((f.bucket d).refill diff))), [])
    else none
  | .trySend i d, some (.shaping (.tokenBucketFilter f)) =>
    if s.Free ⟨i, d⟩ then
      let o := (f.bucket d).trySend s.pool.getPacketLen
      some (s.setShaping i (.tokenBucketFilter (f.setBucket d o.1)),
        o.2.map (.handle (i + 1)) ++ [.unlock i d])
    else none
  | .unlock _ _, some (.shaping (.tokenBucketFilter _)) => some (s, [])
  | .rearm i d, some (.shaping (.tokenBucketFilter f)) =>
    let b := f.bucket d
    some (s.setShaping i (.tokenBucketFilter
      (f.setBucket d { b with timers := b.timers ++ [TokenBucket.tokenInterval] })), [])
  | .asyncPop i, some (.shaping (.staticDelay f)) =>
    some (s.setShaping i (.staticDelay { f with toDelayLine := f.toDelayLine.asyncPop }), [])
  | .asyncPop i, some (.shaping (.dynamicDelay f)) =>
    some (s.setShaping i (.dynamicDelay { f with toDelayLine := f.toDelayLine.asyncPop }), [])
  | _, _ => none

/-- A task begins in the filter at `i`: the state afterwards, and the frames of its
thread. -/
def beginTask (s : LockedChain) (i : Nat) (task : PoolTask) :
    Option (LockedChain × List ChainFrame) :=
  match s.filters[i]?, task with
  | some (.shaping (.staticDelay f)), .popHandler k now =>
    (f.popHandler (s.pool.age now) k).map fun f => (s.setShaping i (.staticDelay f), [])
  | some (.shaping (.dynamicDelay f)), .popHandler k now =>
    (f.popHandler (s.pool.age now) k).map fun f => (s.setShaping i (.dynamicDelay f), [])
  | some (.shaping (.staticDelay f)), .timeout k now =>
    (f.toDelayLine.expire k).map fun o =>
      ({ s.setShaping i (.staticDelay { f with toDelayLine := o.1 }) with
        pool := s.pool.resetTimeStamp o.2 now }, [.handle (i + 1) o.2, .asyncPop i])
  | some (.shaping (.dynamicDelay f)), .timeout k now =>
    (f.toDelayLine.expire k).map fun o =>
      ({ s.setShaping i (.dynamicDelay { f with toDelayLine := o.1 }) with
        pool := s.pool.resetTimeStamp o.2 now }, [.handle (i + 1) o.2, .asyncPop i])
  | some (.shaping (.dynamicDelay f)), .delayPopHandler k =>
    (f.delayPopHandler k).map fun f => (s.setShaping i (.dynamicDelay f), [])
  | some (.shaping (.dynamicDelay f)), .delayTimeout k =>
    (f.delayTimeout k).map fun f => (s.setShaping i (.dynamicDelay f), [])
  | some (.shaping (.dynamicLoss f)), .timeout k _ =>
    (f.handleTimeout k).map fun f => (s.setShaping i (.dynamicLoss f), [])
  | some (.shaping (.burst f)), .timeout k _ =>
    if k < f.timers.length then
      some (s.setShaping i (.burst { f with timers := f.timers.eraseIdx k }), [.init i])
    else none
  | some (.shaping (.tokenBucketFilter f)), .run d k reads =>
    let b := f.bucket d
    if k < b.timers.length then
      some (s.setShaping i (.tokenBucketFilter
          (f.setBucket d { b with timers := b.timers.eraseIdx k, timerStart := reads.second })),
        [.refill i d (reads.first - b.timerStart), .trySend i d, .rearm i d])
    else none
  | some (.outputLibnet stage), .popOutput k d run =>
    if stage.posted[k]? = some (.popHandler, d) then
      let after := stage.afterRun k run
      some (s.setFilter i (.outputLibnet
        (if run.rearmed then after.onQueue (·.asyncPop .popHandler) else after)), [])
    else none
  | _, _ => none

/-- One step. -/
def step (s : LockedChain) : LockedEvent → Option LockedChain
  | .arrive pkt =>
    -- the packet thread takes the next packet when the last call has come back
    if pkt.verdictSet = false ∧ s.threads[0]? = some [] then
      some { s with
        pool := s.pool.add pkt.toParentPacket
        headers := Function.update s.headers s.pool.packets.next pkt
        threads := s.threads.set 0 [.handle 0 s.pool.packets.next] }
    else none
  | .run t frame r now =>
    match s.threads[t]? with
    | some (next :: rest) =>
      if next = frame then
        (s.runFrame r now frame).map fun o =>
          { o.1 with threads := o.1.threads.set t (o.2 ++ rest) }
      else none
    | _ => none
  | .task i task =>
    (s.beginTask i task).map fun o => { o.1 with threads := o.1.threads ++ [o.2] }

/-! ## Runs -/

/-- The filters that `main` puts around the listed ones. -/
def wrap (acceptMode : Bool) (L : List RouterFilter) (stage : OutputStage PacketPtr) :
    List RouterFilter :=
  if acceptMode then .input :: L ++ [.output] else .inputDrop :: L ++ [.outputLibnet stage]

end LockedChain

/-- The filter as `initFilters` leaves it: it holds nothing, and where it consumes a queue
its callback is registered. -/
def RouterFilter.Started : RouterFilter → Prop
  | shaping (.burst f) => f.queue = []
  | shaping (.staticDelay f) => f.toDelayLine = DelayLine.new.asyncPop
  | shaping (.dynamicDelay f) => f.toDelayLine = DelayLine.new.asyncPop
  | shaping (.tokenBucketFilter f) => f.inTb.queue = [] ∧ f.outTb.queue = []
  | outputLibnet stage => ∃ handle, stage = (OutputStage.uninit [] handle).init
  | _ => True

/-- The timers are pending that `init` leaves pending. -/
def RouterFilter.Armed : RouterFilter → Prop
  | shaping (.burst f) => f.timers ≠ []
  | shaping (.tokenBucketFilter f) => ∀ d, (f.bucket d).timers ≠ []
  | _ => True

namespace LockedChain

/-- A chain whose filters are started, before the first packet. -/
structure Starts (acceptMode : Bool) (L : List RouterFilter) (s : LockedChain) : Prop where
  filters : ∃ stage, s.filters = wrap acceptMode L stage
  listed : ∀ f ∈ L, f.Listed
  started : ∀ f ∈ s.filters, f.Started
  pool : s.pool = .empty
  threads : s.threads = [[]]

/-- The runs of the chain that `main` builds of the filters `L`. -/
abbrev Runs (acceptMode : Bool) (L : List RouterFilter) : List LockedEvent → LockedChain → Prop :=
  Run (fun s e s' => s.step e = some s') (Starts acceptMode L)

end LockedChain
end ShapingRouter
