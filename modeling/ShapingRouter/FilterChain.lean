import Mathlib
import ShapingRouter.Burst
import ShapingRouter.DelayFilters
import ShapingRouter.Library.Run
import ShapingRouter.Library.WeakTable
import ShapingRouter.LossFilters
import ShapingRouter.Packet
import ShapingRouter.TokenBucket

/-! # A chain of filters in accept mode

`Input`, any list of shaping filters, and `Output`.  Packets are shared objects, so the
filters hold pointers to them, and `PacketPool` has the packets and the calls of
`nfq_set_verdict` made for them.

`next_->handlePacket` is a call, and the calls that a thread has still to make are a
stack; what a filter forwards goes on top of it.  A thread starts with a packet that
comes in, or with a timer or a posted call of a filter.  A step is one call of
`handlePacket`, or the beginning of a thread, and the threads may take turns in any
order.  The locks of the filters are left out, which only adds orders.
-/

namespace ShapingRouter
open Library

/-- The verdicts that the filters give. -/
inductive NfVerdict
  | NF_DROP
  | NF_ACCEPT
  deriving DecidableEq, Repr

/-- `std::shared_ptr<ParentPacket>`. -/
abbrev PacketPtr := Nat

/-- The packets that came in, and the calls of `nfq_set_verdict`, the newest first:
the packet, the id given, and the verdict. -/
structure PacketPool where
  packets : Heap ParentPacket
  verdicts : List (PacketPtr × UInt32 × NfVerdict)

namespace PacketPool

def empty : PacketPool := ⟨Heap.empty, []⟩

/-- A packet comes in. -/
def add (w : PacketPool) (pkt : ParentPacket) : PacketPool :=
  { w with packets := w.packets.alloc pkt }

/-- `setVerdict`. -/
def setVerdict (w : PacketPool) (p : PacketPtr) (accept : Bool) : PacketPool :=
  match w.packets.objects p with
  | some pkt =>
    if pkt.verdictSet then w
    else
      { packets := w.packets.modify p fun pkt => { pkt with verdictSet := true }
        verdicts := (p, pkt.nfqID, if accept then .NF_ACCEPT else .NF_DROP) :: w.verdicts }
  | none => w

/-- `resetTimeStamp`. -/
def resetTimeStamp (w : PacketPool) (p : PacketPtr) (now : Nat) : PacketPool :=
  { w with packets := w.packets.modify p fun pkt => { pkt with stamp := now } }

/-- `isIngoing`. -/
def isIngoing (w : PacketPool) (p : PacketPtr) : Bool := (w.packets.objects p).any (·.isIngoing)

/-- `getPacketLen`. -/
def getPacketLen (w : PacketPool) (p : PacketPtr) : UInt32 :=
  ((w.packets.objects p).map (·.getPacketLen)).getD 0

/-- The time since a packet's time stamp. -/
def age (w : PacketPool) (now : Nat) (p : PacketPtr) : Int :=
  now - ((w.packets.objects p).map (·.stamp)).getD 0

/-- The calls of `nfq_set_verdict` made for a packet. -/
def verdictsOf (w : PacketPool) (p : PacketPtr) : List (PacketPtr × UInt32 × NfVerdict) :=
  w.verdicts.filter (·.1 = p)

/-- The packets that a verdict was given for, once for each call. -/
def settled (w : PacketPool) : Multiset PacketPtr := w.verdicts.map (·.1)

end PacketPool

/-- The filters that shape traffic. -/
inductive ShapingFilter
  | loss (f : Loss)
  | burst (f : Burst PacketPtr)
  | staticDelay (f : StaticDelay PacketPtr)
  | dynamicDelay (f : DynamicDelay PacketPtr)
  | dynamicLoss (f : DynamicLoss)
  | tokenBucketFilter (f : TokenBucketFilter PacketPtr)

/-- The filters of a chain. -/
inductive ChainFilter
  | input
  | shaping (f : ShapingFilter)
  | output

/-- A filter, the packets, and what the filter forwards. -/
structure Outcome (φ : Type) where
  filter : φ
  pool : PacketPool
  forwarded : List PacketPtr

/-- What the timers and posted calls of a filter do: the `k`th of those that are
pending or posted.  `now` and the readings are what the clock shows. -/
inductive FilterTask
  | init (inReads outReads : TokenBucketFilter.Readings)
  | popHandler (k now : Nat)
  | timeout (k now : Nat)
  | delayPopHandler (k : Nat)
  | delayTimeout (k : Nat)
  | run (isIngoing : Bool) (k : Nat) (reads : TokenBucketFilter.Readings)
  deriving DecidableEq, Repr

namespace ShapingFilter

/-- `handlePacket`, where a filter that draws a random number draws `r`. -/
def handlePacket (f : ShapingFilter) (w : PacketPool) (r : ℚ) (p : PacketPtr) :
    Outcome ShapingFilter :=
  match f with
  | loss g => if g.drops r then ⟨f, w.setVerdict p false, []⟩ else ⟨f, w, [p]⟩
  | burst g => ⟨burst (g.handlePacket p).1, w, (g.handlePacket p).2⟩
  | staticDelay g => ⟨staticDelay (g.handlePacket p), w, []⟩
  | dynamicDelay g => ⟨dynamicDelay (g.handlePacket p), w, []⟩
  | dynamicLoss g => if g.drops r then ⟨f, w.setVerdict p false, []⟩ else ⟨f, w, [p]⟩
  | tokenBucketFilter g =>
    let o := g.handlePacket w.getPacketLen (w.isIngoing p) r p
    ⟨tokenBucketFilter o.1, w, o.2⟩

/-- `init`, a posted call or an expired timer. -/
def task (f : ShapingFilter) (w : PacketPool) (t : FilterTask) : Option (Outcome ShapingFilter) :=
  match f, t with
  | loss _, .init _ _ => some ⟨f, w, []⟩
  | burst g, .init _ _ => some ⟨burst g.init.1, w, g.init.2⟩
  | burst g, .timeout k _ => (g.timeout k).map fun o => ⟨burst o.1, w, o.2⟩
  | staticDelay g, .init _ _ => some ⟨staticDelay g.init, w, []⟩
  | staticDelay g, .popHandler k now =>
    (g.popHandler (w.age now) k).map fun g => ⟨staticDelay g, w, []⟩
  | staticDelay g, .timeout k now =>
    -- the time stamp is reset for the delay filters to come
    (g.timeout k).map fun o => ⟨staticDelay o.1, w.resetTimeStamp o.2 now, [o.2]⟩
  | dynamicDelay g, .init _ _ => some ⟨dynamicDelay g.init, w, []⟩
  | dynamicDelay g, .popHandler k now =>
    (g.popHandler (w.age now) k).map fun g => ⟨dynamicDelay g, w, []⟩
  | dynamicDelay g, .timeout k now =>
    (g.timeout k).map fun o => ⟨dynamicDelay o.1, w.resetTimeStamp o.2 now, [o.2]⟩
  | dynamicDelay g, .delayPopHandler k =>
    (g.delayPopHandler k).map fun g => ⟨dynamicDelay g, w, []⟩
  | dynamicDelay g, .delayTimeout k => (g.delayTimeout k).map fun g => ⟨dynamicDelay g, w, []⟩
  | dynamicLoss g, .init _ _ => some ⟨dynamicLoss g.init, w, []⟩
  | dynamicLoss g, .timeout k _ => (g.handleTimeout k).map fun g => ⟨dynamicLoss g, w, []⟩
  | tokenBucketFilter g, .init inReads outReads =>
    let o := g.init w.getPacketLen inReads outReads
    some ⟨tokenBucketFilter o.1, w, o.2⟩
  | tokenBucketFilter g, .run isIngoing k reads =>
    (g.timeout w.getPacketLen isIngoing k reads).map fun o => ⟨tokenBucketFilter o.1, w, o.2⟩
  | _, _ => none

/-- What a filter holds, in queues, posted calls and timers. -/
def held : ShapingFilter → Multiset PacketPtr
  | loss _ | dynamicLoss _ => 0
  | burst g => g.held
  | staticDelay g => g.held
  | dynamicDelay g => g.held
  | tokenBucketFilter g => g.held

/-- The filter does not refuse the packet without a verdict: a token bucket has room
for it, and in the RED region the draw is not 0. -/
def Admits (f : ShapingFilter) (w : PacketPool) (r : ℚ) (p : PacketPtr) : Prop :=
  match f with
  | tokenBucketFilter g =>
    let b := g.bucket (w.isIngoing p)
    b.queue.length < b.maxPackets.toNat ∧ (b.queue.length < b.redStart.toNat ∨ 0 < r)
  | _ => True

instance (f : ShapingFilter) (w : PacketPool) (r : ℚ) (p : PacketPtr) :
    Decidable (f.Admits w r p) :=
  match f with
  | tokenBucketFilter _ => inferInstanceAs (Decidable (_ ∧ _))
  | loss _ | burst _ | staticDelay _ | dynamicDelay _ | dynamicLoss _ => .isTrue trivial

end ShapingFilter

namespace ChainFilter

/-- `handlePacket`. -/
def handlePacket (f : ChainFilter) (w : PacketPool) (r : ℚ) (p : PacketPtr) : Outcome ChainFilter :=
  match f with
  | input => ⟨input, w, [p]⟩
  | shaping g =>
    let o := g.handlePacket w r p
    ⟨shaping o.filter, o.pool, o.forwarded⟩
  | output => ⟨output, w.setVerdict p true, []⟩

def held : ChainFilter → Multiset PacketPtr
  | shaping g => g.held
  | input | output => 0

def Admits (f : ChainFilter) (w : PacketPool) (r : ℚ) (p : PacketPtr) : Prop :=
  match f with
  | shaping g => g.Admits w r p
  | input | output => True

instance (f : ChainFilter) (w : PacketPool) (r : ℚ) (p : PacketPtr) :
    Decidable (f.Admits w r p) :=
  match f with
  | shaping g => inferInstanceAs (Decidable (g.Admits w r p))
  | input | output => .isTrue trivial

end ChainFilter

/-! ## The machine -/

/-- A chain, the packets, and for each thread the calls of `handlePacket` that it has
still to make, the next one first: the position of the filter, and the packet. -/
structure FilterChain where
  filters : List ChainFilter
  pool : PacketPool
  threads : List (List (Nat × PacketPtr))

/-- What happens: a packet comes in; in thread `t`, the filter at `i` is handed the
packet `p` and, if it draws, draws `r`; the filter at `i` does a task of its own. -/
inductive ChainEvent
  | arrive (pkt : ParentPacket)
  | handle (i : Nat) (p : PacketPtr) (r : ℚ) (t : Nat)
  | task (i : Nat) (task : FilterTask)
  deriving DecidableEq, Repr

namespace FilterChain

/-- `Input :: L ++ [Output]`. -/
def new (L : List ShapingFilter) : FilterChain :=
  ⟨.input :: L.map .shaping ++ [.output], .empty, []⟩

/-- One step. -/
def step (s : FilterChain) : ChainEvent → Option FilterChain
  | .arrive pkt =>
    if pkt.verdictSet then none
    else some { s with
      pool := s.pool.add pkt
      threads := s.threads ++ [[(0, s.pool.packets.next)]] }
  | .handle i p r t =>
    match s.threads[t]?, s.filters[i]? with
    | some (call :: calls), some f =>
      if call = (i, p) then
        let o := f.handlePacket s.pool r p
        some
          { filters := s.filters.set i o.filter
            pool := o.pool
            threads := s.threads.set t (o.forwarded.map (i + 1, ·) ++ calls) }
      else none
    | _, _ => none
  | .task i task =>
    match s.filters[i]? with
    | some (.shaping f) =>
      (f.task s.pool task).map fun o =>
        { filters := s.filters.set i (.shaping o.filter)
          pool := o.pool
          threads := s.threads ++ [o.forwarded.map (i + 1, ·)] }
    | _ => none

/-- The runs of a chain whose filters hold nothing at first. -/
abbrev Runs (L : List ShapingFilter) : List ChainEvent → FilterChain → Prop :=
  Run (fun s e s' => s.step e = some s') fun s => s = new L ∧ ∀ f ∈ L, f.held = 0

/-- No filter refuses a packet that it is handed without a verdict. -/
def Admits (s : FilterChain) : ChainEvent → Prop
  | .handle i p r _ =>
    match s.filters[i]? with
    | some f => f.Admits s.pool r p
    | none => True
  | .arrive _ | .task _ _ => True

instance (s : FilterChain) (e : ChainEvent) : Decidable (s.Admits e) :=
  match e with
  | .handle i p r _ =>
    match h : s.filters[i]? with
    | some f => decidable_of_iff (f.Admits s.pool r p) (by simp [Admits, h])
    | none => .isTrue (by simp [Admits, h])
  | .arrive _ | .task _ _ => .isTrue trivial

/-- The runs in which no filter refuses a packet without a verdict. -/
abbrev AdmittingRuns (L : List ShapingFilter) : List ChainEvent → FilterChain → Prop :=
  Run (Guarded (fun s e s' => s.step e = some s') Admits) fun s => s = new L ∧ ∀ f ∈ L, f.held = 0

/-- `Output` was handed the packet. -/
def ReachedOutput (L : List ShapingFilter) (h : List ChainEvent) (p : PacketPtr) : Prop :=
  ∃ r t, .handle (L.length + 1) p r t ∈ h

/-- A call of `handlePacket` with the packet has still to be made: it is on its way from
one filter to the next. -/
def UnderWay (s : FilterChain) (p : PacketPtr) : Prop :=
  ∃ calls ∈ s.threads, ∃ i, (i, p) ∈ calls

/-- Exactly one filter holds the packet. -/
def HeldByOne (s : FilterChain) (p : PacketPtr) : Prop :=
  ∃! i : Nat, ∃ f, s.filters[i]? = some f ∧ p ∈ f.held

/-- No filter holds the packet. -/
def HeldByNone (s : FilterChain) (p : PacketPtr) : Prop :=
  ∀ (i : Nat) (f : ChainFilter), s.filters[i]? = some f → p ∉ f.held

/-- **Verdict conservation**, for one packet: it is held by exactly one filter and has
had no verdict, or it is held by none and has had one, which is `NF_ACCEPT` iff the
packet reached `Output`. -/
def Conserved (L : List ShapingFilter) (h : List ChainEvent) (s : FilterChain) (p : PacketPtr) :
    Prop :=
  (s.HeldByOne p ∧ s.pool.verdictsOf p = []) ∨
    (s.HeldByNone p ∧ ∃ id v, s.pool.verdictsOf p = [(p, id, v)] ∧
      (v = .NF_ACCEPT ↔ ReachedOutput L h p))

end FilterChain
end ShapingRouter
