import Mathlib
import ShapingRouter.Library.WeakTable

/-! # The router's own view of its filters

`Router::init` makes the filters of a list and links each to the one before.  It keeps
one pointer for each type of filter, and the setters and the `init` routines go
through these pointers.  There is a chain for IPv4 and one for IPv6; the filters of the
one are never linked to those of the other, so each chain has a heap of its own.

What a filter does with a call is for its own model to say.  Here a filter is a record
of the calls made on it, with the pointer to the next filter.
-/

namespace ShapingRouter
open Library

/-- The names that `Router::init` knows.  The router has a member for each. -/
inductive FilterName
  | input | inputDrop | burst | loss | staticDelay | nat | tokenBucketFilter | dynamicDelay
  | dynamicLoss | output | outputLibnet
  deriving DecidableEq, Repr

/-- The classes of filters. -/
inductive FilterClass
  | Input | InputDrop | Burst | Loss | StaticDelay | Nat | TokenBucketFilter | DynamicDelay
  | DynamicLoss | Output | OutputLibnet | Output6Libnet
  deriving DecidableEq, Repr

namespace FilterName

def toString : FilterName → String
  | input => "Input"
  | inputDrop => "InputDrop"
  | burst => "Burst"
  | loss => "Loss"
  | staticDelay => "StaticDelay"
  | nat => "Nat"
  | tokenBucketFilter => "TokenBucketFilter"
  | dynamicDelay => "DynamicDelay"
  | dynamicLoss => "DynamicLoss"
  | output => "Output"
  | outputLibnet => "OutputLibnet"

/-- The class of the filter made for a name in the IPv4 chain. -/
def cls : FilterName → FilterClass
  | input => .Input
  | inputDrop => .InputDrop
  | burst => .Burst
  | loss => .Loss
  | staticDelay => .StaticDelay
  | nat => .Nat
  | tokenBucketFilter => .TokenBucketFilter
  | dynamicDelay => .DynamicDelay
  | dynamicLoss => .DynamicLoss
  | output => .Output
  | outputLibnet => .OutputLibnet

/-- The class of the filter made for a name in the IPv6 chain. -/
def cls6 : FilterName → FilterClass
  | outputLibnet => .Output6Libnet
  | name => name.cls

/-- The names that the `filters` option may list. -/
def Selectable : FilterName → Prop
  | input | inputDrop | output | outputLibnet => False
  | burst | loss | staticDelay | nat | tokenBucketFilter | dynamicDelay | dynamicLoss => True

end FilterName

/-- A call of a filter's setter. -/
inductive SetterCall
  | setDelay (del : Int)
  | setLoss (loss : ℚ)
  | setIPs (ipExt ipInt : String)
  | setDnatRule (ip : String) (extPort intPort : UInt16)
  | setNatType (type : String)
  | setTimeout (timeout : UInt32)
  | setBurstDuration (dur : Int)
  | setSleepDuration (dur : Int)
  | setInRateLimit (rate : UInt32)
  | setInMaxTokens (t : UInt32)
  | setInMaxPackets (p : UInt32)
  | setInRedStart (s : UInt32)
  | setOutRateLimit (rate : UInt32)
  | setOutMaxTokens (t : UInt32)
  | setOutMaxPackets (p : UInt32)
  | setOutRedStart (s : UInt32)
  | setDelays (d : List Int) (r : Int)
  | setLosses (t : List Int) (l : List ℚ)
  deriving DecidableEq, Repr

/-- The filter whose setter it is. -/
def SetterCall.filter : SetterCall → FilterName
  | setDelay _ => .staticDelay
  | setLoss _ => .loss
  | setIPs _ _ | setDnatRule _ _ _ | setNatType _ | setTimeout _ => .nat
  | setBurstDuration _ | setSleepDuration _ => .burst
  | setInRateLimit _ | setInMaxTokens _ | setInMaxPackets _ | setInRedStart _
  | setOutRateLimit _ | setOutMaxTokens _ | setOutMaxPackets _ | setOutRedStart _ =>
    .tokenBucketFilter
  | setDelays _ _ => .dynamicDelay
  | setLosses _ _ => .dynamicLoss

/-- A call on a filter; a handle of the netfilter queue is a number. -/
inductive FilterCall
  | setter (call : SetterCall)
  | setQH (qh : Nat)
  | init
  deriving DecidableEq, Repr

/-- The setter call that it is, if it is one. -/
def FilterCall.setter? : FilterCall → Option SetterCall
  | setter call => some call
  | setQH _ | init => none

/-- `std::shared_ptr<Filter>`, where it is not null. -/
abbrev FilterPtr := Nat

/-- A filter: its `next_`, and the calls made on it, the first one first. -/
structure FilterObject where
  cls : FilterClass
  next : Option FilterPtr := none
  calls : List FilterCall := []
  deriving DecidableEq, Repr

namespace FilterObject

/-- A call that is recorded. -/
def record (call : FilterCall) (o : FilterObject) : FilterObject :=
  { o with calls := o.calls ++ [call] }

/-- `setNext`. -/
def setNext (next : FilterPtr) (o : FilterObject) : FilterObject := { o with next := some next }

/-- The filter was given every setter call for its class, in order, and its `init` was
called. -/
structure Configured (setters : List SetterCall) (o : FilterObject) : Prop where
  given : o.calls.filterMap FilterCall.setter? = setters.filter (·.filter.cls = o.cls)
  inited : .init ∈ o.calls

end FilterObject

/-- One of the two chains: the filters made for it, and the members of the router. -/
structure RouterChain where
  filters : Heap FilterObject := Heap.empty
  start : Option FilterPtr := none
  member : FilterName → Option FilterPtr := fun _ => none

namespace RouterChain

/-- `x_ = std::make_shared<X>();` -/
def make (c : RouterChain) (name : FilterName) (cls : FilterClass) : RouterChain :=
  { c with
    filters := c.filters.alloc { cls := cls }
    member := Function.update c.member name (some c.filters.next) }

/-- `x_->setNext(y_);`, which is none where `x_` is null. -/
def link (c : RouterChain) (name next : FilterName) : Option RouterChain :=
  match c.member name with
  | some p => some { c with filters := c.filters.modify p fun o => { o with next := c.member next } }
  | none => none

/-- `start_ = x_;` -/
def startAt (c : RouterChain) (name : FilterName) : RouterChain :=
  { c with start := c.member name }

/-- `if(x_) { x_->call(); }` -/
def call (c : RouterChain) (name : FilterName) (call : FilterCall) : RouterChain :=
  match c.member name with
  | some p => { c with filters := c.filters.modify p (·.record call) }
  | none => c

/-- Following `next_` from a pointer visits these filters. -/
inductive Visits (c : RouterChain) : Option FilterPtr → List FilterObject → Prop
  | nil : Visits c none []
  | cons {p : FilterPtr} {o : FilterObject} {rest : List FilterObject} :
      c.filters.objects p = some o → Visits c o.next rest → Visits c (some p) (o :: rest)

end RouterChain

/-- `Router`. -/
structure Router where
  initialized : Bool := false
  extIf : String := ""
  chain : RouterChain := {}
  chain6 : RouterChain := {}

/-! ## Building the chains -/

/-- A chain, with the local variable `last` of `Router::init`. -/
structure ChainBuilder where
  chain : RouterChain
  last : Option FilterPtr

namespace ChainBuilder

/-- A new filter, which is the first of its chain. -/
def first (b : ChainBuilder) (name : FilterName) (cls : FilterClass) : ChainBuilder where
  chain :=
    { filters := b.chain.filters.alloc { cls := cls }
      start := some b.chain.filters.next
      member := Function.update b.chain.member name (some b.chain.filters.next) }
  last := some b.chain.filters.next

/-- A new filter, linked to the last one.  `none` where `last` is null. -/
def append (b : ChainBuilder) (name : FilterName) (cls : FilterClass) : Option ChainBuilder :=
  match b.last with
  | some last => some {
      chain :=
        { b.chain with
          filters := (b.chain.filters.alloc { cls := cls }).modify last
            (·.setNext b.chain.filters.next)
          member := Function.update b.chain.member name (some b.chain.filters.next) }
      last := some b.chain.filters.next }
  | none => none

end ChainBuilder

/-- The two chains, with `last` and `last6`. -/
structure RouterBuilder where
  v4 : ChainBuilder
  v6 : ChainBuilder

namespace RouterBuilder

/-- A branch of `Router::init` that begins both chains. -/
def first (b : RouterBuilder) (name : FilterName) : RouterBuilder :=
  ⟨b.v4.first name name.cls, b.v6.first name name.cls6⟩

/-- A branch that adds a filter to both chains. -/
def append (b : RouterBuilder) (name : FilterName) : Option RouterBuilder := do
  let v4 ← b.v4.append name name.cls
  let v6 ← b.v6.append name name.cls6
  some ⟨v4, v6⟩

/-- A branch that adds a filter to the IPv4 chain only. -/
def append4 (b : RouterBuilder) (name : FilterName) : Option RouterBuilder := do
  let v4 ← b.v4.append name name.cls
  some ⟨v4, b.v6⟩

/-- The body of the loop of `Router::init`.  An unknown filter is reported, and nothing
else. -/
def add (b : RouterBuilder) (it : String) : Option RouterBuilder :=
  if it = "Input" then some (b.first .input)
  else if it = "InputDrop" then some (b.first .inputDrop)
  else if it = "Burst" then b.append .burst
  else if it = "Loss" then b.append .loss
  else if it = "StaticDelay" then b.append .staticDelay
  else if it = "Nat" then b.append4 .nat
  else if it = "TokenBucketFilter" then b.append .tokenBucketFilter
  else if it = "DynamicDelay" then b.append .dynamicDelay
  else if it = "DynamicLoss" then b.append .dynamicLoss
  else if it = "Output" then b.append .output
  else if it = "OutputLibnet" then b.append .outputLibnet
  else some b

end RouterBuilder

/-- The list that `main` passes on, for the names of the `filters` option. -/
def mainFilters (acceptMode : Bool) (filters : List String) : List String :=
  if acceptMode then "Input" :: filters ++ ["Output"]
  else "InputDrop" :: filters ++ ["OutputLibnet"]

/-- Why `initFilters` does not succeed: the `init` of a filter answers false, or a null
pointer is followed. -/
inductive InitError
  | failed (name : FilterName)
  | nullPointer
  deriving DecidableEq, Repr

namespace Router

/-- `Router::init` with a list of filters. -/
def init (r : Router) (extIf : String) (filters : List String) : Option Router :=
  (filters.foldlM RouterBuilder.add ⟨⟨r.chain, none⟩, ⟨r.chain6, none⟩⟩).map fun b =>
    { initialized := true, extIf := extIf, chain := b.v4.chain, chain6 := b.v6.chain }

/-- `Router::init` without a list: all filters.  The IPv4 chain ends in an `OutputLibnet`,
the IPv6 chain in an `Output`. -/
def initAll (r : Router) (extIf : String) : Option Router := do
  let c := r.chain.make .inputDrop .InputDrop
  let c := c.make .loss .Loss
  let c := c.make .nat .Nat
  let c := c.make .burst .Burst
  let c := c.make .staticDelay .StaticDelay
  let c := c.make .dynamicDelay .DynamicDelay
  let c := c.make .dynamicLoss .DynamicLoss
  let c := c.make .tokenBucketFilter .TokenBucketFilter
  let c := c.make .outputLibnet .OutputLibnet
  let c ← c.link .inputDrop .loss
  let c ← c.link .loss .nat
  let c ← c.link .nat .burst
  let c ← c.link .burst .staticDelay
  let c ← c.link .staticDelay .dynamicLoss
  let c ← c.link .dynamicLoss .dynamicDelay
  let c ← c.link .dynamicDelay .tokenBucketFilter
  let c ← c.link .tokenBucketFilter .outputLibnet
  let c6 := r.chain6.make .input .Input
  let c6 := c6.make .loss .Loss
  let c6 := c6.make .burst .Burst
  let c6 := c6.make .staticDelay .StaticDelay
  let c6 := c6.make .dynamicDelay .DynamicDelay
  let c6 := c6.make .dynamicLoss .DynamicLoss
  let c6 := c6.make .tokenBucketFilter .TokenBucketFilter
  let c6 := c6.make .output .Output
  let c6 ← c6.link .input .loss
  let c6 ← c6.link .loss .burst
  let c6 ← c6.link .burst .staticDelay
  let c6 ← c6.link .staticDelay .dynamicLoss
  let c6 ← c6.link .dynamicLoss .dynamicDelay
  let c6 ← c6.link .dynamicDelay .tokenBucketFilter
  let c6 ← c6.link .tokenBucketFilter .output
  some {
    initialized := true
    extIf := extIf
    chain := c.startAt .inputDrop
    chain6 := c6.startAt .input }

/-! ## The setters -/

/-- A setter that configures the filters of both chains. -/
def setBoth (r : Router) (call : SetterCall) : Router :=
  { r with
    chain := r.chain.call call.filter (.setter call)
    chain6 := r.chain6.call call.filter (.setter call) }

/-- A setter that configures the filter of the IPv4 chain. -/
def setOne (r : Router) (call : SetterCall) : Router :=
  { r with chain := r.chain.call call.filter (.setter call) }

def setDelay (r : Router) (del : Int) : Router := r.setBoth (.setDelay del)
def setLoss (r : Router) (loss : ℚ) : Router := r.setBoth (.setLoss loss)
def setIPs (r : Router) (ipExt ipInt : String) : Router := r.setOne (.setIPs ipExt ipInt)
def setDnatRule (r : Router) (ip : String) (extPort intPort : UInt16) : Router :=
  r.setOne (.setDnatRule ip extPort intPort)
def setNatType (r : Router) (type : String) : Router := r.setOne (.setNatType type)
def setNatTimeout (r : Router) (timeout : UInt32) : Router :=
  r.setOne (.setTimeout timeout)
def setBurstDuration (r : Router) (dur : Int) : Router := r.setBoth (.setBurstDuration dur)
def setSleepDuration (r : Router) (dur : Int) : Router := r.setBoth (.setSleepDuration dur)
def setTbfInRateLimit (r : Router) (rate : UInt32) : Router := r.setBoth (.setInRateLimit rate)
def setTbfInMaxTokens (r : Router) (t : UInt32) : Router := r.setBoth (.setInMaxTokens t)
def setTbfInMaxPackets (r : Router) (p : UInt32) : Router := r.setBoth (.setInMaxPackets p)
def setTbfInRedStart (r : Router) (s : UInt32) : Router := r.setBoth (.setInRedStart s)
def setTbfOutRateLimit (r : Router) (rate : UInt32) : Router := r.setBoth (.setOutRateLimit rate)
def setTbfOutMaxTokens (r : Router) (t : UInt32) : Router := r.setBoth (.setOutMaxTokens t)
def setTbfOutMaxPackets (r : Router) (p : UInt32) : Router := r.setBoth (.setOutMaxPackets p)
def setTbfOutRedStart (r : Router) (s : UInt32) : Router := r.setBoth (.setOutRedStart s)
def setDynamicDelays (r : Router) (d : List Int) (res : Int) : Router :=
  r.setBoth (.setDelays d res)
def setDynamicLosses (r : Router) (t : List Int) (l : List ℚ) : Router := r.setBoth (.setLosses t l)

/-- The setter of the router that makes a call. -/
def configure (r : Router) : SetterCall → Router
  | .setDelay del => r.setDelay del
  | .setLoss loss => r.setLoss loss
  | .setIPs ipExt ipInt => r.setIPs ipExt ipInt
  | .setDnatRule ip extPort intPort => r.setDnatRule ip extPort intPort
  | .setNatType type => r.setNatType type
  | .setTimeout timeout => r.setNatTimeout timeout
  | .setBurstDuration dur => r.setBurstDuration dur
  | .setSleepDuration dur => r.setSleepDuration dur
  | .setInRateLimit rate => r.setTbfInRateLimit rate
  | .setInMaxTokens t => r.setTbfInMaxTokens t
  | .setInMaxPackets p => r.setTbfInMaxPackets p
  | .setInRedStart s => r.setTbfInRedStart s
  | .setOutRateLimit rate => r.setTbfOutRateLimit rate
  | .setOutMaxTokens t => r.setTbfOutMaxTokens t
  | .setOutMaxPackets p => r.setTbfOutMaxPackets p
  | .setOutRedStart s => r.setTbfOutRedStart s
  | .setDelays d res => r.setDynamicDelays d res
  | .setLosses t l => r.setDynamicLosses t l

/-- The setters, called one after the other. -/
def configureAll (r : Router) (setters : List SetterCall) : Router := setters.foldl configure r

/-! ## Initialization -/

end Router

/-- What the `init` of a filter answers: each class answers true. -/
def FilterClass.initAnswer : FilterClass → Bool
  | Input | InputDrop | Burst | Loss | StaticDelay | Nat | TokenBucketFilter | DynamicDelay
  | DynamicLoss | Output | OutputLibnet | Output6Libnet => true

namespace RouterChain

/-- `if(x_) { if(!x_->init()) return false; }` -/
def tryInit (c : RouterChain) (name : FilterName) : Except InitError RouterChain :=
  match c.member name with
  | some p =>
    if (c.filters.objects p).all (·.cls.initAnswer) then .ok (c.call name .init)
    else .error (.failed name)
  | none => .ok c

end RouterChain

namespace Router

/-- `initFilters`. -/
def initFilters (r : Router) (qh : Nat) : Except InitError Router := do
  let c ← r.chain.tryInit .input
  let c ← (c.call .inputDrop (.setQH qh)).tryInit .inputDrop
  let c ← c.tryInit .staticDelay
  let c ← c.tryInit .dynamicDelay
  let c ← c.tryInit .dynamicLoss
  let c ← c.tryInit .loss
  let c ← c.tryInit .nat
  let c ← c.tryInit .burst
  let c ← c.tryInit .tokenBucketFilter
  let c ← (c.call .output (.setQH qh)).tryInit .output
  let c ← c.tryInit .outputLibnet
  return { r with chain := c }

/-- `init6Filters`.  Where there is an `output6_`, the handle goes to `output_`. -/
def init6Filters (r : Router) (qh : Nat) : Except InitError Router := do
  let c ← r.chain6.tryInit .input
  let c ← (c.call .inputDrop (.setQH qh)).tryInit .inputDrop
  let c ← c.tryInit .staticDelay
  let c ← c.tryInit .dynamicDelay
  let c ← c.tryInit .dynamicLoss
  let c ← c.tryInit .loss
  let c ← c.tryInit .burst
  let c ← c.tryInit .tokenBucketFilter
  let chain ←
    match c.member .output, r.chain.member .output with
    | some _, some _ => .ok (r.chain.call .output (.setQH qh))
    | some _, none => .error .nullPointer
    | none, _ => .ok r.chain
  let c ← c.tryInit .output
  let c ← c.tryInit .outputLibnet
  return { r with chain := chain, chain6 := c }

end Router
end ShapingRouter
