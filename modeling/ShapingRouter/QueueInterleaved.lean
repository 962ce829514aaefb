import Mathlib
import ShapingRouter.AsyncQueue
import ShapingRouter.Library.Holdings
import ShapingRouter.Library.Run

/-! # AsyncQueue with interleaved operations

Any number of threads use a queue at the same time, and are interleaved between the
sections of its operations: those that hold the mutex, the posts, and the two of `close`
that are outside of the mutex.  A thread is between two sections of an operation
(`QueueThread`), and the system takes the sections one at a time (`QueueSystem.Step`).

A callback is registered, or in the hand of a thread that will post it, until it is
posted (`QueueSystem.outstanding`).  If never more than one is, then the data are posted
in the order in which they were pushed (`InOrder`): what a thread has in its hand comes
next.  No wake-up is lost because every change that makes `tryPop` worth a try is made by
a thread that then tries (`Awake`).
-/

namespace ShapingRouter
open Library

namespace AsyncQueue
variable {κ α : Type}

/-! ## The sections -/

/-- The locked section of `push`, which returns where the queue takes no data. -/
def pushLocked (q : AsyncQueue κ α) (data : α) : Option (AsyncQueue κ α) :=
  if q.stopped || q.niceStopped then none else some { q with theQueue := q.theQueue ++ [data] }

/-- The locked section of `asyncPop`.  Where the queue is stopped the callback is posted
at once, and not registered. -/
def asyncPopLocked (q : AsyncQueue κ α) (callback : κ) : Option (AsyncQueue κ α) :=
  if q.stopped then none else some { q with callback := some callback }

/-- The first section of `tryPop`, which takes the callback and the front of the queue if
there are both. -/
def tryPopTake (q : AsyncQueue κ α) : Option (κ × α × AsyncQueue κ α) :=
  match q.callback, q.theQueue with
  | some handler, d :: rest => some (handler, d, { q with theQueue := rest, callback := none })
  | some _, [] | none, _ => none

/-- The second section of `tryPop`, which takes the callback of a queue that was emptied
after `niceClose`. -/
def tryPopDrain (q : AsyncQueue κ α) : Option (κ × AsyncQueue κ α) :=
  match q.callback with
  | some handler =>
    if q.theQueue = [] ∧ q.niceStopped = true then some (handler, { q with callback := none })
    else none
  | none => none

/-- The first section of `close`. -/
def closeLocked (q : AsyncQueue κ α) : Option (AsyncQueue κ α) :=
  if q.stopped then none else some { q with stopped := true }

variable {q q' : AsyncQueue κ α}

theorem pushLocked_eq_some {data : α} : q.pushLocked data = some q' ↔
    q.stopped = false ∧ q.niceStopped = false ∧ q' = { q with theQueue := q.theQueue ++ [data] } := by
  unfold pushLocked
  cases q.stopped <;> cases q.niceStopped <;> simp [eq_comm]

theorem asyncPopLocked_eq_some {callback : κ} : q.asyncPopLocked callback = some q' ↔
    q.stopped = false ∧ q' = { q with callback := some callback } := by
  unfold asyncPopLocked
  cases q.stopped <;> simp [eq_comm]

theorem asyncPopLocked_eq_none {callback : κ} :
    q.asyncPopLocked callback = none ↔ q.stopped = true := by
  simp [asyncPopLocked]

theorem tryPopTake_eq_some {handler : κ} {d : α} : q.tryPopTake = some (handler, d, q') ↔
    ∃ rest, q.callback = some handler ∧ q.theQueue = d :: rest ∧
      q' = { q with theQueue := rest, callback := none } := by
  unfold tryPopTake
  split
  · rename_i handler' d' rest hcallback hqueue
    simp only [hcallback, hqueue, Option.some.injEq, Prod.mk.injEq, List.cons.injEq]
    constructor
    · rintro ⟨rfl, rfl, rfl⟩
      exact ⟨rest, rfl, ⟨rfl, rfl⟩, rfl⟩
    · rintro ⟨_, rfl, ⟨rfl, rfl⟩, rfl⟩
      exact ⟨rfl, rfl, rfl⟩
  · rename_i hcallback hqueue
    simp [hqueue]
  · rename_i hcallback
    simp [hcallback]

theorem tryPopTake_eq_none : q.tryPopTake = none ↔ q.callback = none ∨ q.theQueue = [] := by
  unfold tryPopTake
  split
  · rename_i hcallback hqueue
    simp [hcallback, hqueue]
  · rename_i hcallback hqueue
    simp [hqueue]
  · rename_i hcallback
    simp [hcallback]

theorem tryPopDrain_eq_some {handler : κ} : q.tryPopDrain = some (handler, q') ↔
    q.callback = some handler ∧ q.theQueue = [] ∧ q.niceStopped = true ∧
      q' = { q with callback := none } := by
  unfold tryPopDrain
  split
  · rename_i handler' hcallback
    split
    · rename_i hdrained
      simp only [hcallback, hdrained, Option.some.injEq, Prod.mk.injEq, true_and, eq_comm]
    · rename_i hnot
      simp only [reduceCtorEq, false_iff]
      rintro ⟨-, hqueue, hnice, -⟩
      exact hnot ⟨hqueue, hnice⟩
  · rename_i hcallback
    simp [hcallback]

theorem tryPopDrain_eq_none : q.tryPopDrain = none ↔
    q.callback = none ∨ q.theQueue ≠ [] ∨ q.niceStopped = false := by
  unfold tryPopDrain
  split
  · rename_i handler hcallback
    split
    · rename_i hdrained
      simp [hcallback, hdrained.1, hdrained.2]
    · rename_i hnot
      refine iff_of_true rfl (Or.inr ?_)
      rw [not_and_or] at hnot
      simpa using hnot
  · rename_i hcallback
    simp [hcallback]

theorem closeLocked_eq_some : q.closeLocked = some q' ↔
    q.stopped = false ∧ q' = { q with stopped := true } := by
  unfold closeLocked
  cases q.stopped <;> simp [eq_comm]

theorem closeLocked_eq_none : q.closeLocked = none ↔ q.stopped = true := by
  simp [closeLocked]

/-- **The sections are those of `tryPop`**: one behind the other, with the post, they do
what it does. -/
theorem tryPop_eq_sections (q : AsyncQueue κ α) : q.tryPop =
    match q.tryPopTake with
    | some (handler, d, q') => (q', [(handler, .ok d)])
    | none =>
      match q.tryPopDrain with
      | some (handler, q') => (q', [(handler, .stopped)])
      | none => (q, []) := by
  unfold tryPop tryPopTake tryPopDrain
  cases hcallback : q.callback with
  | none => rfl
  | some handler =>
    cases hqueue : q.theQueue with
    | nil => cases hnice : q.niceStopped <;> simp
    | cons d rest => rfl

theorem push_eq_sections (q : AsyncQueue κ α) (data : α) :
    q.push data = match q.pushLocked data with
      | some q' => q'.tryPop
      | none => (q, []) := by
  unfold push pushLocked
  cases q.stopped <;> cases q.niceStopped <;> rfl

theorem asyncPop_eq_sections (q : AsyncQueue κ α) (callback : κ) :
    q.asyncPop callback = match q.asyncPopLocked callback with
      | some q' => q'.tryPop
      | none => (q, [(callback, .stopped)]) := by
  unfold asyncPop asyncPopLocked
  cases q.stopped <;> rfl

end AsyncQueue

/-! ## The system -/

/-- Where a thread is, inside of an operation: before a section of `tryPop`; about to post
what it took; before a section of `close`. -/
inductive QueueThread (κ α : Type)
  | tryPop
  | post (handler : κ) (data : α)
  | tryPopDrain
  | closeCheck
  | closeTake
  | closePost (handler : Option κ)
  | clear
  deriving DecidableEq, Repr

/-- What the thread will post: a callback, and the data that it goes to. -/
def QueueThread.held {κ α : Type} : QueueThread κ α → Multiset (κ × Option α)
  | post handler data => {(handler, some data)}
  | closePost (some handler) => {(handler, none)}
  | tryPop | tryPopDrain | closeCheck | closeTake | closePost none | clear => 0

/-- The queue, the threads inside of its operations, the handlers that were posted and
those that run.  `turns` are the calls of `asyncPop` that the consumer may make if it only
asks again when a handler has completed. -/
structure QueueSystem (κ α : Type) where
  queue : AsyncQueue κ α := {}
  threads : List (QueueThread κ α) := []
  posted : List (Option κ × Delivery α) := []
  running : List (κ × Delivery α) := []
  turns : Nat := 1

/-- A section of an operation.  The first ones begin it; the others are taken by the
thread with number `i`.  `run` and `complete` are the `io_service`'s. -/
inductive QueueEvent (κ α : Type)
  | push (data : α)
  | pushRefused (data : α)
  | asyncPop (callback : κ)
  | asyncPopStopped (callback : κ)
  | niceClose
  | close
  | closeAgain
  | tryPopFound (i : Nat)
  | tryPopNone (i : Nat)
  | post (i : Nat) (handler : κ) (data : α)
  | drainStopped (i : Nat) (handler : κ)
  | drainNone (i : Nat)
  | closeCheck (i : Nat)
  | closeTake (i : Nat)
  | closePost (i : Nat) (handler : Option κ)
  | clear (i : Nat)
  | run (k : Nat) (handler : κ) (delivery : Delivery α)
  | complete (k : Nat)
  deriving DecidableEq, Repr

namespace QueueSystem
variable {κ α : Type}

/-- The threads after thread `i` went on to its next section, or returned. -/
def goes (s : QueueSystem κ α) (i : Nat) (t : QueueThread κ α) : QueueSystem κ α :=
  { s with threads := s.threads.set i t }

def returns (s : QueueSystem κ α) (i : Nat) : QueueSystem κ α :=
  { s with threads := s.threads.eraseIdx i }

/-- `ioService_.post`. -/
def posts (s : QueueSystem κ α) (handler : Option κ) (delivery : Delivery α) : QueueSystem κ α :=
  { s with posted := s.posted ++ [(handler, delivery)] }

/-- One section. -/
inductive Step (s : QueueSystem κ α) : QueueEvent κ α → QueueSystem κ α → Prop
  | push (data : α) (q : AsyncQueue κ α) : s.queue.pushLocked data = some q →
      Step s (.push data) { s with queue := q, threads := s.threads ++ [.tryPop] }
  | pushRefused (data : α) : s.queue.pushLocked data = none → Step s (.pushRefused data) s
  | asyncPop (callback : κ) (q : AsyncQueue κ α) : s.queue.asyncPopLocked callback = some q →
      Step s (.asyncPop callback)
        { s with queue := q, threads := s.threads ++ [.tryPop], turns := s.turns - 1 }
  | asyncPopStopped (callback : κ) : s.queue.asyncPopLocked callback = none →
      Step s (.asyncPopStopped callback)
        ({ s with turns := s.turns - 1 }.posts (some callback) .stopped)
  | niceClose : Step s .niceClose
      { s with queue := { s.queue with niceStopped := true }, threads := s.threads ++ [.tryPop] }
  | close (q : AsyncQueue κ α) : s.queue.closeLocked = some q →
      Step s .close { s with queue := q, threads := s.threads ++ [.closeCheck] }
  | closeAgain : s.queue.closeLocked = none → Step s .closeAgain s
  | tryPopFound (i : Nat) (handler : κ) (d : α) (q : AsyncQueue κ α) :
      s.threads[i]? = some .tryPop → s.queue.tryPopTake = some (handler, d, q) →
      Step s (.tryPopFound i) ({ s with queue := q }.goes i (.post handler d))
  | tryPopNone (i : Nat) : s.threads[i]? = some .tryPop → s.queue.tryPopTake = none →
      Step s (.tryPopNone i) (s.goes i .tryPopDrain)
  | post (i : Nat) (handler : κ) (d : α) : s.threads[i]? = some (.post handler d) →
      Step s (.post i handler d) ((s.returns i).posts (some handler) (.ok d))
  | drainStopped (i : Nat) (handler : κ) (q : AsyncQueue κ α) :
      s.threads[i]? = some .tryPopDrain → s.queue.tryPopDrain = some (handler, q) →
      Step s (.drainStopped i handler) (({ s with queue := q }.returns i).posts (some handler) .stopped)
  | drainNone (i : Nat) : s.threads[i]? = some .tryPopDrain → s.queue.tryPopDrain = none →
      Step s (.drainNone i) (s.returns i)
  | closeCheck (i : Nat) : s.threads[i]? = some .closeCheck →
      Step s (.closeCheck i) (s.goes i (if s.queue.callback.isSome then .closeTake else .clear))
  | closeTake (i : Nat) : s.threads[i]? = some .closeTake →
      Step s (.closeTake i)
        ({ s with queue := { s.queue with callback := none } }.goes i (.closePost s.queue.callback))
  | closePost (i : Nat) (handler : Option κ) : s.threads[i]? = some (.closePost handler) →
      Step s (.closePost i handler) ((s.goes i .clear).posts handler .stopped)
  | clear (i : Nat) : s.threads[i]? = some .clear →
      Step s (.clear i) ({ s with queue := { s.queue with theQueue := [] } }.returns i)
  | run (k : Nat) (handler : κ) (delivery : Delivery α) :
      s.posted[k]? = some (some handler, delivery) →
      Step s (.run k handler delivery)
        { s with posted := s.posted.eraseIdx k, running := s.running ++ [(handler, delivery)] }
  | complete (k : Nat) : k < s.running.length →
      Step s (.complete k) { s with running := s.running.eraseIdx k, turns := s.turns + 1 }

/-- The runs of a new queue whose steps meet a condition. -/
abbrev Runs (guard : QueueSystem κ α → QueueEvent κ α → Prop) :
    List (QueueEvent κ α) → QueueSystem κ α → Prop :=
  Run (Guarded Step guard) (· = {})

end QueueSystem

/-! ## What happened -/

namespace QueueEvent
variable {κ α : Type}

/-- The data that it stores. -/
def stored : QueueEvent κ α → List α
  | push data => [data]
  | _ => []

/-- The callback that `asyncPop` is called with. -/
def asked : QueueEvent κ α → List κ
  | asyncPop callback | asyncPopStopped callback => [callback]
  | _ => []

theorem length_asked_le (e : QueueEvent κ α) : e.asked.length ≤ 1 := by
  unfold asked
  split <;> simp

/-- What it posts. -/
def posts : QueueEvent κ α → List (Option κ × Delivery α)
  | asyncPopStopped callback => [(some callback, .stopped)]
  | post _ handler data => [(some handler, .ok data)]
  | drainStopped _ handler => [(some handler, .stopped)]
  | closePost _ handler => [(handler, .stopped)]
  | _ => []

/-- The handler that begins to run, and what with. -/
def ran : QueueEvent κ α → List (κ × Delivery α)
  | run _ handler delivery => [(handler, delivery)]
  | _ => []

/-- It is a call of `close`, or a section of one. -/
def Closing : QueueEvent κ α → Prop
  | close | closeAgain | closeCheck _ | closeTake _ | closePost _ _ | clear _ => True
  | _ => False

end QueueEvent

namespace QueueSystem
variable {κ α : Type}

section History

/-- The data that were stored, the first one first. -/
def stored (h : List (QueueEvent κ α)) : List α := h.reverse.flatMap (·.stored)

/-- The callbacks that `asyncPop` was called with. -/
def asked (h : List (QueueEvent κ α)) : List κ := h.reverse.flatMap (·.asked)

/-- What was posted, the first one first. -/
def allPosts (h : List (QueueEvent κ α)) : List (Option κ × Delivery α) :=
  h.reverse.flatMap (·.posts)

/-- The handlers that ran, the first one first. -/
def allRan (h : List (QueueEvent κ α)) : List (κ × Delivery α) := h.reverse.flatMap (·.ran)

variable (e : QueueEvent κ α) (h : List (QueueEvent κ α))

@[simp] theorem stored_cons : stored (e :: h) = stored h ++ e.stored := by
  simp [stored]

@[simp] theorem asked_cons : asked (e :: h) = asked h ++ e.asked := by
  simp [asked]

@[simp] theorem allPosts_cons : allPosts (e :: h) = allPosts h ++ e.posts := by
  simp [allPosts]

@[simp] theorem allRan_cons : allRan (e :: h) = allRan h ++ e.ran := by
  simp [allRan]

end History
/-! ## Where the callbacks are -/

/-- What the threads will post. -/
def inHand (s : QueueSystem κ α) : Multiset (κ × Option α) := holdings QueueThread.held s.threads

/-- The callbacks that are registered or in the hand of a thread. -/
def outstanding (s : QueueSystem κ α) : Multiset κ :=
  (s.queue.callback.toList : Multiset κ) + s.inHand.map Prod.fst

/-- The data in the hands of the threads. -/
def transit (s : QueueSystem κ α) : Multiset α := s.inHand.filterMap Prod.snd

/-- The callbacks of what was posted; an empty one is none. -/
def callbacksOf (posts : List (Option κ × Delivery α)) : List κ := posts.filterMap Prod.fst

variable {s s' : QueueSystem κ α} {e : QueueEvent κ α} {h : List (QueueEvent κ α)} {i : Nat}
  {t : QueueThread κ α}

theorem inHand_goes (ht : s.threads[i]? = some t) (t' : QueueThread κ α) :
    (s.goes i t').inHand + t.held = s.inHand + t'.held := holdings_set _ ht t'

theorem inHand_returns (ht : s.threads[i]? = some t) :
    (s.returns i).inHand + t.held = s.inHand := holdings_eraseIdx _ ht

/-- A thread that holds nothing goes on or returns. -/
theorem inHand_goes_of_held (ht : s.threads[i]? = some t) (hheld : t.held = 0)
    (t' : QueueThread κ α) : (s.goes i t').inHand = s.inHand + t'.held := by
  rw [← inHand_goes ht t', hheld, add_zero]

theorem inHand_returns_of_held (ht : s.threads[i]? = some t) (hheld : t.held = 0) :
    (s.returns i).inHand = s.inHand := by
  rw [← inHand_returns ht, hheld, add_zero]

/-- An operation begins. -/
theorem holdings_begin (hheld : t.held = 0) (l : List (QueueThread κ α)) :
    holdings QueueThread.held (l ++ [t]) = holdings QueueThread.held l := by
  rw [holdings_append, holdings_cons, holdings_nil, hheld, add_zero, add_zero]

theorem outstanding_congr (hcallback : s'.queue.callback = s.queue.callback)
    (hhand : s'.inHand = s.inHand) : s'.outstanding = s.outstanding := by
  rw [outstanding, outstanding, hcallback, hhand]

/-- The registered callback comes to the hand of a thread. -/
theorem outstanding_of_take {callback : κ} {data : Option α}
    (hcallback : s.queue.callback = some callback) (hnone : s'.queue.callback = none)
    (hhand : s'.inHand = s.inHand + {(callback, data)}) : s'.outstanding = s.outstanding := by
  rw [outstanding, outstanding, hcallback, hnone, hhand, Multiset.map_add, Multiset.map_singleton,
    add_comm (Multiset.map _ _), ← add_assoc]
  rfl

/-- A callback leaves the hand of a thread. -/
theorem outstanding_of_release {callback : κ} {data : Option α}
    (hcallback : s'.queue.callback = s.queue.callback)
    (hhand : s'.inHand + {(callback, data)} = s.inHand) :
    s.outstanding = {callback} + s'.outstanding := by
  rw [outstanding, outstanding, hcallback, ← hhand, Multiset.map_add, Multiset.map_singleton]
  abel

/-- **No step loses a callback or posts it again**: what `asyncPop` is called with comes to
those outstanding, and what is posted goes, if `asyncPop` finds none outstanding. -/
theorem step_outstanding (hstep : s.Step e s') (hone : e.asked ≠ [] → s.outstanding = 0) :
    (e.asked : Multiset κ) + s.outstanding = (callbacksOf e.posts : Multiset κ) + s'.outstanding := by
  have hquiet : ∀ {s' : QueueSystem κ α}, s'.outstanding = s.outstanding →
      (([] : List κ) : Multiset κ) + s.outstanding = (callbacksOf ([] : List (Option κ × Delivery α)) :
        Multiset κ) + s'.outstanding := fun h => by rw [h]; rfl
  cases hstep with
  | push data q hq =>
    obtain ⟨-, -, rfl⟩ := AsyncQueue.pushLocked_eq_some.mp hq
    exact hquiet (outstanding_congr rfl (holdings_begin rfl _))
  | pushRefused data hq => rfl
  | asyncPop callback q hq =>
    obtain ⟨-, rfl⟩ := AsyncQueue.asyncPopLocked_eq_some.mp hq
    have hzero := hone (List.cons_ne_nil _ _)
    have hhand : s.inHand.map Prod.fst = 0 := (add_eq_zero.mp hzero).2
    rw [hzero, outstanding, inHand, holdings_begin rfl]
    show _ = _ + (_ + s.inHand.map Prod.fst)
    rw [hhand]
    rfl
  | asyncPopStopped callback hq => rfl
  | niceClose => exact hquiet (outstanding_congr rfl (holdings_begin rfl _))
  | close q hq =>
    obtain ⟨-, rfl⟩ := AsyncQueue.closeLocked_eq_some.mp hq
    exact hquiet (outstanding_congr rfl (holdings_begin rfl _))
  | closeAgain hq => rfl
  | tryPopFound i handler d q ht hq =>
    obtain ⟨rest, hcallback, -, rfl⟩ := AsyncQueue.tryPopTake_eq_some.mp hq
    exact hquiet (outstanding_of_take hcallback rfl (inHand_goes_of_held ht rfl (.post handler d)))
  | tryPopNone i ht hq =>
    exact hquiet (outstanding_congr rfl ((inHand_goes_of_held ht rfl _).trans (add_zero _)))
  | post i handler d ht =>
    have hhand : (s.returns i).inHand + {(handler, some d)} = s.inHand := inHand_returns ht
    have hout : s.outstanding = {handler} + ((s.returns i).posts (some handler) (.ok d)).outstanding :=
      outstanding_of_release rfl hhand
    exact (zero_add _).trans hout
  | drainStopped i handler q ht hq =>
    obtain ⟨hcallback, -, -, rfl⟩ := AsyncQueue.tryPopDrain_eq_some.mp hq
    have hhand := inHand_returns_of_held ht rfl
    show 0 + s.outstanding = {handler} + (0 + Multiset.map Prod.fst (s.returns i).inHand)
    rw [hhand, outstanding, hcallback, zero_add, zero_add]
    rfl
  | drainNone i ht hq => exact hquiet (outstanding_congr rfl (inHand_returns_of_held ht rfl))
  | closeCheck i ht =>
    refine hquiet (outstanding_congr rfl ?_)
    rw [inHand_goes_of_held ht rfl]
    split <;> exact add_zero _
  | closeTake i ht =>
    have hhand := inHand_goes_of_held ht rfl (.closePost s.queue.callback)
    refine hquiet ?_
    cases hcallback : s.queue.callback with
    | none =>
      rw [hcallback] at hhand
      exact outstanding_congr hcallback.symm (hhand.trans (add_zero _))
    | some callback =>
      rw [hcallback] at hhand
      exact outstanding_of_take hcallback rfl hhand
  | closePost i handler ht =>
    have hhand := inHand_goes ht .clear
    rw [QueueThread.held, add_zero] at hhand
    cases handler with
    | none => exact hquiet (outstanding_congr rfl ((add_zero _).symm.trans hhand))
    | some callback =>
      have hout : s.outstanding =
          {callback} + ((s.goes i .clear).posts (some callback) .stopped).outstanding :=
        outstanding_of_release rfl hhand
      exact (zero_add _).trans hout
  | clear i ht => exact hquiet (outstanding_congr rfl (inHand_returns_of_held ht rfl))
  | run k handler delivery hk => rfl
  | complete k hk => rfl

/-! ## One callback at a time -/

/-- `asyncPop` is called only when no callback is outstanding. -/
def AtMostOne (s : QueueSystem κ α) (e : QueueEvent κ α) : Prop :=
  e.asked ≠ [] → s.outstanding = 0

/-- **The callbacks asked with are posted or outstanding**, each once, and at most one is
outstanding. -/
structure Conserved (h : List (QueueEvent κ α)) (s : QueueSystem κ α) : Prop where
  asked : (asked h : Multiset κ) = (callbacksOf (allPosts h) : Multiset κ) + s.outstanding
  one : s.outstanding.card ≤ 1

theorem Conserved.step (hs : Conserved h s) (hstep : s.Step e s') (hone : s.AtMostOne e) :
    Conserved (e :: h) s' := by
  have hout := step_outstanding hstep hone
  constructor
  · rw [asked_cons, allPosts_cons, callbacksOf, List.filterMap_append, ← Multiset.coe_add,
      ← Multiset.coe_add, add_assoc, ← callbacksOf, ← callbacksOf, ← hout, hs.asked]
    abel
  · have hcard := congrArg Multiset.card hout
    simp only [Multiset.card_add, Multiset.coe_card] at hcard
    have hone' := hs.one
    by_cases hasked : e.asked = []
    · rw [hasked, List.length_nil] at hcard
      omega
    · have hlen := e.length_asked_le
      rw [hone hasked, Multiset.card_zero] at hcard
      omega

/-- **The data are posted in the order in which they were stored**, each once: those in
the hands come next, then those in the queue. -/
def InOrder (h : List (QueueEvent κ α)) (s : QueueSystem κ α) : Prop :=
  ∃ next : List α, (next : Multiset α) = s.transit ∧
    stored h = AsyncQueue.handedOver (allPosts h) ++ next ++ s.queue.theQueue

theorem transit_congr (hhand : s'.inHand = s.inHand) : s'.transit = s.transit := by
  rw [transit, transit, hhand]

/-- A thread holds no data before and after. -/
theorem transit_goes (ht : s.threads[i]? = some t) {t' : QueueThread κ α}
    (hdata : t.held.filterMap Prod.snd = 0) (hdata' : t'.held.filterMap Prod.snd = 0) :
    (s.goes i t').transit = s.transit := by
  have hhand := congrArg (Multiset.filterMap Prod.snd) (inHand_goes ht t')
  rw [Multiset.filterMap_add, Multiset.filterMap_add, hdata, hdata', add_zero, add_zero] at hhand
  exact hhand

/-- A step that stores and posts no data. -/
theorem InOrder.quiet (ho : InOrder h s) (htransit : s'.transit = s.transit)
    (hqueue : s'.queue.theQueue = s.queue.theQueue) (hstored : e.stored = [])
    (hposts : AsyncQueue.handedOver e.posts = []) : InOrder (e :: h) s' := by
  obtain ⟨next, hnext, hall⟩ := ho
  refine ⟨next, hnext.trans htransit.symm, ?_⟩
  rw [stored_cons, hstored, List.append_nil, hall, hqueue, allPosts_cons]
  rw [AsyncQueue.handedOver, AsyncQueue.handedOver, List.filterMap_append]
  rw [AsyncQueue.handedOver] at hposts
  rw [hposts, List.append_nil]

theorem InOrder.step (ho : InOrder h s) (hone : s.outstanding.card ≤ 1) (hstep : s.Step e s')
    (hclear : ∀ i, e ≠ .clear i) : InOrder (e :: h) s' := by
  cases hstep with
  | push data q hq =>
    obtain ⟨-, -, rfl⟩ := AsyncQueue.pushLocked_eq_some.mp hq
    obtain ⟨next, hnext, hall⟩ := ho
    refine ⟨next, hnext.trans ?_, ?_⟩
    · symm
      exact transit_congr (holdings_begin rfl _)
    · simp [QueueEvent.stored, QueueEvent.posts, hall]
  | pushRefused data hq => exact ho.quiet rfl rfl rfl rfl
  | asyncPop callback q hq =>
    obtain ⟨-, rfl⟩ := AsyncQueue.asyncPopLocked_eq_some.mp hq
    exact ho.quiet (transit_congr (holdings_begin rfl _)) rfl rfl rfl
  | asyncPopStopped callback hq => exact ho.quiet rfl rfl rfl rfl
  | niceClose => exact ho.quiet (transit_congr (holdings_begin rfl _)) rfl rfl rfl
  | close q hq =>
    obtain ⟨-, rfl⟩ := AsyncQueue.closeLocked_eq_some.mp hq
    exact ho.quiet (transit_congr (holdings_begin rfl _)) rfl rfl rfl
  | closeAgain hq => exact ho.quiet rfl rfl rfl rfl
  | tryPopFound i handler d q ht hq =>
    obtain ⟨rest, hcallback, hqueue, rfl⟩ := AsyncQueue.tryPopTake_eq_some.mp hq
    obtain ⟨next, hnext, hall⟩ := ho
    -- the callback is the one that is outstanding, so no thread has data
    have hhand : s.inHand = 0 := by
      rw [outstanding, hcallback, Multiset.card_add, Multiset.card_map] at hone
      exact Multiset.card_eq_zero.mp (Nat.le_zero.mp (Nat.le_of_add_le_add_left hone))
    rw [transit, hhand, Multiset.filterMap_zero, Multiset.coe_eq_zero] at hnext
    subst hnext
    refine ⟨[d], ?_, ?_⟩
    · have hhand' := inHand_goes_of_held ht rfl (.post handler d)
      rw [hhand, zero_add] at hhand'
      show _ = (s.goes i (.post handler d)).transit
      rw [transit, hhand']
      rfl
    · rw [hqueue] at hall
      simpa [QueueEvent.stored, QueueEvent.posts, goes] using hall
  | tryPopNone i ht hq => exact ho.quiet (transit_goes ht rfl rfl) rfl rfl rfl
  | post i handler d ht =>
    obtain ⟨next, hnext, hall⟩ := ho
    have hhand : (s.returns i).inHand + {(handler, some d)} = s.inHand := inHand_returns ht
    have hempty : (s.returns i).inHand = 0 := by
      rw [outstanding, Multiset.card_add, Multiset.card_map, ← hhand, Multiset.card_add,
        Multiset.card_singleton] at hone
      exact Multiset.card_eq_zero.mp (by omega)
    rw [transit, ← hhand, hempty, zero_add] at hnext
    obtain rfl : next = [d] := Multiset.coe_eq_singleton.mp hnext
    refine ⟨[], ?_, ?_⟩
    · show _ = (s.returns i).transit
      rw [transit, hempty]
      rfl
    · rw [stored_cons, hall, allPosts_cons]
      simp [AsyncQueue.handedOver, QueueEvent.posts, QueueEvent.stored, posts, returns]
  | drainStopped i handler q ht hq =>
    obtain ⟨-, -, -, rfl⟩ := AsyncQueue.tryPopDrain_eq_some.mp hq
    exact ho.quiet (transit_congr (inHand_returns_of_held ht rfl)) rfl rfl rfl
  | drainNone i ht hq => exact ho.quiet (transit_congr (inHand_returns_of_held ht rfl)) rfl rfl rfl
  | closeCheck i ht =>
    refine ho.quiet (transit_goes ht rfl ?_) rfl rfl rfl
    split <;> rfl
  | closeTake i ht =>
    refine ho.quiet (transit_goes ht rfl ?_) rfl rfl rfl
    cases s.queue.callback with
    | none => rfl
    | some callback => rfl
  | closePost i handler ht =>
    refine ho.quiet (transit_goes ht ?_ rfl) rfl rfl rfl
    cases handler with
    | none => rfl
    | some callback => rfl
  | clear i ht => exact absurd rfl (hclear i)
  | run k handler delivery hk => exact ho.quiet rfl rfl rfl rfl
  | complete k hk => exact ho.quiet rfl rfl rfl rfl

/-! ## No lost wake-up -/

/-- Where there is something to do for `tryPop`, a thread has still to try. -/
structure Awake (s : QueueSystem κ α) : Prop where
  data : s.queue.callback ≠ none → s.queue.theQueue ≠ [] → .tryPop ∈ s.threads
  stop : s.queue.callback ≠ none → s.queue.niceStopped = true →
    .tryPop ∈ s.threads ∨ .tryPopDrain ∈ s.threads

/-- A thread that is elsewhere stays there when another one goes on or returns. -/
theorem mem_goes {t₁ : QueueThread κ α} (ht : s.threads[i]? = some t) (hne : t₁ ≠ t)
    (h₁ : t₁ ∈ s.threads) (t' : QueueThread κ α) : t₁ ∈ (s.goes i t').threads := by
  obtain ⟨j, hj⟩ := List.mem_iff_getElem?.mp h₁
  have hij : i ≠ j := by
    rintro rfl
    rw [ht] at hj
    exact hne (Option.some.inj hj).symm
  refine List.mem_iff_getElem?.mpr ⟨j, ?_⟩
  rw [goes, List.getElem?_set_ne hij, hj]

theorem mem_returns {t₁ : QueueThread κ α} (ht : s.threads[i]? = some t) (hne : t₁ ≠ t)
    (h₁ : t₁ ∈ s.threads) : t₁ ∈ (s.returns i).threads := by
  obtain ⟨j, hj⟩ := List.mem_iff_getElem?.mp h₁
  refine List.mem_eraseIdx_iff_getElem?.mpr ⟨j, ?_, hj⟩
  rintro rfl
  rw [ht] at hj
  exact hne (Option.some.inj hj).symm

/-- The thread that goes on is where it goes. -/
theorem mem_goes_self (ht : s.threads[i]? = some t) (t' : QueueThread κ α) :
    t' ∈ (s.goes i t').threads := by
  have hi : i < s.threads.length := (List.getElem?_eq_some_iff.mp ht).1
  exact List.mem_set hi t'

/-- A step that leaves the queue as it is, and the threads that will still try. -/
theorem Awake.keep (hs : s.Awake) (hqueue : s'.queue = s.queue)
    (htry : .tryPop ∈ s.threads → .tryPop ∈ s'.threads)
    (hdrain : .tryPopDrain ∈ s.threads → .tryPopDrain ∈ s'.threads) : s'.Awake := by
  constructor
  · rw [hqueue]
    exact fun hcallback hdata => htry (hs.data hcallback hdata)
  · rw [hqueue]
    exact fun hcallback hnice => (hs.stop hcallback hnice).imp htry hdrain

/-- No callback is registered. -/
theorem awake_of_none (hnone : s.queue.callback = none) : s.Awake :=
  ⟨fun hcallback => absurd hnone hcallback, fun hcallback => absurd hnone hcallback⟩

/-- A thread is about to try. -/
theorem awake_of_tryPop (htry : .tryPop ∈ s.threads) : s.Awake :=
  ⟨fun _ _ => htry, fun _ _ => Or.inl htry⟩

theorem Awake.step (hs : s.Awake) (hstep : s.Step e s') : s'.Awake := by
  cases hstep with
  | push data q hq => exact awake_of_tryPop (List.mem_append_right _ List.mem_cons_self)
  | pushRefused data hq => exact hs
  | asyncPop callback q hq => exact awake_of_tryPop (List.mem_append_right _ List.mem_cons_self)
  | asyncPopStopped callback hq => exact hs.keep rfl id id
  | niceClose => exact awake_of_tryPop (List.mem_append_right _ List.mem_cons_self)
  | close q hq =>
    obtain ⟨-, rfl⟩ := AsyncQueue.closeLocked_eq_some.mp hq
    constructor
    · exact fun hcallback hdata => List.mem_append_left _ (hs.data hcallback hdata)
    · intro hcallback hnice
      exact (hs.stop hcallback hnice).imp (List.mem_append_left _) (List.mem_append_left _)
  | closeAgain hq => exact hs
  | tryPopFound i handler d q ht hq =>
    obtain ⟨rest, -, -, rfl⟩ := AsyncQueue.tryPopTake_eq_some.mp hq
    exact awake_of_none rfl
  | tryPopNone i ht hq =>
    -- a callback without data: the thread goes on to look whether the queue was drained
    have hnone := AsyncQueue.tryPopTake_eq_none.mp hq
    constructor
    · intro hcallback hdata
      rcases hnone with hnone | hnone
      · exact absurd hnone hcallback
      · exact absurd hnone hdata
    · exact fun _ _ => Or.inr (mem_goes_self ht _)
  | post i handler d ht =>
    exact hs.keep rfl (fun h₁ => mem_returns ht (by simp) h₁) fun h₁ => mem_returns ht (by simp) h₁
  | drainStopped i handler q ht hq =>
    obtain ⟨-, -, -, rfl⟩ := AsyncQueue.tryPopDrain_eq_some.mp hq
    exact awake_of_none rfl
  | drainNone i ht hq =>
    have htry : .tryPop ∈ s.threads → .tryPop ∈ (s.returns i).threads :=
      fun h₁ => mem_returns ht (by simp) h₁
    constructor
    · exact fun hcallback hdata => htry (hs.data hcallback hdata)
    · intro hcallback hnice
      -- the queue was not drained, so it is not empty
      rcases AsyncQueue.tryPopDrain_eq_none.mp hq with hnone | hdata | hopen
      · exact absurd hnone hcallback
      · exact Or.inl (htry (hs.data hcallback hdata))
      · have hnice : s.queue.niceStopped = true := hnice
        rw [hopen] at hnice
        cases hnice
  | closeCheck i ht =>
    exact hs.keep rfl (fun h₁ => mem_goes ht (by simp) h₁ _) fun h₁ => mem_goes ht (by simp) h₁ _
  | closeTake i ht => exact awake_of_none rfl
  | closePost i handler ht =>
    exact hs.keep rfl (fun h₁ => mem_goes ht (by simp) h₁ _) fun h₁ => mem_goes ht (by simp) h₁ _
  | clear i ht =>
    constructor
    · exact fun _ hdata => absurd rfl hdata
    · intro hcallback hnice
      exact (hs.stop hcallback hnice).imp (mem_returns ht (by simp)) (mem_returns ht (by simp))
  | run k handler delivery hk => exact hs.keep rfl id id
  | complete k hk => exact hs.keep rfl id id

end QueueSystem
end ShapingRouter
