import Mathlib

/-! # AsyncQueue

A queue of data with at most one registered callback.  Where the code posts a
callback to the `io_service`, the functions here return it: each answers the
queue afterwards and what was posted.  `tryPop` hands the front of the queue to
the callback when there are both, and is what every other operation ends in.
-/

namespace ShapingRouter

/-- What a callback is called with: data and the code `ok`, or the code
`stopped`. -/
inductive Delivery (α : Type)
  | ok (data : α)
  | stopped
  deriving DecidableEq, Repr

/-- `AsyncQueue<Data>`, with callbacks `κ`. -/
structure AsyncQueue (κ α : Type) where
  theQueue : List α := []
  callback : Option κ := none
  stopped : Bool := false
  niceStopped : Bool := false

namespace AsyncQueue
variable {κ α : Type}

/-- Data, or the notice that a nice stop has emptied the queue, goes to the
callback. -/
def tryPop (q : AsyncQueue κ α) : AsyncQueue κ α × List (κ × Delivery α) :=
  match q.callback, q.theQueue with
  | some handler, d :: rest =>
    ({ q with theQueue := rest, callback := none }, [(handler, .ok d)])
  | some handler, [] =>
    if q.niceStopped then ({ q with callback := none }, [(handler, .stopped)]) else (q, [])
  | none, _ => (q, [])

def push (q : AsyncQueue κ α) (data : α) : AsyncQueue κ α × List (κ × Delivery α) :=
  if q.stopped || q.niceStopped then (q, [])
  else tryPop { q with theQueue := q.theQueue ++ [data] }

def asyncPop (q : AsyncQueue κ α) (callback : κ) : AsyncQueue κ α × List (κ × Delivery α) :=
  if q.stopped then (q, [(callback, .stopped)])
  else tryPop { q with callback := some callback }

def niceClose (q : AsyncQueue κ α) : AsyncQueue κ α × List (κ × Delivery α) :=
  tryPop { q with niceStopped := true }

def close (q : AsyncQueue κ α) : AsyncQueue κ α × List (κ × Delivery α) :=
  if q.stopped then (q, [])
  else ({ q with stopped := true, callback := none, theQueue := [] },
    q.callback.toList.map (·, .stopped))

/-- The data handed over by what was posted. -/
def handedOver (posted : List (κ × Delivery α)) : List α :=
  posted.filterMap fun p => match p.2 with | .ok data => some data | .stopped => none

/-- Neither `close` nor `niceClose` has been called. -/
def Open (q : AsyncQueue κ α) : Prop := q.stopped = false ∧ q.niceStopped = false

variable {q : AsyncQueue κ α}

/-! ## No operation loses or reorders data -/

theorem tryPop_data : handedOver q.tryPop.2 ++ q.tryPop.1.theQueue = q.theQueue := by
  unfold tryPop
  split
  · rename_i hq
    rw [hq]
    rfl
  · rename_i hq
    split <;> simp [handedOver, hq]
  · rfl

/-- What is pushed to an open queue comes after what is in it. -/
theorem push_data (ho : q.Open) (data : α) :
    handedOver (q.push data).2 ++ (q.push data).1.theQueue = q.theQueue ++ [data] := by
  simp only [push, ho.1, ho.2, Bool.or_self, Bool.false_eq_true, if_false]
  exact tryPop_data

theorem asyncPop_data (handler : κ) :
    handedOver (q.asyncPop handler).2 ++ (q.asyncPop handler).1.theQueue = q.theQueue := by
  unfold asyncPop
  split
  · rfl
  · exact tryPop_data

/-! ## An open queue -/

/-- A push to an open queue that no callback waits for. -/
theorem push_of_none (ho : q.Open) (hc : q.callback = none) (data : α) :
    q.push data = ({ q with theQueue := q.theQueue ++ [data] }, []) := by
  simp [push, tryPop, ho.1, ho.2, hc]

/-- A push to an open queue whose callback waits because it is empty. -/
theorem push_of_some (ho : q.Open) {handler : κ} (hc : q.callback = some handler)
    (hq : q.theQueue = []) (data : α) :
    q.push data = ({ q with theQueue := [], callback := none }, [(handler, .ok data)]) := by
  simp [push, tryPop, ho.1, ho.2, hc, hq]

/-- A callback waits on an empty open queue. -/
theorem asyncPop_of_nil (ho : q.Open) (hq : q.theQueue = []) (handler : κ) :
    q.asyncPop handler = ({ q with callback := some handler }, []) := by
  simp [asyncPop, tryPop, ho.1, ho.2, hq]

/-- A callback takes the front of an open queue. -/
theorem asyncPop_of_cons (ho : q.Open) {d : α} {rest : List α} (hq : q.theQueue = d :: rest)
    (handler : κ) :
    q.asyncPop handler =
      ({ q with theQueue := rest, callback := none }, [(handler, .ok d)]) := by
  simp [asyncPop, tryPop, ho.1, hq]

@[simp] theorem tryPop_stopped : q.tryPop.1.stopped = q.stopped := by
  unfold tryPop
  split
  · rfl
  · split <;> rfl
  · rfl

@[simp] theorem tryPop_niceStopped : q.tryPop.1.niceStopped = q.niceStopped := by
  unfold tryPop
  split
  · rfl
  · split <;> rfl
  · rfl

/-- Pushing and popping do not open or close a queue. -/
theorem push_open (data : α) : (q.push data).1.Open ↔ q.Open := by
  unfold push
  split
  · rfl
  · simp [Open]

theorem asyncPop_open (handler : κ) : (q.asyncPop handler).1.Open ↔ q.Open := by
  unfold asyncPop
  split
  · rfl
  · simp [Open]

/-- A closed queue is not open. -/
theorem not_open_niceClose : ¬ (q.niceClose).1.Open := by
  simp [niceClose, Open]

theorem not_open_close : ¬ (q.close).1.Open := by
  unfold close
  split
  · rename_i h
    simp [Open, h]
  · simp [Open]

end AsyncQueue
end ShapingRouter
