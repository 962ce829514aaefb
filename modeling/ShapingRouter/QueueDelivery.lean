import Mathlib
import ShapingRouter.QueueInterleaved

/-! # Delivery to one consumer

A consumer asks for data once, and then again whenever the handler of the last call has
completed, while any number of threads push.  The consumer's turn is one token: it is the
consumer's to ask with, or a callback that is registered or in the hand of a thread, or a
handler that is posted or runs (`Delivering.token`).  So no two handlers are under way,
the handlers run in the order in which they were posted, and the data reach the consumer
in the order in which they were stored.
-/

namespace ShapingRouter
open Library

namespace QueueSystem
variable {κ α : Type} {s s' : QueueSystem κ α} {e : QueueEvent κ α} {h : List (QueueEvent κ α)}

/-- Nobody closes the queue, and the consumer asks when it is its turn. -/
structure InTurn (s : QueueSystem κ α) (e : QueueEvent κ α) : Prop where
  turn : e.asked ≠ [] → 0 < s.turns
  niceClose : e ≠ .niceClose
  close : ¬e.Closing

/-- The data that were delivered: those that a handler was run with. -/
def delivered (h : List (QueueEvent κ α)) : List α := AsyncQueue.handedOver (allRan h)

/-- A handler completes. -/
def completed : QueueEvent κ α → Nat
  | .complete _ => 1
  | _ => 0

/-- What a step does to the `io_service` and to the consumer's turns. -/
theorem step_counts (hstep : s.Step e s') :
    s'.posted.length + e.ran.length = s.posted.length + e.posts.length ∧
      s'.running.length + completed e = s.running.length + e.ran.length ∧
      s'.turns = s.turns - e.asked.length + completed e := by
  cases hstep with
  | run k handler delivery hk =>
    have hlt : k < s.posted.length := (List.getElem?_eq_some_iff.mp hk).1
    refine ⟨?_, ?_, rfl⟩
    · rw [List.length_eraseIdx_of_lt hlt]
      show s.posted.length - 1 + 1 = s.posted.length + 0
      omega
    · simp [completed, QueueEvent.ran]
  | complete k hk =>
    refine ⟨rfl, ?_, rfl⟩
    rw [List.length_eraseIdx_of_lt hk]
    show s.running.length - 1 + 1 = s.running.length + 0
    omega
  | _ => simp [completed, QueueEvent.ran, QueueEvent.posts, QueueEvent.asked, posts, goes, returns]

/-- Only `close` posts an empty callback. -/
theorem length_callbacksOf (hclose : ¬e.Closing) : (callbacksOf e.posts).length = e.posts.length := by
  cases e with
  | closePost i handler => exact absurd trivial hclose
  | _ => rfl

/-- **What holds while the consumer takes turns.** -/
structure Delivering (h : List (QueueEvent κ α)) (s : QueueSystem κ α) : Prop where
  token : s.turns + s.outstanding.card + s.posted.length + s.running.length = 1
  conserved : Conserved h s
  inOrder : InOrder h s
  awake : s.Awake
  fifo : allPosts h = (allRan h).map (fun p => (some p.1, p.2)) ++ s.posted

theorem delivering_start : Delivering [] ({} : QueueSystem κ α) where
  token := rfl
  conserved := ⟨rfl, Nat.zero_le 1⟩
  inOrder := ⟨[], rfl, rfl⟩
  awake := awake_of_none rfl
  fifo := rfl

/-- The only handler that is posted is the one to run. -/
theorem fifo_run (hone : s.posted.length ≤ 1) {k : Nat} {p : Option κ × Delivery α}
    (hk : s.posted[k]? = some p) : s.posted = [p] ∧ s.posted.eraseIdx k = [] := by
  obtain ⟨hlt, hget⟩ := List.getElem?_eq_some_iff.mp hk
  obtain ⟨p', hp'⟩ := List.length_eq_one_iff.mp (Nat.le_antisymm hone (by omega))
  obtain rfl : k = 0 := by omega
  simp only [hp', List.getElem_cons_zero] at hget
  subst hget
  exact ⟨hp', by rw [hp']; rfl⟩

theorem step_fifo (hfifo : allPosts h = (allRan h).map (fun p => (some p.1, p.2)) ++ s.posted)
    (hone : s.posted.length ≤ 1) (hstep : s.Step e s') :
    allPosts (e :: h) = (allRan (e :: h)).map (fun p => (some p.1, p.2)) ++ s'.posted := by
  rw [allPosts_cons, allRan_cons, List.map_append, hfifo]
  cases hstep with
  | run k handler delivery hk =>
    obtain ⟨hposted, herase⟩ := fifo_run hone hk
    rw [herase, hposted]
    simp [QueueEvent.posts, QueueEvent.ran]
  | _ => simp [QueueEvent.posts, QueueEvent.ran, posts, goes, returns]

theorem Delivering.step (hs : Delivering h s) (hstep : s.Step e s') (hturn : s.InTurn e) :
    Delivering (e :: h) s' := by
  have htoken := hs.token
  -- when it is the consumer's turn, the token is nowhere else
  have hone : s.AtMostOne e := by
    intro hasked
    have hpos := hturn.turn hasked
    exact Multiset.card_eq_zero.mp (by omega)
  have hout := congrArg Multiset.card (step_outstanding hstep hone)
  rw [Multiset.card_add, Multiset.card_add, Multiset.coe_card, Multiset.coe_card,
    length_callbacksOf hturn.close] at hout
  obtain ⟨hposted, hrunning, hturns⟩ := step_counts hstep
  constructor
  · have hasked : e.asked.length ≤ s.turns := by
      by_cases hasked : e.asked = []
      · simp [hasked]
      · exact e.length_asked_le.trans (hturn.turn hasked)
    omega
  · exact hs.conserved.step hstep hone
  · apply hs.inOrder.step hs.conserved.one hstep
    rintro i rfl
    exact hturn.close trivial
  · exact hs.awake.step hstep
  · exact step_fifo hs.fifo (by omega) hstep

theorem delivering_run (run : Runs InTurn h s) : Delivering h s := by
  induction run with
  | start hs =>
    subst hs
    exact delivering_start
  | step _ hstep ih => exact ih.step hstep.1 hstep.2

/-- **Delivery in order, once, and with no lost wake-up.**  However the pushes and the
consumer's calls are interleaved, the data delivered are a first part of the data stored,
at most one handler is posted or runs, and when no thread is inside of an operation the
queue is empty or no callback is registered. -/
theorem queue_delivers (run : Runs InTurn h s) :
    delivered h <+: stored h ∧ s.posted.length + s.running.length ≤ 1 ∧
      (s.threads = [] → s.queue.theQueue = [] ∨ s.queue.callback = none) := by
  have hs := delivering_run run
  have htoken := hs.token
  refine ⟨?_, by omega, fun hquiet => ?_⟩
  · obtain ⟨next, -, hall⟩ := hs.inOrder
    have hposts : AsyncQueue.handedOver (allPosts h) =
        delivered h ++ AsyncQueue.handedOver s.posted := by
      rw [hs.fifo, delivered]
      simp [AsyncQueue.handedOver, List.filterMap_append, List.filterMap_map]
    rw [hall, hposts, List.append_assoc, List.append_assoc]
    exact List.prefix_append _ _
  · by_contra hboth
    rw [not_or] at hboth
    have htry := hs.awake.data hboth.2 hboth.1
    rw [hquiet] at htry
    cases htry

/-- Two pushes race with the first call of `asyncPop`: the thread of the second push takes
the callback, with the first datum. -/
theorem queue_delivers_race : ∃ (h : List (QueueEvent Nat String)) (s : QueueSystem Nat String),
    Runs InTurn h s ∧ stored h = ["a", "b"] ∧ delivered h = ["a"] ∧ s.threads = [] ∧
      delivered h <+: stored h ∧ s.posted.length + s.running.length ≤ 1 ∧
      (s.queue.theQueue = [] ∨ s.queue.callback = none) := by
  have run : Runs InTurn _ _ :=
    .step (.step (.step (.step (.step (.step (.step (.step (.step (.step (.start rfl)
      ⟨.push "a" _ rfl, by simp [QueueEvent.asked], by simp, id⟩)
      ⟨.push "b" _ rfl, by simp [QueueEvent.asked], by simp, id⟩)
      ⟨.asyncPop 7 _ rfl, fun _ => Nat.one_pos, by simp, id⟩)
      ⟨.tryPopFound 1 7 "a" _ rfl rfl, by simp [QueueEvent.asked], by simp, id⟩)
      ⟨.tryPopNone 0 rfl rfl, by simp [QueueEvent.asked], by simp, id⟩)
      ⟨.drainNone 0 rfl rfl, by simp [QueueEvent.asked], by simp, id⟩)
      ⟨.tryPopNone 1 rfl rfl, by simp [QueueEvent.asked], by simp, id⟩)
      ⟨.drainNone 1 rfl rfl, by simp [QueueEvent.asked], by simp, id⟩)
      ⟨.post 0 7 "a" rfl, by simp [QueueEvent.asked], by simp, id⟩)
      ⟨.run 0 7 (.ok "a") rfl, by simp [QueueEvent.asked], by simp, id⟩
  obtain ⟨hdelivered, hone, hquiet⟩ := queue_delivers run
  exact ⟨_, _, run, rfl, rfl, rfl, hdelivered, hone, hquiet rfl⟩

end QueueSystem
end ShapingRouter
