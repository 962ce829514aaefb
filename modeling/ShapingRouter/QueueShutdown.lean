import Mathlib
import ShapingRouter.QueueInterleaved

/-! # Shutting a queue down

A queue is shut down by `close`, which stops it at once and notifies the callback, or by
`niceClose`, after which the data in it are still delivered.  A callback that is called
for is posted once, with data or with the notice (`ShutsDown`).

`close` looks at `callback_` outside of the mutex and takes it in a section of its own.
In between a thread inside of `tryPop` may take the callback; `close` then posts an empty
one.  And a second call of `close` returns at once, when the first one may not yet have
taken the callback.  Where neither happens (`CloseUndisturbed`), all is well
(`queue_shuts_down`).
-/

namespace ShapingRouter
open Library

/-- The thread is inside of `close`. -/
def QueueThread.Closes {κ α : Type} : QueueThread κ α → Prop
  | closeCheck | closeTake | closePost _ | clear => True
  | tryPop | post _ _ | tryPopDrain => False

/-- The thread is inside of `close`, and is done with the callback. -/
def QueueThread.HasTaken {κ α : Type} : QueueThread κ α → Prop
  | closePost _ | clear => True
  | tryPop | post _ _ | tryPopDrain | closeCheck | closeTake => False

namespace QueueEvent
variable {κ α : Type}

/-- A call of `close` returns. -/
def ClosingReturns : QueueEvent κ α → Prop
  | closeAgain | clear _ => True
  | _ => False

/-- A callback is posted with the code `stopped`. -/
def Notifies (e : QueueEvent κ α) : Prop := ∃ handler, (handler, Delivery.stopped) ∈ e.posts

end QueueEvent

namespace QueueSystem
variable {κ α : Type} {s s' : QueueSystem κ α} {e : QueueEvent κ α} {h : List (QueueEvent κ α)}
  {i : Nat} {t : QueueThread κ α}

/-- What a shutdown owes.  A callback is posted once, or is still outstanding, which it is
no more when a queue was shut down and no thread is inside of an operation; it is not
registered when a call of `close` has returned; no empty callback is posted; and without
`close`, all data that were ever stored are posted before the first notice. -/
structure ShutsDown (h : List (QueueEvent κ α)) (s : QueueSystem κ α) : Prop where
  once : (asked h : Multiset κ) = (callbacksOf (allPosts h) : Multiset κ) + s.outstanding
  quiet : s.threads = [] → s.queue.stopped = true ∨ s.queue.niceStopped = true →
    (asked h : Multiset κ) = (callbacksOf (allPosts h) : Multiset κ)
  closed : (∃ e ∈ h, e.ClosingReturns) → s.queue.callback = none
  nonempty : ∀ p ∈ allPosts h, p.1 ≠ none
  drained : (∀ e ∈ h, ¬e.Closing) → ∀ h₁ e h₂, h = h₁ ++ e :: h₂ → e.Notifies →
    AsyncQueue.handedOver (allPosts h₂) = stored h

/-- The callback that `close` saw registered is registered when it takes it, and where
`close` returns at once none is. -/
structure CloseUndisturbed (s : QueueSystem κ α) (e : QueueEvent κ α) : Prop where
  taken : ∀ i, e = .closeTake i → s.queue.callback ≠ none
  again : e = .closeAgain → s.queue.callback = none

/-! ## Closing -/

/-- **Closing**: only a stopped queue is being closed; while a callback is registered with
a stopped queue, `close` has still to take it, and then there is none. -/
structure ClosesDown (s : QueueSystem κ α) : Prop where
  stopped : ∀ t ∈ s.threads, t.Closes → s.queue.stopped = true
  held : s.queue.stopped = true → s.queue.callback ≠ none →
    .closeCheck ∈ s.threads ∨ .closeTake ∈ s.threads
  taken : ∀ t ∈ s.threads, t.HasTaken → s.queue.callback = none

theorem forall_threads_goes {P : QueueThread κ α → Prop} (h : ∀ t ∈ s.threads, P t)
    {t' : QueueThread κ α} (ht' : P t') : ∀ t ∈ (s.goes i t').threads, P t := by
  intro t ht
  rcases List.mem_or_eq_of_mem_set ht with hmem | rfl
  · exact h t hmem
  · exact ht'

theorem forall_threads_returns {P : QueueThread κ α → Prop} (h : ∀ t ∈ s.threads, P t) :
    ∀ t ∈ (s.returns i).threads, P t :=
  fun t ht => h t (List.mem_of_mem_eraseIdx ht)

theorem forall_threads_begin {P : QueueThread κ α → Prop} {l : List (QueueThread κ α)}
    (h : ∀ t ∈ l, P t) {t' : QueueThread κ α} (ht' : P t') : ∀ t ∈ l ++ [t'], P t := by
  intro t ht
  rcases List.mem_append.mp ht with hmem | hmem
  · exact h t hmem
  · obtain rfl := List.mem_singleton.mp hmem
    exact ht'

/-- A step that leaves the callback, and the threads that will still take it. -/
theorem ClosesDown.keep (hs : s.ClosesDown) (hstopped : s'.queue.stopped = s.queue.stopped)
    (hcallback : s'.queue.callback = s.queue.callback)
    (hcloses : ∀ t ∈ s'.threads, t.Closes → s.queue.stopped = true)
    (htaken : ∀ t ∈ s'.threads, t.HasTaken → s.queue.callback = none)
    (hcheck : .closeCheck ∈ s.threads → .closeCheck ∈ s'.threads)
    (htake : .closeTake ∈ s.threads → .closeTake ∈ s'.threads) : s'.ClosesDown := by
  constructor
  · rw [hstopped]
    exact hcloses
  · rw [hstopped, hcallback]
    exact fun hstop hne => (hs.held hstop hne).imp hcheck htake
  · rw [hcallback]
    exact htaken

/-- No callback is registered. -/
theorem closesDown_of_none (hnone : s.queue.callback = none)
    (hcloses : ∀ t ∈ s.threads, t.Closes → s.queue.stopped = true) : s.ClosesDown :=
  ⟨hcloses, fun _ hne => absurd hnone hne, fun _ _ _ => hnone⟩

theorem ClosesDown.step (hs : s.ClosesDown) (hstep : s.Step e s') : s'.ClosesDown := by
  cases hstep with
  | push data q hq =>
    obtain ⟨-, -, rfl⟩ := AsyncQueue.pushLocked_eq_some.mp hq
    exact hs.keep rfl rfl (forall_threads_begin hs.stopped False.elim)
      (forall_threads_begin hs.taken False.elim) (List.mem_append_left _) (List.mem_append_left _)
  | pushRefused data hq => exact hs
  | asyncPop callback q hq =>
    obtain ⟨hopen, rfl⟩ := AsyncQueue.asyncPopLocked_eq_some.mp hq
    -- nobody is closing a queue that is not stopped
    have hnot : ∀ t ∈ s.threads, ¬t.Closes := by
      intro t ht hcloses
      rw [hs.stopped t ht hcloses] at hopen
      cases hopen
    constructor
    · exact forall_threads_begin hs.stopped False.elim
    · intro hstop
      have hstop : s.queue.stopped = true := hstop
      rw [hopen] at hstop
      cases hstop
    · refine forall_threads_begin (fun t ht htaken => absurd ?_ (hnot t ht)) False.elim
      cases t with
      | closePost handler => exact trivial
      | clear => exact trivial
      | tryPop | post handler d | tryPopDrain | closeCheck | closeTake => exact htaken.elim
  | asyncPopStopped callback hq =>
    exact hs.keep rfl rfl hs.stopped hs.taken id id
  | niceClose =>
    exact hs.keep rfl rfl (forall_threads_begin hs.stopped False.elim)
      (forall_threads_begin hs.taken False.elim) (List.mem_append_left _) (List.mem_append_left _)
  | close q hq =>
    obtain ⟨-, rfl⟩ := AsyncQueue.closeLocked_eq_some.mp hq
    refine ⟨fun _ _ _ => rfl, fun _ _ => ?_, forall_threads_begin hs.taken False.elim⟩
    exact Or.inl (List.mem_append_right _ List.mem_cons_self)
  | closeAgain hq => exact hs
  | tryPopFound i handler d q ht hq =>
    obtain ⟨rest, -, -, rfl⟩ := AsyncQueue.tryPopTake_eq_some.mp hq
    exact closesDown_of_none rfl (forall_threads_goes hs.stopped False.elim)
  | tryPopNone i ht hq =>
    exact hs.keep rfl rfl (forall_threads_goes hs.stopped False.elim)
      (forall_threads_goes hs.taken False.elim) (fun h₁ => mem_goes ht (by simp) h₁ _)
      fun h₁ => mem_goes ht (by simp) h₁ _
  | post i handler d ht =>
    exact hs.keep rfl rfl (forall_threads_returns hs.stopped)
      (forall_threads_returns hs.taken) (mem_returns ht (by simp)) (mem_returns ht (by simp))
  | drainStopped i handler q ht hq =>
    obtain ⟨-, -, -, rfl⟩ := AsyncQueue.tryPopDrain_eq_some.mp hq
    exact closesDown_of_none rfl (forall_threads_returns hs.stopped)
  | drainNone i ht hq =>
    exact hs.keep rfl rfl (forall_threads_returns hs.stopped)
      (forall_threads_returns hs.taken) (mem_returns ht (by simp)) (mem_returns ht (by simp))
  | closeCheck i ht =>
    have hstop := hs.stopped _ (List.mem_of_getElem? ht) trivial
    cases hcallback : s.queue.callback with
    | none => exact closesDown_of_none hcallback (forall_threads_goes hs.stopped fun _ => hstop)
    | some callback =>
      refine ⟨forall_threads_goes hs.stopped fun _ => hstop, fun _ _ => Or.inr ?_, ?_⟩
      · exact mem_goes_self ht _
      · exact forall_threads_goes hs.taken False.elim
  | closeTake i ht =>
    have hstop := hs.stopped _ (List.mem_of_getElem? ht) trivial
    exact closesDown_of_none rfl (forall_threads_goes hs.stopped fun _ => hstop)
  | closePost i handler ht =>
    have hstop := hs.stopped _ (List.mem_of_getElem? ht) trivial
    have hnone := hs.taken _ (List.mem_of_getElem? ht) trivial
    exact closesDown_of_none hnone (forall_threads_goes hs.stopped fun _ => hstop)
  | clear i ht =>
    have hnone := hs.taken _ (List.mem_of_getElem? ht) trivial
    exact closesDown_of_none hnone (forall_threads_returns hs.stopped)
  | run k handler delivery hk => exact hs.keep rfl rfl hs.stopped hs.taken id id
  | complete k hk => exact hs.keep rfl rfl hs.stopped hs.taken id id

/-- A stopped queue without a callback stays so: `asyncPop` registers none. -/
theorem settled_step (hstop : s.queue.stopped = true) (hnone : s.queue.callback = none)
    (hstep : s.Step e s') : s'.queue.stopped = true ∧ s'.queue.callback = none := by
  cases hstep with
  | push data q hq =>
    obtain ⟨-, -, rfl⟩ := AsyncQueue.pushLocked_eq_some.mp hq
    exact ⟨hstop, hnone⟩
  | asyncPop callback q hq =>
    obtain ⟨hopen, -⟩ := AsyncQueue.asyncPopLocked_eq_some.mp hq
    rw [hstop] at hopen
    cases hopen
  | close q hq =>
    obtain ⟨-, rfl⟩ := AsyncQueue.closeLocked_eq_some.mp hq
    exact ⟨rfl, hnone⟩
  | tryPopFound i handler d q ht hq =>
    obtain ⟨rest, -, -, rfl⟩ := AsyncQueue.tryPopTake_eq_some.mp hq
    exact ⟨hstop, rfl⟩
  | drainStopped i handler q ht hq =>
    obtain ⟨-, -, -, rfl⟩ := AsyncQueue.tryPopDrain_eq_some.mp hq
    exact ⟨hstop, rfl⟩
  | closeTake i ht => exact ⟨hstop, rfl⟩
  | pushRefused | asyncPopStopped | niceClose | closeAgain | tryPopNone | post | drainNone
  | closeCheck | closePost | clear | run | complete => exact ⟨hstop, hnone⟩

/-- When a call of `close` has returned, the queue is stopped and has no callback. -/
theorem closingReturns_step (hs : s.ClosesDown) (hret : e.ClosingReturns)
    (hagain : e = .closeAgain → s.queue.callback = none) (hstep : s.Step e s') :
    s'.queue.stopped = true ∧ s'.queue.callback = none := by
  cases hstep with
  | closeAgain hq => exact ⟨AsyncQueue.closeLocked_eq_none.mp hq, hagain rfl⟩
  | clear i ht =>
    have hmem := List.mem_of_getElem? ht
    exact ⟨hs.stopped _ hmem trivial, hs.taken _ hmem trivial⟩
  | _ => exact hret.elim

/-! ## No empty callback -/

/-- No thread is about to post an empty callback. -/
def NoEmpty (s : QueueSystem κ α) : Prop := ∀ t ∈ s.threads, t ≠ .closePost none

theorem NoEmpty.step (hs : s.NoEmpty) (hstep : s.Step e s')
    (htaken : ∀ i, e = .closeTake i → s.queue.callback ≠ none) :
    s'.NoEmpty ∧ ∀ p ∈ e.posts, p.1 ≠ none := by
  cases hstep with
  | push | asyncPop | niceClose | close =>
    exact ⟨forall_threads_begin hs (by simp), by simp [QueueEvent.posts]⟩
  | pushRefused | closeAgain | run | complete => exact ⟨hs, by simp [QueueEvent.posts]⟩
  | asyncPopStopped callback hq => exact ⟨hs, by simp [QueueEvent.posts]⟩
  | tryPopFound | tryPopNone =>
    exact ⟨forall_threads_goes hs (by simp), by simp [QueueEvent.posts]⟩
  | post | drainStopped | drainNone | clear =>
    exact ⟨forall_threads_returns hs, by simp [QueueEvent.posts]⟩
  | closeCheck i ht =>
    refine ⟨forall_threads_goes hs ?_, by simp [QueueEvent.posts]⟩
    split <;> simp
  | closeTake i ht =>
    have hsome := htaken i rfl
    exact ⟨forall_threads_goes hs (by simpa using hsome), by simp [QueueEvent.posts]⟩
  | closePost i handler ht =>
    have hsome := hs _ (List.mem_of_getElem? ht)
    exact ⟨forall_threads_goes hs (by simp), by simpa [QueueEvent.posts] using hsome⟩

/-- **What `close` posts when its callback was taken in between.** -/
theorem closePost_of_closeTake (hnone : s.queue.callback = none)
    (hstep : s.Step (.closeTake i) s') : ∃ s'', s'.Step (.closePost i none) s'' := by
  cases hstep with
  | closeTake i ht =>
    refine ⟨_, .closePost i none ?_⟩
    have hi : i < s.threads.length := (List.getElem?_eq_some_iff.mp ht).1
    simp [goes, hnone, hi]

/-! ## Draining -/

/-- **Without `close`**: the first notice comes after all the data, and after it nothing
is stored. -/
structure Draining (h : List (QueueEvent κ α)) (s : QueueSystem κ α) : Prop where
  running : s.queue.stopped = false
  inOrder : InOrder h s
  nice : ∀ e ∈ h, e.Notifies → s.queue.niceStopped = true
  drained : ∀ h₁ e h₂, h = h₁ ++ e :: h₂ → e.Notifies →
    AsyncQueue.handedOver (allPosts h₂) = stored h

/-- The flags of the queue. -/
theorem step_flags (hstep : s.Step e s') (hclose : ¬e.Closing) :
    s'.queue.stopped = s.queue.stopped ∧
      (s.queue.niceStopped = true → s'.queue.niceStopped = true ∧ e.stored = []) := by
  cases hstep with
  | push data q hq =>
    obtain ⟨-, hnice, rfl⟩ := AsyncQueue.pushLocked_eq_some.mp hq
    refine ⟨rfl, fun htrue => ?_⟩
    rw [hnice] at htrue
    cases htrue
  | asyncPop callback q hq =>
    obtain ⟨-, rfl⟩ := AsyncQueue.asyncPopLocked_eq_some.mp hq
    exact ⟨rfl, fun htrue => ⟨htrue, rfl⟩⟩
  | tryPopFound i handler d q ht hq =>
    obtain ⟨rest, -, -, rfl⟩ := AsyncQueue.tryPopTake_eq_some.mp hq
    exact ⟨rfl, fun htrue => ⟨htrue, rfl⟩⟩
  | drainStopped i handler q ht hq =>
    obtain ⟨-, -, -, rfl⟩ := AsyncQueue.tryPopDrain_eq_some.mp hq
    exact ⟨rfl, fun htrue => ⟨htrue, rfl⟩⟩
  | niceClose => exact ⟨rfl, fun _ => ⟨rfl, rfl⟩⟩
  | close | closeAgain | closeCheck | closeTake | closePost | clear => exact absurd trivial hclose
  | pushRefused | asyncPopStopped | tryPopNone | post | drainNone | run | complete =>
    exact ⟨rfl, fun htrue => ⟨htrue, rfl⟩⟩

/-- Without `close`, a notice is for a queue that was emptied after `niceClose`, with no
data in the hands of the threads. -/
theorem notifies_step (hstep : s.Step e s') (hclose : ¬e.Closing) (hnotifies : e.Notifies)
    (hrunning : s.queue.stopped = false) (hone : s.outstanding.card ≤ 1) :
    s.queue.niceStopped = true ∧ s.queue.theQueue = [] ∧ s.transit = 0 := by
  obtain ⟨handler', hmem⟩ := hnotifies
  cases hstep with
  | asyncPopStopped callback hq =>
    rw [AsyncQueue.asyncPopLocked_eq_none, hrunning] at hq
    cases hq
  | drainStopped i handler q ht hq =>
    obtain ⟨hcallback, hempty, hnice, -⟩ := AsyncQueue.tryPopDrain_eq_some.mp hq
    refine ⟨hnice, hempty, ?_⟩
    -- the callback is the one that is outstanding
    have hhand : s.inHand = 0 := by
      rw [outstanding, hcallback, Multiset.card_add, Multiset.card_map] at hone
      exact Multiset.card_eq_zero.mp (Nat.le_zero.mp (Nat.le_of_add_le_add_left hone))
    rw [transit, hhand]
    rfl
  | closePost i handler ht => exact absurd trivial hclose
  | post i handler d ht => simp [QueueEvent.posts] at hmem
  | _ => simp [QueueEvent.posts] at hmem

theorem Draining.step (hs : Draining h s) (hone : s.outstanding.card ≤ 1) (hstep : s.Step e s')
    (hclose : ¬e.Closing) : Draining (e :: h) s' := by
  obtain ⟨hstopped, hflags⟩ := step_flags hstep hclose
  have hnotice := fun hnotifies => notifies_step hstep hclose hnotifies hs.running hone
  constructor
  · rw [hstopped]
    exact hs.running
  · apply hs.inOrder.step hone hstep
    rintro i rfl
    exact hclose trivial
  · intro e₁ he₁ hnotifies
    rcases List.mem_cons.mp he₁ with rfl | hmem
    · exact (hflags (hnotice hnotifies).1).1
    · exact (hflags (hs.nice e₁ hmem hnotifies)).1
  · intro h₁ e₁ h₂ hsplit hnotifies
    rw [stored_cons]
    cases h₁ with
    | nil =>
      obtain ⟨rfl, rfl⟩ := List.cons.inj hsplit
      obtain ⟨hnice, hempty, htransit⟩ := hnotice hnotifies
      obtain ⟨next, hnext, hall⟩ := hs.inOrder
      rw [htransit, Multiset.coe_eq_zero] at hnext
      rw [(hflags hnice).2, List.append_nil, hall, hempty, hnext, List.append_nil, List.append_nil]
    | cons e₂ h₁ =>
      obtain ⟨rfl, rfl⟩ := List.cons.inj hsplit
      have hmem : e₁ ∈ h₁ ++ e₁ :: h₂ := List.mem_append_right _ List.mem_cons_self
      rw [(hflags (hs.nice e₁ hmem hnotifies)).2, List.append_nil]
      exact hs.drained h₁ e₁ h₂ rfl hnotifies

/-! ## Every run -/

/-- **What holds in every run** with at most one callback outstanding, whatever `close`
meets. -/
structure Shutting (h : List (QueueEvent κ α)) (s : QueueSystem κ α) : Prop where
  conserved : Conserved h s
  awake : s.Awake
  closes : s.ClosesDown
  draining : (∀ e ∈ h, ¬e.Closing) → Draining h s

theorem shutting_run (run : Runs AtMostOne h s) : Shutting h s := by
  induction run with
  | start hs =>
    subst hs
    refine ⟨⟨rfl, Nat.zero_le 1⟩, awake_of_none rfl, ⟨by simp, by simp, by simp⟩, fun _ => ?_⟩
    exact ⟨rfl, ⟨[], rfl, rfl⟩, by simp, by simp⟩
  | step _ hstep ih =>
    refine ⟨ih.conserved.step hstep.1 hstep.2, ih.awake.step hstep.1, ih.closes.step hstep.1, ?_⟩
    intro hclose
    have hbefore := ih.draining fun e he => hclose e (List.mem_cons_of_mem _ he)
    exact hbefore.step ih.conserved.one hstep.1 (hclose _ List.mem_cons_self)

/-- When a queue was shut down and no thread is inside of an operation, every callback
that was asked with has been posted, once. -/
theorem Shutting.quiet (hs : Shutting h s) (hthreads : s.threads = [])
    (hshut : s.queue.stopped = true ∨ s.queue.niceStopped = true) :
    (asked h : Multiset κ) = (callbacksOf (allPosts h) : Multiset κ) := by
  have hnone : s.queue.callback = none := by
    by_contra hne
    rcases hshut with hstop | hnice
    · have hmem := hs.closes.held hstop hne
      simp [hthreads] at hmem
    · have hmem := hs.awake.stop hne hnice
      simp [hthreads] at hmem
  have hzero : s.outstanding = 0 := by
    rw [outstanding, hnone, inHand, hthreads]
    rfl
  rw [hs.conserved.asked, hzero, add_zero]

/-- **Shutting a queue down**: in every run with at most one callback outstanding, in which
nothing disturbs `close`, the shutdown does what it owes. -/
theorem queue_shuts_down
    (run : Runs (fun s e => s.AtMostOne e ∧ s.CloseUndisturbed e) h s) : ShutsDown h s := by
  have hs : Shutting h s := shutting_run (run.mono fun _ _ _ hstep => ⟨hstep.1, hstep.2.1⟩)
  have hclose : ((∃ e ∈ h, e.ClosingReturns) →
      s.queue.stopped = true ∧ s.queue.callback = none) ∧
      s.NoEmpty ∧ ∀ p ∈ allPosts h, p.1 ≠ none := by
    clear hs
    induction run with
    | start hs =>
      subst hs
      exact ⟨by simp, by simp [NoEmpty], by simp [allPosts]⟩
    | @step h s s' e run hstep ih =>
      have hbefore : Shutting h s := shutting_run (run.mono fun _ _ _ hstep => ⟨hstep.1, hstep.2.1⟩)
      obtain ⟨hsettled, hempty, hposts⟩ := ih
      obtain ⟨hempty', hnew⟩ := hempty.step hstep.1 hstep.2.2.taken
      refine ⟨?_, hempty', ?_⟩
      · rintro ⟨e₁, he₁, hret⟩
        rcases List.mem_cons.mp he₁ with rfl | hmem
        · exact closingReturns_step hbefore.closes hret hstep.2.2.again hstep.1
        · obtain ⟨hstop, hnone⟩ := hsettled ⟨e₁, hmem, hret⟩
          exact settled_step hstop hnone hstep.1
      · intro p hp
        rw [allPosts_cons] at hp
        rcases List.mem_append.mp hp with hmem | hmem
        · exact hposts p hmem
        · exact hnew p hmem
  exact ⟨hs.conserved.asked, hs.quiet, fun hret => (hclose.1 hret).2, hclose.2.2,
    fun hnot => (hs.draining hnot).drained⟩

/-- A consumer waits, and the queue is closed. -/
theorem queue_shuts_down_waiting : ∃ (h : List (QueueEvent Nat String)) (s : QueueSystem Nat String),
    ShutsDown h s ∧ asked h = [7] ∧ allPosts h = [(some 7, .stopped)] ∧ s.queue.callback = none := by
  have run : Runs (κ := Nat) (α := String) (fun s e => s.AtMostOne e ∧ s.CloseUndisturbed e) _ _ :=
    .step (.step (.step (.step (.step (.step (.step (.step (.start rfl)
      ⟨.asyncPop 7 _ rfl, fun _ => rfl, by simp, by simp⟩)
      ⟨.tryPopNone 0 rfl rfl, by simp [AtMostOne, QueueEvent.asked], by simp, by simp⟩)
      ⟨.drainNone 0 rfl rfl, by simp [AtMostOne, QueueEvent.asked], by simp, by simp⟩)
      ⟨.close _ rfl, by simp [AtMostOne, QueueEvent.asked], by simp, by simp⟩)
      ⟨.closeCheck 0 rfl, by simp [AtMostOne, QueueEvent.asked], by simp, by simp⟩)
      ⟨.closeTake 0 rfl, by simp [AtMostOne, QueueEvent.asked], fun _ _ => Option.some_ne_none 7,
        by simp⟩)
      ⟨.closePost 0 _ rfl, by simp [AtMostOne, QueueEvent.asked], by simp, by simp⟩)
      ⟨.clear 0 rfl, by simp [AtMostOne, QueueEvent.asked], by simp, by simp⟩
  exact ⟨_, _, queue_shuts_down run, rfl, rfl, rfl⟩

/-- **Where `close` is disturbed.**  A push is inside of `tryPop` as `close` sees the
callback, and takes it before `close` does: an empty one is posted.  And a second call of
`close` returns before the first one has taken the callback. -/
theorem close_disturbed :
    (∃ (h : List (QueueEvent Nat String)) (s : QueueSystem Nat String), Runs AtMostOne h s ∧
      (none, .stopped) ∈ allPosts h ∧ ¬ShutsDown h s) ∧
    ∃ (h : List (QueueEvent Nat String)) (s : QueueSystem Nat String), Runs AtMostOne h s ∧
      .closeAgain ∈ h ∧ s.queue.callback = some 7 ∧ ¬ShutsDown h s := by
  constructor
  · have run : Runs (κ := Nat) (α := String) AtMostOne _ _ :=
      .step (.step (.step (.step (.step (.step (.step (.step (.step (.start rfl)
        ⟨.asyncPop 7 _ rfl, fun _ => rfl⟩)
        ⟨.tryPopNone 0 rfl rfl, by simp [AtMostOne, QueueEvent.asked]⟩)
        ⟨.drainNone 0 rfl rfl, by simp [AtMostOne, QueueEvent.asked]⟩)
        ⟨.push "a" _ rfl, by simp [AtMostOne, QueueEvent.asked]⟩)
        ⟨.close _ rfl, by simp [AtMostOne, QueueEvent.asked]⟩)
        ⟨.closeCheck 1 rfl, by simp [AtMostOne, QueueEvent.asked]⟩)
        ⟨.tryPopFound 0 7 "a" _ rfl rfl, by simp [AtMostOne, QueueEvent.asked]⟩)
        ⟨.closeTake 1 rfl, by simp [AtMostOne, QueueEvent.asked]⟩)
        ⟨.closePost 1 none rfl, by simp [AtMostOne, QueueEvent.asked]⟩
    refine ⟨_, _, run, List.mem_cons_self, fun hshut => ?_⟩
    exact hshut.nonempty (none, .stopped) List.mem_cons_self rfl
  · have run : Runs (κ := Nat) (α := String) AtMostOne _ _ :=
      .step (.step (.step (.step (.step (.start rfl)
        ⟨.asyncPop 7 _ rfl, fun _ => rfl⟩)
        ⟨.tryPopNone 0 rfl rfl, by simp [AtMostOne, QueueEvent.asked]⟩)
        ⟨.drainNone 0 rfl rfl, by simp [AtMostOne, QueueEvent.asked]⟩)
        ⟨.close _ rfl, by simp [AtMostOne, QueueEvent.asked]⟩)
        ⟨.closeAgain rfl, by simp [AtMostOne, QueueEvent.asked]⟩
    refine ⟨_, _, run, List.mem_cons_self, rfl, fun hshut => ?_⟩
    have hnone := hshut.closed ⟨_, List.mem_cons_self, trivial⟩
    cases hnone

end QueueSystem
end ShapingRouter
