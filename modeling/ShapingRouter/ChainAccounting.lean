import Mathlib
import ShapingRouter.ChainSteps

/-! # Where the packets of a chain are

Every packet that came in is in one place at most: a thread carries it, a filter holds it,
or it has left the chain (`accounted`).  No filter makes a packet twice, whatever the
threads do to each other, so none leaves the chain twice.  A packet that is nowhere was
dropped.

In drop mode `InputDrop` gives every packet its verdict before any other filter has seen
it.  The verdict is `NF_DROP`, and it stays the only one (`drop_mode_verdicts`).
-/

namespace ShapingRouter
open Library

/-! ## Queues -/

/-- The rest of a timer's handler is `asyncPop`. -/
theorem DelayLine.timeout_of_expire {π : Type} {l l' : DelayLine π} {k : Nat} {pkt : π}
    (h : l.expire k = some (l', pkt)) : l.timeout k = some (l'.asyncPop, pkt) := by
  unfold expire at h
  unfold timeout
  cases hk : l.timers[k]? with
  | none =>
    rw [hk] at h
    cases h
  | some timer =>
    rw [hk] at h
    obtain ⟨rfl, rfl⟩ := Prod.mk.inj (Option.some.inj h)
    rfl

/-- The data of a delivery. -/
def Delivery.data {α : Type} : Delivery α → List α
  | .ok data => [data]
  | .stopped => []

namespace AsyncQueue
variable {κ α : Type}

theorem handedOver_cons (c : κ) (d : Delivery α) (posted : List (κ × Delivery α)) :
    handedOver ((c, d) :: posted) = d.data ++ handedOver posted := by
  cases d <;> rfl

theorem handedOver_append (posted more : List (κ × Delivery α)) :
    handedOver (posted ++ more) = handedOver posted ++ handedOver more :=
  List.filterMap_append ..

end AsyncQueue

namespace OutputStage
variable {α : Type}

theorem waiting_eq (stage : OutputStage α) :
    stage.waiting = AsyncQueue.handedOver stage.posted ++ stage.queue.theQueue := rfl

/-- What is pushed waits last. -/
theorem waiting_push {stage : OutputStage α} (ho : stage.queue.Open) (data : α) :
    (stage.onQueue (·.push data)).waiting = stage.waiting ++ [data] := by
  have hdata := AsyncQueue.push_data ho data
  simp only [waiting_eq, onQueue, AsyncQueue.handedOver_append, List.append_assoc, hdata]

/-- A closed queue takes nothing. -/
theorem waiting_closed {stage : OutputStage α} (ho : ¬ stage.queue.Open) (data : α) :
    (stage.onQueue (·.push data)).waiting = stage.waiting := by
  have hclosed : (stage.queue.stopped || stage.queue.niceStopped) = true := by
    by_contra hopen
    simp only [Bool.not_eq_true, Bool.or_eq_false_iff] at hopen
    exact ho hopen
  have hpush : stage.queue.push data = (stage.queue, []) := by
    rw [AsyncQueue.push, if_pos hclosed]
  simp only [waiting_eq, onQueue, hpush, List.append_nil]

theorem waiting_asyncPop (stage : OutputStage α) :
    (stage.onQueue (·.asyncPop .popHandler)).waiting = stage.waiting := by
  have hdata := stage.queue.asyncPop_data OutputCallback.popHandler
  simp only [waiting_eq, onQueue, AsyncQueue.handedOver_append, List.append_assoc, hdata]

/-- A posted call runs: its packet waits no longer. -/
theorem waiting_afterRun {stage : OutputStage α} {k : Nat} {c : OutputCallback} {d : Delivery α}
    (hk : stage.posted[k]? = some (c, d)) (run : PopRun) :
    ((stage.afterRun k run).waiting + d.data : Multiset α) = stage.waiting := by
  suffices key : ∀ (posted : List (OutputCallback × Delivery α)) (k : Nat),
      posted[k]? = some (c, d) →
      (AsyncQueue.handedOver (posted.eraseIdx k) + d.data : Multiset α) =
        AsyncQueue.handedOver posted by
    simp only [waiting_eq, afterRun, ← Multiset.coe_add, ← key _ _ hk]
    abel
  intro posted
  induction posted with
  | nil =>
    intro k hk
    cases hk
  | cons first posted ih =>
    intro k hk
    obtain ⟨c', d'⟩ := first
    cases k with
    | zero =>
      obtain ⟨rfl, rfl⟩ := Prod.mk.inj (Option.some.inj hk)
      rw [List.eraseIdx_cons_zero, AsyncQueue.handedOver_cons, ← Multiset.coe_add, add_comm]
    | succ k =>
      rw [List.eraseIdx_cons_succ, AsyncQueue.handedOver_cons, AsyncQueue.handedOver_cons,
        ← Multiset.coe_add, ← Multiset.coe_add, ← ih k (by simpa using hk), add_assoc]

end OutputStage

/-! ## Carried, held, and gone -/

/-- What a filter holds. -/
def RouterFilter.held : RouterFilter → Multiset PacketPtr
  | shaping f => f.held
  | outputLibnet stage => stage.waiting
  | input | inputDrop | nat _ | output => 0

/-- The packets that frames carry. -/
def carriedBy (frames : List ChainFrame) : Multiset PacketPtr := frames.flatMap (·.carried)

@[simp] theorem carriedBy_nil : carriedBy [] = 0 := rfl

@[simp] theorem carriedBy_cons (frame : ChainFrame) (frames : List ChainFrame) :
    carriedBy (frame :: frames) = frame.carried + carriedBy frames := by
  simp [carriedBy]

@[simp] theorem carriedBy_append (frames more : List ChainFrame) :
    carriedBy (frames ++ more) = carriedBy frames + carriedBy more := by
  simp [carriedBy]

@[simp] theorem carriedBy_handles (i : Nat) (ps : List PacketPtr) :
    carriedBy (ps.map (.handle i)) = ps := by
  induction ps with
  | nil => rfl
  | cons p ps ih =>
    rw [List.map_cons, carriedBy_cons, ih]
    rfl

namespace LockedChain

/-- The packets that are in the chain: carried by a thread, or held by a filter. -/
def inside (s : LockedChain) : Multiset PacketPtr :=
  holdings carriedBy s.threads + holdings RouterFilter.held s.filters

/-- The packet that leaves the chain of `L` in a step: `Output` is handed it, or a run of
`popHandler` of `OutputLibnet` is. -/
def exit (acceptMode : Bool) (L : List RouterFilter) : LockedEvent → List PacketPtr
  | .run _ (.handle i p) _ _ => if acceptMode = true ∧ i = L.length + 1 then [p] else []
  | .task _ (.popOutput _ d _) => d.data
  | _ => []

/-- The packets that have left the chain, the first one first. -/
def exits (acceptMode : Bool) (L : List RouterFilter) (h : List LockedEvent) : List PacketPtr :=
  h.reverse.flatMap (exit acceptMode L)

@[simp] theorem exits_cons (acceptMode : Bool) (L : List RouterFilter) (e : LockedEvent)
    (h : List LockedEvent) :
    exits acceptMode L (e :: h) = exits acceptMode L h ++ exit acceptMode L e := by
  simp [exits]

/-- The filters are those of the chain that `main` builds of `L`. -/
def Shape (acceptMode : Bool) (L : List RouterFilter) (s : LockedChain) : Prop :=
  s.filters.map RouterFilter.cls =
    (if acceptMode then .Input else .InputDrop) :: L.map RouterFilter.cls ++
      [if acceptMode then .Output else .OutputLibnet]

variable {s s' : LockedChain} {acceptMode : Bool} {L : List RouterFilter}

/-! ## No step loses count -/

section Flow
variable {frames : List ChainFrame}

theorem held_of_clear {f : RouterFilter} (hf : f.Clear) : f.held = 0 := by
  cases f with
  | shaping g => cases g <;> first | rfl | exact hf.elim
  | outputLibnet stage => exact hf.elim
  | input | inputDrop | nat | output => rfl

theorem held_of_started {f : RouterFilter} (hf : f.Started) : f.held = 0 := by
  cases f with
  | shaping g =>
    cases g with
    | burst g =>
      have hq : g.queue = [] := hf
      show (↑g.queue : Multiset PacketPtr) = 0
      rw [hq]
      rfl
    | staticDelay g | dynamicDelay g =>
      have hline : g.toDelayLine = DelayLine.new.asyncPop := hf
      show g.toDelayLine.held = 0
      rw [hline]
      rfl
    | tokenBucketFilter g =>
      show (↑g.inTb.queue + ↑g.outTb.queue : Multiset PacketPtr) = 0
      rw [hf.1, hf.2]
      rfl
    | loss | dynamicLoss => rfl
  | outputLibnet stage =>
    obtain ⟨handle, rfl⟩ := hf
    rfl
  | input | inputDrop | nat | output => rfl

theorem held_of_line {f : RouterFilter} {l : DelayLine PacketPtr} (hl : f.line = some l) :
    f.held = l.held := by
  cases f with
  | shaping g =>
    cases g with
    | staticDelay g | dynamicDelay g => obtain rfl := Option.some.inj hl; rfl
    | loss _ | burst _ | dynamicLoss _ | tokenBucketFilter _ => cases hl
  | input | inputDrop | nat | output | outputLibnet => cases hl

theorem held_setBucket (f : TokenBucketFilter PacketPtr) (d : Bool) (b : TokenBucket PacketPtr)
    {gone come : Multiset PacketPtr} (h : b.held + gone = (f.bucket d).held + come) :
    (f.setBucket d b).held + gone = f.held + come := by
  cases d with
  | true =>
    calc b.held + f.outTb.held + gone = b.held + gone + f.outTb.held := by abel
      _ = f.inTb.held + come + f.outTb.held := by rw [h]; rfl
      _ = f.inTb.held + f.outTb.held + come := by abel
  | false =>
    calc f.inTb.held + b.held + gone = f.inTb.held + (b.held + gone) := by abel
      _ = f.inTb.held + (f.outTb.held + come) := by rw [h]; rfl
      _ = f.inTb.held + f.outTb.held + come := by abel

/-- The filter at `i` changes: what it gains and loses, the chain gains and loses. -/
theorem held_setFilter {i : Nat} {f f' : RouterFilter} (hi : s.filters[i]? = some f)
    {gone come : Multiset PacketPtr} (h : f'.held + gone = f.held + come) :
    holdings RouterFilter.held (s.setFilter i f').filters + gone =
      holdings RouterFilter.held s.filters + come :=
  holdings_set_balance RouterFilter.held hi h

theorem held_unchanged {i : Nat} {f : RouterFilter} (hi : s.filters[i]? = some f)
    (f' : RouterFilter) (h : f'.held = f.held) :
    holdings RouterFilter.held (s.setFilter i f').filters = holdings RouterFilter.held s.filters := by
  have hset := held_setFilter hi (congrArg (· + (0 : Multiset PacketPtr)) h)
  simpa using hset

theorem cls_of_line {f : RouterFilter} {l : DelayLine PacketPtr} (hl : f.line = some l) :
    f.cls ≠ .Output := by
  intro hcls
  cases f with
  | output => cases hl
  | shaping g => cases g <;> cases hcls
  | input | inputDrop | nat | outputLibnet => cases hcls

/-- How a filter lets go of a packet that it is handed, and the packets afterwards. -/
inductive LetsGo (s : LockedChain) (p : PacketPtr) (w : PacketPool) (f : RouterFilter) : Prop
  | accepted : f.cls = .Output → w = s.pool.setVerdict p true → LetsGo s p w f
  | dropped : f.cls = .Loss ∨ f.cls = .DynamicLoss → w = s.pool.setVerdict p false →
      LetsGo s p w f
  | refused : f.cls = .Nat ∨ f.cls = .TokenBucketFilter → w = s.pool → LetsGo s p w f
  | closed (stage : OutputStage PacketPtr) : f = .outputLibnet stage → ¬ stage.queue.Open →
      LetsGo s p w f

/-- A frame loses no packet: those that its filter holds afterwards, and those that the new
frames carry, were held or carried before. -/
structure Hands (s : LockedChain) (frame : ChainFrame) (s' : LockedChain)
    (frames : List ChainFrame) : Prop where
  count : holdings RouterFilter.held s'.filters + carriedBy frames =
    holdings RouterFilter.held s.filters + frame.carried
  notOutput : ∀ f, s.filters[frame.filter]? = some f → f.cls ≠ .Output
  verdicts : s.filters[frame.filter]? ≠ some .inputDrop → ∀ q,
    s'.pool.isSettled q = s.pool.isSettled q ∧ s'.pool.verdictsOf q = s.pool.verdictsOf q

/-- The filter of a frame is no output, and the packets stay as they are. -/
theorem Hands.of_filter {frame : ChainFrame} {f : RouterFilter}
    (hi : s.filters[frame.filter]? = some f) (hf : f.cls ≠ .Output) (hpool : s'.pool = s.pool)
    (hcount : holdings RouterFilter.held s'.filters + carriedBy frames =
      holdings RouterFilter.held s.filters + frame.carried) : Hands s frame s' frames where
  count := hcount
  notOutput := by
    intro g hg
    rwa [← Option.some.inj (hi.symm.trans hg)]
  verdicts := by
    intro _ q
    rw [hpool]
    exact ⟨rfl, rfl⟩

/-- **What a frame does with packets**: it hands them on, or its filter lets go of the one
that it is handed. -/
theorem FrameCases.balance {frame : ChainFrame} (hc : FrameCases s frame s' frames) :
    Hands s frame s' frames ∨ ∃ i p f, frame = .handle i p ∧ s.filters[i]? = some f ∧
      holdings RouterFilter.held s'.filters + carriedBy frames =
        holdings RouterFilter.held s.filters ∧ LetsGo s p s'.pool f := by
  cases hc with
  | @passOn i p f f' w headers hi hf hf' hcls hw hdrop hsame =>
    refine Or.inl ⟨held_setFilter hi ?_, fun g hg => ?_, fun hne q => ?_⟩
    · rw [held_of_clear hf.1, held_of_clear hf', carriedBy_cons, carriedBy_nil, add_zero]
      rfl
    · rw [← Option.some.inj (hi.symm.trans hg)]
      exact hf.2
    · by_cases hq : q = p
      · subst hq
        obtain ⟨hverdicts, hset⟩ := hsame fun heq => hne (hi.trans (congrArg some heq))
        exact ⟨hset, congrArg _ hverdicts⟩
      · exact hw.others q hq
  | @keep i p f f' w hi hf hf' hcls hne hw hgo =>
    refine Or.inr ⟨i, p, f, rfl, hi, ?_, ?_⟩
    · rw [carriedBy_nil, add_zero]
      exact held_unchanged hi f' ((held_of_clear hf').trans (held_of_clear hf).symm)
    · rcases hgo with ⟨hcls, hpool⟩ | ⟨hcls, hpool⟩ | ⟨hcls, hpool⟩
      · exact .accepted hcls hpool
      · exact .dropped hcls hpool
      · exact .refused (Or.inl hcls) hpool
  | @enqueue i p f f' l hi hl hl' =>
    refine Or.inl (.of_filter hi (cls_of_line hl) rfl (held_setFilter hi ?_))
    rw [held_of_line hl, held_of_line hl', l.held_handlePacket, carriedBy_nil, add_zero]
    rfl
  | @output i p stage hi =>
    by_cases hopen : stage.queue.Open
    · refine Or.inl (.of_filter hi (by simp [RouterFilter.cls]) rfl (held_setFilter hi ?_))
      rw [carriedBy_nil, add_zero]
      simp only [RouterFilter.held, OutputStage.waiting_push hopen p, ← Multiset.coe_add]
      rfl
    · refine Or.inr ⟨i, p, _, rfl, hi, ?_, .closed stage rfl hopen⟩
      rw [carriedBy_nil, add_zero]
      exact held_unchanged hi (.outputLibnet (stage.onQueue (·.push p)))
        (congrArg (fun l : List PacketPtr => (l : Multiset PacketPtr))
          (OutputStage.waiting_closed hopen p))
  | @enter i p f r hi hfree =>
    by_cases hr : (f.bucket (s.pool.isIngoing p)).admits r = true
    · refine Or.inl (.of_filter hi (by simp [RouterFilter.cls]) rfl
        (held_setFilter hi (held_setBucket f _ _ ?_)))
      rw [carriedBy_cons, carriedBy_nil, add_zero, TokenBucket.enqueue, if_pos hr]
      show (↑((f.bucket (s.pool.isIngoing p)).queue ++ [p]) + 0 : Multiset PacketPtr) =
        ↑(f.bucket (s.pool.isIngoing p)).queue + ↑[p]
      rw [← Multiset.coe_add, add_zero]
    · refine Or.inr ⟨i, p, _, rfl, hi, ?_, .refused (Or.inr rfl) rfl⟩
      rw [TokenBucket.enqueue, if_neg hr]
      have hsame := held_setBucket f (s.pool.isIngoing p) (f.bucket (s.pool.isIngoing p))
        (rfl : _ + (0 : Multiset PacketPtr) = _ + 0)
      rw [add_zero, add_zero] at hsame
      have hnone : carriedBy [.trySend i (s.pool.isIngoing p)] = 0 := rfl
      rw [hnone, add_zero]
      exact held_unchanged hi (.shaping (.tokenBucketFilter
        (f.setBucket (s.pool.isIngoing p) (f.bucket (s.pool.isIngoing p))))) hsame
  | @wake i p f hi =>
    have hone : carriedBy [if f.sleeping then .handle (i + 1) p else .push i p] = ↑[p] := by
      split <;> rfl
    refine Or.inl (.of_filter hi (by simp [RouterFilter.cls]) rfl ?_)
    rw [hone]
    rfl
  | @push i p f hi hfree =>
    refine Or.inl (.of_filter hi (by simp [RouterFilter.cls]) rfl (held_setFilter hi ?_))
    show (↑(f.queue ++ [p]) + 0 : Multiset PacketPtr) = ↑f.queue + ↑[p]
    rw [Multiset.coe_add, add_zero]
  | @turn i f f' frames hi hq hframes =>
    refine Or.inl (.of_filter hi (by simp [RouterFilter.cls]) rfl (held_setFilter hi ?_))
    have hnone : carriedBy frames = 0 := by rcases hframes with rfl | rfl <;> rfl
    show (↑f'.queue + carriedBy frames : Multiset PacketPtr) = ↑f.queue + 0
    rw [hq, hnone]
  | @flush i f hi hfree =>
    refine Or.inl (.of_filter hi (by simp [RouterFilter.cls]) rfl (held_setFilter hi ?_))
    show (0 + carriedBy (f.queue.map (.handle (i + 1)) ++ [.flushed i]) : Multiset PacketPtr) =
      ↑f.queue + 0
    rw [carriedBy_append, carriedBy_handles]
    show (0 + (↑f.queue + 0) : Multiset PacketPtr) = ↑f.queue + 0
    rw [zero_add]
  | @flushed i f f' hi hq =>
    refine Or.inl (.of_filter hi (by simp [RouterFilter.cls]) rfl (held_setFilter hi ?_))
    show (↑f'.queue + 0 : Multiset PacketPtr) = ↑f.queue + 0
    rw [hq]
  | @bucket i f frame d b hi hq hframe =>
    have hown : frame.filter = i ∧ (frame.carried : Multiset PacketPtr) = 0 := by
      rcases hframe with ⟨diff, rfl, -⟩ | rfl <;> exact ⟨rfl, rfl⟩
    rw [← hown.1] at hi
    refine Or.inl (.of_filter hi (by simp [RouterFilter.cls]) rfl ?_)
    rw [← hown.1]
    refine held_setFilter hi (held_setBucket f _ _ ?_)
    rw [hown.2, TokenBucket.held, TokenBucket.held, hq]
    rfl
  | @trySend i f d hi hfree =>
    refine Or.inl (.of_filter hi (by simp [RouterFilter.cls]) rfl
      (held_setFilter hi (held_setBucket f _ _ ?_)))
    rw [carriedBy_append, carriedBy_handles]
    have hsent := TokenBucket.held_trySend s.pool.getPacketLen (f.bucket d)
    simpa [ChainFrame.carried] using hsent
  | unlock hi => exact Or.inl (.of_filter hi (by simp [RouterFilter.cls]) rfl rfl)
  | @asyncPop i f f' l hi hl hl' =>
    refine Or.inl (.of_filter hi (cls_of_line hl) rfl (held_setFilter hi ?_))
    rw [held_of_line hl, held_of_line hl', l.held_asyncPop]
    rfl

/-- Whatever it does, a frame makes no packets. -/
theorem FrameCases.flow {frame : ChainFrame} (hc : FrameCases s frame s' frames) :
    holdings RouterFilter.held s'.filters + carriedBy frames ≤
      holdings RouterFilter.held s.filters + frame.carried := by
  rcases hc.balance with hands | ⟨i, p, f, rfl, -, hcount, -⟩
  · exact le_of_eq hands.count
  · rw [hcount]
    exact Multiset.le_add_right _ _

/-- What a task does with packets, the one that leaves included. -/
theorem TaskCases.balance {i : Nat} {task : PoolTask} (hc : TaskCases s i task s' frames)
    (acceptMode : Bool) (L : List RouterFilter) :
    holdings RouterFilter.held s'.filters +
        (carriedBy frames + exit acceptMode L (.task i task)) =
      holdings RouterFilter.held s.filters := by
  suffices key : holdings RouterFilter.held s'.filters +
      (carriedBy frames + exit acceptMode L (.task i task)) =
        holdings RouterFilter.held s.filters + 0 by simpa using key
  cases hc with
  | @popHandler k now f f' l l' delay hi hl hpop hl' =>
    refine held_setFilter hi ?_
    rw [held_of_line hl, held_of_line hl', DelayLine.held_popHandler hpop]
    rfl
  | @expire k now f f' l l' p hi hl hexpire hl' =>
    refine held_setFilter hi ?_
    rw [held_of_line hl, held_of_line hl', carriedBy_cons, carriedBy_cons, carriedBy_nil, add_zero]
    have hheld := DelayLine.held_timeout (DelayLine.timeout_of_expire hexpire)
    rw [DelayLine.held_asyncPop] at hheld
    simpa [ChainFrame.carried, exit] using hheld
  | @curve task f f' l hi hl hl' hcls htask =>
    refine held_setFilter hi ?_
    have hexit : exit acceptMode L (.task i task) = [] := by
      obtain ⟨k, rfl | rfl⟩ := htask <;> rfl
    rw [held_of_line hl, held_of_line hl', hexit]
    rfl
  | @clear k now f f' hi hf hf' =>
    refine held_setFilter hi ?_
    rw [held_of_clear hf, held_of_clear hf']
    rfl
  | @burst k now f f' hi hq =>
    refine held_setFilter hi ?_
    show (↑f'.queue + 0 : Multiset PacketPtr) = ↑f.queue + 0
    rw [hq]
  | @run d k reads diff f b hi hq =>
    refine held_setFilter hi (held_setBucket f _ _ ?_)
    rw [TokenBucket.held, TokenBucket.held, hq]
    rfl
  | @popOutput k d run stage hi hk =>
    refine held_setFilter hi ?_
    have hwait := OutputStage.waiting_afterRun hk run
    rw [carriedBy_nil, zero_add, add_zero]
    split
    · rw [RouterFilter.held, OutputStage.waiting_asyncPop]
      exact hwait
    · exact hwait

end Flow

/-! ## The shape of the chain -/

theorem map_cls_set {i : Nat} {f f' : RouterFilter} (hi : s.filters[i]? = some f)
    (hcls : f'.cls = f.cls) :
    (s.filters.set i f').map RouterFilter.cls = s.filters.map RouterFilter.cls := by
  obtain ⟨hlt, rfl⟩ := List.getElem?_eq_some_iff.mp hi
  rw [List.map_set, hcls]
  refine List.ext_getElem? fun j => ?_
  rw [List.getElem?_set]
  split
  · rename_i hij
    subst hij
    simp [hlt]
  · rfl

theorem FrameCases.map_cls {frame : ChainFrame} {frames : List ChainFrame}
    (hc : FrameCases s frame s' frames) :
    s'.filters.map RouterFilter.cls = s.filters.map RouterFilter.cls := by
  cases hc with
  | passOn hi hf hf' hcls => exact map_cls_set hi hcls
  | keep hi hf hf' hcls => exact map_cls_set hi hcls
  | enqueue hi hl hl' hcls => exact map_cls_set hi hcls
  | asyncPop hi hl hl' hcls => exact map_cls_set hi hcls
  | output hi => exact map_cls_set hi rfl
  | wake | unlock => rfl
  | enter r hi | push hi | turn hi | flush hi | flushed hi | bucket hi | trySend hi =>
    exact map_cls_set hi rfl

theorem TaskCases.map_cls {i : Nat} {task : PoolTask} {frames : List ChainFrame}
    (hc : TaskCases s i task s' frames) :
    s'.filters.map RouterFilter.cls = s.filters.map RouterFilter.cls := by
  cases hc with
  | popHandler delay hi hl hpop hl' hcls => exact map_cls_set hi hcls
  | expire hi hl hexpire hl' hcls => exact map_cls_set hi hcls
  | curve hi hl hl' hcls => exact map_cls_set hi hcls
  | clear hi hf hf' hcls => exact map_cls_set hi hcls
  | burst hi | run hi | popOutput hi => exact map_cls_set hi rfl

/-- No step exchanges a filter for one of another class. -/
theorem StepCases.map_cls {e : LockedEvent} (hc : StepCases s e s') :
    s'.filters.map RouterFilter.cls = s.filters.map RouterFilter.cls := by
  cases hc with
  | arrive => rfl
  | run r now ht hc => exact hc.map_cls
  | task hc => exact hc.map_cls

theorem Runs.shape {h : List LockedEvent} (run : Runs acceptMode L h s) :
    s.Shape acceptMode L := by
  induction run with
  | start hs =>
    obtain ⟨stage, hfilters⟩ := hs.filters
    rw [Shape, hfilters]
    cases acceptMode <;> simp [wrap, RouterFilter.cls]
  | step run hs ih => exact (step_cases hs).map_cls.trans ih

namespace Shape
variable {f : RouterFilter} {i : Nat}

/-- The last filter. -/
theorem cls_last (h : s.Shape acceptMode L) (hi : s.filters[L.length + 1]? = some f) :
    f.cls = if acceptMode then .Output else .OutputLibnet := by
  have hcls := congrArg (·[L.length + 1]?) h
  simpa [hi] using hcls

/-- The first filter. -/
theorem cls_first (h : s.Shape acceptMode L) (hi : s.filters[0]? = some f) :
    f.cls = if acceptMode then .Input else .InputDrop := by
  have hcls := congrArg (·[0]?) h
  simpa [hi] using hcls

/-- A filter between them is of the class of the listed one in its place. -/
theorem cls_listed (h : s.Shape acceptMode L) (hi : s.filters[i + 1]? = some f)
    (hlt : i < L.length) : f.cls = L[i].cls := by
  have hcls := congrArg (·[i + 1]?) h
  rw [List.getElem?_append_left (by simpa using hlt)] at hcls
  simpa [hi, hlt] using hcls

theorem length (h : s.Shape acceptMode L) : s.filters.length = L.length + 2 := by
  have hlen := congrArg List.length h
  simpa using hlen

/-- The first filter, the last, or one between them. -/
theorem cases (h : s.Shape acceptMode L) (hi : s.filters[i]? = some f) :
    (i = 0 ∧ f.cls = if acceptMode then .Input else .InputDrop) ∨
      (i = L.length + 1 ∧ f.cls = if acceptMode then .Output else .OutputLibnet) ∨
      ∃ j g, i = j + 1 ∧ L[j]? = some g ∧ f.cls = g.cls := by
  have hlt := (List.getElem?_eq_some_iff.mp hi).1
  rw [h.length] at hlt
  cases i with
  | zero => exact Or.inl ⟨rfl, h.cls_first hi⟩
  | succ i =>
    by_cases hlast : i = L.length
    · subst hlast
      exact Or.inr (Or.inl ⟨rfl, h.cls_last hi⟩)
    · have hi' : i < L.length := by omega
      exact Or.inr (Or.inr ⟨i, L[i], rfl, List.getElem?_eq_getElem hi', h.cls_listed hi hi'⟩)

end Shape

/-- Of the classes that can be listed. -/
theorem cls_of_listed {f : RouterFilter} (hf : f.Listed) :
    f.cls ≠ .Input ∧ f.cls ≠ .InputDrop ∧ f.cls ≠ .Output ∧ f.cls ≠ .OutputLibnet := by
  cases f with
  | shaping g => cases g <;> simp [RouterFilter.cls]
  | nat => simp [RouterFilter.cls]
  | input | inputDrop | output | outputLibnet => exact hf.elim

theorem Runs.listed {h : List LockedEvent} (run : Runs acceptMode L h s) : ∀ f ∈ L, f.Listed := by
  induction run with
  | start hs => exact hs.listed
  | step _ _ ih => exact ih

/-! ## Where packets are -/

/-- A packet leaves from `Output` alone. -/
theorem exit_handle_of_cls (hshape : s.Shape acceptMode L) {i : Nat} {f : RouterFilter}
    (hi : s.filters[i]? = some f) (hcls : f.cls ≠ .Output) (t : Nat) (p : PacketPtr) (r : ℚ)
    (now : Nat) : exit acceptMode L (.run t (.handle i p) r now) = [] := by
  refine if_neg ?_
  rintro ⟨rfl, rfl⟩
  exact hcls (hshape.cls_last hi)

theorem exit_of_hands {frame : ChainFrame} {frames : List ChainFrame} {s₁ : LockedChain}
    (hshape : s.Shape acceptMode L)
    (hc : FrameCases s frame s₁ frames) (hands : Hands s frame s₁ frames) (t : Nat) (r : ℚ)
    (now : Nat) : exit acceptMode L (.run t frame r now) = [] := by
  obtain ⟨f, -, hi, -⟩ := hc.own
  cases frame with
  | handle i p => exact exit_handle_of_cls hshape hi (hands.notOutput f hi) t p r now
  | _ => rfl

/-- The packet that comes. -/
def LockedEvent.come (s : LockedChain) : LockedEvent → Multiset PacketPtr
  | .arrive _ => {s.pool.packets.next}
  | .run .. | .task .. => 0

theorem FrameCases.pool {frame : ChainFrame} {frames : List ChainFrame}
    (hc : FrameCases s frame s' frames) :
    s'.pool = s.pool ∨ ∃ i p, frame = .handle i p ∧ s.pool.Keeps p s'.pool := by
  cases hc with
  | @passOn i p f f' w headers hi hf hf' hcls hw => exact Or.inr ⟨i, p, rfl, hw⟩
  | @keep i p f f' w hi hf hf' hcls hne hw => exact Or.inr ⟨i, p, rfl, hw⟩
  | _ => exact Or.inl rfl

theorem TaskCases.pool {i : Nat} {task : PoolTask} {frames : List ChainFrame}
    (hc : TaskCases s i task s' frames) :
    s'.pool = s.pool ∨ ∃ p now, s'.pool = s.pool.resetTimeStamp p now := by
  cases hc with
  | @expire k now f f' l l' p => exact Or.inr ⟨p, now, rfl⟩
  | _ => exact Or.inl rfl

/-- The verdicts given so far, and who has had one, stay as they are. -/
def SameVerdicts (s s' : LockedChain) (q : PacketPtr) : Prop :=
  s'.pool.isSettled q = s.pool.isSettled q ∧ s'.pool.verdictsOf q = s.pool.verdictsOf q

/-- **What a step does with packets**: no packet is lost, or one leaves through `Output`, or
a filter lets go of one. -/
inductive Balance (acceptMode : Bool) (L : List RouterFilter) (s : LockedChain) (e : LockedEvent)
    (s' : LockedChain) : Prop
  | moves : s'.inside + exit acceptMode L e = s.inside + LockedEvent.come s e →
      (acceptMode = true → exit acceptMode L e = [] ∧
        ∀ q, (∀ pkt, e = .arrive pkt → q ≠ s.pool.packets.next) → SameVerdicts s s' q) →
      Balance acceptMode L s e s'
  | leaves (t : Nat) (p : PacketPtr) (r : ℚ) (now : Nat) : acceptMode = true →
      e = .run t (.handle (L.length + 1) p) r now → s'.inside + {p} = s.inside →
      s'.pool = s.pool.setVerdict p true → Balance acceptMode L s e s'
  | lost (t i : Nat) (p : PacketPtr) (r : ℚ) (now : Nat) (f : RouterFilter) :
      e = .run t (.handle i p) r now → s.filters[i]? = some f → f.cls ≠ .Output →
      exit acceptMode L e = [] → s'.inside + {p} = s.inside → LetsGo s p s'.pool f →
      Balance acceptMode L s e s'

/-- What a frame does, the chain does. -/
theorem inside_run {t : Nat} {frame : ChainFrame} {rest frames : List ChainFrame}
    {s₁ : LockedChain} {gone : Multiset PacketPtr} (ht : s.threads[t]? = some (frame :: rest))
    (hcount : holdings RouterFilter.held s₁.filters + carriedBy frames + gone =
      holdings RouterFilter.held s.filters + frame.carried) :
    inside { s₁ with threads := s.threads.set t (frames ++ rest) } + gone = s.inside := by
  have hthreads := holdings_set carriedBy ht (frames ++ rest)
  rw [carriedBy_cons, carriedBy_append] at hthreads
  refine add_right_cancel (b := (↑frame.carried : Multiset _) + carriedBy rest) ?_
  calc holdings carriedBy (s.threads.set t (frames ++ rest)) +
          holdings RouterFilter.held s₁.filters + gone + (frame.carried + carriedBy rest)
      = (holdings carriedBy (s.threads.set t (frames ++ rest)) +
          (frame.carried + carriedBy rest)) +
          (holdings RouterFilter.held s₁.filters + gone) := by abel
    _ = holdings carriedBy s.threads + carriedBy rest +
          (holdings RouterFilter.held s₁.filters + carriedBy frames + gone) := by
        rw [hthreads]
        abel
    _ = s.inside + (frame.carried + carriedBy rest) := by
        rw [hcount, inside]
        abel

/-- Accept mode has no `InputDrop`. -/
theorem Shape.ne_inputDrop (hshape : s.Shape true L) (hlisted : ∀ f ∈ L, f.Listed) (i : Nat) :
    s.filters[i]? ≠ some .inputDrop := by
  intro hi
  rcases hshape.cases hi with ⟨-, hcls⟩ | ⟨-, hcls⟩ | ⟨j, g, -, hg, hcls⟩
  · cases hcls
  · cases hcls
  · exact (cls_of_listed (hlisted g (List.mem_of_getElem? hg))).2.1 hcls.symm

/-- Accept mode has no `OutputLibnet`. -/
theorem Shape.ne_outputLibnet (hshape : s.Shape true L) (hlisted : ∀ f ∈ L, f.Listed) (i : Nat)
    (stage : OutputStage PacketPtr) : s.filters[i]? ≠ some (.outputLibnet stage) := by
  intro hi
  rcases hshape.cases hi with ⟨-, hcls⟩ | ⟨-, hcls⟩ | ⟨j, g, -, hg, hcls⟩
  · cases hcls
  · cases hcls
  · exact (cls_of_listed (hlisted g (List.mem_of_getElem? hg))).2.2.2 hcls.symm

/-- `Output` is the last filter, in accept mode. -/
theorem Shape.output_last (hshape : s.Shape acceptMode L) (hlisted : ∀ f ∈ L, f.Listed) {i : Nat}
    {f : RouterFilter} (hi : s.filters[i]? = some f) (hcls : f.cls = .Output) :
    acceptMode = true ∧ i = L.length + 1 := by
  rcases hshape.cases hi with ⟨-, hcls'⟩ | ⟨hlast, hcls'⟩ | ⟨j, g, -, hg, hcls'⟩
  · rw [hcls] at hcls'
    cases acceptMode <;> cases hcls'
  · rw [hcls] at hcls'
    cases acceptMode with
    | true => exact ⟨rfl, hlast⟩
    | false => cases hcls'
  · exact absurd (hcls'.symm.trans hcls)
      (cls_of_listed (hlisted g (List.mem_of_getElem? hg))).2.2.1

/-- `Output` accepts what it lets go of. -/
theorem LetsGo.pool_of_output {p : PacketPtr} {w : PacketPool} {f : RouterFilter}
    (hgo : LetsGo s p w f) (hcls : f.cls = .Output) : w = s.pool.setVerdict p true := by
  cases hgo with
  | accepted _ hpool => exact hpool
  | dropped hother => rcases hother with hother | hother <;> cases hcls.symm.trans hother
  | refused hother => rcases hother with hother | hother <;> cases hcls.symm.trans hother
  | closed stage hstage =>
    rw [hstage] at hcls
    cases hcls

/-- What leaves a filter when a task begins was in it. -/
theorem TaskCases.inside {i : Nat} {task : PoolTask} {frames : List ChainFrame}
    (hc : TaskCases s i task s' frames) (acceptMode : Bool) (L : List RouterFilter) :
    inside { s' with threads := s.threads ++ [frames] } +
      (exit acceptMode L (.task i task) : Multiset PacketPtr) = s.inside := by
  have hcount := hc.balance acceptMode L
  simp only [LockedChain.inside, holdings_append, holdings_cons, holdings_nil, add_zero]
  calc holdings carriedBy s.threads + carriedBy frames +
          holdings RouterFilter.held s'.filters + exit acceptMode L (.task i task)
      = holdings carriedBy s.threads + (holdings RouterFilter.held s'.filters +
          (carriedBy frames + exit acceptMode L (.task i task))) := by abel
    _ = _ := by rw [hcount]

/-- In accept mode no task takes a packet out of the chain. -/
theorem TaskCases.exit_eq_nil {i : Nat} {task : PoolTask} {frames : List ChainFrame}
    (hc : TaskCases s i task s' frames) (hshape : s.Shape true L) (hlisted : ∀ f ∈ L, f.Listed) :
    exit true L (.task i task) = [] := by
  cases hc with
  | popOutput hi => exact absurd hi (hshape.ne_outputLibnet hlisted i _)
  | curve hi hl hl' hcls htask =>
    obtain ⟨k, rfl | rfl⟩ := htask <;> rfl
  | popHandler | expire | clear | burst | run => rfl

theorem StepCases.balance {e : LockedEvent} (hc : StepCases s e s') (hshape : s.Shape acceptMode L)
    (hlisted : ∀ f ∈ L, f.Listed) : Balance acceptMode L s e s' := by
  cases hc with
  | arrive pkt hset hidle =>
    have hthreads := holdings_set carriedBy hidle [.handle 0 s.pool.packets.next]
    rw [carriedBy_nil, add_zero] at hthreads
    refine .moves ?_ fun _ => ⟨rfl, fun q hq => ?_⟩
    · simp only [inside, exit, LockedEvent.come, hthreads, carriedBy_cons, carriedBy_nil,
        ChainFrame.carried, Multiset.coe_singleton, Multiset.coe_nil, add_zero]
      abel
    · have hobj : (s.pool.add pkt.toParentPacket).packets.objects q = s.pool.packets.objects q := by
        simp [PacketPool.add, Heap.alloc, hq pkt rfl]
      exact ⟨by simp only [PacketPool.isSettled, hobj], rfl⟩
  | @run t frame r now rest frames s₁ ht hc =>
    rcases hc.balance with hands | ⟨i, p, f, rfl, hi, hcount, hgo⟩
    · have hexit := exit_of_hands hshape hc hands t r now
      refine .moves ?_ fun hmode => ⟨hexit, fun q _ => hands.verdicts ?_ q⟩
      · rw [hexit, Multiset.coe_nil, LockedEvent.come, add_zero s.inside]
        exact inside_run ht (by rw [add_zero]; exact hands.count)
      · subst hmode
        exact hshape.ne_inputDrop hlisted frame.filter
    · have hsum : holdings RouterFilter.held s₁.filters + carriedBy frames + {p} =
          holdings RouterFilter.held s.filters + ChainFrame.carried (.handle i p) := by
        rw [hcount]
        rfl
      have hinside := inside_run ht hsum
      by_cases hcls : f.cls = .Output
      · obtain ⟨hmode, rfl⟩ := hshape.output_last hlisted hi hcls
        exact .leaves t p r now hmode rfl hinside (hgo.pool_of_output hcls)
      · exact .lost t i p r now f rfl hi hcls (exit_handle_of_cls hshape hi hcls t p r now)
          hinside hgo
  | @task i task frames s₁ hc =>
    refine .moves ?_ fun hmode => ⟨?_, fun q _ => ?_⟩
    · rw [LockedEvent.come, add_zero s.inside]
      exact hc.inside acceptMode L
    · subst hmode
      exact hc.exit_eq_nil hshape hlisted
    · rcases hc.pool with hpool | ⟨p, now, hpool⟩
      · exact ⟨by rw [hpool], by rw [hpool]⟩
      · rw [SameVerdicts, hpool]
        exact ⟨s.pool.isSettled_resetTimeStamp p now q, rfl⟩

/-- Whatever a step does, it makes no packet. -/
theorem Balance.flow {e : LockedEvent} (h : Balance acceptMode L s e s') :
    s'.inside + exit acceptMode L e ≤ s.inside + LockedEvent.come s e := by
  cases h with
  | moves hcount => exact le_of_eq hcount
  | leaves t p r now hmode he hcount =>
    subst he hmode
    rw [← hcount, LockedEvent.come, add_zero, exit, if_pos ⟨rfl, rfl⟩]
    exact le_rfl
  | lost t i p r now f he hi hcls hexit hcount =>
    subst he
    rw [hexit, ← hcount, Multiset.coe_nil, add_zero]
    exact (Multiset.le_add_right _ _).trans (Multiset.le_add_right _ _)

/-- What a step leaves of the other packets. -/
theorem StepCases.keeps {e : LockedEvent} (hc : StepCases s e s') :
    (∃ pkt : Packet, e = .arrive pkt ∧ s'.pool = s.pool.add pkt.toParentPacket) ∨
      ∃ p, s.pool.Keeps p s'.pool := by
  cases hc with
  | arrive pkt => exact Or.inl ⟨pkt, rfl, rfl⟩
  | @run t frame r now rest frames s₁ ht hc =>
    rcases hc.pool with hpool | ⟨i, p, -, hkeeps⟩
    · exact Or.inr ⟨0, by rw [hpool]; exact .refl _ _⟩
    · exact Or.inr ⟨p, hkeeps⟩
  | task hc =>
    rcases hc.pool with hpool | ⟨p, now, hpool⟩
    · exact Or.inr ⟨0, by rw [hpool]; exact .refl _ _⟩
    · exact Or.inr ⟨p, by rw [hpool]; exact s.pool.keeps_resetTimeStamp p now⟩

theorem Runs.alive {h : List LockedEvent} (run : Runs acceptMode L h s) (p : PacketPtr) :
    (s.pool.packets.objects p).isSome ↔ p < s.pool.packets.next := by
  induction run with
  | start hs =>
    rw [hs.pool]
    simp [PacketPool.empty, Heap.empty]
  | @step h s s' e run hs ih =>
    rcases (step_cases hs).keeps with ⟨pkt, -, hpool⟩ | ⟨q, hkeeps⟩
    · rw [hpool]
      simp only [PacketPool.add, Heap.alloc, Function.update_apply]
      split
      · rename_i hp
        simp [hp]
      · rename_i hp
        rw [ih]
        exact ⟨fun hlt => Nat.lt_succ_of_lt hlt,
          fun hlt => Nat.lt_of_le_of_ne (Nat.lt_succ_iff.mp hlt) hp⟩
    · rw [hkeeps.alive, hkeeps.next]
      exact ih

/-- What is in the chain, or has left it, has come in, and is in one place. -/
theorem Runs.accounted {h : List LockedEvent} (run : Runs acceptMode L h s) :
    s.inside + exits acceptMode L h ≤ Multiset.range s.pool.packets.next := by
  induction run with
  | @start s hs =>
    obtain ⟨stage, hfilters⟩ := hs.filters
    have hheld : holdings RouterFilter.held s.filters = 0 := by
      refine Multiset.eq_zero_of_forall_notMem fun p hp => ?_
      obtain ⟨i, f, hf, hpf⟩ := mem_holdings.mp hp
      rw [held_of_started (hs.started f (List.mem_of_getElem? hf))] at hpf
      exact Multiset.notMem_zero p hpf
    rw [inside, hs.threads, hheld]
    exact Multiset.zero_le _
  | @step h s s' e run hs ih =>
    have hc := step_cases hs
    have hflow := (hc.balance (Runs.shape run) (Runs.listed run)).flow
    have hnext : Multiset.range s.pool.packets.next + LockedEvent.come s e ≤
        Multiset.range s'.pool.packets.next := by
      rcases hc.keeps with ⟨pkt, rfl, hpool⟩ | ⟨q, hkeeps⟩
      · rw [hpool]
        show _ ≤ Multiset.range (s.pool.packets.next + 1)
        rw [Multiset.range_succ, LockedEvent.come, ← Multiset.singleton_add, add_comm]
      · have hcome : LockedEvent.come s e = 0 := by
          cases hc with
          | arrive pkt => exact absurd hkeeps.next (Nat.succ_ne_self _)
          | run | task => rfl
        rw [hkeeps.next, hcome, add_zero]
    rw [exits_cons, ← Multiset.coe_add]
    calc s'.inside + (exits acceptMode L h + exit acceptMode L e)
        = s'.inside + exit acceptMode L e + exits acceptMode L h := by abel
      _ ≤ s.inside + LockedEvent.come s e + exits acceptMode L h := add_le_add_left hflow _
      _ = s.inside + exits acceptMode L h + LockedEvent.come s e := by abel
      _ ≤ Multiset.range s.pool.packets.next + LockedEvent.come s e := add_le_add_left ih _
      _ ≤ _ := hnext

/-- A packet that a thread carries has come in, and no other frame carries it. -/
theorem Runs.carried_once {h : List LockedEvent} (run : Runs acceptMode L h s) {p : PacketPtr}
    {t : Nat} {stack : List ChainFrame} (ht : s.threads[t]? = some stack)
    (hp : p ∈ carriedBy stack) : p < s.pool.packets.next ∧
      ∀ (t' : Nat) (stack' : List ChainFrame), s.threads[t']? = some stack' →
        p ∈ carriedBy stack' → t' = t := by
  have hle := run.accounted
  have hmem : p ∈ holdings carriedBy s.threads := mem_holdings.mpr ⟨t, stack, ht, hp⟩
  have hthreads : holdings carriedBy s.threads ≤ Multiset.range s.pool.packets.next :=
    calc holdings carriedBy s.threads ≤ s.inside := Multiset.le_add_right _ _
      _ ≤ s.inside + exits acceptMode L h := Multiset.le_add_right _ _
      _ ≤ _ := hle
  refine ⟨Multiset.mem_range.mp (Multiset.mem_of_le hthreads hmem), fun t' stack' ht' hp' => ?_⟩
  have hunique := exists_unique_place
    (Multiset.nodup_of_le hthreads (Multiset.nodup_range _)) hmem
  exact hunique.unique ⟨stack', ht', hp'⟩ ⟨stack, ht, hp⟩

/-! ## The verdicts of drop mode -/

end LockedChain

namespace PacketPool

/-- The packet had the verdict, by its own id and once. -/
def SettledOnce (w : PacketPool) (p : PacketPtr) (v : NfVerdict) : Prop :=
  w.isSettled p = true ∧
    ∃ pkt, w.packets.objects p = some pkt ∧ w.verdictsOf p = [(p, pkt.nfqID, v)]

theorem SettledOnce.keeps {w w' : PacketPool} {p q : PacketPtr} {v : NfVerdict}
    (h : w.SettledOnce p v) (hkeeps : w.Keeps q w') : w'.SettledOnce p v := by
  obtain ⟨hset, pkt, hpkt, hverdicts⟩ := h
  have hid := hkeeps.nfqID p
  rw [hpkt, Option.map_some] at hid
  obtain ⟨pkt', hpkt', hid⟩ := Option.map_eq_some_iff.mp hid
  have hboth : w'.isSettled p = w.isSettled p ∧ w'.verdictsOf p = w.verdictsOf p := by
    by_cases hpq : p = q
    · subst hpq
      exact ⟨(hkeeps.settled hset).1.trans hset.symm, (hkeeps.settled hset).2⟩
    · exact hkeeps.others p hpq
  exact ⟨hboth.1.trans hset, pkt', hpkt', by rw [hboth.2, hverdicts, hid]⟩

/-- The first verdict of a packet. -/
theorem settledOnce_setVerdict {w : PacketPool} {p : PacketPtr}
    (halive : (w.packets.objects p).isSome) (hset : w.isSettled p = false)
    (hnone : w.verdictsOf p = []) (accept : Bool) :
    (w.setVerdict p accept).SettledOnce p (if accept then .NF_ACCEPT else .NF_DROP) := by
  obtain ⟨pkt, hpkt⟩ := Option.isSome_iff_exists.mp halive
  have hflag : pkt.verdictSet = false := by simpa [isSettled, hpkt] using hset
  have hnone : w.verdicts.filter (fun call => call.1 == p) = [] := hnone
  refine ⟨?_, { pkt with verdictSet := true }, ?_, ?_⟩
  · simp [setVerdict, hpkt, hflag, isSettled, Heap.modify_objects]
  · simp [setVerdict, hpkt, hflag, Heap.modify_objects]
  · simpa [setVerdict, hpkt, hflag, verdictsOf] using hnone

end PacketPool

namespace LockedChain
variable {s s' : LockedChain} {L : List RouterFilter}

/-- In drop mode the first filter gives the verdict. -/
theorem FrameCases.drops {p : PacketPtr} {frames : List ChainFrame}
    (hc : FrameCases s (.handle 0 p) s' frames) (hshape : s.Shape false L) :
    s'.pool = s.pool.setVerdict p false := by
  have hfirst : ∀ {f : RouterFilter}, s.filters[0]? = some f → f.cls = .InputDrop :=
    fun hi => hshape.cls_first hi
  have hdrop : ∀ {f : RouterFilter}, f.cls = .InputDrop → f = .inputDrop := by
    intro f hcls
    cases f with
    | inputDrop => rfl
    | shaping g => cases g <;> cases hcls
    | input | nat | output | outputLibnet => cases hcls
  cases hc with
  | passOn hi hf hf' hcls hw hdropped => exact hdropped (hdrop (hfirst hi))
  | keep hi hf hf' hcls hne => exact absurd (hdrop (hfirst hi)) hne
  | enqueue hi hl =>
    rw [hdrop (hfirst hi)] at hl
    cases hl
  | output hi | enter _ hi | wake hi => cases hfirst hi
  | bucket hi hq hframe => rcases hframe with ⟨diff, hframe, -⟩ | hframe <;> cases hframe

/-- The packet is still to be handed to the first filter, or is still to come. -/
def Pending (s : LockedChain) (p : PacketPtr) : Prop :=
  s.pool.isSettled p = false ∧ s.pool.verdictsOf p = [] ∧
    (s.threads[0]? = some [.handle 0 p] ∨ s.pool.packets.next ≤ p)

section Dropped
variable {h : List LockedEvent} {p : PacketPtr}

/-- The packet that comes has to be handed to the first filter; the others stay what they
were. -/
theorem Runs.droppedOnce_arrive (run : Runs false L h s) {pkt : Packet}
    (hset : pkt.verdictSet = false) (hidle : s.threads[0]? = some []) (headers : PacketPtr → Packet)
    (hp : s.pool.SettledOnce p .NF_DROP ∨ s.Pending p) :
    (s.pool.add pkt.toParentPacket).SettledOnce p .NF_DROP ∨
      Pending ⟨s.filters, s.pool.add pkt.toParentPacket, headers,
        s.threads.set 0 [.handle 0 s.pool.packets.next]⟩ p := by
  have hlt := List.getElem?_eq_some_iff.mp hidle
  by_cases hpn : p = s.pool.packets.next
  · subst hpn
    -- the new packet had no verdict: nobody knew of it
    have hnone : s.pool.packets.objects s.pool.packets.next = none := by
      have halive := run.alive s.pool.packets.next
      simpa using halive
    have hpend : s.Pending s.pool.packets.next := by
      refine hp.resolve_left fun hd => ?_
      obtain ⟨-, pkt', hpkt', -⟩ := hd
      rw [hnone] at hpkt'
      cases hpkt'
    refine Or.inr ⟨?_, hpend.2.1, Or.inl ?_⟩
    · simp [PacketPool.isSettled, PacketPool.add, Heap.alloc, hset]
    · simp [hlt.1]
  · have hobj : (s.pool.add pkt.toParentPacket).packets.objects p = s.pool.packets.objects p := by
      simp [PacketPool.add, Heap.alloc, hpn]
    rcases hp with ⟨hsettled, pkt', hpkt', hverdicts⟩ | ⟨hsettled, hverdicts, hpend⟩
    · refine Or.inl ⟨?_, pkt', hobj.trans hpkt', hverdicts⟩
      simpa only [PacketPool.isSettled, hobj] using hsettled
    · refine Or.inr ⟨?_, hverdicts, Or.inr ?_⟩
      · simpa only [PacketPool.isSettled, hobj] using hsettled
      · rw [hidle] at hpend
        have hle := hpend.resolve_left fun hpend => by cases hpend
        exact Nat.succ_le_of_lt (Nat.lt_of_le_of_ne hle (Ne.symm hpn))

variable {t : Nat} {frame : ChainFrame} {rest : List ChainFrame}

/-- A packet that has to be handed to the first filter is carried by that frame only. -/
theorem Pending.ne_of_carried (hpend : s.Pending p) (run : Runs false L h s)
    (ht : s.threads[t]? = some (frame :: rest)) (hfirst : ¬ (t = 0 ∧ frame = .handle 0 p))
    {q : PacketPtr} (hq : q ∈ frame.carried) : p ≠ q := by
  rintro rfl
  have hcarried : p ∈ carriedBy (frame :: rest) := by simp [hq]
  obtain ⟨hlt, honly⟩ := run.carried_once ht hcarried
  rcases hpend.2.2 with hidle | hle
  · obtain rfl := honly 0 _ hidle (by simp [ChainFrame.carried])
    rw [ht] at hidle
    obtain ⟨rfl, rfl⟩ := List.cons.inj (Option.some.inj hidle)
    exact hfirst ⟨rfl, rfl⟩
  · exact absurd hlt (Nat.not_lt.mpr hle)

/-- It waits while the threads do other frames. -/
theorem Pending.waits (hpend : s.Pending p) (ht : s.threads[t]? = some (frame :: rest))
    (hfirst : ¬ (t = 0 ∧ frame = .handle 0 p)) (frames : List ChainFrame) :
    (s.threads.set t (frames ++ rest))[0]? = some [.handle 0 p] ∨ s.pool.packets.next ≤ p := by
  refine hpend.2.2.imp_left fun hidle => ?_
  by_cases ht0 : t = 0
  · subst ht0
    rw [ht] at hidle
    obtain ⟨rfl, rfl⟩ := List.cons.inj (Option.some.inj hidle)
    exact absurd ⟨rfl, rfl⟩ hfirst
  · rwa [List.getElem?_set_ne ht0]

theorem StepCases.droppedOnce (run : Runs false L h s) {e : LockedEvent} (hc : StepCases s e s')
    (hp : s.pool.SettledOnce p .NF_DROP ∨ s.Pending p) :
    s'.pool.SettledOnce p .NF_DROP ∨ s'.Pending p := by
  cases hc with
  | arrive pkt hset hidle => exact run.droppedOnce_arrive hset hidle _ hp
  | @run t frame r now rest frames s₁ ht hc =>
    by_cases hfirst : t = 0 ∧ frame = .handle 0 p
    · obtain ⟨rfl, rfl⟩ := hfirst
      have hpool := hc.drops run.shape
      have hcarried : p ∈ carriedBy (.handle 0 p :: rest) := by simp [ChainFrame.carried]
      have hlt := (run.carried_once ht hcarried).1
      rcases hp with hp | ⟨hsettled, hverdicts, -⟩
      · exact Or.inl (hp.keeps (by rw [hpool]; exact s.pool.keeps_setVerdict p false))
      · refine Or.inl ?_
        show s₁.pool.SettledOnce p .NF_DROP
        rw [hpool]
        exact PacketPool.settledOnce_setVerdict ((run.alive p).mpr hlt) hsettled hverdicts false
    · rcases hp with hp | hpend
      · rcases hc.pool with hpool | ⟨i, q, -, hkeeps⟩
        · exact Or.inl (hp.keeps (q := p) (by rw [hpool]; exact .refl _ _))
        · exact Or.inl (hp.keeps hkeeps)
      · have hwait := hpend.waits ht hfirst frames
        rcases hc.pool with hpool | ⟨i, q, hframe, hkeeps⟩
        · exact Or.inr ⟨by rw [hpool]; exact hpend.1, by rw [hpool]; exact hpend.2.1,
            by rw [hpool]; exact hwait⟩
        · have hcarried : q ∈ frame.carried := by simp [hframe, ChainFrame.carried]
          have hpq := hpend.ne_of_carried run ht hfirst hcarried
          obtain ⟨hset', hverdicts'⟩ := hkeeps.others p hpq
          exact Or.inr ⟨hset'.trans hpend.1, hverdicts'.trans hpend.2.1,
            hwait.imp_right fun hle => hkeeps.next.trans_le hle⟩
  | @task i task frames s₁ hc =>
    have hkeeps : ∃ q, s.pool.Keeps q s₁.pool ∧ s₁.pool.isSettled p = s.pool.isSettled p ∧
        s₁.pool.verdictsOf p = s.pool.verdictsOf p := by
      rcases hc.pool with hpool | ⟨q, now, hpool⟩
      · exact ⟨p, by rw [hpool]; exact ⟨.refl _ _, rfl, rfl⟩⟩
      · rw [hpool]
        exact ⟨q, s.pool.keeps_resetTimeStamp q now,
          s.pool.isSettled_resetTimeStamp q now p, rfl⟩
    obtain ⟨q, hkeeps, hset, hverdicts⟩ := hkeeps
    refine hp.imp (fun hp => hp.keeps hkeeps) ?_
    rintro ⟨hsettled, hnone, hpend⟩
    refine ⟨hset.trans hsettled, hverdicts.trans hnone, ?_⟩
    refine hpend.imp (fun hidle => ?_) fun hle => hkeeps.next.trans_le hle
    rw [List.getElem?_append_left (List.getElem?_eq_some_iff.mp hidle).1]
    exact hidle

end Dropped

theorem Runs.droppedOnce {h : List LockedEvent} (run : Runs false L h s) (p : PacketPtr) :
    s.pool.SettledOnce p .NF_DROP ∨ s.Pending p := by
  induction run with
  | @start s hs =>
    refine Or.inr ?_
    rw [Pending, hs.pool]
    exact ⟨rfl, rfl, Or.inr (Nat.zero_le p)⟩
  | step run hs ih => exact (step_cases hs).droppedOnce run ih

end LockedChain

open LockedChain

/-- A chain in drop mode with a `Burst` in its burst phase. -/
def collecting : List RouterFilter := [.shaping (.burst { timers := [0] })]

/-- A packet is collected by `collecting`, and written when the burst is over. -/
def collectingEvents (pkt : Packet) : List LockedEvent :=
  [.arrive pkt, .run 0 (.handle 0 0) 0 0, .run 0 (.handle 1 0) 0 0, .run 0 (.push 1 0) 0 0,
    .task 1 (.timeout 0 0), .run 1 (.init 1) 0 0, .run 1 (.flush 1) 0 0,
    .run 1 (.handle 2 0) 0 0, .run 1 (.flushed 1) 0 0,
    .task 2 (.popOutput 0 (.ok 0) ⟨true, none, true⟩)]

theorem collecting_starts (headers : PacketPtr → Packet) :
    Starts false collecting
      ⟨wrap false collecting (OutputStage.uninit [] true).init, .empty, headers, [[]]⟩ where
  filters := ⟨_, rfl⟩
  listed := by simp [collecting, RouterFilter.Listed]
  started := by
    intro f hf
    simp only [wrap, collecting, Bool.false_eq_true, if_false, List.cons_append, List.nil_append,
      List.mem_cons, List.not_mem_nil, or_false] at hf
    rcases hf with rfl | rfl | rfl
    · trivial
    · rfl
    · exact ⟨true, rfl⟩
  pool := rfl
  threads := rfl

/-- **No packet is made twice.**  Whatever the threads, the timers and the locks do to one
another, the packets that are in the chain and those that have left it came in, and none
of them is there twice. -/
theorem packets_accounted {acceptMode : Bool} {L : List RouterFilter} {h : List LockedEvent}
    {s : LockedChain} (run : Runs acceptMode L h s) :
    (s.inside + exits acceptMode L h).Nodup ∧
      ∀ p ∈ s.inside + exits acceptMode L h, p < s.pool.packets.next := by
  have hle := run.accounted
  exact ⟨Multiset.nodup_of_le hle (Multiset.nodup_range _),
    fun p hp => Multiset.mem_range.mp (Multiset.mem_of_le hle hp)⟩

/-- The packet that `collecting` writes. -/
theorem packets_accounted_collecting :
    ∃ s, Runs false collecting (collectingEvents (.ofAddresses false 1 2 3 4)).reverse s ∧
      exits false collecting (collectingEvents (.ofAddresses false 1 2 3 4)).reverse = [0] ∧
      (s.inside + ({0} : Multiset PacketPtr)).Nodup := by
  have run : Runs false collecting _ _ :=
    Run.of_replay LockedChain.step (fun _ _ _ h => h)
      (collectingEvents (.ofAddresses false 1 2 3 4))
      (collecting_starts fun _ => .ofAddresses false 1 2 3 4) rfl
  exact ⟨_, run, rfl, (packets_accounted run).1⟩

/-- **Drop mode drops every packet in the kernel, once.**  Of the packets that came in, at
most the newest has had no verdict: it has still to be handed to `InputDrop`.  All others
were dropped, each by its own id and once, so none that is written was let through as well. -/
theorem drop_mode_verdicts {L : List RouterFilter} {h : List LockedEvent} {s : LockedChain}
    (run : Runs false L h s) {p : PacketPtr} (hp : p < s.pool.packets.next) :
    s.pool.SettledOnce p .NF_DROP ∨
      (s.pool.verdictsOf p = [] ∧ s.threads[0]? = some [.handle 0 p]) := by
  refine (run.droppedOnce p).imp_right ?_
  rintro ⟨-, hnone, hpend⟩
  exact ⟨hnone, hpend.resolve_right (Nat.not_le.mpr hp)⟩

/-- The packet of `collecting`. -/
theorem drop_mode_verdicts_collecting :
    ∃ s, Runs false collecting (collectingEvents (.ofAddresses false 1 2 3 4)).reverse s ∧
      s.pool.SettledOnce 0 .NF_DROP := by
  have run : Runs false collecting _ _ :=
    Run.of_replay LockedChain.step (fun _ _ _ h => h)
      (collectingEvents (.ofAddresses false 1 2 3 4))
      (collecting_starts fun _ => .ofAddresses false 1 2 3 4) rfl
  refine ⟨_, run, (drop_mode_verdicts run (p := 0) (by decide)).resolve_right ?_⟩
  rintro ⟨hnone, -⟩
  cases hnone

end ShapingRouter
