import Mathlib
import ShapingRouter.ChainGates
import ShapingRouter.Library.Pipeline

/-! # A chain keeps its packets in order

Packets are numbered in the order in which they come.  In a chain without `Burst` those of
one direction leave in that order, whatever the threads, the timers and the locks do to one
another (`chain_keeps_order`): some may be dropped on the way, but none overtakes another.

The chain is a pipeline.  Its places are the filters, each with what it holds and what the
threads are about to hand to it, and what has left comes last.  Every step moves packets
from one place to the next one, and since one thread alone carries packets of a direction
between two gates, it finds the end of the next place free.
-/

namespace ShapingRouter
open Library

/-- What a filter holds of a direction, in the order in which it will be forwarded. -/
def RouterFilter.queue (isIngoing : Bool) : RouterFilter → List PacketPtr
  | shaping (.burst f) => f.queue
  | shaping (.staticDelay f) => f.toDelayLine.inOrder
  | shaping (.dynamicDelay f) => f.toDelayLine.inOrder
  | shaping (.tokenBucketFilter f) => (f.bucket isIngoing).queue
  | outputLibnet stage => stage.waiting
  | _ => []

/-- The packets of a direction. -/
def PacketPool.ofDirection (w : PacketPool) (isIngoing : Bool) (ps : List PacketPtr) :
    List PacketPtr :=
  ps.filter fun p => w.isIngoing p == isIngoing

/-- The packet that the frame hands to the filter at `i`, if it is of the direction. -/
def ChainFrame.entry (w : PacketPool) (isIngoing : Bool) (i : Nat) : ChainFrame → Option PacketPtr
  | handle j p => if j = i ∧ w.isIngoing p = isIngoing then some p else none
  | _ => none

/-- The packets of a direction that a thread will hand to the filter at `i`. -/
def entries (w : PacketPool) (isIngoing : Bool) (i : Nat) (stack : List ChainFrame) :
    List PacketPtr :=
  stack.filterMap (·.entry w isIngoing i)

section Entries
variable {w : PacketPool} {d : Bool} {i : Nat}

@[simp] theorem entries_nil : entries w d i [] = [] := rfl

@[simp] theorem entries_append (stack more : List ChainFrame) :
    entries w d i (stack ++ more) = entries w d i stack ++ entries w d i more :=
  List.filterMap_append ..

theorem entries_cons (frame : ChainFrame) (stack : List ChainFrame) :
    entries w d i (frame :: stack) = entries w d i [frame] ++ entries w d i stack := by
  rw [← entries_append]
  rfl

theorem mem_entries {stack : List ChainFrame} {p : PacketPtr} :
    p ∈ entries w d i stack ↔ .handle i p ∈ stack ∧ w.isIngoing p = d := by
  rw [entries, List.mem_filterMap]
  constructor
  · rintro ⟨frame, hmem, hentry⟩
    cases frame with
    | handle j q =>
      obtain ⟨⟨rfl, hdir⟩, heq⟩ := Option.ite_none_right_eq_some.mp hentry
      obtain rfl := Option.some.inj heq
      exact ⟨hmem, hdir⟩
    | _ => cases hentry
  · rintro ⟨hmem, hdir⟩
    exact ⟨_, hmem, if_pos ⟨rfl, hdir⟩⟩

theorem entries_eq_nil {stack : List ChainFrame}
    (h : ∀ p, .handle i p ∈ stack → w.isIngoing p ≠ d) : entries w d i stack = [] := by
  refine List.eq_nil_iff_forall_not_mem.mpr fun p hp => ?_
  obtain ⟨hmem, hdir⟩ := mem_entries.mp hp
  exact h p hmem hdir

theorem entries_handles (ps : List PacketPtr) :
    entries w d i (ps.map (.handle i)) = w.ofDirection d ps := by
  rw [entries, List.filterMap_map, PacketPool.ofDirection, ← List.filterMap_eq_filter]
  refine List.filterMap_congr fun p _ => ?_
  simp [ChainFrame.entry, Option.guard]

theorem entries_handle (p : PacketPtr) : entries w d i [.handle i p] = w.ofDirection d [p] :=
  entries_handles [p]

theorem entries_congr {w' : PacketPool} {stack : List ChainFrame}
    (h : ∀ p ∈ carriedBy stack, w'.isIngoing p = w.isIngoing p) :
    entries w' d i stack = entries w d i stack := by
  refine List.filterMap_congr fun frame hframe => ?_
  cases frame with
  | handle j p =>
    have hp : p ∈ carriedBy stack := by
      simp only [carriedBy, Multiset.mem_coe, List.mem_flatMap]
      exact ⟨_, hframe, List.mem_singleton_self p⟩
    simp only [ChainFrame.entry, h p hp]
  | _ => rfl

theorem ofDirection_congr {w' : PacketPool} {ps : List PacketPtr}
    (h : ∀ p ∈ ps, w'.isIngoing p = w.isIngoing p) :
    w'.ofDirection d ps = w.ofDirection d ps := by
  refine List.filter_congr fun p hp => ?_
  rw [h p hp]

@[simp] theorem ofDirection_append (ps qs : List PacketPtr) :
    w.ofDirection d (ps ++ qs) = w.ofDirection d ps ++ w.ofDirection d qs :=
  List.filter_append ..

@[simp] theorem ofDirection_nil : w.ofDirection d [] = [] := rfl

end Entries

namespace LockedChain
variable {s s' : LockedChain} {acceptMode : Bool} {L : List RouterFilter}

/-- What the filter at `i` holds of a direction. -/
def queued (s : LockedChain) (isIngoing : Bool) (i : Nat) : List PacketPtr :=
  s.pool.ofDirection isIngoing (((s.filters[i]?).map (·.queue isIngoing)).getD [])

/-- What the threads are about to hand to it. -/
def entering (s : LockedChain) (isIngoing : Bool) (i : Nat) : List PacketPtr :=
  s.threads.flatMap (entries s.pool isIngoing i)

/-- **The places of the pipeline** of one direction: the filters, and behind them what has
left the chain. -/
def places (acceptMode : Bool) (L : List RouterFilter) (h : List LockedEvent) (s : LockedChain)
    (isIngoing : Bool) (i : Nat) : List PacketPtr :=
  if i = L.length + 2 then s.pool.ofDirection isIngoing (exits acceptMode L h)
  else s.queued isIngoing i ++ s.entering isIngoing i

theorem queued_eq {i : Nat} {f : RouterFilter} (hi : s.filters[i]? = some f) (d : Bool) :
    s.queued d i = s.pool.ofDirection d (f.queue d) := by
  simp [queued, hi]

theorem queue_of_clear {f : RouterFilter} (hf : f.Clear) (d : Bool) : f.queue d = [] := by
  cases f with
  | shaping g => cases g <;> first | rfl | exact hf.elim
  | outputLibnet => exact hf.elim
  | input | inputDrop | nat | output => rfl

theorem queue_of_line {f : RouterFilter} {l : DelayLine PacketPtr} (hl : f.line = some l)
    (d : Bool) : f.queue d = l.inOrder := by
  cases f with
  | shaping g =>
    cases g with
    | staticDelay g | dynamicDelay g => exact congrArg DelayLine.inOrder (Option.some.inj hl)
    | loss | burst | dynamicLoss | tokenBucketFilter => cases hl
  | input | inputDrop | nat | output | outputLibnet => cases hl

/-! ## What a step moves -/

/-- What a filter that has changed holds. -/
theorem queued_set {i : Nat} {f f' : RouterFilter} (hi : s.filters[i]? = some f)
    (hw : ∀ p, s'.pool.isIngoing p = s.pool.isIngoing p)
    (hfilters : s'.filters = s.filters.set i f') (d : Bool) :
    s'.queued d i = s.pool.ofDirection d (f'.queue d) := by
  have hlt := (List.getElem?_eq_some_iff.mp hi).1
  rw [queued_eq (f := f') (by rw [hfilters]; simp [hlt])]
  exact ofDirection_congr fun p _ => hw p

/-- What a filter's bucket of a direction holds after one of its buckets has changed. -/
theorem queue_setBucket (f : TokenBucketFilter PacketPtr) (d' d : Bool)
    (b : TokenBucket PacketPtr) :
    (RouterFilter.shaping (.tokenBucketFilter (f.setBucket d' b))).queue d =
      if d = d' then b.queue else (f.bucket d).queue := by
  show ((f.setBucket d' b).bucket d).queue = _
  rw [TokenBucketFilter.bucket_setBucket_apply]
  split <;> rfl

theorem FrameCases.isIngoing {frame : ChainFrame} {frames : List ChainFrame}
    (hc : FrameCases s frame s' frames) (p : PacketPtr) :
    s'.pool.isIngoing p = s.pool.isIngoing p := by
  rcases hc.pool with hpool | ⟨i, q, -, hkeeps⟩
  · rw [hpool]
  · exact hkeeps.isIngoing p

theorem TaskCases.isIngoing {i : Nat} {task : PoolTask} {frames : List ChainFrame}
    (hc : TaskCases s i task s' frames) (p : PacketPtr) :
    s'.pool.isIngoing p = s.pool.isIngoing p := by
  rcases hc.pool with hpool | ⟨q, now, hpool⟩
  · rw [hpool]
  · rw [hpool]
    exact (s.pool.keeps_resetTimeStamp q now).isIngoing p

/-- **A frame moves packets on in order**: those that leave, those that go on to the next
filter and those that stay were there before in this order, the new one last. -/
theorem FrameCases.moves {frame : ChainFrame} {frames : List ChainFrame}
    (hc : FrameCases s frame s' frames) (hshape : s.Shape acceptMode L)
    (hL : ∀ f ∈ L, f.cls ≠ .Burst) (hg : s.Gated) (d : Bool) (t : Nat) (r : ℚ) (now : Nat) :
    (s.pool.ofDirection d (exit acceptMode L (.run t frame r now)) ++
        (entries s.pool d (frame.filter + 1) frames ++ s'.queued d frame.filter)).Sublist
      (s.queued d frame.filter ++ entries s.pool d frame.filter [frame]) := by
  have hw := hc.isIngoing
  cases hc with
  | @passOn i p f f' w headers hi hf hf' =>
    show (_ ++ (_ ++ queued _ d i)).Sublist (s.queued d i ++ _)
    rw [exit_handle_of_cls hshape hi hf.2, queued_set hi hw rfl, queued_eq hi,
      queue_of_clear hf.1, queue_of_clear hf']
    show (entries s.pool d (i + 1) [.handle (i + 1) p] ++ []).Sublist
      (entries s.pool d i [.handle i p])
    rw [entries_handle, entries_handle, List.append_nil]
  | @keep i p f f' w hi hf hf' =>
    show (_ ++ (_ ++ queued _ d i)).Sublist (s.queued d i ++ entries s.pool d i [.handle i p])
    rw [queued_set hi hw rfl, queued_eq hi, queue_of_clear hf, queue_of_clear hf', entries_handle]
    simp only [ofDirection_nil, entries_nil, List.append_nil, List.nil_append]
    refine List.Sublist.filter _ ?_
    show (if acceptMode = true ∧ i = L.length + 1 then [p] else []).Sublist [p]
    split
    · exact List.Sublist.refl _
    · exact List.nil_sublist _
  | @enqueue i p f f' l hi hl hl' =>
    show (_ ++ (_ ++ queued _ d i)).Sublist (s.queued d i ++ entries s.pool d i [.handle i p])
    rw [exit_handle_of_cls hshape hi (cls_of_line hl), queued_set hi hw rfl, queued_eq hi,
      queue_of_line hl, queue_of_line hl', l.inOrder_handlePacket, entries_handle,
      ofDirection_append]
    simp
  | @output i p stage hi =>
    show (_ ++ (_ ++ queued _ d i)).Sublist (s.queued d i ++ entries s.pool d i [.handle i p])
    rw [exit_handle_of_cls hshape hi (by simp [RouterFilter.cls]), queued_set hi hw rfl,
      queued_eq hi, entries_handle, ← ofDirection_append]
    simp only [ofDirection_nil, entries_nil, List.nil_append]
    refine List.Sublist.filter _ ?_
    show (stage.onQueue (·.push p)).waiting.Sublist (stage.waiting ++ [p])
    by_cases hopen : stage.queue.Open
    · rw [OutputStage.waiting_push hopen]
    · rw [OutputStage.waiting_closed hopen]
      exact List.sublist_append_left _ _
  | @enter i p f r hi =>
    show (_ ++ (_ ++ queued _ d i)).Sublist (s.queued d i ++ entries s.pool d i [.handle i p])
    rw [exit_handle_of_cls hshape hi (by simp [RouterFilter.cls]), queued_set hi hw rfl,
      queued_eq hi, entries_handle, ← ofDirection_append, queue_setBucket]
    show (s.pool.ofDirection d _).Sublist _
    refine List.Sublist.filter _ ?_
    split
    · rename_i hd
      rw [← hd]
      show ((f.bucket d).enqueue r p).queue.Sublist ((f.bucket d).queue ++ [p])
      unfold TokenBucket.enqueue
      split
      · exact List.Sublist.refl _
      · exact List.sublist_append_left _ _
    · exact List.sublist_append_left _ _
  | wake hi | push hi | turn hi | flush hi | flushed hi =>
    exact absurd rfl (hshape.cls_ne_burst hL hi)
  | @bucket i f frame d' b hi hq hframe =>
    have hfilter : frame.filter = i ∧ entries s.pool d i [frame] = [] ∧
        exit acceptMode L (.run t frame r now) = [] := by
      rcases hframe with ⟨diff, rfl, -⟩ | rfl <;> exact ⟨rfl, rfl, rfl⟩
    rw [hfilter.1, hfilter.2.1, hfilter.2.2, queued_set hi hw rfl, queued_eq hi, queue_setBucket]
    simp only [ofDirection_nil, entries_nil, List.append_nil, List.nil_append]
    refine List.Sublist.filter _ ?_
    split
    · rename_i hd
      rw [hq, hd]
      exact List.Sublist.refl _
    · exact List.Sublist.refl _
  | @trySend i f d' hi =>
    set o := (f.bucket d').trySend s.pool.getPacketLen
    show ([] ++ (entries s.pool d (i + 1) (o.2.map (ChainFrame.handle (i + 1)) ++
      [ChainFrame.unlock i d']) ++ queued _ d i)).Sublist (s.queued d i ++ [])
    have hqueue : o.2 ++ o.1.queue = (f.bucket d').queue :=
      TokenBucket.sendLoop_append ..
    have hunlock : entries s.pool d (i + 1) [.unlock i d'] = [] := rfl
    rw [queued_set hi hw rfl, queued_eq hi, queue_setBucket, List.nil_append, List.append_nil,
      entries_append, entries_handles, hunlock, List.append_nil]
    split
    · rename_i hd
      subst hd
      rw [← ofDirection_append, hqueue]
      exact List.Sublist.refl _
    · rename_i hd
      have hnone : s.pool.ofDirection d o.2 = [] := by
        refine List.filter_eq_nil_iff.mpr fun p hp hdir => hd ?_
        have hmem : p ∈ (f.bucket d').queue := by
          rw [← hqueue]
          exact List.mem_append_left _ hp
        rw [← eq_of_beq hdir, hg.directed i f d' hi p hmem]
      rw [hnone, List.nil_append]
      exact List.Sublist.refl _
  | @unlock i f d' hi =>
    show ([] ++ ([] ++ s.queued d i)).Sublist (s.queued d i ++ [])
    simp
  | @asyncPop i f f' l hi hl hl' =>
    show ([] ++ ([] ++ queued _ d i)).Sublist (s.queued d i ++ [])
    rw [queued_set hi hw rfl, queued_eq hi, queue_of_line hl, queue_of_line hl',
      l.inOrder_asyncPop]
    simp

/-! ## The output stage -/

/-- Nobody closes an output stage, and one packet at a time is handed to `popHandler`. -/
def Staged (s : LockedChain) : Prop :=
  ∀ (i : Nat) (stage : OutputStage PacketPtr), s.filters[i]? = some (.outputLibnet stage) →
    stage.queue.Open ∧ stage.Token

/-- A run of `popHandler`, whatever came of it. -/
theorem token_popOutput {stage : OutputStage PacketPtr} (hstage : stage.queue.Open ∧ stage.Token)
    {k : Nat} {d : Delivery PacketPtr} (hk : stage.posted[k]? = some (.popHandler, d))
    (run : PopRun) :
    let stage' := if run.rearmed then (stage.afterRun k run).onQueue (·.asyncPop .popHandler)
      else stage.afterRun k run
    (stage'.queue.Open ∧ stage'.Token) ∧ d.data ++ stage'.waiting = stage.waiting := by
  obtain ⟨data, rfl, htoken, -, hwait⟩ :=
    OutputStage.token_pop (fun _ _ _ => run) hstage.2 hstage.1 hk {}
  refine ⟨⟨?_, htoken⟩, hwait⟩
  show (OutputStage.runPopHandler (fun _ _ _ => run) stage k (.ok data) {}).queue.Open
  unfold OutputStage.runPopHandler
  split
  · exact (AsyncQueue.asyncPop_open _).mpr hstage.1
  · exact hstage.1

theorem FrameCases.staged {frame : ChainFrame} {frames : List ChainFrame}
    (hc : FrameCases s frame s' frames) (hs : s.Staged) : s'.Staged := by
  intro j stage hj
  have hkeep : ∀ {i : Nat} {f' : RouterFilter}, (∀ stage, f' ≠ .outputLibnet stage) →
      (s.filters.set i f')[j]? = some (.outputLibnet stage) → stage.queue.Open ∧ stage.Token := by
    intro i f' hne hj
    rcases getElem?_set_cases hj with ⟨-, hsame⟩ | ⟨-, hj⟩
    · exact absurd hsame.symm (hne stage)
    · exact hs j stage hj
  have hclear : ∀ {f' : RouterFilter}, f'.Clear → ∀ stage, f' ≠ .outputLibnet stage := by
    rintro f' hf' stage rfl
    exact hf'
  have hline : ∀ {f' : RouterFilter} {l : DelayLine PacketPtr}, f'.line = some l →
      ∀ stage, f' ≠ .outputLibnet stage := by
    rintro f' l hl stage rfl
    cases hl
  cases hc with
  | passOn hi hf hf' => exact hkeep (hclear hf') hj
  | keep hi hf hf' => exact hkeep (hclear hf') hj
  | enqueue hi hl hl' => exact hkeep (hline hl') hj
  | asyncPop hi hl hl' => exact hkeep (hline hl') hj
  | enter | push | turn | flush | flushed | bucket | trySend => exact hkeep (by simp) hj
  | wake | unlock => exact hs j stage hj
  | @output i p stage₀ hi =>
    rcases getElem?_set_cases hj with ⟨-, hsame⟩ | ⟨-, hj⟩
    · obtain rfl := RouterFilter.outputLibnet.inj hsame
      obtain ⟨hopen, htoken⟩ := hs i stage₀ hi
      exact ⟨(AsyncQueue.push_open p).mpr hopen, (OutputStage.token_push htoken hopen p).1⟩
    · exact hs j stage hj

theorem TaskCases.staged {i : Nat} {task : PoolTask} {frames : List ChainFrame}
    (hc : TaskCases s i task s' frames) (hs : s.Staged) : s'.Staged := by
  intro j stage hj
  have hkeep : ∀ {f' : RouterFilter}, (∀ stage, f' ≠ .outputLibnet stage) →
      (s.filters.set i f')[j]? = some (.outputLibnet stage) → stage.queue.Open ∧ stage.Token := by
    intro f' hne hj
    rcases getElem?_set_cases hj with ⟨-, hsame⟩ | ⟨-, hj⟩
    · exact absurd hsame.symm (hne stage)
    · exact hs j stage hj
  have hline : ∀ {f' : RouterFilter} {l : DelayLine PacketPtr}, f'.line = some l →
      ∀ stage, f' ≠ .outputLibnet stage := by
    rintro f' l hl stage rfl
    cases hl
  cases hc with
  | popHandler delay hi hl hpop hl' => exact hkeep (hline hl') hj
  | expire hi hl hexpire hl' => exact hkeep (hline hl') hj
  | curve hi hl hl' => exact hkeep (hline hl') hj
  | clear hi hf hf' =>
    refine hkeep ?_ hj
    rintro stage rfl
    exact hf'
  | burst | run => exact hkeep (by simp) hj
  | @popOutput k d run stage₀ hi hk =>
    rcases getElem?_set_cases hj with ⟨-, hsame⟩ | ⟨-, hj⟩
    · obtain rfl := RouterFilter.outputLibnet.inj hsame
      exact (token_popOutput (hs i stage₀ hi) hk run).1
    · exact hs j stage hj

theorem Runs.staged {h : List LockedEvent} (run : Runs acceptMode L h s) : s.Staged := by
  induction run with
  | @start s hs =>
    intro i stage hi
    obtain ⟨handle, rfl⟩ := hs.started _ (List.mem_of_getElem? hi)
    have hopen : (OutputStage.uninit ([] : List PacketPtr) handle).queue.Open := ⟨rfl, rfl⟩
    exact ⟨(AsyncQueue.asyncPop_open _).mpr hopen, (OutputStage.token_rearm hopen rfl).1⟩
  | step run hs ih =>
    cases step_cases hs with
    | arrive => exact ih
    | run r now ht hc => exact hc.staged ih
    | task hc => exact hc.staged ih

/-- The output stage is the last filter. -/
theorem Runs.outputLibnet_last {h : List LockedEvent} (run : Runs acceptMode L h s) {i : Nat}
    {stage : OutputStage PacketPtr} (hi : s.filters[i]? = some (.outputLibnet stage)) :
    i = L.length + 1 := by
  rcases run.shape.cases hi with ⟨-, hcls⟩ | ⟨hlast, -⟩ | ⟨j, g, -, hg, hcls⟩
  · cases acceptMode <;> cases hcls
  · exact hlast
  · exact absurd hcls.symm (cls_of_listed (run.listed g (List.mem_of_getElem? hg))).2.2.2

/-- **A task moves packets on in order.** -/
theorem TaskCases.moves {h : List LockedEvent} (run : Runs acceptMode L h s)
    (hL : ∀ f ∈ L, f.cls ≠ .Burst) (hg : s.Gated) {i : Nat} {task : PoolTask}
    {frames : List ChainFrame} (hc : TaskCases s i task s' frames) (d : Bool) :
    (s.pool.ofDirection d (exit acceptMode L (.task i task)) ++
        (entries s.pool d (i + 1) frames ++ s'.queued d i)).Sublist (s.queued d i) := by
  have hw := hc.isIngoing
  have hshape := Runs.shape run
  cases hc with
  | @popHandler k now f f' l l' delay hi hl hpop hl' =>
    show ([] ++ ([] ++ queued _ d i)).Sublist _
    rw [queued_set hi hw rfl, queued_eq hi, queue_of_line hl, queue_of_line hl']
    rcases hg.attended i f l hi hl with ⟨-, sv, hserves⟩ | ⟨-, hrests⟩
    · obtain ⟨pkt, -, -, -, hserves'⟩ := hserves.popHandler hpop
      rw [hserves'.inOrder_eq]
      simp
    · rw [hrests.not_popHandler] at hpop
      cases hpop
  | @expire k now f f' l l' p hi hl hexpire hl' =>
    show ([] ++ (entries s.pool d (i + 1) ([ChainFrame.handle (i + 1) p] ++
      [ChainFrame.asyncPop i]) ++ queued _ d i)).Sublist _
    have hpop : entries s.pool d (i + 1) [.asyncPop i] = [] := rfl
    rw [queued_set hi hw rfl, queued_eq hi, queue_of_line hl, queue_of_line hl', entries_append,
      entries_handle, hpop]
    rcases hg.attended i f l hi hl with ⟨-, sv, hserves⟩ | ⟨-, hrests⟩
    · rw [(hserves.expire hexpire).1, List.append_nil, List.nil_append, ← ofDirection_append]
      exact List.Sublist.refl _
    · rw [hrests.not_expire] at hexpire
      cases hexpire
  | @curve task f f' l hi hl hl' hcls htask =>
    have hexit : exit acceptMode L (.task i task) = [] := by
      obtain ⟨k, rfl | rfl⟩ := htask <;> rfl
    rw [hexit, queued_set hi hw rfl, queued_eq hi, queue_of_line hl, queue_of_line hl']
    simp
  | @clear k now f f' hi hf hf' =>
    show ([] ++ ([] ++ queued _ d i)).Sublist _
    rw [queued_set hi hw rfl, queued_eq hi, queue_of_clear hf, queue_of_clear hf']
    simp
  | burst hi => exact absurd rfl (hshape.cls_ne_burst hL hi)
  | @run d' k reads diff f b hi hq =>
    show ([] ++ ([] ++ queued _ d i)).Sublist _
    rw [queued_set hi hw rfl, queued_eq hi, queue_setBucket, List.nil_append, List.nil_append]
    refine List.Sublist.filter _ ?_
    split
    · rename_i hd
      rw [hq, hd]
      exact List.Sublist.refl _
    · exact List.Sublist.refl _
  | @popOutput k dlv pop stage hi hk =>
    show (s.pool.ofDirection d dlv.data ++ ([] ++ queued _ d i)).Sublist _
    rw [queued_set hi hw rfl, queued_eq hi, List.nil_append, ← ofDirection_append]
    refine List.Sublist.filter _ ?_
    have hwait := (token_popOutput (run.staged i stage hi) hk pop).2
    show (dlv.data ++ OutputStage.waiting _).Sublist stage.waiting
    rw [hwait]

/-! ## Who comes next -/

/-- The frames under the top one are for filters no farther along. -/
theorem Ordered.entries_rest (ho : s.Ordered) {t : Nat} {frame : ChainFrame}
    {rest : List ChainFrame} (ht : s.threads[t]? = some (frame :: rest)) (w : PacketPool)
    (d : Bool) : entries w d (frame.filter + 1) rest = [] := by
  refine entries_eq_nil fun p hp => ?_
  have hle := ((List.pairwise_cons.mp (ho _ (List.mem_of_getElem? ht)).1).1 _ hp).1
  simp only [ChainFrame.filter] at hle
  omega

/-- Only the filter of the frame, and the next one, see a change. -/
theorem FrameCases.entries_other {frame : ChainFrame} {frames : List ChainFrame}
    (hc : FrameCases s frame s' frames) {j : Nat} (d : Bool) (hj : j ≠ frame.filter + 1)
    (hburst : ∀ (i : Nat) f, s.filters[i]? = some f → f.cls ≠ .Burst) :
    entries s.pool d j frames = [] := by
  refine entries_eq_nil fun p hp => ?_
  cases hc with
  | passOn => simp only [List.mem_singleton, ChainFrame.handle.injEq] at hp; exact absurd hp.1 hj
  | wake hi | push hi | turn hi | flush hi | flushed hi => exact absurd rfl (hburst _ _ hi)
  | trySend =>
    simp only [List.mem_append, List.mem_map, ChainFrame.handle.injEq, List.mem_singleton,
      reduceCtorEq, or_false] at hp
    obtain ⟨q, -, hq, -⟩ := hp
    exact absurd hq.symm hj
  | enter => simp at hp
  | keep | enqueue | output | bucket | unlock | asyncPop => cases hp

theorem FrameCases.filters_other {frame : ChainFrame} {frames : List ChainFrame}
    (hc : FrameCases s frame s' frames) {j : Nat} (hj : j ≠ frame.filter) :
    s'.filters[j]? = s.filters[j]? := by
  have hset : ∀ {i : Nat} {f' : RouterFilter}, i ≠ j → (s.filters.set i f')[j]? = s.filters[j]? :=
    fun hne => List.getElem?_set_ne hne
  cases hc with
  | wake | unlock => rfl
  | bucket hi hq hframe =>
    refine hset ?_
    rcases hframe with ⟨diff, rfl, -⟩ | rfl <;> exact Ne.symm hj
  | passOn | keep | enqueue | output | enter | push | turn | flush | flushed | trySend
    | asyncPop => exact hset (Ne.symm hj)

theorem TaskCases.filters_other {i : Nat} {task : PoolTask} {frames : List ChainFrame}
    (hc : TaskCases s i task s' frames) {j : Nat} (hj : j ≠ i) :
    s'.filters[j]? = s.filters[j]? := by
  cases hc <;> exact List.getElem?_set_ne (Ne.symm hj)

theorem TaskCases.entries_other {i : Nat} {task : PoolTask} {frames : List ChainFrame}
    (hc : TaskCases s i task s' frames) {j : Nat} (d : Bool) (hj : j ≠ i + 1) :
    entries s.pool d j frames = [] := by
  refine entries_eq_nil fun p hp => ?_
  cases hc with
  | expire =>
    simp only [List.mem_cons, ChainFrame.handle.injEq, reduceCtorEq, List.not_mem_nil,
      or_false] at hp
    exact absurd hp.1 hj
  | burst | run => simp at hp
  | popHandler | curve | clear | popOutput => cases hp

theorem queued_congr {i : Nat} (hw : ∀ p, s'.pool.isIngoing p = s.pool.isIngoing p)
    (hi : s'.filters[i]? = s.filters[i]?) (d : Bool) : s'.queued d i = s.queued d i := by
  unfold queued
  rw [hi]
  exact ofDirection_congr fun p _ => hw p

section Run
variable {t : Nat} {frame : ChainFrame} {rest frames : List ChainFrame} {s₁ : LockedChain}

/-- The thread `t` alone hands packets of the direction to the filter at `i`. -/
theorem Gated.entries_others (hg : s.Gated) {stack : List ChainFrame}
    (ht : s.threads[t]? = some stack) {i : Nat} {p : PacketPtr} {d : Bool}
    (hp : p ∈ entries s.pool d i stack) :
    ∀ t' stack', t' ≠ t → s.threads[t']? = some stack' → entries s.pool d i stack' = [] := by
  intro t' stack' hne ht'
  obtain ⟨hmem, hdir⟩ := mem_entries.mp hp
  refine entries_eq_nil fun q hq hdir' => hne ?_
  exact hg.alone ht ht' hmem hq (hdir'.trans hdir.symm) rfl

/-- What the thread will hand to the next filter comes after what is to be handed to it. -/
theorem entering_next (ho : s.Ordered) (ht : s.threads[t]? = some (frame :: rest))
    (hw : ∀ p, s₁.pool.isIngoing p = s.pool.isIngoing p) (d : Bool)
    (hg : LockedChain.Gated { s₁ with threads := s.threads.set t (frames ++ rest) }) :
    LockedChain.entering { s₁ with threads := s.threads.set t (frames ++ rest) } d
        (frame.filter + 1) =
      s.entering d (frame.filter + 1) ++ entries s.pool d (frame.filter + 1) frames := by
  have hrest := ho.entries_rest ht s.pool d
  have hframe : entries s.pool d (frame.filter + 1) [frame] = [] := by
    refine entries_eq_nil fun p hp => ?_
    have heq := List.mem_singleton.mp hp
    have hpos := congrArg ChainFrame.filter heq
    simp only [ChainFrame.filter] at hpos
    omega
  have hstack : entries s.pool d (frame.filter + 1) (frame :: rest) = [] := by
    rw [entries_cons, hframe, hrest, List.append_nil]
  have hpool : ∀ stack, entries s₁.pool d (frame.filter + 1) stack =
      entries s.pool d (frame.filter + 1) stack := fun stack => entries_congr fun p _ => hw p
  show (s.threads.set t (frames ++ rest)).flatMap (entries s₁.pool d (frame.filter + 1)) = _
  rw [funext hpool, entering]
  by_cases hnone : entries s.pool d (frame.filter + 1) frames = []
  · rw [hnone, List.append_nil]
    refine flatMap_set_of_eq ht ?_
    rw [entries_append, hnone, hrest, hstack, List.append_nil]
  · obtain ⟨p, hp⟩ := List.exists_mem_of_ne_nil _ hnone
    have hlt := (List.getElem?_eq_some_iff.mp ht).1
    have ht₁ : (s.threads.set t (frames ++ rest))[t]? = some (frames ++ rest) := by simp [hlt]
    have hp₁ : p ∈ entries s₁.pool d (frame.filter + 1) (frames ++ rest) := by
      rw [hpool, entries_append]
      exact List.mem_append_left _ hp
    have halone : ∀ t' stack', t' ≠ t → s.threads[t']? = some stack' →
        entries s.pool d (frame.filter + 1) stack' = [] := by
      intro t' stack' hne ht'
      rw [← hpool]
      refine hg.entries_others ht₁ hp₁ t' stack' hne ?_
      rwa [List.getElem?_set_ne (Ne.symm hne)]
    rw [flatMap_set_of_alone ht halone, flatMap_of_alone ht halone, entries_append, hstack, hrest,
      List.append_nil, List.nil_append]

/-- The packet of the frame was the first of those to be handed to its filter. -/
theorem entering_own (ht : s.threads[t]? = some (frame :: rest))
    (hw : ∀ p, s₁.pool.isIngoing p = s.pool.isIngoing p) (d : Bool) (hg : s.Gated)
    (hframes : entries s.pool d frame.filter frames = []) :
    s.entering d frame.filter = entries s.pool d frame.filter [frame] ++
      LockedChain.entering { s₁ with threads := s.threads.set t (frames ++ rest) } d
        frame.filter := by
  have hpool : ∀ stack, entries s₁.pool d frame.filter stack =
      entries s.pool d frame.filter stack := fun stack => entries_congr fun p _ => hw p
  show _ = _ ++ (s.threads.set t (frames ++ rest)).flatMap (entries s₁.pool d frame.filter)
  rw [funext hpool, entering]
  by_cases hnone : entries s.pool d frame.filter [frame] = []
  · rw [hnone, List.nil_append]
    refine (flatMap_set_of_eq ht ?_).symm
    rw [entries_append, hframes, entries_cons, hnone]
  · obtain ⟨p, hp⟩ := List.exists_mem_of_ne_nil _ hnone
    have hp' : p ∈ entries s.pool d frame.filter (frame :: rest) := by
      rw [entries_cons]
      exact List.mem_append_left _ hp
    have halone := hg.entries_others ht hp'
    rw [flatMap_set_of_alone ht halone, flatMap_of_alone ht halone, entries_append, hframes,
      entries_cons, List.nil_append]

theorem entering_other (ht : s.threads[t]? = some (frame :: rest))
    (hw : ∀ p, s₁.pool.isIngoing p = s.pool.isIngoing p) {d : Bool} {j : Nat}
    (hj : j ≠ frame.filter) (hframes : entries s.pool d j frames = []) :
    LockedChain.entering { s₁ with threads := s.threads.set t (frames ++ rest) } d j =
      s.entering d j := by
  have hpool : ∀ stack, entries s₁.pool d j stack = entries s.pool d j stack :=
    fun stack => entries_congr fun p _ => hw p
  show (s.threads.set t (frames ++ rest)).flatMap (entries s₁.pool d j) = _
  rw [funext hpool, entering]
  refine flatMap_set_of_eq ht ?_
  have hframe : entries s.pool d j [frame] = [] := by
    refine entries_eq_nil fun p hp => ?_
    obtain rfl := List.mem_singleton.mp hp
    exact absurd rfl hj
  rw [entries_append, hframes, entries_cons, hframe]

end Run
/-! ## Steps and runs -/

theorem exit_of_filter {t : Nat} {frame : ChainFrame} {r : ℚ} {now : Nat}
    (hne : frame.filter ≠ L.length + 1) : exit acceptMode L (.run t frame r now) = [] := by
  cases frame with
  | handle i p => exact if_neg fun hout => hne hout.2
  | _ => rfl

theorem ofDirection_exits {h : List LockedEvent}
    (hw : ∀ p, s'.pool.isIngoing p = s.pool.isIngoing p) (d : Bool) (e : LockedEvent) :
    s'.pool.ofDirection d (exits acceptMode L (e :: h)) =
      s.pool.ofDirection d (exits acceptMode L h) ++
        s.pool.ofDirection d (exit acceptMode L e) := by
  rw [exits_cons, ← ofDirection_append]
  exact ofDirection_congr fun p _ => hw p

/-- A frame leaves the pipeline in order. -/
theorem FrameCases.line_sublist {h : List LockedEvent} (run : Runs acceptMode L h s)
    (hL : ∀ f ∈ L, f.cls ≠ .Burst) {t : Nat} {frame : ChainFrame} {r : ℚ} {now : Nat}
    {rest frames : List ChainFrame} {s₁ : LockedChain}
    (ht : s.threads[t]? = some (frame :: rest)) (hc : FrameCases s frame s₁ frames) (d : Bool) :
    (line (places acceptMode L (.run t frame r now :: h)
        { s₁ with threads := s.threads.set t (frames ++ rest) } d) (L.length + 3)).Sublist
      (line (places acceptMode L h s d) (L.length + 3)) := by
  have hshape := Runs.shape run
  have hg := run.gated hL
  have ho := run.ordered
  have hstep : StepCases s (.run t frame r now)
      { s₁ with threads := s.threads.set t (frames ++ rest) } := .run r now ht hc
  have hg' := hstep.gated run hL hg
  have hw := hc.isIngoing
  have hburst : ∀ (i : Nat) f, s.filters[i]? = some f → f.cls ≠ .Burst :=
    fun i f hi => hshape.cls_ne_burst hL hi
  obtain ⟨f, hi, -⟩ := (ho _ (List.mem_of_getElem? ht)).2 frame List.mem_cons_self
  have hlt := (List.getElem?_eq_some_iff.mp hi).1
  rw [hshape.length] at hlt
  set s₂ : LockedChain := { s₁ with threads := s.threads.set t (frames ++ rest) }
  have hown : s.entering d frame.filter =
      entries s.pool d frame.filter [frame] ++ s₂.entering d frame.filter :=
    entering_own ht hw d hg (hc.entries_other d (Nat.succ_ne_self _).symm hburst)
  have hmoves := hc.moves hshape hL hg d t r now
  have hqueued : ∀ j, j ≠ frame.filter → s₂.queued d j = s.queued d j :=
    fun j hj => queued_congr hw (hc.filters_other hj) d
  refine Library.line_sublist (i := frame.filter) ?_ (fun j hj hj' => ?_) (by omega)
  · have hplace : ∀ (h : List LockedEvent) (s : LockedChain),
        places acceptMode L h s d frame.filter =
          s.queued d frame.filter ++ s.entering d frame.filter :=
      fun h s => if_neg (by omega)
    rw [hplace, hplace, hown]
    by_cases hlast : frame.filter = L.length + 1
    · -- what the last filter forwards has left the chain
      have hnone : entries s.pool d (frame.filter + 1) frames = [] := by
        refine entries_eq_nil fun p hp => ?_
        obtain ⟨f', hi', -⟩ := (hc.fits hshape _ hp).1
        have hlt' : frame.filter + 1 < s.filters.length := (List.getElem?_eq_some_iff.mp hi').1
        rw [hshape.length] at hlt'
        omega
      rw [hnone, List.nil_append] at hmoves
      have hexits : ∀ (h : List LockedEvent) (s : LockedChain),
          places acceptMode L h s d (frame.filter + 1) =
            s.pool.ofDirection d (exits acceptMode L h) :=
        fun h s => if_pos (by omega)
      rw [hexits, hexits, ofDirection_exits hw, List.append_assoc]
      refine (List.Sublist.refl _).append ?_
      rw [← List.append_assoc, ← List.append_assoc]
      exact hmoves.append (List.Sublist.refl _)
    · have hnext : ∀ (h : List LockedEvent) (s : LockedChain),
          places acceptMode L h s d (frame.filter + 1) =
            s.queued d (frame.filter + 1) ++ s.entering d (frame.filter + 1) :=
        fun h s => if_neg (by omega)
      have hother := hqueued (frame.filter + 1) (Nat.succ_ne_self frame.filter)
      rw [exit_of_filter hlast, ofDirection_nil, List.nil_append] at hmoves
      rw [hnext, hnext, hother, entering_next ho ht hw d hg']
      simp only [List.append_assoc]
      refine (List.Sublist.refl _).append ((List.Sublist.refl _).append ?_)
      rw [← List.append_assoc, ← List.append_assoc]
      exact hmoves.append (List.Sublist.refl _)
  · unfold places
    split
    · rw [ofDirection_exits hw, exit_of_filter (by omega), ofDirection_nil, List.append_nil]
    · rw [hqueued j hj, entering_other ht hw hj (hc.entries_other d hj' hburst)]

/-- A task leaves it in order. -/
theorem TaskCases.line_sublist {h : List LockedEvent} (run : Runs acceptMode L h s)
    (hL : ∀ f ∈ L, f.cls ≠ .Burst) {i : Nat} {task : PoolTask} {frames : List ChainFrame}
    {s₁ : LockedChain} (hc : TaskCases s i task s₁ frames) (d : Bool) :
    (line (places acceptMode L (.task i task :: h)
        { s₁ with threads := s.threads ++ [frames] } d) (L.length + 3)).Sublist
      (line (places acceptMode L h s d) (L.length + 3)) := by
  have hshape := Runs.shape run
  have hw := hc.isIngoing
  have hlt : i < L.length + 2 := by
    have hthere : ∃ f, s.filters[i]? = some f := by
      cases hc with
      | popHandler delay hi | expire hi | curve hi | clear hi | burst hi | run hi | popOutput hi =>
        exact ⟨_, hi⟩
    obtain ⟨f, hi⟩ := hthere
    rw [← hshape.length]
    exact (List.getElem?_eq_some_iff.mp hi).1
  have hexit : i ≠ L.length + 1 → exit acceptMode L (.task i task) = [] := by
    intro hne
    cases hc with
    | popOutput hi => exact absurd (run.outputLibnet_last hi) hne
    | curve hi hl hl' hcls htask => obtain ⟨k, rfl | rfl⟩ := htask <;> rfl
    | popHandler | expire | clear | burst | run => rfl
  set s₂ : LockedChain := { s₁ with threads := s.threads ++ [frames] }
  have hentering : ∀ j, s₂.entering d j = s.entering d j ++ entries s.pool d j frames := by
    intro j
    have hpool : ∀ stack, entries s₁.pool d j stack = entries s.pool d j stack :=
      fun stack => entries_congr fun p _ => hw p
    show (s.threads ++ [frames]).flatMap (entries s₁.pool d j) = _
    rw [funext hpool, List.flatMap_append, entering]
    simp
  have hmoves := hc.moves run hL (run.gated hL) d
  have hother : ∀ j, j ≠ i → s₂.queued d j = s.queued d j :=
    fun j hj => queued_congr hw (hc.filters_other hj) d
  refine Library.line_sublist (i := i) ?_ (fun j hj hj' => ?_) (by omega)
  · have hplace : ∀ (h : List LockedEvent) (s : LockedChain), places acceptMode L h s d i =
        s.queued d i ++ s.entering d i := fun h s => if_neg (by omega)
    rw [hplace, hplace, hentering i, hc.entries_other d (Nat.succ_ne_self i).symm, List.append_nil]
    by_cases hlast : i = L.length + 1
    · have hexits : ∀ (h : List LockedEvent) (s : LockedChain),
          places acceptMode L h s d (i + 1) = s.pool.ofDirection d (exits acceptMode L h) :=
        fun h s => if_pos (by omega)
      rw [hexits, hexits, ofDirection_exits hw, List.append_assoc]
      refine (List.Sublist.refl _).append ?_
      rw [← List.append_assoc]
      refine List.Sublist.append (List.Sublist.trans ?_ hmoves) (List.Sublist.refl _)
      exact (List.Sublist.refl _).append (List.sublist_append_right _ _)
    · have hnext : ∀ (h : List LockedEvent) (s : LockedChain),
          places acceptMode L h s d (i + 1) = s.queued d (i + 1) ++ s.entering d (i + 1) :=
        fun h s => if_neg (by omega)
      rw [hexit hlast, ofDirection_nil, List.nil_append] at hmoves
      rw [hnext, hnext, hother _ (Nat.succ_ne_self i), hentering]
      simp only [List.append_assoc]
      refine (List.Sublist.refl _).append ((List.Sublist.refl _).append ?_)
      rw [← List.append_assoc]
      exact hmoves.append (List.Sublist.refl _)
  · unfold places
    split
    · rw [ofDirection_exits hw, hexit (by omega), ofDirection_nil, List.append_nil]
    · rw [hother j hj, hentering, hc.entries_other d hj', List.append_nil]

theorem mem_held_of_queue {f : RouterFilter} {d : Bool} {p : PacketPtr} (hp : p ∈ f.queue d)
    (hserves : ∀ l, f.line = some l → ∀ p ∈ l.inOrder, p ∈ l.held) : p ∈ f.held := by
  cases f with
  | shaping g =>
    cases g with
    | burst g => exact hp
    | staticDelay g | dynamicDelay g => exact hserves _ rfl p hp
    | tokenBucketFilter g =>
      show p ∈ (↑g.inTb.queue + ↑g.outTb.queue : Multiset PacketPtr)
      rw [Multiset.mem_add, Multiset.mem_coe, Multiset.mem_coe]
      cases d with
      | true => exact Or.inl hp
      | false => exact Or.inr hp
    | loss | dynamicLoss => cases hp
  | outputLibnet stage => exact hp
  | input | inputDrop | nat | output => cases hp

theorem mem_held_of_inOrder {l : DelayLine PacketPtr} {p : PacketPtr} (hp : p ∈ l.inOrder) :
    p ∈ l.held := by
  rw [l.held_eq_inOrder]
  exact hp

/-- Everything in the pipeline has come in. -/
theorem Runs.queue_lt {h : List LockedEvent} (run : Runs acceptMode L h s) {i : Nat}
    {f : RouterFilter} (hi : s.filters[i]? = some f) {d : Bool} {p : PacketPtr}
    (hp : p ∈ f.queue d) : p < s.pool.packets.next := by
  have hheld := mem_held_of_queue hp fun l _ p hp => mem_held_of_inOrder hp
  have hin : p ∈ s.inside := Multiset.mem_add.mpr (Or.inr (mem_holdings.mpr ⟨i, f, hi, hheld⟩))
  exact Multiset.mem_range.mp
    (Multiset.mem_of_le run.accounted (Multiset.mem_add.mpr (Or.inl hin)))

/-- A new packet comes last. -/
theorem Runs.line_arrive {h : List LockedEvent} (run : Runs acceptMode L h s)
    (hg : s.Gated) {pkt : Packet} (hidle : s.threads[0]? = some []) (d : Bool)
    (hs' : s' = { s with
      pool := s.pool.add pkt.toParentPacket
      headers := Function.update s.headers s.pool.packets.next pkt
      threads := s.threads.set 0 [.handle 0 s.pool.packets.next] }) :
    line (places acceptMode L (.arrive pkt :: h) s' d) (L.length + 3) =
      line (places acceptMode L h s d) (L.length + 3) ++
        s'.pool.ofDirection d [s.pool.packets.next] := by
  have hw : ∀ p < s.pool.packets.next, s'.pool.isIngoing p = s.pool.isIngoing p := by
    intro p hp
    rw [hs']
    exact isIngoing_add hp
  have hqueued : ∀ i, s'.queued d i = s.queued d i := by
    intro i
    have hfilters : s'.filters = s.filters := by rw [hs']
    unfold queued
    rw [hfilters]
    refine ofDirection_congr fun p hp => hw p ?_
    cases hi : s.filters[i]? with
    | none =>
      rw [hi] at hp
      cases hp
    | some f =>
      rw [hi] at hp
      exact run.queue_lt hi hp
  have hstacks : ∀ i, ∀ stack ∈ s.threads,
      entries s'.pool d i stack = entries s.pool d i stack := by
    intro i stack hstack
    obtain ⟨t, ht⟩ := List.mem_iff_getElem?.mp hstack
    exact entries_congr fun p hp => hw p (run.carried_once ht hp).1
  have hold : ∀ i, s.threads.flatMap (entries s'.pool d i) = s.entering d i :=
    fun i => List.flatMap_congr (hstacks i)
  have hthreads : s'.threads = s.threads.set 0 [.handle 0 s.pool.packets.next] := by rw [hs']
  refine line_enter ?_ (fun j hj => ?_) (by omega)
  · have hplace : ∀ (h : List LockedEvent) (s : LockedChain), places acceptMode L h s d 0 =
        s.queued d 0 ++ s.entering d 0 := fun h s => if_neg (by omega)
    -- before the first gate there is the packet thread alone
    have halone : ∀ t stack, t ≠ 0 → s.threads[t]? = some stack →
        entries s'.pool d 0 stack = [] := by
      intro t stack hne ht
      rw [hstacks 0 stack (List.mem_of_getElem? ht)]
      refine entries_eq_nil fun p hp => absurd ?_ hne
      exact (hg.entitled t stack ht).of_mem hp
    rw [hplace, hplace, hqueued, List.append_assoc, ← hold 0]
    unfold entering
    rw [hthreads, flatMap_set_of_alone hidle halone, flatMap_of_alone hidle halone, entries_nil,
      List.nil_append, entries_handle]
  · unfold places
    split
    · rw [exits_cons]
      show s'.pool.ofDirection d (exits acceptMode L h ++ []) = _
      rw [List.append_nil]
      refine ofDirection_congr fun p hp => hw p ?_
      exact Multiset.mem_range.mp
        (Multiset.mem_of_le run.accounted (Multiset.mem_add.mpr (Or.inr hp)))
    · rw [hqueued, ← hold j]
      unfold entering
      rw [hthreads, flatMap_set_of_eq hidle]
      refine entries_eq_nil fun p hp => ?_
      obtain ⟨rfl, -⟩ := ChainFrame.handle.inj (List.mem_singleton.mp hp)
      exact absurd rfl hj

/-- The pipeline is in order. -/
def Sorted (ps : List PacketPtr) (next : PacketPtr) : Prop :=
  ps.Pairwise (· < ·) ∧ ∀ p ∈ ps, p < next

theorem Sorted.sublist {ps qs : List PacketPtr} {next : PacketPtr} (h : Sorted ps next)
    (hsub : qs.Sublist ps) : Sorted qs next :=
  ⟨h.1.sublist hsub, fun p hp => h.2 p (hsub.subset hp)⟩

theorem Runs.line_sorted {h : List LockedEvent} (run : Runs acceptMode L h s)
    (hL : ∀ f ∈ L, f.cls ≠ .Burst) (d : Bool) :
    Sorted (line (places acceptMode L h s d) (L.length + 3)) s.pool.packets.next := by
  induction run with
  | @start s hs =>
    have hempty : line (places acceptMode L [] s d) (L.length + 3) = [] := by
      refine List.eq_nil_iff_forall_not_mem.mpr fun p hp => ?_
      obtain ⟨i, -, hp⟩ := mem_line.mp hp
      unfold places at hp
      split at hp
      · cases hp
      · rcases List.mem_append.mp hp with hp | hp
        · have hmem := (List.mem_filter.mp hp).1
          cases hi : s.filters[i]? with
          | none =>
            rw [hi] at hmem
            cases hmem
          | some f =>
            rw [hi] at hmem
            have hheld := mem_held_of_queue hmem fun l _ p hp => mem_held_of_inOrder hp
            rw [held_of_started (hs.started f (List.mem_of_getElem? hi))] at hheld
            exact Multiset.notMem_zero p hheld
        · rw [entering, hs.threads] at hp
          cases hp
    rw [hempty]
    exact ⟨List.Pairwise.nil, fun p hp => absurd hp List.not_mem_nil⟩
  | @step h s s' e run hs ih =>
    have run : Runs acceptMode L h s := run
    cases step_cases hs with
    | arrive pkt hset hidle =>
      obtain ⟨hsorted, hlt⟩ := ih
      rw [run.line_arrive (run.gated hL) hidle d rfl]
      have hnew : ∀ {w : PacketPool} {q : PacketPtr},
          q ∈ w.ofDirection d [s.pool.packets.next] → q = s.pool.packets.next :=
        fun hq => List.mem_singleton.mp (List.mem_filter.mp hq).1
      refine ⟨List.pairwise_append.mpr ⟨hsorted, ?_, fun p hp q hq => ?_⟩, fun p hp => ?_⟩
      · exact (List.pairwise_singleton _ _).filter _
      · rw [hnew hq]
        exact hlt p hp
      · rcases List.mem_append.mp hp with hp | hp
        · exact Nat.lt_succ_of_lt (hlt p hp)
        · rw [hnew hp]
          exact Nat.lt_succ_self _
    | @run t frame r now rest frames s₁ ht hc =>
      have hnext : s₁.pool.packets.next = s.pool.packets.next := by
        rcases hc.pool with hpool | ⟨i, q, -, hkeeps⟩
        · rw [hpool]
        · exact hkeeps.next
      show Sorted _ s₁.pool.packets.next
      rw [hnext]
      exact ih.sublist (hc.line_sublist run hL ht d)
    | @task i task frames s₁ hc =>
      have hnext : s₁.pool.packets.next = s.pool.packets.next := by
        rcases hc.pool with hpool | ⟨q, now, hpool⟩
        · rw [hpool]
        · rw [hpool]
          rfl
      show Sorted _ s₁.pool.packets.next
      rw [hnext]
      exact ih.sublist (hc.line_sublist run hL d)

end LockedChain

open LockedChain

/-- **No packet overtakes another of its direction.**  In a chain without `Burst` the
packets of one direction leave in the order in which they came in, whatever the threads,
the timers and the locks do to one another. -/
theorem chain_keeps_order {acceptMode : Bool} {L : List RouterFilter} {h : List LockedEvent}
    {s : LockedChain} (run : Runs acceptMode L h s) (hL : ∀ f ∈ L, f.cls ≠ .Burst)
    (isIngoing : Bool) :
    (s.pool.ofDirection isIngoing (exits acceptMode L h)).Pairwise (· < ·) := by
  have hline := (run.line_sorted hL isIngoing).1
  rw [line] at hline
  have hexits := hline.sublist (List.sublist_append_left _ _)
  rwa [places, if_pos rfl] at hexits

/-- Both packets of `delaying` leave, in order. -/
theorem chain_keeps_order_delaying :
    ∃ h s, Runs true delaying h s ∧ exits true delaying h = [0, 1] ∧
      (s.pool.ofDirection true [0, 1]).Pairwise (· < ·) := by
  have run : Runs true delaying _ _ :=
    Run.of_replay LockedChain.step (fun _ _ _ h => h)
      (delayingEvents ++ [.run 2 (.handle 2 0) 0 0, .run 2 (.asyncPop 1) 0 0,
        .task 1 (.popHandler 0 0), .task 1 (.timeout 0 0), .run 4 (.handle 2 1) 0 0])
      (delaying_starts fun _ => .ofAddresses true 1 2 3 4) rfl
  exact ⟨_, _, run, rfl, chain_keeps_order run (by simp [delaying, RouterFilter.cls]) true⟩

end ShapingRouter
