import Mathlib
import ShapingRouter.ChainAccounting
import ShapingRouter.Library.LockOrder

/-! # A chain never blocks itself

The threads forward packets while they hold the mutex of a `Burst` or of a bucket, and the
filters behind take theirs.  They cannot wait for one another in a circle, since a thread
that holds the mutex of one filter asks only for those of the filters behind it
(`chain_not_deadlocked`).  What `Nat::handlePacket` does inside is one step here, and
`DeleterLock` shows that a thread may be stuck in it; so a thread that has come to a NAT is
not said to go on, and in a chain without one there is no exception.

Nor do they go on for ever: without new packets and without timers the threads come to
rest, after a number of steps that the packets in the chain bound (`threads_come_to_rest`).
-/

namespace ShapingRouter
open Library

/-- A frame of a filter of the class. -/
def ChainFrame.Suits (cls : FilterClass) : ChainFrame → Prop
  | .handle _ _ => True
  | .push _ _ | .init _ | .flush _ | .flushed _ => cls = .Burst
  | .refill _ _ _ | .trySend _ _ | .unlock _ _ | .rearm _ _ => cls = .TokenBucketFilter
  | .asyncPop _ => cls = .StaticDelay ∨ cls = .DynamicDelay

namespace LockedChain
variable {s s' : LockedChain} {acceptMode : Bool} {L : List RouterFilter}

/-! ## Frames and their filters -/

/-- The filter of the frame is there, and has such a frame. -/
def Fits (s : LockedChain) (frame : ChainFrame) : Prop :=
  ∃ f, s.filters[frame.filter]? = some f ∧ frame.Suits f.cls

theorem fits_congr (hcls : s'.filters.map RouterFilter.cls = s.filters.map RouterFilter.cls)
    {frame : ChainFrame} (hf : s.Fits frame) : s'.Fits frame := by
  obtain ⟨f, hi, hsuits⟩ := hf
  have hat := congrArg (·[frame.filter]?) hcls
  simp only [List.getElem?_map, hi, Option.map_some] at hat
  obtain ⟨f', hi', hcls'⟩ := Option.map_eq_some_iff.mp hat
  exact ⟨f', hi', by rwa [hcls']⟩

/-- Behind every filter but the last is another one. -/
theorem Shape.next (hshape : s.Shape acceptMode L) {i : Nat} {f : RouterFilter}
    (hi : s.filters[i]? = some f) (hcls : f.cls ≠ .Output ∧ f.cls ≠ .OutputLibnet)
    (p : PacketPtr) : s.Fits (.handle (i + 1) p) := by
  have hlt := (List.getElem?_eq_some_iff.mp hi).1
  have hlast : i ≠ L.length + 1 := by
    rintro rfl
    have hout := hshape.cls_last hi
    cases acceptMode
    · exact hcls.2 hout
    · exact hcls.1 hout
  have hlen := hshape.length
  have hlt' : i + 1 < s.filters.length := by omega
  exact ⟨s.filters[i + 1], List.getElem?_eq_getElem hlt', trivial⟩

/-- What a frame leaves to do is for filters that are there, at its own position or behind. -/
theorem FrameCases.fits (hshape : s.Shape acceptMode L) {frame : ChainFrame}
    {frames : List ChainFrame} (hc : FrameCases s frame s' frames) :
    ∀ f ∈ frames, s.Fits f ∧ frame.filter ≤ f.filter := by
  have hforward : ∀ {i : Nat} {f : RouterFilter}, s.filters[i]? = some f →
      f.cls ≠ .Output ∧ f.cls ≠ .OutputLibnet → ∀ p, s.Fits (.handle (i + 1) p) :=
    fun hi hcls p => hshape.next hi hcls p
  cases hc with
  | @passOn i p f f' w headers hi hf =>
    have hnot : f.cls ≠ .OutputLibnet := by
      intro hcls
      have hclear := hf.1
      cases f with
      | outputLibnet => exact hclear
      | shaping g => cases g <;> cases hcls
      | input | inputDrop | nat | output => cases hcls
    simpa [ChainFrame.filter] using hforward hi ⟨hf.2, hnot⟩ p
  | @enter i p f r hi =>
    have hsend : s.Fits (.trySend i (s.pool.isIngoing p)) := ⟨_, hi, rfl⟩
    simpa [ChainFrame.filter] using hsend
  | @wake i p f hi =>
    have hhandle := hforward hi ⟨by simp [RouterFilter.cls], by simp [RouterFilter.cls]⟩ p
    have hpush : s.Fits (.push i p) := ⟨_, hi, rfl⟩
    split
    · simpa [ChainFrame.filter] using hhandle
    · simpa [ChainFrame.filter] using hpush
  | @turn i f f' frames hi hq hframes =>
    have hflush : s.Fits (.flush i) := ⟨_, hi, rfl⟩
    rcases hframes with rfl | rfl
    · simp
    · simpa [ChainFrame.filter] using hflush
  | @flush i f hi =>
    intro g hg
    rcases List.mem_append.mp hg with hg | hg
    · obtain ⟨p, -, rfl⟩ := List.mem_map.mp hg
      exact ⟨hforward hi ⟨by simp [RouterFilter.cls], by simp [RouterFilter.cls]⟩ p,
        Nat.le_succ i⟩
    · obtain rfl := List.mem_singleton.mp hg
      exact ⟨⟨_, hi, rfl⟩, le_rfl⟩
  | @trySend i f d hi =>
    intro g hg
    rcases List.mem_append.mp hg with hg | hg
    · obtain ⟨p, -, rfl⟩ := List.mem_map.mp hg
      exact ⟨hforward hi ⟨by simp [RouterFilter.cls], by simp [RouterFilter.cls]⟩ p,
        Nat.le_succ i⟩
    · obtain rfl := List.mem_singleton.mp hg
      exact ⟨⟨_, hi, rfl⟩, le_rfl⟩
  | keep | enqueue | output | push | flushed | bucket | unlock | asyncPop => simp

/-- The frames of a new thread. -/
theorem TaskCases.fits (hshape : s.Shape acceptMode L) {i : Nat} {task : PoolTask}
    {frames : List ChainFrame} (hc : TaskCases s i task s' frames) :
    ∀ f ∈ frames, s.Fits f := by
  cases hc with
  | @expire k now f f' l l' p hi hl =>
    have hcls : (f.cls = .StaticDelay ∨ f.cls = .DynamicDelay) := by
      cases f with
      | shaping g =>
        cases g with
        | staticDelay => exact Or.inl rfl
        | dynamicDelay => exact Or.inr rfl
        | loss | burst | dynamicLoss | tokenBucketFilter => cases hl
      | input | inputDrop | nat | output | outputLibnet => cases hl
    have hhandle := hshape.next hi (by rcases hcls with hcls | hcls <;> simp [hcls]) p
    have hpop : s.Fits (.asyncPop i) := ⟨_, hi, hcls⟩
    simp [hhandle, hpop]
  | @burst k now f f' hi =>
    have hinit : s.Fits (.init i) := ⟨_, hi, rfl⟩
    simpa using hinit
  | @run d k reads diff f b hi =>
    have hall : s.Fits (.refill i d diff) ∧ s.Fits (.trySend i d) ∧ s.Fits (.rearm i d) :=
      ⟨⟨_, hi, rfl⟩, ⟨_, hi, rfl⟩, ⟨_, hi, rfl⟩⟩
    simpa using hall
  | popHandler | curve | clear | popOutput => simp

/-! ## The order of the locks -/

/-- What the threads have to do: every frame is for a filter that has such a frame, and
under a frame that holds a mutex are only frames of filters before it. -/
def Ordered (s : LockedChain) : Prop :=
  ∀ stack ∈ s.threads,
    Descends ChainFrame.filter ChainFrame.holds stack ∧ ∀ frame ∈ stack, s.Fits frame

theorem FrameCases.descends {frame : ChainFrame} {frames : List ChainFrame}
    (hc : FrameCases s frame s' frames) : Descends ChainFrame.filter ChainFrame.holds frames := by
  have hforward : ∀ (i : Nat) (ps : List PacketPtr) (last : ChainFrame), last.filter = i →
      Descends ChainFrame.filter ChainFrame.holds (ps.map (.handle (i + 1)) ++ [last]) := by
    intro i ps last hlast
    refine Descends.append (List.pairwise_map.mpr ?_) (List.pairwise_singleton _ _) ?_
    · exact List.pairwise_of_forall fun _ _ => ⟨le_rfl, fun hheld => absurd rfl hheld⟩
    · intro f hf g hg
      obtain ⟨p, -, rfl⟩ := List.mem_map.mp hf
      obtain rfl := List.mem_singleton.mp hg
      rw [hlast]
      exact ⟨Nat.le_succ i, fun _ => Nat.lt_succ_self i⟩
  cases hc with
  | passOn | enter => exact List.pairwise_singleton _ _
  | wake => exact List.pairwise_singleton _ _
  | turn hi hq hframes =>
    rcases hframes with rfl | rfl
    · exact List.Pairwise.nil
    · exact List.pairwise_singleton _ _
  | @flush i f => exact hforward i f.queue (.flushed i) rfl
  | @trySend i f d => exact hforward i _ (.unlock i d) rfl
  | keep | enqueue | output | push | flushed | bucket | unlock | asyncPop =>
    exact List.Pairwise.nil

theorem TaskCases.descends {i : Nat} {task : PoolTask} {frames : List ChainFrame}
    (hc : TaskCases s i task s' frames) :
    Descends ChainFrame.filter ChainFrame.holds frames := by
  cases hc with
  | expire | run => simp [Descends, ChainFrame.filter, ChainFrame.holds]
  | burst => exact List.pairwise_singleton _ _
  | popHandler | curve | clear | popOutput => exact List.Pairwise.nil

theorem StepCases.ordered (hshape : s.Shape acceptMode L) {e : LockedEvent}
    (hc : StepCases s e s') (ho : s.Ordered) : s'.Ordered := by
  have hcls := hc.map_cls
  intro stack hstack
  cases hc with
  | arrive pkt hset hidle =>
    rcases List.mem_or_eq_of_mem_set hstack with hold | rfl
    · exact ho stack hold
    · have hlt : 0 < s.filters.length := by rw [hshape.length]; omega
      refine ⟨List.pairwise_singleton _ _, fun f hf => ?_⟩
      obtain rfl := List.mem_singleton.mp hf
      exact ⟨s.filters[0], List.getElem?_eq_getElem hlt, trivial⟩
  | @run t frame r now rest frames s₁ ht hc =>
    rcases List.mem_or_eq_of_mem_set hstack with hold | rfl
    · exact ⟨(ho stack hold).1, fun f hf => fits_congr hcls ((ho stack hold).2 f hf)⟩
    · obtain ⟨hdesc, hfits⟩ := ho _ (List.mem_of_getElem? ht)
      have hnew := hc.fits hshape
      refine ⟨hdesc.replace hc.descends fun f hf => (hnew f hf).2, fun f hf => ?_⟩
      refine fits_congr hcls ?_
      rcases List.mem_append.mp hf with hf | hf
      · exact (hnew f hf).1
      · exact hfits f (List.mem_cons_of_mem _ hf)
  | @task i task frames s₁ hc =>
    rcases List.mem_append.mp hstack with hold | hnew
    · exact ⟨(ho stack hold).1, fun f hf => fits_congr hcls ((ho stack hold).2 f hf)⟩
    · obtain rfl := List.mem_singleton.mp hnew
      exact ⟨hc.descends, fun f hf => fits_congr hcls (hc.fits hshape f hf)⟩

theorem Runs.ordered {h : List LockedEvent} (run : Runs acceptMode L h s) : s.Ordered := by
  induction run with
  | start hs =>
    intro stack hstack
    rw [hs.threads] at hstack
    obtain rfl := List.mem_singleton.mp hstack
    exact ⟨List.Pairwise.nil, fun f hf => absurd hf List.not_mem_nil⟩
  | step run hs ih => exact (step_cases hs).ordered (Runs.shape run) ih

/-! ## No thread waits for ever -/

/-- The thread can do its next frame, whatever is drawn and whatever the clock shows. -/
def CanRun (s : LockedChain) (t : Nat) : Prop :=
  ∃ frame, ∀ r now, ∃ s', s.step (.run t frame r now) = some s'

/-- The thread is in the `handlePacket` of a NAT, which it may never leave. -/
def InNat (s : LockedChain) (t : Nat) : Prop :=
  ∃ (i : Nat) (p : PacketPtr) (rest : List ChainFrame) (n : NatBox),
    s.threads[t]? = some (.handle i p :: rest) ∧ s.filters[i]? = some (.nat n)

/-- With its locks free, a frame is done, if it is not a NAT's. -/
theorem exists_runFrame {frame : ChainFrame} (hfits : s.Fits frame)
    (hfree : frame.holds ≠ none ∨ ∀ lock : ChainLock, lock.filter = frame.filter → s.Free lock)
    (hnat : ∀ i p n, frame = .handle i p → s.filters[i]? ≠ some (.nat n))
    (r : ℚ) (now : Nat) : ∃ o, s.runFrame r now frame = some o := by
  obtain ⟨f, hi, hsuits⟩ := hfits
  have hlock : frame.holds = none → ∀ d, s.Free ⟨frame.filter, d⟩ :=
    fun hnone d => (hfree.resolve_left fun hheld => hheld hnone) _ rfl
  have hburst : f.cls = .Burst → ∃ g, f = .shaping (.burst g) := by
    intro hcls
    cases f with
    | shaping g =>
      cases g with
      | burst g => exact ⟨g, rfl⟩
      | loss | staticDelay | dynamicDelay | dynamicLoss | tokenBucketFilter => cases hcls
    | input | inputDrop | nat | output | outputLibnet => cases hcls
  have hbucket : f.cls = .TokenBucketFilter → ∃ g, f = .shaping (.tokenBucketFilter g) := by
    intro hcls
    cases f with
    | shaping g =>
      cases g with
      | tokenBucketFilter g => exact ⟨g, rfl⟩
      | loss | staticDelay | dynamicDelay | dynamicLoss | burst => cases hcls
    | input | inputDrop | nat | output | outputLibnet => cases hcls
  cases frame with
  | handle i p =>
    have hi : s.filters[i]? = some f := hi
    have hlock : ∀ d, s.Free ⟨i, d⟩ := hlock rfl
    simp only [runFrame, ChainFrame.filter, hi]
    cases f with
    | shaping g =>
      cases g with
      | tokenBucketFilter g => exact ⟨_, if_pos (hlock _)⟩
      | burst | loss | staticDelay | dynamicDelay | dynamicLoss => exact ⟨_, rfl⟩
    | nat n => exact absurd hi (hnat i p n rfl)
    | input | inputDrop | output | outputLibnet => exact ⟨_, rfl⟩
  | push i p =>
    obtain ⟨g, rfl⟩ := hburst hsuits
    have hi : s.filters[i]? = some _ := hi
    simp only [runFrame, ChainFrame.filter, hi]
    exact ⟨_, if_pos (hlock rfl false)⟩
  | init i =>
    obtain ⟨g, rfl⟩ := hburst hsuits
    have hi : s.filters[i]? = some _ := hi
    simp only [runFrame, ChainFrame.filter, hi]
    split
    · exact ⟨_, rfl⟩
    · exact ⟨_, rfl⟩
  | flush i =>
    obtain ⟨g, rfl⟩ := hburst hsuits
    have hi : s.filters[i]? = some _ := hi
    simp only [runFrame, ChainFrame.filter, hi]
    exact ⟨_, if_pos (hlock rfl false)⟩
  | flushed i =>
    obtain ⟨g, rfl⟩ := hburst hsuits
    have hi : s.filters[i]? = some _ := hi
    simp only [runFrame, ChainFrame.filter, hi]
    exact ⟨_, rfl⟩
  | refill i d diff =>
    obtain ⟨g, rfl⟩ := hbucket hsuits
    have hi : s.filters[i]? = some _ := hi
    simp only [runFrame, ChainFrame.filter, hi]
    exact ⟨_, if_pos (hlock rfl d)⟩
  | trySend i d =>
    obtain ⟨g, rfl⟩ := hbucket hsuits
    have hi : s.filters[i]? = some _ := hi
    simp only [runFrame, ChainFrame.filter, hi]
    exact ⟨_, if_pos (hlock rfl d)⟩
  | unlock i d | rearm i d =>
    obtain ⟨g, rfl⟩ := hbucket hsuits
    have hi : s.filters[i]? = some _ := hi
    simp only [runFrame, ChainFrame.filter, hi]
    exact ⟨_, rfl⟩
  | asyncPop i =>
    have hi : s.filters[i]? = some f := hi
    simp only [runFrame, ChainFrame.filter, hi]
    cases f with
    | shaping g =>
      cases g with
      | staticDelay | dynamicDelay => exact ⟨_, rfl⟩
      | loss | burst | dynamicLoss | tokenBucketFilter =>
        rcases hsuits with hsuits | hsuits <;> cases hsuits
    | input | inputDrop | nat | output | outputLibnet =>
      rcases hsuits with hsuits | hsuits <;> cases hsuits

/-- A thread is in a NAT only where one is listed. -/
theorem InNat.exists_listed (hshape : s.Shape acceptMode L) {t : Nat} (h : s.InNat t) :
    ∃ f ∈ L, f.cls = .Nat := by
  obtain ⟨i, p, rest, n, -, hi⟩ := h
  rcases hshape.cases hi with ⟨-, hcls⟩ | ⟨-, hcls⟩ | ⟨j, g, -, hg, hcls⟩
  · cases acceptMode <;> cases hcls
  · cases acceptMode <;> cases hcls
  · exact ⟨g, List.mem_of_getElem? hg, hcls.symm⟩

theorem Runs.exists_canRun {h : List LockedEvent} (run : Runs acceptMode L h s)
    (hwork : ∃ stack ∈ s.threads, stack ≠ []) : ∃ t, s.CanRun t ∨ s.InNat t := by
  have hordered := run.ordered
  have hlevel : ∀ (f : ChainFrame) (lock : ChainLock), f.holds = some lock →
      f.filter = lock.filter := by
    intro f lock hheld
    cases f <;> cases hheld <;> rfl
  obtain ⟨t, top, rest, ht, hfree⟩ :=
    exists_unblocked (fun stack hstack => (hordered stack hstack).1) hlevel hwork
  refine ⟨t, ?_⟩
  by_cases hin : s.InNat t
  · exact Or.inr hin
  · refine Or.inl ⟨top, fun r now => ?_⟩
    have hfits := (hordered _ (List.mem_of_getElem? ht)).2 top List.mem_cons_self
    have hnat : ∀ i p n, top = .handle i p → s.filters[i]? ≠ some (.nat n) := by
      rintro i p n rfl hi
      exact hin ⟨i, p, rest, n, ht, hi⟩
    obtain ⟨o, ho⟩ := exists_runFrame hfits hfree hnat r now
    refine ⟨{ o.1 with threads := o.1.threads.set t (o.2 ++ rest) }, ?_⟩
    simp only [step, ht, if_true, ho, Option.map_some]

end LockedChain

/-! ## The threads come to rest -/

/-- How many steps a packet costs at most that is handed to the filter at `i` of `n`. -/
def forwardWork (n i : Nat) : Nat := 3 * (n + 1 - i)

theorem forwardWork_succ {n i : Nat} (hi : i < n) :
    forwardWork n i = forwardWork n (i + 1) + 3 := by
  unfold forwardWork
  omega

/-- How many steps a frame leads to at most. -/
def ChainFrame.work (n : Nat) : ChainFrame → Nat
  | handle i _ => forwardWork n i
  | push i _ => forwardWork n (i + 1) + 1
  | init _ => 3
  | flush _ | trySend _ _ => 2
  | flushed _ | refill _ _ _ | unlock _ _ | rearm _ _ | asyncPop _ => 1

/-- The frames of a thread. -/
def stackWork (n : Nat) (stack : List ChainFrame) : Nat := (stack.map (·.work n)).sum

@[simp] theorem stackWork_nil (n : Nat) : stackWork n [] = 0 := rfl

@[simp] theorem stackWork_cons (n : Nat) (frame : ChainFrame) (stack : List ChainFrame) :
    stackWork n (frame :: stack) = frame.work n + stackWork n stack := by
  simp [stackWork]

@[simp] theorem stackWork_append (n : Nat) (stack more : List ChainFrame) :
    stackWork n (stack ++ more) = stackWork n stack + stackWork n more := by
  simp [stackWork]

@[simp] theorem stackWork_handles (n i : Nat) (ps : List PacketPtr) :
    stackWork n (ps.map (.handle i)) = ps.length * forwardWork n i := by
  induction ps with
  | nil => simp
  | cons p ps ih =>
    rw [List.map_cons, stackWork_cons, ih, List.length_cons, Nat.succ_mul, Nat.add_comm]
    rfl

/-- The packets that a thread may still take out of the filter. -/
def RouterFilter.queued : RouterFilter → Nat
  | shaping (.burst f) => f.queue.length
  | shaping (.tokenBucketFilter f) => f.inTb.queue.length + f.outTb.queue.length
  | _ => 0

/-- What they will cost. -/
def queuedWork : List RouterFilter → Nat
  | [] => 0
  | f :: filters => f.queued * forwardWork (filters.length + 1) 1 + queuedWork filters

theorem queuedWork_set {l : List RouterFilter} {i : Nat} {f : RouterFilter}
    (hi : l[i]? = some f) (f' : RouterFilter) :
    queuedWork (l.set i f') + f.queued * forwardWork l.length (i + 1) =
      queuedWork l + f'.queued * forwardWork l.length (i + 1) := by
  induction l generalizing i with
  | nil => cases hi
  | cons g l ih =>
    cases i with
    | zero =>
      obtain rfl := Option.some.inj hi
      simp only [List.set_cons_zero, queuedWork, List.length_cons, Nat.zero_add]
      omega
    | succ i =>
      have hrest := ih (i := i) (by simpa using hi)
      have hshift : forwardWork (l.length + 1) (i + 1 + 1) = forwardWork l.length (i + 1) := by
        unfold forwardWork
        omega
      simp only [List.set_cons_succ, queuedWork, List.length_cons, List.length_set, hshift]
      omega

namespace LockedChain
variable {s s' : LockedChain} {acceptMode : Bool} {L : List RouterFilter}

/-- How many steps the threads have still to do at most. -/
def work (s : LockedChain) : Nat :=
  (s.threads.map (stackWork s.filters.length)).sum + queuedWork s.filters

/-- A step of a thread. -/
def ThreadStep (s : LockedChain) (e : LockedEvent) (s' : LockedChain) : Prop :=
  s.step e = some s' ∧ ∃ t frame r now, e = .run t frame r now

/-- The filter at `i` changes: it is paid for by what the frame costs. -/
theorem queuedWork_setFilter {i : Nat} {f f' : RouterFilter} (hi : s.filters[i]? = some f)
    {a b : Nat} (h : f'.queued * forwardWork s.filters.length (i + 1) + a <
      f.queued * forwardWork s.filters.length (i + 1) + b) :
    queuedWork (s.setFilter i f').filters + a < queuedWork s.filters + b := by
  have hset := queuedWork_set hi f'
  simp only [setFilter]
  omega

theorem queued_of_clear {f : RouterFilter} (hf : f.Clear) : f.queued = 0 := by
  cases f with
  | shaping g => cases g <;> first | rfl | exact hf.elim
  | input | inputDrop | nat | output | outputLibnet => rfl

theorem queued_of_line {f : RouterFilter} {l : DelayLine PacketPtr} (hl : f.line = some l) :
    f.queued = 0 := by
  cases f with
  | shaping g => cases g <;> first | rfl | cases hl
  | input | inputDrop | nat | output | outputLibnet => rfl

theorem queued_setBucket (f : TokenBucketFilter PacketPtr) (d : Bool) (b : TokenBucket PacketPtr) :
    (RouterFilter.shaping (.tokenBucketFilter (f.setBucket d b))).queued +
        (f.bucket d).queue.length =
      (RouterFilter.shaping (.tokenBucketFilter f)).queued + b.queue.length := by
  cases d with
  | true =>
    show b.queue.length + f.outTb.queue.length + f.inTb.queue.length = _
    simp only [RouterFilter.queued]
    omega
  | false =>
    show f.inTb.queue.length + b.queue.length + f.outTb.queue.length = _
    simp only [RouterFilter.queued]
    omega

/-- One step of a thread is paid for. -/
theorem FrameCases.work_lt {frame : ChainFrame} {frames : List ChainFrame}
    (hc : FrameCases s frame s' frames) :
    queuedWork s'.filters + stackWork s.filters.length frames <
      queuedWork s.filters + frame.work s.filters.length := by
  have hnext : ∀ {i : Nat} {f : RouterFilter}, s.filters[i]? = some f →
      forwardWork s.filters.length i = forwardWork s.filters.length (i + 1) + 3 :=
    fun hi => forwardWork_succ (List.getElem?_eq_some_iff.mp hi).1
  cases hc with
  | @passOn i p f f' w headers hi hf hf' =>
    refine queuedWork_setFilter hi ?_
    rw [queued_of_clear hf.1, queued_of_clear hf']
    simp only [stackWork_cons, stackWork_nil, ChainFrame.work, hnext hi]
    omega
  | @keep i p f f' w hi hf hf' =>
    refine queuedWork_setFilter hi ?_
    rw [queued_of_clear hf, queued_of_clear hf']
    simp only [stackWork_nil, ChainFrame.work, hnext hi]
    omega
  | @enqueue i p f f' l hi hl hl' =>
    refine queuedWork_setFilter hi ?_
    rw [queued_of_line hl, queued_of_line hl']
    simp only [stackWork_nil, ChainFrame.work, hnext hi]
    omega
  | @output i p stage hi =>
    refine queuedWork_setFilter hi ?_
    simp only [RouterFilter.queued, stackWork_nil, ChainFrame.work, hnext hi]
    omega
  | @enter i p f r hi hfree =>
    refine queuedWork_setFilter hi ?_
    have hqueued := queued_setBucket f (s.pool.isIngoing p)
      ((f.bucket (s.pool.isIngoing p)).enqueue r p)
    have hlen : ((f.bucket (s.pool.isIngoing p)).enqueue r p).queue.length ≤
        (f.bucket (s.pool.isIngoing p)).queue.length + 1 := by
      unfold TokenBucket.enqueue
      split
      · simp
      · exact Nat.le_succ _
    set w := forwardWork s.filters.length (i + 1) with hw
    have hmul := Nat.mul_le_mul_right w (show (RouterFilter.shaping (.tokenBucketFilter
      (f.setBucket (s.pool.isIngoing p) ((f.bucket (s.pool.isIngoing p)).enqueue r p)))).queued ≤
        (RouterFilter.shaping (.tokenBucketFilter f)).queued + 1 by omega)
    rw [Nat.succ_mul] at hmul
    simp only [stackWork_cons, stackWork_nil, ChainFrame.work, hnext hi, ← hw]
    omega
  | @wake i p f hi =>
    have hnext := hnext hi
    split
    · simp only [stackWork_cons, stackWork_nil, ChainFrame.work, hnext]
      omega
    · simp only [stackWork_cons, stackWork_nil, ChainFrame.work, hnext]
      omega
  | @push i p f hi hfree =>
    refine queuedWork_setFilter hi ?_
    simp only [RouterFilter.queued, List.length_append, List.length_singleton, Nat.succ_mul,
      stackWork_nil, ChainFrame.work]
    omega
  | @turn i f f' frames hi hq hframes =>
    refine queuedWork_setFilter hi ?_
    simp only [RouterFilter.queued, hq]
    rcases hframes with rfl | rfl
    · simp only [stackWork_nil, ChainFrame.work]
      omega
    · simp only [stackWork_cons, stackWork_nil, ChainFrame.work]
      omega
  | @flush i f hi hfree =>
    refine queuedWork_setFilter hi ?_
    simp only [RouterFilter.queued, List.length_nil, Nat.zero_mul, stackWork_append,
      stackWork_handles, stackWork_cons, stackWork_nil, ChainFrame.work]
    omega
  | @flushed i f f' hi hq =>
    refine queuedWork_setFilter hi ?_
    simp only [RouterFilter.queued, hq, stackWork_nil, ChainFrame.work]
    omega
  | @bucket i f frame d b hi hq hframe =>
    refine queuedWork_setFilter hi ?_
    have hqueued := queued_setBucket f d b
    rw [hq] at hqueued
    have hcost : frame.work s.filters.length = 1 := by
      rcases hframe with ⟨diff, rfl, -⟩ | rfl <;> rfl
    rw [Nat.add_right_cancel hqueued, hcost, stackWork_nil]
    omega
  | @trySend i f d hi hfree =>
    refine queuedWork_setFilter hi ?_
    set o := (f.bucket d).trySend s.pool.getPacketLen
    have hqueued := queued_setBucket f d o.1
    have hsent : o.2.length + o.1.queue.length = (f.bucket d).queue.length := by
      rw [← List.length_append]
      exact congrArg List.length (TokenBucket.sendLoop_append ..)
    set w := forwardWork s.filters.length (i + 1) with hw
    have hmul := congrArg (· * w) (show (RouterFilter.shaping (.tokenBucketFilter
      (f.setBucket d o.1))).queued + o.2.length =
        (RouterFilter.shaping (.tokenBucketFilter f)).queued by omega)
    simp only [Nat.add_mul] at hmul
    simp only [stackWork_append, stackWork_handles, stackWork_cons, stackWork_nil,
      ChainFrame.work, ← hw]
    omega
  | unlock hi =>
    simp only [stackWork_nil, ChainFrame.work]
    omega
  | @asyncPop i f f' l hi hl hl' =>
    refine queuedWork_setFilter hi ?_
    rw [queued_of_line hl, queued_of_line hl']
    simp only [stackWork_nil, ChainFrame.work]
    omega

theorem ThreadStep.work_lt {e : LockedEvent} (h : ThreadStep s e s') : 1 + s'.work ≤ s.work := by
  obtain ⟨hs, t, frame, r, now, rfl⟩ := h
  have hc := step_cases hs
  have hlen : s'.filters.length = s.filters.length := by
    have hlen := congrArg List.length hc.map_cls
    simpa using hlen
  cases hc with
  | @run _ _ _ _ rest frames s₁ ht hc =>
    have hwork := hc.work_lt
    have hset := sum_map_set (stackWork s.filters.length) ht (frames ++ rest)
    rw [stackWork_cons, stackWork_append] at hset
    simp only [work, hlen]
    omega

theorem Runs.threadSteps {h h' : List LockedEvent} (run : Runs acceptMode L h s)
    (next : Run ThreadStep (· = s) h' s') : Runs acceptMode L (h' ++ h) s' :=
  run.trans (next.mono fun _ _ _ hs => hs.1)

end LockedChain

open LockedChain

/-- **The nested mutexes do not block each other.**  In every state that a chain reaches,
if some thread has something left to do then one of them can go on; or the chain has a NAT,
and one of them has come to its `handlePacket`. -/
theorem chain_not_deadlocked {acceptMode : Bool} {L : List RouterFilter} {h : List LockedEvent}
    {s : LockedChain} (run : Runs acceptMode L h s)
    (hwork : ∃ stack ∈ s.threads, stack ≠ []) :
    (∃ t, s.CanRun t) ∨ (∃ f ∈ L, f.cls = .Nat) ∧ ∃ t, s.InNat t := by
  obtain ⟨t, hrun | hin⟩ := run.exists_canRun hwork
  · exact Or.inl ⟨t, hrun⟩
  · exact Or.inr ⟨hin.exists_listed run.shape, t, hin⟩

/-- The packet thread of `collecting`, with the burst still on. -/
theorem chain_not_deadlocked_collecting :
    ∃ h s, Runs false collecting h s ∧ ∃ t, s.CanRun t := by
  have run : Runs false collecting _ _ :=
    Run.of_replay LockedChain.step (fun _ _ _ h => h)
      ((collectingEvents (.ofAddresses false 1 2 3 4)).take 3)
      (collecting_starts fun _ => .ofAddresses false 1 2 3 4) rfl
  refine ⟨_, _, run, (chain_not_deadlocked run (by decide)).resolve_right ?_⟩
  rintro ⟨⟨f, hf, hcls⟩, -⟩
  obtain rfl := List.mem_singleton.mp hf
  cases hcls

/-- **The threads come to rest.**  From every state that a chain reaches, the threads alone
take no more steps than `work` says, in whatever order they go on, if a NAT's `handlePacket`
counts as one; and when none of them can go on, none has anything left to do, unless the
chain has a NAT that one of them has come to. -/
theorem threads_come_to_rest {acceptMode : Bool} {L : List RouterFilter} {h h' : List LockedEvent}
    {s s' : LockedChain} (run : Runs acceptMode L h s) (next : Run ThreadStep (· = s) h' s') :
    h'.length ≤ s.work ∧
      ((∃ e s'', ThreadStep s' e s'') ∨ (∀ stack ∈ s'.threads, stack = []) ∨
        (∃ f ∈ L, f.cls = .Nat) ∧ ∃ t, s'.InNat t) := by
  constructor
  · have hle := next.total_le work (fun _ => 1) fun s e s' hs => hs.work_lt
    rw [List.map_const', List.sum_replicate, smul_eq_mul, Nat.mul_one] at hle
    omega
  · have run := run.threadSteps next
    by_cases hrest : ∀ stack ∈ s'.threads, stack = []
    · exact Or.inr (Or.inl hrest)
    · simp only [not_forall] at hrest
      obtain ⟨stack, hstack, hne⟩ := hrest
      obtain ⟨t, hrun | hin⟩ := run.exists_canRun ⟨stack, hstack, hne⟩
      · obtain ⟨frame, hrun⟩ := hrun
        obtain ⟨s'', hs⟩ := hrun 0 0
        exact Or.inl ⟨_, s'', hs, t, frame, 0, 0, rfl⟩
      · exact Or.inr (Or.inr ⟨hin.exists_listed run.shape, t, hin⟩)

/-- `Burst::init` of `collecting` has begun: the four steps of its flush are among those
that `work` allows. -/
theorem threads_come_to_rest_collecting :
    ∃ h h' s s', Runs false collecting h s ∧ Run ThreadStep (· = s) h' s' ∧ h'.length = 4 ∧
      4 ≤ s.work ∧ ∀ stack ∈ s'.threads, stack = [] := by
  let next? : LockedChain → LockedEvent → Option LockedChain := fun s e =>
    match e with
    | .run t frame r now => s.step (.run t frame r now)
    | .arrive _ | .task _ _ => none
  have hnext : ∀ s e s', next? s e = some s' → ThreadStep s e s' := by
    intro s e s' hs
    cases e with
    | run t frame r now => exact ⟨hs, t, frame, r, now, rfl⟩
    | arrive | task => cases hs
  have key : ∀ {h : List LockedEvent} {s s' : LockedChain}, Runs false collecting h s →
      [.run 1 (.init 1) 0 0, .run 1 (.flush 1) 0 0, .run 1 (.handle 2 0) 0 0,
        .run 1 (.flushed 1) 0 0].foldlM next? s = some s' →
      (∀ stack ∈ s'.threads, stack = []) →
      ∃ h h' s s', Runs false collecting h s ∧ Run ThreadStep (· = s) h' s' ∧ h'.length = 4 ∧
        4 ≤ s.work ∧ ∀ stack ∈ s'.threads, stack = [] := by
    intro h s s' run hs hrest
    have next : Run ThreadStep (· = s) _ s' := Run.of_replay next? hnext _ rfl hs
    exact ⟨h, _, s, s', run, next, rfl, (threads_come_to_rest run next).1, hrest⟩
  have run : Runs false collecting _ _ :=
    Run.of_replay LockedChain.step (fun _ _ _ h => h)
      ((collectingEvents (.ofAddresses false 1 2 3 4)).take 5)
      (collecting_starts fun _ => .ofAddresses false 1 2 3 4) rfl
  exact key run rfl (by decide)

end ShapingRouter
