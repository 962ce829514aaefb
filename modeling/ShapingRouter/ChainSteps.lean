import Mathlib
import ShapingRouter.LockedChain
import ShapingRouter.NatDecision

/-! # What the steps of a chain do

One case for each thing that a frame or a task can do (`runFrame_cases`,
`beginTask_cases`), in the terms that the invariants need: which filter changes, which
lock was free, and which packets go on.  The packets themselves keep their direction, and
a verdict that was given stays the only one (`PacketPool.Keeps`).
-/

namespace ShapingRouter
open Library

/-! ## Packets -/

namespace PacketPool

/-- A verdict was given for the packet. -/
def isSettled (w : PacketPool) (p : PacketPtr) : Bool :=
  (w.packets.objects p).any (·.verdictSet)

/-- A filter has had the packet `p` in its hands: the others are as they were, and `p` keeps
its id, its direction and any verdict that it has had. -/
structure Keeps (w : PacketPool) (p : PacketPtr) (w' : PacketPool) : Prop where
  next : w'.packets.next = w.packets.next
  nfqID : ∀ q, (w'.packets.objects q).map (·.nfqID) = (w.packets.objects q).map (·.nfqID)
  isIngoing : ∀ q, w'.isIngoing q = w.isIngoing q
  others : ∀ q, q ≠ p → w'.isSettled q = w.isSettled q ∧ w'.verdictsOf q = w.verdictsOf q
  settled : w.isSettled p = true → w'.isSettled p = true ∧ w'.verdictsOf p = w.verdictsOf p

theorem Keeps.refl (w : PacketPool) (p : PacketPtr) : w.Keeps p w :=
  ⟨rfl, fun _ => rfl, fun _ => rfl, fun _ _ => ⟨rfl, rfl⟩, fun h => ⟨h, rfl⟩⟩

theorem Keeps.alive {w w' : PacketPool} {p : PacketPtr} (h : w.Keeps p w') (q : PacketPtr) :
    (w'.packets.objects q).isSome = (w.packets.objects q).isSome := by
  have hid := congrArg Option.isSome (h.nfqID q)
  rwa [Option.isSome_map, Option.isSome_map] at hid

theorem modify_objects_map (w : PacketPool) (p q : PacketPtr) (f : ParentPacket → ParentPacket) :
    (w.packets.modify p f).objects q = (w.packets.objects q).map fun pkt =>
      if q = p then f pkt else pkt := by
  rw [Heap.modify_objects]
  by_cases hq : q = p
  · subst hq
    simp
  · simp [hq]

theorem isSettled_modify (w : PacketPool) (p : PacketPtr) {f : ParentPacket → ParentPacket}
    (hf : ∀ pkt, w.packets.objects p = some pkt → (f pkt).verdictSet = pkt.verdictSet)
    (q : PacketPtr) : isSettled { w with packets := w.packets.modify p f } q = w.isSettled q := by
  simp only [isSettled, modify_objects_map]
  cases hpkt : w.packets.objects q with
  | none => rfl
  | some pkt =>
    by_cases hqp : q = p
    · subst hqp
      simp [hf pkt hpkt]
    · simp [hqp]

/-- A packet is changed, but not its id, its direction or its flag. -/
theorem keeps_modify (w : PacketPool) (p : PacketPtr) {f : ParentPacket → ParentPacket}
    (hf : ∀ pkt, w.packets.objects p = some pkt → (f pkt).nfqID = pkt.nfqID ∧
      (f pkt).isIngoing = pkt.isIngoing ∧ (f pkt).verdictSet = pkt.verdictSet) :
    w.Keeps p { w with packets := w.packets.modify p f } := by
  have hsettled := w.isSettled_modify p fun pkt hpkt => (hf pkt hpkt).2.2
  refine ⟨rfl, fun q => ?_, fun q => ?_, fun q _ => ⟨hsettled q, rfl⟩, fun h => ?_⟩
  · rw [modify_objects_map]
    cases hpkt : w.packets.objects q with
    | none => rfl
    | some pkt =>
      by_cases hqp : q = p
      · subst hqp
        simp [(hf pkt hpkt).1]
      · simp [hqp]
  · simp only [PacketPool.isIngoing, modify_objects_map]
    cases hpkt : w.packets.objects q with
    | none => rfl
    | some pkt =>
      by_cases hqp : q = p
      · subst hqp
        simp [(hf pkt hpkt).2.1]
      · simp [hqp]
  · exact ⟨(hsettled p).trans h, rfl⟩

theorem isSettled_resetTimeStamp (w : PacketPool) (p : PacketPtr) (now : Nat) (q : PacketPtr) :
    (w.resetTimeStamp p now).isSettled q = w.isSettled q := by
  unfold resetTimeStamp
  rw [isSettled_modify]
  exact fun _ _ => rfl

theorem keeps_resetTimeStamp (w : PacketPool) (p : PacketPtr) (now : Nat) :
    w.Keeps p (w.resetTimeStamp p now) :=
  w.keeps_modify p fun _ _ => ⟨rfl, rfl, rfl⟩

theorem keeps_setVerdict (w : PacketPool) (p : PacketPtr) (accept : Bool) :
    w.Keeps p (w.setVerdict p accept) := by
  unfold setVerdict
  cases hp : w.packets.objects p with
  | none => exact .refl w p
  | some pkt =>
    by_cases hset : pkt.verdictSet = true
    · simp only [hset, if_true]
      exact .refl w p
    · simp only [hset, Bool.false_eq_true, if_false]
      have hnot : w.isSettled p = false := by simp [isSettled, hp, hset]
      refine ⟨rfl, fun q => ?_, fun q => ?_, fun q hq => ⟨?_, ?_⟩, fun h => ?_⟩
      · rw [Heap.modify_objects]
        split
        · rename_i hqp
          rw [hqp, hp]
          rfl
        · rfl
      · simp only [PacketPool.isIngoing, Heap.modify_objects]
        by_cases hqp : q = p
        · subst hqp
          simp [hp]
        · simp [hqp]
      · simp [isSettled, Heap.modify_objects, hq]
      · simp [verdictsOf, Ne.symm hq]
      · rw [hnot] at h
        cases h

end PacketPool

/-! ## Filters -/

namespace RouterFilter

/-- What a delay filter has of the packets. -/
def line : RouterFilter → Option (DelayLine PacketPtr)
  | shaping (.staticDelay f) => some f.toDelayLine
  | shaping (.dynamicDelay f) => some f.toDelayLine
  | _ => none

/-- The filters that hold no packets. -/
def Clear : RouterFilter → Prop
  | input | inputDrop | nat _ | output | shaping (.loss _) | shaping (.dynamicLoss _) => True
  | outputLibnet _ | shaping (.burst _) | shaping (.staticDelay _) | shaping (.dynamicDelay _)
  | shaping (.tokenBucketFilter _) => False

/-- `Output` alone forwards nothing that it is handed. -/
def Passes (f : RouterFilter) : Prop := f.Clear ∧ f.cls ≠ .Output

end RouterFilter

theorem TokenBucket.refill_timers {π : Type} (b : TokenBucket π) (diff : UInt64) :
    (b.refill diff).timers = b.timers := by
  unfold refill
  split <;> rfl

namespace TokenBucketFilter
variable {π : Type} (f : TokenBucketFilter π) (d : Bool) (b : TokenBucket π)

@[simp] theorem bucket_setBucket : (f.setBucket d b).bucket d = b := by cases d <;> rfl

@[simp] theorem bucket_setBucket_not : (f.setBucket d b).bucket (!d) = f.bucket (!d) := by
  cases d <;> rfl

/-- The bucket of a direction, after that of one direction has changed. -/
theorem bucket_setBucket_apply (d' : Bool) :
    (f.setBucket d b).bucket d' = if d' = d then b else f.bucket d' := by
  cases d <;> cases d' <;> rfl

end TokenBucketFilter

namespace LockedChain
variable {s s' : LockedChain} {frames : List ChainFrame}

/-- A filter that stays as it is. -/
theorem set_filter_self {i : Nat} {f : RouterFilter} (hi : s.filters[i]? = some f) :
    s.filters.set i f = s.filters := by
  obtain ⟨hlt, rfl⟩ := List.getElem?_eq_some_iff.mp hi
  exact List.set_getElem_self hlt

/-- What a frame does. -/
inductive FrameCases (s : LockedChain) : ChainFrame → LockedChain → List ChainFrame → Prop
  | passOn {i : Nat} {p : PacketPtr} {f f' : RouterFilter} {w : PacketPool}
      {headers : PacketPtr → Packet} : s.filters[i]? = some f → f.Passes → f'.Clear →
      f'.cls = f.cls → s.pool.Keeps p w → (f = .inputDrop → w = s.pool.setVerdict p false) →
      (f ≠ .inputDrop → w.verdicts = s.pool.verdicts ∧ w.isSettled p = s.pool.isSettled p) →
      FrameCases s (.handle i p)
        { s with filters := s.filters.set i f', pool := w, headers := headers } [.handle (i + 1) p]
  | keep {i : Nat} {p : PacketPtr} {f f' : RouterFilter} {w : PacketPool} :
      s.filters[i]? = some f → f.Clear → f'.Clear → f'.cls = f.cls → f ≠ .inputDrop →
      s.pool.Keeps p w →
      f.cls = .Output ∧ w = s.pool.setVerdict p true ∨
        (f.cls = .Loss ∨ f.cls = .DynamicLoss) ∧ w = s.pool.setVerdict p false ∨
        f.cls = .Nat ∧ w = s.pool →
      FrameCases s (.handle i p) { s with filters := s.filters.set i f', pool := w } []
  | enqueue {i : Nat} {p : PacketPtr} {f f' : RouterFilter} {l : DelayLine PacketPtr} :
      s.filters[i]? = some f → f.line = some l → f'.line = some (l.handlePacket p) →
      f'.cls = f.cls → FrameCases s (.handle i p) (s.setFilter i f') []
  | output {i : Nat} {p : PacketPtr} {stage : OutputStage PacketPtr} :
      s.filters[i]? = some (.outputLibnet stage) →
      FrameCases s (.handle i p) (s.setFilter i (.outputLibnet (stage.onQueue (·.push p)))) []
  | enter {i : Nat} {p : PacketPtr} {f : TokenBucketFilter PacketPtr} (r : ℚ) :
      s.filters[i]? = some (.shaping (.tokenBucketFilter f)) → s.Free ⟨i, s.pool.isIngoing p⟩ →
      FrameCases s (.handle i p)
        (s.setShaping i (.tokenBucketFilter (f.setBucket (s.pool.isIngoing p)
          ((f.bucket (s.pool.isIngoing p)).enqueue r p)))) [.trySend i (s.pool.isIngoing p)]
  | wake {i : Nat} {p : PacketPtr} {f : Burst PacketPtr} :
      s.filters[i]? = some (.shaping (.burst f)) →
      FrameCases s (.handle i p) s [if f.sleeping then .handle (i + 1) p else .push i p]
  | push {i : Nat} {p : PacketPtr} {f : Burst PacketPtr} :
      s.filters[i]? = some (.shaping (.burst f)) → s.Free (.ofBurst i) →
      FrameCases s (.push i p)
        (s.setShaping i (.burst { f with queue := f.queue ++ [p] })) []
  | turn {i : Nat} {f f' : Burst PacketPtr} {frames : List ChainFrame} :
      s.filters[i]? = some (.shaping (.burst f)) → f'.queue = f.queue →
      frames = [] ∨ frames = [.flush i] → (frames = [] → f'.timers ≠ []) →
      FrameCases s (.init i) (s.setShaping i (.burst f')) frames
  | flush {i : Nat} {f : Burst PacketPtr} :
      s.filters[i]? = some (.shaping (.burst f)) → s.Free (.ofBurst i) →
      FrameCases s (.flush i) (s.setShaping i (.burst { f with queue := [] }))
        (f.queue.map (.handle (i + 1)) ++ [.flushed i])
  | flushed {i : Nat} {f f' : Burst PacketPtr} :
      s.filters[i]? = some (.shaping (.burst f)) → f'.queue = f.queue → f'.timers ≠ [] →
      FrameCases s (.flushed i) (s.setShaping i (.burst f')) []
  | bucket {i : Nat} {f : TokenBucketFilter PacketPtr} {frame : ChainFrame} {d : Bool}
      {b : TokenBucket PacketPtr} : s.filters[i]? = some (.shaping (.tokenBucketFilter f)) →
      b.queue = (f.bucket d).queue →
      (∃ diff, frame = .refill i d diff ∧ s.Free ⟨i, d⟩) ∨ frame = .rearm i d →
      ((f.bucket d).timers ≠ [] ∨ frame = .rearm i d → b.timers ≠ []) →
      (frame = .rearm i d → b.tokens = (f.bucket d).tokens) →
      FrameCases s frame (s.setShaping i (.tokenBucketFilter (f.setBucket d b))) []
  | trySend {i : Nat} {f : TokenBucketFilter PacketPtr} {d : Bool} :
      s.filters[i]? = some (.shaping (.tokenBucketFilter f)) → s.Free ⟨i, d⟩ →
      FrameCases s (.trySend i d)
        (s.setShaping i (.tokenBucketFilter
          (f.setBucket d ((f.bucket d).trySend s.pool.getPacketLen).1)))
        (((f.bucket d).trySend s.pool.getPacketLen).2.map (.handle (i + 1)) ++ [.unlock i d])
  | unlock {i : Nat} {f : TokenBucketFilter PacketPtr} {d : Bool} :
      s.filters[i]? = some (.shaping (.tokenBucketFilter f)) → FrameCases s (.unlock i d) s []
  | asyncPop {i : Nat} {f f' : RouterFilter} {l : DelayLine PacketPtr} :
      s.filters[i]? = some f → f.line = some l → f'.line = some l.asyncPop → f'.cls = f.cls →
      FrameCases s (.asyncPop i) (s.setFilter i f') []

/-- `handlePacket` of a filter, by the class of the filter. -/
theorem handle_cases {r : ℚ} {now i : Nat} {p : PacketPtr} {f : RouterFilter}
    (hi : s.filters[i]? = some f) (h : s.handle r now i p f = some (s', frames)) :
    FrameCases s (.handle i p) s' frames := by
  have hself := set_filter_self hi
  cases f with
  | input =>
    obtain ⟨rfl, rfl⟩ := Prod.mk.inj (Option.some.inj h)
    have hcase := @FrameCases.passOn s i p .input .input s.pool s.headers hi
      ⟨trivial, by decide⟩ trivial rfl (.refl _ _) (fun h => by cases h) fun _ => ⟨rfl, rfl⟩
    rwa [hself] at hcase
  | inputDrop =>
    obtain ⟨rfl, rfl⟩ := Prod.mk.inj (Option.some.inj h)
    have hcase := @FrameCases.passOn s i p .inputDrop .inputDrop _ s.headers hi
      ⟨trivial, by decide⟩ trivial rfl (s.pool.keeps_setVerdict p false) (fun _ => rfl)
      fun hne => absurd rfl hne
    rwa [hself] at hcase
  | output =>
    obtain ⟨rfl, rfl⟩ := Prod.mk.inj (Option.some.inj h)
    have hcase := @FrameCases.keep s i p .output .output _ hi trivial trivial rfl
      (by simp) (s.pool.keeps_setVerdict p true) (Or.inl ⟨rfl, rfl⟩)
    rwa [hself] at hcase
  | outputLibnet stage =>
    obtain ⟨rfl, rfl⟩ := Prod.mk.inj (Option.some.inj h)
    exact .output hi
  | nat n =>
    simp only [handle] at h
    cases hpkt : s.packet p with
    | none => rw [hpkt] at h; cases h
    | some pkt =>
      rw [hpkt] at h
      obtain ⟨⟨n', out⟩, hstep, heq⟩ := Option.map_eq_some_iff.mp h
      cases out with
      | none =>
        obtain ⟨rfl, rfl⟩ := Prod.mk.inj heq
        exact .keep hi trivial trivial rfl (by simp) (.refl _ _) (Or.inr (Or.inr ⟨rfl, rfl⟩))
      | some pkt' =>
        obtain ⟨rfl, rfl⟩ := Prod.mk.inj heq
        obtain ⟨parent, hparent, rfl⟩ := Option.map_eq_some_iff.mp hpkt
        -- the NAT changes addresses and ports only
        obtain ⟨ip, port, -, rfl⟩ := NatBox.handlePacket_translated hstep
        have hsame : ∀ q, s.pool.packets.objects p = some q →
            ({ s.headers p with toParentPacket := parent }.translated ip port).nfqID = q.nfqID ∧
            ({ s.headers p with toParentPacket := parent }.translated ip port).isIngoing =
              q.isIngoing ∧
            ({ s.headers p with toParentPacket := parent }.translated ip port).verdictSet =
              q.verdictSet := by
          intro q hq
          rw [hparent] at hq
          obtain rfl := Option.some.inj hq
          unfold Packet.translated
          split <;> exact ⟨rfl, rfl, rfl⟩
        exact .passOn hi ⟨trivial, by simp [RouterFilter.cls]⟩ trivial rfl
          (s.pool.keeps_modify p hsame) (fun h => by cases h)
          fun _ => ⟨rfl, s.pool.isSettled_modify p (fun q hq => (hsame q hq).2.2) p⟩
  | shaping g =>
    cases g with
    | loss g =>
      obtain ⟨rfl, rfl⟩ := Prod.mk.inj (Option.some.inj h)
      by_cases hr : g.drops r = true
      · simp only [ShapingFilter.handlePacket, hr, if_true, List.map_nil]
        exact .keep hi trivial trivial rfl (by simp) (s.pool.keeps_setVerdict p false)
          (Or.inr (Or.inl ⟨Or.inl rfl, rfl⟩))
      · simp only [ShapingFilter.handlePacket, hr, Bool.false_eq_true, if_false, List.map_cons,
          List.map_nil]
        exact .passOn hi ⟨trivial, by simp [RouterFilter.cls]⟩ trivial rfl (.refl _ _)
          (fun h => by cases h) fun _ => ⟨rfl, rfl⟩
    | dynamicLoss g =>
      obtain ⟨rfl, rfl⟩ := Prod.mk.inj (Option.some.inj h)
      by_cases hr : g.drops r = true
      · simp only [ShapingFilter.handlePacket, hr, if_true, List.map_nil]
        exact .keep hi trivial trivial rfl (by simp) (s.pool.keeps_setVerdict p false)
          (Or.inr (Or.inl ⟨Or.inr rfl, rfl⟩))
      · simp only [ShapingFilter.handlePacket, hr, Bool.false_eq_true, if_false, List.map_cons,
          List.map_nil]
        exact .passOn hi ⟨trivial, by simp [RouterFilter.cls]⟩ trivial rfl (.refl _ _)
          (fun h => by cases h) fun _ => ⟨rfl, rfl⟩
    | staticDelay g =>
      obtain ⟨rfl, rfl⟩ := Prod.mk.inj (Option.some.inj h)
      exact .enqueue hi rfl rfl rfl
    | dynamicDelay g =>
      obtain ⟨rfl, rfl⟩ := Prod.mk.inj (Option.some.inj h)
      exact .enqueue hi rfl rfl rfl
    | burst g =>
      obtain ⟨rfl, rfl⟩ := Prod.mk.inj (Option.some.inj h)
      exact .wake hi
    | tokenBucketFilter g =>
      obtain ⟨hfree, h⟩ := Option.ite_none_right_eq_some.mp h
      obtain ⟨rfl, rfl⟩ := Prod.mk.inj (Option.some.inj h)
      exact .enter r hi hfree

/-- **What the next frame of a thread does.** -/
theorem runFrame_cases {r : ℚ} {now : Nat} {frame : ChainFrame}
    (h : s.runFrame r now frame = some (s', frames)) : FrameCases s frame s' frames := by
  unfold runFrame at h
  split at h
  · rename_i i p f hi
    exact handle_cases hi h
  · rename_i i p f hi
    obtain ⟨hfree, h⟩ := Option.ite_none_right_eq_some.mp h
    obtain ⟨rfl, rfl⟩ := Prod.mk.inj (Option.some.inj h)
    exact .push hi hfree
  · rename_i i f hi
    have hi : s.filters[i]? = some (.shaping (.burst f)) := hi
    have hself : s.setShaping i (.burst f) = s := by
      simp only [setShaping, setFilter, set_filter_self hi]
    split at h
    · obtain ⟨rfl, rfl⟩ := Prod.mk.inj (Option.some.inj h)
      exact .turn hi rfl (Or.inl rfl) fun _ => by simp
    · obtain ⟨rfl, rfl⟩ := Prod.mk.inj (Option.some.inj h)
      have hcase := @FrameCases.turn s i f f _ hi rfl (Or.inr rfl) (fun h => by cases h)
      rwa [hself] at hcase
  · rename_i i f hi
    obtain ⟨hfree, h⟩ := Option.ite_none_right_eq_some.mp h
    obtain ⟨rfl, rfl⟩ := Prod.mk.inj (Option.some.inj h)
    exact .flush hi hfree
  · rename_i i f hi
    obtain ⟨rfl, rfl⟩ := Prod.mk.inj (Option.some.inj h)
    exact .flushed hi rfl (by simp)
  · rename_i i d diff f hi
    obtain ⟨hfree, h⟩ := Option.ite_none_right_eq_some.mp h
    obtain ⟨rfl, rfl⟩ := Prod.mk.inj (Option.some.inj h)
    refine .bucket hi (TokenBucket.refill_queue _ _) (Or.inl ⟨diff, rfl, hfree⟩) ?_
      fun hframe => by cases hframe
    rw [TokenBucket.refill_timers]
    exact fun htimers => htimers.resolve_right fun hframe => by cases hframe
  · rename_i i d f hi
    obtain ⟨hfree, h⟩ := Option.ite_none_right_eq_some.mp h
    obtain ⟨rfl, rfl⟩ := Prod.mk.inj (Option.some.inj h)
    exact .trySend hi hfree
  · rename_i i d f hi
    obtain ⟨rfl, rfl⟩ := Prod.mk.inj (Option.some.inj h)
    exact .unlock hi
  · rename_i i d f hi
    obtain ⟨rfl, rfl⟩ := Prod.mk.inj (Option.some.inj h)
    exact .bucket hi rfl (Or.inr rfl) (fun _ => by simp) fun _ => rfl
  · rename_i i f hi
    obtain ⟨rfl, rfl⟩ := Prod.mk.inj (Option.some.inj h)
    exact .asyncPop hi rfl rfl rfl
  · rename_i i f hi
    obtain ⟨rfl, rfl⟩ := Prod.mk.inj (Option.some.inj h)
    exact .asyncPop hi rfl rfl rfl
  · cases h

/-- What a task does that begins in the filter at `i`. -/
inductive TaskCases (s : LockedChain) (i : Nat) : PoolTask → LockedChain → List ChainFrame → Prop
  | popHandler {k now : Nat} {f f' : RouterFilter} {l l' : DelayLine PacketPtr} (delay : Int) :
      s.filters[i]? = some f → f.line = some l →
      l.popHandler delay (s.pool.age now) k = some l' → f'.line = some l' → f'.cls = f.cls →
      TaskCases s i (.popHandler k now) (s.setFilter i f') []
  | expire {k now : Nat} {f f' : RouterFilter} {l l' : DelayLine PacketPtr} {p : PacketPtr} :
      s.filters[i]? = some f → f.line = some l → l.expire k = some (l', p) → f'.line = some l' →
      f'.cls = f.cls →
      TaskCases s i (.timeout k now)
        { s.setFilter i f' with pool := s.pool.resetTimeStamp p now }
        [.handle (i + 1) p, .asyncPop i]
  | curve {task : PoolTask} {f f' : RouterFilter} {l : DelayLine PacketPtr} :
      s.filters[i]? = some f → f.line = some l → f'.line = some l → f'.cls = f.cls →
      (∃ k, task = .delayPopHandler k ∨ task = .delayTimeout k) →
      TaskCases s i task (s.setFilter i f') []
  | clear {k now : Nat} {f f' : RouterFilter} : s.filters[i]? = some f → f.Clear → f'.Clear →
      f'.cls = f.cls → TaskCases s i (.timeout k now) (s.setFilter i f') []
  | burst {k now : Nat} {f f' : Burst PacketPtr} :
      s.filters[i]? = some (.shaping (.burst f)) → f'.queue = f.queue →
      TaskCases s i (.timeout k now) (s.setShaping i (.burst f')) [.init i]
  | run {d : Bool} {k : Nat} {reads : TokenBucketFilter.Readings} {diff : UInt64}
      {f : TokenBucketFilter PacketPtr} {b : TokenBucket PacketPtr} :
      s.filters[i]? = some (.shaping (.tokenBucketFilter f)) → b.queue = (f.bucket d).queue →
      TaskCases s i (.run d k reads) (s.setShaping i (.tokenBucketFilter (f.setBucket d b)))
        [.refill i d diff, .trySend i d, .rearm i d]
  | popOutput {k : Nat} {d : Delivery PacketPtr} {run : PopRun} {stage : OutputStage PacketPtr} :
      s.filters[i]? = some (.outputLibnet stage) → stage.posted[k]? = some (.popHandler, d) →
      TaskCases s i (.popOutput k d run)
        (s.setFilter i (.outputLibnet (if run.rearmed then
          (stage.afterRun k run).onQueue (·.asyncPop .popHandler) else stage.afterRun k run))) []

/-- **What a task does when it begins.** -/
theorem beginTask_cases {i : Nat} {task : PoolTask}
    (h : s.beginTask i task = some (s', frames)) : TaskCases s i task s' frames := by
  unfold beginTask at h
  split at h
  · rename_i f k now hi
    obtain ⟨f', hf', heq⟩ := Option.map_eq_some_iff.mp h
    obtain ⟨rfl, rfl⟩ := Prod.mk.inj heq
    obtain ⟨l, hl, rfl⟩ := Option.map_eq_some_iff.mp hf'
    exact .popHandler f.delay hi rfl hl rfl rfl
  · rename_i f k now hi
    obtain ⟨f', hf', heq⟩ := Option.map_eq_some_iff.mp h
    obtain ⟨rfl, rfl⟩ := Prod.mk.inj heq
    obtain ⟨l, hl, rfl⟩ := Option.map_eq_some_iff.mp hf'
    exact .popHandler f.delay hi rfl hl rfl rfl
  · rename_i f k now hi
    obtain ⟨⟨l', p⟩, hl, heq⟩ := Option.map_eq_some_iff.mp h
    obtain ⟨rfl, rfl⟩ := Prod.mk.inj heq
    exact .expire hi rfl hl rfl rfl
  · rename_i f k now hi
    obtain ⟨⟨l', p⟩, hl, heq⟩ := Option.map_eq_some_iff.mp h
    obtain ⟨rfl, rfl⟩ := Prod.mk.inj heq
    exact .expire hi rfl hl rfl rfl
  · rename_i f k hi
    obtain ⟨f', hf', heq⟩ := Option.map_eq_some_iff.mp h
    obtain ⟨rfl, rfl⟩ := Prod.mk.inj heq
    exact .curve hi rfl (congrArg some (DynamicDelay.delayPopHandler_line hf')) rfl
      ⟨k, Or.inl rfl⟩
  · rename_i f k hi
    obtain ⟨f', hf', heq⟩ := Option.map_eq_some_iff.mp h
    obtain ⟨rfl, rfl⟩ := Prod.mk.inj heq
    exact .curve hi rfl (congrArg some (DynamicDelay.delayTimeout_line hf')) rfl ⟨k, Or.inr rfl⟩
  · rename_i f k now hi
    obtain ⟨f', hf', heq⟩ := Option.map_eq_some_iff.mp h
    obtain ⟨rfl, rfl⟩ := Prod.mk.inj heq
    exact .clear hi trivial trivial rfl
  · rename_i f k now hi
    obtain ⟨hk, h⟩ := Option.ite_none_right_eq_some.mp h
    obtain ⟨rfl, rfl⟩ := Prod.mk.inj (Option.some.inj h)
    exact .burst hi rfl
  · rename_i f d k reads hi
    obtain ⟨hk, h⟩ := Option.ite_none_right_eq_some.mp h
    obtain ⟨rfl, rfl⟩ := Prod.mk.inj (Option.some.inj h)
    exact .run hi rfl
  · rename_i stage k d run hi
    obtain ⟨hk, h⟩ := Option.ite_none_right_eq_some.mp h
    obtain ⟨rfl, rfl⟩ := Prod.mk.inj (Option.some.inj h)
    exact .popOutput hi hk
  · cases h

theorem FrameCases.threads {frame : ChainFrame} (hc : FrameCases s frame s' frames) :
    s'.threads = s.threads := by
  cases hc <;> rfl

theorem TaskCases.threads {i : Nat} {task : PoolTask} (hc : TaskCases s i task s' frames) :
    s'.threads = s.threads := by
  cases hc <;> rfl

/-- A frame is about one filter of the chain. -/
theorem FrameCases.own {frame : ChainFrame} (hc : FrameCases s frame s' frames) :
    ∃ f f', s.filters[frame.filter]? = some f ∧ s'.filters = s.filters.set frame.filter f' := by
  cases hc with
  | passOn hi | keep hi | enqueue hi | output hi | enter _ hi | push hi | turn hi | flush hi
  | flushed hi | trySend hi | asyncPop hi => exact ⟨_, _, hi, rfl⟩
  | wake hi | unlock hi => exact ⟨_, _, hi, (set_filter_self hi).symm⟩
  | bucket hi hq hframe =>
    rcases hframe with ⟨diff, rfl, -⟩ | rfl <;> exact ⟨_, _, hi, rfl⟩

theorem TaskCases.own {i : Nat} {task : PoolTask} (hc : TaskCases s i task s' frames) :
    ∃ f f', s.filters[i]? = some f ∧ s'.filters = s.filters.set i f' := by
  cases hc with
  | popHandler delay hi | expire hi | curve hi | clear hi | burst hi | run hi | popOutput hi =>
    exact ⟨_, _, hi, rfl⟩

/-- What happens in one step. -/
inductive StepCases (s : LockedChain) : LockedEvent → LockedChain → Prop
  | arrive (pkt : Packet) : pkt.verdictSet = false → s.threads[0]? = some [] →
      StepCases s (.arrive pkt)
        { s with
          pool := s.pool.add pkt.toParentPacket
          headers := Function.update s.headers s.pool.packets.next pkt
          threads := s.threads.set 0 [.handle 0 s.pool.packets.next] }
  | run {t : Nat} {frame : ChainFrame} (r : ℚ) (now : Nat) {rest frames : List ChainFrame}
      {s₁ : LockedChain} : s.threads[t]? = some (frame :: rest) → FrameCases s frame s₁ frames →
      StepCases s (.run t frame r now) { s₁ with threads := s.threads.set t (frames ++ rest) }
  | task {i : Nat} {task : PoolTask} {frames : List ChainFrame} {s₁ : LockedChain} :
      TaskCases s i task s₁ frames →
      StepCases s (.task i task) { s₁ with threads := s.threads ++ [frames] }

/-- **What happens in one step.** -/
theorem step_cases {e : LockedEvent} (h : s.step e = some s') : StepCases s e s' := by
  cases e with
  | arrive pkt =>
    obtain ⟨⟨hset, hidle⟩, h⟩ := Option.ite_none_right_eq_some.mp h
    obtain rfl := Option.some.inj h
    exact .arrive pkt hset hidle
  | run t frame r now =>
    simp only [step] at h
    split at h
    · rename_i next rest ht
      obtain ⟨rfl, h⟩ := Option.ite_none_right_eq_some.mp h
      obtain ⟨⟨s₁, frames⟩, hrun, rfl⟩ := Option.map_eq_some_iff.mp h
      have hc := runFrame_cases hrun
      simp only [hc.threads]
      exact .run r now ht hc
    · cases h
  | task i task =>
    obtain ⟨⟨s₁, frames⟩, hbegin, rfl⟩ := Option.map_eq_some_iff.mp h
    have hc := beginTask_cases hbegin
    simp only [hc.threads]
    exact .task hc

end LockedChain
end ShapingRouter
