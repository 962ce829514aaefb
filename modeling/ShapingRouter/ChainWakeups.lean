import Mathlib
import ShapingRouter.NatInChain

/-! # No packet is stranded

What a filter holds, it holds for an event that is to come: the timer of a delay filter,
of a `Burst` or of a bucket, or a posted call.  While a thread is at work in the filter
that event may be missing, because the thread has still to arm it or to forward the
packets itself (`Wakeful`).  So when the threads have nothing to do, there is for every packet
that is in the chain an event pending with which its filter goes on with what it waits for
(`nothing_stranded`).  The one exception is the output stage after a run of `popHandler` that
did not come to its end.
-/

namespace ShapingRouter
open Library

theorem TokenBucket.Waits.congr {π : Type} {len len' : π → UInt32} {b b' : TokenBucket π}
    (hw : b.Waits len) (hqueue : b'.queue = b.queue) (htokens : b'.tokens = b.tokens)
    (hlen : ∀ p ∈ b.queue, len' p = len p) : b'.Waits len' := by
  intro p rest hp
  rw [hqueue] at hp
  rw [htokens, hlen p (by rw [hp]; exact List.mem_cons_self)]
  exact hw p rest hp

theorem TokenBucket.enqueue_timers {π : Type} (b : TokenBucket π) (r : ℚ) (p : π) :
    (b.enqueue r p).timers = b.timers := by
  unfold enqueue
  split <;> rfl

namespace LockedChain
variable {s s' : LockedChain} {acceptMode : Bool} {L : List RouterFilter} {h : List LockedEvent}

/-! ## Lengths -/

theorem getPacketLen_eq (s : LockedChain) (q : PacketPtr) :
    s.pool.getPacketLen q =
      (((s.packet q).map Packet.content).map fun pkt => pkt.getPacketLen).getD 0 := by
  unfold PacketPool.getPacketLen packet
  cases s.pool.packets.objects q <;> rfl

/-- The length of a packet stays the same, also where the NAT rewrites it. -/
theorem getPacketLen_step {e : LockedEvent} (hs : s.step e = some s') {q : PacketPtr}
    (hq : q < s.pool.packets.next) : s'.pool.getPacketLen q = s.pool.getPacketLen q := by
  rw [getPacketLen_eq, getPacketLen_eq]
  cases natCases hs with
  | keeps hnats hcontent => rw [hcontent q hq]
  | @handles t k now p r rest n n' pkt out ht hn hpkt hstep =>
    by_cases hqp : q = p
    · subst hqp
      cases out with
      | none => rfl
      | some pkt' =>
        obtain ⟨ip, port, -, rfl⟩ := NatBox.handlePacket_translated hstep
        rw [packet_afterNat hpkt, hpkt]
        unfold Packet.translated
        split <;> rfl
    · rw [packet_afterNat_of_ne hqp]

/-! ## The invariant -/

/-- What a thread does from the timer of a `Burst` to the next. -/
def burstFrames (i : Nat) : List ChainFrame := [.init i, .flush i, .flushed i]

/-- **Every filter will be woken**: by a pending timer or by a thread that is at work in it;
and where a bucket has the tokens for its head, a thread is to call `trySend`. -/
structure Wakeful (s : LockedChain) : Prop where
  refills : ∀ stack ∈ s.threads, ∀ i d diff, .refill i d diff ∈ stack →
    stack = [.refill i d diff, .trySend i d, .rearm i d]
  bursts : ∀ (i : Nat) f, s.filters[i]? = some (.shaping (.burst f)) →
    f.timers ≠ [] ∨ ∃ frame ∈ burstFrames i, frame ∈ s.frames
  ticks : ∀ (i : Nat) f d, s.filters[i]? = some (.shaping (.tokenBucketFilter f)) →
    (f.bucket d).timers ≠ [] ∨ .rearm i d ∈ s.frames
  sends : ∀ (i : Nat) f d, s.filters[i]? = some (.shaping (.tokenBucketFilter f)) →
    (f.bucket d).Waits s.pool.getPacketLen ∨ .trySend i d ∈ s.frames

section Frames
variable {frame : ChainFrame} {frames : List ChainFrame} {later : Multiset ChainFrame}

theorem FrameCases.bursts (hc : FrameCases s frame s' frames) (hw : s.Wakeful)
    (hold : ∀ e ∈ s.frames, e ≠ frame → e ∈ later) (hnew : ∀ e ∈ frames, e ∈ later) (j : Nat)
    (g : Burst PacketPtr) (hj : s'.filters[j]? = some (.shaping (.burst g))) :
    g.timers ≠ [] ∨ ∃ e ∈ burstFrames j, e ∈ later := by
  have hkeep : ∀ {g' : Burst PacketPtr}, s.filters[j]? = some (.shaping (.burst g')) →
      frame ∉ burstFrames j → g'.timers ≠ [] ∨ ∃ e ∈ burstFrames j, e ∈ later := by
    intro g' hj hframe
    refine (hw.bursts j g' hj).imp_right ?_
    rintro ⟨e, he, hmem⟩
    exact ⟨e, he, hold e hmem fun heq => hframe (heq ▸ he)⟩
  have hother : ∀ {i : Nat} {f' : RouterFilter}, (∀ f, f' ≠ .shaping (.burst f)) →
      (s.filters.set i f')[j]? = some (.shaping (.burst g)) → frame ∉ burstFrames j →
      g.timers ≠ [] ∨ ∃ e ∈ burstFrames j, e ∈ later := by
    intro i f' hne hj hframe
    rcases getElem?_set_cases hj with ⟨-, hsame⟩ | ⟨-, hj⟩
    · exact absurd hsame.symm (hne g)
    · exact hkeep hj hframe
  have hclear : ∀ {f' : RouterFilter}, f'.Clear → ∀ f, f' ≠ .shaping (.burst f) := by
    rintro f' hf' f rfl
    exact hf'
  have hline : ∀ {f' : RouterFilter} {l : DelayLine PacketPtr}, f'.line = some l →
      ∀ f, f' ≠ .shaping (.burst f) := by
    rintro f' l hl f rfl
    cases hl
  cases hc with
  | passOn hi hf hf' => exact hother (hclear hf') hj (by simp [burstFrames])
  | keep hi hf hf' => exact hother (hclear hf') hj (by simp [burstFrames])
  | enqueue hi hl hl' => exact hother (hline hl') hj (by simp [burstFrames])
  | asyncPop hi hl hl' => exact hother (hline hl') hj (by simp [burstFrames])
  | output | enter | trySend => exact hother (by simp) hj (by simp [burstFrames])
  | bucket hi hq hframe =>
    refine hother (by simp) hj ?_
    rcases hframe with ⟨diff, rfl, -⟩ | rfl <;> simp [burstFrames]
  | wake | unlock => exact hkeep hj (by simp [burstFrames])
  | push hi =>
    rcases getElem?_set_cases hj with ⟨rfl, hsame⟩ | ⟨-, hj⟩
    · cases hsame
      have htimers := hkeep hi (by simp [burstFrames])
      exact htimers
    · exact hkeep hj (by simp [burstFrames])
  | @turn i f f' frames hi hq hframes htimers =>
    rcases getElem?_set_cases hj with ⟨rfl, hsame⟩ | ⟨hne, hj⟩
    · cases hsame
      rcases hframes with rfl | rfl
      · exact Or.inl (htimers rfl)
      · exact Or.inr ⟨.flush j, by simp [burstFrames], hnew _ List.mem_cons_self⟩
    · exact hkeep hj (by simp [burstFrames, Ne.symm hne])
  | flush hi =>
    rcases getElem?_set_cases hj with ⟨rfl, hsame⟩ | ⟨hne, hj⟩
    · exact Or.inr ⟨.flushed j, by simp [burstFrames], hnew _ (by simp)⟩
    · exact hkeep hj (by simp [burstFrames, Ne.symm hne])
  | flushed hi hq htimers =>
    rcases getElem?_set_cases hj with ⟨rfl, hsame⟩ | ⟨hne, hj⟩
    · cases hsame
      exact Or.inl htimers
    · exact hkeep hj (by simp [burstFrames, Ne.symm hne])

/-- What a frame, which leaves `frames` to do, does to the bucket of a direction at `j`. -/
inductive BucketMoves (s : LockedChain) (j : Nat) (d : Bool) (b : TokenBucket PacketPtr) :
    ChainFrame → List ChainFrame → TokenBucket PacketPtr → Prop
  | same {frame : ChainFrame} {frames : List ChainFrame} : frame ≠ .trySend j d →
      frame ≠ .rearm j d → BucketMoves s j d b frame frames b
  | enter {p : PacketPtr} {r : ℚ} : BucketMoves s j d b (.handle j p) [.trySend j d] (b.enqueue r p)
  | refill {diff : UInt64} {frames : List ChainFrame} {b' : TokenBucket PacketPtr} :
      (b.timers ≠ [] → b'.timers ≠ []) → BucketMoves s j d b (.refill j d diff) frames b'
  | rearm {frames : List ChainFrame} {b' : TokenBucket PacketPtr} : b'.timers ≠ [] →
      b'.queue = b.queue → b'.tokens = b.tokens → BucketMoves s j d b (.rearm j d) frames b'
  | trySend {frames : List ChainFrame} :
      BucketMoves s j d b (.trySend j d) frames (b.trySend s.pool.getPacketLen).1

theorem FrameCases.bucketMoves (hc : FrameCases s frame s' frames) {j : Nat} (d : Bool)
    {g : TokenBucketFilter PacketPtr}
    (hj : s'.filters[j]? = some (.shaping (.tokenBucketFilter g))) :
    ∃ f, s.filters[j]? = some (.shaping (.tokenBucketFilter f)) ∧
      BucketMoves s j d (f.bucket d) frame frames (g.bucket d) := by
  have hkeep : s.filters[j]? = some (.shaping (.tokenBucketFilter g)) →
      frame ≠ .trySend j d → frame ≠ .rearm j d → ∃ f,
        s.filters[j]? = some (.shaping (.tokenBucketFilter f)) ∧
          BucketMoves s j d (f.bucket d) frame frames (g.bucket d) :=
    fun hj hsend hrearm => ⟨g, hj, .same hsend hrearm⟩
  have hother : ∀ {i : Nat} {f' : RouterFilter}, (∀ f, f' ≠ .shaping (.tokenBucketFilter f)) →
      (s.filters.set i f')[j]? = some (.shaping (.tokenBucketFilter g)) →
      s.filters[j]? = some (.shaping (.tokenBucketFilter g)) := by
    intro i f' hne hj
    rcases getElem?_set_cases hj with ⟨-, hsame⟩ | ⟨-, hj⟩
    · exact absurd hsame.symm (hne g)
    · exact hj
  have hclear : ∀ {f' : RouterFilter}, f'.Clear → ∀ f, f' ≠ .shaping (.tokenBucketFilter f) := by
    rintro f' hf' f rfl
    exact hf'
  have hline : ∀ {f' : RouterFilter} {l : DelayLine PacketPtr}, f'.line = some l →
      ∀ f, f' ≠ .shaping (.tokenBucketFilter f) := by
    rintro f' l hl f rfl
    cases hl
  cases hc with
  | passOn hi hf hf' => exact hkeep (hother (hclear hf') hj) (by simp) (by simp)
  | keep hi hf hf' => exact hkeep (hother (hclear hf') hj) (by simp) (by simp)
  | enqueue hi hl hl' => exact hkeep (hother (hline hl') hj) (by simp) (by simp)
  | asyncPop hi hl hl' => exact hkeep (hother (hline hl') hj) (by simp) (by simp)
  | output | push | turn | flush | flushed => exact hkeep (hother (by simp) hj) (by simp) (by simp)
  | wake | unlock => exact hkeep hj (by simp) (by simp)
  | @enter i p f r hi =>
    rcases getElem?_set_cases hj with ⟨rfl, hsame⟩ | ⟨-, hj⟩
    · cases hsame
      refine ⟨f, hi, ?_⟩
      rw [TokenBucketFilter.bucket_setBucket_apply]
      split
      · rename_i hd
        rw [← hd]
        exact .enter
      · exact .same (by simp) (by simp)
    · exact hkeep hj (by simp) (by simp)
  | @bucket i f frame d₀ b hi hq hframe htimers htokens =>
    rcases getElem?_set_cases hj with ⟨rfl, hsame⟩ | ⟨hne, hj⟩
    · cases hsame
      refine ⟨f, hi, ?_⟩
      rw [TokenBucketFilter.bucket_setBucket_apply]
      split
      · rename_i hd
        subst hd
        rcases hframe with ⟨diff, rfl, -⟩ | rfl
        · exact .refill fun h => htimers (Or.inl h)
        · exact .rearm (htimers (Or.inr rfl)) hq (htokens rfl)
      · rename_i hd
        rcases hframe with ⟨diff, rfl, -⟩ | rfl
        · exact .same (by simp) (by simp)
        · exact .same (by simp) (by simp [Ne.symm hd])
    · refine hkeep hj ?_ ?_
      · rcases hframe with ⟨diff, rfl, -⟩ | rfl <;> simp
      · rcases hframe with ⟨diff, rfl, -⟩ | rfl <;> simp [Ne.symm hne]
  | @trySend i f d₀ hi =>
    rcases getElem?_set_cases hj with ⟨rfl, hsame⟩ | ⟨hne, hj⟩
    · cases hsame
      refine ⟨f, hi, ?_⟩
      rw [TokenBucketFilter.bucket_setBucket_apply]
      split
      · rename_i hd
        rw [hd]
        exact .trySend
      · rename_i hd
        exact .same (by simp [Ne.symm hd]) (by simp)
    · exact hkeep hj (by simp [Ne.symm hne]) (by simp)

/-- A bucket goes on to have its timer, or a thread that arms it. -/
theorem FrameCases.ticks (hc : FrameCases s frame s' frames) (hw : s.Wakeful)
    (hold : ∀ e ∈ s.frames, e ≠ frame → e ∈ later) (j : Nat) (g : TokenBucketFilter PacketPtr)
    (d : Bool) (hj : s'.filters[j]? = some (.shaping (.tokenBucketFilter g))) :
    (g.bucket d).timers ≠ [] ∨ .rearm j d ∈ later := by
  obtain ⟨f, hi, hmoves⟩ := hc.bucketMoves d hj
  have hbefore := hw.ticks j f d hi
  generalize g.bucket d = b' at hmoves ⊢
  cases hmoves with
  | same hsend hrearm => exact hbefore.imp_right fun hmem => hold _ hmem (Ne.symm hrearm)
  | enter =>
    rw [TokenBucket.enqueue_timers]
    exact hbefore.imp_right fun hmem => hold _ hmem (by simp)
  | refill htimers => exact hbefore.imp htimers fun hmem => hold _ hmem (by simp)
  | rearm htimers => exact Or.inl htimers
  | trySend => exact hbefore.imp_right fun hmem => hold _ hmem (by simp)

/-- A bucket goes on to wait, or a thread is to call `trySend`. -/
theorem FrameCases.sends (hc : FrameCases s frame s' frames) (hw : s.Wakeful)
    (hold : ∀ e ∈ s.frames, e ≠ frame → e ∈ later) (hnew : ∀ e ∈ frames, e ∈ later)
    (hrefill : ∀ j d diff, frame = .refill j d diff → .trySend j d ∈ later)
    {len : PacketPtr → UInt32}
    (hlen : ∀ (i : Nat) f d, s.filters[i]? = some (.shaping (.tokenBucketFilter f)) →
      ∀ p ∈ (f.bucket d).queue, len p = s.pool.getPacketLen p) (j : Nat)
    (g : TokenBucketFilter PacketPtr) (d : Bool)
    (hj : s'.filters[j]? = some (.shaping (.tokenBucketFilter g))) :
    (g.bucket d).Waits len ∨ .trySend j d ∈ later := by
  obtain ⟨f, hi, hmoves⟩ := hc.bucketMoves d hj
  have hbefore := hw.sends j f d hi
  have hsame := hlen j f d hi
  generalize g.bucket d = b' at hmoves ⊢
  cases hmoves with
  | same hsend hrearm =>
    exact hbefore.imp (fun h => h.congr rfl rfl hsame) fun hmem => hold _ hmem (Ne.symm hsend)
  | enter => exact Or.inr (hnew _ List.mem_cons_self)
  | refill => exact Or.inr (hrefill j d _ rfl)
  | rearm htimers hqueue htokens =>
    exact hbefore.imp (fun h => h.congr hqueue htokens hsame) fun hmem => hold _ hmem (by simp)
  | trySend =>
    refine Or.inl ((SharedBucket.waits_trySend s.pool.getPacketLen (f.bucket d)).congr rfl rfl ?_)
    intro p hp
    refine hsame p ?_
    rw [← TokenBucket.sendLoop_append s.pool.getPacketLen (f.bucket d).tokens (f.bucket d).queue]
    exact List.mem_append_right _ hp

/-- Where a task begins that is about no bucket and no `Burst`, they stay as they are. -/
theorem TaskCases.shaping_eq {i : Nat} {task : PoolTask} (hc : TaskCases s i task s' frames)
    {j : Nat} {g : RouterFilter} (hj : s'.filters[j]? = some g) (hg : g.line = none) (hnot : ¬ g.Clear)
    (hout : ∀ stage, g ≠ .outputLibnet stage) :
    s.filters[j]? = some g ∨
      (j = i ∧ ((∃ f f' : Burst PacketPtr, s.filters[j]? = some (.shaping (.burst f)) ∧
        g = .shaping (.burst f') ∧ frames = [.init j]) ∨
      ∃ f d b diff, s.filters[j]? = some (.shaping (.tokenBucketFilter f)) ∧
        g = .shaping (.tokenBucketFilter (f.setBucket d b)) ∧
        frames = [.refill j d diff, .trySend j d, .rearm j d])) := by
  cases hc with
  | popHandler delay hi hl hpop hl' | expire hi hl hexpire hl' | curve hi hl hl' =>
    rcases getElem?_set_cases hj with ⟨-, rfl⟩ | ⟨-, hj⟩
    · rw [hl'] at hg
      cases hg
    · exact Or.inl hj
  | clear hi hf hf' =>
    rcases getElem?_set_cases hj with ⟨-, rfl⟩ | ⟨-, hj⟩
    · exact absurd hf' hnot
    · exact Or.inl hj
  | burst hi =>
    rcases getElem?_set_cases hj with ⟨rfl, rfl⟩ | ⟨-, hj⟩
    · exact Or.inr ⟨rfl, Or.inl ⟨_, _, hi, rfl, rfl⟩⟩
    · exact Or.inl hj
  | run hi =>
    rcases getElem?_set_cases hj with ⟨rfl, rfl⟩ | ⟨-, hj⟩
    · exact Or.inr ⟨rfl, Or.inr ⟨_, _, _, _, hi, rfl, rfl⟩⟩
    · exact Or.inl hj
  | popOutput hi =>
    rcases getElem?_set_cases hj with ⟨-, rfl⟩ | ⟨-, hj⟩
    · exact absurd rfl (hout _)
    · exact Or.inl hj

/-- No frame leaves a refill to do. -/
theorem FrameCases.no_refill (hc : FrameCases s frame s' frames) {i : Nat} {d : Bool}
    {diff : UInt64} : .refill i d diff ∉ frames := by
  intro hfr
  cases hc with
  | turn hi hq hframes => rcases hframes with rfl | rfl <;> simp at hfr
  | wake =>
    simp only [List.mem_singleton] at hfr
    split at hfr <;> cases hfr
  | passOn | keep | enqueue | output | enter | push | flush | flushed | bucket | trySend
  | unlock | asyncPop => simp at hfr

/-- A task that has a refill to do has `trySend` and the timer to do after it. -/
theorem TaskCases.refills {i : Nat} {task : PoolTask} (hc : TaskCases s i task s' frames) {j : Nat}
    {d : Bool} {diff : UInt64} (hfr : .refill j d diff ∈ frames) :
    frames = [.refill j d diff, .trySend j d, .rearm j d] := by
  cases hc with
  | run =>
    simp only [List.mem_cons, ChainFrame.refill.injEq, reduceCtorEq, List.not_mem_nil,
      or_false] at hfr
    obtain ⟨rfl, rfl, rfl⟩ := hfr
    rfl
  | expire | burst => simp at hfr
  | popHandler | curve | clear | popOutput => cases hfr

/-- The lengths of the packets in the buckets stay. -/
def KeepsLengths (s s' : LockedChain) : Prop :=
  ∀ (i : Nat) f d, s.filters[i]? = some (.shaping (.tokenBucketFilter f)) →
    ∀ p ∈ (f.bucket d).queue, s'.pool.getPacketLen p = s.pool.getPacketLen p

/-- A thread does a frame. -/
theorem Wakeful.run (hw : s.Wakeful) {t : Nat} {rest : List ChainFrame}
    (ht : s.threads[t]? = some (frame :: rest)) (hc : FrameCases s frame s' frames)
    (hlen : KeepsLengths s s') : Wakeful { s' with threads := s.threads.set t (frames ++ rest) } := by
  have hcount := @count_frames_run s t frame rest frames ht s'
  have hold : ∀ fr ∈ s.frames, fr ≠ frame →
      fr ∈ LockedChain.frames { s' with threads := s.threads.set t (frames ++ rest) } := by
    intro fr hfr hne
    have hsame := hcount fr
    rw [List.count_eq_zero.mpr (by simpa using hne)] at hsame
    have := Multiset.count_pos.mpr hfr
    exact Multiset.count_pos.mp (by omega)
  have hlt := (List.getElem?_eq_some_iff.mp ht).1
  have hmem : ∀ fr ∈ frames ++ rest,
      fr ∈ LockedChain.frames { s' with threads := s.threads.set t (frames ++ rest) } :=
    fun fr hfr => mem_frames.mpr ⟨frames ++ rest, List.mem_set hlt _, hfr⟩
  have hnew : ∀ fr ∈ frames, fr ∈ LockedChain.frames
      { s' with threads := s.threads.set t (frames ++ rest) } :=
    fun fr hfr => hmem fr (List.mem_append_left _ hfr)
  have hstack := hw.refills _ (List.mem_of_getElem? ht)
  refine ⟨fun stack hmemStack i d diff hfr => ?_, hc.bursts hw hold hnew, hc.ticks hw hold,
    hc.sends hw hold hnew ?_ hlen⟩
  · rcases List.mem_or_eq_of_mem_set hmemStack with hmemStack | rfl
    · exact hw.refills stack hmemStack i d diff hfr
    · rcases List.mem_append.mp hfr with hfr | hfr
      · exact absurd hfr hc.no_refill
      · -- a refill is the first thing that its thread does
        have hthis := hstack i d diff (List.mem_cons_of_mem _ hfr)
        obtain ⟨rfl, rfl⟩ := List.cons.inj hthis
        simp at hfr
  · rintro j d diff rfl
    have hthis := hstack j d diff List.mem_cons_self
    obtain ⟨-, rfl⟩ := List.cons.inj hthis
    exact hmem _ (by simp)

/-- A task begins. -/
theorem Wakeful.task (hw : s.Wakeful) {i : Nat} {task : PoolTask}
    (hc : TaskCases s i task s' frames) (hlen : KeepsLengths s s') :
    Wakeful { s' with threads := s.threads ++ [frames] } := by
  have hold : ∀ fr ∈ s.frames,
      fr ∈ LockedChain.frames { s' with threads := s.threads ++ [frames] } := by
    intro fr hfr
    obtain ⟨stack, hstack, hmem⟩ := mem_frames.mp hfr
    exact mem_frames.mpr ⟨stack, List.mem_append_left _ hstack, hmem⟩
  have hnew : ∀ fr ∈ frames,
      fr ∈ LockedChain.frames { s' with threads := s.threads ++ [frames] } :=
    fun fr hfr => mem_frames.mpr ⟨frames, by simp, hfr⟩
  refine ⟨fun stack hstack j d diff hfr => ?_, fun j g hj => ?_, fun j g d hj => ?_,
    fun j g d hj => ?_⟩
  · rcases List.mem_append.mp hstack with hstack | hstack
    · exact hw.refills stack hstack j d diff hfr
    · obtain rfl := List.mem_singleton.mp hstack
      exact hc.refills hfr
  · have hj : s'.filters[j]? = some (.shaping (.burst g)) := hj
    rcases hc.shaping_eq hj rfl id (by simp) with
      hj | ⟨rfl, ⟨f, f', -, -, rfl⟩ | ⟨f, d, b, diff, -, heq, -⟩⟩
    · refine (hw.bursts j g hj).imp_right ?_
      rintro ⟨fr, hfr, hmem⟩
      exact ⟨fr, hfr, hold fr hmem⟩
    · exact Or.inr ⟨.init j, by simp [burstFrames], hnew _ List.mem_cons_self⟩
    · cases heq
  · have hj : s'.filters[j]? = some (.shaping (.tokenBucketFilter g)) := hj
    rcases hc.shaping_eq hj rfl id (by simp) with
      hj | ⟨rfl, ⟨f, f', -, heq, -⟩ | ⟨f, d₀, b, diff, hi, heq, rfl⟩⟩
    · exact (hw.ticks j g d hj).imp_right (hold _)
    · cases heq
    · cases heq
      rw [TokenBucketFilter.bucket_setBucket_apply]
      split
      · rename_i hd
        exact Or.inr (hnew _ (by simp [hd]))
      · exact (hw.ticks j f d hi).imp_right (hold _)
  · have hj : s'.filters[j]? = some (.shaping (.tokenBucketFilter g)) := hj
    rcases hc.shaping_eq hj rfl id (by simp) with
      hj | ⟨rfl, ⟨f, f', -, heq, -⟩ | ⟨f, d₀, b, diff, hi, heq, rfl⟩⟩
    · exact (hw.sends j g d hj).imp (fun h => h.congr rfl rfl (hlen j g d hj)) (hold _)
    · cases heq
    · cases heq
      rw [TokenBucketFilter.bucket_setBucket_apply]
      split
      · rename_i hd
        exact Or.inr (hnew _ (by simp [hd]))
      · exact (hw.sends j f d hi).imp (fun h => h.congr rfl rfl (hlen j f d hi)) (hold _)

/-- **One step keeps the filters awake.** -/
theorem Wakeful.step (hw : s.Wakeful) (run : Runs acceptMode L h s) {e : LockedEvent}
    (hs : s.step e = some s') : s'.Wakeful := by
  have hlen : KeepsLengths s s' :=
    fun i f d hi p hp => getPacketLen_step hs (run.lt_of_queue hi hp)
  cases step_cases hs with
  | arrive pkt hset hidle =>
    have hold : ∀ fr ∈ s.frames, fr ∈ LockedChain.frames { s with
        pool := s.pool.add pkt.toParentPacket
        headers := Function.update s.headers s.pool.packets.next pkt
        threads := s.threads.set 0 [.handle 0 s.pool.packets.next] } := by
      intro fr hfr
      have hcount := count_frames_arrive hidle pkt fr
      have := Multiset.count_pos.mpr hfr
      exact Multiset.count_pos.mp (by omega)
    refine ⟨fun stack hstack i d diff hmem => ?_, fun i f hi => ?_, fun i f d hi => ?_,
      fun i f d hi => ?_⟩
    · rcases List.mem_or_eq_of_mem_set hstack with hstack | rfl
      · exact hw.refills stack hstack i d diff hmem
      · simp at hmem
    · refine (hw.bursts i f hi).imp_right ?_
      rintro ⟨fr, hfr, hmem⟩
      exact ⟨fr, hfr, hold fr hmem⟩
    · exact (hw.ticks i f d hi).imp_right (hold _)
    · exact (hw.sends i f d hi).imp (fun h => h.congr rfl rfl (hlen i f d hi)) (hold _)
  | run r now ht hc => exact hw.run ht hc hlen
  | task hc => exact hw.task hc hlen

end Frames

theorem Runs.wakeful (run : Runs acceptMode L h s) (harmed : ∀ f ∈ L, f.Armed) : s.Wakeful := by
  induction run with
  | @start s hs =>
    have hall : ∀ f ∈ s.filters, f.Armed := by
      obtain ⟨stage, hfilters⟩ := hs.filters
      intro f hf
      rw [hfilters, wrap] at hf
      cases acceptMode with
      | true =>
        simp only [if_true, List.cons_append, List.mem_cons, List.mem_append, List.not_mem_nil,
          or_false] at hf
        rcases hf with rfl | hf | rfl
        · trivial
        · exact harmed f hf
        · trivial
      | false =>
        simp only [Bool.false_eq_true, if_false, List.cons_append, List.mem_cons, List.mem_append,
          List.not_mem_nil, or_false] at hf
        rcases hf with rfl | hf | rfl
        · trivial
        · exact harmed f hf
        · trivial
    refine ⟨fun stack hstack i d diff hmem => ?_, fun i f hi => ?_, fun i f d hi => ?_,
      fun i f d hi => Or.inl fun p rest hp => ?_⟩
    · rw [hs.threads] at hstack
      obtain rfl := List.mem_singleton.mp hstack
      cases hmem
    · exact Or.inl (hall _ (List.mem_of_getElem? hi))
    · exact Or.inl (hall _ (List.mem_of_getElem? hi) d)
    · obtain ⟨hin, hout⟩ := hs.started _ (List.mem_of_getElem? hi)
      have hempty : (f.bucket d).queue = [] := by cases d <;> assumption
      rw [hempty] at hp
      cases hp
  | step run hs ih => exact ih.step run hs

/-! ## When the threads are at rest -/

/-- With the task the filter `f` goes on with what the packet `p` waits for in it: with the
first packet of its delay line or of the output stage, with its burst, or with the bucket that
`p` is in. -/
inductive Wakes (f : RouterFilter) (p : PacketPtr) : PoolTask → Prop
  | popHandler {l : DelayLine PacketPtr} {first : PacketPtr} {k : Nat} (now : Nat) :
      f.line = some l → p ∈ l.inOrder → l.inOrder.head? = some first →
      l.posted[k]? = some (.popHandler, .ok first) → Wakes f p (.popHandler k now)
  | expire {l : DelayLine PacketPtr} {first : PacketPtr} {left : Int} {k : Nat} (now : Nat) :
      f.line = some l → p ∈ l.inOrder → l.inOrder.head? = some first →
      l.timers[k]? = some (first, left) → Wakes f p (.timeout k now)
  | burst {g : Burst PacketPtr} {k : Nat} (now : Nat) : f = .shaping (.burst g) →
      p ∈ g.queue → k < g.timers.length → Wakes f p (.timeout k now)
  | run {g : TokenBucketFilter PacketPtr} {d : Bool} {k : Nat}
      (reads : TokenBucketFilter.Readings) : f = .shaping (.tokenBucketFilter g) →
      p ∈ (g.bucket d).queue → k < (g.bucket d).timers.length → Wakes f p (.run d k reads)
  | popOutput {stage : OutputStage PacketPtr} {first : PacketPtr} {k : Nat} (run : PopRun) :
      f = .outputLibnet stage → p ∈ stage.waiting → stage.waiting.head? = some first →
      stage.posted[k]? = some (.popHandler, .ok first) → Wakes f p (.popOutput k (.ok first) run)

/-- Something is pending with which the filter at `i` goes on with what `p` waits for. -/
def WokenFor (s : LockedChain) (i : Nat) (p : PacketPtr) : Prop :=
  ∃ f task s', s.filters[i]? = some f ∧ Wakes f p task ∧ s.step (.task i task) = some s'

theorem Wakes.woken {f : RouterFilter} {p : PacketPtr} {task : PoolTask} {i : Nat}
    (h : Wakes f p task) (hi : s.filters[i]? = some f) : s.WokenFor i p := by
  suffices hbegins : (s.beginTask i task).isSome by
    obtain ⟨o, ho⟩ := Option.isSome_iff_exists.mp hbegins
    exact ⟨f, task, { o.1 with threads := o.1.threads ++ [o.2] }, hi, h, by rw [step, ho]; rfl⟩
  cases h with
  | popHandler now hl hp hfirst hposted =>
    -- the kinds of delay filter differ in their delays only
    cases f with
    | shaping g =>
      cases g with
      | staticDelay g | dynamicDelay g =>
        obtain rfl := Option.some.inj hl
        simp only [beginTask, hi, StaticDelay.popHandler, DynamicDelay.popHandler,
          DelayLine.popHandler, hposted, Option.map_some]
        rfl
      | loss | burst | dynamicLoss | tokenBucketFilter => cases hl
    | input | inputDrop | nat | output | outputLibnet => cases hl
  | expire now hl hp hfirst htimers =>
    cases f with
    | shaping g =>
      cases g with
      | staticDelay g | dynamicDelay g =>
        obtain rfl := Option.some.inj hl
        simp only [beginTask, hi, DelayLine.expire, htimers, Option.map_some]
        rfl
      | loss | burst | dynamicLoss | tokenBucketFilter => cases hl
    | input | inputDrop | nat | output | outputLibnet => cases hl
  | burst now hf hp hk =>
    subst hf
    simp only [beginTask, hi, if_pos hk]
    rfl
  | run reads hf hp hk =>
    subst hf
    simp only [beginTask, hi, if_pos hk]
    rfl
  | popOutput run hf hp hfirst hposted =>
    subst hf
    simp only [beginTask, hi, hposted, if_true]
    rfl

/-- A delay filter that holds packets, and forwards none, will be woken. -/
theorem Served.wokenFor (hs : s.Served) (hrest : s.frames = 0) {i : Nat} {f : RouterFilter}
    {l : DelayLine PacketPtr} (hi : s.filters[i]? = some f) (hl : f.line = some l) {p : PacketPtr}
    (hp : p ∈ l.inOrder) : s.WokenFor i p := by
  obtain ⟨sv, hserves⟩ : ∃ sv, l.Serves sv l.inOrder := by
    rcases hs i f l hi hl with ⟨-, hserves⟩ | ⟨hone, -⟩
    · exact hserves
    · rw [hrest] at hone
      cases hone
  generalize horder : l.inOrder = held at hserves
  cases hserves with
  | idle =>
    rw [horder] at hp
    cases hp
  | posted hcallback hposted =>
    exact (Wakes.popHandler (k := 0) 0 hl hp (congrArg List.head? horder)
      (congrArg (·[0]?) hposted)).woken hi
  | armed hcallback hposted htimers =>
    exact (Wakes.expire (k := 0) 0 hl hp (congrArg List.head? horder)
      (congrArg (·[0]?) htimers)).woken hi

end LockedChain

open LockedChain

/-- **No packet is stranded.**  When the threads have nothing left to do, for every packet
that a filter holds there is something pending with which that filter goes on with what the
packet waits for, and a bucket has not the tokens for its first packet.  Only an output stage
may hold packets for ever: where a run of `popHandler` did not come to its end. -/
theorem nothing_stranded {acceptMode : Bool} {L : List RouterFilter} {h : List LockedEvent}
    {s : LockedChain} (run : Runs acceptMode L h s) (harmed : ∀ f ∈ L, f.Armed)
    (hrest : ∀ stack ∈ s.threads, stack = []) {i : Nat} {f : RouterFilter}
    (hi : s.filters[i]? = some f) {p : PacketPtr} (hp : p ∈ f.held) :
    (s.WokenFor i p ∨ ∃ stage, f = .outputLibnet stage ∧ stage.queue.callback = none ∧
      stage.posted = []) ∧
    ∀ g d, f = .shaping (.tokenBucketFilter g) → (g.bucket d).Waits s.pool.getPacketLen := by
  have hnone : ∀ e, e ∉ s.frames := by
    intro e he
    obtain ⟨stack, hstack, hmem⟩ := mem_frames.mp he
    rw [hrest stack hstack] at hmem
    cases hmem
  have hframes : s.frames = 0 := Multiset.eq_zero_of_forall_notMem hnone
  have hw := run.wakeful harmed
  refine ⟨?_, ?_⟩
  · have hline : ∀ l, f.line = some l → s.WokenFor i p := by
      intro l hl
      rw [held_of_line hl, l.held_eq_inOrder] at hp
      exact run.served.wokenFor hframes hi hl hp
    cases f with
    | shaping g =>
      cases g with
      | staticDelay g | dynamicDelay g => exact Or.inl (hline _ rfl)
      | burst g =>
        have htimers := (hw.bursts i g hi).resolve_right fun ⟨e, _, he⟩ => hnone e he
        exact Or.inl ((Wakes.burst 0 rfl hp (List.length_pos_iff.mpr htimers)).woken hi)
      | tokenBucketFilter g =>
        -- each bucket has a timer of its own
        have hbucket : ∃ d, p ∈ (g.bucket d).queue := by
          rcases Multiset.mem_add.mp hp with hin | hout
          · exact ⟨true, hin⟩
          · exact ⟨false, hout⟩
        obtain ⟨d, hd⟩ := hbucket
        have htimers := (hw.ticks i g d hi).resolve_right (hnone _)
        exact Or.inl ((Wakes.run ⟨0, 0⟩ rfl hd (List.length_pos_iff.mpr htimers)).woken hi)
      | loss | dynamicLoss => exact absurd hp (Multiset.notMem_zero p)
    | outputLibnet stage =>
      have hwaiting : p ∈ stage.waiting := hp
      cases (run.staged i stage hi).2 with
      | registered hcallback hqueue hposted =>
        simp [OutputStage.waiting, hqueue, hposted] at hwaiting
      | posted data hcallback hposted =>
        have hfirst : stage.waiting.head? = some data := by simp [OutputStage.waiting, hposted]
        exact Or.inl ((Wakes.popOutput ⟨true, none, true⟩ rfl hwaiting hfirst
          (congrArg (·[0]?) hposted)).woken hi)
      | lost hcallback hposted => exact Or.inr ⟨stage, rfl, hcallback, hposted⟩
    | input | inputDrop | nat | output => exact absurd hp (Multiset.notMem_zero p)
  · rintro g d rfl
    exact (hw.sends i g d hi).resolve_right (hnone _)

/-- The packet of `collecting`, while the burst is on. -/
theorem nothing_stranded_collecting :
    ∃ h s, Runs false collecting h s ∧ s.WokenFor 1 0 := by
  have run : Runs false collecting _ _ :=
    Run.of_replay LockedChain.step (fun _ _ _ h => h)
      ((collectingEvents (.ofAddresses false 1 2 3 4)).take 4)
      (collecting_starts fun _ => .ofAddresses false 1 2 3 4) rfl
  have harmed : ∀ f ∈ collecting, f.Armed := by
    intro f hf
    obtain rfl := List.mem_singleton.mp hf
    simp [RouterFilter.Armed]
  obtain ⟨hwoken, -⟩ := nothing_stranded run harmed (by decide) (i := 1) rfl (p := 0)
    (Multiset.mem_singleton_self 0)
  refine ⟨_, _, run, hwoken.resolve_right ?_⟩
  rintro ⟨stage, hstage, -⟩
  cases hstage

end ShapingRouter
