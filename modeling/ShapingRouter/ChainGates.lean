import Mathlib
import ShapingRouter.ChainProgress
import ShapingRouter.DelayTiming

/-! # Who may call the filters behind a gate

A delay filter forwards one packet at a time, and asks for the next one when the call has
come back.  A bucket forwards with its mutex held.  So behind such a filter, a gate, a
thread that carries packets has a frame to do that no other thread has: the `asyncPop` of
the delay filter, or the unlock of the bucket, of which there is one for each direction.
Before the first gate there is the packet thread alone.

`Burst` is no gate: it lets a packet pass while it flushes.  In a chain without it, two
threads never carry packets of one direction between the same gates (`one_thread_alone`).
-/

namespace ShapingRouter
open Library

/-! ## Delay lines -/

namespace DelayLine
variable {π : Type} {l l' : DelayLine π} {sv : Serving π} {held : List π}

/-- What the line holds, in the order in which it will be forwarded. -/
def inOrder (l : DelayLine π) : List π :=
  l.timers.map (·.1) ++ AsyncQueue.handedOver l.posted ++ l.queue.theQueue

theorem held_eq_inOrder (l : DelayLine π) : l.held = l.inOrder := by
  have htimers : holdings (fun t : π × Int => {t.1}) l.timers = ↑(l.timers.map (·.1)) := by
    induction l.timers with
    | nil => rfl
    | cons timer timers ih =>
      rw [holdings_cons, ih, List.map_cons, Multiset.singleton_add, Multiset.cons_coe]
  rw [held, holdings_carried, htimers, inOrder, ← Multiset.coe_add, ← Multiset.coe_add]
  abel

/-- A packet of the line is being forwarded. -/
def Rests (l : DelayLine π) : Prop := l.queue.callback = none ∧ l.posted = [] ∧ l.timers = []

theorem Serves.inOrder_eq (hs : l.Serves sv held) : l.inOrder = held := by
  cases hs with
  | idle hcallback hqueue hposted htimers =>
    simp [inOrder, hqueue, hposted, htimers, AsyncQueue.handedOver]
  | posted hcallback hposted htimers => simp [inOrder, hposted, htimers, AsyncQueue.handedOver]
  | armed hcallback hposted htimers => simp [inOrder, hposted, htimers, AsyncQueue.handedOver]

theorem Rests.inOrder_eq (hr : l.Rests) : l.inOrder = l.queue.theQueue := by
  simp [inOrder, hr.2.1, hr.2.2, AsyncQueue.handedOver]

theorem Rests.handlePacket (hr : l.Rests) (pkt : π) : (l.handlePacket pkt).Rests := by
  have hpush := AsyncQueue.push_of_none l.isOpen hr.1 pkt
  refine ⟨?_, ?_, hr.2.2⟩
  · simp [DelayLine.handlePacket, hpush, hr.1]
  · simp [DelayLine.handlePacket, hpush, hr.2.1]

theorem inOrder_handlePacket (l : DelayLine π) (pkt : π) :
    (l.handlePacket pkt).inOrder = l.inOrder ++ [pkt] := by
  have hdata := AsyncQueue.push_data l.isOpen pkt
  simp only [inOrder, DelayLine.handlePacket, AsyncQueue.handedOver_append, List.append_assoc, hdata]

theorem inOrder_asyncPop (l : DelayLine π) : l.asyncPop.inOrder = l.inOrder := by
  have hdata := l.queue.asyncPop_data DelayCallback.popHandler
  simp only [inOrder, asyncPop, AsyncQueue.handedOver_append, List.append_assoc, hdata]

/-- The timer of the first packet expires: the line rests. -/
theorem Serves.expire (hs : l.Serves sv held) {k : Nat} {pkt : π}
    (h : l.expire k = some (l', pkt)) : l.inOrder = pkt :: l'.inOrder ∧ l'.Rests := by
  unfold DelayLine.expire at h
  cases hs with
  | idle hcallback hqueue hposted htimers => simp [htimers] at h
  | posted hcallback hposted htimers => simp [htimers] at h
  | @armed first left hcallback hposted htimers =>
    cases k with
    | succ k => simp [htimers] at h
    | zero =>
      simp only [htimers, List.getElem?_cons_zero, Option.some.injEq, Prod.mk.injEq] at h
      obtain ⟨rfl, rfl⟩ := h
      exact ⟨by simp [inOrder, htimers], hcallback, hposted, rfl⟩

theorem Rests.not_expire (hr : l.Rests) {k : Nat} : l.expire k = none := by
  simp [DelayLine.expire, hr.2.2]

theorem Rests.not_popHandler (hr : l.Rests) {delay : Int} {age : π → Int} {k : Nat} :
    l.popHandler delay age k = none := by
  simp [DelayLine.popHandler, hr.2.1]

end DelayLine

/-! ## Gates -/

/-- The frame that a thread has still to do which forwards packets of a direction for the
filter at `i`, if the filter is a gate. -/
def endFrame (i : Nat) (isIngoing : Bool) : FilterClass → Option ChainFrame
  | .TokenBucketFilter => some (.unlock i isIngoing)
  | .StaticDelay | .DynamicDelay => some (.asyncPop i)
  | _ => none

/-- That of the last gate before the filter at a position. -/
def gateFrame (cls : List FilterClass) (isIngoing : Bool) : Nat → Option ChainFrame
  | 0 => none
  | i + 1 => (cls[i]?.bind (endFrame i isIngoing)).or (gateFrame cls isIngoing i)

theorem gateFrame_eq_some {cls : List FilterClass} {d : Bool} {i : Nat} {e : ChainFrame}
    (h : gateFrame cls d i = some e) : ∃ g < i, ∃ c, cls[g]? = some c ∧ endFrame g d c = some e := by
  induction i with
  | zero => cases h
  | succ i ih =>
    rcases Option.or_eq_some_iff.mp h with hlast | ⟨-, hbefore⟩
    · obtain ⟨c, hc, he⟩ := Option.bind_eq_some_iff.mp hlast
      exact ⟨i, Nat.lt_succ_self i, c, hc, he⟩
    · obtain ⟨g, hg, hcls⟩ := ih hbefore
      exact ⟨g, Nat.lt_succ_of_lt hg, hcls⟩

namespace LockedChain
variable {s s' : LockedChain} {acceptMode : Bool} {L : List RouterFilter}

/-- The classes of the filters. -/
def classes (s : LockedChain) : List FilterClass := s.filters.map RouterFilter.cls

/-- What the threads have still to do. -/
def frames (s : LockedChain) : Multiset ChainFrame :=
  holdings (fun stack : List ChainFrame => (stack : Multiset ChainFrame)) s.threads

theorem mem_frames {frame : ChainFrame} :
    frame ∈ s.frames ↔ ∃ stack ∈ s.threads, frame ∈ stack := by
  rw [frames, mem_holdings]
  constructor
  · rintro ⟨t, stack, ht, hframe⟩
    exact ⟨stack, List.mem_of_getElem? ht, hframe⟩
  · rintro ⟨stack, hstack, hframe⟩
    obtain ⟨t, ht⟩ := List.mem_iff_getElem?.mp hstack
    exact ⟨t, stack, ht, hframe⟩

theorem classes_of_getElem? {i : Nat} {f : RouterFilter} (hi : s.filters[i]? = some f) :
    s.classes[i]? = some f.cls := by
  simp [classes, hi]

/-- Behind a filter that is no gate the last gate is that before it. -/
theorem gateFrame_succ {i : Nat} {f : RouterFilter} {d : Bool} (hi : s.filters[i]? = some f)
    (hgate : endFrame i d f.cls = none) :
    gateFrame s.classes d (i + 1) = gateFrame s.classes d i := by
  simp [gateFrame, classes_of_getElem? hi, hgate]

theorem gateFrame_of_gate {i : Nat} {f : RouterFilter} {d : Bool} {e : ChainFrame}
    (hi : s.filters[i]? = some f) (hgate : endFrame i d f.cls = some e) :
    gateFrame s.classes d (i + 1) = some e := by
  simp [gateFrame, classes_of_getElem? hi, hgate]

/-- The thread `t`, which has `rest` to do afterwards, may hand a packet to the filter at
`i`. -/
def MayForward (s : LockedChain) (t i : Nat) (p : PacketPtr) (rest : List ChainFrame) : Prop :=
  match gateFrame s.classes (s.pool.isIngoing p) i with
  | none => t = 0
  | some e => e ∈ rest

/-- Of the thread `t`, which has the stack to do. -/
def Entitled (s : LockedChain) (t : Nat) : List ChainFrame → Prop
  | [] => True
  | frame :: rest => (∀ i p, frame = .handle i p → s.MayForward t i p rest) ∧ s.Entitled t rest

theorem MayForward.mono {t i : Nat} {p : PacketPtr} {rest rest' : List ChainFrame}
    (h : s.MayForward t i p rest) (hsub : ∀ e ∈ rest, e ∈ rest') : s.MayForward t i p rest' := by
  unfold MayForward at h ⊢
  split
  · rename_i hnone
    simpa only [hnone] using h
  · rename_i e he
    simp only [he] at h
    exact hsub e h

/-- Packets keep their direction, and filters their class. -/
theorem MayForward.congr {t i : Nat} {p : PacketPtr} {rest : List ChainFrame}
    (hcls : s'.classes = s.classes) (hdir : s'.pool.isIngoing p = s.pool.isIngoing p)
    (h : s.MayForward t i p rest) : s'.MayForward t i p rest := by
  unfold MayForward at h ⊢
  rwa [hcls, hdir]

theorem Entitled.congr {t : Nat} (hcls : s'.classes = s.classes) {stack : List ChainFrame}
    (hdir : ∀ p ∈ carriedBy stack, s'.pool.isIngoing p = s.pool.isIngoing p)
    (h : s.Entitled t stack) : s'.Entitled t stack := by
  induction stack with
  | nil => trivial
  | cons frame rest ih =>
    refine ⟨fun i p hframe => ?_, ih (fun p hp => hdir p ?_) h.2⟩
    · subst hframe
      exact (h.1 i p rfl).congr hcls (hdir p (by simp [ChainFrame.carried]))
    · rw [carriedBy_cons]
      exact Multiset.mem_add.mpr (Or.inr hp)

theorem Entitled.of_mem {t : Nat} {stack : List ChainFrame} (h : s.Entitled t stack) {i : Nat}
    {p : PacketPtr} (hp : .handle i p ∈ stack) : s.MayForward t i p stack := by
  induction stack with
  | nil => cases hp
  | cons frame rest ih =>
    rcases List.mem_cons.mp hp with rfl | hp
    · exact (h.1 i p rfl).mono fun e he => List.mem_cons_of_mem _ he
    · exact (ih h.2 hp).mono fun e he => List.mem_cons_of_mem _ he

/-- Packets are put on a stack that entitles the thread to forward them. -/
theorem Entitled.handles {t i : Nat} {ps : List PacketPtr} {rest : List ChainFrame}
    (hps : ∀ p ∈ ps, s.MayForward t i p rest) (h : s.Entitled t rest) :
    s.Entitled t (ps.map (.handle i) ++ rest) := by
  induction ps with
  | nil => exact h
  | cons p ps ih =>
    refine ⟨fun i' p' hframe => ?_, ih fun q hq => hps q (List.mem_cons_of_mem _ hq)⟩
    obtain ⟨rfl, rfl⟩ := ChainFrame.handle.inj hframe
    exact (hps _ List.mem_cons_self).mono fun e he => List.mem_append_right _ he

/-! ## The invariant -/

/-- Whether a delay filter serves packets, or one of its packets is being forwarded. -/
def Attended (s : LockedChain) (i : Nat) (l : DelayLine PacketPtr) : Prop :=
  (s.frames.count (.asyncPop i) = 0 ∧ ∃ sv, l.Serves sv l.inOrder) ∨
    (s.frames.count (.asyncPop i) = 1 ∧ l.Rests)

/-- Every delay filter is attended to. -/
def Served (s : LockedChain) : Prop :=
  ∀ (i : Nat) (f : RouterFilter) (l : DelayLine PacketPtr), s.filters[i]? = some f →
    f.line = some l → s.Attended i l

/-- **What a chain without `Burst` keeps**: threads carry packets where they may, a mutex is
held once, each delay filter forwards one packet at a time, and each bucket holds packets
of its direction. -/
structure Gated (s : LockedChain) : Prop where
  entitled : ∀ (t : Nat) (stack : List ChainFrame), s.threads[t]? = some stack →
    s.Entitled t stack
  locked : ∀ i d, s.frames.count (.unlock i d) ≤ 1
  attended : s.Served
  directed : ∀ (i : Nat) (f : TokenBucketFilter PacketPtr) (d : Bool),
    s.filters[i]? = some (.shaping (.tokenBucketFilter f)) →
      ∀ p ∈ (f.bucket d).queue, s.pool.isIngoing p = d

/-- The end frame of a gate is there once at most. -/
theorem Gated.count_le (hg : s.Gated) {d : Bool} {i : Nat} {e : ChainFrame}
    (he : gateFrame s.classes d i = some e) : s.frames.count e ≤ 1 := by
  obtain ⟨g, -, c, hc, he⟩ := gateFrame_eq_some he
  obtain ⟨f, hf, rfl⟩ := by simpa [classes] using hc
  have hdelay : ∀ {l : DelayLine PacketPtr}, f.line = some l →
      s.frames.count (.asyncPop g) ≤ 1 := by
    intro l hl
    rcases hg.attended g f l hf hl with ⟨hcount, -⟩ | ⟨hcount, -⟩ <;> omega
  cases f with
  | shaping f =>
    cases f with
    | tokenBucketFilter f =>
      obtain rfl := Option.some.inj he
      exact hg.locked g d
    | staticDelay f | dynamicDelay f =>
      obtain rfl := Option.some.inj he
      exact hdelay rfl
    | loss | burst | dynamicLoss => cases he
  | input | inputDrop | nat | output | outputLibnet => cases he

/-- **One thread alone** carries packets of one direction between two gates. -/
theorem Gated.alone (hg : s.Gated) {t t' : Nat} {stack stack' : List ChainFrame}
    (ht : s.threads[t]? = some stack) (ht' : s.threads[t']? = some stack') {i j : Nat}
    {p q : PacketPtr} (hp : .handle i p ∈ stack) (hq : .handle j q ∈ stack')
    (hdir : s.pool.isIngoing q = s.pool.isIngoing p)
    (hgate : gateFrame s.classes (s.pool.isIngoing p) j =
      gateFrame s.classes (s.pool.isIngoing p) i) : t' = t := by
  have hmay := (hg.entitled t stack ht).of_mem hp
  have hmay' := (hg.entitled t' stack' ht').of_mem hq
  unfold MayForward at hmay hmay'
  rw [hdir, hgate] at hmay'
  cases he : gateFrame s.classes (s.pool.isIngoing p) i with
  | none =>
    simp only [he] at hmay hmay'
    rw [hmay, hmay']
  | some e =>
    simp only [he] at hmay hmay'
    exact place_unique (hg.count_le he) ht (Multiset.mem_coe.mpr hmay) ht'
      (Multiset.mem_coe.mpr hmay')

/-! ## Steps -/

/-- No filter of the chain is a `Burst`. -/
theorem Shape.cls_ne_burst (hshape : s.Shape acceptMode L) (hL : ∀ f ∈ L, f.cls ≠ .Burst)
    {i : Nat} {f : RouterFilter} (hi : s.filters[i]? = some f) : f.cls ≠ .Burst := by
  intro hcls
  have hmem : FilterClass.Burst ∈ s.filters.map RouterFilter.cls :=
    List.mem_map.mpr ⟨f, List.mem_of_getElem? hi, hcls⟩
  rw [hshape] at hmem
  simp only [List.cons_append, List.mem_cons, List.mem_append, List.mem_map, List.not_mem_nil,
    or_false] at hmem
  rcases hmem with hfirst | ⟨g, hg, hburst⟩ | hlast
  · split at hfirst <;> cases hfirst
  · exact hL g hg hburst
  · split at hlast <;> cases hlast

theorem endFrame_of_clear {f : RouterFilter} (hf : f.Clear) (i : Nat) (d : Bool) :
    endFrame i d f.cls = none := by
  cases f with
  | shaping g => cases g <;> first | rfl | exact hf.elim
  | outputLibnet => exact hf.elim
  | input | inputDrop | nat | output => rfl

theorem line_of_clear {f : RouterFilter} (hf : f.Clear) : f.line = none := by
  cases f with
  | shaping g => cases g <;> first | rfl | exact hf.elim
  | outputLibnet => exact hf.elim
  | input | inputDrop | nat | output => rfl

theorem isIngoing_add {w : PacketPool} {pkt : ParentPacket} {p : PacketPtr}
    (hp : p < w.packets.next) : (w.add pkt).isIngoing p = w.isIngoing p := by
  simp [PacketPool.isIngoing, PacketPool.add, Heap.alloc, Nat.ne_of_lt hp]

/-- The packets that have come in keep their direction. -/
theorem StepCases.isIngoing {e : LockedEvent} (hc : StepCases s e s') {p : PacketPtr}
    (hp : p < s.pool.packets.next) : s'.pool.isIngoing p = s.pool.isIngoing p := by
  rcases hc.keeps with ⟨pkt, -, hpool⟩ | ⟨q, hkeeps⟩
  · rw [hpool]
    exact isIngoing_add hp
  · exact hkeeps.isIngoing p

section Frames
variable {frame : ChainFrame} {frames : List ChainFrame}

/-- A thread goes on as it may. -/
theorem FrameCases.entitled (hc : FrameCases s frame s' frames) (hshape : s.Shape acceptMode L)
    (hL : ∀ f ∈ L, f.cls ≠ .Burst) (hg : s.Gated) {t : Nat} {rest : List ChainFrame}
    (h : s.Entitled t (frame :: rest)) : s.Entitled t (frames ++ rest) := by
  obtain ⟨htop, hrest⟩ := h
  cases hc with
  | @passOn i p f f' w headers hi hf =>
    refine ⟨fun i' p' hframe => ?_, hrest⟩
    obtain ⟨rfl, rfl⟩ := ChainFrame.handle.inj hframe
    have hmay := htop i p rfl
    unfold MayForward at hmay ⊢
    rwa [gateFrame_succ hi (endFrame_of_clear hf.1 i _)]
  | enter => exact ⟨fun i' p' hframe => (by cases hframe), hrest⟩
  | @trySend i f d hi =>
    rw [List.append_assoc]
    refine Entitled.handles (fun p hp => ?_) ⟨fun i' p' hframe => (by cases hframe), hrest⟩
    have hqueue : p ∈ (f.bucket d).queue := by
      rw [← TokenBucket.sendLoop_append s.pool.getPacketLen (f.bucket d).tokens (f.bucket d).queue]
      exact List.mem_append_left _ hp
    unfold MayForward
    rw [hg.directed i f d hi p hqueue, gateFrame_of_gate hi rfl]
    exact List.mem_cons_self
  | wake hi | push hi | turn hi | flush hi | flushed hi =>
    exact absurd rfl (hshape.cls_ne_burst hL hi)
  | keep | enqueue | output | bucket | unlock | asyncPop => exact hrest

/-- No frame leaves an `asyncPop` to do. -/
theorem FrameCases.count_asyncPop (hc : FrameCases s frame s' frames) (j : Nat) :
    frames.count (.asyncPop j) = 0 := by
  rw [List.count_eq_zero]
  intro hmem
  cases hc with
  | turn hi hq hframes => rcases hframes with rfl | rfl <;> simp at hmem
  | wake hi => split at hmem <;> simp at hmem
  | passOn | enter | flush | trySend => simp at hmem
  | keep | enqueue | output | push | flushed | bucket | unlock | asyncPop => cases hmem

/-- Only `trySend` leaves a mutex to unlock, which was free. -/
theorem FrameCases.count_unlock (hc : FrameCases s frame s' frames) (j : Nat) (d : Bool) :
    frames.count (.unlock j d) = 0 ∨ frames.count (.unlock j d) = 1 ∧ s.Free ⟨j, d⟩ := by
  have hno : ∀ {fs : List ChainFrame}, .unlock j d ∉ fs → fs.count (.unlock j d) = 0 :=
    fun h => List.count_eq_zero.mpr h
  cases hc with
  | @trySend i f d' hi hfree =>
    have hhandles : .unlock j d ∉ ((f.bucket d').trySend s.pool.getPacketLen).2.map
        (ChainFrame.handle (i + 1)) := by simp
    rw [List.count_append, hno hhandles, Nat.zero_add, List.count_singleton]
    by_cases hsame : (ChainFrame.unlock i d' == .unlock j d) = true
    · have heq := eq_of_beq hsame
      obtain ⟨rfl, rfl⟩ := ChainFrame.unlock.inj heq
      exact Or.inr ⟨if_pos hsame, hfree⟩
    · exact Or.inl (if_neg hsame)
  | turn hi hq hframes => exact Or.inl (hno (by rcases hframes with rfl | rfl <;> simp))
  | wake hi => exact Or.inl (hno (by split <;> simp))
  | passOn | enter | flush => exact Or.inl (hno (by simp))
  | keep | enqueue | output | push | flushed | bucket | unlock | asyncPop =>
    exact Or.inl (hno List.not_mem_nil)

theorem count_unlock_of_free {i : Nat} {d : Bool} (hfree : s.Free ⟨i, d⟩) :
    s.frames.count (.unlock i d) = 0 := by
  rw [Multiset.count_eq_zero, mem_frames]
  rintro ⟨stack, hstack, hmem⟩
  exact hfree stack hstack _ hmem rfl

/-- A filter of the chain after one was replaced. -/
theorem getElem?_set_cases {i j : Nat} {f' g : RouterFilter}
    (h : (s.filters.set i f')[j]? = some g) :
    (j = i ∧ g = f') ∨ (j ≠ i ∧ s.filters[j]? = some g) := by
  rw [List.getElem?_set] at h
  split at h
  · rename_i hij
    split at h
    · exact Or.inl ⟨hij.symm, (Option.some.inj h).symm⟩
    · cases h
  · rename_i hij
    exact Or.inr ⟨Ne.symm hij, h⟩

/-- The delay filters go on to serve their packets. -/
theorem FrameCases.attended (hc : FrameCases s frame s' frames) (hs : s.Served) {s'' : LockedChain}
    (hfilters : s''.filters = s'.filters)
    (hcount : ∀ j, s''.frames.count (.asyncPop j) + [frame].count (.asyncPop j) =
      s.frames.count (.asyncPop j)) (j : Nat) (g : RouterFilter) (l : DelayLine PacketPtr)
    (hj : s''.filters[j]? = some g) (hl : g.line = some l) : s''.Attended j l := by
  rw [hfilters] at hj
  -- the lines that no frame touches
  have hold : frame ≠ .asyncPop j → ∀ {l}, s.Attended j l → s''.Attended j l := by
    intro hne l hat
    have hsame := hcount j
    rw [List.count_eq_zero.mpr (by simpa using Ne.symm hne), Nat.add_zero] at hsame
    unfold Attended at hat ⊢
    rwa [hsame]
  have hkeep : ∀ {i : Nat} {f f' : RouterFilter}, s.filters[i]? = some f → f'.line = none →
      (s.filters.set i f')[j]? = some g → frame ≠ .asyncPop j → s''.Attended j l := by
    intro i f f' hi hnone hj hne
    rcases getElem?_set_cases hj with ⟨rfl, rfl⟩ | ⟨-, hj⟩
    · rw [hnone] at hl
      cases hl
    · exact hold hne (hs j g l hj hl)
  cases hc with
  | passOn hi hf hf' => exact hkeep hi (line_of_clear hf') hj (by simp)
  | keep hi hf hf' => exact hkeep hi (line_of_clear hf') hj (by simp)
  | @enqueue i p f f' l₀ hi hl₀ hl₀' =>
    rcases getElem?_set_cases hj with ⟨rfl, rfl⟩ | ⟨-, hj⟩
    · rw [hl₀'] at hl
      obtain rfl := Option.some.inj hl
      refine hold (by simp) ?_
      rcases hs j f l₀ hi hl₀ with ⟨hzero, sv, hserves⟩ | ⟨hone, hrests⟩
      · obtain ⟨sv', hserves', -⟩ := hserves.handlePacket p
        rw [← l₀.inOrder_handlePacket] at hserves'
        exact Or.inl ⟨hzero, sv', hserves'⟩
      · exact Or.inr ⟨hone, hrests.handlePacket p⟩
    · exact hold (by simp) (hs j g l hj hl)
  | output hi => exact hkeep hi rfl hj (by simp)
  | enter r hi => exact hkeep hi rfl hj (by simp)
  | wake hi => exact hold (by simp) (hs j g l hj hl)
  | push hi => exact hkeep hi rfl hj (by simp)
  | turn hi => exact hkeep hi rfl hj (by simp)
  | flush hi => exact hkeep hi rfl hj (by simp)
  | flushed hi => exact hkeep hi rfl hj (by simp)
  | bucket hi hq hframe =>
    exact hkeep hi rfl hj (by rcases hframe with ⟨diff, rfl, -⟩ | rfl <;> simp)
  | trySend hi => exact hkeep hi rfl hj (by simp)
  | unlock hi => exact hold (by simp) (hs j g l hj hl)
  | @asyncPop i f f' l₀ hi hl₀ hl₀' =>
    rcases getElem?_set_cases hj with ⟨rfl, rfl⟩ | ⟨hne, hj⟩
    · -- the token comes back to the line
      rw [hl₀'] at hl
      obtain rfl := Option.some.inj hl
      have hsame := hcount j
      rw [List.count_singleton_self] at hsame
      rcases hs j f l₀ hi hl₀ with ⟨hzero, -⟩ | ⟨hone, hrests⟩
      · omega
      · obtain ⟨sv, hserves, -⟩ := DelayLine.serves_asyncPop hrests.2.1 hrests.2.2
        rw [← hrests.inOrder_eq, ← l₀.inOrder_asyncPop] at hserves
        exact Or.inl ⟨by omega, sv, hserves⟩
    · exact hold (fun hframe => hne (ChainFrame.asyncPop.inj hframe).symm)
        (hs j g l hj hl)

/-- A bucket that changes holds packets of its direction still. -/
theorem directed_setBucket (hg : s.Gated) {i : Nat} {f : TokenBucketFilter PacketPtr} {d : Bool}
    {b : TokenBucket PacketPtr} (hi : s.filters[i]? = some (.shaping (.tokenBucketFilter f)))
    (hb : ∀ p ∈ b.queue, p ∈ (f.bucket d).queue ∨ s.pool.isIngoing p = d) (d' : Bool) :
    ∀ p ∈ ((f.setBucket d b).bucket d').queue, s.pool.isIngoing p = d' := by
  intro p hp
  rw [TokenBucketFilter.bucket_setBucket_apply] at hp
  split at hp
  · rename_i hd
    subst hd
    rcases hb p hp with hp | hp
    · exact hg.directed i f d' hi p hp
    · exact hp
  · exact hg.directed i f d' hi p hp

theorem FrameCases.directed (hc : FrameCases s frame s' frames) (hg : s.Gated) (j : Nat)
    (g : TokenBucketFilter PacketPtr) (d : Bool)
    (hj : s'.filters[j]? = some (.shaping (.tokenBucketFilter g))) :
    ∀ p ∈ (g.bucket d).queue, s.pool.isIngoing p = d := by
  have hold := hg.directed j g d
  have hkeep : ∀ {i : Nat} {f' : RouterFilter}, f' ≠ .shaping (.tokenBucketFilter g) →
      (s.filters.set i f')[j]? = some (.shaping (.tokenBucketFilter g)) →
      ∀ p ∈ (g.bucket d).queue, s.pool.isIngoing p = d := by
    intro i f' hne hj
    rcases getElem?_set_cases hj with ⟨-, hsame⟩ | ⟨-, hj⟩
    · exact absurd hsame.symm hne
    · exact hold hj
  have hchange : ∀ {i : Nat} {f : TokenBucketFilter PacketPtr} {d' : Bool}
      {b : TokenBucket PacketPtr}, s.filters[i]? = some (.shaping (.tokenBucketFilter f)) →
      (∀ p ∈ b.queue, p ∈ (f.bucket d').queue ∨ s.pool.isIngoing p = d') →
      (s.filters.set i (.shaping (.tokenBucketFilter (f.setBucket d' b))))[j]? =
        some (.shaping (.tokenBucketFilter g)) →
      ∀ p ∈ (g.bucket d).queue, s.pool.isIngoing p = d := by
    intro i f d' b hi hb hj
    rcases getElem?_set_cases hj with ⟨-, hsame⟩ | ⟨-, hj⟩
    · obtain rfl := ShapingFilter.tokenBucketFilter.inj (RouterFilter.shaping.inj hsame)
      exact directed_setBucket hg hi hb d
    · exact hold hj
  have hclear : ∀ {f' : RouterFilter}, f'.Clear → f' ≠ .shaping (.tokenBucketFilter g) := by
    rintro f' hf' rfl
    exact hf'
  have hline : ∀ {f' : RouterFilter} {l : DelayLine PacketPtr}, f'.line = some l →
      f' ≠ .shaping (.tokenBucketFilter g) := by
    rintro f' l hl rfl
    cases hl
  cases hc with
  | passOn hi hf hf' => exact hkeep (hclear hf') hj
  | keep hi hf hf' => exact hkeep (hclear hf') hj
  | enqueue hi hl hl' => exact hkeep (hline hl') hj
  | asyncPop hi hl hl' => exact hkeep (hline hl') hj
  | output | push | turn | flush | flushed => exact hkeep (by simp) hj
  | wake | unlock => exact hold hj
  | @enter i p f r hi =>
    refine hchange hi (fun q hq => ?_) hj
    unfold TokenBucket.enqueue at hq
    split at hq
    · rcases List.mem_append.mp hq with hq | hq
      · exact Or.inl hq
      · exact Or.inr (congrArg s.pool.isIngoing (List.mem_singleton.mp hq))
    · exact Or.inl hq
  | bucket hi hq => exact hchange hi (fun p hp => Or.inl (hq ▸ hp)) hj
  | @trySend i f d' hi =>
    refine hchange hi (fun p hp => Or.inl ?_) hj
    rw [← TokenBucket.sendLoop_append s.pool.getPacketLen (f.bucket d').tokens (f.bucket d').queue]
    exact List.mem_append_right _ hp

end Frames

section Tasks
variable {i : Nat} {task : PoolTask} {frames : List ChainFrame}

theorem endFrame_of_line {f : RouterFilter} {l : DelayLine PacketPtr} (hl : f.line = some l)
    (i : Nat) (d : Bool) : endFrame i d f.cls = some (.asyncPop i) := by
  cases f with
  | shaping g => cases g <;> first | rfl | cases hl
  | input | inputDrop | nat | output | outputLibnet => cases hl

/-- A thread that begins may go on. -/
theorem TaskCases.entitled (hc : TaskCases s i task s' frames) (t : Nat) :
    s.Entitled t frames := by
  cases hc with
  | @expire k now f f' l l' p hi hl =>
    refine ⟨fun i' p' hframe => ?_, fun i' p' hframe => (by cases hframe), trivial⟩
    obtain ⟨rfl, rfl⟩ := ChainFrame.handle.inj hframe
    unfold MayForward
    rw [gateFrame_of_gate hi (endFrame_of_line hl i _)]
    exact List.mem_cons_self
  | burst => exact ⟨fun i' p' hframe => (by cases hframe), trivial⟩
  | run =>
    exact ⟨fun i' p' hframe => (by cases hframe), fun i' p' hframe => (by cases hframe),
      fun i' p' hframe => (by cases hframe), trivial⟩
  | popHandler | curve | clear | popOutput => trivial

theorem TaskCases.count_unlock (hc : TaskCases s i task s' frames) (j : Nat) (d : Bool) :
    frames.count (.unlock j d) = 0 := by
  rw [List.count_eq_zero]
  intro hmem
  cases hc <;> simp at hmem

theorem TaskCases.attended (hc : TaskCases s i task s' frames) (hs : s.Served) {s'' : LockedChain}
    (hfilters : s''.filters = s'.filters)
    (hcount : ∀ j, s''.frames.count (.asyncPop j) =
      s.frames.count (.asyncPop j) + frames.count (.asyncPop j)) (j : Nat) (g : RouterFilter)
    (l : DelayLine PacketPtr) (hj : s''.filters[j]? = some g) (hl : g.line = some l) :
    s''.Attended j l := by
  rw [hfilters] at hj
  have hold : frames.count (.asyncPop j) = 0 → ∀ {l}, s.Attended j l → s''.Attended j l := by
    intro hzero l hat
    unfold Attended at hat ⊢
    rwa [hcount, hzero, Nat.add_zero]
  have hkeep : ∀ {f f' : RouterFilter}, s.filters[i]? = some f → f'.line = none →
      (s.filters.set i f')[j]? = some g → frames.count (.asyncPop j) = 0 → s''.Attended j l := by
    intro f f' hi hnone hj hzero
    rcases getElem?_set_cases hj with ⟨rfl, rfl⟩ | ⟨-, hj⟩
    · rw [hnone] at hl
      cases hl
    · exact hold hzero (hs j g l hj hl)
  cases hc with
  | @popHandler k now f f' l₀ l₁ delay hi hl₀ hpop hl₁ =>
    rcases getElem?_set_cases hj with ⟨rfl, rfl⟩ | ⟨-, hj⟩
    · rw [hl₁] at hl
      obtain rfl := Option.some.inj hl
      refine hold rfl ?_
      rcases hs j f l₀ hi hl₀ with ⟨hzero, sv, hserves⟩ | ⟨-, hrests⟩
      · obtain ⟨pkt, -, -, -, hserves'⟩ := hserves.popHandler hpop
        have hsame := hserves'.inOrder_eq
        rw [← hsame] at hserves'
        exact Or.inl ⟨hzero, _, hserves'⟩
      · rw [hrests.not_popHandler] at hpop
        cases hpop
    · exact hold rfl (hs j g l hj hl)
  | @expire k now f f' l₀ l₁ p hi hl₀ hexpire hl₁ =>
    rcases getElem?_set_cases hj with ⟨rfl, rfl⟩ | ⟨hne, hj⟩
    · rw [hl₁] at hl
      obtain rfl := Option.some.inj hl
      rcases hs j f l₀ hi hl₀ with ⟨hzero, sv, hserves⟩ | ⟨-, hrests⟩
      · refine Or.inr ⟨?_, (hserves.expire hexpire).2⟩
        rw [hcount, hzero]
        simp
      · rw [hrests.not_expire] at hexpire
        cases hexpire
    · exact hold (by simp [Ne.symm hne]) (hs j g l hj hl)
  | @curve task f f' l₀ hi hl₀ hl₁ =>
    rcases getElem?_set_cases hj with ⟨rfl, rfl⟩ | ⟨-, hj⟩
    · rw [hl₁] at hl
      obtain rfl := Option.some.inj hl
      exact hold rfl (hs j f l₀ hi hl₀)
    · exact hold rfl (hs j g l hj hl)
  | clear hi hf hf' => exact hkeep hi (line_of_clear hf') hj rfl
  | burst hi => exact hkeep hi rfl hj (by simp)
  | run hi => exact hkeep hi rfl hj (by simp)
  | popOutput hi => exact hkeep hi rfl hj rfl

theorem TaskCases.directed (hc : TaskCases s i task s' frames) (hg : s.Gated) (j : Nat)
    (g : TokenBucketFilter PacketPtr) (d : Bool)
    (hj : s'.filters[j]? = some (.shaping (.tokenBucketFilter g))) :
    ∀ p ∈ (g.bucket d).queue, s.pool.isIngoing p = d := by
  have hkeep : ∀ {f' : RouterFilter}, f' ≠ .shaping (.tokenBucketFilter g) →
      (s.filters.set i f')[j]? = some (.shaping (.tokenBucketFilter g)) →
      ∀ p ∈ (g.bucket d).queue, s.pool.isIngoing p = d := by
    intro f' hne hj
    rcases getElem?_set_cases hj with ⟨-, hsame⟩ | ⟨-, hj⟩
    · exact absurd hsame.symm hne
    · exact hg.directed j g d hj
  have hline : ∀ {f' : RouterFilter} {l : DelayLine PacketPtr}, f'.line = some l →
      f' ≠ .shaping (.tokenBucketFilter g) := by
    rintro f' l hl rfl
    cases hl
  cases hc with
  | popHandler delay hi hl hpop hl' => exact hkeep (hline hl') hj
  | expire hi hl hexpire hl' => exact hkeep (hline hl') hj
  | curve hi hl hl' => exact hkeep (hline hl') hj
  | clear hi hf hf' =>
    refine hkeep ?_ hj
    rintro rfl
    exact hf'
  | burst | popOutput => exact hkeep (by simp) hj
  | run hi hq =>
    rcases getElem?_set_cases hj with ⟨-, hsame⟩ | ⟨-, hj⟩
    · obtain rfl := ShapingFilter.tokenBucketFilter.inj (RouterFilter.shaping.inj hsame)
      exact directed_setBucket hg hi (fun p hp => Or.inl (hq ▸ hp)) d
    · exact hg.directed j g d hj

end Tasks

/-- What the threads have to do after one of them did its next frame. -/
theorem count_frames_run {t : Nat} {frame : ChainFrame} {rest frames : List ChainFrame}
    (ht : s.threads[t]? = some (frame :: rest)) (s₁ : LockedChain) (e : ChainFrame) :
    (LockedChain.frames { s₁ with threads := s.threads.set t (frames ++ rest) }).count e +
        [frame].count e = s.frames.count e + frames.count e := by
  have hset := congrArg (Multiset.count e)
    (holdings_set (fun stack : List ChainFrame => (stack : Multiset ChainFrame)) ht (frames ++ rest))
  rw [Multiset.count_add, Multiset.count_add, Multiset.coe_count, Multiset.coe_count,
    List.count_append, show frame :: rest = [frame] ++ rest from rfl, List.count_append] at hset
  simp only [LockedChain.frames]
  omega

/-- What they have to do when a packet has come. -/
theorem count_frames_arrive (hidle : s.threads[0]? = some []) (pkt : Packet) (e : ChainFrame) :
    (LockedChain.frames { s with
      pool := s.pool.add pkt.toParentPacket
      headers := Function.update s.headers s.pool.packets.next pkt
      threads := s.threads.set 0 [.handle 0 s.pool.packets.next] }).count e =
        s.frames.count e + [ChainFrame.handle 0 s.pool.packets.next].count e := by
  have hset := congrArg (Multiset.count e)
    (holdings_set (fun stack : List ChainFrame => (stack : Multiset ChainFrame)) hidle
      [.handle 0 s.pool.packets.next])
  rw [Multiset.count_add, Multiset.count_add, Multiset.coe_count, Multiset.coe_count,
    List.count_nil, Nat.add_zero] at hset
  exact hset

/-- What they have to do when a task has begun. -/
theorem count_frames_task {frames : List ChainFrame} (hthreads : s'.threads = s.threads ++ [frames])
    (e : ChainFrame) : s'.frames.count e = s.frames.count e + frames.count e := by
  simp [LockedChain.frames, hthreads, Multiset.count_add]

/-- **The delay filters are attended to**, with `Burst` in the chain and without. -/
theorem StepCases.served {e : LockedEvent} (hc : StepCases s e s') (hs : s.Served) : s'.Served := by
  cases hc with
  | arrive pkt hset hidle =>
    intro i f l hi hl
    have hat := hs i f l hi hl
    unfold Attended at hat ⊢
    rw [count_frames_arrive hidle]
    simpa using hat
  | @run t frame r now rest frames s₁ ht hc =>
    refine hc.attended hs rfl fun j => ?_
    have hsame := @count_frames_run s t frame rest frames ht s₁ (.asyncPop j)
    rwa [hc.count_asyncPop j, Nat.add_zero] at hsame
  | task hc => exact hc.attended hs rfl fun j => count_frames_task rfl _

/-- A packet that a bucket holds has come in. -/
theorem Runs.lt_of_queue {h : List LockedEvent} (run : Runs acceptMode L h s) {i : Nat}
    {f : TokenBucketFilter PacketPtr} {d : Bool}
    (hi : s.filters[i]? = some (.shaping (.tokenBucketFilter f))) {p : PacketPtr}
    (hp : p ∈ (f.bucket d).queue) : p < s.pool.packets.next := by
  have hheld : p ∈ RouterFilter.held (.shaping (.tokenBucketFilter f)) := by
    show p ∈ (↑f.inTb.queue + ↑f.outTb.queue : Multiset PacketPtr)
    rw [Multiset.mem_add, Multiset.mem_coe, Multiset.mem_coe]
    cases d with
    | true => exact Or.inl hp
    | false => exact Or.inr hp
  have hin : p ∈ s.inside := Multiset.mem_add.mpr (Or.inr (mem_holdings.mpr ⟨i, _, hi, hheld⟩))
  exact Multiset.mem_range.mp
    (Multiset.mem_of_le run.accounted (Multiset.mem_add.mpr (Or.inl hin)))

/-- **One step keeps the gates.** -/
theorem StepCases.gated {h : List LockedEvent} (run : Runs acceptMode L h s)
    (hL : ∀ f ∈ L, f.cls ≠ .Burst) {e : LockedEvent} (hc : StepCases s e s') (hg : s.Gated) :
    s'.Gated := by
  have hcls : s'.classes = s.classes := hc.map_cls
  have hserved := hc.served hg.attended
  have hcarried : ∀ {t : Nat} {stack : List ChainFrame}, s.threads[t]? = some stack →
      s'.Entitled t stack := fun ht => (hg.entitled _ _ ht).congr hcls
    fun p hp => hc.isIngoing (run.carried_once ht hp).1
  cases hc with
  | arrive pkt hset hidle =>
    refine ⟨fun t stack ht => ?_, fun i d => ?_, hserved, fun i f d hi p hp => ?_⟩
    · rw [List.getElem?_set] at ht
      split at ht
      · rename_i h0
        subst h0
        split at ht
        · obtain rfl := Option.some.inj ht
          refine ⟨fun i p hframe => ?_, trivial⟩
          obtain ⟨rfl, rfl⟩ := ChainFrame.handle.inj hframe
          rfl
        · cases ht
      · exact hcarried ht
    · rw [count_frames_arrive hidle]
      simpa using hg.locked i d
    · exact (isIngoing_add (run.lt_of_queue hi hp)).trans (hg.directed i f d hi p hp)
  | @run t frame r now rest frames s₁ ht hc =>
    have hshape := Runs.shape run
    have hpool : ∀ p, s₁.pool.isIngoing p = s.pool.isIngoing p := by
      intro p
      rcases hc.pool with hpool | ⟨i, q, -, hkeeps⟩
      · rw [hpool]
      · exact hkeeps.isIngoing p
    have hcount := @count_frames_run s t frame rest frames ht s₁
    refine ⟨fun t' stack ht' => ?_, fun i d => ?_, hserved, fun i f d hi p hp => ?_⟩
    · rw [List.getElem?_set] at ht'
      split at ht'
      · rename_i htt
        subst htt
        split at ht'
        · obtain rfl := Option.some.inj ht'
          exact (hc.entitled hshape hL hg (hg.entitled _ _ ht)).congr hcls fun p _ => hpool p
        · cases ht'
      · exact hcarried ht'
    · have hsame := hcount (.unlock i d)
      have hle := hg.locked i d
      rcases hc.count_unlock i d with hnone | ⟨hone, hfree⟩
      · omega
      · have hzero := count_unlock_of_free hfree
        omega
    · exact (hpool p).trans (hc.directed hg i f d hi p hp)
  | @task i task frames s₁ hc =>
    have hpool : ∀ p, s₁.pool.isIngoing p = s.pool.isIngoing p := by
      intro p
      rcases hc.pool with hpool | ⟨q, now, hpool⟩
      · rw [hpool]
      · rw [hpool]
        exact (s.pool.keeps_resetTimeStamp q now).isIngoing p
    refine ⟨fun t' stack ht' => ?_, fun i d => ?_, hserved, fun i f d hi p hp => ?_⟩
    · rcases Nat.lt_or_ge t' s.threads.length with hlt | hge
      · rw [List.getElem?_append_left hlt] at ht'
        exact hcarried ht'
      · rw [List.getElem?_append_right hge] at ht'
        obtain rfl := List.mem_singleton.mp (List.mem_of_getElem? ht')
        exact (hc.entitled t').congr hcls fun p _ => hpool p
    · rw [count_frames_task rfl, hc.count_unlock i d, Nat.add_zero]
      exact hg.locked i d
    · exact (hpool p).trans (hc.directed hg i f d hi p hp)

theorem Runs.served {h : List LockedEvent} (run : Runs acceptMode L h s) : s.Served := by
  induction run with
  | @start s hs =>
    intro i f l hi hl
    have hframes : s.frames = 0 := by
      rw [frames, hs.threads]
      rfl
    have hstarted := hs.started f (List.mem_of_getElem? hi)
    have hline : l = DelayLine.new.asyncPop := by
      cases f with
      | shaping g =>
        cases g with
        | staticDelay g | dynamicDelay g => exact (Option.some.inj hl).symm.trans hstarted
        | loss | burst | dynamicLoss | tokenBucketFilter => cases hl
      | input | inputDrop | nat | output | outputLibnet => cases hl
    obtain ⟨sv, hserves, -⟩ := DelayLine.serves_asyncPop (l := (DelayLine.new : DelayLine PacketPtr))
      rfl rfl
    subst hline
    rw [← hserves.inOrder_eq] at hserves
    exact Or.inl ⟨by rw [hframes]; rfl, sv, hserves⟩
  | step run hs ih => exact (step_cases hs).served ih

theorem Runs.gated {h : List LockedEvent} (run : Runs acceptMode L h s)
    (hL : ∀ f ∈ L, f.cls ≠ .Burst) : s.Gated := by
  induction run with
  | @start s hs =>
    have hframes : s.frames = 0 := by
      rw [frames, hs.threads]
      rfl
    refine ⟨fun t stack ht => ?_, fun i d => ?_, Runs.served (.start hs), fun i f d hi p hp => ?_⟩
    · rw [hs.threads] at ht
      obtain rfl := List.mem_singleton.mp (List.mem_of_getElem? ht)
      trivial
    · rw [hframes]
      exact Nat.zero_le 1
    · obtain ⟨hin, hout⟩ := hs.started _ (List.mem_of_getElem? hi)
      cases d with
      | true =>
        rw [show (f.bucket true).queue = [] from hin] at hp
        cases hp
      | false =>
        rw [show (f.bucket false).queue = [] from hout] at hp
        cases hp
  | step run hs ih => exact (step_cases hs).gated run hL ih

end LockedChain

open LockedChain

/-- A chain in accept mode with a `StaticDelay`. -/
def delaying : List RouterFilter :=
  [.shaping (.staticDelay { toDelayLine := DelayLine.new.asyncPop, delay := 0 })]

/-- The delay filter of `delaying` forwards the first of two packets. -/
def delayingEvents : List LockedEvent :=
  [.arrive (.ofAddresses true 1 2 3 4), .run 0 (.handle 0 0) 0 0, .run 0 (.handle 1 0) 0 0,
    .arrive (.ofAddresses true 1 2 3 4), .run 0 (.handle 0 1) 0 0, .run 0 (.handle 1 1) 0 0,
    .task 1 (.popHandler 0 0), .task 1 (.timeout 0 0)]

theorem delaying_starts (headers : PacketPtr → Packet) :
    Starts true delaying
      ⟨wrap true delaying (OutputStage.uninit [] true).init, .empty, headers, [[]]⟩ where
  filters := ⟨(OutputStage.uninit [] true).init, rfl⟩
  listed := by simp [delaying, RouterFilter.Listed]
  started := by
    intro f hf
    simp only [wrap, delaying, if_true, List.cons_append, List.nil_append,
      List.mem_cons, List.not_mem_nil, or_false] at hf
    rcases hf with rfl | rfl | rfl
    · trivial
    · rfl
    · trivial
  pool := rfl
  threads := rfl

/-- **Two threads never get in each other's way with packets of one direction**: in a chain
without `Burst`, whatever the threads and timers do, the frames that hand packets of one
direction to filters between the same two gates belong to one thread. -/
theorem one_thread_alone {acceptMode : Bool} {L : List RouterFilter} {h : List LockedEvent}
    {s : LockedChain} (run : Runs acceptMode L h s) (hL : ∀ f ∈ L, f.cls ≠ .Burst)
    {t t' i j : Nat} {p q : PacketPtr} {stack stack' : List ChainFrame}
    (ht : s.threads[t]? = some stack) (ht' : s.threads[t']? = some stack')
    (hp : .handle i p ∈ stack) (hq : .handle j q ∈ stack')
    (hdir : s.pool.isIngoing q = s.pool.isIngoing p)
    (hgate : gateFrame s.classes (s.pool.isIngoing p) j =
      gateFrame s.classes (s.pool.isIngoing p) i) : t' = t :=
  (run.gated hL).alone ht ht' hp hq hdir hgate

/-- Of the threads of `delaying`, the one of the timer hands its packet to `Output`. -/
theorem one_thread_alone_delaying :
    ∃ h s, Runs true delaying h s ∧ ∀ t stack p, s.threads[t]? = some stack →
      .handle 2 p ∈ stack → s.pool.isIngoing p = true → t = 2 := by
  have key : ∀ {h : List LockedEvent} {s : LockedChain}, Runs true delaying h s →
      s.threads[2]? = some [.handle 2 0, .asyncPop 1] → s.pool.isIngoing 0 = true →
      ∃ h s, Runs true delaying h s ∧ ∀ t stack p, s.threads[t]? = some stack →
        .handle 2 p ∈ stack → s.pool.isIngoing p = true → t = 2 := by
    intro h s run h1 hdir
    refine ⟨h, s, run, fun t stack p ht hp hdir' => ?_⟩
    exact one_thread_alone run (by simp [delaying, RouterFilter.cls]) h1 ht List.mem_cons_self hp
      (hdir'.trans hdir.symm) rfl
  have run : Runs true delaying _ _ :=
    Run.of_replay LockedChain.step (fun _ _ _ h => h) delayingEvents
      (delaying_starts fun _ => .ofAddresses true 1 2 3 4) rfl
  exact key run (by decide) (by decide)

end ShapingRouter
