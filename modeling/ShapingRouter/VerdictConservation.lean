import Mathlib
import ShapingRouter.FilterChain

/-! # No packet leaves a chain without a verdict

What the filters hold, what the threads have still to hand over, and what has had a
verdict make up all packets that came in, each once (`Inv.conserved`).  A filter that
is handed a packet holds it, forwards it, or gives it a verdict, except for a token
bucket that refuses it: then the packet is in none of the three.  So in a run in which
no packet is refused every packet is accounted for (`verdicts_conserved`), and one
refusal loses one (`verdict_missing`).
-/

namespace ShapingRouter
open Library

/-! ## Verdicts on the packets -/

namespace PacketPool
variable {w : PacketPool} {p : PacketPtr} {pkt : ParentPacket}

/-- The packets that came in are there, and `verdictSet_` says which have had a
verdict. -/
structure Valid (w : PacketPool) : Prop where
  alive : ∀ p, p < w.packets.next → ∃ pkt, w.packets.objects p = some pkt
  flag : ∀ p pkt, w.packets.objects p = some pkt → (pkt.verdictSet = true ↔ p ∈ w.settled)

theorem valid_empty : empty.Valid := by
  refine ⟨fun p hp => ?_, fun p pkt hp => ?_⟩
  · exact absurd hp (Nat.not_lt_zero p)
  · cases hp

/-- A new packet has had no verdict. -/
theorem Valid.add (hv : w.Valid) (hset : pkt.verdictSet = false)
    (hnew : w.packets.next ∉ w.settled) : (w.add pkt).Valid where
  alive p hp := by
    show ∃ pkt', (w.packets.alloc pkt).objects p = some pkt'
    rw [Heap.alloc_objects]
    by_cases hnext : p = w.packets.next
    · exact ⟨pkt, if_pos hnext⟩
    · rw [if_neg hnext]
      have hlt : p < w.packets.next + 1 := hp
      exact hv.alive p (by omega)
  flag p pkt' hp := by
    have hp : (w.packets.alloc pkt).objects p = some pkt' := hp
    rw [Heap.alloc_objects] at hp
    split at hp
    · rename_i hnext
      obtain rfl := Option.some.inj hp
      rw [hset, hnext]
      exact iff_of_false Bool.false_ne_true hnew
    · exact hv.flag p pkt' hp

/-- Resetting a time stamp keeps the flags. -/
theorem Valid.resetTimeStamp (hv : w.Valid) (p : PacketPtr) (now : Nat) :
    (w.resetTimeStamp p now).Valid where
  alive q hq := by
    obtain ⟨pkt, hpkt⟩ := hv.alive q hq
    show ∃ pkt', (w.packets.modify p _).objects q = some pkt'
    rw [Heap.modify_objects]
    by_cases hqp : q = p
    · subst hqp
      exact ⟨{ pkt with stamp := now }, by simp [hpkt]⟩
    · exact ⟨pkt, by rw [if_neg hqp, hpkt]⟩
  flag q pkt hq := by
    have hq : (w.packets.modify p _).objects q = some pkt := hq
    rw [Heap.modify_objects] at hq
    split at hq
    · rename_i hqp
      obtain ⟨pkt', hpkt', rfl⟩ := Option.map_eq_some_iff.mp hq
      rw [hqp]
      exact hv.flag p pkt' hpkt'
    · exact hv.flag q pkt hq

/-- The first verdict for a packet is given. -/
theorem setVerdict_verdicts (hp : w.packets.objects p = some pkt) (hset : pkt.verdictSet = false)
    (accept : Bool) :
    (w.setVerdict p accept).verdicts =
      (p, pkt.nfqID, if accept then .NF_ACCEPT else .NF_DROP) :: w.verdicts := by
  simp [setVerdict, hp, hset]

theorem setVerdict_settled (hp : w.packets.objects p = some pkt) (hset : pkt.verdictSet = false)
    (accept : Bool) : (w.setVerdict p accept).settled = w.settled + {p} := by
  rw [settled, setVerdict_verdicts hp hset, List.map_cons, ← Multiset.cons_coe,
    ← Multiset.singleton_add, add_comm]
  rfl

@[simp] theorem setVerdict_next (w : PacketPool) (p : PacketPtr) (accept : Bool) :
    (w.setVerdict p accept).packets.next = w.packets.next := by
  unfold setVerdict
  split
  · split <;> rfl
  · rfl

theorem Valid.setVerdict (hv : w.Valid) (hp : w.packets.objects p = some pkt)
    (hset : pkt.verdictSet = false) (accept : Bool) : (w.setVerdict p accept).Valid := by
  have hobjects : ∀ q, (w.setVerdict p accept).packets.objects q =
      if q = p then some { pkt with verdictSet := true } else w.packets.objects q := by
    intro q
    simp [PacketPool.setVerdict, hp, hset, Heap.modify_objects]
  refine ⟨fun q hq => ?_, fun q pkt' hq => ?_⟩
  · rw [setVerdict_next] at hq
    obtain ⟨pkt', hpkt'⟩ := hv.alive q hq
    rw [hobjects]
    by_cases hqp : q = p
    · exact ⟨_, if_pos hqp⟩
    · exact ⟨pkt', by rw [if_neg hqp, hpkt']⟩
  · rw [hobjects] at hq
    rw [setVerdict_settled hp hset, Multiset.mem_add, Multiset.mem_singleton]
    split at hq
    · rename_i hqp
      obtain rfl := Option.some.inj hq
      exact iff_of_true rfl (Or.inr hqp)
    · rename_i hqp
      rw [hv.flag q pkt' hq]
      exact (or_iff_left hqp).symm

end PacketPool

/-! ## Each filter accounts for its packets -/

section Filters
variable {w : PacketPool} {p : PacketPtr} {pkt : ParentPacket} {r : ℚ}

/-- **What becomes of a packet** that a filter is handed and does not refuse: the filter
holds it, forwards it, or gives it a verdict. -/
theorem ShapingFilter.handlePacket_conserves (f : ShapingFilter)
    (hp : w.packets.objects p = some pkt) (hset : pkt.verdictSet = false) (hr : f.Admits w r p) :
    (f.handlePacket w r p).filter.held + (f.handlePacket w r p).forwarded +
      (f.handlePacket w r p).pool.settled = f.held + {p} + w.settled := by
  have hsettled := PacketPool.setVerdict_settled hp hset false
  cases f with
  | loss g =>
    simp only [ShapingFilter.handlePacket]
    split
    · simp only [held, hsettled, Multiset.coe_nil, zero_add, add_zero, add_comm]
    · simp only [held, Multiset.coe_singleton]
  | dynamicLoss g =>
    simp only [ShapingFilter.handlePacket]
    split
    · simp only [held, hsettled, Multiset.coe_nil, zero_add, add_zero, add_comm]
    · simp only [held, Multiset.coe_singleton]
  | burst g => exact congrArg (· + w.settled) (g.held_handlePacket p)
  | staticDelay g =>
    show (g.toDelayLine.handlePacket p).held + 0 + w.settled = g.held + {p} + w.settled
    rw [add_zero, g.toDelayLine.held_handlePacket]
  | dynamicDelay g =>
    show (g.toDelayLine.handlePacket p).held + 0 + w.settled = g.held + {p} + w.settled
    rw [add_zero, g.toDelayLine.held_handlePacket]
  | tokenBucketFilter g =>
    have hadm := ((g.bucket (w.isIngoing p)).admits_iff r).mpr hr
    exact congrArg (· + w.settled) (TokenBucketFilter.held_handlePacket hadm p)

/-- A shaping filter gives no verdict but a drop, and only for the packet it is handed. -/
theorem ShapingFilter.handlePacket_pool (f : ShapingFilter) :
    (f.handlePacket w r p).pool = w ∨ (f.handlePacket w r p).pool = w.setVerdict p false := by
  cases f with
  | loss g =>
    simp only [ShapingFilter.handlePacket]
    split
    · exact Or.inr rfl
    · exact Or.inl rfl
  | dynamicLoss g =>
    simp only [ShapingFilter.handlePacket]
    split
    · exact Or.inr rfl
    · exact Or.inl rfl
  | burst _ | staticDelay _ | dynamicDelay _ | tokenBucketFilter _ => exact Or.inl rfl

/-- A timer or a posted call forwards what the filter held, and gives no verdict. -/
theorem ShapingFilter.task_spec {f : ShapingFilter} {t : FilterTask} {o : Outcome ShapingFilter}
    (h : f.task w t = some o) :
    o.filter.held + o.forwarded = f.held ∧
      (o.pool = w ∨ ∃ q now, o.pool = w.resetTimeStamp q now) := by
  unfold ShapingFilter.task at h
  split at h
  · obtain rfl := Option.some.inj h
    exact ⟨by simp [held], Or.inl rfl⟩
  · rename_i g _ _
    obtain rfl := Option.some.inj h
    exact ⟨g.held_init, Or.inl rfl⟩
  · obtain ⟨o', ho', rfl⟩ := Option.map_eq_some_iff.mp h
    exact ⟨Burst.held_timeout ho', Or.inl rfl⟩
  · rename_i g _ _
    obtain rfl := Option.some.inj h
    exact ⟨by simpa [held, StaticDelay.init] using g.held_asyncPop, Or.inl rfl⟩
  · obtain ⟨g', hg', rfl⟩ := Option.map_eq_some_iff.mp h
    obtain ⟨l, hl, rfl⟩ := Option.map_eq_some_iff.mp hg'
    exact ⟨by simpa [held] using DelayLine.held_popHandler hl, Or.inl rfl⟩
  · obtain ⟨o', ho', rfl⟩ := Option.map_eq_some_iff.mp h
    obtain ⟨l, hl, rfl⟩ := Option.map_eq_some_iff.mp ho'
    exact ⟨by simpa [held] using DelayLine.held_timeout hl, Or.inr ⟨_, _, rfl⟩⟩
  · rename_i g _ _
    obtain rfl := Option.some.inj h
    exact ⟨by simpa [held, DynamicDelay.init] using g.held_asyncPop, Or.inl rfl⟩
  · obtain ⟨g', hg', rfl⟩ := Option.map_eq_some_iff.mp h
    obtain ⟨l, hl, rfl⟩ := Option.map_eq_some_iff.mp hg'
    exact ⟨by simpa [held] using DelayLine.held_popHandler hl, Or.inl rfl⟩
  · obtain ⟨o', ho', rfl⟩ := Option.map_eq_some_iff.mp h
    obtain ⟨l, hl, rfl⟩ := Option.map_eq_some_iff.mp ho'
    exact ⟨by simpa [held] using DelayLine.held_timeout hl, Or.inr ⟨_, _, rfl⟩⟩
  · obtain ⟨g', hg', rfl⟩ := Option.map_eq_some_iff.mp h
    exact ⟨by simpa [held] using congrArg DelayLine.held (DynamicDelay.delayPopHandler_line hg'),
      Or.inl rfl⟩
  · obtain ⟨g', hg', rfl⟩ := Option.map_eq_some_iff.mp h
    exact ⟨by simpa [held] using congrArg DelayLine.held (DynamicDelay.delayTimeout_line hg'),
      Or.inl rfl⟩
  · obtain rfl := Option.some.inj h
    exact ⟨by simp [held], Or.inl rfl⟩
  · obtain ⟨g', hg', rfl⟩ := Option.map_eq_some_iff.mp h
    exact ⟨by simp [held], Or.inl rfl⟩
  · obtain rfl := Option.some.inj h
    exact ⟨TokenBucketFilter.held_init _ _, Or.inl rfl⟩
  · obtain ⟨o', ho', rfl⟩ := Option.map_eq_some_iff.mp h
    exact ⟨TokenBucketFilter.held_timeout ho', Or.inl rfl⟩
  · cases h

/-- What becomes of a packet that a filter of the chain is handed and does not refuse. -/
theorem ChainFilter.handlePacket_conserves (f : ChainFilter)
    (hp : w.packets.objects p = some pkt) (hset : pkt.verdictSet = false) (hr : f.Admits w r p) :
    (f.handlePacket w r p).filter.held + (f.handlePacket w r p).forwarded +
      (f.handlePacket w r p).pool.settled = f.held + {p} + w.settled := by
  cases f with
  | input => simp [ChainFilter.handlePacket, held]
  | shaping g => exact g.handlePacket_conserves hp hset hr
  | output =>
    simp [ChainFilter.handlePacket, held, PacketPool.setVerdict_settled hp hset, add_comm]

/-- `Output` gives its packet the verdict `NF_ACCEPT`; the others drop it or give none. -/
theorem ChainFilter.handlePacket_pool (f : ChainFilter) :
    ((f.handlePacket w r p).filter = .output ↔ f = .output) ∧
      (((f.handlePacket w r p).pool = w ∧ f ≠ .output) ∨
        ∃ accept, (f.handlePacket w r p).pool = w.setVerdict p accept ∧
          (accept = true ↔ f = .output)) := by
  cases f with
  | input => exact ⟨Iff.rfl, Or.inl ⟨rfl, by simp⟩⟩
  | shaping g =>
    refine ⟨by simp [ChainFilter.handlePacket], ?_⟩
    rcases g.handlePacket_pool (w := w) (r := r) (p := p) with h | h
    · exact Or.inl ⟨h, by simp⟩
    · exact Or.inr ⟨false, h, by simp⟩
  | output => exact ⟨Iff.rfl, Or.inr ⟨true, rfl, by simp⟩⟩

/-- A packet that a filter refuses without a verdict is neither held nor forwarded. -/
theorem ChainFilter.handlePacket_refused {f : ChainFilter} (hr : ¬ f.Admits w r p) :
    (f.handlePacket w r p).filter.held + (f.handlePacket w r p).forwarded = f.held ∧
      (f.handlePacket w r p).pool = w := by
  cases f with
  | input | output => exact absurd trivial hr
  | shaping g =>
    cases g with
    | loss _ | burst _ | staticDelay _ | dynamicDelay _ | dynamicLoss _ => exact absurd trivial hr
    | tokenBucketFilter g =>
      have hadm : (g.bucket (w.isIngoing p)).admits r = false := by
        rw [Bool.eq_false_iff]
        intro hadm
        exact hr ((TokenBucket.admits_iff _ r).mp hadm)
      exact ⟨TokenBucketFilter.held_refused hadm p, rfl⟩

end Filters

/-! ## Every packet is accounted for -/

namespace FilterChain
variable {L : List ShapingFilter} {h : List ChainEvent} {s s' : FilterChain}

/-- The packets of a stack of calls. -/
def handed (calls : List (Nat × PacketPtr)) : Multiset PacketPtr := calls.map (·.2)

/-- What the filters hold together. -/
def held (s : FilterChain) : Multiset PacketPtr := holdings ChainFilter.held s.filters

/-- What the threads have still to hand over. -/
def calls (s : FilterChain) : Multiset PacketPtr := holdings handed s.threads

theorem handed_append (i : Nat) (ps : List PacketPtr) (calls : List (Nat × PacketPtr)) :
    handed (ps.map (i, ·) ++ calls) = ps + handed calls := by
  simp [handed, ← Multiset.coe_add, Function.comp_def]

/-- The invariant: `Output` stands at the end and nowhere else; every packet that came in
is held, to be handed over or settled, and only one of these, once; and what was accepted
is what `Output` was handed. -/
structure Inv (L : List ShapingFilter) (h : List ChainEvent) (s : FilterChain) : Prop where
  output : ∀ (i : Nat) (f : ChainFilter), s.filters[i]? = some f →
    (f = .output ↔ i = L.length + 1)
  pool : s.pool.Valid
  conserved : s.held + s.calls + s.pool.settled = Multiset.range s.pool.packets.next
  accepted : ∀ p id v, (p, id, v) ∈ s.pool.verdicts → (v = .NF_ACCEPT ↔ ReachedOutput L h p)
  reached : ∀ p, ReachedOutput L h p → p ∈ s.pool.settled

/-- Events that hand nothing over make no packet reach `Output`. -/
theorem reachedOutput_cons {e : ChainEvent} (he : ∀ i p r t, e ≠ .handle i p r t) (p : PacketPtr) :
    ReachedOutput L (e :: h) p ↔ ReachedOutput L h p := by
  constructor
  · rintro ⟨r, t, hmem⟩
    rcases List.mem_cons.mp hmem with heq | hmem
    · exact absurd heq.symm (he _ _ _ _)
    · exact ⟨r, t, hmem⟩
  · rintro ⟨r, t, hmem⟩
    exact ⟨r, t, List.mem_cons_of_mem _ hmem⟩

theorem reachedOutput_handle {i : Nat} {p : PacketPtr} {r : ℚ} {t : Nat} (q : PacketPtr) :
    ReachedOutput L (.handle i p r t :: h) q ↔
      (i = L.length + 1 ∧ q = p) ∨ ReachedOutput L h q := by
  constructor
  · rintro ⟨r', t', hmem⟩
    rcases List.mem_cons.mp hmem with heq | hmem
    · obtain ⟨rfl, rfl, rfl, rfl⟩ := ChainEvent.handle.inj heq
      exact Or.inl ⟨rfl, rfl⟩
    · exact Or.inr ⟨r', t', hmem⟩
  · rintro (⟨rfl, rfl⟩ | ⟨r', t', hmem⟩)
    · exact ⟨r, t, List.mem_cons_self⟩
    · exact ⟨r', t', List.mem_cons_of_mem _ hmem⟩

/-- A filter that is replaced stays `Output`, or stays another one. -/
theorem Inv.output_set (hi : Inv L h s) {i : Nat} {f g : ChainFilter}
    (hf : s.filters[i]? = some f) (hg : g = .output ↔ f = .output) (j : Nat) (f' : ChainFilter)
    (hj : (s.filters.set i g)[j]? = some f') : f' = .output ↔ j = L.length + 1 := by
  by_cases hij : i = j
  · subst hij
    rw [List.getElem?_set_self (List.getElem?_eq_some_iff.mp hf).1] at hj
    obtain rfl := Option.some.inj hj
    rw [hg]
    exact hi.output i f hf
  · rw [List.getElem?_set_ne hij] at hj
    exact hi.output j f' hj

/-- The filter at `i` is handed the packet `p`, becomes `g` and forwards `ps`: what it
held and the packet give way to what it holds and what it forwards. -/
theorem account_set {i : Nat} {p : PacketPtr} {t : Nat} {f : ChainFilter}
    {rest : List (Nat × PacketPtr)} (ht : s.threads[t]? = some ((i, p) :: rest))
    (hf : s.filters[i]? = some f) (g : ChainFilter) (ps : List PacketPtr) :
    holdings ChainFilter.held (s.filters.set i g) +
        holdings handed (s.threads.set t (ps.map (i + 1, ·) ++ rest)) + (f.held + {p}) =
      s.held + s.calls + (g.held + ps) := by
  have hfilters := holdings_set ChainFilter.held hf g
  have hthreads := holdings_set handed ht (ps.map (i + 1, ·) ++ rest)
  have hcall : handed ((i, p) :: rest) = {p} + handed rest := by
    simp [handed]
  rw [handed_append, hcall] at hthreads
  rw [held, calls]
  apply add_right_cancel (b := handed rest)
  calc _ = (holdings ChainFilter.held (s.filters.set i g) + f.held) +
        (holdings handed (s.threads.set t (ps.map (i + 1, ·) ++ rest)) +
          ({p} + handed rest)) := by abel
    _ = _ := by rw [hfilters, hthreads]; abel

/-- What is to be handed over came in, and has had no verdict. -/
theorem Inv.unsettled (hi : Inv L h s) {p : PacketPtr} (hp : p ∈ s.calls) :
    p ∉ s.pool.settled ∧ ∃ pkt, s.pool.packets.objects p = some pkt ∧ pkt.verdictSet = false := by
  have hnodup : (s.held + s.calls + s.pool.settled).Nodup := by
    rw [hi.conserved]
    exact Multiset.nodup_range _
  have hmem : p ∈ s.held + s.calls := Multiset.mem_add.mpr (Or.inr hp)
  have hnot : p ∉ s.pool.settled :=
    Multiset.disjoint_left.mp (Multiset.nodup_add.mp hnodup).2.2 hmem
  have hlt : p < s.pool.packets.next := by
    rw [← Multiset.mem_range, ← hi.conserved]
    exact Multiset.mem_add.mpr (Or.inl hmem)
  obtain ⟨pkt, hpkt⟩ := hi.pool.alive p hlt
  refine ⟨hnot, pkt, hpkt, ?_⟩
  rw [Bool.eq_false_iff]
  intro hset
  exact hnot ((hi.pool.flag p pkt hpkt).mp hset)

/-- A packet comes in. -/
theorem Inv.arrive (hi : Inv L h s) {pkt : ParentPacket} (hset : pkt.verdictSet = false) :
    Inv L (.arrive pkt :: h)
      { s with
        pool := s.pool.add pkt
        threads := s.threads ++ [[(0, s.pool.packets.next)]] } := by
  have hreached := reachedOutput_cons (L := L) (h := h) (e := .arrive pkt) (by intros; simp)
  have hnew : s.pool.packets.next ∉ s.pool.settled := by
    intro hmem
    have hrange : s.pool.packets.next ∈ Multiset.range s.pool.packets.next := by
      rw [← hi.conserved]
      exact Multiset.mem_add.mpr (Or.inr hmem)
    exact absurd (Multiset.mem_range.mp hrange) (Nat.lt_irrefl _)
  refine ⟨hi.output, hi.pool.add hset hnew, ?_, fun p id v hv => ?_, fun p hp => ?_⟩
  · have hcalls : holdings handed (s.threads ++ [[(0, s.pool.packets.next)]]) =
        s.calls + {s.pool.packets.next} := by
      simp [calls, handed]
    calc s.held + holdings handed (s.threads ++ [[(0, s.pool.packets.next)]]) + s.pool.settled
        = (s.held + s.calls + s.pool.settled) + {s.pool.packets.next} := by rw [hcalls]; abel
      _ = Multiset.range (s.pool.packets.next + 1) := by
        rw [hi.conserved, Multiset.range_succ, ← Multiset.singleton_add, add_comm]
  · rw [hreached]
    exact hi.accepted p id v hv
  · exact hi.reached p ((hreached p).mp hp)

/-- A filter does a task of its own. -/
theorem Inv.task (hi : Inv L h s) {i : Nat} {f : ShapingFilter} {t : FilterTask}
    (hf : s.filters[i]? = some (.shaping f)) {o : Outcome ShapingFilter}
    (ho : f.task s.pool t = some o) :
    Inv L (.task i t :: h)
      { filters := s.filters.set i (.shaping o.filter)
        pool := o.pool
        threads := s.threads ++ [o.forwarded.map (i + 1, ·)] } := by
  obtain ⟨hheld, hpool⟩ := ShapingFilter.task_spec ho
  have hreached := reachedOutput_cons (L := L) (h := h) (e := .task i t) (by intros; simp)
  have hsame : o.pool.Valid ∧ o.pool.verdicts = s.pool.verdicts ∧
      o.pool.packets.next = s.pool.packets.next := by
    rcases hpool with heq | ⟨q, now, heq⟩
    · rw [heq]
      exact ⟨hi.pool, rfl, rfl⟩
    · rw [heq]
      exact ⟨hi.pool.resetTimeStamp q now, rfl, rfl⟩
  obtain ⟨hvalid, hverdicts, hnext⟩ := hsame
  have hsettled : o.pool.settled = s.pool.settled := by
    rw [PacketPool.settled, hverdicts, PacketPool.settled]
  refine ⟨hi.output_set hf (by simp), hvalid, ?_, fun p id v hv => ?_, fun p hp => ?_⟩
  · have hset : holdings ChainFilter.held (s.filters.set i (.shaping o.filter)) + f.held =
        s.held + o.filter.held := holdings_set ChainFilter.held hf (.shaping o.filter)
    have hcalls : holdings handed (s.threads ++ [o.forwarded.map (i + 1, ·)]) =
        s.calls + o.forwarded := by
      simp [calls, handed, Function.comp_def]
    show holdings ChainFilter.held (s.filters.set i (.shaping o.filter)) +
      holdings handed (s.threads ++ [o.forwarded.map (i + 1, ·)]) + o.pool.settled = _
    rw [hcalls, hsettled, hnext, ← hi.conserved]
    apply add_right_cancel (b := f.held)
    calc _ = (holdings ChainFilter.held (s.filters.set i (.shaping o.filter)) + f.held) +
          (s.calls + o.forwarded) + s.pool.settled := by abel
      _ = s.held + s.calls + s.pool.settled + (o.filter.held + o.forwarded) := by rw [hset]; abel
      _ = _ := by rw [hheld]
  · rw [hreached]
    rw [hverdicts] at hv
    exact hi.accepted p id v hv
  · rw [hsettled]
    exact hi.reached p ((hreached p).mp hp)

/-- A filter is handed a packet and does not refuse it without a verdict. -/
theorem Inv.handle (hi : Inv L h s) {i : Nat} {p : PacketPtr} {r : ℚ} {t : Nat} {f : ChainFilter}
    {rest : List (Nat × PacketPtr)} (ht : s.threads[t]? = some ((i, p) :: rest))
    (hf : s.filters[i]? = some f) (hr : f.Admits s.pool r p) :
    Inv L (.handle i p r t :: h)
      { filters := s.filters.set i (f.handlePacket s.pool r p).filter
        pool := (f.handlePacket s.pool r p).pool
        threads := s.threads.set t
          ((f.handlePacket s.pool r p).forwarded.map (i + 1, ·) ++ rest) } := by
  -- the packet is still to be handed over, so this is its first verdict, if it gets one
  have hcall : p ∈ s.calls := mem_holdings.mpr ⟨t, _, ht, by simp [handed]⟩
  obtain ⟨hnot, pkt, hpkt, hset⟩ := hi.unsettled hcall
  have hcons := f.handlePacket_conserves hpkt hset hr
  obtain ⟨hsame, hpool⟩ := f.handlePacket_pool (w := s.pool) (r := r) (p := p)
  have hpos := hi.output i f hf
  have hnotreached : ¬ ReachedOutput L h p := fun hp => hnot (hi.reached p hp)
  generalize f.handlePacket s.pool r p = o at hcons hsame hpool
  refine ⟨hi.output_set hf hsame, ?_, ?_, fun q id v hv => ?_, fun q hq => ?_⟩
  · rcases hpool with ⟨heq, -⟩ | ⟨accept, heq, -⟩
    · rw [heq]
      exact hi.pool
    · rw [heq]
      exact hi.pool.setVerdict hpkt hset accept
  · have haccount := account_set ht hf o.filter o.forwarded
    have hnext : o.pool.packets.next = s.pool.packets.next := by
      rcases hpool with ⟨heq, -⟩ | ⟨accept, heq, -⟩
      · rw [heq]
      · rw [heq, PacketPool.setVerdict_next]
    rw [hnext, ← hi.conserved]
    apply add_right_cancel (b := f.held + {p})
    calc _ = holdings ChainFilter.held (s.filters.set i o.filter) +
          holdings handed (s.threads.set t (o.forwarded.map (i + 1, ·) ++ rest)) +
            (f.held + {p}) + o.pool.settled := by rw [held, calls]; abel
      _ = s.held + s.calls + (o.filter.held + o.forwarded + o.pool.settled) := by
        rw [haccount]; abel
      _ = _ := by rw [hcons]; abel
  · rw [reachedOutput_handle]
    rcases hpool with ⟨heq, hno⟩ | ⟨accept, heq, hacc⟩
    · rw [heq] at hv
      rw [hi.accepted q id v hv]
      exact (or_iff_right fun hq => hno (hpos.mpr hq.1)).symm
    · rw [heq, PacketPool.setVerdict_verdicts hpkt hset] at hv
      rcases List.mem_cons.mp hv with hnew | hold
      · obtain ⟨rfl, -, rfl⟩ : q = p ∧ id = pkt.nfqID ∧
            v = if accept then .NF_ACCEPT else .NF_DROP := by simpa using hnew
        cases accept with
        | true => exact iff_of_true rfl (Or.inl ⟨hpos.mp (hacc.mp rfl), rfl⟩)
        | false =>
          refine iff_of_false (by simp) ?_
          rintro (⟨hend, -⟩ | hq)
          · exact Bool.false_ne_true (hacc.mpr (hpos.mpr hend))
          · exact hnotreached hq
      · rw [hi.accepted q id v hold]
        refine (or_iff_right ?_).symm
        rintro ⟨-, rfl⟩
        exact hnot (Multiset.mem_coe.mpr (List.mem_map.mpr ⟨_, hold, rfl⟩))
  · rcases (reachedOutput_handle q).mp hq with ⟨hend, rfl⟩ | hq
    · rcases hpool with ⟨-, hno⟩ | ⟨accept, heq, -⟩
      · exact absurd (hpos.mpr hend) hno
      · rw [heq, PacketPool.setVerdict_settled hpkt hset]
        exact Multiset.mem_add.mpr (Or.inr (Multiset.mem_singleton_self q))
    · have hold := hi.reached q hq
      rcases hpool with ⟨heq, -⟩ | ⟨accept, heq, -⟩
      · rw [heq]
        exact hold
      · rw [heq, PacketPool.setVerdict_settled hpkt hset]
        exact Multiset.mem_add.mpr (Or.inl hold)

theorem inv_new (hempty : ∀ f ∈ L, f.held = 0) : Inv L [] (new L) where
  output i f hf := by
    have hlen : (ChainFilter.input :: L.map .shaping).length = L.length + 1 := by simp
    by_cases hlt : i < L.length + 1
    · refine iff_of_false ?_ (by omega)
      have hf : (ChainFilter.input :: L.map .shaping ++ [.output])[i]? = some f := hf
      rw [List.getElem?_append_left (by rwa [hlen])] at hf
      rcases List.mem_cons.mp (List.mem_of_getElem? hf) with rfl | hmem
      · simp
      · obtain ⟨g, -, rfl⟩ := List.mem_map.mp hmem
        simp
    · have hf : (ChainFilter.input :: L.map .shaping ++ [.output])[i]? = some f := hf
      rw [List.getElem?_append_right (by omega), hlen] at hf
      obtain ⟨hi, rfl⟩ := List.getElem?_eq_some_iff.mp hf
      have hi : i - (L.length + 1) < 1 := hi
      have hzero : i = L.length + 1 := by omega
      subst hzero
      simp
  pool := PacketPool.valid_empty
  conserved := by
    have hzero : holdings ChainFilter.held (new L).filters = 0 := by
      rw [Multiset.eq_zero_iff_forall_notMem]
      intro p hp
      obtain ⟨i, f, hf, hpf⟩ := mem_holdings.mp hp
      rcases List.mem_append.mp (List.mem_of_getElem? hf) with hmem | hmem
      · rcases List.mem_cons.mp hmem with rfl | hmem
        · exact Multiset.notMem_zero p hpf
        · obtain ⟨g, hg, rfl⟩ := List.mem_map.mp hmem
          have hpf : p ∈ g.held := hpf
          rw [hempty g hg] at hpf
          exact Multiset.notMem_zero p hpf
      · obtain rfl := List.mem_singleton.mp hmem
        exact Multiset.notMem_zero p hpf
    rw [held, hzero]
    rfl
  accepted p id v hv := by cases hv
  reached p hp := by
    obtain ⟨_, _, hmem⟩ := hp
    cases hmem

/-- One step in which no packet is refused keeps the account. -/
theorem Inv.step (hi : Inv L h s) {e : ChainEvent} (hs : s.step e = some s') (he : s.Admits e) :
    Inv L (e :: h) s' := by
  cases e with
  | arrive pkt =>
    obtain ⟨hset, hs⟩ := Option.ite_none_left_eq_some.mp hs
    obtain rfl := Option.some.inj hs
    exact hi.arrive (by simpa using hset)
  | handle i p r t =>
    simp only [FilterChain.step] at hs
    split at hs
    · rename_i call rest f ht hf
      obtain ⟨hcall, hs⟩ := Option.ite_none_right_eq_some.mp hs
      obtain rfl := Option.some.inj hs
      subst hcall
      simp only [Admits, hf] at he
      exact hi.handle ht hf he
    · cases hs
  | task i t =>
    simp only [FilterChain.step] at hs
    split at hs
    · rename_i f hf
      obtain ⟨o, ho, rfl⟩ := Option.map_eq_some_iff.mp hs
      exact hi.task hf ho
    · cases hs

theorem AdmittingRuns.inv (run : AdmittingRuns L h s) : Inv L h s := by
  refine run.invariant (I := Inv L) ?_ ?_
  · rintro _ ⟨rfl, hempty⟩
    exact inv_new hempty
  · intro h s e s' _ hi hs
    exact hi.step hs.1 hs.2

/-- A packet that is settled once has had one verdict. -/
theorem verdictsOf_of_count {w : PacketPool} {p : PacketPtr} (hcount : w.settled.count p = 1) :
    ∃ id v, w.verdictsOf p = [(p, id, v)] := by
  have hlen : (w.verdictsOf p).length = 1 := by
    rw [← hcount, PacketPool.settled, Multiset.coe_count, List.count, List.countP_map,
      List.countP_eq_length_filter]
    rfl
  obtain ⟨⟨q, id, v⟩, heq⟩ := List.length_eq_one_iff.mp hlen
  have hmem : (q, id, v) ∈ w.verdictsOf p := by
    rw [heq]
    exact List.mem_singleton_self _
  have hqp : q = p := by simpa using (List.mem_filter.mp hmem).2
  subst hqp
  exact ⟨id, v, heq⟩

theorem verdictsOf_of_not_mem {w : PacketPool} {p : PacketPtr} (hnot : p ∉ w.settled) :
    w.verdictsOf p = [] := by
  apply List.filter_eq_nil_iff.mpr
  intro call hcall hp
  have hp : call.1 = p := by simpa using hp
  exact hnot (Multiset.mem_coe.mpr (List.mem_map.mpr ⟨call, hcall, hp⟩))

theorem mem_calls {p : PacketPtr} : p ∈ s.calls ↔ s.UnderWay p := by
  constructor
  · intro hp
    obtain ⟨t, stack, ht, hpt⟩ := mem_holdings.mp hp
    obtain ⟨⟨i, q⟩, hmem, rfl⟩ := List.mem_map.mp (Multiset.mem_coe.mp hpt)
    exact ⟨stack, List.mem_of_getElem? ht, i, hmem⟩
  · rintro ⟨stack, hstack, i, hmem⟩
    obtain ⟨t, ht⟩ := List.mem_iff_getElem?.mp hstack
    exact mem_holdings.mpr
      ⟨t, stack, ht, Multiset.mem_coe.mpr (List.mem_map.mpr ⟨(i, p), hmem, rfl⟩)⟩

/-- With no call left to make, no packet is on its way. -/
theorem not_underWay (hquiet : ∀ calls ∈ s.threads, calls = []) (p : PacketPtr) :
    ¬ s.UnderWay p := by
  rintro ⟨calls, hcalls, i, hmem⟩
  rw [hquiet calls hcalls] at hmem
  cases hmem

theorem heldByNone_iff {p : PacketPtr} : s.HeldByNone p ↔ p ∉ s.held := by
  constructor
  · intro hnone hp
    obtain ⟨i, f, hf, hpf⟩ := mem_holdings.mp hp
    exact hnone i f hf hpf
  · intro hp i f hf hpf
    exact hp (mem_holdings.mpr ⟨i, f, hf, hpf⟩)

/-- **A refused packet is lost**: after the first refusal, the packet is held by no filter
and on its way to none, and has had no verdict. -/
theorem Inv.lost (hi : Inv L h s) {i : Nat} {p : PacketPtr} {r : ℚ} {t : Nat}
    (hs : s.step (.handle i p r t) = some s') (hr : ¬ s.Admits (.handle i p r t)) :
    s'.HeldByNone p ∧ ¬ s'.UnderWay p ∧ s'.pool.verdictsOf p = [] := by
  simp only [FilterChain.step] at hs
  split at hs
  · rename_i call rest f ht hf
    obtain ⟨hcall, hs⟩ := Option.ite_none_right_eq_some.mp hs
    obtain rfl := Option.some.inj hs
    subst hcall
    simp only [Admits, hf] at hr
    obtain ⟨hheld, hpool⟩ := ChainFilter.handlePacket_refused hr
    generalize f.handlePacket s.pool r p = o at hheld hpool
    have haccount := account_set ht hf o.filter o.forwarded
    rw [hheld] at haccount
    -- what is left and the packet were there before, each packet once
    have hleft : holdings ChainFilter.held (s.filters.set i o.filter) +
        holdings handed (s.threads.set t (o.forwarded.map (i + 1, ·) ++ rest)) +
          o.pool.settled + {p} = Multiset.range s.pool.packets.next := by
      rw [hpool, ← hi.conserved]
      apply add_right_cancel (b := f.held)
      calc _ = holdings ChainFilter.held (s.filters.set i o.filter) +
            holdings handed (s.threads.set t (o.forwarded.map (i + 1, ·) ++ rest)) +
              (f.held + {p}) + s.pool.settled := by abel
        _ = _ := by rw [haccount]; abel
    have hnodup := Multiset.nodup_range s.pool.packets.next
    rw [← hleft] at hnodup
    have hnot := fun hp => Multiset.disjoint_left.mp (Multiset.nodup_add.mp hnodup).2.2 hp
      (Multiset.mem_singleton_self p)
    simp only [Multiset.mem_add] at hnot
    refine ⟨heldByNone_iff.mpr fun hp => ?_, fun hp => ?_, verdictsOf_of_not_mem fun hp => ?_⟩
    · exact hnot (Or.inl (Or.inl hp))
    · exact hnot (Or.inl (Or.inr (mem_calls.mpr hp)))
    · exact hnot (Or.inr hp)
  · cases hs

end FilterChain

open FilterChain

/-- **Verdict conservation in accept mode.**  In every state that a run of
`Input :: L ++ [Output]` reaches in which no token bucket refuses a packet, each packet
that came in, unless it is just on its way from one filter to the next, is held by exactly
one filter and has had no verdict, or is held by none and has had exactly one, which is
`NF_ACCEPT` iff the packet reached `Output`. -/
theorem verdicts_conserved {L : List ShapingFilter} {h : List ChainEvent} {s : FilterChain}
    (run : AdmittingRuns L h s) {p : PacketPtr} {pkt : ParentPacket}
    (hp : s.pool.packets.objects p = some pkt) (hcalls : ¬ s.UnderWay p) :
    Conserved L h s p := by
  have hi := run.inv
  have hnodup : (s.held + s.calls + s.pool.settled).Nodup := by
    rw [hi.conserved]
    exact Multiset.nodup_range _
  obtain ⟨hheld, hsettled, hdisj⟩ := Multiset.nodup_add.mp hnodup
  have hmem : p ∈ s.held + s.calls + s.pool.settled := by
    rw [hi.conserved]
    exact Multiset.mem_range.mpr (Heap.lt_next hp)
  -- each packet once: what is held has no verdict, what is settled is held by none
  rcases Multiset.mem_add.mp hmem with hp | hp
  · left
    have hp' := (Multiset.mem_add.mp hp).resolve_right fun hc => hcalls (mem_calls.mp hc)
    refine ⟨exists_unique_place (Multiset.nodup_add.mp hheld).1 hp', verdictsOf_of_not_mem ?_⟩
    exact Multiset.disjoint_left.mp hdisj hp
  · right
    refine ⟨heldByNone_iff.mpr fun hh => ?_, ?_⟩
    · exact Multiset.disjoint_left.mp hdisj (Multiset.mem_add.mpr (Or.inl hh)) hp
    · obtain ⟨id, v, hv⟩ := verdictsOf_of_count (Multiset.count_eq_one_of_mem hsettled hp)
      refine ⟨id, v, hv, hi.accepted p id v ?_⟩
      have hmem : (p, id, v) ∈ s.pool.verdictsOf p := by
        rw [hv]
        exact List.mem_singleton_self _
      exact (List.mem_filter.mp hmem).1

/-- Of two packets, `Loss` drops the one and `StaticDelay` keeps the other. -/
theorem verdicts_conserved_two :
    ∃ h s, AdmittingRuns [.loss ⟨1⟩, .staticDelay .new] h s ∧
      s.pool.verdictsOf 0 = [(0, 7, .NF_DROP)] ∧ Conserved [.loss ⟨1⟩, .staticDelay .new] h s 0 ∧
      Conserved [.loss ⟨1⟩, .staticDelay .new] h s 1 := by
  let step := fun (s : FilterChain) e => if s.Admits e then s.step e else none
  have hstep : ∀ s e s', step s e = some s' → s.step e = some s' ∧ s.Admits e := by
    intro s e s' hs
    obtain ⟨ha, hs⟩ := Option.ite_none_right_eq_some.mp hs
    exact ⟨hs, ha⟩
  have run : AdmittingRuns [.loss ⟨1⟩, .staticDelay .new] _ _ :=
    Run.of_replay step hstep
      [.arrive { isIngoing := true, nfqID := 7 }, .handle 0 0 0 0, .handle 1 0 0 0,
        .arrive { isIngoing := true, nfqID := 8 }, .handle 0 1 0 1, .handle 1 1 1 1,
        .handle 2 1 0 1]
      ⟨rfl, by simp [ShapingFilter.held]; rfl⟩ rfl
  refine ⟨_, _, run, by decide, ?_, ?_⟩
  · exact verdicts_conserved run rfl (not_underWay (by decide) 0)
  · exact verdicts_conserved run rfl (not_underWay (by decide) 1)

/-- A token bucket for incoming packets with room for one. -/
def oneRoomFilter : ShapingFilter :=
  .tokenBucketFilter ⟨{ timerStart := 0, maxPackets := 1 }, { timerStart := 0 }⟩

/-- **A packet without a verdict**: the bucket has no tokens yet, and is handed two
packets.  It holds the first one and lets go of the second. -/
theorem verdict_missing :
    ∃ h s, Runs [oneRoomFilter] h s ∧ (∃ pkt, s.pool.packets.objects 1 = some pkt) ∧
      ¬ s.UnderWay 1 ∧ ¬ Conserved [oneRoomFilter] h s 1 := by
  have run : Runs [oneRoomFilter] _ _ :=
    Run.of_replay FilterChain.step (fun _ _ _ h => h)
      [.task 1 (.init ⟨0, 0⟩ ⟨0, 0⟩),
        .arrive { isIngoing := true, packetData := [69] }, .handle 0 0 0 1, .handle 1 0 1 1,
        .arrive { isIngoing := true, packetData := [69] }, .handle 0 1 0 2, .handle 1 1 1 2]
      ⟨rfl, by simp [oneRoomFilter, ShapingFilter.held, TokenBucketFilter.held, TokenBucket.held]⟩
      rfl
  refine ⟨_, _, run, ⟨_, rfl⟩, not_underWay (by decide) 1, ?_⟩
  rintro (⟨⟨i, ⟨f, hf, hp⟩, -⟩, -⟩ | ⟨-, id, v, hv, -⟩)
  · exact heldByNone_iff.mpr (by decide) i f hf hp
  · cases hv

end ShapingRouter
