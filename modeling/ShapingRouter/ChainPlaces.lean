import Mathlib
import ShapingRouter.ChainOrder

/-! # Which filter a packet has come to

A packet in the chain is at one filter: a thread carries it there, or the filter holds it
(`At`).  The position is the only one (`Runs.at_unique`), and a step moves the packets of
the filter that it is about by one position at most, and no others (`StepCases.at_of_at`).
So what lies before a filter and what lies behind it do not mix.
-/

namespace ShapingRouter
open Library

/-- The filter that a step is about. -/
def LockedEvent.position : LockedEvent → Option Nat
  | .arrive _ => none
  | .run _ frame _ _ => some frame.filter
  | .task i _ => some i

namespace LockedChain
variable {s s' : LockedChain} {acceptMode : Bool} {L : List RouterFilter}

/-- A thread carries the packet to the filter at `i`, or the filter holds it. -/
def At (s : LockedChain) (i : Nat) (p : PacketPtr) : Prop :=
  (∃ stack ∈ s.threads, ∃ frame ∈ stack, frame.filter = i ∧ p ∈ frame.carried) ∨
    ∃ f, s.filters[i]? = some f ∧ p ∈ f.held

theorem mem_carriedBy {frames : List ChainFrame} {p : PacketPtr} :
    p ∈ carriedBy frames ↔ ∃ frame ∈ frames, p ∈ frame.carried := by
  induction frames with
  | nil => simp
  | cons frame frames ih => simp [ih]

theorem carriedBy_eq_holdings (frames : List ChainFrame) :
    carriedBy frames = holdings (fun frame => (frame.carried : Multiset PacketPtr)) frames := by
  induction frames with
  | nil => rfl
  | cons frame frames ih => rw [carriedBy_cons, holdings_cons, ih]

/-! ## One place at a time -/

/-- What is in the chain is there once, and has not left. -/
theorem Runs.once {h : List LockedEvent} (run : Runs acceptMode L h s) (p : PacketPtr) :
    s.inside.count p + (exits acceptMode L h).count p ≤ 1 := by
  have hcount := Multiset.nodup_iff_count_le_one.mp
    (Multiset.nodup_of_le run.accounted (Multiset.nodup_range _)) p
  rwa [Multiset.count_add, Multiset.coe_count] at hcount

theorem Runs.count_le {h : List LockedEvent} (run : Runs acceptMode L h s) (p : PacketPtr) :
    (holdings carriedBy s.threads).count p + (holdings RouterFilter.held s.filters).count p +
      (exits acceptMode L h).count p ≤ 1 := by
  have hcount := run.once p
  rwa [inside, Multiset.count_add] at hcount

theorem At.mem_inside {i : Nat} {p : PacketPtr} (h : s.At i p) : p ∈ s.inside := by
  rw [inside, Multiset.mem_add, mem_holdings, mem_holdings]
  rcases h with ⟨stack, hstack, frame, hframe, -, hp⟩ | ⟨f, hf, hp⟩
  · obtain ⟨t, ht⟩ := List.mem_iff_getElem?.mp hstack
    exact Or.inl ⟨t, stack, ht, mem_carriedBy.mpr ⟨frame, hframe, hp⟩⟩
  · exact Or.inr ⟨i, f, hf, hp⟩

theorem Runs.inside_lt {h : List LockedEvent} (run : Runs acceptMode L h s) {p : PacketPtr}
    (hp : p ∈ s.inside) : p < s.pool.packets.next :=
  Multiset.mem_range.mp (Multiset.mem_of_le ((Multiset.le_add_right _ _).trans run.accounted) hp)

theorem Runs.exits_lt {h : List LockedEvent} (run : Runs acceptMode L h s) {p : PacketPtr}
    (hp : p ∈ exits acceptMode L h) : p < s.pool.packets.next :=
  Multiset.mem_range.mp (Multiset.mem_of_le ((Multiset.le_add_left _ _).trans run.accounted) hp)

theorem Runs.at_lt {h : List LockedEvent} (run : Runs acceptMode L h s) {i : Nat} {p : PacketPtr}
    (hp : s.At i p) : p < s.pool.packets.next := run.inside_lt hp.mem_inside

/-- The packet that a thread is about to hand on is nowhere else. -/
theorem Runs.alone {h : List LockedEvent} (run : Runs acceptMode L h s) {t : Nat}
    {frame : ChainFrame} {rest : List ChainFrame} (ht : s.threads[t]? = some (frame :: rest))
    {p : PacketPtr} (hp : p ∈ frame.carried) :
    p ∉ carriedBy rest ∧
      (∀ t' stack, t' ≠ t → s.threads[t']? = some stack → p ∉ carriedBy stack) ∧
      (∀ (i : Nat) f, s.filters[i]? = some f → p ∉ f.held) ∧ p ∉ exits acceptMode L h := by
  have hcount := run.count_le p
  have htop : 0 < (frame.carried : Multiset PacketPtr).count p := Multiset.count_pos.mpr hp
  have hset := congrArg (Multiset.count p) (holdings_set carriedBy ht rest)
  simp only [carriedBy_cons, Multiset.count_add] at hset
  refine ⟨fun hrest => ?_, fun t' stack hne ht' hstack => ?_, fun i f hf hheld => ?_,
    fun hout => ?_⟩
  · have hmem : p ∈ holdings carriedBy (s.threads.set t rest) :=
      mem_holdings.mpr ⟨t, rest,
        List.getElem?_set_self (List.getElem?_eq_some_iff.mp ht).1, hrest⟩
    have := Multiset.count_pos.mpr hmem
    omega
  · have hmem : p ∈ carriedBy (frame :: rest) :=
      mem_carriedBy.mpr ⟨frame, List.mem_cons_self, hp⟩
    exact hne (place_unique (by omega) ht hmem ht' hstack)
  · have := Multiset.count_pos.mpr (mem_holdings.mpr ⟨i, f, hf, hheld⟩)
    omega
  · have := List.count_pos_iff.mpr hout
    omega

/-- **A packet is at one filter only.** -/
theorem Runs.at_unique {h : List LockedEvent} (run : Runs acceptMode L h s) {i j : Nat}
    {p : PacketPtr} (hi : s.At i p) (hj : s.At j p) : i = j := by
  have hcount := run.count_le p
  have hthread : ∀ {k}, (∃ stack ∈ s.threads, ∃ frame ∈ stack, frame.filter = k ∧
      p ∈ frame.carried) → 0 < (holdings carriedBy s.threads).count p := by
    rintro k ⟨stack, hstack, frame, hframe, -, hp⟩
    obtain ⟨t, ht⟩ := List.mem_iff_getElem?.mp hstack
    exact Multiset.count_pos.mpr
      (mem_holdings.mpr ⟨t, stack, ht, mem_carriedBy.mpr ⟨frame, hframe, hp⟩⟩)
  have hfilter : ∀ {k : Nat} {f : RouterFilter}, s.filters[k]? = some f → p ∈ f.held →
      0 < (holdings RouterFilter.held s.filters).count p :=
    fun hf hp => Multiset.count_pos.mpr (mem_holdings.mpr ⟨_, _, hf, hp⟩)
  rcases hi with hi | ⟨f, hf, hp⟩
  · rcases hj with hj | ⟨g, hg, hq⟩
    · have hpos := hthread hi
      obtain ⟨stack, hstack, frame, hframe, rfl, hp⟩ := hi
      obtain ⟨stack', hstack', frame', hframe', rfl, hp'⟩ := hj
      obtain ⟨t, ht⟩ := List.mem_iff_getElem?.mp hstack
      obtain ⟨t', ht'⟩ := List.mem_iff_getElem?.mp hstack'
      have hmem := mem_carriedBy.mpr ⟨frame, hframe, hp⟩
      have hmem' := mem_carriedBy.mpr ⟨frame', hframe', hp'⟩
      obtain rfl := place_unique (by omega) ht hmem ht' hmem'
      obtain rfl := Option.some.inj (ht'.symm.trans ht)
      -- within the thread it is the same frame
      obtain ⟨k, hk⟩ := List.mem_iff_getElem?.mp hframe
      obtain ⟨k', hk'⟩ := List.mem_iff_getElem?.mp hframe'
      have hone : (holdings (fun f : ChainFrame => (f.carried : Multiset PacketPtr)) stack').count p
          ≤ 1 := by
        rw [← carriedBy_eq_holdings]
        have hsum := congrArg (Multiset.count p) (holdings_eraseIdx carriedBy ht)
        rw [Multiset.count_add] at hsum
        omega
      obtain rfl := place_unique hone hk (Multiset.mem_coe.mpr hp) hk' (Multiset.mem_coe.mpr hp')
      rw [Option.some.inj (hk.symm.trans hk')]
    · have := hthread hi
      have := hfilter hg hq
      omega
  · rcases hj with hj | ⟨g, hg, hq⟩
    · have := hthread hj
      have := hfilter hf hp
      omega
    · exact (place_unique (by omega) hf hp hg hq).symm

/-! ## What a step moves -/

section Moves
variable {frames : List ChainFrame}

/-- The filter `f` has become `f'`, and the new frames are its own. -/
theorem own_flow {i : Nat} {f f' : RouterFilter} (hi : s.filters[i]? = some f)
    {frames : List ChainFrame} {come : Multiset PacketPtr}
    (h : holdings RouterFilter.held (s.filters.set i f') + carriedBy frames ≤
      holdings RouterFilter.held s.filters + come) :
    f'.held + carriedBy frames ≤ f.held + come := by
  have hset := holdings_set RouterFilter.held hi f'
  refine le_of_add_le_add_left (a := holdings RouterFilter.held s.filters) ?_
  calc holdings RouterFilter.held s.filters + (f'.held + carriedBy frames)
      = holdings RouterFilter.held (s.filters.set i f') + carriedBy frames + f.held := by
        rw [← add_assoc, ← hset]
        abel
    _ ≤ holdings RouterFilter.held s.filters + come + f.held := add_le_add_left h _
    _ = holdings RouterFilter.held s.filters + (f.held + come) := by abel

/-- Packets go on to the filter behind, or back to the own one. -/
theorem FrameCases.filter_of_carried {frame : ChainFrame} (hc : FrameCases s frame s' frames)
    {frame' : ChainFrame} (hframe' : frame' ∈ frames) {p : PacketPtr} (hp : p ∈ frame'.carried) :
    frame'.filter = frame.filter ∨ frame'.filter = frame.filter + 1 := by
  cases hc with
  | passOn =>
    obtain rfl := List.mem_singleton.mp hframe'
    exact Or.inr rfl
  | enter =>
    obtain rfl := List.mem_singleton.mp hframe'
    cases hp
  | wake =>
    obtain rfl := List.mem_singleton.mp hframe'
    split
    · exact Or.inr rfl
    · exact Or.inl rfl
  | turn hi hq hframes =>
    rcases hframes with rfl | rfl
    · cases hframe'
    · obtain rfl := List.mem_singleton.mp hframe'
      cases hp
  | flush | trySend =>
    rcases List.mem_append.mp hframe' with hmem | hmem
    · obtain ⟨q, -, rfl⟩ := List.mem_map.mp hmem
      exact Or.inr rfl
    · obtain rfl := List.mem_singleton.mp hmem
      cases hp
  | keep | enqueue | output | push | flushed | bucket | unlock | asyncPop => cases hframe'

theorem TaskCases.filter_of_carried {i : Nat} {task : PoolTask}
    (hc : TaskCases s i task s' frames) {frame : ChainFrame} (hframe : frame ∈ frames)
    {p : PacketPtr} (hp : p ∈ frame.carried) : frame.filter = i + 1 := by
  cases hc with
  | expire =>
    rcases List.mem_cons.mp hframe with rfl | hframe
    · rfl
    · obtain rfl := List.mem_singleton.mp hframe
      cases hp
  | burst =>
    obtain rfl := List.mem_singleton.mp hframe
    cases hp
  | run =>
    simp only [List.mem_cons, List.not_mem_nil, or_false] at hframe
    rcases hframe with rfl | rfl | rfl <;> cases hp
  | popHandler | curve | clear | popOutput => cases hframe

/-- **What a step moves**: a packet is at its filter still, or has gone on from the filter
that the step is about, or comes in. -/
theorem StepCases.at_of_at {e : LockedEvent} (hc : StepCases s e s') {j : Nat} {p : PacketPtr}
    (hp : s'.At j p) :
    s.At j p ∨ (∃ i, e.position = some i ∧ j = i + 1 ∧ s.At i p) ∨
      ((∃ pkt, e = .arrive pkt) ∧ j = 0 ∧ p = s.pool.packets.next) := by
  cases hc with
  | arrive pkt hset hidle =>
    rcases hp with ⟨stack, hstack, frame, hframe, hj, hp⟩ | hheld
    · rcases List.mem_or_eq_of_mem_set hstack with hold | rfl
      · exact Or.inl (Or.inl ⟨stack, hold, frame, hframe, hj, hp⟩)
      · obtain rfl := List.mem_singleton.mp hframe
        exact Or.inr (Or.inr ⟨⟨pkt, rfl⟩, hj.symm, List.mem_singleton.mp hp⟩)
    · exact Or.inl (Or.inr hheld)
  | @run t frame r now rest frames s₁ ht hc =>
    obtain ⟨f, f', hi, hset⟩ := hc.own
    have hflow := hc.flow
    rw [hset] at hflow
    have hown := own_flow hi hflow
    -- what the frame leaves, at its filter or on the way, was there before
    have hback : p ∈ f'.held + carriedBy frames → s.At frame.filter p := by
      intro hmem
      rcases Multiset.mem_add.mp (Multiset.mem_of_le hown hmem) with hheld | hcarried
      · exact Or.inr ⟨f, hi, hheld⟩
      · exact Or.inl ⟨_, List.mem_of_getElem? ht, frame, List.mem_cons_self, rfl, hcarried⟩
    rcases hp with ⟨stack, hstack, frame', hframe', rfl, hp⟩ | ⟨g, hg, hp⟩
    · rcases List.mem_or_eq_of_mem_set hstack with hold | rfl
      · exact Or.inl (Or.inl ⟨stack, hold, frame', hframe', rfl, hp⟩)
      · rcases List.mem_append.mp hframe' with hnew | hrest
        · have hat := hback (Multiset.mem_add.mpr (Or.inr (mem_carriedBy.mpr ⟨frame', hnew, hp⟩)))
          rcases hc.filter_of_carried hnew hp with hsame | hnext
          · exact Or.inl (by rwa [hsame])
          · exact Or.inr (Or.inl ⟨frame.filter, rfl, hnext, hat⟩)
        · exact Or.inl (Or.inl ⟨_, List.mem_of_getElem? ht, frame',
            List.mem_cons_of_mem _ hrest, rfl, hp⟩)
    · have hg : s₁.filters[j]? = some g := hg
      rw [hset] at hg
      rcases getElem?_set_cases hg with ⟨rfl, rfl⟩ | ⟨-, hg⟩
      · exact Or.inl (hback (Multiset.mem_add.mpr (Or.inl hp)))
      · exact Or.inl (Or.inr ⟨g, hg, hp⟩)
  | @task i task frames s₁ hc =>
    obtain ⟨f, f', hi, hset⟩ := hc.own
    have hflow := le_of_eq ((hc.balance true []).trans (add_zero _).symm)
    rw [hset] at hflow
    have hown : f'.held + carriedBy frames ≤ f.held + 0 := by
      refine own_flow hi (le_trans ?_ hflow)
      exact add_le_add_right (Multiset.le_add_right _ _) _
    have hback : p ∈ f'.held + carriedBy frames → s.At i p := by
      intro hmem
      have hheld := Multiset.mem_of_le hown hmem
      rw [add_zero] at hheld
      exact Or.inr ⟨f, hi, hheld⟩
    rcases hp with ⟨stack, hstack, frame', hframe', rfl, hp⟩ | ⟨g, hg, hp⟩
    · rcases List.mem_append.mp hstack with hold | hnew
      · exact Or.inl (Or.inl ⟨stack, hold, frame', hframe', rfl, hp⟩)
      · obtain rfl := List.mem_singleton.mp hnew
        have hat := hback (Multiset.mem_add.mpr (Or.inr (mem_carriedBy.mpr ⟨frame', hframe', hp⟩)))
        exact Or.inr (Or.inl ⟨i, rfl, hc.filter_of_carried hframe' hp, hat⟩)
    · have hg : s₁.filters[j]? = some g := hg
      rw [hset] at hg
      rcases getElem?_set_cases hg with ⟨rfl, rfl⟩ | ⟨-, hg⟩
      · exact Or.inl (hback (Multiset.mem_add.mpr (Or.inl hp)))
      · exact Or.inl (Or.inr ⟨g, hg, hp⟩)

end Moves

/-- What leaves the chain was at its last filter. -/
theorem StepCases.at_of_exit {h : List LockedEvent} (run : Runs acceptMode L h s)
    {e : LockedEvent} (hc : StepCases s e s') {p : PacketPtr} (hp : p ∈ exit acceptMode L e) :
    s.At (L.length + 1) p := by
  cases hc with
  | arrive => cases hp
  | @run t frame r now rest frames s₁ ht hc =>
    cases frame with
    | handle i q =>
      simp only [exit] at hp
      split at hp
      · rename_i hlast
        obtain rfl := List.mem_singleton.mp hp
        exact Or.inl ⟨_, List.mem_of_getElem? ht, _, List.mem_cons_self, hlast.2,
          List.mem_singleton.mpr rfl⟩
      · cases hp
    | push | init | flush | flushed | refill | trySend | unlock | rearm | asyncPop => cases hp
  | @task i task frames s₁ hc =>
    cases hc with
    | @popOutput k d pop stage hi hk =>
      obtain rfl := run.outputLibnet_last hi
      refine Or.inr ⟨_, hi, ?_⟩
      have hwait := OutputStage.waiting_afterRun hk pop
      have hmem : p ∈ ((stage.afterRun k pop).waiting + d.data : Multiset PacketPtr) :=
        Multiset.mem_add.mpr (Or.inr hp)
      rwa [hwait] at hmem
    | popHandler | expire | burst | run | clear => cases hp
    | curve hi hl hl' hcls htask =>
      obtain ⟨k, rfl | rfl⟩ := htask <;> cases hp

end LockedChain
end ShapingRouter
