import Mathlib
import ShapingRouter.ChainPlaces
import ShapingRouter.NatHistory

/-! # The NAT in a chain

`NatHistory` is about a NAT by itself, which handles one packet after the other.  In a
chain the packets come to the NAT on several threads, some of them held back by filters
before it, while other threads are at work behind it.  But each packet comes to it once,
as it came into the chain, and what the NAT makes of it no other filter changes.  So the
packets that the chain hands to its first NAT, in the order in which it does, are a run of
the NAT by itself (`Follows`), and what is behind the NAT is what that run let through.
-/

namespace ShapingRouter
open Library

/-- What no filter but `Nat` changes: all but the time stamp, and the flag that there was a
verdict. -/
def Packet.content (pkt : Packet) : Packet := { pkt with stamp := 0, verdictSet := false }

namespace LockedEvent

/-- The packet that comes in. -/
def arrival : LockedEvent → Option Packet
  | .arrive pkt => some pkt
  | .run .. | .task .. => none

/-- The packet that the filter at `i` handles, and when. -/
def handed (i : Nat) : LockedEvent → Option (PacketPtr × Nat)
  | .run _ (.handle j p) _ now => if j = i then some (p, now) else none
  | _ => none

theorem position_of_handed {i : Nat} {e : LockedEvent} {x : PacketPtr × Nat}
    (h : e.handed i = some x) : e.position = some i := by
  unfold handed at h
  split at h
  · split at h
    · rename_i heq
      rw [← heq]
      rfl
    · cases h
  · cases h

end LockedEvent

namespace LockedChain
variable {s s' : LockedChain} {acceptMode : Bool} {L : List RouterFilter} {h : List LockedEvent}

/-- The packet with the number `p`, as it came in. -/
def came (h : List LockedEvent) (p : PacketPtr) : Option Packet :=
  (h.reverse.filterMap LockedEvent.arrival)[p]?

/-- The packets that the filter at `i` has handled, and when, the last one first. -/
def handedTo (i : Nat) (h : List LockedEvent) : List (PacketPtr × Nat) :=
  h.filterMap (LockedEvent.handed i)

/-! ## The packets that came in -/

theorem Runs.next_eq (run : Runs acceptMode L h s) :
    s.pool.packets.next = (h.reverse.filterMap LockedEvent.arrival).length := by
  induction run with
  | start hs =>
    rw [hs.pool]
    rfl
  | @step h s s' e run hs ih =>
    rw [List.reverse_cons, List.filterMap_append, List.length_append, ← ih]
    have hc := step_cases hs
    rcases hc.keeps with ⟨pkt, rfl, hpool⟩ | ⟨q, hkeeps⟩
    · rw [hpool]
      rfl
    · cases hc with
      | arrive => exact absurd hkeeps.next (Nat.succ_ne_self _)
      | run | task => exact hkeeps.next

theorem Runs.came_eq_none_iff (run : Runs acceptMode L h s) {p : PacketPtr} :
    came h p = none ↔ s.pool.packets.next ≤ p := by
  rw [came, List.getElem?_eq_none_iff, run.next_eq]

/-- Packets that have come in stay what they are. -/
theorem came_cons (e : LockedEvent) {p : PacketPtr} {pkt : Packet} (hp : came h p = some pkt) :
    came (e :: h) p = some pkt := by
  unfold came at hp ⊢
  rw [List.reverse_cons, List.filterMap_append,
    List.getElem?_append_left (List.getElem?_eq_some_iff.mp hp).1]
  exact hp

theorem Runs.came_cons_of_lt (run : Runs acceptMode L h s) (e : LockedEvent) {p : PacketPtr}
    (hp : p < s.pool.packets.next) : came (e :: h) p = came h p := by
  cases hcame : came h p with
  | none => exact absurd (run.came_eq_none_iff.mp hcame) (Nat.not_le.mpr hp)
  | some pkt => exact came_cons e hcame

theorem Runs.came_arrive (run : Runs acceptMode L h s) (pkt : Packet) :
    came (.arrive pkt :: h) s.pool.packets.next = some pkt := by
  rw [came, run.next_eq, List.reverse_cons, List.filterMap_append,
    List.getElem?_append_right le_rfl]
  simp [LockedEvent.arrival]

theorem mem_of_came {p : PacketPtr} {pkt : Packet} (hp : came h p = some pkt) :
    .arrive pkt ∈ h := by
  obtain ⟨e, he, harrival⟩ := List.mem_filterMap.mp (List.mem_of_getElem? hp)
  cases e with
  | arrive pkt' =>
    obtain rfl := Option.some.inj harrival
    exact List.mem_reverse.mp he
  | run | task => cases harrival

/-! ## What the filters do to a packet -/

theorem packet_modify (s : LockedChain) (p : PacketPtr) {f : ParentPacket → ParentPacket}
    (hf : ∀ parent, ∃ stamp verdictSet, f parent = { parent with stamp, verdictSet })
    (filters : List RouterFilter) (threads : List (List ChainFrame))
    (verdicts : List (PacketPtr × UInt32 × NfVerdict)) (q : PacketPtr) :
    (packet ⟨filters, ⟨s.pool.packets.modify p f, verdicts⟩, s.headers, threads⟩ q).map
      Packet.content = (s.packet q).map Packet.content := by
  simp only [packet, Heap.modify_objects]
  split
  · rename_i hq
    subst hq
    cases s.pool.packets.objects q with
    | none => rfl
    | some parent =>
      obtain ⟨stamp, verdictSet, hparent⟩ := hf parent
      simp only [Option.map_some, hparent]
      rfl
  · rfl

/-- A verdict is not part of the content. -/
theorem packet_setVerdict (s : LockedChain) (p : PacketPtr) (accept : Bool)
    (filters : List RouterFilter) (threads : List (List ChainFrame)) (q : PacketPtr) :
    (packet ⟨filters, s.pool.setVerdict p accept, s.headers, threads⟩ q).map Packet.content =
      (s.packet q).map Packet.content := by
  unfold PacketPool.setVerdict
  split
  · split
    · rfl
    · exact s.packet_modify p (fun parent => ⟨parent.stamp, true, rfl⟩) _ _ _ q
  · rfl

/-- The state after the NAT at `k` has handled the packet `p`. -/
def afterNat (s : LockedChain) (t k : Nat) (p : PacketPtr) (rest : List ChainFrame)
    (nat : NatBox) : Option Packet → LockedChain
  | some pkt => { (s.setFilter k (.nat nat)).rewrite p pkt with
      threads := s.threads.set t (.handle (k + 1) p :: rest) }
  | none => { s.setFilter k (.nat nat) with threads := s.threads.set t rest }

/-- What a step is to the NATs: one of them handles a packet, or they and all packets stay
as they are. -/
inductive NatCases (s : LockedChain) : LockedEvent → LockedChain → Prop
  | handles {t k now : Nat} {p : PacketPtr} {r : ℚ} {rest : List ChainFrame} {n n' : NatBox}
      {pkt : Packet} {out : Option Packet} : s.threads[t]? = some (.handle k p :: rest) →
      s.filters[k]? = some (.nat n) → s.packet p = some pkt → n.step now pkt = some (n', out) →
      NatCases s (.run t (.handle k p) r now) (s.afterNat t k p rest n' out)
  | keeps {e : LockedEvent} {s' : LockedChain} :
      (∀ k n, s.filters[k]? = some (.nat n) →
        s'.filters[k]? = some (.nat n) ∧ e.position ≠ some k) →
      (∀ q, q < s.pool.packets.next →
        (s'.packet q).map Packet.content = (s.packet q).map Packet.content) →
      NatCases s e s'

theorem FrameCases.not_nat {frame : ChainFrame} {frames : List ChainFrame}
    (hc : FrameCases s frame s' frames) {n : NatBox}
    (hn : s.filters[frame.filter]? = some (.nat n)) : ∃ p, frame = .handle frame.filter p := by
  cases hc with
  | push hi | turn hi | flush hi | flushed hi | trySend hi | unlock hi =>
    cases hi.symm.trans hn
  | asyncPop hi hl =>
    obtain rfl := Option.some.inj (hi.symm.trans hn)
    cases hl
  | bucket hi hq hframe =>
    rcases hframe with ⟨diff, rfl, -⟩ | rfl <;> cases hi.symm.trans hn
  | passOn | keep | enqueue | output | enter | wake => exact ⟨_, rfl⟩

theorem beginTask_nat {i : Nat} {n : NatBox} (hn : s.filters[i]? = some (.nat n))
    (task : PoolTask) : s.beginTask i task = none := by
  unfold beginTask
  rw [hn]

/-- A filter that is no NAT leaves the contents of all packets as they are. -/
theorem handle_content {r : ℚ} {now i : Nat} {p : PacketPtr} {f : RouterFilter}
    {frames : List ChainFrame} (hf : ∀ n, f ≠ .nat n)
    (h : s.handle r now i p f = some (s', frames)) (q : PacketPtr) :
    (s'.packet q).map Packet.content = (s.packet q).map Packet.content := by
  cases f with
  | nat n => exact absurd rfl (hf n)
  | input | outputLibnet _ =>
    obtain ⟨rfl, -⟩ := Prod.mk.inj (Option.some.inj h)
    rfl
  | inputDrop | output =>
    obtain ⟨rfl, -⟩ := Prod.mk.inj (Option.some.inj h)
    exact s.packet_setVerdict p _ _ _ q
  | shaping g =>
    cases g with
    | loss g | dynamicLoss g =>
      obtain ⟨rfl, -⟩ := Prod.mk.inj (Option.some.inj h)
      by_cases hr : g.drops r = true
      · simp only [ShapingFilter.handlePacket, hr, if_true]
        exact s.packet_setVerdict p false _ _ q
      · simp only [ShapingFilter.handlePacket, hr, Bool.false_eq_true, if_false]
        rfl
    | staticDelay g | dynamicDelay g | burst g =>
      obtain ⟨rfl, -⟩ := Prod.mk.inj (Option.some.inj h)
      rfl
    | tokenBucketFilter g =>
      obtain ⟨-, h⟩ := Option.ite_none_right_eq_some.mp h
      obtain ⟨rfl, -⟩ := Prod.mk.inj (Option.some.inj h)
      rfl

theorem runFrame_handle {i : Nat} {f : RouterFilter} (hi : s.filters[i]? = some f) (r : ℚ)
    (now : Nat) (p : PacketPtr) :
    s.runFrame r now (.handle i p) = s.handle r now i p f := by
  simp only [runFrame, ChainFrame.filter, hi]

theorem runFrame_content {r : ℚ} {now : Nat} {frame : ChainFrame} {frames : List ChainFrame}
    (hf : ∀ n, s.filters[frame.filter]? ≠ some (.nat n))
    (h : s.runFrame r now frame = some (s', frames)) (q : PacketPtr) :
    (s'.packet q).map Packet.content = (s.packet q).map Packet.content := by
  -- only `handlePacket` touches packets
  have hhandle : ∀ i p, frame = .handle i p →
      (s'.packet q).map Packet.content = (s.packet q).map Packet.content := by
    rintro i p rfl
    obtain ⟨f, -, hi, -⟩ := (runFrame_cases h).own
    have hi : s.filters[i]? = some f := hi
    rw [runFrame_handle hi] at h
    exact handle_content (fun n hn => hf n (hi.trans (congrArg some hn))) h q
  cases runFrame_cases h with
  | passOn | keep | enqueue | output | enter | wake => exact hhandle _ _ rfl
  | push | turn | flush | flushed | bucket | trySend | unlock | asyncPop => rfl

/-- **What a step is to the NATs.** -/
theorem natCases {e : LockedEvent} (h : s.step e = some s') : NatCases s e s' := by
  cases e with
  | arrive pkt =>
    obtain ⟨-, h⟩ := Option.ite_none_right_eq_some.mp h
    obtain rfl := Option.some.inj h
    refine .keeps (fun k n hn => ⟨hn, by simp [LockedEvent.position]⟩) fun q hq => ?_
    have hne : q ≠ s.pool.packets.next := Nat.ne_of_lt hq
    simp [packet, PacketPool.add, Heap.alloc, Function.update_of_ne hne]
  | run t frame r now =>
    simp only [step] at h
    split at h
    · rename_i next rest ht
      obtain ⟨rfl, h⟩ := Option.ite_none_right_eq_some.mp h
      obtain ⟨⟨s₁, frames⟩, hrun, rfl⟩ := Option.map_eq_some_iff.mp h
      have hc := runFrame_cases hrun
      by_cases hnat : ∃ n, s.filters[next.filter]? = some (.nat n)
      · obtain ⟨n, hn⟩ := hnat
        obtain ⟨p, hframe⟩ := hc.not_nat hn
        rw [hframe] at hrun ht ⊢
        generalize next.filter = k at hn hrun ht ⊢
        rw [runFrame_handle hn, handle] at hrun
        cases hpkt : s.packet p with
        | none =>
          rw [hpkt] at hrun
          cases hrun
        | some pkt =>
          rw [hpkt] at hrun
          obtain ⟨⟨n', out⟩, hstep, heq⟩ := Option.map_eq_some_iff.mp hrun
          have hcase := @NatCases.handles s t k now p r rest n n' pkt out ht hn hpkt hstep
          cases out with
          | none | some pkt' =>
            obtain ⟨rfl, rfl⟩ := Prod.mk.inj heq
            exact hcase
      · refine .keeps (fun k n hn => ?_) fun q _ => ?_
        · have hk : k ≠ next.filter := fun hk => hnat ⟨n, by rw [← hk]; exact hn⟩
          exact ⟨(hc.filters_other hk).trans hn,
            fun heq => hk (Option.some.inj heq).symm⟩
        · exact runFrame_content (fun n hn => hnat ⟨n, hn⟩) hrun q
    · cases h
  | task i task =>
    obtain ⟨⟨s₁, frames⟩, hbegin, rfl⟩ := Option.map_eq_some_iff.mp h
    have hc := beginTask_cases hbegin
    refine .keeps (fun k n hn => ?_) fun q _ => ?_
    · have hk : k ≠ i := by
        rintro rfl
        rw [beginTask_nat hn] at hbegin
        cases hbegin
      exact ⟨(hc.filters_other hk).trans hn, fun heq => hk (Option.some.inj heq).symm⟩
    · show (s₁.packet q).map Packet.content = (s.packet q).map Packet.content
      cases hc with
      | expire =>
        exact s.packet_modify _ (fun parent => ⟨_, parent.verdictSet, rfl⟩) _ _ _ q
      | popHandler | curve | clear | burst | run | popOutput => rfl

/-! ## After the NAT -/

section AfterNat
variable {t k : Nat} {p : PacketPtr} {rest : List ChainFrame} {n : NatBox}

/-- The packet that the NAT has handled is behind it, or is gone, and no other packet has
moved. -/
theorem Runs.at_afterNat (run : Runs acceptMode L h s)
    (ht : s.threads[t]? = some (.handle k p :: rest)) (n' : NatBox) (out : Option Packet) {j : Nat}
    {q : PacketPtr} (hat : (s.afterNat t k p rest n' out).At j q) :
    (q = p ∧ j = k + 1 ∧ ∃ pkt, out = some pkt) ∨ (q ≠ p ∧ s.At j q) := by
  obtain ⟨hrest, hothers, hheld, -⟩ := run.alone ht (List.mem_singleton.mpr rfl)
  have hlt := (List.getElem?_eq_some_iff.mp ht).1
  -- what a thread carries that is not new
  have hold : ∀ stack frame, (stack = rest ∨ ∃ t', t' ≠ t ∧ s.threads[t']? = some stack) →
      frame ∈ stack → frame.filter = j → q ∈ frame.carried → q ≠ p ∧ s.At j q := by
    intro stack frame hstack hframe hj hq
    have hcarried := mem_carriedBy.mpr ⟨frame, hframe, hq⟩
    rcases hstack with rfl | ⟨t', hne, ht'⟩
    · refine ⟨fun heq => hrest (heq ▸ hcarried),
        Or.inl ⟨_, List.mem_of_getElem? ht, frame, ?_, hj, hq⟩⟩
      exact List.mem_cons_of_mem _ hframe
    · exact ⟨fun heq => hothers t' stack hne ht' (heq ▸ hcarried),
        Or.inl ⟨stack, List.mem_of_getElem? ht', frame, hframe, hj, hq⟩⟩
  have hfilter : ∀ f, (s.filters.set k (.nat n'))[j]? = some f → q ∈ f.held →
      q ≠ p ∧ s.At j q := by
    intro f hf hq
    rcases getElem?_set_cases hf with ⟨-, rfl⟩ | ⟨-, hf⟩
    · exact absurd hq (Multiset.notMem_zero q)
    · exact ⟨fun heq => hheld j f hf (heq ▸ hq), Or.inr ⟨f, hf, hq⟩⟩
  cases out with
  | none =>
    rcases hat with ⟨stack, hstack, frame, hframe, hj, hq⟩ | ⟨f, hf, hq⟩
    · obtain ⟨t', ht'⟩ := List.mem_iff_getElem?.mp hstack
      refine Or.inr (hold stack frame ?_ hframe hj hq)
      by_cases heq : t' = t
      · subst heq
        have ht' : (s.threads.set t' rest)[t']? = some stack := ht'
        rw [List.getElem?_set_self hlt] at ht'
        exact Or.inl (Option.some.inj ht').symm
      · exact Or.inr ⟨t', heq, (List.getElem?_set_ne (Ne.symm heq)).symm.trans ht'⟩
    · exact Or.inr (hfilter f hf hq)
  | some pkt =>
    rcases hat with ⟨stack, hstack, frame, hframe, hj, hq⟩ | ⟨f, hf, hq⟩
    · obtain ⟨t', ht'⟩ := List.mem_iff_getElem?.mp hstack
      by_cases heq : t' = t
      · subst heq
        have ht' : (s.threads.set t' (.handle (k + 1) p :: rest))[t']? = some stack := ht'
        rw [List.getElem?_set_self hlt] at ht'
        obtain rfl := Option.some.inj ht'
        rcases List.mem_cons.mp hframe with rfl | hframe
        · exact Or.inl ⟨List.mem_singleton.mp hq, hj.symm, pkt, rfl⟩
        · exact Or.inr (hold rest frame (Or.inl rfl) hframe hj hq)
      · have ht' := (List.getElem?_set_ne (Ne.symm heq)).symm.trans ht'
        exact Or.inr (hold stack frame (Or.inr ⟨t', heq, ht'⟩) hframe hj hq)
    · exact Or.inr (hfilter f hf hq)

theorem packet_afterNat_of_ne {q : PacketPtr} (hq : q ≠ p) (n' : NatBox) (out : Option Packet) :
    (s.afterNat t k p rest n' out).packet q = s.packet q := by
  cases out with
  | none => rfl
  | some pkt => simp [packet, afterNat, rewrite, setFilter, Heap.modify_objects, hq]

theorem packet_afterNat {pkt pkt' : Packet} (hpkt : s.packet p = some pkt) (n' : NatBox) :
    (s.afterNat t k p rest n' (some pkt')).packet p = some pkt' := by
  obtain ⟨parent, hparent, -⟩ := Option.map_eq_some_iff.mp hpkt
  simp [packet, afterNat, rewrite, setFilter, Heap.modify_objects, hparent]

theorem filters_afterNat (n' : NatBox) (out : Option Packet) :
    (s.afterNat t k p rest n' out).filters = s.filters.set k (.nat n') := by
  cases out <;> rfl

end AfterNat

/-! ## The run of the NAT by itself -/

/-- When the filter at `i` handled the last packet. -/
def lastTime (i : Nat) (h : List LockedEvent) : Nat :=
  ((handedTo i h).head?.map Prod.snd).getD 0

/-- The event of the NAT is that of the packet: at its time, and with the content that the
packet came in with. -/
def Handled (h : List LockedEvent) (x : PacketPtr × Nat) (ev : NatEvent) : Prop :=
  ev.time = x.2 ∧ ∃ pkt, came h x.1 = some pkt ∧ ev.pkt.content = pkt.content

/-- The packet is what the NAT made of it. -/
def Passed (i : Nat) (h : List LockedEvent) (s : LockedChain) (hn : List NatEvent)
    (p : PacketPtr) : Prop :=
  ∃ now ev out, ((p, now), ev) ∈ (handedTo i h).zip hn ∧ ev.out = some out ∧
    (s.packet p).map Packet.content = some out.content

/-- `hn` is a run of the NAT at `i`, by itself, that handles the packets which the chain
hands to it; those before it have not been handled, and those behind it are as it made
them, unless there is another NAT. -/
structure Follows (acceptMode : Bool) (L : List RouterFilter) (int : UInt32) (c : NatConfig)
    (i : Nat) (h : List LockedEvent) (s : LockedChain) (hn : List NatEvent) (n : NatBox) :
    Prop where
  filter : s.filters[i]? = some (.nat n)
  run : NatRun int c hn ⟨n, lastTime i h⟩
  events : List.Forall₂ (Handled h) (handedTo i h) hn
  once : ((handedTo i h).map Prod.fst).Nodup
  before : ∀ j ≤ i, ∀ p, s.At j p → p ∉ (handedTo i h).map Prod.fst ∧
    (s.packet p).map Packet.content = (came h p).map Packet.content
  behind : (∀ k n, s.filters[k]? = some (.nat n) → k = i) →
    ∀ p, (∃ j, i < j ∧ s.At j p) ∨ p ∈ exits acceptMode L h → Passed i h s hn p

theorem Handled.cons {x : PacketPtr × Nat} {ev : NatEvent} (e : LockedEvent)
    (hx : Handled h x ev) : Handled (e :: h) x ev := by
  obtain ⟨htime, pkt, hcame, hpkt⟩ := hx
  exact ⟨htime, pkt, came_cons e hcame, hpkt⟩

theorem handedTo_cons_of_none {i : Nat} {e : LockedEvent} (he : e.handed i = none) :
    handedTo i (e :: h) = handedTo i h := List.filterMap_cons_none he

theorem handedTo_cons_of_some {i : Nat} {e : LockedEvent} {x : PacketPtr × Nat}
    (he : e.handed i = some x) : handedTo i (e :: h) = x :: handedTo i h :=
  List.filterMap_cons_some he

theorem Passed.mono {i : Nat} {h h' : List LockedEvent} {hn hn' : List NatEvent} {p : PacketPtr}
    (hp : Passed i h s hn p)
    (hsub : ∀ x ∈ (handedTo i h).zip hn, x ∈ (handedTo i h').zip hn')
    (hpkt : (s'.packet p).map Packet.content = (s.packet p).map Packet.content) :
    Passed i h' s' hn' p := by
  obtain ⟨now, ev, out, hmem, hout, hcontent⟩ := hp
  exact ⟨now, ev, out, hsub _ hmem, hout, hpkt.trans hcontent⟩

/-- What can be read off the content. -/
theorem content_congr {α : Type} (f : Packet → α) (hf : ∀ pkt : Packet, f pkt.content = f pkt)
    {pkt pkt' : Packet} (h : pkt.content = pkt'.content) : f pkt = f pkt' := by
  rw [← hf pkt, h, hf pkt']

theorem content_isIngoing {pkt pkt' : Packet} (h : pkt.content = pkt'.content) :
    pkt.isIngoing = pkt'.isIngoing :=
  content_congr (fun pkt => pkt.isIngoing) (fun _ => rfl) h

theorem packet_arrive {pkt : Packet} (h : s.step (.arrive pkt) = some s') :
    s'.packet s.pool.packets.next = some pkt := by
  obtain ⟨-, h⟩ := Option.ite_none_right_eq_some.mp h
  obtain rfl := Option.some.inj h
  simp [packet, PacketPool.add, Heap.alloc]

theorem Shape.nat_lt (hshape : s.Shape acceptMode L) {i : Nat} {n : NatBox}
    (hi : s.filters[i]? = some (.nat n)) : i < L.length + 1 := by
  have hlt := (List.getElem?_eq_some_iff.mp hi).1
  rw [hshape.length] at hlt
  have hne : i ≠ L.length + 1 := by
    rintro rfl
    have hcls := hshape.cls_last hi
    cases acceptMode <;> cases hcls
  omega

section Step
variable {int : UInt32} {c : NatConfig} {i : Nat} {hn : List NatEvent} {n : NatBox}
  {e : LockedEvent}

/-- The event of a packet that was handed to the NAT. -/
theorem Follows.event_of_handed (hF : Follows acceptMode L int c i h s hn n)
    {x : PacketPtr × Nat} (hx : x ∈ handedTo i h) :
    ∃ ev, (x, ev) ∈ (handedTo i h).zip hn ∧ Handled h x ev := by
  obtain ⟨hlen, hzip⟩ := List.forall₂_iff_zip.mp hF.events
  rw [← List.map_fst_zip (le_of_eq hlen)] at hx
  obtain ⟨⟨x, ev⟩, hmem, rfl⟩ := List.mem_map.mp hx
  exact ⟨ev, hmem, hzip hmem⟩

/-- What was handed to the NAT had come in. -/
theorem Follows.lt_of_handed (hF : Follows acceptMode L int c i h s hn n)
    (run : Runs acceptMode L h s) {p : PacketPtr} (hp : p ∈ (handedTo i h).map Prod.fst) :
    p < s.pool.packets.next := by
  obtain ⟨x, hx, rfl⟩ := List.mem_map.mp hp
  obtain ⟨ev, -, -, pkt, hcame, -⟩ := hF.event_of_handed hx
  by_contra hle
  rw [run.came_eq_none_iff.mpr (Nat.not_lt.mp hle)] at hcame
  cases hcame

/-- A step that is not about the NAT. -/
theorem Follows.keeps (hF : Follows acceptMode L int c i h s hn n) (run : Runs acceptMode L h s)
    (hs : s.step e = some s')
    (hnats : ∀ k n, s.filters[k]? = some (.nat n) →
      s'.filters[k]? = some (.nat n) ∧ e.position ≠ some k)
    (hcontent : ∀ q, q < s.pool.packets.next →
      (s'.packet q).map Packet.content = (s.packet q).map Packet.content) :
    Follows acceptMode L int c i (e :: h) s' hn n := by
  have hc := step_cases hs
  obtain ⟨hfilter, hposition⟩ := hnats i n hF.filter
  have hnone : e.handed i = none := by
    cases hx : e.handed i with
    | none => rfl
    | some x => exact absurd (LockedEvent.position_of_handed hx) hposition
  have hsame := handedTo_cons_of_none (h := h) hnone
  refine ⟨hfilter, ?_, ?_, by rw [hsame]; exact hF.once, fun j hj p hp => ?_, fun hone p hp => ?_⟩
  · rw [lastTime, hsame]
    exact hF.run
  · rw [hsame]
    exact hF.events.imp fun _ _ => Handled.cons e
  · rw [hsame]
    have hold : ∀ k ≤ i, s.At k p → p ∉ (handedTo i h).map Prod.fst ∧
        (s'.packet p).map Packet.content = (came (e :: h) p).map Packet.content := by
      intro k hk hp
      obtain ⟨hnot, hpkt⟩ := hF.before k hk p hp
      have hlt := run.at_lt hp
      exact ⟨hnot, by rw [hcontent p hlt, hpkt, run.came_cons_of_lt e hlt]⟩
    rcases hc.at_of_at hp with hat | ⟨k, -, rfl, hat⟩ | ⟨⟨pkt, rfl⟩, -, rfl⟩
    · exact hold j hj hat
    · exact hold k (by omega) hat
    · refine ⟨fun hmem => Nat.lt_irrefl _ (hF.lt_of_handed run hmem), ?_⟩
      rw [packet_arrive hs, run.came_arrive]
  · have hone' : ∀ k n, s.filters[k]? = some (.nat n) → k = i :=
      fun k n hk => hone k n (hnats k n hk).1
    have hold : p < s.pool.packets.next →
        ((∃ j, i < j ∧ s.At j p) ∨ p ∈ exits acceptMode L h) → Passed i (e :: h) s' hn p := by
      intro hlt hp
      refine (hF.behind hone' p hp).mono (fun x hx => ?_) (hcontent p hlt)
      rwa [hsame]
    rcases hp with ⟨j, hj, hp⟩ | hp
    · rcases hc.at_of_at hp with hat | ⟨k, hk, rfl, hat⟩ | ⟨-, rfl, -⟩
      · exact hold (run.at_lt hat) (Or.inl ⟨j, hj, hat⟩)
      · have hne : k ≠ i := fun heq => hposition (hk.trans (congrArg some heq))
        exact hold (run.at_lt hat) (Or.inl ⟨k, by omega, hat⟩)
      · omega
    · rw [exits_cons, List.mem_append] at hp
      rcases hp with hp | hp
      · exact hold (run.exits_lt hp) (Or.inr hp)
      · have hat := hc.at_of_exit run hp
        exact hold (run.at_lt hat) (Or.inl ⟨_, run.shape.nat_lt hF.filter, hat⟩)

variable {t k now : Nat} {p : PacketPtr} {r : ℚ} {rest : List ChainFrame} {m m' : NatBox}
  {pkt : Packet} {out : Option Packet}

/-- Another NAT, behind this one, handles a packet. -/
theorem Follows.other (hF : Follows acceptMode L int c i h s hn n) (run : Runs acceptMode L h s)
    (hlt : i < k) (ht : s.threads[t]? = some (.handle k p :: rest))
    (hm : s.filters[k]? = some (.nat m)) :
    Follows acceptMode L int c i (.run t (.handle k p) r now :: h)
      (s.afterNat t k p rest m' out) hn n := by
  have hnone : (LockedEvent.run t (.handle k p) r now).handed i = none :=
    if_neg (Nat.ne_of_gt hlt)
  have hsame := handedTo_cons_of_none (h := h) hnone
  have hklt := (List.getElem?_eq_some_iff.mp hm).1
  refine ⟨?_, ?_, ?_, by rw [hsame]; exact hF.once, fun j hj q hq => ?_, fun hone => ?_⟩
  · rw [filters_afterNat, List.getElem?_set_ne (Nat.ne_of_gt hlt)]
    exact hF.filter
  · rw [lastTime, hsame]
    exact hF.run
  · rw [hsame]
    exact hF.events.imp fun _ _ => Handled.cons _
  · rw [hsame]
    rcases run.at_afterNat ht m' out hq with ⟨-, rfl, -⟩ | ⟨hne, hq⟩
    · omega
    · rw [packet_afterNat_of_ne hne, run.came_cons_of_lt _ (run.at_lt hq)]
      exact hF.before j hj q hq
  · have heq : k = i := hone k m' (by rw [filters_afterNat, List.getElem?_set_self hklt])
    omega

/-- **The NAT handles a packet, and so does the NAT by itself.** -/
theorem Follows.handles (hF : Follows acceptMode L int c i h s hn n) (run : Runs acceptMode L h s)
    (hfrom : ∀ pkt, .arrive pkt ∈ h → pkt.isIngoing = false → pkt.srcIp = int)
    (hclock : lastTime i h ≤ now) (ht : s.threads[t]? = some (.handle i p :: rest))
    (hpkt : s.packet p = some pkt) (hstep : n.step now pkt = some (m', out)) :
    Follows acceptMode L int c i (.run t (.handle i p) r now :: h)
      (s.afterNat t i p rest m' out) (⟨now, pkt, out⟩ :: hn) m' := by
  have hsome : (LockedEvent.run t (.handle i p) r now).handed i = some (p, now) := if_pos rfl
  have hsame := handedTo_cons_of_some (h := h) hsome
  have hat : s.At i p := Or.inl ⟨_, List.mem_of_getElem? ht, _, List.mem_cons_self, rfl,
    List.mem_singleton.mpr rfl⟩
  obtain ⟨hnot, hcontent⟩ := hF.before i le_rfl p hat
  rw [hpkt] at hcontent
  obtain ⟨pkt₀, hcame, hsamePkt⟩ := Option.map_eq_some_iff.mp hcontent.symm
  have hilt := (List.getElem?_eq_some_iff.mp hF.filter).1
  refine ⟨?_, ?_, ?_, ?_, fun j hj q hq => ?_, fun hone q hq => ?_⟩
  · rw [filters_afterNat, List.getElem?_set_self hilt]
  · rw [lastTime, hsame]
    refine hF.run.step ⟨hclock, rfl, fun hout => ?_, hstep⟩
    rw [← content_isIngoing hsamePkt] at hout
    rw [← content_congr Packet.srcIp (fun _ => rfl) hsamePkt]
    exact hfrom pkt₀ (mem_of_came hcame) hout
  · rw [hsame]
    exact .cons ⟨rfl, pkt₀, came_cons _ hcame, hsamePkt.symm⟩
      (hF.events.imp fun _ _ => Handled.cons _)
  · rw [hsame]
    exact List.nodup_cons.mpr ⟨hnot, hF.once⟩
  · rw [hsame]
    rcases run.at_afterNat ht m' out hq with ⟨-, rfl, -⟩ | ⟨hne, hq⟩
    · omega
    · rw [packet_afterNat_of_ne hne, run.came_cons_of_lt _ (run.at_lt hq)]
      obtain ⟨hnotq, hcontentq⟩ := hF.before j hj q hq
      refine ⟨fun hmem => ?_, hcontentq⟩
      rcases List.mem_cons.mp hmem with heq | hmem
      · exact hne heq
      · exact hnotq hmem
  · have hone' : ∀ k n, s.filters[k]? = some (.nat n) → k = i := by
      intro k n hk
      by_contra hki
      refine hki (hone k n ?_)
      rw [filters_afterNat, List.getElem?_set_ne (Ne.symm hki)]
      exact hk
    have hold : q ≠ p → ((∃ j, i < j ∧ s.At j q) ∨ q ∈ exits acceptMode L h) →
        Passed i (.run t (.handle i p) r now :: h) (s.afterNat t i p rest m' out)
          (⟨now, pkt, out⟩ :: hn) q := by
      intro hne hq
      refine (hF.behind hone' q hq).mono (fun x hx => ?_) ?_
      · rw [hsame]
        exact List.mem_cons_of_mem _ hx
      · rw [packet_afterNat_of_ne hne]
    rcases hq with ⟨j, hj, hq⟩ | hq
    · rcases run.at_afterNat ht m' out hq with ⟨rfl, -, pkt', rfl⟩ | ⟨hne, hq⟩
      · refine ⟨now, ⟨now, pkt, some pkt'⟩, pkt', ?_, rfl, ?_⟩
        · rw [hsame]
          exact List.mem_cons_self
        · rw [packet_afterNat hpkt]
          rfl
      · exact hold hne (Or.inl ⟨j, hj, hq⟩)
    · have hlt := run.shape.nat_lt hF.filter
      have hstays : exit acceptMode L (.run t (.handle i p) r now) = [] :=
        if_neg fun hlast => Nat.ne_of_lt hlt hlast.2
      rw [exits_cons, hstays, List.append_nil] at hq
      refine hold (fun heq => ?_) (Or.inr hq)
      exact (run.alone ht (List.mem_singleton.mpr rfl)).2.2.2 (heq ▸ hq)

end Step

section Runs
variable {L₁ L₂ : List RouterFilter} {int : UInt32} {c : NatConfig}

/-- Where the NATs of the chain are. -/
theorem Shape.nat_cases {m n : NatBox} (hshape : s.Shape acceptMode (L₁ ++ .nat m :: L₂)) {k : Nat}
    (hk : s.filters[k]? = some (.nat n)) :
    (∃ f ∈ L₁, f.cls = .Nat) ∨ k = L₁.length + 1 ∨
      (L₁.length + 1 < k ∧ ∃ f ∈ L₂, f.cls = .Nat) := by
  have hlt := hshape.nat_lt hk
  cases k with
  | zero =>
    have hcls := hshape.cls_first hk
    cases acceptMode <;> cases hcls
  | succ k =>
    have hcls : RouterFilter.cls _ = FilterClass.Nat := (hshape.cls_listed hk (by omega)).symm
    rcases Nat.lt_trichotomy k L₁.length with hlow | rfl | hhigh
    · rw [List.getElem_append_left hlow] at hcls
      exact Or.inl ⟨_, List.getElem_mem hlow, hcls⟩
    · exact Or.inr (Or.inl rfl)
    · obtain ⟨j, rfl⟩ := Nat.exists_eq_add_of_lt hhigh
      have hidx : (L₁ ++ .nat m :: L₂)[L₁.length + j + 1]? = L₂[j]? := by
        rw [List.getElem?_append_right (by omega),
          show L₁.length + j + 1 - L₁.length = j + 1 by omega, List.getElem?_cons_succ]
      have hmem := List.mem_of_getElem? (hidx.symm.trans (List.getElem?_eq_getElem (by omega)))
      exact Or.inr (Or.inr ⟨by omega, _, hmem, hcls⟩)

theorem Starts.not_at (hs : Starts acceptMode L s) (i : Nat) (p : PacketPtr) : ¬ s.At i p := by
  rintro (⟨stack, hstack, frame, hframe, -⟩ | ⟨f, hf, hp⟩)
  · rw [hs.threads] at hstack
    obtain rfl := List.mem_singleton.mp hstack
    cases hframe
  · rw [held_of_started (hs.started f (List.mem_of_getElem? hf))] at hp
    exact Multiset.notMem_zero p hp

/-- **The first NAT of a chain follows a run of the NAT by itself.** -/
theorem Runs.follows (run : Runs acceptMode (L₁ ++ .nat c.init :: L₂) h s)
    (hfirst : ∀ f ∈ L₁, f.cls ≠ .Nat)
    (hfrom : ∀ pkt, .arrive pkt ∈ h → pkt.isIngoing = false → pkt.srcIp = int)
    (hclock : ((handedTo (L₁.length + 1) h).map Prod.snd).Pairwise (· ≥ ·)) :
    ∃ hn n, Follows acceptMode (L₁ ++ .nat c.init :: L₂) int c (L₁.length + 1) h s hn n := by
  induction run with
  | @start s hs =>
    obtain ⟨stage, hfilters⟩ := hs.filters
    refine ⟨[], c.init, ?_, .start rfl, .nil, List.Pairwise.nil, fun j _ p hp => ?_,
      fun _ p hp => ?_⟩
    · rw [hfilters]
      cases acceptMode <;> simp [wrap]
    · exact absurd hp (hs.not_at j p)
    · rcases hp with ⟨j, -, hp⟩ | hp
      · exact absurd hp (hs.not_at j p)
      · cases hp
  | @step h s s' e run hs ih =>
    obtain ⟨hn, n, hF⟩ := ih (fun pkt hmem => hfrom pkt (List.mem_cons_of_mem _ hmem)) (by
      refine hclock.sublist (List.Sublist.map _ ?_)
      exact (List.sublist_cons_self e h).filterMap _)
    cases natCases hs with
    | keeps hnats hcontent => exact ⟨hn, n, hF.keeps run hs hnats hcontent⟩
    | @handles t k now p r rest m m' pkt out ht hm hpkt hstep =>
      rcases (Runs.shape run).nat_cases hm with ⟨f, hf, hcls⟩ | rfl | ⟨hlt, -⟩
      · exact absurd hcls (hfirst f hf)
      · obtain rfl : n = m := by
          have heq := hF.filter.symm.trans hm
          cases heq
          rfl
        refine ⟨_, m', hF.handles run (fun pkt hmem => hfrom pkt (List.mem_cons_of_mem _ hmem)) ?_
          ht hpkt hstep⟩
        have hsome : (LockedEvent.run t (.handle (L₁.length + 1) p) r now).handed (L₁.length + 1) =
            some (p, now) := if_pos rfl
        rw [handedTo_cons_of_some hsome, List.map_cons, List.pairwise_cons] at hclock
        unfold lastTime
        cases hlast : handedTo (L₁.length + 1) h with
        | nil => exact Nat.zero_le now
        | cons x xs => exact hclock.1 x.2 (by simp [hlast])
      · exact ⟨hn, n, hF.other run hlt ht hm⟩

end Runs
end LockedChain

/-! ## What the run of the NAT by itself says -/

namespace NatRun
variable {int : UInt32} {c : NatConfig} {h : List NatEvent} {s : NatSystem}

/-- An ingoing packet that went on did so by what the NAT had handled before. -/
theorem forwards_of_mem (run : NatRun int c h s) {ev : NatEvent} (hev : ev ∈ h)
    (hin : ev.pkt.isIngoing = true) {out : Packet} (hout : ev.out = some out) :
    ∃ h', h' ⊆ h ∧ Forwards int c h' ev.time ev.pkt out := by
  induction run with
  | start => cases hev
  | @step h s s' e run hs ih =>
    rcases List.mem_cons.mp hev with rfl | hev
    · obtain ⟨hclock, -, -, hstep⟩ := hs
      obtain ⟨r, hr, hto⟩ := NatRun.step_ingoing run hclock hin
      obtain rfl : r = ev.out := (Prod.mk.inj (Option.some.inj (hr.symm.trans hstep))).2
      exact ⟨h, List.subset_cons_self _ _, (hto out).mp hout⟩
    · obtain ⟨h', hsub, hforwards⟩ := ih hev
      exact ⟨h', fun x hx => List.mem_cons_of_mem _ (hsub hx), hforwards⟩

end NatRun

open LockedChain

/-- The packet `q` went out through the filter at `i`, less than the timeout before `p` came to
it, and is `asked`. -/
def Asked (c : NatConfig) (i : Nat) (h : List LockedEvent) (p q : PacketPtr) (asked : Packet) :
    Prop :=
  came h q = some asked ∧ asked.isIngoing = false ∧
    ∃ t t', (q, t) ∈ handedTo i h ∧ (p, t') ∈ handedTo i h ∧ t ≤ t' ∧ t' < t + c.lifetime

/-- `asked` may be answered by `pkt`: it went to where `pkt` comes from. -/
def MayAnswer (c : NatConfig) (asked pkt : Packet) : Prop :=
  pkt.dstIp = c.ipExt ∧ asked.dstIp = pkt.srcIp ∧ asked.transProt = pkt.transProt ∧
    (c.type = .addrRNat ∨ asked.dport = pkt.sport)

theorem MayAnswer.congr {c : NatConfig} {asked asked' pkt pkt' : Packet}
    (h : MayAnswer c asked pkt) (hasked : asked.content = asked'.content)
    (hpkt : pkt.content = pkt'.content) : MayAnswer c asked' pkt' := by
  have h : MayAnswer c asked.content pkt.content := h
  rw [hasked, hpkt] at h
  exact h

theorem content_withSource (pkt : Packet) (ip : UInt32) (port : UInt16) :
    (pkt.withSource ip port).content = pkt.content.withSource ip port := rfl

theorem content_withDestination (pkt : Packet) (ip : UInt32) (port : UInt16) :
    (pkt.withDestination ip port).content = pkt.content.withDestination ip port := rfl

/-- `out` is what an outgoing packet leaves as. -/
def Masked (c : NatConfig) (pkt out : Packet) : Prop :=
  ∃ port, out.content = (pkt.withSource c.ipExt port).content ∧
    (c.dnatRules[pkt.sport]? ≠ none ∨ c.type ≠ .symNat → port = pkt.sport)

/-- `out` is what an ingoing packet leaves as: a rule sends it on, or a packet that went out
shortly before lets it in. -/
def LetIn (int : UInt32) (c : NatConfig) (i : Nat) (h : List LockedEvent) (p : PacketPtr)
    (pkt out : Packet) : Prop :=
  (∃ rule, c.dnatRules[pkt.dport]? = some rule ∧
    out.content = (pkt.withDestination rule.dstIp rule.dport).content) ∨
  (∃ q asked, Asked c i h p q asked ∧ c.dnatRules[asked.sport]? = none ∧
    (c.type ≠ .symNat → asked.sport = pkt.dport) ∧
    out.content = (pkt.withDestination int asked.sport).content) ∧
  (c.type = .fullConeNat ∨ ∃ q asked, Asked c i h p q asked ∧ MayAnswer c asked pkt)

section Runs
variable {acceptMode : Bool} {L L₁ L₂ : List RouterFilter} {int : UInt32} {c : NatConfig}
  {h : List LockedEvent} {s : LockedChain} {i : Nat} {hn : List NatEvent} {n : NatBox}

/-- The packet of an event of the NAT by itself. -/
theorem LockedChain.Follows.handed_of_event (hF : Follows acceptMode L int c i h s hn n)
    {ev : NatEvent} (hev : ev ∈ hn) : ∃ q asked, (q, ev.time) ∈ handedTo i h ∧
      came h q = some asked ∧ ev.pkt.content = asked.content := by
  obtain ⟨hlen, hzip⟩ := List.forall₂_iff_zip.mp hF.events
  rw [← List.map_snd_zip (le_of_eq hlen.symm)] at hev
  obtain ⟨⟨⟨q, t⟩, ev⟩, hmem, rfl⟩ := List.mem_map.mp hev
  obtain ⟨htime, asked, hcame, hcontent⟩ := hzip hmem
  have htime : ev.time = t := htime
  exact ⟨q, asked, by rw [htime]; exact (List.of_mem_zip hmem).1, hcame, hcontent⟩

/-- A live event was a packet that went out recently. -/
theorem LockedChain.Follows.asked_of_live (hF : Follows acceptMode L int c i h s hn n)
    {ev : NatEvent} (hev : ev ∈ hn) (hout : ev.pkt.isIngoing = false) {p : PacketPtr} {now : Nat}
    (hp : (p, now) ∈ handedTo i h) (hlive : ev.Live c now) :
    ∃ q asked, Asked c i h p q asked ∧ ev.pkt.content = asked.content := by
  obtain ⟨q, asked, hq, hcame, hcontent⟩ := hF.handed_of_event hev
  exact ⟨q, asked, ⟨hcame, (content_isIngoing hcontent).symm.trans hout, _, _, hq, hp,
    hlive.1, hlive.2⟩, hcontent⟩

/-- What opened the NAT for a packet went to where the packet comes from. -/
theorem NatEvent.mayAnswer_of_opens {ev : NatEvent} {pkt : Packet} (hsent : ev.Sent int c)
    (ho : ev.Opens c (ConnectionTuple.ofPacket pkt)) : MayAnswer c ev.pkt pkt := by
  obtain ⟨-, port, hout, -⟩ := hsent
  obtain ⟨-, out, hout', hsame⟩ := ho
  obtain rfl := Option.some.inj (hout.symm.trans hout')
  unfold NatConfig.SameAnswer at hsame
  split at hsame
  · rename_i htype
    obtain ⟨hsrc, hdst, -, hproto⟩ := hsame
    exact ⟨hdst.symm, hsrc, hproto, Or.inl htype⟩
  · exact hsame.elim
  · obtain ⟨hsrc, hdst, hsport, -, hproto⟩ := ConnectionTuple.mk.inj hsame
    exact ⟨hdst.symm, hsrc, hproto, Or.inr hsport⟩

/-- What is behind the NAT of a chain with one NAT, or has left the chain, was translated by
it. -/
theorem LockedChain.Runs.translated (run : Runs acceptMode (L₁ ++ .nat c.init :: L₂) h s)
    (hone : ∀ f ∈ L₁ ++ L₂, f.cls ≠ .Nat)
    (hfrom : ∀ pkt, .arrive pkt ∈ h → pkt.isIngoing = false → pkt.srcIp = int)
    (hclock : ((handedTo (L₁.length + 1) h).map Prod.snd).Pairwise (· ≥ ·)) {p : PacketPtr}
    (hp : (∃ j, L₁.length + 1 < j ∧ s.At j p) ∨ p ∈ exits acceptMode (L₁ ++ .nat c.init :: L₂) h) :
    ∃ pkt out, came h p = some pkt ∧ s.packet p = some out ∧
      (pkt.isIngoing = false → Masked c pkt out) ∧
      (pkt.isIngoing = true → LetIn int c (L₁.length + 1) h p pkt out) := by
  obtain ⟨hn, n, hF⟩ := run.follows (fun f hf => hone f (List.mem_append_left _ hf)) hfrom hclock
  have honly : ∀ k n, s.filters[k]? = some (.nat n) → k = L₁.length + 1 := by
    intro k n hk
    rcases run.shape.nat_cases hk with ⟨f, hf, hcls⟩ | heq | ⟨-, f, hf, hcls⟩
    · exact absurd hcls (hone f (List.mem_append_left _ hf))
    · exact heq
    · exact absurd hcls (hone f (List.mem_append_right _ hf))
  obtain ⟨now, ev, passed, hmem, hev, hpassed⟩ := hF.behind honly p hp
  obtain ⟨htime, pkt, hcame, hcontent⟩ := (List.forall₂_iff_zip.mp hF.events).2 hmem
  obtain ⟨hhanded, hevmem⟩ := List.of_mem_zip hmem
  obtain ⟨out, hout, houtContent⟩ := Option.map_eq_some_iff.mp hpassed
  have htime : ev.time = now := htime
  refine ⟨pkt, out, hcame, hout, fun hdir => ?_, fun hdir => ?_⟩
  · rw [← content_isIngoing hcontent] at hdir
    obtain ⟨-, port, hto, hport⟩ := hF.run.inv.sent ev hevmem hdir
    obtain rfl := Option.some.inj (hto.symm.trans hev)
    have hsport := content_congr (fun pkt => pkt.sport) (fun _ => rfl) hcontent
    refine ⟨port, ?_, by rw [← hsport]; exact hport⟩
    rw [houtContent, content_withSource, hcontent, ← content_withSource]
  · rw [← content_isIngoing hcontent] at hdir
    have hdport := content_congr (fun pkt => pkt.dport) (fun _ => rfl) hcontent
    have hp : (p, ev.time) ∈ handedTo (L₁.length + 1) h := by rwa [htime]
    have hto : ∀ ip port, passed = ev.pkt.withDestination ip port →
        out.content = (pkt.withDestination ip port).content := by
      rintro ip port rfl
      rw [houtContent, content_withDestination, hcontent, ← content_withDestination]
    obtain ⟨h', hsub, hforwards⟩ := hF.run.forwards_of_mem hevmem hdir hev
    rcases hforwards with ⟨rule, hrule, hpkt⟩ | ⟨-, hopen, ev', hev', hlive, huses, hpkt⟩
    · exact Or.inl ⟨rule, by rw [← hdport]; exact hrule, hto _ _ hpkt⟩
    · refine Or.inr ⟨?_, ?_⟩
      · obtain ⟨hout', hrule, -, sent, hsent, hport⟩ := huses
        obtain ⟨q, asked, hasked, hsame⟩ := hF.asked_of_live (hsub hev') hout' hp hlive
        have hsport := content_congr (fun pkt => pkt.sport) (fun _ => rfl) hsame
        rw [hsport] at hrule hpkt
        refine ⟨q, asked, hasked, hrule, fun htype => ?_, hto _ _ hpkt⟩
        -- types other than the symmetric one keep the source port
        obtain ⟨-, port, hfrom', hkeeps⟩ := hF.run.inv.sent ev' (hsub hev') hout'
        obtain rfl := Option.some.inj (hsent.symm.trans hfrom')
        rw [← hsport, ← hdport, ← hkeeps (Or.inr htype)]
        exact hport
      · refine hopen.imp_right ?_
        rintro ⟨ev'', hev'', hlive', hopens⟩
        have hsent := hF.run.inv.sent ev'' (hsub hev'') hopens.1
        obtain ⟨q, asked, hasked, hsame⟩ := hF.asked_of_live (hsub hev'') hopens.1 hp hlive'
        exact ⟨q, asked, hasked, (NatEvent.mayAnswer_of_opens hsent hopens).congr hsame hcontent⟩

end Runs

/-- A NAT of type `portr`. -/
def asking : NatConfig := { ipExt := 9, ipInt := 1, connectionTimeout := 10 }

/-- A packet goes out and is answered. -/
def askingEvents : List LockedEvent :=
  [.arrive (.ofAddresses false 1 7 5 80), .run 0 (.handle 0 0) 0 0, .run 0 (.handle 1 0) 0 0,
    .run 0 (.handle 2 0) 0 0, .arrive (.ofAddresses true 7 9 80 5), .run 0 (.handle 0 1) 0 3,
    .run 0 (.handle 1 1) 0 3, .run 0 (.handle 2 1) 0 3]

theorem asking_starts (headers : PacketPtr → Packet) :
    Starts true ([] ++ .nat asking.init :: [])
      ⟨wrap true [.nat asking.init] (OutputStage.uninit [] true).init, .empty, headers, [[]]⟩ where
  filters := ⟨(OutputStage.uninit [] true).init, rfl⟩
  listed := by simp [RouterFilter.Listed]
  started := by
    intro f hf
    simp only [wrap, if_true, List.cons_append, List.nil_append, List.mem_cons, List.not_mem_nil,
      or_false] at hf
    rcases hf with rfl | rfl | rfl <;> trivial
  pool := rfl
  threads := rfl

/-- The inside of `askingEvents` is 1. -/
theorem asking_from :
    ∀ pkt, .arrive pkt ∈ askingEvents.reverse → pkt.isIngoing = false → pkt.srcIp = 1 := by
  intro pkt hmem hdir
  simp only [askingEvents, List.mem_reverse, List.mem_cons, LockedEvent.arrive.injEq, reduceCtorEq,
    List.not_mem_nil, or_false, false_or] at hmem
  rcases hmem with rfl | rfl
  · rfl
  · cases hdir

/-- **Nothing of the inside shows, and nothing gets in unasked.**  An outgoing packet that
leaves a chain with one NAT has the external address; an ingoing one goes where a rule says,
or to where a packet came from that went out shortly before. -/
theorem nothing_inside_shows {acceptMode : Bool} {L₁ L₂ : List RouterFilter} {int : UInt32}
    {c : NatConfig} {h : List LockedEvent} {s : LockedChain}
    (run : Runs acceptMode (L₁ ++ .nat c.init :: L₂) h s) (hone : ∀ f ∈ L₁ ++ L₂, f.cls ≠ .Nat)
    (hfrom : ∀ pkt, .arrive pkt ∈ h → pkt.isIngoing = false → pkt.srcIp = int)
    (hclock : ((handedTo (L₁.length + 1) h).map Prod.snd).Pairwise (· ≥ ·)) {p : PacketPtr}
    (hp : p ∈ exits acceptMode (L₁ ++ .nat c.init :: L₂) h) :
    ∃ pkt out, came h p = some pkt ∧ s.packet p = some out ∧
      (pkt.isIngoing = false → ∃ port, out.content = (pkt.withSource c.ipExt port).content ∧
        (c.dnatRules[pkt.sport]? ≠ none ∨ c.type ≠ .symNat → port = pkt.sport)) ∧
      (pkt.isIngoing = true →
        (∃ rule, c.dnatRules[pkt.dport]? = some rule ∧
          out.content = (pkt.withDestination rule.dstIp rule.dport).content) ∨
        (∃ q asked, Asked c (L₁.length + 1) h p q asked ∧ c.dnatRules[asked.sport]? = none ∧
          (c.type ≠ .symNat → asked.sport = pkt.dport) ∧
          out.content = (pkt.withDestination int asked.sport).content) ∧
        (c.type = .fullConeNat ∨
          ∃ q asked, Asked c (L₁.length + 1) h p q asked ∧ MayAnswer c asked pkt)) :=
  run.translated hone hfrom hclock (Or.inr hp)

/-- The answer in `askingEvents` goes to where the question came from. -/
theorem nothing_inside_shows_asking :
    ∃ s out, Runs true ([] ++ .nat asking.init :: []) askingEvents.reverse s ∧
      exits true ([] ++ .nat asking.init :: []) askingEvents.reverse = [0, 1] ∧
      s.packet 1 = some out ∧
      ∃ q asked, Asked asking 1 askingEvents.reverse 1 q asked ∧ asked.sport = 5 := by
  have run : Runs true ([] ++ .nat asking.init :: []) _ _ :=
    Run.of_replay LockedChain.step (fun _ _ _ h => h) askingEvents
      (asking_starts fun _ => .ofAddresses false 1 2 3 4) rfl
  obtain ⟨pkt, out, hcame, hout, -, hin⟩ :=
    nothing_inside_shows run (fun f hf => by cases hf) asking_from (by decide) (p := 1) (by decide)
  obtain rfl := Option.some.inj hcame
  rcases hin rfl with ⟨rule, hrule, -⟩ | ⟨⟨q, asked, hasked, -, hsport, -⟩, -⟩
  · cases hrule
  · exact ⟨_, out, run, rfl, hout, q, asked, hasked, hsport (by decide)⟩

end ShapingRouter
