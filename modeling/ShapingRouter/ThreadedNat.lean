import Mathlib
import ShapingRouter.CallResults

/-! # The NAT with its mutexes and references

`Nat::handlePacket` calls the mapper and the filter one after the other.  Here both are the
systems of `ConnectionReferences`: any number of calls are under way, each in the code of its
mapper or its filter, with the sections under the mutex, the counted references, the handlers
of the timers and the deleters.

A call of `filterPacket` can wait for itself (`ConnSystem.filter_hangs`).  As long as each
section that makes an entry ends before the handlers of its timer are gone, none does: then
every outgoing packet leaves exactly once, and from the external address, and an ingoing one
for the target of a rule or for where an outgoing one came from.  Where a section ends too
late, its packet never leaves (`nat_forwards_while_handled`).
-/

namespace ShapingRouter
open Library Std

/-- Where a call of `handlePacket` is: an ingoing packet is with the call `j` of the filter; a
packet is with the call `i` of the mapper; an outgoing packet, rewritten, is with the call `j`
of the filter; a packet passes; or the call is over. -/
inductive NatCall
  | checking (pkt : Packet) (j : Nat)
  | mapping (pkt : Packet) (i : Nat)
  | filtering (pkt : Packet) (j : Nat)
  | passing (pkt : Packet)
  | ended
  deriving DecidableEq, Repr

/-- The call of the filter that a call of `handlePacket` waits for. -/
def NatCall.inFilter : NatCall → Option Nat
  | checking _ j | filtering _ j => some j
  | mapping _ _ | passing _ | ended => none

/-- How many steps a call takes at most, with those of the calls that it makes. -/
def NatCall.left : NatCall → Nat
  | checking _ _ => 34
  | mapping _ _ => 17
  | filtering _ _ => 2
  | passing _ => 1
  | ended => 0

/-- A packet comes, time passes, a task of the mapper or of the filter goes on, a call of
`handlePacket` takes the result that it waits for, or hands its packet to the next filter of
the chain. -/
inductive ThreadedEvent
  | receive (pkt : Packet)
  | tick (now : Int)
  | mapper (i : Nat)
  | filter (j : Nat)
  | goes (k : Nat)
  | forward (k : Nat) (pkt : Packet)
  deriving DecidableEq

/-- The steps of threads count. -/
def ThreadedEvent.cost : ThreadedEvent → Nat
  | receive _ | tick _ => 0
  | mapper _ | filter _ | goes _ | forward _ _ => 1

/-- `Nat`, once `init` has run, with the calls of `handlePacket`. -/
structure ThreadedNat (κ : Type) (cmp : κ → κ → Ordering) (N D : Type) where
  mapper : MapperSystem κ cmp
  filter : ConnSystem N D Bool
  calls : List NatCall := []

/-- The mapper and the filter that `init` makes. -/
structure NatParts (κ : Type) (cmp : κ → κ → Ordering) (N D : Type) where
  kind : MapperKind κ cmp
  mapsPort : Bool
  base : NatMapperBase
  filter : ConnOwner N D Bool
  connMap : N

namespace NatParts
variable {κ : Type} {cmp : κ → κ → Ordering} {N D : Type} [CodePosition D]
  (parts : NatParts κ cmp N D)

/-- The mapper. -/
def mapper : ConnOwner (MapperMaps κ cmp) MapperCode (Option Packet) :=
  mapperOwner parts.kind parts.mapsPort parts.base

/-- The NAT, before its first packet. -/
def new : ThreadedNat κ cmp N D where
  mapper := { maps := ⟨∅, ∅⟩ }
  filter := { maps := parts.connMap }

/-- One step. -/
inductive Step (s : ThreadedNat κ cmp N D) : ThreadedEvent → ThreadedNat κ cmp N D → Prop
  | ingoing (pkt : Packet) (filter : ConnSystem N D Bool) : pkt.isIngoing = true →
      ConnSystem.Step parts.filter s.filter (.call pkt) filter →
      Step s (.receive pkt)
        { s with filter := filter, calls := s.calls ++ [.checking pkt s.filter.tasks.length] }
  | outgoing (pkt : Packet) (mapper : MapperSystem κ cmp) : pkt.isIngoing = false →
      ConnSystem.Step parts.mapper s.mapper (.call pkt) mapper →
      Step s (.receive pkt)
        { s with mapper := mapper, calls := s.calls ++ [.mapping pkt s.mapper.tasks.length] }
  | tick (now : Int) (mapper : MapperSystem κ cmp) (filter : ConnSystem N D Bool) :
      ConnSystem.Step parts.mapper s.mapper (.tick now) mapper →
      ConnSystem.Step parts.filter s.filter (.tick now) filter →
      Step s (.tick now) { s with mapper := mapper, filter := filter }
  | mapper (i : Nat) (mapper : MapperSystem κ cmp) :
      ConnSystem.Step parts.mapper s.mapper (.goes i) mapper →
      Step s (.mapper i) { s with mapper := mapper }
  | filter (j : Nat) (filter : ConnSystem N D Bool) :
      ConnSystem.Step parts.filter s.filter (.goes j) filter →
      Step s (.filter j) { s with filter := filter }
  | checked (k : Nat) (pkt : Packet) (j : Nat) (mapper : MapperSystem κ cmp) :
      s.calls[k]? = some (.checking pkt j) → s.filter.tasks[j]? = some (.returned true) →
      ConnSystem.Step parts.mapper s.mapper (.call pkt) mapper →
      Step s (.goes k)
        { s with mapper := mapper, calls := s.calls.set k (.mapping pkt s.mapper.tasks.length) }
  | refused (k : Nat) (pkt : Packet) (j : Nat) :
      s.calls[k]? = some (.checking pkt j) → s.filter.tasks[j]? = some (.returned false) →
      Step s (.goes k) { s with calls := s.calls.set k .ended }
  | unmapped (k : Nat) (pkt : Packet) (i : Nat) :
      s.calls[k]? = some (.mapping pkt i) → s.mapper.tasks[i]? = some (.returned none) →
      Step s (.goes k) { s with calls := s.calls.set k .ended }
  | mappedIngoing (k : Nat) (pkt : Packet) (i : Nat) (pkt' : Packet) :
      s.calls[k]? = some (.mapping pkt i) → s.mapper.tasks[i]? = some (.returned (some pkt')) →
      pkt.isIngoing = true →
      Step s (.goes k) { s with calls := s.calls.set k (.passing pkt') }
  | mappedOutgoing (k : Nat) (pkt : Packet) (i : Nat) (pkt' : Packet)
      (filter : ConnSystem N D Bool) :
      s.calls[k]? = some (.mapping pkt i) → s.mapper.tasks[i]? = some (.returned (some pkt')) →
      pkt.isIngoing = false → ConnSystem.Step parts.filter s.filter (.call pkt') filter →
      Step s (.goes k)
        { s with
            filter := filter
            calls := s.calls.set k (.filtering pkt' s.filter.tasks.length) }
  | filtered (k : Nat) (pkt' : Packet) (j : Nat) (ok : Bool) :
      s.calls[k]? = some (.filtering pkt' j) → s.filter.tasks[j]? = some (.returned ok) →
      Step s (.goes k) { s with calls := s.calls.set k (if ok then .passing pkt' else .ended) }
  | forward (k : Nat) (pkt' : Packet) : s.calls[k]? = some (.passing pkt') →
      Step s (.forward k pkt') { s with calls := s.calls.set k .ended }

/-- A step of the filter meets the filter's condition `Handled`. -/
def FilterHandled (Handled : ConnSystem N D Bool → ConnEvent → Prop) (s : ThreadedNat κ cmp N D)
    (e : ThreadedEvent) : Prop :=
  ∀ j, e = .filter j → Handled s.filter (.goes j)

/-- The runs whose every step meets the filter's condition. -/
abbrev HandledRuns (Handled : ConnSystem N D Bool → ConnEvent → Prop) :
    List ThreadedEvent → ThreadedNat κ cmp N D → Prop :=
  Run (Guarded parts.Step (FilterHandled Handled)) (· = parts.new)

end NatParts

/-! ## What becomes of the packets -/

/-- The packets received, the oldest first: the call `k` is that for the packet `k`. -/
def received : List ThreadedEvent → List Packet
  | [] => []
  | .receive pkt :: h => received h ++ [pkt]
  | .tick _ :: h | .mapper _ :: h | .filter _ :: h | .goes _ :: h | .forward _ _ :: h => received h

/-- What the call `k` has forwarded, the newest first. -/
def forwardsOf (k : Nat) : List ThreadedEvent → List Packet
  | [] => []
  | .forward k' pkt :: h => if k' = k then pkt :: forwardsOf k h else forwardsOf k h
  | .receive _ :: h | .tick _ :: h | .mapper _ :: h | .filter _ :: h | .goes _ :: h =>
    forwardsOf k h

/-- An outgoing packet among `pkts` came from `ip`. -/
def CameFrom (pkts : List Packet) (ip : UInt32) : Prop :=
  ∃ pkt ∈ pkts, pkt.isIngoing = false ∧ pkt.srcIp = ip

/-- The outgoing packet `pkt` leaves as `pkt'`. -/
structure NatConfig.Translates (c : NatConfig) (pkt pkt' : Packet) : Prop where
  srcIp : pkt'.srcIp = c.ipExt
  dstIp : pkt'.dstIp = pkt.dstIp
  dport : pkt'.dport = pkt.dport
  transProt : pkt'.transProt = pkt.transProt
  sport : c.type ≠ .symNat → pkt'.sport = pkt.sport

/-- The ingoing packet `pkt` leaves as `pkt'`, when outgoing ones came from sources with `S`. -/
structure NatConfig.Redirects (c : NatConfig) (S : UInt32 → Prop) (pkt pkt' : Packet) : Prop where
  srcIp : pkt'.srcIp = pkt.srcIp
  sport : pkt'.sport = pkt.sport
  dstIp : (∃ rule, c.dnatRules[pkt.dport]? = some rule ∧ rule.dstIp = pkt'.dstIp) ∨ S pkt'.dstIp

/-- The packet `pkt` leaves as `pkt'`, when outgoing ones came from sources with `S`. -/
def NatConfig.Forwards (c : NatConfig) (S : UInt32 → Prop) (pkt pkt' : Packet) : Prop :=
  if pkt.isIngoing then c.Redirects S pkt pkt' else c.Translates pkt pkt'

/-- Whatever was forwarded is the packet of its call, rewritten; an ingoing one goes to the
target of a rule, or to where an outgoing one came from that was received before. -/
def NatConfig.ForwardsAll (c : NatConfig) (h : List ThreadedEvent) : Prop :=
  ∀ newer k pkt' older, h = newer ++ .forward k pkt' :: older →
    ∃ pkt, (received older)[k]? = some pkt ∧ c.Forwards (CameFrom (received older)) pkt pkt'

theorem NatConfig.Forwards.mono {c : NatConfig} {S S' : UInt32 → Prop} {pkt pkt' : Packet}
    (hf : c.Forwards S pkt pkt') (himp : ∀ ip, S ip → S' ip) : c.Forwards S' pkt pkt' := by
  unfold NatConfig.Forwards at hf ⊢
  split
  · rename_i hin
    rw [if_pos hin] at hf
    exact ⟨hf.srcIp, hf.sport, hf.dstIp.imp_right (himp _)⟩
  · rename_i hout
    rwa [if_neg hout] at hf

theorem NatConfig.ForwardsAll.cons {c : NatConfig} {h : List ThreadedEvent} {e : ThreadedEvent}
    (hall : c.ForwardsAll h)
    (he : ∀ k pkt', e = .forward k pkt' → ∃ pkt, (received h)[k]? = some pkt ∧
      c.Forwards (CameFrom (received h)) pkt pkt') : c.ForwardsAll (e :: h) := by
  intro newer k pkt' older hsplit
  cases newer with
  | nil =>
    obtain ⟨rfl, rfl⟩ := List.cons.inj hsplit
    exact he k pkt' rfl
  | cons first newer =>
    obtain ⟨-, rfl⟩ := List.cons.inj hsplit
    exact hall newer k pkt' older rfl

namespace NatParts
variable {κ : Type} {cmp : κ → κ → Ordering} {N D : Type} [CodePosition D]
  (parts : NatParts κ cmp N D)

/-- How many steps the threads take at most, when no packets come. -/
def work (rank : D → Nat) (s : ThreadedNat κ cmp N D) : Nat :=
  s.mapper.work MapperCode.rank + s.filter.work rank + (s.calls.map NatCall.left).sum

/-- **What a NAT does with the packets**, when the events `h` have led to `s`.  Whatever is
forwarded is so in its own call, rewritten as the configuration says; no call forwards twice,
and one for an outgoing packet is over once it has forwarded it and not before.  As long as a
call is under way, some thread can go on, unless `mapPort` does not return; and they come to
rest. -/
structure Sends (rank : D → Nat) (c : NatConfig) (h : List ThreadedEvent)
    (s : ThreadedNat κ cmp N D) : Prop where
  forwards : c.ForwardsAll h
  once : ∀ k pkt, (received h)[k]? = some pkt → (forwardsOf k h).length ≤ 1 ∧
    (pkt.isIngoing = false → (s.calls[k]? = some .ended ↔ (forwardsOf k h).length = 1))
  goesOn : (∃ call ∈ s.calls, call ≠ .ended) → ¬ s.mapper.Searching parts.kind →
    ∃ e s', e.cost = 1 ∧ parts.Step s e s'
  rests : ∀ h' s', Run (Guarded parts.Step fun _ e => ∀ pkt, e ≠ .receive pkt) (· = s) h' s' →
    (h'.map ThreadedEvent.cost).sum ≤ work rank s

/-- Nothing is ever forwarded of the packet of the call `k`. -/
def Strands (k : Nat) (h : List ThreadedEvent) (s : ThreadedNat κ cmp N D) : Prop :=
  ∀ h' s', Run parts.Step (· = s) h' s' → forwardsOf k (h' ++ h) = []

/-! ## The invariant -/

/-- The parts are those of the configuration `c`. -/
structure For (c : NatConfig) : Prop where
  base : parts.base = c.base
  pinned : c.type ≠ .symNat → ∀ t port, parts.kind.pinned t port → port = t.sport

variable (Sound : ConnSystem N D Bool → Prop) (Fits : Packet → D → Prop) (c : NatConfig)

/-- What holds of the call for the packet `pkt`. -/
def CallSound (S : UInt32 → Prop) (s : ThreadedNat κ cmp N D) (pkt : Packet) : NatCall → Prop
  | .checking pkt₁ j =>
    (pkt₁ = pkt ∧ pkt.isIngoing = true) ∧ s.filter.ServedAt (Fits pkt) (Passes pkt) j
  | .mapping pkt₁ i => pkt₁ = pkt ∧ s.mapper.Serves parts.kind parts.base S pkt i
  | .filtering pkt' j =>
    (pkt.isIngoing = false ∧ c.Translates pkt pkt') ∧
      pkt'.isIngoing = false ∧ s.filter.ServedAt (Fits pkt') (Passes pkt') j
  | .passing pkt' => c.Forwards S pkt pkt'
  | .ended => True

/-- What has been forwarded of the packet `pkt`. -/
def CallCounts (out : List Packet) (pkt : Packet) : NatCall → Prop
  | .ended => out.length ≤ 1 ∧ (pkt.isIngoing = false → out.length = 1)
  | .checking _ _ | .mapping _ _ | .filtering _ _ | .passing _ => out = []

/-- The invariant of a NAT, when the events `h` have led to `s`. -/
structure Inv (h : List ThreadedEvent) (s : ThreadedNat κ cmp N D) : Prop where
  mapper : MapperSound parts.kind parts.base (CameFrom (received h)) s.mapper
  filter : Sound s.filter
  unlocked : ¬ s.filter.SelfLocked
  length : s.calls.length = (received h).length
  calls : ∀ k pkt call, (received h)[k]? = some pkt → s.calls[k]? = some call →
    parts.CallSound Fits c (CameFrom (received h)) s pkt call ∧
      CallCounts (forwardsOf k h) pkt call
  none : ∀ k, s.calls.length ≤ k → forwardsOf k h = []
  forwards : c.ForwardsAll h

/-- The mapper and the filter go on, and more packets come. -/
structure Serves (S S' : UInt32 → Prop) (s s' : ThreadedNat κ cmp N D) : Prop where
  sources : ∀ ip, S ip → S' ip
  mapper : ∀ pkt i, s.mapper.Serves parts.kind parts.base S pkt i →
    s'.mapper.Serves parts.kind parts.base S' pkt i
  filter : ∀ pkt j, s.filter.ServedAt (Fits pkt) (Passes pkt) j →
    s'.filter.ServedAt (Fits pkt) (Passes pkt) j

variable {parts Sound Fits c} {S S' : UInt32 → Prop} {h : List ThreadedEvent}
  {s s' : ThreadedNat κ cmp N D} {e : ThreadedEvent} {k : Nat} {pkt pkt' : Packet} {call : NatCall}

section Calls
omit [CodePosition D]

theorem forwards_of_answers (hc : parts.For c) {r : Option Packet}
    (hr : Answers parts.kind parts.base S pkt r) (hsome : r = some pkt') :
    c.Forwards S pkt pkt' ∧ pkt'.isIngoing = pkt.isIngoing := by
  unfold NatConfig.Forwards
  cases hdir : pkt.isIngoing with
  | true =>
    obtain ⟨ip, port, rfl, hip⟩ := (answers_ingoing hdir).mp hr pkt' hsome
    rw [hc.base] at hip
    rw [if_pos rfl]
    exact ⟨⟨rfl, rfl, hip⟩, hdir⟩
  | false =>
    obtain ⟨port, heq, hport⟩ := (answers_outgoing hdir).mp hr
    rw [hsome] at heq
    obtain rfl := Option.some.inj heq
    rw [if_neg Bool.false_ne_true, hc.base]
    refine ⟨⟨rfl, rfl, rfl, rfl, fun htype => ?_⟩, hdir⟩
    rcases hport with hport | hpin
    · exact hport
    · exact hc.pinned htype _ port hpin

theorem CallSound.serves (hcall : parts.CallSound Fits c S s pkt call)
    (hs : parts.Serves Fits S S' s s') : parts.CallSound Fits c S' s' pkt call := by
  cases call with
  | checking pkt₁ j => exact ⟨hcall.1, hs.filter _ _ hcall.2⟩
  | mapping pkt₁ i => exact ⟨hcall.1, hs.mapper _ _ hcall.2⟩
  | filtering pkt' j => exact ⟨hcall.1, hcall.2.1, hs.filter _ _ hcall.2.2⟩
  | passing pkt' => exact NatConfig.Forwards.mono hcall hs.sources
  | ended => trivial

/-- Before its end, a call has forwarded nothing. -/
theorem CallCounts.eq_nil {out : List Packet} (hcounts : CallCounts out pkt call)
    (hne : call ≠ .ended) : out = [] := by
  cases call with
  | checking | mapping | filtering | passing => exact hcounts
  | ended => exact absurd rfl hne

theorem callCounts_nil (hend : call = .ended → pkt.isIngoing = true) : CallCounts [] pkt call := by
  cases call with
  | checking | mapping | filtering | passing => rfl
  | ended =>
    refine ⟨Nat.zero_le _, fun hout => ?_⟩
    rw [hend rfl] at hout
    cases hout

/-- The mapper or the filter goes on. -/
theorem Inv.systems (hi : parts.Inv Sound Fits c h s)
    (hreceived : received (e :: h) = received h)
    (hforwarded : ∀ k, forwardsOf k (e :: h) = forwardsOf k h)
    (he : ∀ k pkt', e ≠ .forward k pkt') (hcalls : s'.calls = s.calls)
    (hmapper : MapperSound parts.kind parts.base (CameFrom (received h)) s'.mapper)
    (hfilter : Sound s'.filter) (hunlocked : ¬ s'.filter.SelfLocked)
    (hserves : parts.Serves Fits (CameFrom (received h)) (CameFrom (received h)) s s') :
    parts.Inv Sound Fits c (e :: h) s' where
  mapper := by rwa [hreceived]
  filter := hfilter
  unlocked := hunlocked
  length := by rw [hcalls, hreceived, hi.length]
  calls k pkt call hpkt hcall := by
    rw [hreceived] at hpkt ⊢
    rw [hcalls] at hcall
    obtain ⟨hsound, hcounts⟩ := hi.calls k pkt call hpkt hcall
    rw [hforwarded]
    exact ⟨hsound.serves hserves, hcounts⟩
  none k hk := by
    rw [hforwarded]
    exact hi.none k (hcalls ▸ hk)
  forwards := hi.forwards.cons fun k pkt' heq => absurd heq (he k pkt')

/-- A packet comes, and its call begins. -/
theorem Inv.receive (hi : parts.Inv Sound Fits c h s)
    (hcalls : s'.calls = s.calls ++ [call]) (hne : call ≠ .ended)
    (hmapper : MapperSound parts.kind parts.base (CameFrom (received (.receive pkt :: h)))
      s'.mapper)
    (hfilter : Sound s'.filter) (hunlocked : ¬ s'.filter.SelfLocked)
    (hserves : parts.Serves Fits (CameFrom (received h)) (CameFrom (received (.receive pkt :: h)))
      s s')
    (hcall : parts.CallSound Fits c (CameFrom (received (.receive pkt :: h))) s' pkt call) :
    parts.Inv Sound Fits c (.receive pkt :: h) s' where
  mapper := hmapper
  filter := hfilter
  unlocked := hunlocked
  length := by
    rw [hcalls, List.length_append, hi.length, received, List.length_append]
    rfl
  calls k pkt' call' hpkt hk := by
    rw [hcalls, List.getElem?_append] at hk
    rw [received, List.getElem?_append, ← hi.length] at hpkt
    show _ ∧ CallCounts (forwardsOf k h) pkt' call'
    split at hk
    · rename_i hlt
      rw [if_pos hlt] at hpkt
      obtain ⟨hsound, hcounts⟩ := hi.calls k pkt' call' hpkt hk
      exact ⟨hsound.serves hserves, hcounts⟩
    · rename_i hlt
      rw [if_neg hlt] at hpkt
      obtain rfl := List.mem_singleton.mp (List.mem_of_getElem? hk)
      obtain rfl := List.mem_singleton.mp (List.mem_of_getElem? hpkt)
      rw [hi.none k (Nat.le_of_not_lt hlt)]
      exact ⟨hcall, callCounts_nil fun hend => absurd hend hne⟩
  none k hk := by
    rw [hcalls, List.length_append] at hk
    exact hi.none k (Nat.le_of_succ_le hk)
  forwards := hi.forwards.cons nofun

/-- A call takes its result. -/
theorem Inv.goes {call' : NatCall} (hi : parts.Inv Sound Fits c h s)
    (hk : s.calls[k]? = some call) (hne : call ≠ .ended) (hcalls : s'.calls = s.calls.set k call')
    (hmapper : MapperSound parts.kind parts.base (CameFrom (received h)) s'.mapper)
    (hfilter : Sound s'.filter) (hunlocked : ¬ s'.filter.SelfLocked)
    (hserves : parts.Serves Fits (CameFrom (received h)) (CameFrom (received h)) s s')
    (hcall : ∀ pkt, (received h)[k]? = some pkt →
      parts.CallSound Fits c (CameFrom (received h)) s pkt call →
      parts.CallSound Fits c (CameFrom (received h)) s' pkt call' ∧
        (call' = .ended → pkt.isIngoing = true)) :
    parts.Inv Sound Fits c (.goes k :: h) s' where
  mapper := hmapper
  filter := hfilter
  unlocked := hunlocked
  length := by
    rw [hcalls, List.length_set]
    exact hi.length
  calls k' pkt call₁ hpkt hk' := by
    show _ ∧ CallCounts (forwardsOf k' h) pkt call₁
    rw [hcalls] at hk'
    by_cases heq : k' = k
    · subst heq
      rw [List.getElem?_set_self (List.getElem?_eq_some_iff.mp hk).1] at hk'
      obtain rfl := Option.some.inj hk'
      obtain ⟨hsound, hcounts⟩ := hi.calls k' pkt call hpkt hk
      obtain ⟨hsound', hend⟩ := hcall pkt hpkt hsound
      rw [hcounts.eq_nil hne]
      exact ⟨hsound', callCounts_nil hend⟩
    · rw [List.getElem?_set_ne (Ne.symm heq)] at hk'
      obtain ⟨hsound, hcounts⟩ := hi.calls k' pkt call₁ hpkt hk'
      exact ⟨hsound.serves hserves, hcounts⟩
  none k' hk' := by
    rw [hcalls, List.length_set] at hk'
    exact hi.none k' hk'
  forwards := hi.forwards.cons nofun

/-- A call hands its packet on. -/
theorem Inv.forward (hi : parts.Inv Sound Fits c h s) (hk : s.calls[k]? = some (.passing pkt')) :
    parts.Inv Sound Fits c (.forward k pkt' :: h) { s with calls := s.calls.set k .ended } where
  mapper := hi.mapper
  filter := hi.filter
  unlocked := hi.unlocked
  length := by
    rw [List.length_set]
    exact hi.length
  calls k' pkt call hpkt hk' := by
    have hk' : (s.calls.set k .ended)[k']? = some call := hk'
    have hpkt : (received h)[k']? = some pkt := hpkt
    rw [forwardsOf]
    by_cases heq : k' = k
    · subst heq
      rw [List.getElem?_set_self (List.getElem?_eq_some_iff.mp hk).1] at hk'
      obtain rfl := Option.some.inj hk'
      obtain ⟨-, hcounts⟩ := hi.calls k' pkt _ hpkt hk
      rw [if_pos rfl, hcounts.eq_nil (by simp)]
      exact ⟨trivial, Nat.le_refl 1, fun _ => rfl⟩
    · rw [List.getElem?_set_ne (Ne.symm heq)] at hk'
      obtain ⟨hsound, hcounts⟩ := hi.calls k' pkt call hpkt hk'
      rw [if_neg (Ne.symm heq)]
      exact ⟨hsound.serves ⟨fun _ => id, fun _ _ => id, fun _ _ => id⟩, hcounts⟩
  none k' hk' := by
    have hk' : s.calls.length ≤ k' := by rwa [List.length_set] at hk'
    rw [forwardsOf, if_neg]
    · exact hi.none k' hk'
    · rintro rfl
      exact absurd (List.getElem?_eq_some_iff.mp hk).1 (Nat.not_lt.mpr hk')
  forwards := by
    refine hi.forwards.cons fun k₁ pkt₁ heq => ?_
    obtain ⟨rfl, rfl⟩ := ThreadedEvent.forward.inj heq
    have hlt : k < (received h).length := hi.length ▸ (List.getElem?_eq_some_iff.mp hk).1
    have hpkt := List.getElem?_eq_getElem hlt
    exact ⟨_, hpkt, (hi.calls k _ _ hpkt hk).1⟩

end Calls

theorem cameFrom_append {pkts : List Packet} {ip : UInt32} (h : CameFrom pkts ip) (pkt : Packet) :
    CameFrom (pkts ++ [pkt]) ip := by
  obtain ⟨pkt', hmem, hout⟩ := h
  exact ⟨pkt', List.mem_append_left _ hmem, hout⟩

variable {Handled : ConnSystem N D Bool → ConnEvent → Prop} {rank : D → Nat}

/-- **One step keeps the invariant**, when it meets the filter's condition. -/
theorem Inv.step [TransCmp cmp] (hc : parts.For c)
    (hf : FilterContract parts.filter parts.connMap Sound Handled Fits rank)
    (hi : parts.Inv Sound Fits c h s) (hstep : parts.Step s e s')
    (hhandled : FilterHandled Handled s e) : parts.Inv Sound Fits c (e :: h) s' := by
  have hsame : ∀ {S : UInt32 → Prop} {s s' : ThreadedNat κ cmp N D}, s'.mapper = s.mapper →
      s'.filter = s.filter → parts.Serves Fits S S s s' := by
    intro S s s' hmapper hfilter
    refine ⟨fun _ => id, fun pkt i hs => ?_, fun pkt j hs => ?_⟩
    · rwa [hmapper]
    · rwa [hfilter]
  cases hstep with
  | ingoing pkt filter hin hfilter =>
    have hsource : ∀ ip, CameFrom (received h) ip → CameFrom (received h ++ [pkt]) ip :=
      fun ip hip => cameFrom_append hip pkt
    refine hi.receive rfl nofun (hi.mapper.mono hsource) (hf.step _ _ _ hi.filter hfilter) ?_ ?_ ?_
    · exact hf.unlocked_of_ne_goes hi.filter hi.unlocked hfilter nofun
    · exact ⟨hsource, fun pkt i hs => hs.mono hsource, fun pkt j hs => hf.serves hfilter hs⟩
    · exact ⟨⟨rfl, hin⟩, hf.serves_call hfilter⟩
  | outgoing pkt mapper hout hmapper =>
    have hsource : ∀ ip, CameFrom (received h) ip → CameFrom (received h ++ [pkt]) ip :=
      fun ip hip => cameFrom_append hip pkt
    have hsrc : CameFrom (received h ++ [pkt]) pkt.srcIp :=
      ⟨pkt, List.mem_append_right _ (List.mem_singleton_self pkt), hout, rfl⟩
    obtain ⟨hsound, hserves⟩ := (hi.mapper.mono hsource).step hmapper
      fun pkt' heq _ => ConnEvent.call.inj heq ▸ hsrc
    refine hi.receive rfl nofun hsound hi.filter hi.unlocked ?_ ?_
    · exact ⟨hsource, fun pkt i hs => hserves pkt i (hs.mono hsource), fun pkt j => id⟩
    · exact ⟨rfl, MapperSystem.serves_call (fun _ => hsrc) hmapper⟩
  | tick now mapper filter hmapper hfilter =>
    obtain ⟨hsound, hserves⟩ := hi.mapper.step hmapper nofun
    refine hi.systems rfl (fun _ => rfl) nofun rfl hsound (hf.step _ _ _ hi.filter hfilter) ?_ ?_
    · exact hf.unlocked_of_ne_goes hi.filter hi.unlocked hfilter nofun
    · exact ⟨fun _ => id, hserves, fun pkt j hs => hf.serves hfilter hs⟩
  | mapper i mapper hmapper =>
    obtain ⟨hsound, hserves⟩ := hi.mapper.step hmapper nofun
    exact hi.systems rfl (fun _ => rfl) nofun rfl hsound hi.filter hi.unlocked
      ⟨fun _ => id, hserves, fun _ _ => id⟩
  | filter j filter hfilter =>
    refine hi.systems rfl (fun _ => rfl) nofun rfl hi.mapper (hf.step _ _ _ hi.filter hfilter) ?_ ?_
    · exact (hf.handled _ _ _ hi.filter hi.unlocked hfilter).mpr (hhandled j rfl)
    · exact ⟨fun _ => id, fun _ _ => id, fun pkt j hs => hf.serves hfilter hs⟩
  | checked k pkt j mapper hk hok hmapper =>
    have hlt : k < (received h).length := hi.length ▸ (List.getElem?_eq_some_iff.mp hk).1
    obtain ⟨⟨⟨heq, hdir⟩, -⟩, -⟩ := hi.calls k _ _ (List.getElem?_eq_getElem hlt) hk
    have hin : ¬ pkt.isIngoing = false := by
      rw [heq, hdir]
      exact Bool.noConfusion
    obtain ⟨hsound, hserves⟩ := hi.mapper.step hmapper
      fun pkt' heq hout => absurd (ConnEvent.call.inj heq ▸ hout) hin
    refine hi.goes hk nofun rfl hsound hi.filter hi.unlocked ?_ ?_
    · exact ⟨fun _ => id, hserves, fun _ _ => id⟩
    · rintro pkt' - ⟨⟨rfl, -⟩, -⟩
      exact ⟨⟨rfl, MapperSystem.serves_call (fun hout => absurd hout hin) hmapper⟩, nofun⟩
  | refused k pkt j hk hok =>
    refine hi.goes hk nofun rfl hi.mapper hi.filter hi.unlocked (hsame rfl rfl) ?_
    rintro pkt' - ⟨⟨rfl, hin⟩, -⟩
    exact ⟨trivial, fun _ => hin⟩
  | unmapped k pkt i hk hr =>
    refine hi.goes hk nofun rfl hi.mapper hi.filter hi.unlocked (hsame rfl rfl) ?_
    rintro pkt' - ⟨rfl, t, ht, hmaps⟩
    rw [hr] at ht
    obtain rfl := Option.some.inj ht
    refine ⟨trivial, fun _ => ?_⟩
    by_contra hdir
    obtain ⟨port, hnone, -⟩ := (answers_outgoing (Bool.eq_false_of_not_eq_true hdir)).mp hmaps
    cases hnone
  | mappedIngoing k pkt i pkt' hk hr hin =>
    refine hi.goes hk nofun rfl hi.mapper hi.filter hi.unlocked (hsame rfl rfl) ?_
    rintro pkt₁ - ⟨rfl, t, ht, hmaps⟩
    rw [hr] at ht
    obtain rfl := Option.some.inj ht
    exact ⟨(forwards_of_answers hc hmaps rfl).1, nofun⟩
  | mappedOutgoing k pkt i pkt' filter hk hr hout hfilter =>
    refine hi.goes hk nofun rfl hi.mapper (hf.step _ _ _ hi.filter hfilter) ?_ ?_ ?_
    · exact hf.unlocked_of_ne_goes hi.filter hi.unlocked hfilter nofun
    · exact ⟨fun _ => id, fun _ _ => id, fun pkt j hs => hf.serves hfilter hs⟩
    · rintro pkt₁ - ⟨rfl, t, ht, hmaps⟩
      rw [hr] at ht
      obtain rfl := Option.some.inj ht
      obtain ⟨hforwards, hdir⟩ := forwards_of_answers hc hmaps rfl
      rw [NatConfig.Forwards, if_neg (hout ▸ Bool.false_ne_true)] at hforwards
      exact ⟨⟨⟨hout, hforwards⟩, hdir.trans hout, hf.serves_call hfilter⟩, nofun⟩
  | filtered k pkt' j ok hk hr =>
    refine hi.goes hk nofun rfl hi.mapper hi.filter hi.unlocked (hsame rfl rfl) ?_
    rintro pkt₁ - ⟨⟨hout, htranslates⟩, hout', t, ht, hserves⟩
    rw [hr] at ht
    obtain rfl := Option.some.inj ht
    obtain rfl : ok = true := hserves hout'
    refine ⟨?_, nofun⟩
    show c.Forwards _ pkt₁ pkt'
    rwa [NatConfig.Forwards, if_neg (hout ▸ Bool.false_ne_true)]
  | forward k pkt' hk => exact hi.forward hk

theorem Inv.new [TransCmp cmp] (c : NatConfig)
    (hf : FilterContract parts.filter parts.connMap Sound Handled Fits rank) :
    parts.Inv Sound Fits c [] parts.new where
  mapper := .new _ _ _
  filter := hf.new
  unlocked := fun ⟨_, _, hmem⟩ => by cases hmem
  length := rfl
  calls k pkt call hpkt := by cases hpkt
  none k hk := rfl
  forwards newer k pkt' older hsplit := by cases newer <;> cases hsplit

/-- **The invariant holds in every run** whose steps meet the filter's condition. -/
theorem HandledRuns.inv [TransCmp cmp] (hc : parts.For c)
    (hf : FilterContract parts.filter parts.connMap Sound Handled Fits rank)
    (run : parts.HandledRuns Handled h s) : parts.Inv Sound Fits c h s := by
  refine run.invariant (I := fun h s => parts.Inv Sound Fits c h s) ?_ ?_
  · rintro _ rfl
    exact .new c hf
  · rintro h s e s' - hi ⟨hstep, hhandled⟩
    exact hi.step hc hf hstep hhandled

/-! ## The threads come to rest -/

omit [CodePosition D] in
/-- A call of `handlePacket` goes on. -/
theorem calls_left (hk : s.calls[k]? = some call) (call' : NatCall) :
    ((s.calls.set k call').map NatCall.left).sum + call.left =
      (s.calls.map NatCall.left).sum + call'.left := sum_map_set _ hk call'

/-- **Each step of a thread costs**, and time costs nothing. -/
theorem cost_add_work_le
    (hf : FilterContract parts.filter parts.connMap Sound Handled Fits rank)
    (h : parts.Step s e s') (he : ∀ pkt, e ≠ .receive pkt) :
    e.cost + work rank s' ≤ work rank s := by
  unfold work
  cases h with
  | ingoing pkt | outgoing pkt => exact absurd rfl (he pkt)
  | tick now mapper filter hmapper hfilter =>
    cases hmapper
    cases hfilter
    exact Nat.le_of_eq (Nat.zero_add _)
  | mapper i mapper hmapper =>
    have hwork := mapper_work hmapper
    simp only [ThreadedEvent.cost]
    omega
  | filter j filter hfilter =>
    have hwork := hf.work _ _ _ hfilter
    simp only [ThreadedEvent.cost]
    omega
  | checked k pkt j mapper hk hok hmapper =>
    have hcalls := calls_left hk (.mapping pkt s.mapper.tasks.length)
    have hwork := hmapper.work_call MapperCode.rank
    have hleft : (parts.mapper.call pkt).left MapperCode.rank ≤ 16 := left_mapperOwner_call _ _ _ _
    simp only [ThreadedEvent.cost, NatCall.left] at hcalls ⊢
    omega
  | refused k pkt j hk | unmapped k pkt i hk =>
    have hcalls := calls_left hk .ended
    simp only [ThreadedEvent.cost, NatCall.left] at hcalls ⊢
    omega
  | mappedIngoing k pkt i pkt' hk =>
    have hcalls := calls_left hk (.passing pkt')
    simp only [ThreadedEvent.cost, NatCall.left] at hcalls ⊢
    omega
  | mappedOutgoing k pkt i pkt' filter hk hr hout hfilter =>
    have hcalls := calls_left hk (.filtering pkt' s.filter.tasks.length)
    have hwork := hfilter.work_call rank
    have hleft := hf.left pkt'
    simp only [ThreadedEvent.cost, NatCall.left] at hcalls ⊢
    omega
  | filtered k pkt' j ok hk =>
    have hcalls := calls_left hk (if ok then .passing pkt' else .ended)
    have hleft : (if ok then NatCall.passing pkt' else .ended).left ≤ 1 := by
      cases ok with
      | true => exact Nat.le_refl 1
      | false => exact Nat.zero_le 1
    have hbefore : (NatCall.filtering pkt' j).left = 2 := rfl
    simp only [ThreadedEvent.cost]
    omega
  | forward k pkt' hk =>
    have hcalls := calls_left hk .ended
    simp only [ThreadedEvent.cost, NatCall.left] at hcalls ⊢
    omega

/-- **Some thread can go on**, while a call is under way and `mapPort` returns. -/
theorem Inv.exists_step (hi : parts.Inv Sound Fits c h s)
    (hf : FilterContract parts.filter parts.connMap Sound Handled Fits rank)
    (hcall : ∃ call ∈ s.calls, call ≠ .ended) (hport : ¬ s.mapper.Searching parts.kind) :
    ∃ e s', e.cost = 1 ∧ parts.Step s e s' := by
  obtain ⟨call, hmem, hne⟩ := hcall
  obtain ⟨k, hk⟩ := List.mem_iff_getElem?.mp hmem
  have hlt : k < (received h).length := hi.length ▸ (List.getElem?_eq_some_iff.mp hk).1
  obtain ⟨hsound, -⟩ := hi.calls k _ _ (List.getElem?_eq_getElem hlt) hk
  have hfilter : (∃ t ∈ s.filter.tasks, t.Active) → ∃ e s', e.cost = 1 ∧ parts.Step s e s' := by
    intro hactive
    obtain ⟨j, filter, hstep⟩ := hf.exists_goes _ hi.filter hi.unlocked hactive
    exact ⟨.filter j, _, rfl, .filter j filter hstep⟩
  cases call with
  | checking pkt j =>
    obtain ⟨-, t, ht, hserves⟩ := hsound
    rcases hserves.active with hactive | ⟨ok, rfl⟩
    · exact hfilter ⟨t, List.mem_of_getElem? ht, hactive⟩
    · cases ok with
      | true => exact ⟨.goes k, _, rfl, .checked k pkt j _ hk ht (.call pkt)⟩
      | false => exact ⟨.goes k, _, rfl, .refused k pkt j hk ht⟩
  | mapping pkt i =>
    obtain ⟨-, t, ht, hserves⟩ := hsound
    rcases hserves.active with hactive | ⟨r, rfl⟩
    · obtain ⟨i', mapper, hstep⟩ :=
        hi.mapper.exists_goes hport ⟨t, List.mem_of_getElem? ht, hactive⟩
      exact ⟨.mapper i', _, rfl, .mapper i' mapper hstep⟩
    · cases r with
      | none => exact ⟨.goes k, _, rfl, .unmapped k pkt i hk ht⟩
      | some pkt' =>
        cases hdir : pkt.isIngoing with
        | true => exact ⟨.goes k, _, rfl, .mappedIngoing k pkt i pkt' hk ht hdir⟩
        | false => exact ⟨.goes k, _, rfl, .mappedOutgoing k pkt i pkt' _ hk ht hdir (.call pkt')⟩
  | filtering pkt' j =>
    obtain ⟨-, -, t, ht, hserves⟩ := hsound
    rcases hserves.active with hactive | ⟨ok, rfl⟩
    · exact hfilter ⟨t, List.mem_of_getElem? ht, hactive⟩
    · exact ⟨.goes k, _, rfl, .filtered k pkt' j ok hk ht⟩
  | passing pkt' => exact ⟨.forward k pkt', _, rfl, .forward k pkt' hk⟩
  | ended => exact absurd rfl hne

/-- **What a NAT does with the packets**, while the steps meet the filter's condition. -/
theorem HandledRuns.sends [TransCmp cmp] (hc : parts.For c)
    (hf : FilterContract parts.filter parts.connMap Sound Handled Fits rank)
    (run : parts.HandledRuns Handled h s) : parts.Sends rank c h s where
  forwards := (run.inv hc hf).forwards
  once k pkt hpkt := by
    have hi := run.inv hc hf
    have hlt : k < s.calls.length := hi.length ▸ (List.getElem?_eq_some_iff.mp hpkt).1
    have hk := List.getElem?_eq_getElem hlt
    obtain ⟨-, hcounts⟩ := hi.calls k pkt _ hpkt hk
    by_cases hend : s.calls[k] = .ended
    · rw [hend] at hk hcounts
      exact ⟨hcounts.1, fun hout => iff_of_true hk (hcounts.2 hout)⟩
    · rw [hcounts.eq_nil hend]
      refine ⟨Nat.zero_le _, fun _ => iff_of_false (fun heq => hend ?_) nofun⟩
      rw [hk] at heq
      exact Option.some.inj heq
  goesOn hcall hport := (run.inv hc hf).exists_step hf hcall hport
  rests h' s' run' := by
    have htotal := run'.total_le (work rank) ThreadedEvent.cost
      fun s e s' hstep => cost_add_work_le hf hstep.1 hstep.2
    exact Nat.le_trans (Nat.le_add_right _ _) htotal

/-! ## A packet that never leaves -/

section Owned
omit [CodePosition D]

/-- The task `j` of the filter is a handler, has returned, or is what a call waits for. -/
def OwnedAt (calls : List NatCall) (j : Nat) (t : ConnTask D Bool) : Prop :=
  t.IsHandler ∨ (∃ r, t = .returned r) ∨
    ∃ (k : Nat) (call : NatCall), calls[k]? = some call ∧ call.inFilter = some j

/-- Every call of the filter is one of `handlePacket`. -/
def Owned (calls : List NatCall) (filter : ConnSystem N D Bool) : Prop :=
  ∀ j t, filter.tasks[j]? = some t → OwnedAt calls j t

variable {calls : List NatCall} {filter filter' : ConnSystem N D Bool} {j : Nat}

theorem Owned.append (ho : Owned calls filter) (call : NatCall) :
    Owned (calls ++ [call]) filter := by
  intro j t ht
  rcases ho j t ht with hhandler | hreturned | ⟨k, call', hk, hj⟩
  · exact Or.inl hhandler
  · exact Or.inr (Or.inl hreturned)
  · refine Or.inr (Or.inr ⟨k, call', ?_, hj⟩)
    rw [List.getElem?_append_left (List.getElem?_eq_some_iff.mp hk).1, hk]

/-- A call leaves the filter when its own one has returned. -/
theorem Owned.set (ho : Owned calls filter) (hk : calls[k]? = some call)
    (hleaves : ∀ j, call.inFilter = some j → ∃ r, filter.tasks[j]? = some (.returned r))
    (call' : NatCall) : Owned (calls.set k call') filter := by
  intro j t ht
  rcases ho j t ht with hhandler | hreturned | ⟨k', call₁, hk', hj⟩
  · exact Or.inl hhandler
  · exact Or.inr (Or.inl hreturned)
  · by_cases heq : k' = k
    · subst heq
      rw [hk] at hk'
      obtain rfl := Option.some.inj hk'
      obtain ⟨r, hr⟩ := hleaves j hj
      rw [ht] at hr
      exact Or.inr (Or.inl ⟨r, Option.some.inj hr⟩)
    · exact Or.inr (Or.inr ⟨k', call₁, (List.getElem?_set_ne (Ne.symm heq)).trans hk', hj⟩)

theorem OwnedAt.cancel {t : ConnTask D Bool} (ho : OwnedAt calls j t) (p : Nat) :
    OwnedAt calls j (t.cancel p) := by
  rcases ho with hhandler | ⟨r, rfl⟩ | howned
  · exact Or.inl (hhandler.cancel p)
  · exact Or.inr (Or.inl ⟨r, rfl⟩)
  · exact Or.inr (Or.inr howned)

end Owned

variable {calls : List NatCall} {filter filter' : ConnSystem N D Bool} {j : Nat}

/-- A call of the filter begins, for a call of `handlePacket`. -/
theorem Owned.begins (ho : Owned calls filter)
    (h : ConnSystem.Step parts.filter filter (.call pkt) filter') (hk : calls[k]? = some call)
    (hj : call.inFilter = some filter.tasks.length) : Owned calls filter' := by
  cases h
  intro j t ht
  rw [List.getElem?_append] at ht
  split at ht
  · exact ho j t ht
  · rename_i hlt
    obtain ⟨hlen, -⟩ := List.getElem?_eq_some_iff.mp ht
    have hlen : j - filter.tasks.length < 1 := hlen
    have heq : j = filter.tasks.length := by omega
    exact Or.inr (Or.inr ⟨k, call, hk, heq ▸ hj⟩)

theorem Owned.goes (hf : FilterContract parts.filter parts.connMap Sound Handled Fits rank)
    (ho : Owned calls filter) (h : ConnSystem.Step parts.filter filter (.goes j) filter') :
    Owned calls filter' := by
  intro j' u hu
  rcases h.goes_cases with ⟨d, hj, hcode⟩ | ⟨t, t', hj, hadvances, hm, -, -⟩
  · obtain ⟨t', hm, -⟩ := hf.code _ _ _ _ hj hcode
    refine hm.forall_getElem? (P := OwnedAt calls) (fun j t p h => h.cancel p)
      (fun j t p h => Or.inl (ConnTask.isHandler_of_handles h)) ho ?_ hu
    rcases ho j _ hj with hhandler | ⟨r, heq⟩ | howned
    · exact hhandler.elim
    · cases heq
    · exact Or.inr (Or.inr howned)
  · refine hm.forall_getElem? (P := OwnedAt calls) (fun j t p h => h.cancel p)
      (fun j t p h => Or.inl (ConnTask.isHandler_of_handles h)) ho ?_ hu
    rcases ho j t hj with hhandler | ⟨r, heq⟩ | howned
    · exact Or.inl (hhandler.advances hadvances)
    · exact absurd heq (ConnTask.not_advances_returned hadvances)
    · exact Or.inr (Or.inr howned)

theorem Owned.step (hf : FilterContract parts.filter parts.connMap Sound Handled Fits rank)
    (ho : Owned s.calls s.filter) (h : parts.Step s e s') : Owned s'.calls s'.filter := by
  cases h with
  | ingoing pkt filter hin hfilter =>
    exact (ho.append _).begins hfilter List.getElem?_concat_length rfl
  | outgoing pkt mapper hout hmapper => exact ho.append _
  | tick now mapper filter hmapper hfilter =>
    cases hfilter
    exact ho
  | mapper i mapper hmapper => exact ho
  | filter j filter hfilter => exact ho.goes hf hfilter
  | checked k pkt j mapper hk hok hmapper =>
    refine ho.set hk (fun j' hj' => ?_) _
    obtain rfl := Option.some.inj hj'
    exact ⟨true, hok⟩
  | refused k pkt j hk hok =>
    refine ho.set hk (fun j' hj' => ?_) _
    obtain rfl := Option.some.inj hj'
    exact ⟨false, hok⟩
  | unmapped k pkt i hk hr => exact ho.set hk nofun _
  | mappedIngoing k pkt i pkt' hk hr hin => exact ho.set hk nofun _
  | mappedOutgoing k pkt i pkt' filter hk hr hout hfilter =>
    exact (ho.set hk nofun _).begins hfilter
      (List.getElem?_set_self (List.getElem?_eq_some_iff.mp hk).1) rfl
  | filtered k pkt' j ok hk hr =>
    refine ho.set hk (fun j' hj' => ?_) _
    obtain rfl := Option.some.inj hj'
    exact ⟨ok, hr⟩
  | forward k pkt' hk => exact ho.set hk nofun _

/-- A call whose own one in the filter waits for itself does not go on. -/
theorem hangs_step (hf : FilterContract parts.filter parts.connMap Sound Handled Fits rank)
    (hk : s.calls[k]? = some (.filtering pkt' j)) (hj : s.filter.HangsAt j)
    (h : parts.Step s e s') :
    (s'.calls[k]? = some (.filtering pkt' j) ∧ s'.filter.HangsAt j) ∧
      ∀ h, forwardsOf k (e :: h) = forwardsOf k h := by
  have hne : ∀ {k' : Nat} {call : NatCall}, s.calls[k']? = some call →
      (k' = k → call ≠ .filtering pkt' j) → k' ≠ k := by
    rintro k' call hk' hcall rfl
    rw [hk] at hk'
    exact hcall rfl (Option.some.inj hk').symm
  have hset : ∀ {k' : Nat} (call : NatCall), k' ≠ k →
      (s.calls.set k' call)[k]? = some (.filtering pkt' j) :=
    fun call hkk => (List.getElem?_set_ne hkk).trans hk
  have happend : ∀ call, (s.calls ++ [call])[k]? = some (.filtering pkt' j) :=
    fun call => (List.getElem?_append_left (List.getElem?_eq_some_iff.mp hk).1).trans hk
  cases h with
  | ingoing pkt filter hin hfilter => exact ⟨⟨happend _, hf.hangs hfilter hj⟩, fun _ => rfl⟩
  | outgoing pkt mapper hout hmapper => exact ⟨⟨happend _, hj⟩, fun _ => rfl⟩
  | tick now mapper filter hmapper hfilter => exact ⟨⟨hk, hf.hangs hfilter hj⟩, fun _ => rfl⟩
  | mapper i mapper hmapper => exact ⟨⟨hk, hj⟩, fun _ => rfl⟩
  | filter j' filter hfilter => exact ⟨⟨hk, hf.hangs hfilter hj⟩, fun _ => rfl⟩
  | checked k' pkt j' mapper hk' | refused k' pkt j' hk' | unmapped k' pkt i hk'
  | mappedIngoing k' pkt i pkt₁ hk' =>
    exact ⟨⟨hset _ (hne hk' nofun), hj⟩, fun _ => rfl⟩
  | mappedOutgoing k' pkt i pkt₁ filter hk' hr hout hfilter =>
    exact ⟨⟨hset _ (hne hk' nofun), hf.hangs hfilter hj⟩, fun _ => rfl⟩
  | filtered k' pkt₁ j' ok hk' hr =>
    refine ⟨⟨hset _ (hne hk' fun _ heq => ?_), hj⟩, fun _ => rfl⟩
    obtain ⟨rfl, rfl⟩ := NatCall.filtering.inj heq
    obtain ⟨p, next, hj⟩ := hj
    rw [hj] at hr
    cases hr
  | forward k' pkt₁ hk' =>
    have hkk := hne hk' nofun
    exact ⟨⟨hset _ hkk, hj⟩, fun h => if_neg hkk⟩

theorem strands_of_hangs (hf : FilterContract parts.filter parts.connMap Sound Handled Fits rank)
    (hk : s.calls[k]? = some (.filtering pkt' j)) (hj : s.filter.HangsAt j)
    (hnone : forwardsOf k h = []) : parts.Strands k h s := by
  intro h' s' run
  suffices hall : (s'.calls[k]? = some (.filtering pkt' j) ∧ s'.filter.HangsAt j) ∧
      forwardsOf k (h' ++ h) = [] from hall.2
  refine run.invariant (I := fun h' s' => (s'.calls[k]? = some (.filtering pkt' j) ∧
    s'.filter.HangsAt j) ∧ forwardsOf k (h' ++ h) = []) ?_ ?_
  · rintro _ rfl
    exact ⟨⟨hk, hj⟩, hnone⟩
  · rintro h' s e s' - ⟨⟨hk, hj⟩, hnone⟩ hstep
    obtain ⟨hkeeps, hsame⟩ := hangs_step hf hk hj hstep
    exact ⟨hkeeps, (hsame _).trans hnone⟩

/-- **Where a step does not meet the filter's condition**, an outgoing packet never leaves. -/
theorem HandledRuns.strands [TransCmp cmp] (hc : parts.For c)
    (hf : FilterContract parts.filter parts.connMap Sound Handled Fits rank)
    (run : parts.HandledRuns Handled h s) (hstep : parts.Step s e s')
    (hnot : ¬ FilterHandled Handled s e) :
    ∃ k pkt, (received h)[k]? = some pkt ∧ pkt.isIngoing = false ∧
      parts.Strands k (e :: h) s' := by
  have hi := run.inv hc hf
  have howned : Owned s.calls s.filter := by
    refine run.invariant (I := fun _ s => Owned s.calls s.filter) ?_ ?_
    · rintro _ rfl j t ht
      cases ht
    · exact fun h s e s' _ ho hstep => ho.step hf hstep.1
  simp only [FilterHandled, not_forall] at hnot
  obtain ⟨j, rfl, hnot⟩ := hnot
  cases hstep with
  | filter _ filter hfilter =>
    obtain ⟨j', d, ht, hout, hhangs⟩ := hf.hangs_of_not_handled hi.filter hi.unlocked hfilter hnot
    obtain hhandler | ⟨r, heq⟩ | ⟨k, call, hk, hj⟩ := howned j' _ ht
    · exact hhandler.elim
    · cases heq
    have hlt : k < (received h).length := hi.length ▸ (List.getElem?_eq_some_iff.mp hk).1
    have hpkt := List.getElem?_eq_getElem hlt
    obtain ⟨hsound, hcounts⟩ := hi.calls k _ _ hpkt hk
    cases call with
    | checking pkt j₁ =>
      -- an ingoing packet makes no entry
      obtain rfl := Option.some.inj hj
      obtain ⟨⟨-, hin⟩, t, ht', hserves⟩ := hsound
      rw [ht] at ht'
      obtain rfl := Option.some.inj ht'
      rw [hout _ hserves] at hin
      cases hin
    | filtering pkt' j₁ =>
      obtain rfl := Option.some.inj hj
      refine ⟨k, _, hpkt, hsound.1.1, ?_⟩
      exact strands_of_hangs hf (s := { s with filter := filter }) hk hhangs hcounts
    | mapping | passing | ended => cases hj

/-- In the runs whose steps meet the filter's condition, the packets are sent; and where a step
does not meet it, an outgoing packet never leaves. -/
def SendsWhile (parts : NatParts κ cmp N D) (rank : D → Nat) (c : NatConfig)
    (Handled : ConnSystem N D Bool → ConnEvent → Prop) : Prop :=
  ∀ h s, parts.HandledRuns Handled h s → parts.Sends rank c h s ∧
    ∀ e s', parts.Step s e s' → ¬ FilterHandled Handled s e →
      ∃ k pkt, (received h)[k]? = some pkt ∧ pkt.isIngoing = false ∧ parts.Strands k (e :: h) s'

theorem sendsWhile [TransCmp cmp] (hc : parts.For c)
    (hf : FilterContract parts.filter parts.connMap Sound Handled Fits rank) :
    parts.SendsWhile rank c Handled :=
  fun _ _ run => ⟨run.sends hc hf, fun _ _ => run.strands hc hf⟩

end NatParts

/-! ## The four types -/

namespace NatConfig
variable (c : NatConfig)

/-- `init`, for a port restricted NAT. -/
def portrParts : NatParts UInt16 compare (TreeMap ConnectionTuple Nat ConnectionTuple.cmp)
    FilterCode where
  kind := natKind
  mapsPort := false
  base := c.base
  filter := portrSymOwner c.connectionTimeout c.dnatRules
  connMap := ∅

/-- `init`, for an address restricted NAT. -/
def addrrParts : NatParts UInt16 compare (TreeMap AddrrTuple Nat AddrrTuple.cmp) FilterCode where
  kind := natKind
  mapsPort := false
  base := c.base
  filter := addrrOwner c.connectionTimeout c.dnatRules
  connMap := ∅

/-- `init`, for a symmetric NAT. -/
def symParts : NatParts ConnectionTuple ConnectionTuple.cmp
    (TreeMap ConnectionTuple Nat ConnectionTuple.cmp) FilterCode where
  kind := symKind
  mapsPort := true
  base := c.base
  filter := portrSymOwner c.connectionTimeout c.dnatRules
  connMap := ∅

/-- `init`, for a full cone NAT. -/
def fullconeParts : NatParts UInt16 compare Unit Empty where
  kind := natKind
  mapsPort := false
  base := c.base
  filter := fullconeOwner
  connMap := ()

end NatConfig

/-- **No outgoing packet is lost, and none leaks an address**, of each type, with every rule
table, in every run in which each section of the filter that makes an entry ends before the
handlers of the entry's timer are gone.  In the full cone NAT no step can fail to be so. -/
theorem nat_forwards_while_handled (c : NatConfig) :
    (c.type = .portRNat → c.portrParts.SendsWhile FilterCode.rank c ConnSystem.EntryHandled) ∧
    (c.type = .addrRNat → c.addrrParts.SendsWhile FilterCode.rank c ConnSystem.EntryHandled) ∧
    (c.type = .symNat → c.symParts.SendsWhile FilterCode.rank c ConnSystem.EntryHandled) ∧
    (c.type = .fullConeNat → ∀ h s, Run c.fullconeParts.Step (· = c.fullconeParts.new) h s →
      c.fullconeParts.Sends Empty.elim c h s) := by
  refine ⟨fun _ => ?_, fun _ => ?_, fun htype => ?_, fun _ h s run => ?_⟩
  · exact NatParts.sendsWhile ⟨rfl, fun _ _ _ => id⟩ (filterContract _ _ _)
  · exact NatParts.sendsWhile ⟨rfl, fun _ _ _ => id⟩ (filterContract _ _ _)
  · exact NatParts.sendsWhile ⟨rfl, fun hne => absurd htype hne⟩ (filterContract _ _ _)
  · have hrun : c.fullconeParts.HandledRuns (fun _ _ => True) h s :=
      run.mono fun s e s' hstep => ⟨hstep, fun _ _ => trivial⟩
    exact hrun.sends ⟨rfl, fun _ _ _ => id⟩ fullconeContract

namespace NatParts
variable {κ : Type} {cmp : κ → κ → Ordering} {N D : Type} [CodePosition D]
  {parts : NatParts κ cmp N D} {Handled : ConnSystem N D Bool → ConnEvent → Prop}
  {h : List ThreadedEvent} {m m' : MapperSystem κ cmp} {f f' : ConnSystem N D Bool}
  {calls : List NatCall}

theorem HandledRuns.mapper (run : parts.HandledRuns Handled h ⟨m, f, calls⟩) (i : Nat)
    (hstep : ConnSystem.Step parts.mapper m (.goes i) m') :
    parts.HandledRuns Handled (.mapper i :: h) ⟨m', f, calls⟩ :=
  .step run ⟨.mapper i m' hstep, nofun⟩

theorem HandledRuns.filter (run : parts.HandledRuns Handled h ⟨m, f, calls⟩) (j : Nat)
    (hstep : ConnSystem.Step parts.filter f (.goes j) f') (hhandled : Handled f (.goes j)) :
    parts.HandledRuns Handled (.filter j :: h) ⟨m, f', calls⟩ :=
  .step run ⟨.filter j f' hstep, fun _ heq => ThreadedEvent.filter.inj heq ▸ hhandled⟩

end NatParts

/-- The first packet of a NAT is `pkt`, which leaves the mapper as `pkt'`, and its call of the
filter is about to end the section in which it made an entry. -/
def firstThreadedEvents (pkt : Packet) : List ThreadedEvent :=
  List.replicate 7 (ThreadedEvent.filter 0) ++ ThreadedEvent.goes 0 ::
    (List.replicate 10 (ThreadedEvent.mapper 0) ++ [ThreadedEvent.receive pkt])

theorem portr_first (timeout : UInt32) :
    ∃ m, (NatConfig.portrParts { ipExt := 2, ipInt := 1, connectionTimeout := timeout }).HandledRuns
      ConnSystem.EntryHandled (firstThreadedEvents (.ofAddresses false 1 7 5 80))
      ⟨m, FilterSystem.first portrSymKind timeout (.ofAddresses false 2 7 5 80),
        [.filtering (.ofAddresses false 2 7 5 80) 0]⟩ := by
  let pkt := Packet.ofAddresses false 1 7 5 80
  let pkt' := Packet.ofAddresses false 2 7 5 80
  let parts := NatConfig.portrParts { ipExt := 2, ipInt := 1, connectionTimeout := timeout }
  have run : parts.HandledRuns ConnSystem.EntryHandled [.receive pkt]
      ⟨{ maps := ⟨∅, ∅⟩, tasks := [.code (.search pkt)] }, { maps := ∅ }, [.mapping pkt 0]⟩ :=
    .step (.start rfl) ⟨.outgoing pkt _ rfl (.call pkt), nofun⟩
  -- the mapper makes an entry
  have run := run.mapper 0 (.code 0 _ _ rfl (.lock _ (.inSearch pkt) rfl
    (List.forall_mem_singleton.mpr rfl)))
  have run := run.mapper 0 (.code 0 _ _ rfl (.searchNone pkt rfl))
  have run := run.mapper 0 (.code 0 _ _ rfl (.missing pkt))
  have run := run.mapper 0 (.code 0 _ _ rfl (.mapPort pkt false 5 rfl))
  have run := run.mapper 0 (.code 0 _ _ rfl (.make pkt 5))
  have run := run.mapper 0 (.code 0 _ _ rfl (.linkInt pkt 5 0))
  have run := run.mapper 0 (.code 0 _ _ rfl (.linkExt pkt 5 0))
  have run := run.mapper 0 (.code 0 _ _ rfl (.start pkt 5 0 _ rfl))
  have run := run.mapper 0 (.code 0 _ _ rfl (.armed pkt 5 0))
  have run := run.mapper 0 (.ret 0 0 (some pkt') rfl)
  -- its call takes the result, and calls the filter
  have run : parts.HandledRuns ConnSystem.EntryHandled _
      ⟨_, { maps := ∅, tasks := [.code (.search pkt')] }, [.filtering pkt' 0]⟩ :=
    .step run ⟨.mappedOutgoing 0 pkt 0 pkt' _ rfl rfl rfl (.call pkt'), nofun⟩
  have run := run.filter 0 (.code 0 _ _ rfl (.lock _ (.inSearch pkt') rfl
    (List.forall_mem_singleton.mpr rfl)))
    (ConnSystem.entryHandled_of_code rfl (by simp))
  have run := run.filter 0 (.code 0 _ _ rfl (.searchNone pkt' rfl))
    (ConnSystem.entryHandled_of_code rfl (by simp))
  have run := run.filter 0 (.code 0 _ _ rfl (.missing pkt'))
    (ConnSystem.entryHandled_of_code rfl (by simp))
  have run := run.filter 0 (.code 0 _ _ rfl (.lock _ (.making pkt') rfl
    (List.forall_mem_singleton.mpr rfl)))
    (ConnSystem.entryHandled_of_code rfl (by simp))
  have run := run.filter 0 (.code 0 _ _ rfl (.make pkt'))
    (ConnSystem.entryHandled_of_code rfl (by simp))
  have run := run.filter 0 (.code 0 _ _ rfl (.start 0 _ rfl))
    (ConnSystem.entryHandled_of_code rfl (by simp))
  have run := run.filter 0 (.code 0 _ _ rfl (.armed 0))
    (ConnSystem.entryHandled_of_code rfl (by simp))
  exact ⟨_, run⟩

/-- A packet leaves, when the section that makes its entry ends before the timer expires. -/
theorem nat_forwards_first_packet :
    ∃ h s, (NatConfig.portrParts { ipExt := 2, ipInt := 1 }).HandledRuns
        ConnSystem.EntryHandled h s ∧
      received h = [.ofAddresses false 1 7 5 80] ∧
      forwardsOf 0 h = [.ofAddresses false 2 7 5 80] ∧
      (NatConfig.portrParts { ipExt := 2, ipInt := 1 }).Sends FilterCode.rank
        { ipExt := 2, ipInt := 1 } h s := by
  obtain ⟨m, run⟩ := portr_first (10 * 60)
  have run := run.filter 0 (.code 0 _ _ rfl (.scopeEnd 0)) (fun i p heq ht => by
    obtain rfl := ConnEvent.goes.inj heq
    cases ht
    exact ⟨.waiting 0 _, List.mem_cons_of_mem _ List.mem_cons_self, rfl⟩)
  have run := run.filter 0 (.code 0 _ _ rfl .unlock) (fun i p heq ht => by
    obtain rfl := ConnEvent.goes.inj heq
    cases ht)
  have run := Run.step run ⟨.filtered 0 (.ofAddresses false 2 7 5 80) 0 true rfl rfl, nofun⟩
  have run := Run.step run ⟨.forward 0 (.ofAddresses false 2 7 5 80) rfl, nofun⟩
  exact ⟨_, _, run, rfl, rfl, ((nat_forwards_while_handled _).1 rfl _ _ run).1⟩

/-- With the timeout 0, which the program accepts, the first packet may never leave: the timer's
handler is gone before the section ends. -/
theorem nat_strands_first_packet :
    ∃ h s, Run (NatConfig.portrParts { ipExt := 2, ipInt := 1, connectionTimeout := 0 }).Step
        (· = (NatConfig.portrParts { ipExt := 2, ipInt := 1, connectionTimeout := 0 }).new) h s ∧
      received h = [.ofAddresses false 1 7 5 80] ∧
      (NatConfig.portrParts { ipExt := 2, ipInt := 1, connectionTimeout := 0 }).Strands 0 h s := by
  obtain ⟨m, run⟩ := portr_first 0
  let first := FilterSystem.first portrSymKind 0 (.ofAddresses false 2 7 5 80)
  have hdue : (0 : Int) + ConnectionEntry.timeout 0 * 10 ^ 9 ≤ 0 := by decide
  -- the timer expires, and its handler drops its reference
  have run := run.of_guarded
  have run := Run.step run (.filter 1 _ (.expire 1 0 _ rfl hdue))
  have run := Run.step run (.filter 1 _ (.handler 1 0 rfl))
  have run := Run.step run (.filter 0 _ (.code 0 _ _ rfl (.scopeEnd 0)))
  refine ⟨_, _, run, rfl, ?_⟩
  exact NatParts.strands_of_hangs (filterContract _ _ _) rfl ⟨0, .code .leaving, rfl⟩ rfl

end ShapingRouter
