import Mathlib
import ShapingRouter.SequentialCalls
import ShapingRouter.ThreadedNat
import ShapingRouter.NatHistory

/-! # A NAT that handles one packet after the other

`NatBox` handles each packet in one go, after what is due has expired.  Such a run is one of the
threads: the calls of `handlePacket` come one after the other, with all the steps of their calls
of the mapper and of the filter, and the timers expire in between
(`NatRun.threaded`).  So what holds in every run of the threads holds in every sequential one.
-/

namespace ShapingRouter
open Library Std ConnSystem

/-- What a sequential NAT has forwarded of the packet with number `k`, the oldest being the
first. -/
def outOf (h : List NatEvent) (k : Nat) : List Packet := (h.reverse[k]?.bind (·.out)).toList

theorem outOf_length (h : List NatEvent) : outOf h h.length = [] := by
  rw [outOf, List.getElem?_eq_none (by simp)]
  rfl

theorem outOf_cons (ev : NatEvent) (h : List NatEvent) :
    outOf (ev :: h) = Function.update (outOf h) h.length ev.out.toList := by
  funext k
  rw [Function.update_apply, outOf, outOf, List.reverse_cons, List.getElem?_append,
    List.length_reverse]
  split
  · rename_i hlt
    rw [if_neg (Nat.ne_of_lt hlt)]
  · rename_i hge
    split
    · rename_i hk
      rw [hk, Nat.sub_self]
      rfl
    · rw [List.getElem?_eq_none (by simp; omega), List.getElem?_eq_none (by simp; omega)]

namespace NatParts
variable {κ : Type} {cmp : κ → κ → Ordering} {N D : Type} [CodePosition D]
  {parts : NatParts κ cmp N D} {Handled : ConnSystem N D Bool → ConnEvent → Prop}

/-- Some run of the threads leads to `s`, with the packets `pkts` received, and `out k` forwarded
of the one with number `k`. -/
def Leads (parts : NatParts κ cmp N D) (Handled : ConnSystem N D Bool → ConnEvent → Prop)
    (pkts : List Packet) (out : Nat → List Packet) (s : ThreadedNat κ cmp N D) : Prop :=
  ∃ h, parts.HandledRuns Handled h s ∧ received h = pkts ∧ ∀ k, forwardsOf k h = out k

namespace Leads
variable {pkts : List Packet} {out : Nat → List Packet} {s s' : ThreadedNat κ cmp N D}
  {m m' : MapperSystem κ cmp} {f f' : ConnSystem N D Bool} {calls : List NatCall} {pkt : Packet}

/-- A step with which no packet comes or leaves. -/
theorem step {e : ThreadedEvent} (run : parts.Leads Handled pkts out s) (hstep : parts.Step s e s')
    (hhandled : FilterHandled Handled s e) (hreceive : ∀ pkt, e ≠ .receive pkt)
    (hforward : ∀ k pkt, e ≠ .forward k pkt) : parts.Leads Handled pkts out s' := by
  obtain ⟨h, run, hreceived, hout⟩ := run
  refine ⟨e :: h, .step run ⟨hstep, hhandled⟩, ?_⟩
  cases e with
  | receive pkt => exact absurd rfl (hreceive pkt)
  | forward k pkt => exact absurd rfl (hforward k pkt)
  | tick | mapper | filter | goes => exact ⟨hreceived, hout⟩

/-- A call takes its result. -/
theorem goes {k : Nat} (run : parts.Leads Handled pkts out s) (hstep : parts.Step s (.goes k) s') :
    parts.Leads Handled pkts out s' := run.step hstep nofun nofun nofun

/-- Tasks of the mapper go on. -/
theorem mapper (run : parts.Leads Handled pkts out ⟨m, f, calls⟩)
    (hm : Reaches parts.mapper (fun _ _ => True) m m') :
    parts.Leads Handled pkts out ⟨m', f, calls⟩ := by
  induction hm with
  | refl => exact run
  | tail _ hstep ih =>
    obtain ⟨i, hstep, -⟩ := hstep
    exact ih.step (.mapper i _ hstep) nofun nofun nofun

/-- Tasks of the filter go on. -/
theorem filter (run : parts.Leads Handled pkts out ⟨m, f, calls⟩)
    (hf : Reaches parts.filter Handled f f') : parts.Leads Handled pkts out ⟨m, f', calls⟩ := by
  induction hf with
  | refl => exact run
  | tail _ hstep ih =>
    obtain ⟨j, hstep, hhandled⟩ := hstep
    exact ih.step (.filter j _ hstep) (fun _ heq => ThreadedEvent.filter.inj heq ▸ hhandled)
      nofun nofun

/-- A packet comes. -/
theorem receive (run : parts.Leads Handled pkts out s) (hstep : parts.Step s (.receive pkt) s') :
    parts.Leads Handled (pkts ++ [pkt]) out s' := by
  obtain ⟨h, run, rfl, hout⟩ := run
  exact ⟨.receive pkt :: h, .step run ⟨hstep, nofun⟩, rfl, hout⟩

/-- A packet leaves. -/
theorem forward {k : Nat} (run : parts.Leads Handled pkts out s)
    (hstep : parts.Step s (.forward k pkt) s') :
    parts.Leads Handled pkts (Function.update out k (pkt :: out k)) s' := by
  obtain ⟨h, run, hreceived, hout⟩ := run
  refine ⟨.forward k pkt :: h, .step run ⟨hstep, nofun⟩, hreceived, fun k' => ?_⟩
  rw [forwardsOf, hout, Function.update_apply]
  split
  · rename_i hk
    rw [if_pos hk.symm, hk]
  · rename_i hk
    rw [if_neg (Ne.symm hk)]

end Leads

/-! ## One packet -/

section Packet
variable {MatchesMapper : Mapper → MapperSystem κ cmp → Prop}
  {MatchesFilter : NatFilter → ConnSystem N D Bool → Prop} {pkts : List Packet}
  {out : Nat → List Packet} {m : MapperSystem κ cmp} {f : ConnSystem N D Bool}
  {calls : List NatCall} {x : Mapper} {y : NatFilter} {now : Nat} {pkt : Packet}

/-- The mapper and the filter of a NAT do what the sequential ones do. -/
structure SimulatesNat (parts : NatParts κ cmp N D)
    (Handled : ConnSystem N D Bool → ConnEvent → Prop)
    (MatchesMapper : Mapper → MapperSystem κ cmp → Prop)
    (MatchesFilter : NatFilter → ConnSystem N D Bool → Prop) : Prop where
  mapper : Simulates parts.mapper (fun _ _ => True) MatchesMapper (fun now x => x.expire now)
    fun now pkt x => x.mapPacket now pkt
  filter : Simulates parts.filter Handled MatchesFilter (fun now y => y.expire now)
    fun now pkt y => some (y.filterPacket now pkt)

theorem set_concat (call call' : NatCall) :
    (calls ++ [call]).set calls.length call' = calls ++ [call'] := by simp

/-- A call is over, its packet dropped or about to leave. -/
theorem Leads.ends {r : Option Packet}
    (run : parts.Leads Handled pkts out ⟨m, f, calls ++ [.ended]⟩ ∧ r = none ∨
      ∃ pkt', r = some pkt' ∧ parts.Leads Handled pkts out ⟨m, f, calls ++ [.passing pkt']⟩)
    (hnone : out calls.length = []) :
    parts.Leads Handled pkts (Function.update out calls.length r.toList)
      ⟨m, f, calls ++ [.ended]⟩ := by
  rcases run with ⟨run, rfl⟩ | ⟨pkt', rfl, run⟩
  · rw [Option.toList_none, ← hnone, Function.update_eq_self]
    exact run
  · have run := run.forward (.forward calls.length pkt' List.getElem?_concat_length)
    rw [hnone, set_concat] at run
    exact run

/-- An ingoing packet that the filter lets pass, or an outgoing one, is with the mapper. -/
theorem SimulatesNat.maps (hs : parts.SimulatesNat Handled MatchesMapper MatchesFilter)
    (hx : MatchesMapper x m) (hnow : m.now = (now : Int)) {x' : Mapper} {r : Option Packet}
    (h : x.mapPacket now pkt = some (x', r))
    (run : parts.Leads Handled pkts out
      ⟨{ m with tasks := m.tasks ++ [parts.mapper.call pkt] }, f,
        calls ++ [.mapping pkt m.tasks.length]⟩) :
    ∃ m', MatchesMapper x' m' ∧ m'.now = (now : Int) ∧
      m'.tasks[m.tasks.length]? = some (.returned r) ∧
      parts.Leads Handled pkts out ⟨m', f, calls ++ [.mapping pkt m.tasks.length]⟩ := by
  obtain ⟨m', hreaches, hx', htask, hnow'⟩ := hs.mapper.call hx hnow h
  exact ⟨m', hx', hnow'.trans hnow, htask, run.mapper hreaches⟩

theorem SimulatesNat.filters (hs : parts.SimulatesNat Handled MatchesMapper MatchesFilter)
    (hy : MatchesFilter y f) (hnow : f.now = (now : Int)) (pkt : Packet) :
    ∃ f', Reaches parts.filter Handled { f with tasks := f.tasks ++ [parts.filter.call pkt] } f' ∧
      MatchesFilter (y.filterPacket now pkt).1 f' ∧
      f'.tasks[f.tasks.length]? = some (.returned (y.filterPacket now pkt).2) ∧
      f'.now = (now : Int) := by
  have hcall : some (y.filterPacket now pkt) =
      some ((y.filterPacket now pkt).1, (y.filterPacket now pkt).2) := rfl
  obtain ⟨f', hreaches, hy', htask, hnow'⟩ := hs.filter.call hy hnow hcall
  exact ⟨f', hreaches, hy', htask, hnow'.trans hnow⟩

/-- **An ingoing packet** is handled. -/
theorem SimulatesNat.ingoing (hs : parts.SimulatesNat Handled MatchesMapper MatchesFilter)
    (hx : MatchesMapper x m) (hy : MatchesFilter y f) (hm : m.now = (now : Int))
    (hf : f.now = (now : Int)) (hin : pkt.isIngoing = true) {c : NatConfig} {s' : NatBox}
    {r : Option Packet} (h : NatBox.handlePacket ⟨c, x, y⟩ now pkt = some (s', r))
    (run : parts.Leads Handled pkts out ⟨m, f, calls⟩) (hnone : out calls.length = []) :
    ∃ m' f', (MatchesMapper s'.mapper m' ∧ m'.now = (now : Int)) ∧
      (MatchesFilter s'.filter f' ∧ f'.now = (now : Int)) ∧
      parts.Leads Handled (pkts ++ [pkt]) (Function.update out calls.length r.toList)
        ⟨m', f', calls ++ [.ended]⟩ := by
  obtain ⟨f', hreaches, hy', htask, hnow⟩ := hs.filters hy hf pkt
  have run := (run.receive (.ingoing pkt _ hin (.call pkt))).filter hreaches
  unfold NatBox.handlePacket at h
  rw [hin, if_pos rfl] at h
  dsimp only at h
  cases hok : (y.filterPacket now pkt).2 with
  | false =>
    rw [hok, if_neg Bool.false_ne_true] at h
    obtain ⟨rfl, rfl⟩ := Prod.mk.inj (Option.some.inj h)
    rw [hok] at htask
    have run := run.goes (.refused calls.length pkt _ List.getElem?_concat_length htask)
    rw [set_concat] at run
    exact ⟨m, f', ⟨hx, hm⟩, ⟨hy', hnow⟩, Leads.ends (Or.inl ⟨run, rfl⟩) hnone⟩
  | true =>
    rw [hok, if_pos rfl] at h
    obtain ⟨⟨x', r'⟩, hmap, heq⟩ := Option.map_eq_some_iff.mp h
    obtain ⟨rfl, rfl⟩ := Prod.mk.inj heq
    rw [hok] at htask
    have run := run.goes (.checked calls.length pkt _ _ List.getElem?_concat_length htask
      (.call pkt))
    rw [set_concat] at run
    obtain ⟨m', hx', hm', hresult, run⟩ := hs.maps hx hm hmap run
    refine ⟨m', f', ⟨hx', hm'⟩, ⟨hy', hnow⟩, Leads.ends ?_ hnone⟩
    cases r' with
    | none =>
      have run := run.goes (.unmapped calls.length pkt _ List.getElem?_concat_length hresult)
      rw [set_concat] at run
      exact Or.inl ⟨run, rfl⟩
    | some pkt' =>
      have run := run.goes (.mappedIngoing calls.length pkt _ pkt' List.getElem?_concat_length
        hresult hin)
      rw [set_concat] at run
      exact Or.inr ⟨pkt', rfl, run⟩

/-- **An outgoing packet** is handled. -/
theorem SimulatesNat.outgoing (hs : parts.SimulatesNat Handled MatchesMapper MatchesFilter)
    (hx : MatchesMapper x m) (hy : MatchesFilter y f) (hm : m.now = (now : Int))
    (hf : f.now = (now : Int)) (hout : pkt.isIngoing = false) {c : NatConfig} {s' : NatBox}
    {r : Option Packet} (h : NatBox.handlePacket ⟨c, x, y⟩ now pkt = some (s', r))
    (run : parts.Leads Handled pkts out ⟨m, f, calls⟩) (hnone : out calls.length = []) :
    ∃ m' f', (MatchesMapper s'.mapper m' ∧ m'.now = (now : Int)) ∧
      (MatchesFilter s'.filter f' ∧ f'.now = (now : Int)) ∧
      parts.Leads Handled (pkts ++ [pkt]) (Function.update out calls.length r.toList)
        ⟨m', f', calls ++ [.ended]⟩ := by
  have run := run.receive (.outgoing pkt _ hout (.call pkt))
  unfold NatBox.handlePacket at h
  rw [hout, if_neg Bool.false_ne_true] at h
  dsimp only at h
  cases hmap : x.mapPacket now pkt with
  | none =>
    rw [hmap] at h
    cases h
  | some result =>
    obtain ⟨x', r'⟩ := result
    obtain ⟨m', hx', hm', hresult, run⟩ := hs.maps hx hm hmap run
    rw [hmap] at h
    cases r' with
    | none =>
      obtain ⟨rfl, rfl⟩ := Prod.mk.inj (Option.some.inj h)
      have run := run.goes (.unmapped calls.length pkt _ List.getElem?_concat_length hresult)
      rw [set_concat] at run
      exact ⟨m', f, ⟨hx', hm'⟩, ⟨hy, hf⟩, Leads.ends (Or.inl ⟨run, rfl⟩) hnone⟩
    | some pkt' =>
      obtain ⟨f', hreaches, hy', htask, hnow⟩ := hs.filters hy hf pkt'
      have run := run.goes (.mappedOutgoing calls.length pkt _ pkt' _ List.getElem?_concat_length
        hresult hout (.call pkt'))
      rw [set_concat] at run
      have run := (run.filter hreaches).goes (.filtered calls.length pkt' _ _
        List.getElem?_concat_length htask)
      rw [set_concat] at run
      obtain ⟨rfl, rfl⟩ := Prod.mk.inj (Option.some.inj h)
      refine ⟨m', f', ⟨hx', hm'⟩, ⟨hy', hnow⟩, Leads.ends ?_ hnone⟩
      cases hok : (y.filterPacket now pkt').2 with
      | false =>
        rw [hok] at run
        exact Or.inl ⟨run, rfl⟩
      | true =>
        rw [hok] at run
        exact Or.inr ⟨pkt', rfl, run⟩

end Packet

/-! ## A run -/

section Run
variable {MatchesMapper : Mapper → MapperSystem κ cmp → Prop}
  {MatchesFilter : NatFilter → ConnSystem N D Bool → Prop} {int : UInt32} {c : NatConfig}
  {h : List NatEvent} {s : NatSystem} {t : ThreadedNat κ cmp N D}

/-- Between two packets: the threads rest as the sequential NAT is, and have received and forwarded
the same packets. -/
structure Follows (parts : NatParts κ cmp N D) (Handled : ConnSystem N D Bool → ConnEvent → Prop)
    (MatchesMapper : Mapper → MapperSystem κ cmp → Prop)
    (MatchesFilter : NatFilter → ConnSystem N D Bool → Prop) (h : List NatEvent) (s : NatSystem)
    (t : ThreadedNat κ cmp N D) : Prop where
  leads : parts.Leads Handled (h.reverse.map (·.pkt)) (outOf h) t
  length : t.calls.length = h.length
  mapper : MatchesMapper s.nat.mapper t.mapper
  mapperNow : t.mapper.now ≤ (s.clock : Int)
  filter : MatchesFilter s.nat.filter t.filter
  filterNow : t.filter.now ≤ (s.clock : Int)

/-- **One packet**, after what is due has expired. -/
theorem SimulatesNat.step (hs : parts.SimulatesNat Handled MatchesMapper MatchesFilter)
    (hfollows : parts.Follows Handled MatchesMapper MatchesFilter h s t) {ev : NatEvent}
    {s' : NatSystem} (hstep : NatStep int s ev s') :
    ∃ t', parts.Follows Handled MatchesMapper MatchesFilter (ev :: h) s' t' := by
  obtain ⟨hclock, hclock', -, hpacket⟩ := hstep
  have hle : (s.clock : Int) ≤ ev.time := Int.ofNat_le.mpr hclock
  have run := hfollows.leads.step (.tick ev.time _ _ (.tick _ (hfollows.mapperNow.trans hle))
    (.tick _ (hfollows.filterNow.trans hle))) nofun nofun nofun
  obtain ⟨m, hmreaches, hx, hm⟩ := hs.mapper.expire (hs.mapper.tick ev.time hfollows.mapper) rfl
  obtain ⟨f, hfreaches, hy, hf⟩ := hs.filter.expire (hs.filter.tick ev.time hfollows.filter) rfl
  have run := (run.mapper hmreaches).filter hfreaches
  have hnone : outOf h t.calls.length = [] := by rw [hfollows.length, outOf_length]
  obtain ⟨m', f', ⟨hx', hm'⟩, ⟨hy', hf'⟩, run⟩ : ∃ m' f',
      (MatchesMapper s'.nat.mapper m' ∧ m'.now = (ev.time : Int)) ∧
      (MatchesFilter s'.nat.filter f' ∧ f'.now = (ev.time : Int)) ∧
      parts.Leads Handled (h.reverse.map (·.pkt) ++ [ev.pkt])
        (Function.update (outOf h) t.calls.length ev.out.toList)
        ⟨m', f', t.calls ++ [.ended]⟩ := by
    cases hdir : ev.pkt.isIngoing with
    | true => exact hs.ingoing hx hy hm hf hdir hpacket run hnone
    | false => exact hs.outgoing hx hy hm hf hdir hpacket run hnone
  refine ⟨⟨m', f', t.calls ++ [.ended]⟩, ?_, ?_, hx', ?_, hy', ?_⟩
  · rw [List.reverse_cons, List.map_append, outOf_cons, ← hfollows.length]
    exact run
  · rw [List.length_append, hfollows.length]
    rfl
  · rw [hm', hclock']
  · rw [hf', hclock']

/-- **A sequential run is a run of the threads**, with the same packets received and forwarded. -/
theorem SimulatesNat.run (hs : parts.SimulatesNat Handled MatchesMapper MatchesFilter)
    (hx : MatchesMapper c.init.mapper parts.new.mapper)
    (hy : MatchesFilter c.init.filter parts.new.filter) (run : NatRun int c h s) :
    ∃ t, parts.Leads Handled (h.reverse.map (·.pkt)) (outOf h) t := by
  suffices hall : ∃ t, parts.Follows Handled MatchesMapper MatchesFilter h s t by
    obtain ⟨t, hfollows⟩ := hall
    exact ⟨t, hfollows.leads⟩
  induction run with
  | @start s hstart =>
    refine ⟨parts.new, ⟨[], .start rfl, rfl, fun k => rfl⟩, rfl, ?_, Int.natCast_nonneg _, ?_,
      Int.natCast_nonneg _⟩
    · rwa [hstart]
    · rwa [hstart]
  | step _ hstep ih =>
    obtain ⟨t, hfollows⟩ := ih
    exact hs.step hfollows hstep

end Run
end NatParts

/-! ## The four types -/

/-- The class of a mapper, among those that a NAT may have. -/
theorem simulates_mapper {κ : Type} {cmp : κ → κ → Ordering} {kind : MapperKind κ cmp}
    (mk : ConnMapper κ cmp → Mapper)
    (hmap : ∀ m now pkt, (mk m).mapPacket now pkt =
      (m.mapPacket kind now pkt).map fun r => (mk r.1, r.2))
    (hexpire : ∀ m now, (mk m).expire now = mk (m.expire kind now)) (mapsPort : Bool)
    (base : NatMapperBase) :
    Simulates (mapperOwner kind mapsPort base) (fun _ _ => True)
      (fun x s => ∃ m, x = mk m ∧ m.RestsIn base s) (fun now x => x.expire now)
      fun now pkt x => x.mapPacket now pkt where
  tick := by
    rintro _ s now ⟨m, rfl, hm⟩
    exact ⟨m, rfl, hm.same, hm.rests.tick now⟩
  expire := by
    rintro _ s now ⟨m, rfl, hm⟩ hnow
    obtain ⟨s', run, hm', hnow'⟩ := hm.expire hnow
    exact ⟨s', run, ⟨_, hexpire m now, hm'⟩, hnow'⟩
  call := by
    rintro _ s now pkt x' r ⟨m, rfl, hm⟩ hnow hcall
    rw [hmap] at hcall
    obtain ⟨⟨m', r'⟩, hmapped, heq⟩ := Option.map_eq_some_iff.mp hcall
    obtain ⟨rfl, rfl⟩ := Prod.mk.inj heq
    obtain ⟨hsame, s', run, hrests, htask, hnow'⟩ := hm.returns hnow hmapped
    exact ⟨s', run, ⟨m', rfl, hsame, hrests⟩, htask, hnow'⟩

/-- The class of a filter. -/
theorem simulates_filter {κ : Type} {cmp : κ → κ → Ordering} {kind : FilterKind κ cmp}
    (mk : ConnFilter κ cmp → NatFilter)
    (hfilter : ∀ f now pkt, (mk f).filterPacket now pkt =
      (mk (f.filterPacket kind now pkt).1, (f.filterPacket kind now pkt).2))
    (hexpire : ∀ f now, (mk f).expire now = mk (f.expire kind now)) (connectionTimeout : UInt32)
    (dnatRules : DnatRules) :
    Simulates (filterOwner kind connectionTimeout dnatRules) EntryHandled
      (fun y s => ∃ f, y = mk f ∧ f.RestsIn connectionTimeout dnatRules s)
      (fun now y => y.expire now) fun now pkt y => some (y.filterPacket now pkt) where
  tick := by
    rintro _ s now ⟨f, rfl, hf⟩
    exact ⟨f, rfl, hf.timeout, hf.rules, hf.rests.tick now⟩
  expire := by
    rintro _ s now ⟨f, rfl, hf⟩ hnow
    obtain ⟨s', run, hf', hnow'⟩ := hf.expire hnow
    exact ⟨s', run, ⟨_, hexpire f now, hf'⟩, hnow'⟩
  call := by
    rintro _ s now pkt y' r ⟨f, rfl, hf⟩ hnow hcall
    rw [hfilter] at hcall
    obtain ⟨rfl, rfl⟩ := Prod.mk.inj (Option.some.inj hcall)
    obtain ⟨s', run, hf', htask, hnow'⟩ := hf.returns hnow pkt
    exact ⟨s', run, ⟨_, rfl, hf'⟩, htask, hnow'⟩

/-- The full cone filter returns at once. -/
theorem simulates_fullcone :
    Simulates fullconeOwner (fun _ _ => True) (fun (y : NatFilter) _ => ∃ f, y = .fullcone f)
      (fun now y => y.expire now) fun now pkt y => some (y.filterPacket now pkt) where
  tick _ h := h
  expire := by
    rintro _ s now ⟨f, rfl⟩ -
    exact ⟨s, .refl s, ⟨f, rfl⟩, rfl⟩
  call := by
    rintro _ s now pkt y' r ⟨f, rfl⟩ - hcall
    obtain ⟨rfl, rfl⟩ := Prod.mk.inj (Option.some.inj hcall)
    exact ⟨_, .refl _, ⟨f, rfl⟩, List.getElem?_concat_length, rfl⟩

namespace NatRun
variable {int : UInt32} {c : NatConfig} {h : List NatEvent} {s : NatSystem}

/-- **A NAT that handles one packet after the other** does what the threads can do, whichever its
type: they receive and forward the same packets, and no call of the filter waits for itself. -/
theorem threaded (run : NatRun int c h s) :
    (c.type = .portRNat →
      ∃ t, c.portrParts.Leads EntryHandled (h.reverse.map (·.pkt)) (outOf h) t) ∧
    (c.type = .addrRNat →
      ∃ t, c.addrrParts.Leads EntryHandled (h.reverse.map (·.pkt)) (outOf h) t) ∧
    (c.type = .symNat →
      ∃ t, c.symParts.Leads EntryHandled (h.reverse.map (·.pkt)) (outOf h) t) ∧
    (c.type = .fullConeNat →
      ∃ t, c.fullconeParts.Leads (fun _ _ => True) (h.reverse.map (·.pkt)) (outOf h) t) := by
  have hnat := fun mapsPort => simulates_mapper .nat (fun _ _ _ => rfl) (fun _ _ => rfl) mapsPort
    c.base
  have hsym := simulates_mapper .sym (fun _ _ _ => rfl) (fun _ _ => rfl) true c.base
  have hportrSym := simulates_filter .portrSym (fun _ _ _ => rfl) (fun _ _ => rfl)
    c.connectionTimeout c.dnatRules
  have haddrr := simulates_filter .addrr (fun _ _ _ => rfl) (fun _ _ => rfl) c.connectionTimeout
    c.dnatRules
  refine ⟨fun htype => ?_, fun htype => ?_, fun htype => ?_, fun htype => ?_⟩
  · refine NatParts.SimulatesNat.run ⟨hnat false, hportrSym⟩ ⟨_, ?_, .new c.base⟩
      ⟨_, ?_, .new _ _⟩ run
    · rw [NatConfig.init, htype]
      rfl
    · rw [NatConfig.init, htype]
  · refine NatParts.SimulatesNat.run ⟨hnat false, haddrr⟩ ⟨_, ?_, .new c.base⟩ ⟨_, ?_, .new _ _⟩ run
    · rw [NatConfig.init, htype]
      rfl
    · rw [NatConfig.init, htype]
  · refine NatParts.SimulatesNat.run ⟨hsym, hportrSym⟩ ⟨_, ?_, .new c.base⟩ ⟨_, ?_, .new _ _⟩ run
    · rw [NatConfig.init, htype]
      rfl
    · rw [NatConfig.init, htype]
  · refine NatParts.SimulatesNat.run ⟨hnat false, simulates_fullcone⟩ ⟨_, ?_, .new c.base⟩
      ⟨⟨c.connectionTimeout, c.dnatRules⟩, ?_⟩ run
    · rw [NatConfig.init, htype]
      rfl
    · rw [NatConfig.init, htype]

end NatRun
end ShapingRouter
