import Mathlib
import ShapingRouter.FilterReferences

/-! # The mutex and the deleter

`removeFromMaps` takes the mutex of the owner, and it runs wherever the last reference to an
entry is dropped.  `mapPacket` makes new entries outside of every locked section, and drops
its references there, so that no call of it ever waits for itself (`mapper_not_selfLocked`).
`filterPacket` does not: with any timeout there is a run in which a call hangs in
`removeFromMaps` (`filter_hangs`).
-/

namespace ShapingRouter
open Library Std

/-! ## The mappers -/

/-- Where a call of `mapPacket` is, when no rule is found for its packet.  It goes through
the section that searches the entry.  If an outgoing packet has none, then a port is chosen,
in `mapPort` under the mutex, and `makeNewConn` makes the entry, links it twice and starts
its timer by `armTimer`. -/
inductive MapperCode
  | search (pkt : Packet)
  | inSearch (pkt : Packet)
  | searched (pkt : Packet) (ent : Option Nat)
  | missing (pkt : Packet)
  | mapping (pkt : Packet) (hasMutex : Bool)
  | mapped (pkt : Packet) (port : UInt16)
  | made (pkt : Packet) (port : UInt16) (p : Nat)
  | linkedInt (pkt : Packet) (port : UInt16) (p : Nat)
  | linkedExt (pkt : Packet) (port : UInt16) (p : Nat)
  | arming (pkt : Packet) (port : UInt16) (p : Nat)
  deriving DecidableEq, Repr

/-- `std::lock_guard<std::mutex> lock(mutex_)`. -/
def MapperCode.lock : MapperCode → Option MapperCode
  | search pkt => some (inSearch pkt)
  | missing pkt => some (mapping pkt true)
  | inSearch _ | searched _ _ | mapping _ _ | mapped _ _ | made _ _ _ | linkedInt _ _ _
  | linkedExt _ _ _ | arming _ _ _ => none

instance : CodePosition MapperCode where
  locked
    | .inSearch _ | .searched _ _ => true
    | .mapping _ hasMutex => hasMutex
    | .search _ | .missing _ | .mapped _ _ | .made _ _ _ | .linkedInt _ _ _ | .linkedExt _ _ _
    | .arming _ _ _ => false
  held
    | .searched _ (some p) | .made _ _ p | .linkedInt _ _ p | .linkedExt _ _ p => {p}
    | .arming _ _ p => {p, p}
    | .search _ | .inSearch _ | .searched _ none | .missing _ | .mapping _ _ | .mapped _ _ => 0

section Mappers
variable {κ : Type} {cmp : κ → κ → Ordering}

/-- `intPortMap_` and `extPortMap_`. -/
structure MapperMaps (κ : Type) (cmp : κ → κ → Ordering) where
  intPortMap : TreeMap κ Nat cmp
  extPortMap : TreeMap UInt16 Nat compare

/-- A mapper with its maps and entries, and what goes on. -/
abbrev MapperSystem (κ : Type) (cmp : κ → κ → Ordering) :=
  ConnSystem (MapperMaps κ cmp) MapperCode (Option Packet)

section Step
variable (kind : MapperKind κ cmp) (mapsPort : Bool) (base : NatMapperBase)
  (s : MapperSystem κ cmp) (i : Nat)

/-- What the section that searches the entry of a packet finds. -/
def ConnSystem.searchEntry (pkt : Packet) : Option Nat :=
  if pkt.isIngoing then lockCounted s.entries s.maps.extPortMap pkt.dport
  else lockCounted s.entries s.maps.intPortMap (kind.intKey (ConnectionTuple.ofPacket pkt))

/-- A step in `mapPacket`.  `mapsPort` says whether the port is chosen by `mapPort`. -/
inductive MapperStep : MapperCode → MapperSystem κ cmp → Prop
  | lock (c c' : MapperCode) : c.lock = some c' → s.Free → MapperStep c (s.goes i (.code c'))
  | searchFound (pkt : Packet) (p : Nat) : s.searchEntry kind pkt = some p →
      MapperStep (.inSearch pkt) (s.takes i p (.code (.searched pkt (some p))))
  | searchNone (pkt : Packet) : s.searchEntry kind pkt = none →
      MapperStep (.inSearch pkt) (s.goes i (.code (.searched pkt none)))
  | found (pkt : Packet) (p : Nat) (entry : Counted EntryMembers) :
      s.entries.objects p = some entry →
      MapperStep (.searched pkt (some p))
        (s.goes i (if pkt.isIngoing then .holding p (some (pkt.withDestination
            entry.val.intTuple.srcIp entry.val.intTuple.sport))
          else .found p (some (pkt.withSource entry.val.extTuple.dstIp entry.val.extTuple.dport))))
  | missing (pkt : Packet) :
      MapperStep (.searched pkt none)
        (s.goes i (if pkt.isIngoing then .returned none
          else .code (if mapsPort then .missing pkt else .mapping pkt false)))
  | mapPort (pkt : Packet) (hasMutex : Bool) (port : UInt16) :
      kind.extPort s.maps.extPortMap.contains (ConnectionTuple.ofPacket pkt) = some port →
      MapperStep (.mapping pkt hasMutex) (s.goes i (.code (.mapped pkt port)))
  | make (pkt : Packet) (port : UInt16) :
      MapperStep (.mapped pkt port)
        (s.makes i (.new base.connectionTimeout
            ⟨pkt.dstIp, base.ipExt, pkt.dport, port, pkt.transProt⟩ (ConnectionTuple.ofPacket pkt))
          s.maps (.code (.made pkt port s.entries.next)))
  | linkInt (pkt : Packet) (port : UInt16) (p : Nat) :
      MapperStep (.made pkt port p)
        ({ s with
            maps.intPortMap :=
              s.maps.intPortMap.insert (kind.intKey (ConnectionTuple.ofPacket pkt)) p }.goes
          i (.code (.linkedInt pkt port p)))
  | linkExt (pkt : Packet) (port : UInt16) (p : Nat) :
      MapperStep (.linkedInt pkt port p)
        ({ s with maps.extPortMap := s.maps.extPortMap.insert port p }.goes
          i (.code (.linkedExt pkt port p)))
  | start (pkt : Packet) (port : UInt16) (p : Nat) (entry : Counted EntryMembers) :
      s.entries.objects p = some entry →
      MapperStep (.linkedExt pkt port p) (s.arms i p entry.val.timeout (.code (.arming pkt port p)))
  | armed (pkt : Packet) (port : UInt16) (p : Nat) :
      MapperStep (.arming pkt port p)
        (s.drops i p false (.holding p (some (pkt.withSource base.ipExt port))))

end Step

/-- A mapper, whose code in `NatMapper` and in `SymNatMapper` is the same but for what
`kind` says, and for `mapsPort`. -/
def mapperOwner (kind : MapperKind κ cmp) (mapsPort : Bool) (base : NatMapperBase) :
    ConnOwner (MapperMaps κ cmp) MapperCode (Option Packet) where
  call pkt :=
    match base.checkDnat pkt with
    | some pkt' => .returned (some pkt')
    | none => .code (.search pkt)
  step := MapperStep kind mapsPort base
  removeFromMaps entry maps :=
    { intPortMap := maps.intPortMap.erase (kind.intKey entry.intTuple)
      extPortMap := maps.extPortMap.erase entry.extTuple.dport }

variable {kind : MapperKind κ cmp} {mapsPort : Bool} {base : NatMapperBase}
  {s s' : MapperSystem κ cmp} {e : ConnEvent} {i p : Nat} {c c' : MapperCode}

theorem MapperCode.held_of_lock (h : c.lock = some c') :
    CodePosition.held c = 0 ∧ CodePosition.held c' = 0 := by
  cases c with
  | search pkt | missing pkt =>
    obtain rfl := Option.some.inj h
    exact ⟨rfl, rfl⟩
  | inSearch pkt | searched pkt ent | mapping pkt hasMutex | mapped pkt port | made pkt port q
  | linkedInt pkt port q | linkedExt pkt port q | arming pkt port q => cases h

namespace ConnSystem

theorem useCount_of_searchEntry {pkt : Packet} (h : s.searchEntry kind pkt = some p) :
    s.entries.useCount p ≠ 0 := by
  rw [searchEntry] at h
  split at h
  · exact (lockCounted_eq_some.mp h).2
  · exact (lockCounted_eq_some.mp h).2

theorem Sound.mapperStep (hs : s.Sound) (ht : s.tasks[i]? = some (.code c))
    (h : MapperStep kind mapsPort base s i c s') : s'.Sound := by
  cases h with
  | lock _ c' hc hfree =>
    obtain ⟨hheld, hheld'⟩ := MapperCode.held_of_lock hc
    refine hs.goes ht ?_ ?_ ?_
    exacts [hheld'.trans hheld.symm, nofun, fun _ => Or.inr hfree]
  | searchFound pkt p hp =>
    refine hs.takes ht (useCount_of_searchEntry hp) ?_ ?_ ?_
    exacts [rfl, nofun, id]
  | searchNone pkt hp =>
    refine hs.goes ht ?_ ?_ ?_
    exacts [rfl, nofun, Or.inl]
  | found pkt p entry he =>
    split
    · refine hs.goes ht ?_ ?_ ?_
      exacts [rfl, nofun, nofun]
    · refine hs.goes ht ?_ ?_ ?_
      exacts [rfl, nofun, nofun]
  | missing pkt =>
    split
    · refine hs.goes ht ?_ ?_ ?_
      exacts [rfl, nofun, nofun]
    · split
      · refine hs.goes ht ?_ ?_ ?_
        exacts [rfl, nofun, nofun]
      · refine hs.goes ht ?_ ?_ ?_
        exacts [rfl, nofun, nofun]
  | mapPort pkt hasMutex port hport =>
    refine hs.goes ht ?_ ?_ ?_
    exacts [rfl, nofun, nofun]
  | make pkt port =>
    refine hs.makes ht ?_ ?_ ?_ _ _
    exacts [rfl, nofun, nofun]
  | linkInt pkt port p =>
    refine (hs.withMaps _).goes ht ?_ ?_ ?_
    exacts [rfl, nofun, nofun]
  | linkExt pkt port p =>
    refine (hs.withMaps _).goes ht ?_ ?_ ?_
    exacts [rfl, nofun, nofun]
  | start pkt port p entry he =>
    refine hs.arms ht (Multiset.mem_singleton_self p) ?_ ?_ ?_ _
    exacts [rfl, nofun, id]
  | armed pkt port p =>
    refine hs.drops ht ?_ ⟨?_, ?_⟩ id
    exacts [rfl, nofun, nofun]

theorem mapperOwner_call (kind : MapperKind κ cmp) (mapsPort : Bool) (base : NatMapperBase)
    (pkt : Packet) :
    ((mapperOwner kind mapsPort base).call pkt).refs = 0 ∧
      ((mapperOwner kind mapsPort base).call pkt).locked = false ∧
      ∀ p b u, (mapperOwner kind mapsPort base).call pkt ≠ .removing p b u := by
  rw [mapperOwner]
  dsimp only
  split
  · exact ⟨rfl, rfl, nofun⟩
  · exact ⟨rfl, rfl, nofun⟩

/-- In `mapPacket` a call has not the mutex when it drops a reference. -/
theorem not_selfLocked_mapperStep (hgood : ¬ s.SelfLocked)
    (h : MapperStep kind mapsPort base s i c s') : ¬ s'.SelfLocked := by
  cases h with
  | lock _ c' hc hfree => exact not_selfLocked_goes hgood (by simp) i
  | searchFound pkt p hp =>
    exact not_selfLocked_goes (s := { s with entries := s.entries.acquire p }) hgood (by simp) i
  | searchNone pkt hp | mapPort pkt hasMutex port hport =>
    exact not_selfLocked_goes hgood (by simp) i
  | found pkt p entry he =>
    split
    · exact not_selfLocked_goes hgood (by simp) i
    · exact not_selfLocked_goes hgood (by simp) i
  | missing pkt =>
    split
    · exact not_selfLocked_goes hgood (by simp) i
    · exact not_selfLocked_goes hgood (by simp) i
  | make pkt port =>
    exact not_selfLocked_goes (s := { s with entries := s.entries.alloc ⟨_, 1⟩ }) hgood (by simp) i
  | linkInt pkt port p => exact not_selfLocked_goes (s := { s with maps := _ }) hgood (by simp) i
  | linkExt pkt port p => exact not_selfLocked_goes (s := { s with maps := _ }) hgood (by simp) i
  | start pkt port p entry he => exact not_selfLocked_arms hgood (by simp) i p _
  | armed pkt port p => exact not_selfLocked_drops hgood (by simp) i fun _ => rfl

/-- Every entry of a mapper counts its references. -/
theorem Sound.mapper (hs : s.Sound) (h : Step (mapperOwner kind mapsPort base) s e s') :
    s'.Sound :=
  hs.step (mapperOwner_call _ _ _) (fun _ _ _ ht hcode => hs.mapperStep ht hcode) h

/-- No step of a mapper makes a call wait for itself. -/
theorem not_selfLocked_mapper (hs : s.Sound) (hgood : ¬ s.SelfLocked)
    (h : Step (mapperOwner kind mapsPort base) s e s') : ¬ s'.SelfLocked :=
  not_selfLocked_step hs hgood (fun pkt p => (mapperOwner_call _ _ _ pkt).2.2 p true)
    (fun _ _ _ _ hcode => not_selfLocked_mapperStep hgood hcode) h

/-- **No call of a mapper waits for itself.** -/
theorem mapper_not_selfLocked {h : List ConnEvent}
    (run : Runs (mapperOwner kind mapsPort base) ⟨∅, ∅⟩ h s) : s.Sound ∧ ¬ s.SelfLocked := by
  refine run.invariant (I := fun _ s => s.Sound ∧ ¬ s.SelfLocked) ?_ ?_
  · rintro s rfl
    exact ⟨Sound.new _, fun ⟨_, _, hmem⟩ => by cases hmem⟩
  · rintro h s e s' - ⟨hs, hgood⟩ hstep
    exact ⟨hs.mapper hstep, not_selfLocked_mapper hs hgood hstep⟩

end ConnSystem
end Mappers

/-! ## The filters -/

section Filters
variable {κ : Type} {cmp : κ → κ → Ordering}

/-- A filter is called for a packet, and the call takes seven steps. -/
def firstEvents (pkt : Packet) : List ConnEvent :=
  List.replicate 7 (ConnEvent.goes 0) ++ [ConnEvent.call pkt]

/-- A filter whose first call is about to end the section in which it made an entry. -/
def FilterSystem.first (kind : FilterKind κ cmp) (connectionTimeout : UInt32) (pkt : Packet) :
    FilterSystem κ cmp where
  maps := (∅ : TreeMap κ Nat cmp).insert (ConnFilter.extTup kind pkt) 0
  entries :=
    (((Heap.empty.alloc ⟨kind.entry connectionTimeout pkt, 1⟩).acquire 0).acquire 0).unref 0
  tasks := [.code (.created 0), .waiting 0 (0 + ConnectionEntry.timeout connectionTimeout * 10 ^ 9)]

namespace ConnSystem
variable (kind : FilterKind κ cmp) (connectionTimeout : UInt32) (dnatRules : DnatRules)
  {pkt : Packet}

/-- One step of a call, alone in the filter and not yet at the end of the section. -/
theorem guarded_step {h : List ConnEvent} {s s' : FilterSystem κ cmp} {c : FilterCode}
    (run : Run (Guarded (Step (filterOwner kind connectionTimeout dnatRules)) EntryHandled)
      (· = { maps := ∅ }) h s)
    (ht : s.tasks[0]? = some (.code c)) (hc : ∀ p, c ≠ .created p)
    (hstep : FilterStep kind connectionTimeout dnatRules s 0 c s') :
    Run (Guarded (Step (filterOwner kind connectionTimeout dnatRules)) EntryHandled)
      (· = { maps := ∅ }) (.goes 0 :: h) s' :=
  .step run ⟨.code 0 c s' ht hstep, entryHandled_of_code ht hc⟩

theorem filter_first (hout : pkt.isIngoing = false) :
    Run (Guarded (Step (filterOwner kind connectionTimeout dnatRules)) EntryHandled)
      (· = { maps := ∅ }) (firstEvents pkt) (FilterSystem.first kind connectionTimeout pkt) := by
  let made : Heap (Counted EntryMembers) := Heap.empty.alloc ⟨kind.entry connectionTimeout pkt, 1⟩
  let connMap : TreeMap κ Nat cmp := (∅ : TreeMap κ Nat cmp).insert (ConnFilter.extTup kind pkt) 0
  let owner := filterOwner kind connectionTimeout dnatRules
  have hcall : owner.call pkt = .code (.search pkt) := by simp [owner, filterOwner, hout]
  have run : Run (Guarded (Step owner) EntryHandled) (· = { maps := ∅ }) [.call pkt]
      { maps := ∅, tasks := [.code (.search pkt)] } := by
    rw [← hcall]
    exact .step (.start rfl) ⟨.call pkt, fun _ _ he => by cases he⟩
  have hfree : ∀ c : FilterCode, CodePosition.locked c = false →
      Free (M := TreeMap κ Nat cmp) (ρ := Bool) { maps := ∅, tasks := [.code c] } :=
    fun c hc => List.forall_mem_singleton.mpr hc
  -- the search finds nothing
  have run := guarded_step kind connectionTimeout dnatRules run rfl (by simp)
    (.lock _ (.inSearch pkt) rfl (hfree _ rfl))
  have run := guarded_step kind connectionTimeout dnatRules run rfl (by simp) (.searchNone pkt rfl)
  have run := guarded_step kind connectionTimeout dnatRules run rfl (by simp) (.missing pkt)
  -- an entry is made, linked and started
  have run := guarded_step kind connectionTimeout dnatRules run rfl (by simp)
    (.lock _ (.making pkt) rfl (hfree _ rfl))
  have run := guarded_step kind connectionTimeout dnatRules run rfl (by simp) (.make pkt)
  have run := guarded_step kind connectionTimeout dnatRules run rfl (by simp) (.start 0 _ rfl)
  exact guarded_step kind connectionTimeout dnatRules run rfl (by simp) (.armed 0)

/-- **With any timeout a call can hang**: when the timer has expired and its handler is gone
before the section ends, `removeFromMaps` waits for the call that runs it. -/
theorem filter_hangs (hout : pkt.isIngoing = false) {now : Int} (hnow : 0 ≤ now)
    (hdue : ConnectionEntry.timeout connectionTimeout * 10 ^ 9 ≤ now) :
    ∃ s, Runs (filterOwner kind connectionTimeout dnatRules) ∅
      (.goes 0 :: .goes 1 :: .goes 1 :: .tick now :: firstEvents pkt) s ∧ s.SelfLocked := by
  let s := FilterSystem.first kind connectionTimeout pkt
  have run : Runs (filterOwner kind connectionTimeout dnatRules) ∅ _ s :=
    (filter_first kind connectionTimeout dnatRules hout).of_guarded
  have run : Runs (filterOwner kind connectionTimeout dnatRules) ∅ _ { s with now := now } :=
    .step run (.tick now hnow)
  have run : Runs (filterOwner kind connectionTimeout dnatRules) ∅ _
      { s with tasks := [.code (.created 0), .ready 0], now := now } :=
    .step run (.expire 1 0 _ rfl (by rw [zero_add]; exact hdue))
  have run : Runs (filterOwner kind connectionTimeout dnatRules) ∅ _
      { s with
        entries := s.entries.unref 0
        tasks := [.code (.created 0), .done]
        now := now } :=
    .step run (.handler 1 0 rfl)
  have run : Runs (filterOwner kind connectionTimeout dnatRules) ∅ _
      { s with
        entries := (s.entries.unref 0).unref 0
        tasks := [.removing 0 true (.code .leaving), .done]
        now := now } :=
    .step run (.code 0 _ _ rfl (.scopeEnd 0))
  exact ⟨_, run, 0, _, List.mem_cons_self⟩

end ConnSystem
end Filters

/-! ## The four owners -/

/-- `PortrSymNatFilter`. -/
def portrSymOwner (connectionTimeout : UInt32) (dnatRules : DnatRules) :
    ConnOwner (TreeMap ConnectionTuple Nat ConnectionTuple.cmp) FilterCode Bool :=
  filterOwner portrSymKind connectionTimeout dnatRules

/-- `AddrrNatFilter`. -/
def addrrOwner (connectionTimeout : UInt32) (dnatRules : DnatRules) :
    ConnOwner (TreeMap AddrrTuple Nat AddrrTuple.cmp) FilterCode Bool :=
  filterOwner addrrKind connectionTimeout dnatRules

/-- `NatMapper`, which keeps the source port and needs no mutex for that. -/
def natMapperOwner (base : NatMapperBase) :
    ConnOwner (MapperMaps UInt16 compare) MapperCode (Option Packet) :=
  mapperOwner natKind false base

/-- `SymNatMapper`. -/
def symNatMapperOwner (base : NatMapperBase) :
    ConnOwner (MapperMaps ConnectionTuple ConnectionTuple.cmp) MapperCode (Option Packet) :=
  mapperOwner symKind true base

namespace ConnSystem

/-- **Who waits for itself.**  No call of a mapper ever does.  For the filters, the runs in
which no call does are exactly those in which every section that makes an entry ends before
the handlers of the entry's timer are gone. -/
theorem deleter_unlocked (base : NatMapperBase) (connectionTimeout : UInt32)
    (dnatRules : DnatRules) :
    (∀ h s, Run (Within (Step (portrSymOwner connectionTimeout dnatRules)) (¬ ·.SelfLocked))
        (· = { maps := ∅ }) h s ↔
      Run (Guarded (Step (portrSymOwner connectionTimeout dnatRules)) EntryHandled)
        (· = { maps := ∅ }) h s) ∧
    (∀ h s, Run (Within (Step (addrrOwner connectionTimeout dnatRules)) (¬ ·.SelfLocked))
        (· = { maps := ∅ }) h s ↔
      Run (Guarded (Step (addrrOwner connectionTimeout dnatRules)) EntryHandled)
        (· = { maps := ∅ }) h s) ∧
    (∀ h s, Runs (natMapperOwner base) ⟨∅, ∅⟩ h s → ¬ s.SelfLocked) ∧
    (∀ h s, Runs (symNatMapperOwner base) ⟨∅, ∅⟩ h s → ¬ s.SelfLocked) :=
  ⟨fun _ _ => filter_runs_iff, fun _ _ => filter_runs_iff,
    fun _ _ run => (mapper_not_selfLocked run).2, fun _ _ run => (mapper_not_selfLocked run).2⟩

/-- The first outgoing packet passes, when its section ends before the timer expires. -/
theorem deleter_unlocked_first_packet :
    (∃ s, Run (Within (Step (portrSymOwner 0 ∅)) (¬ ·.SelfLocked)) (· = { maps := ∅ })
      (.goes 0 :: .goes 0 :: firstEvents (.ofAddresses false 1 7 5 80)) s ∧
      .returned true ∈ s.tasks) ∧
    ∃ s, Runs (natMapperOwner ⟨1, 2, 60, ∅⟩) ⟨∅, ∅⟩
      [.goes 0, .call (.ofAddresses false 1 7 5 80)] s ∧ ¬ s.SelfLocked := by
  obtain ⟨hfilter, -, hmapper, -⟩ := deleter_unlocked ⟨1, 2, 60, ∅⟩ 0 ∅
  constructor
  · have hout : (Packet.ofAddresses false 1 7 5 80).isIngoing = false := rfl
    have run := filter_first portrSymKind 0 ∅ hout
    -- the timer has not expired when the section ends
    have run := Run.step run ⟨.code 0 _ _ rfl (.scopeEnd 0), fun i p he ht => by
      obtain rfl := ConnEvent.goes.inj he
      cases ht
      exact ⟨.waiting 0 _, List.mem_cons_of_mem _ List.mem_cons_self, rfl⟩⟩
    have run := Run.step run ⟨.code 0 _ _ rfl .unlock, fun i p he ht => by
      obtain rfl := ConnEvent.goes.inj he
      cases ht⟩
    exact ⟨_, (hfilter _ _).mpr run, List.mem_cons_self⟩
  · have run : Runs (natMapperOwner ⟨1, 2, 60, ∅⟩) ⟨∅, ∅⟩ [.call (.ofAddresses false 1 7 5 80)]
        { maps := ⟨∅, ∅⟩, tasks := [.code (.search (.ofAddresses false 1 7 5 80))] } :=
      .step (.start rfl) (.call _)
    have run : Runs (natMapperOwner ⟨1, 2, 60, ∅⟩) ⟨∅, ∅⟩
        [.goes 0, .call (.ofAddresses false 1 7 5 80)]
        { maps := ⟨∅, ∅⟩, tasks := [.code (.inSearch (.ofAddresses false 1 7 5 80))] } :=
      .step run (.code 0 _ _ rfl (.lock _ _ rfl (List.forall_mem_singleton.mpr rfl)))
    exact ⟨_, run, hmapper _ _ run⟩

/-- With the timeout 0, which the program accepts, the first outgoing packet can hang in
either filter, without time passing. -/
theorem deleter_waits_for_itself :
    (∃ s, Runs (portrSymOwner 0 ∅) ∅
      (.goes 0 :: .goes 1 :: .goes 1 :: .tick 0 :: firstEvents (.ofAddresses false 1 7 5 80)) s ∧
      s.SelfLocked) ∧
    ∃ s, Runs (addrrOwner 0 ∅) ∅
      (.goes 0 :: .goes 1 :: .goes 1 :: .tick 0 :: firstEvents (.ofAddresses false 1 7 5 80)) s ∧
      s.SelfLocked :=
  ⟨filter_hangs portrSymKind 0 ∅ rfl (Int.le_refl 0) (by decide),
    filter_hangs addrrKind 0 ∅ rfl (Int.le_refl 0) (by decide)⟩

end ConnSystem
end ShapingRouter
