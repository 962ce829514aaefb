import Mathlib
import ShapingRouter.Library.Run
import ShapingRouter.NatFilters

/-! # Expiry and creation of connections, interleaved

The last reference to an entry goes in one step, and the deleter its owner gave
it erases its keys in a later one.  In between, the maps still hold the keys, but
locking them fails, so that the packet thread takes the connection for a new one
and links a new entry under the same keys, which the deleter then erases
(`live_connection_unlinked`).  When no entry is linked while the deleter of
another one with its key is still to run, every pending entry is found
(`live_connections_linked`).

The threads are the packet thread, which handles one packet after the other, and
the threads of the timers.  A step is a section under the mutex, one update of a
map in `makeNewConn`, or a step of a timer.  Time is left out: a pending timer may
expire at any moment, and a deleter may run at any moment after the last reference
went, whichever thread drops it.
-/

namespace ShapingRouter
open Library Std

/-- How far an entry has come: made but not started; its timer pending; its timer
expired or cancelled, with the handler still holding a reference; without
references, so that only its deleter is left to run. -/
inductive Life
  | made
  | pending
  | fired
  | released
  deriving DecidableEq, Repr

/-- `ConnectionEntry`, as the threads share it. -/
structure SharedEntry where
  extTuple : ConnectionTuple
  intTuple : ConnectionTuple
  life : Life
  deriving DecidableEq, Repr

namespace SharedEntry

/-- The timer is armed, by `start` or by `rearm`. -/
def arm (e : SharedEntry) : SharedEntry := { e with life := .pending }

/-- The timer expires. -/
def fire (e : SharedEntry) : SharedEntry := { e with life := .fired }

/-- The last reference goes. -/
def release (e : SharedEntry) : SharedEntry := { e with life := .released }

end SharedEntry

section Locking
variable {κ : Type} {cmp : κ → κ → Ordering}

/-- `weak_ptr::lock` of what `m` has under `k`: it fails once the last reference
is gone. -/
def lockLive (h : Heap SharedEntry) (m : TreeMap κ Nat cmp) (k : κ) : Option Nat :=
  ((lock h m k).filter (·.2.life ≠ .released)).map (·.1)

/-- No entry that satisfies `P` has its deleter still to run. -/
def NoneDying (h : Heap SharedEntry) (P : SharedEntry → Bool) : Bool :=
  (h.pointers fun e => decide (e.life = .released) && P e).isEmpty

theorem not_released_of_noneDying {h : Heap SharedEntry} {P : SharedEntry → Bool}
    (hn : NoneDying h P = true) {p : Nat} {e : SharedEntry} (he : h.objects p = some e)
    (hP : P e = true) : e.life ≠ .released := by
  intro hr
  have hp : p ∈ h.pointers fun e => decide (e.life = .released) && P e :=
    Heap.mem_pointers.mpr ⟨e, he, by simp [hr, hP]⟩
  rw [List.isEmpty_iff.mp hn] at hp
  cases hp

/-- Every entry with the key `k` has lost its last reference. -/
def AllDying (cmp : κ → κ → Ordering) (h : Heap SharedEntry) (key : SharedEntry → κ) (k : κ) :
    Prop :=
  ∀ p e, h.objects p = some e → cmp (key e) k = .eq → e.life = .released

variable {h : Heap SharedEntry} {m : TreeMap κ Nat cmp} {key : SharedEntry → κ}

/-- Locking fails only where every entry with the key has lost its last reference. -/
theorem allDying_of_lockLive (hl : Linked h m key) {k : κ} (hk : lockLive h m k = none) :
    AllDying cmp h key k := by
  intro p e he hek
  have hlock := hl.lock_eq_some.mpr ⟨he, hek⟩
  simpa [lockLive, hlock, Option.filter] using hk

/-- An entry that changes keeps its key, and stays without references if it was. -/
theorem AllDying.modify {k : κ} (hd : AllDying cmp h key k) {p : Nat} {f : SharedEntry → SharedEntry}
    (hkey : ∀ e, key (f e) = key e)
    (hf : ∀ e, h.objects p = some e → e.life = .released → (f e).life = .released) :
    AllDying cmp (h.modify p f) key k := by
  intro q e he hek
  rw [h.modify_objects] at he
  split at he
  · obtain ⟨e', he', rfl⟩ := Option.map_eq_some_iff.mp he
    rw [hkey] at hek
    exact hf e' he' (hd p e' he' hek)
  · exact hd q e he hek

theorem AllDying.free {k : κ} (hd : AllDying cmp h key k) (p : Nat) :
    AllDying cmp (h.free p) key k := by
  intro q e he hek
  rw [h.free_objects] at he
  split at he
  · cases he
  · exact hd q e he hek

/-- With no deleter left to run for its key, a key all of whose entries have lost
their last reference is free. -/
theorem AllDying.key_free {k : κ} (hl : Linked h m key) (hd : AllDying cmp h key k)
    (hn : NoneDying h (fun e => decide (cmp (key e) k = .eq)) = true) : m[k]? = none := by
  cases hp : m[k]? with
  | none => rfl
  | some p =>
    obtain ⟨e, he, hek⟩ := (hl _ _).mp hp
    exact absurd (hd p e he hek) (not_released_of_noneDying hn he (by simp [hek]))

end Locking

/-! ## The filters -/

/-- Where the packet thread is in `filterPacket`: outside it; holding the entry it
found; or having found none. -/
inductive FilterThread
  | idle
  | found (p : Nat)
  | missing (pkt : Packet)
  deriving DecidableEq, Repr

/-- The steps of a filter. -/
inductive FilterEvent
  | lookup (pkt : Packet)
  | rearm
  | create
  | fire (p : Nat)
  | release (p : Nat)
  | deleter (p : Nat)
  deriving DecidableEq, Repr

/-- `PortrSymNatFilter` and `AddrrNatFilter`, with their entries and the packet
thread. -/
structure SharedFilter (κ : Type) (cmp : κ → κ → Ordering) where
  connMap : TreeMap κ Nat cmp
  entries : Heap SharedEntry
  thread : FilterThread

namespace SharedFilter
variable {κ : Type} {cmp : κ → κ → Ordering} (kind : FilterKind κ cmp)

/-- The key of an entry, as the deleter rebuilds it. -/
def key (e : SharedEntry) : κ := kind.ofTuple e.extTuple

def new : SharedFilter κ cmp := ⟨∅, Heap.empty, .idle⟩

/-- The first section of `filterPacket`. -/
def lookup (f : SharedFilter κ cmp) (pkt : Packet) : FilterThread :=
  if pkt.isIngoing then .idle
  else
    match lockLive f.entries f.connMap (ConnFilter.extTup kind pkt) with
    | some p => .found p
    | none => .missing pkt

/-- The section that makes, links and starts a new entry. -/
def create (f : SharedFilter κ cmp) (pkt : Packet) : SharedFilter κ cmp where
  connMap := f.connMap.insert (ConnFilter.extTup kind pkt) f.entries.next
  entries := f.entries.alloc
    ⟨kind.toTuple (ConnFilter.extTup kind pkt),
      kind.toTuple (kind.ofTuple (ConnectionTuple.ofPacket pkt)), .pending⟩
  thread := .idle

/-- One step. -/
def step (f : SharedFilter κ cmp) (event : FilterEvent) : Option (SharedFilter κ cmp) :=
  match event, f.thread with
  | .lookup pkt, .idle => some { f with thread := f.lookup kind pkt }
  | .rearm, .found p => some { f with entries := f.entries.modify p .arm, thread := .idle }
  | .create, .missing pkt => some (f.create kind pkt)
  | .fire p, _ =>
    if (f.entries.objects p).any (·.life = .pending) then
      some { f with entries := f.entries.modify p .fire }
    else none
  | .release p, thread =>
    -- the reference that the packet thread holds keeps the entry alive
    if (f.entries.objects p).any (·.life = .fired) ∧ thread ≠ .found p then
      some { f with entries := f.entries.modify p .release }
    else none
  | .deleter p, _ =>
    match f.entries.objects p with
    | some e =>
      if e.life = .released then
        some { f with connMap := f.connMap.erase (key kind e), entries := f.entries.free p }
      else none
    | none => none
  | _, _ => none

/-- What a step is, case by case. -/
inductive StepCases (f : SharedFilter κ cmp) : FilterEvent → SharedFilter κ cmp → Prop
  | lookup (pkt : Packet) : f.thread = .idle →
      StepCases f (.lookup pkt) { f with thread := f.lookup kind pkt }
  | rearm {p : Nat} : f.thread = .found p →
      StepCases f .rearm { f with entries := f.entries.modify p .arm, thread := .idle }
  | create {pkt : Packet} : f.thread = .missing pkt → StepCases f .create (f.create kind pkt)
  | fire {p : Nat} {e : SharedEntry} : f.entries.objects p = some e → e.life = .pending →
      StepCases f (.fire p) { f with entries := f.entries.modify p .fire }
  | release {p : Nat} {e : SharedEntry} : f.entries.objects p = some e → e.life = .fired →
      f.thread ≠ .found p → StepCases f (.release p) { f with entries := f.entries.modify p .release }
  | deleter {p : Nat} {e : SharedEntry} : f.entries.objects p = some e → e.life = .released →
      StepCases f (.deleter p)
        { f with connMap := f.connMap.erase (key kind e), entries := f.entries.free p }

theorem step_cases {f f' : SharedFilter κ cmp} {event : FilterEvent}
    (h : f.step kind event = some f') : f.StepCases kind event f' := by
  unfold SharedFilter.step at h
  split at h
  · rename_i hth
    obtain rfl := Option.some.inj h
    exact .lookup _ hth
  · rename_i hth
    obtain rfl := Option.some.inj h
    exact .rearm hth
  · rename_i hth
    obtain rfl := Option.some.inj h
    exact .create hth
  · obtain ⟨hany, h⟩ := Option.ite_none_right_eq_some.mp h
    obtain rfl := Option.some.inj h
    obtain ⟨e, he, hlife⟩ := (Option.any_eq_true _ _).mp hany
    exact .fire he (of_decide_eq_true hlife)
  · obtain ⟨⟨hany, hth⟩, h⟩ := Option.ite_none_right_eq_some.mp h
    obtain rfl := Option.some.inj h
    obtain ⟨e, he, hlife⟩ := (Option.any_eq_true _ _).mp hany
    exact .release he (of_decide_eq_true hlife) hth
  · split at h
    · rename_i e he
      obtain ⟨hlife, h⟩ := Option.ite_none_right_eq_some.mp h
      obtain rfl := Option.some.inj h
      exact .deleter he hlife
    · cases h
  · cases h

/-- Every pending entry is found under its own key. -/
def PendingLinked (f : SharedFilter κ cmp) : Prop :=
  ∀ p e, f.entries.objects p = some e → e.life = .pending → f.connMap[key kind e]? = some p

/-- When a new entry is linked, no entry with its key has its deleter still to run. -/
def Settled (f : SharedFilter κ cmp) (event : FilterEvent) : Bool :=
  match event, f.thread with
  | .create, .missing pkt =>
    NoneDying f.entries fun e => decide (cmp (key kind e) (ConnFilter.extTup kind pkt) = .eq)
  | _, _ => true

/-- The runs of a filter. -/
abbrev Runs : List FilterEvent → SharedFilter κ cmp → Prop :=
  Run (fun f e f' => f.step kind e = some f') (· = new)

/-- The runs in which no entry is linked while the deleter of another one with its
key is still to run. -/
abbrev SettledRuns : List FilterEvent → SharedFilter κ cmp → Prop :=
  Run (Guarded (fun f e f' => f.step kind e = some f') fun f e => f.Settled kind e = true) (· = new)

/-- The invariant: the map is linked to the entries, those whose deleter is still
to run among them, and the packet thread makes a new entry only where every other
one with its key has lost its last reference. -/
structure Inv (f : SharedFilter κ cmp) : Prop where
  linked : Linked f.entries f.connMap (key kind)
  missing : ∀ pkt, f.thread = .missing pkt →
    AllDying cmp f.entries (key kind) (ConnFilter.extTup kind pkt)

variable {kind} {f f' : SharedFilter κ cmp}

theorem Inv.lookup (hi : f.Inv kind) (pkt : Packet) :
    Inv kind { f with thread := f.lookup kind pkt } where
  linked := hi.linked
  missing pkt' hpkt' := by
    simp only [SharedFilter.lookup] at hpkt'
    split at hpkt'
    · cases hpkt'
    · split at hpkt'
      · cases hpkt'
      · rename_i hnone
        obtain rfl := FilterThread.missing.inj hpkt'
        exact allDying_of_lockLive hi.linked hnone

theorem Inv.rearm (hi : f.Inv kind) (p : Nat) :
    Inv kind { f with entries := f.entries.modify p .arm, thread := .idle } where
  linked := hi.linked.modify p fun _ => rfl
  missing _ hpkt := by cases hpkt

/-- A timer's step on the entry at `p`. -/
theorem Inv.timer (hi : f.Inv kind) {p : Nat} {g : SharedEntry → SharedEntry}
    (hkey : ∀ e, key kind (g e) = key kind e)
    (hg : ∀ e, f.entries.objects p = some e → e.life = .released → (g e).life = .released) :
    Inv kind { f with entries := f.entries.modify p g } where
  linked := hi.linked.modify p hkey
  missing pkt hpkt := (hi.missing pkt hpkt).modify hkey hg

variable [TransCmp cmp]

theorem Inv.create (hi : f.Inv kind) {pkt : Packet} (hth : f.thread = .missing pkt)
    (hs : f.Settled kind .create = true) : (f.create kind pkt).Inv kind where
  linked := by
    have hn : NoneDying f.entries
        (fun e => decide (cmp (key kind e) (ConnFilter.extTup kind pkt) = .eq)) = true := by
      simpa only [Settled, hth] using hs
    have hnew := (hi.missing pkt hth).key_free hi.linked hn
    rw [← kind.ofTuple_toTuple (ConnFilter.extTup kind pkt)] at hnew
    have hl := hi.linked.alloc
      (e := ⟨kind.toTuple (ConnFilter.extTup kind pkt),
        kind.toTuple (kind.ofTuple (ConnectionTuple.ofPacket pkt)), .pending⟩) hnew
    simpa only [SharedFilter.create, key, kind.ofTuple_toTuple] using hl
  missing _ hpkt := by cases hpkt

theorem Inv.deleter (hi : f.Inv kind) {p : Nat} {e : SharedEntry}
    (he : f.entries.objects p = some e) :
    Inv kind { f with connMap := f.connMap.erase (key kind e), entries := f.entries.free p } where
  linked := hi.linked.free he
  missing pkt hpkt := (hi.missing pkt hpkt).free p

/-- One step keeps the invariant, unless it links an entry while the deleter of
another one with its key is still to run. -/
theorem Inv.step (hi : f.Inv kind) {event : FilterEvent} (hs : f.Settled kind event = true)
    (h : f.step kind event = some f') : f'.Inv kind := by
  cases step_cases kind h with
  | lookup pkt _ => exact hi.lookup pkt
  | rearm _ => exact hi.rearm _
  | create hth => exact hi.create hth hs
  | fire he hlife =>
    refine hi.timer (fun _ => rfl) fun e he' hr => ?_
    rw [he] at he'
    obtain rfl := Option.some.inj he'
    rw [hlife] at hr
    cases hr
  | release _ _ _ => exact hi.timer (fun _ => rfl) fun _ _ _ => rfl
  | deleter he _ => exact hi.deleter he

theorem SettledRuns.inv {h : List FilterEvent} (run : SettledRuns kind h f) : f.Inv kind := by
  refine run.invariant (I := fun _ f => f.Inv kind) ?_ ?_
  · rintro _ rfl
    exact ⟨Linked.empty, fun _ hpkt => by cases hpkt⟩
  · intro _ f e f' _ hi hs
    exact hi.step hs.2 hs.1

theorem SettledRuns.pendingLinked {h : List FilterEvent} (run : SettledRuns kind h f) :
    f.PendingLinked kind := by
  intro p e he _
  exact run.inv.linked.self he

end SharedFilter

/-! ## The mappers -/

/-- Where the packet thread is in `mapPacket`: outside it; holding an entry whose
tuples it reads; holding the entry it found for an outgoing packet; having found
none; having chosen the external port; and, in `makeNewConn`, with the new entry in
`intPortMap_` only, or in both maps. -/
inductive MapperThread
  | idle
  | holding (p : Nat)
  | found (p : Nat)
  | missing (pkt : Packet)
  | mapped (pkt : Packet) (port : UInt16)
  | linking (p : Nat)
  | linked (p : Nat)
  deriving DecidableEq, Repr

/-- The entry that the packet thread holds a reference to. -/
def MapperThread.held : MapperThread → Option Nat
  | .holding p | .found p | .linking p | .linked p => some p
  | .idle | .missing _ | .mapped _ _ => none

/-- The steps of a mapper. -/
inductive MapperEvent
  | lookup (pkt : Packet)
  | rearm
  | mapPort
  | linkInt
  | linkExt
  | start
  | drop
  | fire (p : Nat)
  | release (p : Nat)
  | deleter (p : Nat)
  deriving DecidableEq, Repr

/-- `NatMapper` and `SymNatMapper`, with their entries and the packet thread. -/
structure SharedMapper (κ : Type) (cmp : κ → κ → Ordering) extends NatMapperBase where
  intPortMap : TreeMap κ Nat cmp
  extPortMap : TreeMap UInt16 Nat compare
  entries : Heap SharedEntry
  thread : MapperThread

namespace SharedMapper
variable {κ : Type} {cmp : κ → κ → Ordering} (kind : MapperKind κ cmp)

/-- The keys of an entry. -/
def intKey (e : SharedEntry) : κ := kind.intKey e.intTuple

def extKey (e : SharedEntry) : UInt16 := e.extTuple.dport

def new (base : NatMapperBase) : SharedMapper κ cmp :=
  { base with intPortMap := ∅, extPortMap := ∅, entries := Heap.empty, thread := .idle }

/-- `mapPacket`, up to the end of its first section. -/
def lookup (m : SharedMapper κ cmp) (pkt : Packet) : MapperThread :=
  match m.checkDnat pkt with
  | some _ => .idle
  | none =>
    if pkt.isIngoing then
      match lockLive m.entries m.extPortMap pkt.dport with
      | some p => .holding p
      | none => .idle
    else
      match lockLive m.entries m.intPortMap (kind.intKey (ConnectionTuple.ofPacket pkt)) with
      | some p => .found p
      | none => .missing pkt

/-- The entry that `makeNewConn` makes. -/
def newEntry (m : SharedMapper κ cmp) (pkt : Packet) (port : UInt16) : SharedEntry :=
  ⟨⟨pkt.dstIp, m.ipExt, pkt.dport, port, pkt.transProt⟩, ConnectionTuple.ofPacket pkt, .made⟩

/-- `makeNewConn`, up to the update of `intPortMap_`. -/
def linkInt (m : SharedMapper κ cmp) (pkt : Packet) (port : UInt16) : SharedMapper κ cmp :=
  { m with
    intPortMap := m.intPortMap.insert (kind.intKey (ConnectionTuple.ofPacket pkt)) m.entries.next
    entries := m.entries.alloc (m.newEntry pkt port)
    thread := .linking m.entries.next }

/-- `removeFromMaps`, and the end of the entry. -/
def removeFromMaps (m : SharedMapper κ cmp) (p : Nat) (e : SharedEntry) : SharedMapper κ cmp :=
  { m with
    intPortMap := m.intPortMap.erase (intKey kind e)
    extPortMap := m.extPortMap.erase (extKey e)
    entries := m.entries.free p }

/-- One step. -/
def step (m : SharedMapper κ cmp) (event : MapperEvent) : Option (SharedMapper κ cmp) :=
  match event, m.thread with
  | .lookup pkt, .idle => some { m with thread := m.lookup kind pkt }
  | .rearm, .found p => some { m with entries := m.entries.modify p .arm, thread := .holding p }
  | .mapPort, .missing pkt =>
    (kind.extPort m.extPortMap.contains (ConnectionTuple.ofPacket pkt)).map fun port =>
      { m with thread := .mapped pkt port }
  | .linkInt, .mapped pkt port => some (m.linkInt kind pkt port)
  | .linkExt, .linking p =>
    (m.entries.objects p).map fun e =>
      { m with extPortMap := m.extPortMap.insert (extKey e) p, thread := .linked p }
  | .start, .linked p => some { m with entries := m.entries.modify p .arm, thread := .holding p }
  | .drop, .holding _ => some { m with thread := .idle }
  | .fire p, _ =>
    if (m.entries.objects p).any (·.life = .pending) then
      some { m with entries := m.entries.modify p .fire }
    else none
  | .release p, thread =>
    -- the reference that the packet thread holds keeps the entry alive
    if (m.entries.objects p).any (·.life = .fired) ∧ thread.held ≠ some p then
      some { m with entries := m.entries.modify p .release }
    else none
  | .deleter p, _ =>
    match m.entries.objects p with
    | some e => if e.life = .released then some (m.removeFromMaps kind p e) else none
    | none => none
  | _, _ => none

/-- What a step is, case by case. -/
inductive StepCases (m : SharedMapper κ cmp) : MapperEvent → SharedMapper κ cmp → Prop
  | lookup (pkt : Packet) : m.thread = .idle →
      StepCases m (.lookup pkt) { m with thread := m.lookup kind pkt }
  | rearm {p : Nat} : m.thread = .found p →
      StepCases m .rearm { m with entries := m.entries.modify p .arm, thread := .holding p }
  | mapPort {pkt : Packet} {port : UInt16} : m.thread = .missing pkt →
      kind.extPort m.extPortMap.contains (ConnectionTuple.ofPacket pkt) = some port →
      StepCases m .mapPort { m with thread := .mapped pkt port }
  | linkInt {pkt : Packet} {port : UInt16} : m.thread = .mapped pkt port →
      StepCases m .linkInt (m.linkInt kind pkt port)
  | linkExt {p : Nat} {e : SharedEntry} : m.thread = .linking p → m.entries.objects p = some e →
      StepCases m .linkExt
        { m with extPortMap := m.extPortMap.insert (extKey e) p, thread := .linked p }
  | start {p : Nat} : m.thread = .linked p →
      StepCases m .start { m with entries := m.entries.modify p .arm, thread := .holding p }
  | drop {p : Nat} : m.thread = .holding p → StepCases m .drop { m with thread := .idle }
  | fire {p : Nat} {e : SharedEntry} : m.entries.objects p = some e → e.life = .pending →
      StepCases m (.fire p) { m with entries := m.entries.modify p .fire }
  | release {p : Nat} {e : SharedEntry} : m.entries.objects p = some e → e.life = .fired →
      m.thread.held ≠ some p →
      StepCases m (.release p) { m with entries := m.entries.modify p .release }
  | deleter {p : Nat} {e : SharedEntry} : m.entries.objects p = some e → e.life = .released →
      StepCases m (.deleter p) (m.removeFromMaps kind p e)

theorem step_cases {m m' : SharedMapper κ cmp} {event : MapperEvent}
    (h : m.step kind event = some m') : m.StepCases kind event m' := by
  unfold SharedMapper.step at h
  split at h
  · rename_i hth
    obtain rfl := Option.some.inj h
    exact .lookup _ hth
  · rename_i hth
    obtain rfl := Option.some.inj h
    exact .rearm hth
  · rename_i hth
    obtain ⟨port, hport, rfl⟩ := Option.map_eq_some_iff.mp h
    exact .mapPort hth hport
  · rename_i hth
    obtain rfl := Option.some.inj h
    exact .linkInt hth
  · rename_i hth
    obtain ⟨e, he, rfl⟩ := Option.map_eq_some_iff.mp h
    exact .linkExt hth he
  · rename_i hth
    obtain rfl := Option.some.inj h
    exact .start hth
  · rename_i hth
    obtain rfl := Option.some.inj h
    exact .drop hth
  · obtain ⟨hany, h⟩ := Option.ite_none_right_eq_some.mp h
    obtain rfl := Option.some.inj h
    obtain ⟨e, he, hlife⟩ := (Option.any_eq_true _ _).mp hany
    exact .fire he (of_decide_eq_true hlife)
  · obtain ⟨⟨hany, hth⟩, h⟩ := Option.ite_none_right_eq_some.mp h
    obtain rfl := Option.some.inj h
    obtain ⟨e, he, hlife⟩ := (Option.any_eq_true _ _).mp hany
    exact .release he (of_decide_eq_true hlife) hth
  · split at h
    · rename_i e he
      obtain ⟨hlife, h⟩ := Option.ite_none_right_eq_some.mp h
      obtain rfl := Option.some.inj h
      exact .deleter he hlife
    · cases h
  · cases h

/-- Every pending entry is found under its own keys, in both maps. -/
def PendingLinked (m : SharedMapper κ cmp) : Prop :=
  ∀ p e, m.entries.objects p = some e → e.life = .pending →
    m.intPortMap[intKey kind e]? = some p ∧ m.extPortMap[extKey e]? = some p

/-- When a new entry is linked, no entry with its internal key has its deleter still
to run. -/
def Settled (m : SharedMapper κ cmp) (event : MapperEvent) : Bool :=
  match event, m.thread with
  | .linkInt, .mapped pkt _ =>
    NoneDying m.entries fun e =>
      decide (cmp (intKey kind e) (kind.intKey (ConnectionTuple.ofPacket pkt)) = .eq)
  | _, _ => true

/-- The runs of a mapper. -/
abbrev Runs : List MapperEvent → SharedMapper κ cmp → Prop :=
  Run (fun m e m' => m.step kind e = some m') (∃ base, · = new base)

/-- The runs in which no entry is linked while the deleter of another one with its
internal key is still to run. -/
abbrev SettledRuns : List MapperEvent → SharedMapper κ cmp → Prop :=
  Run (Guarded (fun m e m' => m.step kind e = some m') fun m e => m.Settled kind e = true)
    (∃ base, · = new base)

/-- Of the entries `h`, those that are in `extPortMap_`: all but the one being linked. -/
def extLinked (h : Heap SharedEntry) : MapperThread → Heap SharedEntry
  | .linking p => h.free p
  | .idle | .holding _ | .found _ | .missing _ | .mapped _ _ | .linked _ => h

/-- What the packet thread relies on where it is. -/
def ThreadInv (h : Heap SharedEntry) : MapperThread → Prop
  | .missing pkt => AllDying cmp h (intKey kind) (kind.intKey (ConnectionTuple.ofPacket pkt))
  | .mapped pkt port =>
    AllDying cmp h (intKey kind) (kind.intKey (ConnectionTuple.ofPacket pkt)) ∧
      kind.pinned (ConnectionTuple.ofPacket pkt) port ∧
      ∀ p e, h.objects p = some e → extKey e = port →
        cmp (intKey kind e) (kind.intKey (ConnectionTuple.ofPacket pkt)) = .eq
  | .linking p => ∃ e, h.objects p = some e ∧ e.life = .made ∧
      ∀ q e', q ≠ p → h.objects q = some e' → extKey e' ≠ extKey e
  | .idle | .holding _ | .found _ | .linked _ => True

/-- The invariant: both maps are linked to the entries, those whose deleter is still
to run among them, but for the entry that `extPortMap_` does not have yet. -/
structure Inv (m : SharedMapper κ cmp) : Prop where
  int : Linked m.entries m.intPortMap (intKey kind)
  ext : Linked (extLinked m.entries m.thread) m.extPortMap extKey
  pinned : ∀ p e, m.entries.objects p = some e → kind.pinned e.intTuple (extKey e)
  thread : ThreadInv kind m.entries m.thread

/-! ### What the packet thread relies on, while the timers go on -/

variable {kind} {h : Heap SharedEntry} {t : MapperThread} {m m' : SharedMapper κ cmp}

theorem ThreadInv.ne_linking (ht : ThreadInv kind h t) {p : Nat} {e : SharedEntry}
    (he : h.objects p = some e) (hmade : e.life ≠ .made) : t ≠ .linking p := by
  rintro rfl
  obtain ⟨e', he', hmade', _⟩ := ht
  rw [he] at he'
  obtain rfl := Option.some.inj he'
  exact hmade hmade'

/-- An entry other than the one being linked changes. -/
theorem ThreadInv.modify (ht : ThreadInv kind h t) {p : Nat} (hp : t ≠ .linking p)
    {g : SharedEntry → SharedEntry} (hint : ∀ e, intKey kind (g e) = intKey kind e)
    (hext : ∀ e, extKey (g e) = extKey e)
    (hg : ∀ e, h.objects p = some e → e.life = .released → (g e).life = .released) :
    ThreadInv kind (h.modify p g) t := by
  cases t with
  | missing pkt => exact AllDying.modify ht hint hg
  | mapped pkt port =>
    obtain ⟨hd, hpin, hport⟩ := ht
    refine ⟨hd.modify hint hg, hpin, fun q e he hk => ?_⟩
    rw [h.modify_objects] at he
    split at he
    · obtain ⟨e', he', rfl⟩ := Option.map_eq_some_iff.mp he
      rw [hext] at hk
      rw [hint]
      exact hport p e' he' hk
    · exact hport q e he hk
  | linking q =>
    obtain ⟨e, he, hmade, hother⟩ := ht
    have hqp : q ≠ p := fun heq => hp (by rw [heq])
    refine ⟨e, by rw [h.modify_objects, if_neg hqp, he], hmade, fun r e' hr he' => ?_⟩
    rw [h.modify_objects] at he'
    split at he'
    · rename_i hrp
      obtain ⟨e'', he'', rfl⟩ := Option.map_eq_some_iff.mp he'
      rw [hext]
      exact hother p e'' (Ne.symm hqp) he''
    · exact hother r e' hr he'
  | idle | holding _ | found _ | linked _ => trivial

/-- An entry other than the one being linked goes. -/
theorem ThreadInv.free (ht : ThreadInv kind h t) {p : Nat} (hp : t ≠ .linking p) :
    ThreadInv kind (h.free p) t := by
  cases t with
  | missing pkt => exact AllDying.free ht p
  | mapped pkt port =>
    obtain ⟨hd, hpin, hport⟩ := ht
    refine ⟨hd.free p, hpin, fun q e he hk => ?_⟩
    rw [h.free_objects] at he
    split at he
    · cases he
    · exact hport q e he hk
  | linking q =>
    obtain ⟨e, he, hmade, hother⟩ := ht
    have hqp : q ≠ p := fun heq => hp (by rw [heq])
    refine ⟨e, by rw [h.free_objects, if_neg hqp, he], hmade, fun r e' hr he' => ?_⟩
    rw [h.free_objects] at he'
    split at he'
    · cases he'
    · exact hother r e' hr he'
  | idle | holding _ | found _ | linked _ => trivial

theorem extLinked_modify {p : Nat} (hp : t ≠ .linking p) (g : SharedEntry → SharedEntry) :
    extLinked (h.modify p g) t = (extLinked h t).modify p g := by
  cases t with
  | linking q => exact h.free_modify (fun heq => hp (by rw [heq])) g
  | idle | holding _ | found _ | missing _ | mapped _ _ | linked _ => rfl

theorem extLinked_free (p : Nat) : extLinked (h.free p) t = (extLinked h t).free p := by
  cases t with
  | linking q => exact h.free_comm p q
  | idle | holding _ | found _ | missing _ | mapped _ _ | linked _ => rfl

theorem extLinked_objects {p : Nat} (hp : t ≠ .linking p) :
    (extLinked h t).objects p = h.objects p := by
  cases t with
  | linking q => rw [extLinked, h.free_objects, if_neg fun heq => hp (by rw [heq])]
  | idle | holding _ | found _ | missing _ | mapped _ _ | linked _ => rfl

/-! ### Each step keeps the invariant -/

theorem Inv.lookup (hi : m.Inv kind) (hth : m.thread = .idle) (pkt : Packet) :
    Inv kind { m with thread := m.lookup kind pkt } := by
  have hint := hi.int
  have hext : Linked m.entries m.extPortMap extKey := by simpa only [hth, extLinked] using hi.ext
  unfold SharedMapper.lookup
  split
  · exact ⟨hint, hext, hi.pinned, trivial⟩
  · split
    · split
      · exact ⟨hint, hext, hi.pinned, trivial⟩
      · exact ⟨hint, hext, hi.pinned, trivial⟩
    · split
      · exact ⟨hint, hext, hi.pinned, trivial⟩
      · rename_i hnone
        exact ⟨hint, hext, hi.pinned, allDying_of_lockLive hint hnone⟩

/-- The packet thread arms the timer of an entry that is in both maps. -/
theorem Inv.arm (hi : m.Inv kind) (hth : extLinked m.entries m.thread = m.entries) (p : Nat) :
    Inv kind { m with entries := m.entries.modify p .arm, thread := .holding p } where
  int := hi.int.modify p fun _ => rfl
  ext := by
    have hext := hi.ext
    rw [hth] at hext
    exact hext.modify p fun _ => rfl
  pinned q e he := by
    rw [m.entries.modify_objects] at he
    split at he
    · obtain ⟨e', he', rfl⟩ := Option.map_eq_some_iff.mp he
      exact hi.pinned p e' he'
    · exact hi.pinned q e he
  thread := trivial

theorem Inv.drop (hi : m.Inv kind) {p : Nat} (hth : m.thread = .holding p) :
    Inv kind { m with thread := .idle } where
  int := hi.int
  ext := by simpa only [hth, extLinked] using hi.ext
  pinned := hi.pinned
  thread := trivial

/-- A timer's step on the entry at `p`, which is not new. -/
theorem Inv.timer (hi : m.Inv kind) {p : Nat} {e : SharedEntry} (he : m.entries.objects p = some e)
    (hmade : e.life ≠ .made) {g : SharedEntry → SharedEntry}
    (htup : ∀ e, (g e).intTuple = e.intTuple ∧ (g e).extTuple = e.extTuple)
    (hg : e.life = .released → (g e).life = .released) :
    Inv kind { m with entries := m.entries.modify p g } := by
  have hne := hi.thread.ne_linking he hmade
  have hint : ∀ e, intKey kind (g e) = intKey kind e := fun e => by rw [intKey, intKey, (htup e).1]
  have hext : ∀ e, extKey (g e) = extKey e := fun e => by rw [extKey, extKey, (htup e).2]
  refine ⟨hi.int.modify p hint, ?_, fun q e' he' => ?_, hi.thread.modify hne hint hext ?_⟩
  · rw [extLinked_modify hne]
    exact hi.ext.modify p hext
  · rw [m.entries.modify_objects] at he'
    split at he'
    · obtain ⟨e'', he'', rfl⟩ := Option.map_eq_some_iff.mp he'
      rw [hext, (htup e'').1]
      exact hi.pinned p e'' he''
    · exact hi.pinned q e' he'
  · intro e' he'
    rw [he] at he'
    obtain rfl := Option.some.inj he'
    exact hg

/-- The port chosen belongs to no entry, or to entries with the packet's own key. -/
theorem Inv.mapPort (hi : m.Inv kind) {pkt : Packet} (hth : m.thread = .missing pkt) {port : UInt16}
    (hport : kind.extPort m.extPortMap.contains (ConnectionTuple.ofPacket pkt) = some port) :
    Inv kind { m with thread := .mapped pkt port } := by
  have hext : Linked m.entries m.extPortMap extKey := by simpa only [hth, extLinked] using hi.ext
  have hmissing : ThreadInv kind m.entries (.missing pkt) := by simpa only [hth] using hi.thread
  refine ⟨hi.int, hext, hi.pinned, hmissing, kind.pinned_of_extPort hport, fun p e he hk => ?_⟩
  rcases kind.apart hport with hfree | hown
  · -- every entry's port is in the map, so a free port is nobody's
    have hp := hext.self he
    rw [hk] at hp
    have hc : m.extPortMap.contains port = true := by
      rw [TreeMap.contains_eq_isSome_getElem?, hp]
      rfl
    rw [hfree] at hc
    cases hc
  · apply hown
    rw [← hk]
    exact hi.pinned p e he

theorem Inv.linkExt (hi : m.Inv kind) {p : Nat} {e : SharedEntry} (hth : m.thread = .linking p)
    (he : m.entries.objects p = some e) :
    Inv kind { m with extPortMap := m.extPortMap.insert (extKey e) p, thread := .linked p } := by
  have hext : Linked (m.entries.free p) m.extPortMap extKey := by
    simpa only [hth, extLinked] using hi.ext
  obtain ⟨e', he', _, hother⟩ : ThreadInv kind m.entries (.linking p) := by
    simpa only [hth] using hi.thread
  rw [he] at he'
  obtain rfl := Option.some.inj he'
  have hobj : ∀ q, m.entries.objects q =
      if q = p then some e else (m.entries.free p).objects q := by
    intro q
    rw [m.entries.free_objects]
    by_cases hq : q = p
    · rw [if_pos hq, hq, he]
    · rw [if_neg hq, if_neg hq]
  refine ⟨hi.int, ?_, hi.pinned, trivial⟩
  refine hext.link (by simp [m.entries.free_objects]) hobj ?_
  · cases hq : m.extPortMap[extKey e]? with
    | none => rfl
    | some q =>
      obtain ⟨e', he', hk⟩ := (hext _ _).mp hq
      rw [m.entries.free_objects] at he'
      split at he'
      · cases he'
      · rename_i hqp
        exact absurd (LawfulEqCmp.eq_of_compare hk) (hother q e' hqp he')

section Maps
variable [TransCmp cmp]

theorem Inv.linkInt (hi : m.Inv kind) {pkt : Packet} {port : UInt16}
    (hth : m.thread = .mapped pkt port) (hs : m.Settled kind .linkInt = true) :
    (m.linkInt kind pkt port).Inv kind := by
  have hext : Linked m.entries m.extPortMap extKey := by simpa only [hth, extLinked] using hi.ext
  obtain ⟨hdying, hpin, hport⟩ : ThreadInv kind m.entries (.mapped pkt port) := by
    simpa only [hth] using hi.thread
  have hn : NoneDying m.entries (fun e =>
      decide (cmp (intKey kind e) (kind.intKey (ConnectionTuple.ofPacket pkt)) = .eq)) = true := by
    simpa only [Settled, hth] using hs
  -- the lookup left only entries without references under the key, and of these none is left
  have halloc := m.entries.alloc_objects (m.newEntry pkt port)
  refine ⟨hi.int.alloc (e := m.newEntry pkt port) (hdying.key_free hi.int hn), ?_, ?_, ?_⟩
  · -- without the new entry, the entries are those of before
    refine hext.congr fun q => ?_
    show ((m.entries.alloc (m.newEntry pkt port)).free m.entries.next).objects q = _
    rw [Heap.free_objects, halloc]
    split
    · rename_i hq
      rw [hq, m.entries.bounded m.entries.next (Nat.le_refl _)]
    · rfl
  · intro q e he
    have he : (m.entries.alloc (m.newEntry pkt port)).objects q = some e := he
    rw [halloc] at he
    split at he
    · obtain rfl := Option.some.inj he
      exact hpin
    · exact hi.pinned q e he
  · refine ⟨m.newEntry pkt port, (halloc _).trans (if_pos rfl), rfl, fun q e hq he => ?_⟩
    have he : (m.entries.alloc (m.newEntry pkt port)).objects q = some e := he
    rw [halloc, if_neg hq] at he
    intro hk
    have hown := hport q e he hk
    exact not_released_of_noneDying hn he (by simp [hown]) (hdying q e he hown)

theorem Inv.deleter (hi : m.Inv kind) {p : Nat} {e : SharedEntry}
    (he : m.entries.objects p = some e) (hr : e.life = .released) :
    (m.removeFromMaps kind p e).Inv kind := by
  -- the entry being linked is new, so the deleter that runs is not its own
  have hne := hi.thread.ne_linking he (by rw [hr]; decide)
  refine ⟨hi.int.free he, ?_, fun q e' he' => ?_, hi.thread.free hne⟩
  · show Linked (extLinked (m.entries.free p) m.thread) (m.extPortMap.erase (extKey e)) extKey
    rw [extLinked_free]
    exact hi.ext.free ((extLinked_objects hne).trans he)
  · have he' : (m.entries.free p).objects q = some e' := he'
    rw [m.entries.free_objects] at he'
    split at he'
    · cases he'
    · exact hi.pinned q e' he'

/-- One step keeps the invariant, unless it links an entry while the deleter of
another one with its internal key is still to run. -/
theorem Inv.step (hi : m.Inv kind) {event : MapperEvent} (hs : m.Settled kind event = true)
    (h : m.step kind event = some m') : m'.Inv kind := by
  cases step_cases kind h with
  | lookup pkt hth => exact hi.lookup hth pkt
  | rearm hth => exact hi.arm (by rw [hth, extLinked]) _
  | mapPort hth hport => exact hi.mapPort hth hport
  | linkInt hth => exact hi.linkInt hth hs
  | linkExt hth he => exact hi.linkExt hth he
  | start hth => exact hi.arm (by rw [hth, extLinked]) _
  | drop hth => exact hi.drop hth
  | fire he hlife =>
    refine hi.timer he ?_ (fun _ => ⟨rfl, rfl⟩) ?_
    · rw [hlife]
      exact Life.noConfusion
    · rw [hlife]
      exact Life.noConfusion
  | release he hlife _ =>
    refine hi.timer he ?_ (fun _ => ⟨rfl, rfl⟩) fun _ => rfl
    rw [hlife]
    exact Life.noConfusion
  | deleter he hr => exact hi.deleter he hr

theorem SettledRuns.inv {h : List MapperEvent} (run : SettledRuns kind h m) : m.Inv kind := by
  refine run.invariant (I := fun _ m => m.Inv kind) ?_ ?_
  · rintro _ ⟨base, rfl⟩
    exact ⟨Linked.empty, Linked.empty, (fun _ _ he => by cases he), trivial⟩
  · intro _ m e m' _ hi hs
    exact hi.step hs.2 hs.1

end Maps

/-- A pending entry is not the one being linked, so both maps have it. -/
theorem SettledRuns.pendingLinked [TransCmp cmp] {h : List MapperEvent}
    (run : SettledRuns kind h m) : m.PendingLinked kind := by
  intro p e he hlife
  have hne := run.inv.thread.ne_linking he (by rw [hlife]; decide)
  exact ⟨run.inv.int.self he, run.inv.ext.self ((extLinked_objects hne).trans he)⟩

end SharedMapper

/-! ## A live connection is never unlinked, if no deleter comes late -/

/-- **Pending entries are found**, in the four owners: in every run in which no entry
is linked while the deleter of another one with its key is still to run, every entry
whose timer is pending is found under its own keys. -/
theorem live_connections_linked (hm : List MapperEvent) (hf : List FilterEvent) :
    (∀ m, SharedMapper.SettledRuns natKind hm m → m.PendingLinked natKind) ∧
    (∀ m, SharedMapper.SettledRuns symKind hm m → m.PendingLinked symKind) ∧
    (∀ f, SharedFilter.SettledRuns portrSymKind hf f → f.PendingLinked portrSymKind) ∧
    ∀ f, SharedFilter.SettledRuns addrrKind hf f → f.PendingLinked addrrKind := by
  refine ⟨?_, ?_, ?_, ?_⟩
  · intro m run
    exact run.pendingLinked
  · intro m run
    exact run.pendingLinked
  · intro f run
    exact run.pendingLinked
  · intro f run
    exact run.pendingLinked

/-- A packet makes a connection, which expires and is cleaned up; the next packet of
the flow makes it again. -/
theorem live_connections_linked_again :
    ∃ h m, SharedMapper.SettledRuns natKind h m ∧ m.PendingLinked natKind ∧
      m.entries.objects 1 = some ⟨⟨7, 2, 80, 5, 6⟩, ⟨1, 7, 5, 80, 6⟩, .pending⟩ ∧
      m.intPortMap[(5 : UInt16)]? = some 1 := by
  let makes : List MapperEvent :=
    [.lookup (.ofAddresses false 1 7 5 80), .mapPort, .linkInt, .linkExt, .start, .drop]
  let step := fun (m : SharedMapper UInt16 compare) e =>
    if m.Settled natKind e then m.step natKind e else none
  have hstep : ∀ m e m', step m e = some m' →
      m.step natKind e = some m' ∧ m.Settled natKind e = true := by
    intro m e m' h
    obtain ⟨hs, h⟩ := Option.ite_none_right_eq_some.mp h
    exact ⟨h, hs⟩
  have run : SharedMapper.SettledRuns natKind _ _ :=
    Run.of_replay step hstep (makes ++ [.fire 0, .release 0, .deleter 0] ++ makes)
      ⟨⟨1, 2, 60, ∅⟩, rfl⟩ rfl
  exact ⟨_, _, run, (live_connections_linked _ []).1 _ run, by decide, by decide⟩

/-- **A live connection is unlinked**: the next packet of an expired flow comes when
the last reference is gone and the deleter is still to run, and the deleter erases
the links of the new entry, whose timer is pending. -/
theorem live_connection_unlinked :
    ∃ h m, SharedMapper.Runs natKind h m ∧
      m.entries.objects 1 = some ⟨⟨7, 2, 80, 5, 6⟩, ⟨1, 7, 5, 80, 6⟩, .pending⟩ ∧
      m.intPortMap[(5 : UInt16)]? = none ∧ m.extPortMap[(5 : UInt16)]? = none ∧
      ¬ m.PendingLinked natKind := by
  let makes : List MapperEvent :=
    [.lookup (.ofAddresses false 1 7 5 80), .mapPort, .linkInt, .linkExt, .start, .drop]
  have run : SharedMapper.Runs natKind _ _ :=
    Run.of_replay (SharedMapper.step natKind) (fun _ _ _ h => h)
      (makes ++ [.fire 0, .release 0] ++ makes ++ [.deleter 0]) ⟨⟨1, 2, 60, ∅⟩, rfl⟩ rfl
  refine ⟨_, _, run, by decide, by decide, by decide, fun hlinked => ?_⟩
  obtain ⟨hint, _⟩ := hlinked 1 _ rfl rfl
  cases hint

end ShapingRouter
