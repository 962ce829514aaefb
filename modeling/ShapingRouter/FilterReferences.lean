import Mathlib
import ShapingRouter.ConnectionReferences
import ShapingRouter.NatFilters

/-! # The references of a filter

`PortrSymNatFilter` and `AddrrNatFilter` drop the reference to a new entry at the end of the
section that made it, before the mutex is released.  Then the deleter, which takes the
mutex, waits for its own call, unless a handler of the entry's timer has a reference left.

`filterPacket` is alone with an entry that it makes until the section ends (`Alone`): the
other references are those of handlers.  So the runs without a call that waits for itself
are exactly those where each section of this kind ends before its handler is gone
(`EntryHandled`, `filter_runs_iff`).
-/

namespace ShapingRouter
open Library Std

/-- Where a call of `filterPacket` is.  An ingoing packet goes through the sections that
search the connections and the rules, an outgoing one through that which searches for its
entry; if there is none, through that which makes one: the entry is made and linked, its
timer started by `armTimer`, and the scope ends with the entry and then the lock. -/
inductive FilterCode
  | conn (pkt : Packet)
  | inConn (pkt : Packet)
  | rules (pkt : Packet)
  | inRules (pkt : Packet)
  | search (pkt : Packet)
  | inSearch (pkt : Packet)
  | searched (pkt : Packet) (ent : Option Nat)
  | missing (pkt : Packet)
  | making (pkt : Packet)
  | made (p : Nat)
  | arming (p : Nat)
  | created (p : Nat)
  | leaving
  deriving DecidableEq, Repr

namespace FilterCode

/-- `std::lock_guard<std::mutex> lock(mutex_)`. -/
def lock : FilterCode → Option FilterCode
  | conn pkt => some (inConn pkt)
  | rules pkt => some (inRules pkt)
  | search pkt => some (inSearch pkt)
  | missing pkt => some (making pkt)
  | inConn _ | inRules _ | inSearch _ | searched _ _ | making _ | made _ | arming _ | created _
  | leaving => none

/-- The entry that the call has made, and not yet left the section. -/
def creates : FilterCode → Option Nat
  | made p | arming p | created p => some p
  | conn _ | inConn _ | rules _ | inRules _ | search _ | inSearch _ | searched _ _ | missing _
  | making _ | leaving => none

end FilterCode

instance : CodePosition FilterCode where
  locked
    | .inConn _ | .inRules _ | .inSearch _ | .searched _ _ | .making _ | .made _ | .arming _
    | .created _ | .leaving => true
    | .conn _ | .rules _ | .search _ | .missing _ => false
  held
    | .searched _ (some p) | .made p | .created p => {p}
    | .arming p => {p, p}
    | .conn _ | .inConn _ | .rules _ | .inRules _ | .search _ | .inSearch _ | .searched _ none
    | .missing _ | .making _ | .leaving => 0

section Filters
variable {κ : Type} {cmp : κ → κ → Ordering}

/-- A filter with `connMap_`, its entries, and what goes on. -/
abbrev FilterSystem (κ : Type) (cmp : κ → κ → Ordering) :=
  ConnSystem (TreeMap κ Nat cmp) FilterCode Bool

/-- The entry for an outgoing packet. -/
def FilterKind.entry (kind : FilterKind κ cmp) (connectionTimeout : UInt32) (pkt : Packet) :
    EntryMembers :=
  .new connectionTimeout (kind.toTuple (ConnFilter.extTup kind pkt))
    (kind.toTuple (kind.ofTuple (ConnectionTuple.ofPacket pkt)))

section Step
variable (kind : FilterKind κ cmp) (connectionTimeout : UInt32) (dnatRules : DnatRules)
  (s : FilterSystem κ cmp) (i : Nat)

/-- A step in `filterPacket`. -/
inductive FilterStep : FilterCode → FilterSystem κ cmp → Prop
  | lock (c c' : FilterCode) : c.lock = some c' → s.Free → FilterStep c (s.goes i (.code c'))
  | conn (pkt : Packet) :
      FilterStep (.inConn pkt)
        (s.goes i (if s.maps.contains (kind.ofTuple (ConnectionTuple.ofPacket pkt)) then
          .returned true else .code (.rules pkt)))
  | rules (pkt : Packet) :
      FilterStep (.inRules pkt) (s.goes i (.returned (dnatRules.contains pkt.dport)))
  | searchFound (pkt : Packet) (p : Nat) :
      lockCounted s.entries s.maps (ConnFilter.extTup kind pkt) = some p →
      FilterStep (.inSearch pkt) (s.takes i p (.code (.searched pkt (some p))))
  | searchNone (pkt : Packet) :
      lockCounted s.entries s.maps (ConnFilter.extTup kind pkt) = none →
      FilterStep (.inSearch pkt) (s.goes i (.code (.searched pkt none)))
  | found (pkt : Packet) (p : Nat) : FilterStep (.searched pkt (some p)) (s.goes i (.found p true))
  | missing (pkt : Packet) : FilterStep (.searched pkt none) (s.goes i (.code (.missing pkt)))
  | make (pkt : Packet) :
      FilterStep (.making pkt)
        (s.makes i (kind.entry connectionTimeout pkt)
          (s.maps.insert (ConnFilter.extTup kind pkt) s.entries.next)
          (.code (.made s.entries.next)))
  | start (p : Nat) (entry : Counted EntryMembers) : s.entries.objects p = some entry →
      FilterStep (.made p) (s.arms i p entry.val.timeout (.code (.arming p)))
  | armed (p : Nat) : FilterStep (.arming p) (s.drops i p true (.code (.created p)))
  | scopeEnd (p : Nat) : FilterStep (.created p) (s.drops i p true (.code .leaving))
  | unlock : FilterStep .leaving (s.goes i (.returned true))

end Step

/-- `PortrSymNatFilter` or `AddrrNatFilter`. -/
def filterOwner (kind : FilterKind κ cmp) (connectionTimeout : UInt32) (dnatRules : DnatRules) :
    ConnOwner (TreeMap κ Nat cmp) FilterCode Bool where
  call pkt := .code (if pkt.isIngoing then .conn pkt else .search pkt)
  step := FilterStep kind connectionTimeout dnatRules
  removeFromMaps entry connMap := connMap.erase (kind.ofTuple entry.extTuple)

variable {kind : FilterKind κ cmp} {connectionTimeout : UInt32} {dnatRules : DnatRules}
  {s s' : FilterSystem κ cmp} {e : ConnEvent} {i p : Nat} {c c' : FilterCode}

namespace FilterCode

theorem locked_of_creates (h : c.creates = some p) : CodePosition.locked c = true := by
  cases c with
  | made q | arming q | created q => rfl
  | conn pkt | inConn pkt | rules pkt | inRules pkt | search pkt | inSearch pkt | searched pkt ent
  | missing pkt | making pkt | leaving => cases h

/-- A call that waits for the mutex has no reference, nor has it when it got it. -/
theorem held_of_lock (h : c.lock = some c') :
    CodePosition.held c = 0 ∧ CodePosition.held c' = 0 ∧ c'.creates = none := by
  cases c with
  | conn pkt | rules pkt | search pkt | missing pkt =>
    obtain rfl := Option.some.inj h
    exact ⟨rfl, rfl, rfl⟩
  | inConn pkt | inRules pkt | inSearch pkt | searched pkt ent | making pkt | made q | arming q
  | created q | leaving => cases h

end FilterCode

namespace ConnSystem

theorem Sound.filterStep (hs : s.Sound) (ht : s.tasks[i]? = some (.code c))
    (h : FilterStep kind connectionTimeout dnatRules s i c s') : s'.Sound := by
  cases h with
  | lock _ c' hc hfree =>
    obtain ⟨hheld, hheld', -⟩ := FilterCode.held_of_lock hc
    refine hs.goes ht ?_ ?_ ?_
    exacts [hheld'.trans hheld.symm, nofun, fun _ => Or.inr hfree]
  | conn pkt =>
    split
    · refine hs.goes ht ?_ ?_ ?_
      exacts [rfl, nofun, nofun]
    · refine hs.goes ht ?_ ?_ ?_
      exacts [rfl, nofun, nofun]
  | rules pkt =>
    refine hs.goes ht ?_ ?_ ?_
    exacts [rfl, nofun, nofun]
  | searchFound pkt p hp =>
    refine hs.takes ht (lockCounted_eq_some.mp hp).2 ?_ ?_ ?_
    exacts [rfl, nofun, id]
  | searchNone pkt hp =>
    refine hs.goes ht ?_ ?_ ?_
    exacts [rfl, nofun, Or.inl]
  | found pkt p =>
    refine hs.goes ht ?_ ?_ ?_
    exacts [rfl, nofun, nofun]
  | missing pkt =>
    refine hs.goes ht ?_ ?_ ?_
    exacts [rfl, nofun, nofun]
  | make pkt =>
    refine hs.makes ht ?_ ?_ ?_ _ _
    exacts [rfl, nofun, id]
  | start p entry he =>
    refine hs.arms ht (Multiset.mem_singleton_self p) ?_ ?_ ?_ _
    exacts [rfl, nofun, id]
  | armed p =>
    refine hs.drops ht ?_ ⟨?_, ?_⟩ id
    exacts [rfl, nofun, fun _ => rfl]
  | scopeEnd p =>
    refine hs.drops ht ?_ ⟨?_, ?_⟩ id
    exacts [rfl, nofun, fun _ => rfl]
  | unlock =>
    refine hs.goes ht ?_ ?_ ?_
    exacts [rfl, nofun, nofun]

theorem filterOwner_call (kind : FilterKind κ cmp) (connectionTimeout : UInt32)
    (dnatRules : DnatRules) (pkt : Packet) :
    ((filterOwner kind connectionTimeout dnatRules).call pkt).refs = 0 ∧
      ((filterOwner kind connectionTimeout dnatRules).call pkt).locked = false ∧
      ∀ p b u, (filterOwner kind connectionTimeout dnatRules).call pkt ≠ .removing p b u := by
  rw [filterOwner]
  dsimp only
  split
  · exact ⟨rfl, rfl, nofun⟩
  · exact ⟨rfl, rfl, nofun⟩

theorem Sound.filter (hs : s.Sound)
    (h : Step (filterOwner kind connectionTimeout dnatRules) s e s') : s'.Sound :=
  hs.step (filterOwner_call _ _ _) (fun _ _ _ ht hstep => hs.filterStep ht hstep) h

/-! ### The maker of an entry is alone with it -/

/-- A call is in the section in which it made the entry at `p`, and has not dropped it. -/
def Creates (p : Nat) (t : ConnTask FilterCode Bool) : Prop :=
  ∃ c, t = .code c ∧ c.creates = some p

/-- To an entry that is in the making, the other references are those of handlers. -/
def Alone (tasks : List (ConnTask FilterCode Bool)) : Prop :=
  ∀ (i j p : Nat) (t u : ConnTask FilterCode Bool), tasks[i]? = some t → Creates p t →
    tasks[j]? = some u → j ≠ i → p ∈ u.refs → u.Handles p

variable {t t' : ConnTask FilterCode Bool} {tasks : List (ConnTask FilterCode Bool)}

theorem Creates.locked (h : Creates p t) : t.locked = true := by
  obtain ⟨c, rfl, hc⟩ := h
  exact FilterCode.locked_of_creates hc

theorem creates_cancel {q : Nat} : Creates p (t.cancel q) ↔ Creates p t := by
  cases t with
  | waiting r expiry =>
    rw [ConnTask.cancel]
    split <;> simp [Creates]
  | _ => rfl

/-- The task has no new references, and makes an entry only if it did before. -/
structure Keeps (t t' : ConnTask FilterCode Bool) : Prop where
  creates : ∀ p, Creates p t' → Creates p t
  refs : ∀ p ∈ t'.refs, p ∈ t.refs
  handles : ∀ p ∈ t'.refs, t.Handles p → t'.Handles p

/-- The task has no references, and is not in its owner's code. -/
theorem Keeps.of_refs (hcode : ∀ c, t' ≠ .code c) (hrefs : t'.refs = 0) : Keeps t t' := by
  constructor
  · rintro p ⟨c, hc, -⟩
    exact absurd hc (hcode c)
  · intro p hp
    rw [hrefs] at hp
    cases hp
  · intro p hp
    rw [hrefs] at hp
    cases hp

/-- A call goes on in its owner's code. -/
theorem Keeps.of_code (hcreates : c'.creates = none ∨ c'.creates = c.creates)
    (hheld : ∀ p ∈ CodePosition.held c', p ∈ CodePosition.held c) :
    Keeps (.code c) (.code c') := by
  constructor
  · rintro p ⟨_, hc, hp⟩
    obtain rfl := ConnTask.code.inj hc
    rcases hcreates with hnone | hsame
    · rw [hnone] at hp
      cases hp
    · exact ⟨c, rfl, hsame.symm.trans hp⟩
  · exact hheld
  · exact fun p _ hhandle => hhandle.elim

namespace Alone

theorem set (ha : Alone tasks) (ht : tasks[i]? = some t) (hk : Keeps t t') :
    Alone (tasks.set i t') := by
  intro j k p u v hu hcu hv hkj hp
  rcases getElem?_set_cases hu with ⟨hj, hut⟩ | ⟨hj, hu₁⟩
  · rw [hut] at hcu
    rcases getElem?_set_cases hv with ⟨hk, -⟩ | ⟨-, hv₁⟩
    · exact absurd (hk.trans hj.symm) hkj
    · exact ha i k p t v ht (hk.creates p hcu) hv₁ (hj ▸ hkj) hp
  · rcases getElem?_set_cases hv with ⟨-, hvt⟩ | ⟨-, hv₁⟩
    · rw [hvt] at hp ⊢
      exact hk.handles p hp (ha j i p u t hu₁ hcu ht (Ne.symm hj) (hk.refs p hp))
    · exact ha j k p u v hu₁ hcu hv₁ hkj hp

/-- A task with the mutex goes on: no other one is making an entry. -/
theorem set_of_locked (hx : Exclusive tasks) (ht : tasks[i]? = some t) (hl : t.locked = true)
    (hnew : ∀ p, Creates p t' → ∀ (j : Nat) (u : ConnTask FilterCode Bool),
      tasks[j]? = some u → p ∉ u.refs) : Alone (tasks.set i t') := by
  intro j k p u v hu hcu hv hkj hp
  rcases getElem?_set_cases hu with ⟨hj, hut⟩ | ⟨hj, hu₁⟩
  · rw [hut] at hcu
    rcases getElem?_set_cases hv with ⟨hk, -⟩ | ⟨-, hv₁⟩
    · exact absurd (hk.trans hj.symm) hkj
    · exact absurd hp (hnew p hcu k v hv₁)
  · exact absurd (hx j i u t hu₁ ht hcu.locked hl) hj

theorem map_cancel (ha : Alone tasks) (p : Nat) : Alone (tasks.map (.cancel p)) := by
  intro j k q u v hu hcu hv hkj hq
  rw [List.getElem?_map] at hu hv
  obtain ⟨u₁, hu₁, rfl⟩ := Option.map_eq_some_iff.mp hu
  obtain ⟨v₁, hv₁, rfl⟩ := Option.map_eq_some_iff.mp hv
  rw [ConnTask.refs_cancel] at hq
  rw [ConnTask.handles_cancel]
  exact ha j k q u₁ v₁ hu₁ (creates_cancel.mp hcu) hv₁ hkj hq

/-- One more task, which makes nothing and has no references but as a handler. -/
theorem append (ha : Alone tasks) (hcreates : ∀ p, ¬ Creates p t)
    (hhandles : ∀ p ∈ t.refs, t.Handles p) : Alone (tasks ++ [t]) := by
  intro j k p u v hu hcu hv hkj hp
  rw [List.getElem?_append] at hu hv
  split at hu
  · split at hv
    · exact ha j k p u v hu hcu hv hkj hp
    · obtain rfl := List.mem_singleton.mp (List.mem_of_getElem? hv)
      exact hhandles p hp
  · obtain rfl := List.mem_singleton.mp (List.mem_of_getElem? hu)
    exact absurd hcu (hcreates p)

/-- A task drops a reference, and may have to run the deleter first. -/
theorem drop (ha : Alone tasks) (ht : tasks[i]? = some t) (hk : Keeps t t')
    (hhandles : ∀ q ∈ t'.refs, ¬ t.Handles q) (last : Prop) [Decidable last] (p : Nat)
    (hasMutex : Bool) : Alone (tasks.set i (if last then .removing p hasMutex t' else t')) := by
  split
  · refine ha.set ht ⟨by simp [Creates], hk.refs, fun q hq hhandle => ?_⟩
    exact absurd hhandle (hhandles q hq)
  · exact ha.set ht hk

/-- A task arms a timer. -/
theorem arm (ha : Alone tasks) (ht : tasks[i]? = some t) (hk : Keeps t t') (p : Nat)
    (expiry : Int) : Alone ((tasks.map (.cancel p)).set i t' ++ [.waiting p expiry]) := by
  have hkeeps : Keeps (t.cancel p) t' := by
    constructor
    · exact fun q hq => creates_cancel.mpr (hk.creates q hq)
    · rw [ConnTask.refs_cancel]
      exact hk.refs
    · intro q hq hhandle
      rw [ConnTask.handles_cancel] at hhandle
      exact hk.handles q hq hhandle
  refine append ((ha.map_cancel p).set (getElem?_map_cancel ht p) hkeeps) (by simp [Creates]) ?_
  exact fun q hq => (Multiset.mem_singleton.mp hq).symm

theorem filterStep (ha : Alone s.tasks) (hs : s.Sound) (ht : s.tasks[i]? = some (.code c))
    (h : FilterStep kind connectionTimeout dnatRules s i c s') : Alone s'.tasks := by
  cases h with
  | lock _ c' hc hfree =>
    obtain ⟨-, hheld', hcreates⟩ := FilterCode.held_of_lock hc
    refine ha.set ht (.of_code (Or.inl hcreates) fun p hp => ?_)
    rw [hheld'] at hp
    cases hp
  | conn pkt =>
    split
    · exact ha.set ht (.of_refs (by simp) rfl)
    · exact ha.set ht (.of_code (Or.inl rfl) nofun)
  | rules pkt => exact ha.set ht (.of_refs (by simp) rfl)
  | searchFound pkt p hp =>
    refine set_of_locked hs.exclusive ht rfl ?_
    rintro q ⟨c, hc, hcreates⟩
    obtain rfl := ConnTask.code.inj hc
    cases hcreates
  | searchNone pkt hp => exact ha.set ht (.of_code (Or.inl rfl) nofun)
  | found pkt p => exact ha.set ht ⟨by simp [Creates], fun _ hq => hq, fun _ _ h => h.elim⟩
  | missing pkt => exact ha.set ht (.of_code (Or.inl rfl) nofun)
  | make pkt =>
    -- nobody has a reference to an entry that was not there
    refine set_of_locked hs.exclusive ht rfl ?_
    rintro p ⟨c, hc, hcreates⟩ j u hu hmem
    obtain rfl := ConnTask.code.inj hc
    obtain rfl := Option.some.inj hcreates
    exact hs.counts.next_not_mem (mem_refs hu hmem)
  | start p entry he =>
    have hk : Keeps (.code (.made p)) (.code (.arming p)) :=
      .of_code (Or.inr rfl) (by simp [CodePosition.held])
    exact ha.arm ht hk p _
  | armed p =>
    have hk : Keeps (.code (.arming p)) (.code (.created p)) :=
      .of_code (Or.inr rfl) (by simp [CodePosition.held])
    exact ha.drop ht hk (fun _ _ => id) _ p true
  | scopeEnd p =>
    have hk : Keeps (.code (.created p)) (.code .leaving) := .of_code (Or.inl rfl) nofun
    exact ha.drop ht hk nofun _ p true
  | unlock => exact ha.set ht (.of_refs (by simp) rfl)

/-- **One step of a filter.** -/
theorem step (ha : Alone s.tasks) (hs : s.Sound)
    (h : Step (filterOwner kind connectionTimeout dnatRules) s e s') : Alone s'.tasks := by
  cases h with
  | call pkt =>
    obtain ⟨hrefs, hlock, -⟩ := filterOwner_call kind connectionTimeout dnatRules pkt
    refine ha.append (fun p hcreates => ?_) fun p hp => ?_
    · rw [hcreates.locked] at hlock
      cases hlock
    · rw [hrefs] at hp
      cases hp
  | tick now hle => exact ha
  | code i c s' ht hstep => exact ha.filterStep hs ht hstep
  | stop i p r ht =>
    refine (ha.map_cancel p).set (getElem?_map_cancel ht p) ⟨by simp [Creates], ?_, ?_⟩
    · exact fun q hq => hq
    · exact fun q _ hhandle => hhandle
  | arm i p r entry ht he =>
    refine ha.arm ht ⟨by simp [Creates], by simp [ConnTask.refs], ?_⟩ p _
    exact fun q _ hhandle => hhandle
  | armed i p r ht =>
    refine ha.drop ht ⟨by simp [Creates], by simp [ConnTask.refs], ?_⟩ (fun _ _ => id) _ p false
    exact fun q _ hhandle => hhandle
  | ret i p r ht =>
    have hk : Keeps (.holding p r) (.returned r) := .of_refs (by simp) rfl
    exact ha.drop ht hk nofun _ p false
  | expire i p expiry ht hle =>
    refine ha.set ht ⟨by simp [Creates], ?_, ?_⟩
    · exact fun q hq => hq
    · exact fun q _ hhandle => hhandle
  | handler i p ht =>
    have hk : Keeps (.ready p) .done := .of_refs (by simp) rfl
    exact ha.drop ht hk nofun _ p false
  | remove i p next entry ht hfree he =>
    have hres := hs.deleters.resumes p false next (List.mem_of_getElem? ht)
    refine ha.set ht ⟨fun q hq => ?_, fun _ hq => hq, fun _ _ => False.elim⟩
    exact absurd (hres.locked hq.locked) Bool.false_ne_true

end Alone

/-! ### The end of the section -/

/-- When a call ends the section in which it made an entry, then a handler of the entry's
timer is still there. -/
def EntryHandled (s : FilterSystem κ cmp) (e : ConnEvent) : Prop :=
  ∀ i p, e = .goes i → s.tasks[i]? = some (.code (.created p)) → ∃ t ∈ s.tasks, t.Handles p

/-- Elsewhere nothing is asked. -/
theorem entryHandled_of_code (ht : s.tasks[i]? = some (.code c)) (hc : ∀ p, c ≠ .created p) :
    EntryHandled s (.goes i) := by
  intro j p he hcreated
  obtain rfl := ConnEvent.goes.inj he
  rw [ht] at hcreated
  exact absurd (ConnTask.code.inj (Option.some.inj hcreated)) (hc p)

theorem mem_refs_of_handles (h : t.Handles p) : p ∈ t.refs := by
  cases t with
  | waiting q expiry =>
    obtain rfl : q = p := h
    exact Multiset.mem_singleton_self q
  | ready q =>
    obtain rfl : q = p := h
    exact Multiset.mem_singleton_self q
  | _ => exact h.elim

/-- At the end of the section, the references that are left are those of handlers. -/
theorem mem_refs_scopeEnd (ha : Alone s.tasks) (ht : s.tasks[i]? = some (.code (.created p))) :
    p ∈ (s.goes i (.code .leaving)).refs ↔ ∃ t ∈ s.tasks, t.Handles p := by
  constructor
  · intro hp
    obtain ⟨j, u, hu, hpu⟩ := mem_holdings.mp hp
    rcases getElem?_set_cases hu with ⟨-, rfl⟩ | ⟨hj, hu₁⟩
    · cases hpu
    · exact ⟨u, List.mem_of_getElem? hu₁, ha i j p _ u ht ⟨_, rfl, rfl⟩ hu₁ hj hpu⟩
  · rintro ⟨u, hu, hhandle⟩
    obtain ⟨j, hj⟩ := List.mem_iff_getElem?.mp hu
    refine mem_holdings.mpr ⟨j, u, ?_, mem_refs_of_handles hhandle⟩
    rw [goes, List.getElem?_set_ne, hj]
    rintro rfl
    rw [ht] at hj
    obtain rfl := Option.some.inj hj
    exact hhandle

/-- **The end of the section** is where a call may wait for itself. -/
theorem scopeEnd_iff (hs : s.Sound) (ha : Alone s.tasks) (hgood : ¬ s.SelfLocked)
    (ht : s.tasks[i]? = some (.code (.created p))) :
    ¬ (s.drops i p true (.code .leaving)).SelfLocked ↔ ∃ t ∈ s.tasks, t.Handles p := by
  have hlast : s.entries.useCount p = 1 ↔ p ∉ (s.goes i (.code .leaving)).refs := hs.last_iff ht rfl
  rw [mem_refs_scopeEnd ha ht] at hlast
  constructor
  · intro hnot
    by_contra hnone
    refine hnot ⟨p, .code .leaving, ?_⟩
    rw [drops, if_pos (hlast.mpr hnone)]
    exact List.mem_set (List.getElem?_eq_some_iff.mp ht).1 _
  · intro hhandled
    exact not_selfLocked_drops hgood (by simp) i fun hone => absurd hhandled (hlast.mp hone)

/-- Nowhere else in `filterPacket` does a call wait for itself. -/
theorem not_selfLocked_filterStep (hs : s.Sound) (hgood : ¬ s.SelfLocked)
    (ht : s.tasks[i]? = some (.code c)) (hne : ∀ p, c ≠ .created p)
    (h : FilterStep kind connectionTimeout dnatRules s i c s') : ¬ s'.SelfLocked := by
  cases h with
  | lock _ c' hc hfree => exact not_selfLocked_goes hgood (by simp) i
  | conn pkt =>
    split
    · exact not_selfLocked_goes hgood (by simp) i
    · exact not_selfLocked_goes hgood (by simp) i
  | searchFound pkt p hp =>
    exact not_selfLocked_goes (s := { s with entries := s.entries.acquire p }) hgood (by simp) i
  | rules pkt | searchNone pkt hp | found pkt p | missing pkt | unlock =>
    exact not_selfLocked_goes hgood (by simp) i
  | make pkt =>
    exact not_selfLocked_goes (s := { s with
      maps := s.maps.insert (ConnFilter.extTup kind pkt) s.entries.next
      entries := s.entries.alloc ⟨kind.entry connectionTimeout pkt, 1⟩ }) hgood (by simp) i
  | start p entry he => exact not_selfLocked_arms hgood (by simp) i p _
  | armed p =>
    -- `self` goes, but the caller of `armTimer` has its own reference
    have hlast : s.entries.useCount p = 1 ↔ p ∉ (s.goes i (.code (.created p))).refs :=
      hs.last_iff ht rfl
    refine not_selfLocked_drops hgood (by simp) i fun hone => absurd ?_ (hlast.mp hone)
    exact mem_refs_goes ht (Multiset.mem_singleton_self p)
  | scopeEnd p => exact absurd rfl (hne p)

/-- **What a step does.** -/
theorem not_selfLocked_iff (hs : s.Sound) (ha : Alone s.tasks) (hgood : ¬ s.SelfLocked)
    (h : Step (filterOwner kind connectionTimeout dnatRules) s e s') :
    ¬ s'.SelfLocked ↔ EntryHandled s e := by
  by_cases hend : ∃ i p, e = .goes i ∧ s.tasks[i]? = some (.code (.created p))
  · obtain ⟨i, p, rfl, ht⟩ := hend
    cases h with
    | code _ c s' ht' hstep =>
      rw [ht] at ht'
      obtain rfl := ConnTask.code.inj (Option.some.inj ht')
      cases hstep with
      | lock _ c' hc hfree => cases hc
      | scopeEnd =>
        rw [scopeEnd_iff hs ha hgood ht]
        constructor
        · intro hhandled j q he hj
          obtain rfl := ConnEvent.goes.inj he
          rw [ht] at hj
          cases hj
          exact hhandled
        · exact fun hhandled => hhandled i p rfl ht
    | stop _ q r ht' | arm _ q r entry ht' he | armed _ q r ht' | ret _ q r ht'
    | expire _ q expiry ht' hle | handler _ q ht' | remove _ q next entry ht' hfree he =>
      rw [ht] at ht'
      cases ht'
  · refine iff_of_true ?_ fun i p he ht => absurd ⟨i, p, he, ht⟩ hend
    refine not_selfLocked_step hs hgood (fun pkt p => (filterOwner_call _ _ _ pkt).2.2 p true) ?_ h
    intro i c he ht hstep
    refine not_selfLocked_filterStep hs hgood ht ?_ hstep
    rintro p rfl
    exact hend ⟨i, p, he, ht⟩

/-- **A call that waits for itself hangs for good**, and with it every call that needs the
mutex. -/
theorem SelfLocked.filter (hs : s.SelfLocked)
    (h : Step (filterOwner kind connectionTimeout dnatRules) s e s') : s'.SelfLocked := by
  refine hs.step (fun i c s' ht hstep => ?_) h
  cases hstep with
  | lock _ c' hc hfree => exact absurd hfree hs.not_free
  | start p entry he => exact hs.arms ht (by simp [ConnTask.cancel]) p _ _
  | conn pkt | rules pkt | searchFound pkt p hp | searchNone pkt hp | found pkt p | missing pkt
  | make pkt | armed p | scopeEnd p | unlock => exact hs.goes ht (by simp) _

/-- **The runs without a call that waits for itself**, of either filter. -/
theorem filter_runs_iff {h : List ConnEvent} :
    Run (Within (Step (filterOwner kind connectionTimeout dnatRules)) (¬ ·.SelfLocked))
        (· = { maps := ∅ }) h s ↔
      Run (Guarded (Step (filterOwner kind connectionTimeout dnatRules)) EntryHandled)
        (· = { maps := ∅ }) h s := by
  refine Run.within_iff_guarded (I := fun _ s => s.Sound ∧ Alone s.tasks) ?_ ?_ ?_
  · intro h s run
    refine run.invariant (I := fun _ s => s.Sound ∧ Alone s.tasks) ?_ ?_
    · rintro s rfl
      exact ⟨Sound.new _, fun _ _ _ _ _ ht => by cases ht⟩
    · rintro h s e s' - ⟨hs, ha⟩ hstep
      exact ⟨hs.filter hstep, ha.step hs hstep⟩
  · rintro s rfl ⟨p, next, hmem⟩
    cases hmem
  · rintro h s e s' ⟨hs, ha⟩ hgood hstep
    exact not_selfLocked_iff hs ha hgood hstep

end ConnSystem
end Filters
end ShapingRouter
