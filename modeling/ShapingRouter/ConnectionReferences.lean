import Mathlib
import ShapingRouter.Library.Holdings
import ShapingRouter.Library.ReferenceCounts
import ShapingRouter.Library.Run
import ShapingRouter.NatMapper

/-! # The references to a connection entry

An entry is kept by counted references: the local ones of the calls that are at work on it,
and one in each handler that was given to its timer.  Whoever drops the last one runs the
deleter, which takes the mutex of the owner of the entry.

A system is one such owner with its entries and with all that goes on at the same time,
its tasks: calls of the owner, in any number; handlers, which wait for a timer or are ready
to run; deleters.  A step is taken by one task (`ConnSystem.Step`), and the mutex is with
the task that is inside of a locked section.  What an owner's own code does between two
steps is given by `ConnOwner`; rearming an entry and letting go of it is the same in all.

Every entry counts the references that the tasks hold, those without references are in one
deleter, and at most one task has the mutex (`ConnSystem.Sound`).
-/

namespace ShapingRouter
open Library Std

/-- The members of `ConnectionEntry`, but the timer: what it waits for are tasks. -/
structure EntryMembers where
  timeout : Int
  extTuple : ConnectionTuple
  intTuple : ConnectionTuple
  deriving DecidableEq, Repr

/-- `new ConnectionEntry`: the timeout of the owner is converted to an `int`. -/
def EntryMembers.new (connectionTimeout : UInt32) (extTuple intTuple : ConnectionTuple) :
    EntryMembers := ⟨ConnectionEntry.timeout connectionTimeout, extTuple, intTuple⟩

/-- What the code of an owner says about a place in it: whether a call has the mutex there,
and which local references it has. -/
class CodePosition (C : Type) where
  locked : C → Bool
  held : C → Multiset Nat

/-- A task.  A call is in the code of the owner; or it has locked an entry and rearms it,
being before `stop`, before `armTimer` and at its end; or it returns, dropping its
reference.  A handler waits for a timer or is ready to run.  A task in the deleter is in
`removeFromMaps`; it says whether it had the mutex before, and how it goes on afterwards. -/
inductive ConnTask (C ρ : Type)
  | code (c : C)
  | found (p : Nat) (r : ρ)
  | stopped (p : Nat) (r : ρ)
  | armed (p : Nat) (r : ρ)
  | holding (p : Nat) (r : ρ)
  | returned (r : ρ)
  | waiting (p : Nat) (expiry : Int)
  | ready (p : Nat)
  | removing (p : Nat) (hadMutex : Bool) (next : ConnTask C ρ)
  | done
  deriving DecidableEq, Repr

namespace ConnTask
variable {C ρ : Type}

/-- The task has the mutex. -/
def locked [CodePosition C] : ConnTask C ρ → Bool
  | code c => CodePosition.locked c
  | removing _ hadMutex _ => hadMutex
  | found _ _ | stopped _ _ | armed _ _ | holding _ _ | returned _ | waiting _ _ | ready _ | done =>
    false

/-- The references that the task holds.  At the end of `armTimer` they are that of the
caller, and `self`. -/
def refs [CodePosition C] : ConnTask C ρ → Multiset Nat
  | code c => CodePosition.held c
  | armed p _ => {p, p}
  | found p _ | stopped p _ | holding p _ | waiting p _ | ready p => {p}
  | removing _ _ next => next.refs
  | returned _ | done => 0

/-- The task is a handler of the timer of the entry at `p`. -/
def Handles (p : Nat) : ConnTask C ρ → Prop
  | waiting q _ | ready q => q = p
  | code _ | found _ _ | stopped _ _ | armed _ _ | holding _ _ | returned _ | removing _ _ _
  | done => False

/-- The task is in the deleter of the entry at `p`. -/
def Removes (p : Nat) (t : ConnTask C ρ) : Prop := ∃ hadMutex next, t = removing p hadMutex next

/-- `cancel`, on the timer of the entry at `p`: what waits for it becomes ready. -/
def cancel (p : Nat) : ConnTask C ρ → ConnTask C ρ
  | waiting q expiry => if q = p then ready q else waiting q expiry
  | t => t

variable [CodePosition C] (p : Nat) (t : ConnTask C ρ)

@[simp] theorem locked_cancel : (t.cancel p).locked = t.locked := by
  cases t with
  | waiting q expiry =>
    rw [cancel]
    split <;> rfl
  | _ => rfl

@[simp] theorem refs_cancel : (t.cancel p).refs = t.refs := by
  cases t with
  | waiting q expiry =>
    rw [cancel]
    split <;> rfl
  | _ => rfl

omit [CodePosition C] in
@[simp] theorem handles_cancel (q : Nat) : (t.cancel p).Handles q ↔ t.Handles q := by
  cases t with
  | waiting q expiry =>
    rw [cancel]
    split <;> rfl
  | _ => rfl

end ConnTask

/-- An owner with its maps, the entries, and what goes on.  The clock counts nanoseconds. -/
structure ConnSystem (M C ρ : Type) where
  maps : M
  entries : Heap (Counted EntryMembers) := .empty
  tasks : List (ConnTask C ρ) := []
  now : Int := 0

namespace ConnSystem
variable {M C ρ : Type}

/-- The task with number `i` goes on. -/
def goes (s : ConnSystem M C ρ) (i : Nat) (t : ConnTask C ρ) : ConnSystem M C ρ :=
  { s with tasks := s.tasks.set i t }

/-- It locks a weak reference. -/
def takes (s : ConnSystem M C ρ) (i p : Nat) (t : ConnTask C ρ) : ConnSystem M C ρ :=
  { s with entries := s.entries.acquire p }.goes i t

/-- It drops a reference.  If that was the last one, it runs the deleter before it goes
on. -/
def drops (s : ConnSystem M C ρ) (i p : Nat) (hasMutex : Bool) (t : ConnTask C ρ) :
    ConnSystem M C ρ :=
  { s with entries := s.entries.unref p }.goes i
    (if s.entries.useCount p = 1 then .removing p hasMutex t else t)

/-- `stop`. -/
def stops (s : ConnSystem M C ρ) (i p : Nat) (t : ConnTask C ρ) : ConnSystem M C ρ :=
  { s with tasks := s.tasks.map (.cancel p) }.goes i t

/-- `armTimer`, but for its end: setting the expiry cancels the timer, `self` is a new
reference, and the handler has a copy of it. -/
def arms (s : ConnSystem M C ρ) (i p : Nat) (timeout : Int) (t : ConnTask C ρ) :
    ConnSystem M C ρ :=
  { s with
    entries := (s.entries.acquire p).acquire p
    tasks := (s.tasks.map (.cancel p)).set i t ++ [.waiting p (s.now + timeout * 10 ^ 9)] }

/-- It makes an entry, and links it in the maps. -/
def makes (s : ConnSystem M C ρ) (i : Nat) (entry : EntryMembers) (maps : M) (t : ConnTask C ρ) :
    ConnSystem M C ρ :=
  { s with maps := maps, entries := s.entries.alloc ⟨entry, 1⟩ }.goes i t

/-- Nobody has the mutex. -/
def Free [CodePosition C] (s : ConnSystem M C ρ) : Prop := ∀ t ∈ s.tasks, t.locked = false

end ConnSystem

/-- An owner of entries: how a call begins, what its code does at a place, and
`removeFromMaps`. -/
structure ConnOwner (M C ρ : Type) where
  call : Packet → ConnTask C ρ
  step : ConnSystem M C ρ → Nat → C → ConnSystem M C ρ → Prop
  removeFromMaps : EntryMembers → M → M

/-- A call begins, time passes, or a task goes on. -/
inductive ConnEvent
  | call (pkt : Packet)
  | tick (now : Int)
  | goes (i : Nat)
  deriving DecidableEq

namespace ConnSystem
variable {M C ρ : Type} [CodePosition C]

/-- One step. -/
inductive Step (owner : ConnOwner M C ρ) (s : ConnSystem M C ρ) :
    ConnEvent → ConnSystem M C ρ → Prop
  | call (pkt : Packet) : Step owner s (.call pkt) { s with tasks := s.tasks ++ [owner.call pkt] }
  | tick (now : Int) : s.now ≤ now → Step owner s (.tick now) { s with now := now }
  | code (i : Nat) (c : C) (s' : ConnSystem M C ρ) : s.tasks[i]? = some (.code c) →
      owner.step s i c s' → Step owner s (.goes i) s'
  | stop (i p : Nat) (r : ρ) : s.tasks[i]? = some (.found p r) →
      Step owner s (.goes i) (s.stops i p (.stopped p r))
  | arm (i p : Nat) (r : ρ) (entry : Counted EntryMembers) : s.tasks[i]? = some (.stopped p r) →
      s.entries.objects p = some entry →
      Step owner s (.goes i) (s.arms i p entry.val.timeout (.armed p r))
  | armed (i p : Nat) (r : ρ) : s.tasks[i]? = some (.armed p r) →
      Step owner s (.goes i) (s.drops i p false (.holding p r))
  | ret (i p : Nat) (r : ρ) : s.tasks[i]? = some (.holding p r) →
      Step owner s (.goes i) (s.drops i p false (.returned r))
  | expire (i p : Nat) (expiry : Int) : s.tasks[i]? = some (.waiting p expiry) → expiry ≤ s.now →
      Step owner s (.goes i) (s.goes i (.ready p))
  | handler (i p : Nat) : s.tasks[i]? = some (.ready p) →
      Step owner s (.goes i) (s.drops i p false .done)
  | remove (i p : Nat) (next : ConnTask C ρ) (entry : Counted EntryMembers) :
      s.tasks[i]? = some (.removing p false next) → s.Free → s.entries.objects p = some entry →
      Step owner s (.goes i)
        ({ s with
            maps := owner.removeFromMaps entry.val s.maps
            entries := s.entries.free p }.goes i next)

/-- The runs of an owner that is new, with the maps `maps`. -/
abbrev Runs (owner : ConnOwner M C ρ) (maps : M) : List ConnEvent → ConnSystem M C ρ → Prop :=
  Run (Step owner) (· = { maps := maps })

/-- The references that the tasks hold. -/
def refs (s : ConnSystem M C ρ) : Multiset Nat := holdings ConnTask.refs s.tasks

/-- A task runs `removeFromMaps` and already holds the mutex: it waits for itself. -/
def SelfLocked (s : ConnSystem M C ρ) : Prop := ∃ p next, .removing p true next ∈ s.tasks

/-! ## The entries count their references -/

omit [CodePosition C] in
/-- At most one task is so. -/
def AtMostOne (P : ConnTask C ρ → Prop) (tasks : List (ConnTask C ρ)) : Prop :=
  ∀ (i j : Nat) (t t' : ConnTask C ρ), tasks[i]? = some t → tasks[j]? = some t' → P t → P t' →
    i = j

/-- At most one task has the mutex. -/
def Exclusive : List (ConnTask C ρ) → Prop := AtMostOne (·.locked = true)

/-- A task may be in the deleter, and go on as `next` afterwards: not into another deleter, nor
with a mutex that it had not. -/
structure Resumes (hadMutex : Bool) (next : ConnTask C ρ) : Prop where
  notRemoving : ∀ p b u, next ≠ .removing p b u
  locked : next.locked = true → hadMutex = true

/-- An entry whose deleter runs has no reference left but is there, and in one deleter only. -/
structure Deleters (entries : Heap (Counted EntryMembers)) (tasks : List (ConnTask C ρ)) :
    Prop where
  gone : ∀ p b next, .removing p b next ∈ tasks → entries.Abandoned p
  resumes : ∀ p b next, .removing p b next ∈ tasks → Resumes b next
  once : ∀ p, AtMostOne (·.Removes p) tasks

/-- Every entry counts the references that the tasks hold, those that have none are deleted by
one task, and the mutex excludes. -/
structure Sound (s : ConnSystem M C ρ) : Prop where
  counts : CountsRefs s.entries s.refs
  deleters : Deleters s.entries s.tasks
  exclusive : Exclusive s.tasks

variable {s s' : ConnSystem M C ρ} {e : ConnEvent} {i p : Nat} {t t' : ConnTask C ρ}

theorem refs_goes (ht : s.tasks[i]? = some t) (t' : ConnTask C ρ) :
    (s.goes i t').refs + t.refs = s.refs + t'.refs := holdings_set _ ht t'

theorem refs_goes_of_eq (ht : s.tasks[i]? = some t) (hrefs : t'.refs = t.refs) :
    (s.goes i t').refs = s.refs := by
  have hset := refs_goes ht t'
  rw [hrefs] at hset
  exact add_right_cancel hset

theorem refs_goes_cons (ht : s.tasks[i]? = some t) (hrefs : t'.refs = p ::ₘ t.refs) :
    (s.goes i t').refs = p ::ₘ s.refs := by
  have hset := refs_goes ht t'
  rw [hrefs, Multiset.add_cons, ← Multiset.cons_add] at hset
  exact add_right_cancel hset

theorem refs_goes_drop (ht : s.tasks[i]? = some t) (hrefs : t.refs = p ::ₘ t'.refs) :
    s.refs = p ::ₘ (s.goes i t').refs := by
  have hset := refs_goes ht t'
  rw [hrefs, Multiset.add_cons, ← Multiset.cons_add] at hset
  exact (add_right_cancel hset).symm

theorem holdings_map_cancel (p : Nat) (tasks : List (ConnTask C ρ)) :
    holdings ConnTask.refs (tasks.map (.cancel p)) = holdings ConnTask.refs tasks := by
  rw [holdings, holdings, List.map_map]
  exact congrArg List.sum (List.map_congr_left fun t _ => t.refs_cancel p)

theorem mem_refs (ht : s.tasks[i]? = some t) (hp : p ∈ t.refs) : p ∈ s.refs :=
  mem_holdings.mpr ⟨i, t, ht, hp⟩

/-- The references that a task has after it went on are held. -/
theorem mem_refs_goes (ht : s.tasks[i]? = some t) {q : Nat} (hq : q ∈ t'.refs) :
    q ∈ (s.goes i t').refs :=
  mem_holdings.mpr ⟨i, t', List.getElem?_set_self (List.getElem?_eq_some_iff.mp ht).1, hq⟩

omit [CodePosition C] in
/-- A task that goes on does not thereby run a deleter. -/
theorem removing_of_set {tasks : List (ConnTask C ρ)} {b : Bool} {next : ConnTask C ρ}
    (ht' : t' ≠ .removing p b next) (hmem : .removing p b next ∈ tasks.set i t') :
    .removing p b next ∈ tasks := by
  rcases List.mem_or_eq_of_mem_set hmem with hmem | heq
  · exact hmem
  · exact absurd heq.symm ht'

omit [CodePosition C] in
theorem cancel_eq_removing {q : Nat} {b : Bool} {next : ConnTask C ρ} :
    t.cancel q = .removing p b next ↔ t = .removing p b next := by
  cases t with
  | waiting q' expiry =>
    rw [ConnTask.cancel]
    split <;> simp
  | _ => rfl

omit [CodePosition C] in
theorem removing_of_map {q : Nat} {b : Bool} {next : ConnTask C ρ} {tasks : List (ConnTask C ρ)}
    (hmem : .removing p b next ∈ tasks.map (ConnTask.cancel q)) : .removing p b next ∈ tasks := by
  obtain ⟨t, ht, heq⟩ := List.mem_map.mp hmem
  rw [← cancel_eq_removing.mp heq]
  exact ht

omit [CodePosition C] in
theorem removing_of_append {b : Bool} {next : ConnTask C ρ} {tasks : List (ConnTask C ρ)}
    (ht : t ≠ .removing p b next) (hmem : .removing p b next ∈ tasks ++ [t]) :
    .removing p b next ∈ tasks := by
  rcases List.mem_append.mp hmem with hmem | hmem
  · exact hmem
  · exact absurd (List.mem_singleton.mp hmem).symm ht

omit [CodePosition C] in
/-- What stands in the list after one task went on. -/
theorem getElem?_set_cases {tasks : List (ConnTask C ρ)} {j : Nat} {u : ConnTask C ρ}
    (hj : (tasks.set i t')[j]? = some u) : (j = i ∧ u = t') ∨ (j ≠ i ∧ tasks[j]? = some u) := by
  by_cases hji : j = i
  · subst hji
    left
    have hlt : j < tasks.length := by simpa using (List.getElem?_eq_some_iff.mp hj).1
    rw [List.getElem?_set_self hlt] at hj
    exact ⟨rfl, (Option.some.inj hj).symm⟩
  · right
    rw [List.getElem?_set_ne (Ne.symm hji)] at hj
    exact ⟨hji, hj⟩

omit [CodePosition C] in
theorem getElem?_map_cancel {tasks : List (ConnTask C ρ)} (ht : tasks[i]? = some t) (p : Nat) :
    (tasks.map (.cancel p))[i]? = some (t.cancel p) := by
  rw [List.getElem?_map, ht]
  rfl

namespace AtMostOne
variable {P : ConnTask C ρ → Prop} {tasks : List (ConnTask C ρ)}

omit [CodePosition C]

/-- A task goes on: it is so only if it was before, or nobody was. -/
theorem set (hx : AtMostOne P tasks) (ht : tasks[i]? = some t)
    (hP : P t' → P t ∨ ∀ u ∈ tasks, ¬ P u) : AtMostOne P (tasks.set i t') := by
  have hother : ∀ j u, tasks[j]? = some u → P u → P t' → j = i := by
    intro j u hu hPu hPt'
    rcases hP hPt' with hPt | hnone
    · exact hx j i u t hu ht hPu hPt
    · exact absurd hPu (hnone u (List.mem_of_getElem? hu))
  intro j k u v hu hv hPu hPv
  rcases getElem?_set_cases hu with ⟨hj, hut⟩ | ⟨hj, hu₁⟩
  · rw [hut] at hPu
    rcases getElem?_set_cases hv with ⟨hk, -⟩ | ⟨hk, hv₁⟩
    · exact hj.trans hk.symm
    · exact absurd (hother k v hv₁ hPv hPu) hk
  · rcases getElem?_set_cases hv with ⟨hk, hvt⟩ | ⟨hk, hv₁⟩
    · rw [hvt] at hPv
      exact absurd (hother j u hu₁ hPu hPv) hj
    · exact hx j k u v hu₁ hv₁ hPu hPv

theorem map_cancel (hx : AtMostOne P tasks) (p : Nat) (hP : ∀ t, P (t.cancel p) → P t) :
    AtMostOne P (tasks.map (.cancel p)) := by
  intro i j t t' ht ht' hPt hPt'
  rw [List.getElem?_map] at ht ht'
  obtain ⟨u, hu, rfl⟩ := Option.map_eq_some_iff.mp ht
  obtain ⟨u', hu', rfl⟩ := Option.map_eq_some_iff.mp ht'
  exact hx i j u u' hu hu' (hP u hPt) (hP u' hPt')

/-- One more task, which is not so. -/
theorem append (hx : AtMostOne P tasks) (ht : ¬ P t) : AtMostOne P (tasks ++ [t]) := by
  have hold : ∀ (j : Nat) (u : ConnTask C ρ), (tasks ++ [t])[j]? = some u → P u →
      tasks[j]? = some u := by
    intro j u hu hPu
    rw [List.getElem?_append] at hu
    split at hu
    · exact hu
    · obtain rfl := List.mem_singleton.mp (List.mem_of_getElem? hu)
      exact absurd hPu ht
  intro i j u v hu hv hPu hPv
  exact hx i j u v (hold i u hu hPu) (hold j v hv hPv) hPu hPv

end AtMostOne

namespace Exclusive
variable {tasks : List (ConnTask C ρ)}

/-- A task goes on: it has the mutex only if it had it before, or nobody had. -/
theorem set (hx : Exclusive tasks) (ht : tasks[i]? = some t)
    (hlock : t'.locked = true → t.locked = true ∨ ∀ u ∈ tasks, u.locked = false) :
    Exclusive (tasks.set i t') :=
  AtMostOne.set hx ht fun hl => (hlock hl).imp_right fun hfree u hu => by simp [hfree u hu]

theorem map_cancel (hx : Exclusive tasks) (p : Nat) : Exclusive (tasks.map (.cancel p)) :=
  AtMostOne.map_cancel hx p fun t ht => by rwa [ConnTask.locked_cancel] at ht

/-- One more task, without the mutex. -/
theorem append (hx : Exclusive tasks) (ht : t.locked = false) : Exclusive (tasks ++ [t]) :=
  AtMostOne.append hx (by simp [ht])

end Exclusive

namespace Deleters
variable {entries entries' : Heap (Counted EntryMembers)} {tasks : List (ConnTask C ρ)}

/-- A task goes on, and not into a deleter. -/
theorem set (hd : Deleters entries tasks) (ht : tasks[i]? = some t)
    (ht' : ∀ p b u, t' ≠ .removing p b u) : Deleters entries (tasks.set i t') where
  gone p b next hmem := hd.gone p b next (removing_of_set (ht' p b next) hmem)
  resumes p b next hmem := hd.resumes p b next (removing_of_set (ht' p b next) hmem)
  once p := (hd.once p).set ht fun ⟨b, u, heq⟩ => absurd heq (ht' p b u)

theorem map_cancel (hd : Deleters entries tasks) (p : Nat) :
    Deleters entries (tasks.map (.cancel p)) where
  gone q b next hmem := hd.gone q b next (removing_of_map hmem)
  resumes q b next hmem := hd.resumes q b next (removing_of_map hmem)
  once q := (hd.once q).map_cancel p fun _ ⟨b, u, heq⟩ => ⟨b, u, cancel_eq_removing.mp heq⟩

theorem append (hd : Deleters entries tasks) (ht : ∀ p b u, t ≠ .removing p b u) :
    Deleters entries (tasks ++ [t]) where
  gone p b next hmem := hd.gone p b next (removing_of_append (ht p b next) hmem)
  resumes p b next hmem := hd.resumes p b next (removing_of_append (ht p b next) hmem)
  once p := (hd.once p).append fun ⟨b, u, heq⟩ => ht p b u heq

/-- Other entries come and go. -/
theorem keep (hd : Deleters entries tasks)
    (hkeep : ∀ p, entries.Abandoned p → entries'.Abandoned p) : Deleters entries' tasks where
  gone p b next hmem := hkeep p (hd.gone p b next hmem)
  resumes := hd.resumes
  once := hd.once

/-- **The last reference goes**, and the task runs the deleter. -/
theorem last (hd : Deleters entries tasks) (ht : tasks[i]? = some t)
    (hlast : entries.useCount p = 1) {hasMutex : Bool} (hres : Resumes hasMutex t') :
    Deleters (entries.unref p) (tasks.set i (.removing p hasMutex t')) where
  gone q b next hmem := by
    rcases List.mem_or_eq_of_mem_set hmem with hmem | heq
    · exact (hd.gone q b next hmem).unref p
    · obtain ⟨rfl, -, -⟩ := ConnTask.removing.inj heq
      exact Heap.abandoned_unref hlast
  resumes q b next hmem := by
    rcases List.mem_or_eq_of_mem_set hmem with hmem | heq
    · exact hd.resumes q b next hmem
    · obtain ⟨-, rfl, rfl⟩ := ConnTask.removing.inj heq
      exact hres
  once q := by
    -- the entry had a reference, so that it was in no deleter
    refine (hd.once q).set ht ?_
    rintro ⟨b, u, heq⟩
    obtain ⟨rfl, -, -⟩ := ConnTask.removing.inj heq
    refine Or.inr ?_
    rintro _ hmem ⟨b', u', rfl⟩
    have hzero := (hd.gone p b' u' hmem).1
    rw [hlast] at hzero
    cases hzero

/-- The deleter has run. -/
theorem removes (hd : Deleters entries tasks) {hadMutex : Bool}
    (ht : tasks[i]? = some (.removing p hadMutex t')) :
    Deleters (entries.free p) (tasks.set i t') := by
  have hres := hd.resumes p hadMutex t' (List.mem_of_getElem? ht)
  have hset := hd.set ht hres.notRemoving
  refine ⟨fun q b next hmem => (hset.gone q b next hmem).free ?_, hset.resumes, hset.once⟩
  rintro rfl
  obtain ⟨j, hj⟩ := List.mem_iff_getElem?.mp hmem
  rcases getElem?_set_cases hj with ⟨-, heq⟩ | ⟨hji, hj⟩
  · exact hres.notRemoving q b next heq.symm
  · exact hji (hd.once q j i _ _ hj ht ⟨b, next, rfl⟩ ⟨hadMutex, t', rfl⟩)

end Deleters

theorem Sound.new (maps : M) : ({ maps := maps } : ConnSystem M C ρ).Sound where
  counts := CountsRefs.empty
  deleters := ⟨nofun, nofun, fun _ _ _ _ _ ht => by cases ht⟩
  exclusive := fun _ _ _ _ ht => by cases ht

/-- The maps have no references that count. -/
theorem Sound.withMaps (hs : s.Sound) (maps : M) : Sound { s with maps := maps } :=
  ⟨hs.counts, hs.deleters, hs.exclusive⟩

theorem Sound.begins (hs : s.Sound) (hrefs : t.refs = 0) (ht : ∀ p b u, t ≠ .removing p b u)
    (hlock : t.locked = false) : Sound { s with tasks := s.tasks ++ [t] } where
  exclusive := hs.exclusive.append hlock
  counts := by
    have htasks : holdings ConnTask.refs (s.tasks ++ [t]) = s.refs := by
      rw [holdings_append, holdings_cons, hrefs, holdings_nil, add_zero, add_zero]
      rfl
    show CountsRefs s.entries (holdings ConnTask.refs (s.tasks ++ [t]))
    rw [htasks]
    exact hs.counts
  deleters := hs.deleters.append ht

theorem Sound.goes (hs : s.Sound) (ht : s.tasks[i]? = some t) (hrefs : t'.refs = t.refs)
    (ht' : ∀ p b u, t' ≠ .removing p b u) (hlock : t'.locked = true → t.locked = true ∨ s.Free) :
    (s.goes i t').Sound where
  exclusive := hs.exclusive.set ht hlock
  counts := by
    rw [refs_goes_of_eq ht hrefs]
    exact hs.counts
  deleters := hs.deleters.set ht ht'

/-- What waits for a timer becomes ready. -/
theorem Sound.cancels (hs : s.Sound) (p : Nat) :
    Sound { s with tasks := s.tasks.map (.cancel p) } where
  counts := by
    show CountsRefs s.entries (holdings ConnTask.refs (s.tasks.map (.cancel p)))
    rw [holdings_map_cancel]
    exact hs.counts
  deleters := hs.deleters.map_cancel p
  exclusive := hs.exclusive.map_cancel p

theorem Sound.stops (hs : s.Sound) (ht : s.tasks[i]? = some t) (hrefs : t'.refs = t.refs)
    (ht' : ∀ p b u, t' ≠ .removing p b u) (hlock : t'.locked = true → t.locked = true) (p : Nat) :
    (s.stops i p t').Sound := by
  refine (hs.cancels p).goes (getElem?_map_cancel ht p) ?_ ht' fun hl => Or.inl ?_
  · rw [ConnTask.refs_cancel]
    exact hrefs
  · rw [ConnTask.locked_cancel]
    exact hlock hl

theorem Sound.takes (hs : s.Sound) (ht : s.tasks[i]? = some t) (hp : s.entries.useCount p ≠ 0)
    (hrefs : t'.refs = p ::ₘ t.refs) (ht' : ∀ p b u, t' ≠ .removing p b u)
    (hlock : t'.locked = true → t.locked = true) : (s.takes i p t').Sound where
  exclusive := hs.exclusive.set ht fun hl => Or.inl (hlock hl)
  counts := by
    have hgoes : (s.takes i p t').refs = p ::ₘ s.refs := refs_goes_cons ht hrefs
    rw [hgoes]
    exact hs.counts.acquire hp
  deleters := (hs.deleters.set ht ht').keep fun _ hq => hq.acquire hp

/-- One more task, a handler that waits, with a reference of its own. -/
theorem Sound.waits (hs : s.Sound) (hp : s.entries.useCount p ≠ 0) (expiry : Int) :
    Sound { s with
      entries := s.entries.acquire p
      tasks := s.tasks ++ [.waiting p expiry] } where
  counts := by
    have hrefs : holdings ConnTask.refs (s.tasks ++ [.waiting p expiry]) = p ::ₘ s.refs := by
      rw [holdings_append, holdings_cons, holdings_nil, add_zero]
      exact add_comm _ _
    show CountsRefs (s.entries.acquire p) (holdings ConnTask.refs (s.tasks ++ [.waiting p expiry]))
    rw [hrefs]
    exact hs.counts.acquire hp
  deleters := by
    refine (hs.deleters.append ?_).keep fun _ hq => hq.acquire hp
    exact nofun
  exclusive := hs.exclusive.append rfl

theorem Sound.arms (hs : s.Sound) (ht : s.tasks[i]? = some t) (hp : p ∈ t.refs)
    (hrefs : t'.refs = p ::ₘ t.refs) (ht' : ∀ p b u, t' ≠ .removing p b u)
    (hlock : t'.locked = true → t.locked = true) (timeout : Int) :
    (s.arms i p timeout t').Sound := by
  have ht₁ := getElem?_map_cancel ht p
  have hcount := hs.counts.mem_iff.mp (mem_refs ht hp)
  have hself : Sound ({ s with tasks := s.tasks.map (.cancel p) }.takes i p t') := by
    refine (hs.cancels p).takes ht₁ hcount ?_ ht' fun hl => ?_
    · rw [ConnTask.refs_cancel]
      exact hrefs
    · rw [ConnTask.locked_cancel]
      exact hlock hl
  -- the handler has a copy of `self`
  refine hself.waits (hself.counts.mem_iff.mp ?_) (s.now + timeout * 10 ^ 9)
  refine mem_refs_goes (s := { s with tasks := s.tasks.map (.cancel p) }) ht₁ ?_
  rw [hrefs]
  exact Multiset.mem_cons_self p _

theorem Sound.makes (hs : s.Sound) (ht : s.tasks[i]? = some t)
    (hrefs : t'.refs = s.entries.next ::ₘ t.refs) (ht' : ∀ p b u, t' ≠ .removing p b u)
    (hlock : t'.locked = true → t.locked = true) (entry : EntryMembers) (maps : M) :
    (s.makes i entry maps t').Sound where
  exclusive := hs.exclusive.set ht fun hl => Or.inl (hlock hl)
  counts := by
    have hgoes : (s.makes i entry maps t').refs = s.entries.next ::ₘ s.refs :=
      refs_goes_cons ht hrefs
    rw [hgoes]
    exact hs.counts.alloc entry
  deleters := (hs.deleters.set ht ht').keep fun _ hq => hq.alloc _

/-- A reference is the last one if nobody has another when it is gone. -/
theorem Sound.last_iff (hs : s.Sound) (ht : s.tasks[i]? = some t) (hrefs : t.refs = p ::ₘ t'.refs) :
    s.entries.useCount p = 1 ↔ p ∉ (s.goes i t').refs := by
  have hcounts := hs.counts
  rw [refs_goes_drop ht hrefs] at hcounts
  exact hcounts.last_iff

/-- **A reference goes**, and if it was the last one, the task runs the deleter first. -/
theorem Sound.drops (hs : s.Sound) (ht : s.tasks[i]? = some t) (hrefs : t.refs = p ::ₘ t'.refs)
    {hasMutex : Bool} (hres : Resumes hasMutex t')
    (hhas : hasMutex = true → t.locked = true) : (s.drops i p hasMutex t').Sound := by
  rw [ConnSystem.drops]
  split
  · rename_i hlast
    have hcounts := hs.counts
    have hgoes : s.refs = p ::ₘ (s.goes i (.removing p hasMutex t')).refs := refs_goes_drop ht hrefs
    rw [hgoes] at hcounts
    exact ⟨hcounts.unref, hs.deleters.last ht hlast hres,
      hs.exclusive.set ht fun hl => Or.inl (hhas hl)⟩
  · have hcounts := hs.counts
    rw [refs_goes_drop ht hrefs] at hcounts
    exact ⟨hcounts.unref, (hs.deleters.set ht hres.notRemoving).keep fun _ hq => hq.unref p,
      hs.exclusive.set ht fun hl => Or.inl (hhas (hres.locked hl))⟩

/-- The deleter has run. -/
theorem Sound.removes (hs : s.Sound) {hadMutex : Bool}
    (ht : s.tasks[i]? = some (.removing p hadMutex t')) (maps : M) :
    Sound ({ s with maps := maps, entries := s.entries.free p }.goes i t') where
  counts := by
    have hgoes : (s.goes i t').refs = s.refs := refs_goes_of_eq ht rfl
    show CountsRefs (s.entries.free p) (s.goes i t').refs
    rw [hgoes]
    exact hs.counts.free (hs.deleters.gone p hadMutex t' (List.mem_of_getElem? ht)).1
  deleters := hs.deleters.removes ht
  exclusive :=
    hs.exclusive.set ht fun hl => Or.inl ((hs.deleters.resumes p hadMutex t'
      (List.mem_of_getElem? ht)).locked hl)

/-- **One step**, when those in the owner's code keep the system sound. -/
theorem Sound.step {owner : ConnOwner M C ρ} (hs : s.Sound)
    (hcall : ∀ pkt, (owner.call pkt).refs = 0 ∧ (owner.call pkt).locked = false ∧
      ∀ p b u, owner.call pkt ≠ .removing p b u)
    (hcode : ∀ i c s', s.tasks[i]? = some (.code c) → owner.step s i c s' → s'.Sound)
    (h : Step owner s e s') : s'.Sound := by
  cases h with
  | call pkt =>
    obtain ⟨hrefs, hlock, hne⟩ := hcall pkt
    exact hs.begins hrefs hne hlock
  | tick now hle => exact ⟨hs.counts, hs.deleters, hs.exclusive⟩
  | code i c s' ht hstep => exact hcode i c s' ht hstep
  | stop i p r ht =>
    refine hs.stops ht ?_ ?_ ?_ p
    exacts [rfl, nofun, id]
  | arm i p r entry ht he =>
    refine hs.arms ht (Multiset.mem_singleton_self p) ?_ ?_ ?_ _
    exacts [rfl, nofun, id]
  | armed i p r ht =>
    refine hs.drops ht ?_ ⟨?_, ?_⟩ ?_
    exacts [rfl, nofun, nofun, nofun]
  | ret i p r ht =>
    refine hs.drops ht ?_ ⟨?_, ?_⟩ ?_
    exacts [rfl, nofun, nofun, nofun]
  | expire i p expiry ht hle =>
    refine hs.goes ht ?_ ?_ ?_
    exacts [rfl, nofun, Or.inl]
  | handler i p ht =>
    refine hs.drops ht ?_ ⟨?_, ?_⟩ ?_
    exacts [rfl, nofun, nofun, nofun]
  | remove i p next entry ht hfree he => exact hs.removes ht _

/-! ## Who waits for itself -/

section SelfLocked
omit [CodePosition C]

theorem not_selfLocked_goes (hs : ¬ s.SelfLocked) (ht' : ∀ p u, t' ≠ .removing p true u)
    (i : Nat) : ¬ (s.goes i t').SelfLocked := by
  rintro ⟨p, u, hmem⟩
  exact hs ⟨p, u, removing_of_set (ht' p u) hmem⟩

theorem not_selfLocked_stops (hs : ¬ s.SelfLocked) (ht' : ∀ p u, t' ≠ .removing p true u)
    (i p : Nat) : ¬ (s.stops i p t').SelfLocked := by
  rintro ⟨q, u, hmem⟩
  exact hs ⟨q, u, removing_of_map (removing_of_set (ht' q u) hmem)⟩

theorem not_selfLocked_arms (hs : ¬ s.SelfLocked) (ht' : ∀ p u, t' ≠ .removing p true u)
    (i p : Nat) (timeout : Int) : ¬ (s.arms i p timeout t').SelfLocked := by
  rintro ⟨q, u, hmem⟩
  rcases List.mem_append.mp hmem with hmem | hmem
  · exact hs ⟨q, u, removing_of_map (removing_of_set (ht' q u) hmem)⟩
  · cases List.mem_singleton.mp hmem

theorem not_selfLocked_drops (hs : ¬ s.SelfLocked) (ht' : ∀ p u, t' ≠ .removing p true u)
    (i : Nat) {p : Nat} {hasMutex : Bool} (hlast : s.entries.useCount p = 1 → hasMutex = false) :
    ¬ (s.drops i p hasMutex t').SelfLocked := by
  refine not_selfLocked_goes (s := { s with entries := s.entries.unref p }) hs (fun q u => ?_) i
  split
  · rename_i hone
    rw [hlast hone]
    nofun
  · exact ht' q u

namespace SelfLocked

/-- Another task goes on. -/
theorem goes (hs : s.SelfLocked) (ht : s.tasks[i]? = some t)
    (hne : ∀ p u, t ≠ .removing p true u) (t' : ConnTask C ρ) : (s.goes i t').SelfLocked := by
  obtain ⟨p, u, hmem⟩ := hs
  obtain ⟨j, hj⟩ := List.mem_iff_getElem?.mp hmem
  refine ⟨p, u, List.mem_iff_getElem?.mpr ⟨j, ?_⟩⟩
  rw [ConnSystem.goes, List.getElem?_set_ne, hj]
  rintro rfl
  rw [ht] at hj
  exact hne p u (Option.some.inj hj)

theorem map_cancel (hs : s.SelfLocked) (p : Nat) :
    SelfLocked { s with tasks := s.tasks.map (.cancel p) } := by
  obtain ⟨q, u, hmem⟩ := hs
  exact ⟨q, u, List.mem_map.mpr ⟨_, hmem, rfl⟩⟩

theorem append (hs : s.SelfLocked) (t : ConnTask C ρ) :
    SelfLocked { s with tasks := s.tasks ++ [t] } := by
  obtain ⟨p, u, hmem⟩ := hs
  exact ⟨p, u, List.mem_append_left _ hmem⟩

theorem stops (hs : s.SelfLocked) (ht : s.tasks[i]? = some t)
    (hne : ∀ p q u, t.cancel p ≠ .removing q true u) (p : Nat) (t' : ConnTask C ρ) :
    (s.stops i p t').SelfLocked :=
  (hs.map_cancel p).goes (getElem?_map_cancel ht p) (hne p) t'

theorem arms (hs : s.SelfLocked) (ht : s.tasks[i]? = some t)
    (hne : ∀ p q u, t.cancel p ≠ .removing q true u) (p : Nat) (timeout : Int)
    (t' : ConnTask C ρ) : (s.arms i p timeout t').SelfLocked :=
  (hs.stops ht hne p t').append (.waiting p (s.now + timeout * 10 ^ 9))

end SelfLocked
end SelfLocked

/-- A task that waits for itself has the mutex for good: nobody takes it. -/
theorem SelfLocked.not_free (hs : s.SelfLocked) : ¬ s.Free := by
  obtain ⟨p, u, hmem⟩ := hs
  exact fun hfree => Bool.noConfusion (hfree _ hmem)

/-- **A task that waits for itself does so for ever**, when the owner's code leaves the other
tasks alone. -/
theorem SelfLocked.step {owner : ConnOwner M C ρ} (hs : s.SelfLocked)
    (hcode : ∀ i c s', s.tasks[i]? = some (.code c) → owner.step s i c s' → s'.SelfLocked)
    (h : Step owner s e s') : s'.SelfLocked := by
  cases h with
  | call pkt => exact hs.append _
  | tick now hle => exact hs
  | code i c s' ht hstep => exact hcode i c s' ht hstep
  | stop i p r ht => exact hs.stops ht (by simp [ConnTask.cancel]) p _
  | arm i p r entry ht he => exact hs.arms ht (by simp [ConnTask.cancel]) p _ _
  | armed i p r ht => exact hs.goes ht (by simp) _
  | ret i p r ht => exact hs.goes ht (by simp) _
  | expire i p expiry ht hle => exact hs.goes ht (by simp) _
  | handler i p ht => exact hs.goes ht (by simp) _
  | remove i p next entry ht hfree he => exact absurd hfree hs.not_free

/-- **A task waits for itself only by a step in its owner's code.** -/
theorem not_selfLocked_step {owner : ConnOwner M C ρ} (hsound : s.Sound) (hs : ¬ s.SelfLocked)
    (hcall : ∀ pkt p u, owner.call pkt ≠ .removing p true u)
    (hcode : ∀ i c, e = .goes i → s.tasks[i]? = some (.code c) → owner.step s i c s' →
      ¬ s'.SelfLocked)
    (h : Step owner s e s') : ¬ s'.SelfLocked := by
  cases h with
  | call pkt =>
    rintro ⟨p, u, hmem⟩
    exact hs ⟨p, u, removing_of_append (hcall pkt p u) hmem⟩
  | tick now hle => exact hs
  | code i c s' ht hstep => exact hcode i c rfl ht hstep
  | stop i p r ht => exact not_selfLocked_stops hs (by simp) i p
  | arm i p r entry ht he => exact not_selfLocked_arms hs (by simp) i p _
  | armed i p r ht => exact not_selfLocked_drops hs (by simp) i fun _ => rfl
  | ret i p r ht => exact not_selfLocked_drops hs (by simp) i fun _ => rfl
  | expire i p expiry ht hle => exact not_selfLocked_goes hs (by simp) i
  | handler i p ht => exact not_selfLocked_drops hs (by simp) i fun _ => rfl
  | remove i p next entry ht hfree he =>
    have hres := hsound.deleters.resumes p false next (List.mem_of_getElem? ht)
    exact not_selfLocked_goes (s := { s with
      maps := owner.removeFromMaps entry.val s.maps, entries := s.entries.free p }) hs
      (fun q u => hres.notRemoving q true u) i

end ConnSystem
end ShapingRouter
