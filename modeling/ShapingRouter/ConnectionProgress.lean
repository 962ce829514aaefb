import Mathlib
import ShapingRouter.ConnectionReferences

/-! # How the tasks of an owner go on

A step is taken by one task; the others at most become ready to run, and handlers may be
added (`ConnSystem.Moves`).  A call stays a call until it returns its result, even when it
runs a deleter on the way (`ConnTask.Serves`).

Every step of a task costs (`ConnSystem.work`), so that the tasks come to rest when no calls
begin.  And they do not wait for each other: while no task waits for itself, any task that has
something left to do sees to it that one of them can go on (`ConnSystem.exists_goes`).
-/

namespace ShapingRouter
open Library Std

namespace ConnTask
variable {C ρ : Type}

/-- The task is a call, which is in the code at a place with `F`, or has a result with `R`. -/
def Serves (F : C → Prop) (R : ρ → Prop) : ConnTask C ρ → Prop
  | code c => F c
  | found _ r | stopped _ r | armed _ r | holding _ r | returned r => R r
  | removing _ _ next => next.Serves F R
  | waiting _ _ | ready _ | done => False

/-- The task has something to do. -/
def Active : ConnTask C ρ → Prop
  | code _ | found _ _ | stopped _ _ | armed _ _ | holding _ _ | ready _ | removing _ _ _ => True
  | returned _ | waiting _ _ | done => False

/-- The task is a handler: it has been no call, and has no result. -/
def IsHandler : ConnTask C ρ → Prop
  | waiting _ _ | ready _ | done => True
  | removing _ _ next => next.IsHandler
  | code _ | found _ _ | stopped _ _ | armed _ _ | holding _ _ | returned _ => False

/-- How many steps a task takes at most, with those of a handler that it adds: `rank` says so
for the owner's code. -/
def left (rank : C → Nat) : ConnTask C ρ → Nat
  | code c => rank c
  | found _ _ => 9
  | stopped _ _ => 8
  | armed _ _ => 4
  | waiting _ _ => 3
  | holding _ _ | ready _ => 2
  | removing _ _ next => next.left rank + 1
  | returned _ | done => 0

/-- How a task goes on outside of its owner's code: the deleter may come first. -/
inductive Advances : ConnTask C ρ → ConnTask C ρ → Prop
  | stop (p : Nat) (r : ρ) : Advances (.found p r) (.stopped p r)
  | arm (p : Nat) (r : ρ) : Advances (.stopped p r) (.armed p r)
  | armed (p : Nat) (r : ρ) : Advances (.armed p r) (.holding p r)
  | ret (p : Nat) (r : ρ) : Advances (.holding p r) (.returned r)
  | expire (p : Nat) (expiry : Int) : Advances (.waiting p expiry) (.ready p)
  | handler (p : Nat) : Advances (.ready p) .done
  | resume (p : Nat) (hadMutex : Bool) (next : ConnTask C ρ) :
      Advances (.removing p hadMutex next) next
  | delete (p : Nat) (hadMutex : Bool) {t next : ConnTask C ρ} :
      Advances t next → Advances t (.removing p hadMutex next)

variable {F F' : C → Prop} {R R' : ρ → Prop} {t t' : ConnTask C ρ}

/-- A call that has returned is over. -/
theorem not_advances_returned {r : ρ} (ha : Advances t t') : t ≠ .returned r := by
  induction ha with
  | stop | arm | armed | ret | expire | handler | resume => nofun
  | delete p hadMutex ha ih => exact ih

theorem Serves.mono (h : t.Serves F R) (hF : ∀ c, F c → F' c) (hR : ∀ r, R r → R' r) :
    t.Serves F' R' := by
  induction t with
  | code c => exact hF c h
  | found p r | stopped p r | armed p r | holding p r | returned r => exact hR r h
  | removing p b next ih => exact ih h
  | waiting p expiry | ready p | done => exact h.elim

theorem Serves.cancel (h : t.Serves F R) (p : Nat) : (t.cancel p).Serves F R := by
  cases t with
  | waiting q expiry => exact h.elim
  | _ => exact h

theorem Serves.advances (h : t.Serves F R) (ha : Advances t t') : t'.Serves F R := by
  induction ha with
  | stop | arm | armed | ret | resume => exact h
  | expire | handler => exact h.elim
  | delete p hadMutex ha ih => exact ih h

/-- A call has something to do, or has returned. -/
theorem Serves.active (h : t.Serves F R) : t.Active ∨ ∃ r, t = .returned r := by
  cases t with
  | returned r => exact Or.inr ⟨r, rfl⟩
  | waiting | ready | done => exact h.elim
  | _ => exact Or.inl trivial

theorem isHandler_of_handles {p : Nat} (h : t.Handles p) : t.IsHandler := by
  cases t with
  | waiting | ready => trivial
  | _ => exact h.elim

theorem IsHandler.cancel (h : t.IsHandler) (p : Nat) : (t.cancel p).IsHandler := by
  cases t with
  | waiting q expiry =>
    rw [ConnTask.cancel]
    split <;> trivial
  | _ => exact h

theorem IsHandler.advances (h : t.IsHandler) (ha : Advances t t') : t'.IsHandler := by
  induction ha with
  | stop | arm | armed | ret => exact h.elim
  | expire | handler => trivial
  | resume => exact h
  | delete p hadMutex ha ih => exact ih h

theorem left_cancel (rank : C → Nat) (p : Nat) (t : ConnTask C ρ) :
    (t.cancel p).left rank ≤ t.left rank := by
  cases t with
  | waiting q expiry =>
    rw [ConnTask.cancel]
    split
    · simp [left]
    · exact Nat.le_refl _
  | _ => exact Nat.le_refl _

end ConnTask

namespace ConnSystem
variable {M C ρ : Type}

/-- The task `i` goes on as `t'`: the others at most become ready, handlers may come, and the
entries stay what they are. -/
structure Moves (s : ConnSystem M C ρ) (i : Nat) (t' : ConnTask C ρ) (s' : ConnSystem M C ρ) :
    Prop where
  self : s'.tasks[i]? = some t'
  other : ∀ j u, j ≠ i → s.tasks[j]? = some u →
    s'.tasks[j]? = some u ∨ ∃ p, s'.tasks[j]? = some (u.cancel p)
  old : ∀ j u, j ≠ i → s'.tasks[j]? = some u → j < s.tasks.length ∨ ∃ p, u.Handles p
  evolves : s.entries.Evolves s'.entries

variable {s s' : ConnSystem M C ρ} {i : Nat} {t t' : ConnTask C ρ}

namespace Moves

/-- The task goes on, with other maps and other counts. -/
theorem set (ht : s.tasks[i]? = some t) (t' : ConnTask C ρ) {entries : Heap (Counted EntryMembers)}
    (hevolves : s.entries.Evolves entries) (maps : M) :
    s.Moves i t' ({ s with maps := maps, entries := entries }.goes i t') where
  self := List.getElem?_set_self (List.getElem?_eq_some_iff.mp ht).1
  other j u hj hu := Or.inl ((List.getElem?_set_ne (Ne.symm hj)).trans hu)
  old j u hj hu := by
    rw [goes, List.getElem?_set_ne (Ne.symm hj)] at hu
    exact Or.inl (List.getElem?_eq_some_iff.mp hu).1
  evolves := hevolves

theorem goes (ht : s.tasks[i]? = some t) (t' : ConnTask C ρ) : s.Moves i t' (s.goes i t') :=
  set ht t' (.refl _) s.maps

theorem takes (ht : s.tasks[i]? = some t) (p : Nat) (t' : ConnTask C ρ) :
    s.Moves i t' (s.takes i p t') := set ht t' (.acquire _ p) s.maps

theorem drops (ht : s.tasks[i]? = some t) (p : Nat) (hasMutex : Bool) (t' : ConnTask C ρ) :
    s.Moves i (if s.entries.useCount p = 1 then .removing p hasMutex t' else t')
      (s.drops i p hasMutex t') := set ht _ (.unref _ p) s.maps

theorem makes (ht : s.tasks[i]? = some t) (entry : EntryMembers) (maps : M) (t' : ConnTask C ρ) :
    s.Moves i t' (s.makes i entry maps t') := set ht t' (.alloc _ _) maps

theorem stops (ht : s.tasks[i]? = some t) (p : Nat) (t' : ConnTask C ρ) :
    s.Moves i t' (s.stops i p t') where
  self := List.getElem?_set_self (List.getElem?_eq_some_iff.mp (getElem?_map_cancel ht p)).1
  other j u hj hu :=
    Or.inr ⟨p, (List.getElem?_set_ne (Ne.symm hj)).trans (getElem?_map_cancel hu p)⟩
  old j u hj hu := by
    rw [ConnSystem.stops, ConnSystem.goes, List.getElem?_set_ne (Ne.symm hj)] at hu
    have hlt := (List.getElem?_eq_some_iff.mp hu).1
    exact Or.inl (by rwa [List.length_map] at hlt)
  evolves := .refl _

theorem arms (ht : s.tasks[i]? = some t) (p : Nat) (timeout : Int) (t' : ConnTask C ρ) :
    s.Moves i t' (s.arms i p timeout t') := by
  have hstops := stops ht p t'
  have happend : ∀ (j : Nat) u, (s.stops i p t').tasks[j]? = some u →
      (s.arms i p timeout t').tasks[j]? = some u := by
    intro j u hu
    exact (List.getElem?_append_left (List.getElem?_eq_some_iff.mp hu).1).trans hu
  refine ⟨happend i t' hstops.self, fun j u hj hu => ?_, fun j u hj hu => ?_,
    (Heap.Evolves.acquire _ p).trans (.acquire _ p)⟩
  · rcases hstops.other j u hj hu with hu | ⟨q, hu⟩
    · exact Or.inl (happend j u hu)
    · exact Or.inr ⟨q, happend j _ hu⟩
  · rw [ConnSystem.arms, List.getElem?_append] at hu
    split at hu
    · exact hstops.old j u hj hu
    · obtain rfl := List.mem_singleton.mp (List.mem_of_getElem? hu)
      exact Or.inr ⟨p, rfl⟩

end Moves

section Serving
variable {F : C → Prop} {R : ρ → Prop}

/-- The task `i` is a call, with `F` and `R`. -/
def ServedAt (F : C → Prop) (R : ρ → Prop) (i : Nat) (s : ConnSystem M C ρ) : Prop :=
  ∃ t, s.tasks[i]? = some t ∧ t.Serves F R

theorem ServedAt.mono {F' : C → Prop} {R' : ρ → Prop} (h : s.ServedAt F R i)
    (hF : ∀ c, F c → F' c) (hR : ∀ r, R r → R' r) : s.ServedAt F' R' i := by
  obtain ⟨t, ht, hserves⟩ := h
  exact ⟨t, ht, hserves.mono hF hR⟩

/-- Another task goes on. -/
theorem Moves.served (hm : s.Moves i t' s') {j : Nat} (hj : j ≠ i) (h : s.ServedAt F R j) :
    s'.ServedAt F R j := by
  obtain ⟨u, hu, hserves⟩ := h
  rcases hm.other j u hj hu with hu' | ⟨p, hu'⟩
  · exact ⟨u, hu', hserves⟩
  · exact ⟨_, hu', hserves.cancel p⟩

end Serving

/-- What holds of every task, keeps doing so. -/
theorem Moves.forall_getElem? {P : Nat → ConnTask C ρ → Prop} (hm : s.Moves i t' s')
    (hcancel : ∀ j t p, P j t → P j (t.cancel p)) (hhandles : ∀ j t p, t.Handles p → P j t)
    (hall : ∀ j t, s.tasks[j]? = some t → P j t) (ht' : P i t') {j : Nat} {u : ConnTask C ρ}
    (hu : s'.tasks[j]? = some u) : P j u := by
  by_cases hj : j = i
  · subst hj
    rw [hm.self] at hu
    exact Option.some.inj hu ▸ ht'
  · rcases hm.old j u hj hu with hlt | ⟨p, hhandle⟩
    · have hv := List.getElem?_eq_getElem hlt
      rcases hm.other j _ hj hv with hu' | ⟨p, hu'⟩
      · rw [hu] at hu'
        exact Option.some.inj hu' ▸ hall j _ hv
      · rw [hu] at hu'
        exact Option.some.inj hu' ▸ hcancel j _ p (hall j _ hv)
    · exact hhandles j u p hhandle

theorem Moves.forall_tasks {P : ConnTask C ρ → Prop} (hm : s.Moves i t' s')
    (hcancel : ∀ t p, P t → P (t.cancel p)) (hhandles : ∀ t p, t.Handles p → P t)
    (hall : ∀ t ∈ s.tasks, P t) (ht' : P t') : ∀ t ∈ s'.tasks, P t := by
  intro u hmem
  obtain ⟨j, hu⟩ := List.mem_iff_getElem?.mp hmem
  exact hm.forall_getElem? (P := fun _ => P) (fun _ => hcancel) (fun _ => hhandles)
    (fun _ t ht => hall t (List.mem_of_getElem? ht)) ht' hu

/-! ## A call that hangs -/

/-- The task `i` waits for itself. -/
def HangsAt (i : Nat) (s : ConnSystem M C ρ) : Prop :=
  ∃ p next, s.tasks[i]? = some (.removing p true next)

/-- If a task begins to wait for itself, it is the one that went on. -/
theorem Moves.hangsAt (hm : s.Moves i t' s') (hgood : ¬ s.SelfLocked) (hlocked : s'.SelfLocked) :
    s'.HangsAt i := by
  obtain ⟨p, next, hmem⟩ := hlocked
  by_contra hother
  have ht' : t' ≠ .removing p true next := fun heq => hother ⟨p, next, heq ▸ hm.self⟩
  refine hm.forall_tasks (P := (· ≠ .removing p true next)) ?_ ?_ ?_ ht' _ hmem rfl
  · exact fun t q hne heq => hne (cancel_eq_removing.mp heq)
  · rintro _ q hhandle rfl
    exact hhandle
  · rintro _ ht rfl
    exact hgood ⟨p, next, ht⟩

variable [CodePosition C] {owner : ConnOwner M C ρ} {e : ConnEvent}

/-- **It does so for ever.** -/
theorem HangsAt.step {j : Nat} (hs : s.HangsAt j)
    (hcode : ∀ i c s', s.tasks[i]? = some (.code c) → owner.step s i c s' → ∃ t', s.Moves i t' s')
    (h : Step owner s e s') : s'.HangsAt j := by
  obtain ⟨p, next, ht⟩ := hs
  have hmoves : ∀ i t t', s.tasks[i]? = some t → s.Moves i t' s' →
      (∀ q u, t ≠ .removing q true u) → s'.HangsAt j := by
    intro i t t' hi hm hne
    have hji : j ≠ i := by
      rintro rfl
      rw [ht] at hi
      exact hne p next (Option.some.inj hi).symm
    rcases hm.other j _ hji ht with hj | ⟨q, hj⟩
    · exact ⟨p, next, hj⟩
    · exact ⟨p, next, hj⟩
  cases h with
  | call pkt =>
    exact ⟨p, next, (List.getElem?_append_left (List.getElem?_eq_some_iff.mp ht).1).trans ht⟩
  | tick now hle => exact ⟨p, next, ht⟩
  | code i c s' hi hstep =>
    obtain ⟨t', hm⟩ := hcode i c s' hi hstep
    exact hmoves i _ t' hi hm (by simp)
  | stop i q r hi => exact hmoves i _ _ hi (.stops hi q _) (by simp)
  | arm i q r entry hi he => exact hmoves i _ _ hi (.arms hi q _ _) (by simp)
  | armed i q r hi => exact hmoves i _ _ hi (.drops hi q false _) (by simp)
  | ret i q r hi => exact hmoves i _ _ hi (.drops hi q false _) (by simp)
  | expire i q expiry hi hle => exact hmoves i _ _ hi (.goes hi _) (by simp)
  | handler i q hi => exact hmoves i _ _ hi (.drops hi q false _) (by simp)
  | remove i q u entry hi hfree he => exact hmoves i _ u hi (.set hi u (.free _ q) _) (by simp)

/-- **A step of a task**, in its owner's code or outside of it. -/
theorem Step.goes_cases (h : Step owner s (.goes i) s') :
    (∃ c, s.tasks[i]? = some (.code c) ∧ owner.step s i c s') ∨
      ∃ t t', s.tasks[i]? = some t ∧ t.Advances t' ∧ s.Moves i t' s' ∧
        s'.entries.next = s.entries.next ∧
        (s'.maps = s.maps ∨ ∃ p entry, s.entries.objects p = some entry ∧
          s'.maps = owner.removeFromMaps entry.val s.maps) := by
  have hdrops : ∀ {t next : ConnTask C ρ} (p : Nat), t.Advances next → s.tasks[i]? = some t →
      t.Advances (if s.entries.useCount p = 1 then .removing p false next else next) := by
    intro t next p hadvances ht
    split
    · exact .delete p false hadvances
    · exact hadvances
  cases h with
  | code _ c _ ht hstep => exact Or.inl ⟨c, ht, hstep⟩
  | stop _ p r ht => exact Or.inr ⟨_, _, ht, .stop p r, .stops ht p _, rfl, Or.inl rfl⟩
  | arm _ p r entry ht he => exact Or.inr ⟨_, _, ht, .arm p r, .arms ht p _ _, rfl, Or.inl rfl⟩
  | armed _ p r ht =>
    exact Or.inr ⟨_, _, ht, hdrops p (.armed p r) ht, .drops ht p false _, rfl, Or.inl rfl⟩
  | ret _ p r ht =>
    exact Or.inr ⟨_, _, ht, hdrops p (.ret p r) ht, .drops ht p false _, rfl, Or.inl rfl⟩
  | expire _ p expiry ht hle =>
    exact Or.inr ⟨_, _, ht, .expire p expiry, .goes ht _, rfl, Or.inl rfl⟩
  | handler _ p ht =>
    exact Or.inr ⟨_, _, ht, hdrops p (.handler p) ht, .drops ht p false _, rfl, Or.inl rfl⟩
  | remove _ p next entry ht hfree he =>
    exact Or.inr ⟨_, _, ht, .resume p false next, .set ht next (.free _ p) _,
      rfl, Or.inr ⟨p, entry, he, rfl⟩⟩

/-! ## The tasks come to rest -/

section Work
omit [CodePosition C]
variable (rank : C → Nat)

/-- How many steps the tasks take at most, when no calls begin. -/
def work (s : ConnSystem M C ρ) : Nat := (s.tasks.map (ConnTask.left rank)).sum

variable {rank}

theorem work_set (ht : s.tasks[i]? = some t) (htasks : s'.tasks = s.tasks.set i t') :
    s'.work rank + t.left rank = s.work rank + t'.left rank := by
  rw [work, htasks]
  exact sum_map_set _ ht t'

/-- A task goes on. -/
theorem work_lt_set (ht : s.tasks[i]? = some t) (htasks : s'.tasks = s.tasks.set i t')
    (hleft : t'.left rank + 1 ≤ t.left rank) : s'.work rank + 1 ≤ s.work rank := by
  have hset : s'.work rank + t.left rank = s.work rank + t'.left rank := work_set ht htasks
  omega

/-- It drops a reference. -/
theorem work_lt_drops (ht : s.tasks[i]? = some t) (p : Nat) (hasMutex : Bool)
    (hleft : t'.left rank + 2 ≤ t.left rank) :
    (s.drops i p hasMutex t').work rank + 1 ≤ s.work rank := by
  refine work_lt_set ht rfl ?_
  split
  · rw [ConnTask.left]
    exact hleft
  · exact Nat.le_of_succ_le hleft

theorem work_map_cancel_le (s : ConnSystem M C ρ) (p : Nat) :
    work rank { s with tasks := s.tasks.map (.cancel p) } ≤ s.work rank := by
  rw [work, work, List.map_map]
  exact List.sum_le_sum fun u _ => u.left_cancel rank p

/-- It stops a timer. -/
theorem work_lt_stops (ht : s.tasks[i]? = some t) {p : Nat} (hcancel : t.cancel p = t)
    (hleft : t'.left rank + 1 ≤ t.left rank) :
    (s.stops i p t').work rank + 1 ≤ s.work rank := by
  have hle : work rank { s with tasks := s.tasks.map (.cancel p) } ≤ s.work rank :=
    work_map_cancel_le s p
  have hgoes : (s.stops i p t').work rank + 1 ≤
      work rank { s with tasks := s.tasks.map (.cancel p) } :=
    work_lt_set (hcancel ▸ getElem?_map_cancel ht p) rfl hleft
  exact Nat.le_trans hgoes hle

/-- It arms a timer, for which a handler then waits. -/
theorem work_lt_arms (ht : s.tasks[i]? = some t) {p : Nat} (hcancel : t.cancel p = t)
    (timeout : Int) (hleft : t'.left rank + 4 ≤ t.left rank) :
    (s.arms i p timeout t').work rank + 1 ≤ s.work rank := by
  have hle : work rank { s with tasks := s.tasks.map (.cancel p) } ≤ s.work rank :=
    work_map_cancel_le s p
  have hset : (s.stops i p t').work rank + t.left rank =
      work rank { s with tasks := s.tasks.map (.cancel p) } + t'.left rank :=
    work_set (hcancel ▸ getElem?_map_cancel ht p) rfl
  have harms : (s.arms i p timeout t').work rank = (s.stops i p t').work rank + 3 := by
    rw [work, arms, List.map_append, List.sum_append]
    rfl
  omega

end Work

/-- A call begins. -/
theorem Step.work_call {pkt : Packet} (rank : C → Nat) (h : Step owner s (.call pkt) s') :
    s'.work rank = s.work rank + (owner.call pkt).left rank := by
  cases h
  rw [work, List.map_append, List.sum_append]
  rfl

/-- **A step of a task costs**, when it does so in the owner's code. -/
theorem Step.work_lt {rank : C → Nat} (h : Step owner s (.goes i) s')
    (hcode : ∀ c, s.tasks[i]? = some (.code c) → owner.step s i c s' →
      s'.work rank + 1 ≤ s.work rank) : s'.work rank + 1 ≤ s.work rank := by
  cases h with
  | code _ c _ ht hstep => exact hcode c ht hstep
  | stop _ p r ht => exact work_lt_stops ht rfl (Nat.le_refl 9)
  | arm _ p r entry ht he => exact work_lt_arms ht rfl _ (Nat.le_refl 8)
  | armed _ p r ht => exact work_lt_drops ht p false (Nat.le_refl 4)
  | ret _ p r ht => exact work_lt_drops ht p false (Nat.le_refl 2)
  | expire _ p expiry ht hle => exact work_lt_set ht rfl (Nat.le_refl 3)
  | handler _ p ht => exact work_lt_drops ht p false (Nat.le_refl 2)
  | remove _ p next entry ht hfree he => exact work_lt_set ht rfl (Nat.le_refl _)

/-! ## The tasks do not wait for each other -/

/-- **Some task can go on**, when any has something to do and none waits for itself: a task that
has the mutex is in its owner's code, and there it needs nobody. -/
theorem exists_goes (hs : s.Sound) (hgood : ¬ s.SelfLocked)
    (hcode : ∀ i c, s.tasks[i]? = some (.code c) → CodePosition.locked c = true ∨ s.Free →
      ∃ s', owner.step s i c s')
    (hactive : ∃ t ∈ s.tasks, t.Active) : ∃ i s', Step owner s (.goes i) s' := by
  by_cases hfree : s.Free
  · obtain ⟨t, hmem, hactive⟩ := hactive
    obtain ⟨i, ht⟩ := List.mem_iff_getElem?.mp hmem
    cases t with
    | code c =>
      obtain ⟨s', hstep⟩ := hcode i c ht (Or.inr hfree)
      exact ⟨i, s', .code i c s' ht hstep⟩
    | found p r => exact ⟨i, _, .stop i p r ht⟩
    | stopped p r =>
      obtain ⟨entry, he⟩ := hs.counts.exists_object (mem_refs ht (Multiset.mem_singleton_self p))
      exact ⟨i, _, .arm i p r entry ht he⟩
    | armed p r => exact ⟨i, _, .armed i p r ht⟩
    | holding p r => exact ⟨i, _, .ret i p r ht⟩
    | ready p => exact ⟨i, _, .handler i p ht⟩
    | removing p hadMutex next =>
      obtain ⟨-, entry, he⟩ := hs.deleters.gone p hadMutex next hmem
      cases hadMutex with
      | true => exact absurd ⟨p, next, hmem⟩ hgood
      | false => exact ⟨i, _, .remove i p next entry ht hfree he⟩
    | returned | waiting | done => exact hactive.elim
  · simp only [Free, not_forall] at hfree
    obtain ⟨t, hmem, hlocked⟩ := hfree
    have hlocked := Bool.eq_true_of_not_eq_false hlocked
    obtain ⟨i, ht⟩ := List.mem_iff_getElem?.mp hmem
    cases t with
    | code c =>
      obtain ⟨s', hstep⟩ := hcode i c ht (Or.inl hlocked)
      exact ⟨i, s', .code i c s' ht hstep⟩
    | removing p hadMutex next =>
      obtain rfl : hadMutex = true := hlocked
      exact absurd ⟨p, next, hmem⟩ hgood
    | found | stopped | armed | holding | returned | waiting | ready | done => cases hlocked

end ConnSystem
end ShapingRouter
