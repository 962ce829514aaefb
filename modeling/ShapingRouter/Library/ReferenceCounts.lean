import Mathlib
import ShapingRouter.Library.WeakTable

/-! # Reference counts

Objects that count the references to them.  Who holds a reference is not for the heap to
say: the references are a multiset of pointers, wherever they are, and `CountsRefs` says
that every object has counted those to it.  Each operation on a reference keeps it when the
multiset changes by that reference.  As a pointer without an object counts none, a
reference always leads to an object (`CountsRefs.mem_iff`), and an object goes only when
its last reference has gone (`CountsRefs.free`).

A table of weak references is locked where the object found has a reference left.
-/

namespace ShapingRouter.Library

/-- An object, and how many references to it there are. -/
structure Counted (E : Type) where
  val : E
  useCount : Nat
  deriving DecidableEq, Repr

namespace Heap
variable {E : Type}

/-- The count of the object at `p`. -/
def useCount (h : Heap (Counted E)) (p : Nat) : Nat := ((h.objects p).map (·.useCount)).getD 0

/-- One more reference to the object at `p`. -/
def acquire (h : Heap (Counted E)) (p : Nat) : Heap (Counted E) :=
  h.modify p fun o => { o with useCount := o.useCount + 1 }

/-- One reference less. -/
def unref (h : Heap (Counted E)) (p : Nat) : Heap (Counted E) :=
  h.modify p fun o => { o with useCount := o.useCount - 1 }

variable {h : Heap (Counted E)} {p : Nat}

theorem useCount_of_some {o : Counted E} (ho : h.objects p = some o) :
    h.useCount p = o.useCount := by
  rw [useCount, ho]
  rfl

theorem useCount_of_none (ho : h.objects p = none) : h.useCount p = 0 := by
  rw [useCount, ho]
  rfl

theorem exists_of_useCount (hp : h.useCount p ≠ 0) : ∃ o, h.objects p = some o := by
  apply Option.ne_none_iff_exists'.mp
  intro hnone
  exact hp (useCount_of_none hnone)

theorem useCount_empty (p : Nat) : (empty : Heap (Counted E)).useCount p = 0 := rfl

theorem useCount_alloc (h : Heap (Counted E)) (o : Counted E) (q : Nat) :
    (h.alloc o).useCount q = if q = h.next then o.useCount else h.useCount q := by
  rw [useCount, alloc_objects]
  split <;> rfl

theorem useCount_free (h : Heap (Counted E)) (p q : Nat) :
    (h.free p).useCount q = if q = p then 0 else h.useCount q := by
  rw [useCount, free_objects]
  split <;> rfl

theorem useCount_acquire (hp : h.useCount p ≠ 0) (q : Nat) :
    (h.acquire p).useCount q = if q = p then h.useCount p + 1 else h.useCount q := by
  obtain ⟨o, ho⟩ := exists_of_useCount hp
  rw [useCount, acquire, modify_objects]
  split
  · rw [useCount_of_some ho, ho]
    rfl
  · rfl

theorem useCount_acquire_self (hp : h.useCount p ≠ 0) :
    (h.acquire p).useCount p = h.useCount p + 1 := by rw [useCount_acquire hp, if_pos rfl]

theorem useCount_unref (h : Heap (Counted E)) (p q : Nat) :
    (h.unref p).useCount q = if q = p then h.useCount p - 1 else h.useCount q := by
  rw [useCount, unref, modify_objects]
  split
  · rw [useCount]
    cases h.objects p with
    | none => rfl
    | some o => rfl
  · rfl

/-- A reference comes and goes. -/
theorem unref_acquire (h : Heap (Counted E)) (p : Nat) : (h.acquire p).unref p = h := by
  refine Heap.ext (funext fun q => ?_) rfl
  rw [unref, modify_objects, acquire, modify_objects, modify_objects, if_pos rfl, Option.map_map]
  split
  · rename_i hq
    rw [hq]
    cases h.objects p <;> rfl
  · rfl

/-- What goes has dropped its references. -/
theorem free_unref (h : Heap (Counted E)) (p : Nat) : (h.unref p).free p = h.free p := by
  refine Heap.ext (funext fun q => ?_) rfl
  rw [free_objects, free_objects, unref, modify_objects]
  split <;> rfl

theorem acquire_objects {o : Counted E} (ho : h.objects p = some o) :
    (h.acquire p).objects p = some { o with useCount := o.useCount + 1 } := by
  rw [acquire, modify_objects, if_pos rfl, ho]
  rfl

theorem unref_objects {o : Counted E} (ho : h.objects p = some o) :
    (h.unref p).objects p = some { o with useCount := o.useCount - 1 } := by
  rw [unref, modify_objects, if_pos rfl, ho]
  rfl

/-- An object that has just been made, and what it counts after one and two more references. -/
theorem made_objects (h : Heap (Counted E)) (val : E) :
    (h.alloc ⟨val, 1⟩).objects h.next = some ⟨val, 1⟩ ∧
      ((h.alloc ⟨val, 1⟩).acquire h.next).useCount h.next ≠ 1 ∧
      (((h.alloc ⟨val, 1⟩).acquire h.next).acquire h.next).useCount h.next ≠ 1 := by
  have hmade : (h.alloc ⟨val, 1⟩).objects h.next = some ⟨val, 1⟩ := by
    rw [alloc_objects, if_pos rfl]
  have hcount : (h.alloc ⟨val, 1⟩).useCount h.next = 1 := useCount_of_some hmade
  have honce := useCount_acquire_self (h := h.alloc ⟨val, 1⟩) (p := h.next) (by omega)
  have htwice := useCount_acquire_self (h := (h.alloc ⟨val, 1⟩).acquire h.next) (p := h.next)
    (by omega)
  exact ⟨hmade, by omega, by omega⟩

/-- Acquiring a reference to an object that has one leaves those without any. -/
theorem useCount_acquire_zero (hp : h.useCount p ≠ 0) {q : Nat} (hq : h.useCount q = 0) :
    (h.acquire p).useCount q = 0 := by
  rw [useCount_acquire hp, if_neg]
  · exact hq
  · rintro rfl
    exact hp hq

theorem useCount_unref_zero (p : Nat) {q : Nat} (hq : h.useCount q = 0) :
    (h.unref p).useCount q = 0 := by
  rw [useCount_unref]
  split
  · rename_i hqp
    rw [← hqp, hq]
  · exact hq

theorem useCount_free_zero (p : Nat) {q : Nat} (hq : h.useCount q = 0) :
    (h.free p).useCount q = 0 := by
  rw [useCount_free]
  split
  · rfl
  · exact hq

/-- The object at `p` is there, and has no reference left. -/
def Abandoned (h : Heap (Counted E)) (p : Nat) : Prop :=
  h.useCount p = 0 ∧ ∃ o, h.objects p = some o

namespace Abandoned
variable {q : Nat}

theorem acquire (hq : h.Abandoned q) (hp : h.useCount p ≠ 0) : (h.acquire p).Abandoned q := by
  obtain ⟨hcount, o, ho⟩ := hq
  refine ⟨useCount_acquire_zero hp hcount, o, ?_⟩
  rw [Heap.acquire, modify_objects, if_neg, ho]
  rintro rfl
  exact hp hcount

theorem unref (hq : h.Abandoned q) (p : Nat) : (h.unref p).Abandoned q := by
  obtain ⟨hcount, o, ho⟩ := hq
  refine ⟨useCount_unref_zero p hcount, ?_⟩
  rw [Heap.unref, modify_objects]
  split
  · rename_i hqp
    rw [← hqp, ho]
    exact ⟨_, rfl⟩
  · exact ⟨o, ho⟩

theorem alloc (hq : h.Abandoned q) (o : Counted E) : (h.alloc o).Abandoned q := by
  obtain ⟨hcount, o', ho'⟩ := hq
  have hne : q ≠ h.next := Nat.ne_of_lt (lt_next ho')
  refine ⟨?_, o', ?_⟩
  · rw [useCount_alloc, if_neg hne, hcount]
  · rw [alloc_objects, if_neg hne, ho']

theorem free (hq : h.Abandoned q) (hne : q ≠ p) : (h.free p).Abandoned q := by
  obtain ⟨hcount, o, ho⟩ := hq
  refine ⟨useCount_free_zero p hcount, o, ?_⟩
  rw [free_objects, if_neg hne, ho]

end Abandoned

/-- The last reference goes. -/
theorem abandoned_unref (hlast : h.useCount p = 1) : (h.unref p).Abandoned p := by
  obtain ⟨o, ho⟩ := exists_of_useCount (ne_of_eq_of_ne hlast Nat.one_ne_zero)
  refine ⟨?_, { o with useCount := o.useCount - 1 }, ?_⟩
  · rw [useCount_unref, if_pos rfl, hlast]
  · rw [unref, modify_objects, if_pos rfl, ho]
    rfl

/-- Objects come and go, but none becomes another one. -/
structure Evolves (h h' : Heap (Counted E)) : Prop where
  next : h.next ≤ h'.next
  val : ∀ p o', p < h.next → h'.objects p = some o' → ∃ o, h.objects p = some o ∧ o'.val = o.val

namespace Evolves
variable {h' h₁ : Heap (Counted E)}

theorem refl (h : Heap (Counted E)) : Evolves h h := ⟨Nat.le_refl _, fun _ o _ ho => ⟨o, ho, rfl⟩⟩

theorem trans (hle : Evolves h h₁) (hle' : Evolves h₁ h') : Evolves h h' where
  next := Nat.le_trans hle.next hle'.next
  val p o' hp ho' := by
    obtain ⟨o₁, ho₁, hval'⟩ := hle'.val p o' (Nat.lt_of_lt_of_le hp hle.next) ho'
    obtain ⟨o, ho, hval⟩ := hle.val p o₁ hp ho₁
    exact ⟨o, ho, hval'.trans hval⟩

theorem modify (h : Heap (Counted E)) (p : Nat) {f : Counted E → Counted E}
    (hf : ∀ o, (f o).val = o.val) : Evolves h (h.modify p f) where
  next := Nat.le_refl _
  val q o' _ ho' := by
    rw [modify_objects] at ho'
    split at ho'
    · rename_i hqp
      obtain ⟨o, ho, rfl⟩ := Option.map_eq_some_iff.mp ho'
      exact ⟨o, hqp ▸ ho, hf o⟩
    · exact ⟨o', ho', rfl⟩

theorem acquire (h : Heap (Counted E)) (p : Nat) : Evolves h (h.acquire p) :=
  modify h p fun _ => rfl

theorem unref (h : Heap (Counted E)) (p : Nat) : Evolves h (h.unref p) := modify h p fun _ => rfl

theorem alloc (h : Heap (Counted E)) (o : Counted E) : Evolves h (h.alloc o) where
  next := Nat.le_succ _
  val q o' hq ho' := by
    rw [alloc_objects, if_neg (Nat.ne_of_lt hq)] at ho'
    exact ⟨o', ho', rfl⟩

theorem free (h : Heap (Counted E)) (p : Nat) : Evolves h (h.free p) where
  next := Nat.le_refl _
  val q o' _ ho' := by
    rw [free_objects] at ho'
    split at ho'
    · cases ho'
    · exact ⟨o', ho', rfl⟩

/-- What holds of all values keeps holding, when there are no new objects. -/
theorem forall_val {P : E → Prop} (hle : Evolves h h') (hnext : h'.next = h.next)
    (hall : ∀ p o, h.objects p = some o → P o.val) {p : Nat} {o : Counted E}
    (ho : h'.objects p = some o) : P o.val := by
  obtain ⟨o₀, ho₀, hval⟩ := hle.val p o (hnext ▸ lt_next ho) ho
  rw [hval]
  exact hall p o₀ ho₀

end Evolves
end Heap

variable {E : Type} {h : Heap (Counted E)} {refs : Multiset Nat} {p : Nat}

/-- Every object has counted its references, and all of them are in `refs`. -/
def CountsRefs (h : Heap (Counted E)) (refs : Multiset Nat) : Prop :=
  ∀ p, h.useCount p = refs.count p

namespace CountsRefs

theorem empty : CountsRefs (Heap.empty : Heap (Counted E)) 0 := by
  intro p
  rw [Heap.useCount_empty, Multiset.count_zero]

theorem mem_iff (hc : CountsRefs h refs) : p ∈ refs ↔ h.useCount p ≠ 0 := by
  rw [hc, ← Multiset.count_pos, Nat.pos_iff_ne_zero]

/-- A reference leads to an object. -/
theorem exists_object (hc : CountsRefs h refs) (hp : p ∈ refs) : ∃ o, h.objects p = some o :=
  Heap.exists_of_useCount (hc.mem_iff.mp hp)

/-- No reference leads to an object that is still to be made. -/
theorem next_not_mem (hc : CountsRefs h refs) : h.next ∉ refs := by
  intro hmem
  obtain ⟨o, ho⟩ := hc.exists_object hmem
  exact absurd (Heap.lt_next ho) (Nat.lt_irrefl _)

/-- A new object, with the reference that its maker has. -/
theorem alloc (hc : CountsRefs h refs) (val : E) :
    CountsRefs (h.alloc ⟨val, 1⟩) (h.next ::ₘ refs) := by
  intro q
  rw [Heap.useCount_alloc, Multiset.count_cons, ← hc q]
  by_cases hq : q = h.next
  · rw [if_pos hq, if_pos hq, hq, Heap.useCount_of_none (h.bounded _ (Nat.le_refl _))]
  · rw [if_neg hq, if_neg hq, Nat.add_zero]

/-- A reference is copied, or got by locking. -/
theorem acquire (hc : CountsRefs h refs) (hp : h.useCount p ≠ 0) :
    CountsRefs (h.acquire p) (p ::ₘ refs) := by
  intro q
  rw [Heap.useCount_acquire hp, Multiset.count_cons, ← hc q]
  by_cases hq : q = p
  · rw [if_pos hq, if_pos hq, hq]
  · rw [if_neg hq, if_neg hq, Nat.add_zero]

/-- A reference goes. -/
theorem unref (hc : CountsRefs h (p ::ₘ refs)) : CountsRefs (h.unref p) refs := by
  intro q
  rw [Heap.useCount_unref, hc p, hc q, Multiset.count_cons, Multiset.count_cons]
  by_cases hq : q = p
  · rw [if_pos hq, if_pos rfl, hq, Nat.add_sub_cancel]
  · rw [if_neg hq, if_neg hq, Nat.add_zero]

/-- An object goes that has no references. -/
theorem free (hc : CountsRefs h refs) (hp : h.useCount p = 0) : CountsRefs (h.free p) refs := by
  intro q
  rw [Heap.useCount_free, ← hc q]
  split
  · rename_i hq
    rw [hq, hp]
  · rfl

/-- **The last reference** is the one whose object has counted one. -/
theorem last_iff (hc : CountsRefs h (p ::ₘ refs)) : h.useCount p = 1 ↔ p ∉ refs := by
  rw [hc p, Multiset.count_cons_self, Nat.add_eq_right, Multiset.count_eq_zero]

end CountsRefs

section Locking
variable {K : Type} {cmp : K → K → Ordering}

/-- Looking a key up and locking the pointer found, where its object has a reference left. -/
def lockCounted (h : Heap (Counted E)) (m : Std.TreeMap K Nat cmp) (k : K) : Option Nat :=
  (m[k]?).filter fun p => h.useCount p ≠ 0

theorem lockCounted_eq_some {m : Std.TreeMap K Nat cmp} {k : K} :
    lockCounted h m k = some p ↔ m[k]? = some p ∧ h.useCount p ≠ 0 := by
  rw [lockCounted, Option.filter_eq_some_iff, decide_eq_true_iff]

/-- A table keeps leading to objects with the right keys. -/
theorem Keyed.evolves {h' : Heap (Counted E)} {m : Std.TreeMap K Nat cmp} {key : E → K}
    (hm : Keyed h m fun o => key o.val) (hle : h.Evolves h') : Keyed h' m fun o => key o.val := by
  intro k p hp
  obtain ⟨hlt, hkey⟩ := hm k p hp
  refine ⟨Nat.lt_of_lt_of_le hlt hle.next, fun o' ho' => ?_⟩
  obtain ⟨o, ho, hval⟩ := hle.val p o' hlt ho'
  show cmp (key o'.val) k = .eq
  rw [hval]
  exact hkey o ho

end Locking
end ShapingRouter.Library
