import Mathlib

/-! # Tables of weak references

Objects live in a heap; tables refer to them by pointer, under a key read off
the object.  A table never keeps an object alive: when an object goes, its owner
erases its key.  `Linked` is what ties such a table to the heap: a key leads to
a pointer exactly when the object at that pointer is alive and has that key.  It
says at once that no link dangles, that every live object is found under its own
key, and that no two live objects have the same key.

Tables are ordered maps, so keys are the same when the comparison answers `.eq`;
the comparison may ignore part of a key.
-/

namespace ShapingRouter.Library

/-- Objects by pointer.  `next` is the first pointer never handed out. -/
@[ext]
structure Heap (E : Type) where
  objects : Nat → Option E
  next : Nat
  bounded : ∀ p, next ≤ p → objects p = none

namespace Heap
variable {E : Type}

def empty : Heap E := ⟨fun _ => none, 0, fun _ _ => rfl⟩

/-- The heap with a new object, at pointer `h.next`. -/
def alloc (h : Heap E) (e : E) : Heap E where
  objects := Function.update h.objects h.next (some e)
  next := h.next + 1
  bounded p hp := by
    rw [Function.update_of_ne (by omega)]
    exact h.bounded p (by omega)

/-- The heap with the object at `p`, if there is one, replaced by its image. -/
def modify (h : Heap E) (p : Nat) (f : E → E) : Heap E where
  objects := Function.update h.objects p ((h.objects p).map f)
  next := h.next
  bounded q hq := by
    by_cases hqp : q = p
    · subst hqp; simp [h.bounded q hq]
    · rw [Function.update_of_ne hqp]; exact h.bounded q hq

/-- The heap without the object at `p`. -/
def free (h : Heap E) (p : Nat) : Heap E where
  objects := Function.update h.objects p none
  next := h.next
  bounded q hq := by
    by_cases hqp : q = p
    · subst hqp; simp
    · rw [Function.update_of_ne hqp]; exact h.bounded q hq

/-- The heap with every object replaced by its image. -/
def map {F : Type} (h : Heap E) (f : E → F) : Heap F where
  objects p := (h.objects p).map f
  next := h.next
  bounded p hp := by rw [h.bounded p hp]; rfl

/-- The pointers of the live objects that satisfy `P`, oldest first. -/
def pointers (h : Heap E) (P : E → Bool) : List Nat :=
  (List.range h.next).filter fun p => (h.objects p).any P

@[simp] theorem empty_objects (p : Nat) : (empty : Heap E).objects p = none := rfl

@[simp] theorem alloc_next (h : Heap E) (e : E) : (h.alloc e).next = h.next + 1 := rfl

theorem alloc_objects (h : Heap E) (e : E) (p : Nat) :
    (h.alloc e).objects p = if p = h.next then some e else h.objects p := by
  simp [alloc, Function.update_apply]

theorem modify_objects (h : Heap E) (p : Nat) (f : E → E) (q : Nat) :
    (h.modify p f).objects q = if q = p then (h.objects p).map f else h.objects q := by
  simp [modify, Function.update_apply]

theorem free_objects (h : Heap E) (p q : Nat) :
    (h.free p).objects q = if q = p then none else h.objects q := by
  simp [free, Function.update_apply]

/-- Freeing what is not alive changes nothing. -/
theorem free_of_none {h : Heap E} {p : Nat} (hp : h.objects p = none) : h.free p = h := by
  refine Heap.ext ?_ rfl
  show Function.update h.objects p none = h.objects
  rw [← hp, Function.update_eq_self]

/-- Freeing one object and changing another. -/
theorem free_modify (h : Heap E) {p q : Nat} (hpq : p ≠ q) (f : E → E) :
    (h.modify p f).free q = (h.free q).modify p f := by
  refine Heap.ext (funext fun r => ?_) rfl
  rw [free_objects, modify_objects, modify_objects, free_objects, free_objects, if_neg hpq]
  by_cases hr : r = q
  · subst hr
    rw [if_pos rfl, if_neg (Ne.symm hpq)]
    exact (if_pos rfl).symm
  · rw [if_neg hr, if_neg hr]

theorem free_comm (h : Heap E) (p q : Nat) : (h.free p).free q = (h.free q).free p := by
  refine Heap.ext (funext fun r => ?_) rfl
  simp only [free_objects]
  split <;> split <;> rfl

section Map
variable {F : Type} (h : Heap E) (f : E → F)

@[simp] theorem map_next : (h.map f).next = h.next := rfl

theorem map_free (p : Nat) : (h.free p).map f = (h.map f).free p := by
  refine Heap.ext (funext fun q => ?_) rfl
  simp only [map, free_objects, apply_ite (Option.map f), Option.map_none]

theorem map_alloc (e : E) : (h.alloc e).map f = (h.map f).alloc (f e) := by
  refine Heap.ext (funext fun q => ?_) rfl
  simp only [map, alloc_objects, apply_ite (Option.map f), Option.map_some]

/-- Changes that the images do not show. -/
theorem map_modify {g : E → E} {g' : F → F} (hg : ∀ e, f (g e) = g' (f e)) (p : Nat) :
    (h.modify p g).map f = (h.map f).modify p g' := by
  refine Heap.ext (funext fun q => ?_) rfl
  simp only [map, modify_objects, apply_ite (Option.map f), Option.map_map, Function.comp_def, hg]

end Map

/-- Changing the new object is allocating the changed one. -/
theorem modify_alloc (h : Heap E) (e : E) (g : E → E) :
    (h.alloc e).modify h.next g = h.alloc (g e) := by
  refine Heap.ext (funext fun q => ?_) rfl
  rw [modify_objects, alloc_objects, alloc_objects, alloc_objects, if_pos rfl]
  split <;> rfl

theorem lt_next {h : Heap E} {p : Nat} {e : E} (hp : h.objects p = some e) : p < h.next := by
  by_contra hle
  rw [h.bounded p (by omega)] at hp
  cases hp

theorem mem_pointers {h : Heap E} {P : E → Bool} {p : Nat} :
    p ∈ h.pointers P ↔ ∃ e, h.objects p = some e ∧ P e = true := by
  simp only [pointers, List.mem_filter, List.mem_range, Option.any_eq_true]
  constructor
  · rintro ⟨_, e, he, hP⟩
    exact ⟨e, he, hP⟩
  · rintro ⟨e, he, hP⟩
    exact ⟨lt_next he, e, he, hP⟩

theorem foldl_free_objects (ps : List Nat) (h : Heap E) (q : Nat) :
    (ps.foldl free h).objects q = if q ∈ ps then none else h.objects q := by
  induction ps generalizing h with
  | nil => simp
  | cons p ps ih =>
    rw [List.foldl_cons, ih, free_objects]
    by_cases hq : q ∈ ps
    · simp [hq]
    · by_cases hqp : q = p <;> simp [hq, hqp]

/-- Freeing every object that satisfies `P` leaves exactly those that do not. -/
theorem free_pointers_objects (h : Heap E) (P : E → Bool) (p : Nat) (e : E) :
    ((h.pointers P).foldl free h).objects p = some e ↔
      h.objects p = some e ∧ P e = false := by
  rw [foldl_free_objects]
  constructor
  · intro he
    split at he
    · cases he
    · rename_i hn
      refine ⟨he, ?_⟩
      by_contra hP
      exact hn (mem_pointers.mpr ⟨e, he, by simpa using hP⟩)
  · rintro ⟨he, hP⟩
    rw [if_neg]
    · exact he
    · intro hm
      obtain ⟨e', he', hP'⟩ := mem_pointers.mp hm
      rw [he] at he'
      obtain rfl := Option.some.inj he'
      rw [hP] at hP'
      cases hP'

end Heap

section Table
variable {E K : Type} {cmp : K → K → Ordering}

/-- Looking a key up and locking the pointer found: the pointer and the live
object, if there is one. -/
def lock (h : Heap E) (m : Std.TreeMap K Nat cmp) (k : K) : Option (Nat × E) :=
  (m[k]?).bind fun p => (h.objects p).map (p, ·)

theorem lock_spec {h : Heap E} {m : Std.TreeMap K Nat cmp} {k : K} {p : Nat} {e : E}
    (hlock : lock h m k = some (p, e)) : m[k]? = some p ∧ h.objects p = some e := by
  simp only [lock, Option.bind_eq_some_iff, Option.map_eq_some_iff] at hlock
  obtain ⟨q, hq, e', he', heq⟩ := hlock
  obtain ⟨rfl, rfl⟩ := Prod.mk.inj heq
  exact ⟨hq, he'⟩

/-- The table `m` refers to the heap by `key`: a key leads to `p` iff the object
at `p` is alive and has that key. -/
def Linked (h : Heap E) (m : Std.TreeMap K Nat cmp) (key : E → K) : Prop :=
  ∀ k p, m[k]? = some p ↔ ∃ e, h.objects p = some e ∧ cmp (key e) k = .eq

namespace Linked
variable {h : Heap E} {m : Std.TreeMap K Nat cmp} {key : E → K}

theorem lock_eq_some (hl : Linked h m key) {k : K} {p : Nat} {e : E} :
    lock h m k = some (p, e) ↔ h.objects p = some e ∧ cmp (key e) k = .eq := by
  constructor
  · intro hlock
    obtain ⟨hp, he⟩ := lock_spec hlock
    obtain ⟨e', he', hk⟩ := (hl _ _).mp hp
    rw [he] at he'
    obtain rfl := Option.some.inj he'
    exact ⟨he, hk⟩
  · rintro ⟨he, hk⟩
    simp [lock, (hl _ _).mpr ⟨e, he, hk⟩, he]

/-- A lookup that locks nothing finds no pointer: no link dangles. -/
theorem getElem?_of_lock_eq_none (hl : Linked h m key) {k : K} (hk : lock h m k = none) :
    m[k]? = none := by
  cases hp : m[k]? with
  | none => rfl
  | some p =>
    obtain ⟨e, he, hek⟩ := (hl _ _).mp hp
    rw [hl.lock_eq_some.mpr ⟨he, hek⟩] at hk
    cases hk

theorem getElem?_of_lock_eq_some (hl : Linked h m key) {k : K} {p : Nat} {e : E}
    (hk : lock h m k = some (p, e)) : m[k]? = some p :=
  (hl _ _).mpr ⟨e, hl.lock_eq_some.mp hk⟩

/-- Only the objects matter. -/
theorem congr (hl : Linked h m key) {h' : Heap E} (hobj : ∀ p, h'.objects p = h.objects p) :
    Linked h' m key := by
  intro k p
  rw [hl, hobj]

/-- An object changes without changing its key. -/
theorem modify (hl : Linked h m key) (p : Nat) {f : E → E} (hf : ∀ e, key (f e) = key e) :
    Linked (h.modify p f) m key := by
  intro k q
  rw [hl, h.modify_objects]
  by_cases hq : q = p
  · subst hq
    simp [hf]
  · rw [if_neg hq]

theorem lock_modify (hl : Linked h m key) {p : Nat} {e : E} (he : h.objects p = some e)
    {f : E → E} (hf : ∀ e, key (f e) = key e) (k : K) :
    lock (h.modify p f) m k = if cmp (key e) k = .eq then some (p, f e) else lock h m k := by
  by_cases hk : cmp (key e) k = .eq
  · rw [if_pos hk]
    exact (hl.modify p hf).lock_eq_some.mpr ⟨by simp [h.modify_objects, he], by rwa [hf]⟩
  · rw [if_neg hk, lock, lock]
    cases hq : m[k]? with
    | none => rfl
    | some q =>
      have hqp : q ≠ p := by
        rintro rfl
        obtain ⟨e', he', hk'⟩ := (hl _ _).mp hq
        rw [he] at he'
        obtain rfl := Option.some.inj he'
        exact hk hk'
      simp [h.modify_objects, hqp]

/-! ## Adding and removing objects -/

variable [Std.TransCmp cmp]

theorem empty : Linked (Heap.empty : Heap E) (∅ : Std.TreeMap K Nat cmp) key := by
  intro k p
  simp

/-- A live object is found under its own key. -/
theorem self (hl : Linked h m key) {p : Nat} {e : E} (he : h.objects p = some e) :
    m[key e]? = some p :=
  (hl _ _).mpr ⟨e, he, Std.ReflCmp.compare_self⟩

/-- Two live objects with the same key are one object. -/
theorem unique (hl : Linked h m key) {p q : Nat} {e e' : E} (he : h.objects p = some e)
    (he' : h.objects q = some e') (hk : cmp (key e) (key e') = .eq) : p = q :=
  Option.some.inj (((hl _ _).mpr ⟨e, he, hk⟩).symm.trans (hl.self he'))

/-- **One more object** `e` at `p`, with a key that no other live object has, is
linked under that key. -/
theorem link (hl : Linked h m key) {h' : Heap E} {p : Nat} {e : E} (hp : h.objects p = none)
    (hobj : ∀ q, h'.objects q = if q = p then some e else h.objects q) (hnew : m[key e]? = none) :
    Linked h' (m.insert (key e) p) key := by
  intro k q
  rw [Std.TreeMap.getElem?_insert, hobj]
  by_cases hqp : q = p
  · subst hqp
    rw [if_pos rfl]
    by_cases hk : cmp (key e) k = .eq
    · simp [hk]
    · rw [if_neg hk, hl]
      simp [hk, hp]
  · rw [if_neg hqp]
    by_cases hk : cmp (key e) k = .eq
    · rw [if_pos hk]
      constructor
      · intro he
        exact absurd (Option.some.inj he).symm hqp
      · rintro ⟨e', he', hk'⟩
        have hkk : cmp (key e') (key e) = .eq :=
          Std.TransCmp.eq_trans hk' (Std.OrientedCmp.eq_symm hk)
        rw [(hl _ _).mpr ⟨e', he', hkk⟩] at hnew
        cases hnew
    · rw [if_neg hk, hl]

/-- **A new object** with a key no live object has, linked under that key. -/
theorem alloc (hl : Linked h m key) {e : E} (hnew : m[key e]? = none) :
    Linked (h.alloc e) (m.insert (key e) h.next) key :=
  hl.link (h.bounded h.next (Nat.le_refl _)) (h.alloc_objects e) hnew

/-- **An object goes**, and its owner erases its key. -/
theorem free (hl : Linked h m key) {p : Nat} {e : E} (he : h.objects p = some e) :
    Linked (h.free p) (m.erase (key e)) key := by
  intro k q
  rw [Std.TreeMap.getElem?_erase, h.free_objects]
  by_cases hk : cmp (key e) k = .eq
  · rw [if_pos hk]
    constructor
    · intro hn; cases hn
    · rintro ⟨e', he', hk'⟩
      split at he'
      · cases he'
      · rename_i hqp
        exact absurd (hl.unique he' he
          (Std.TransCmp.eq_trans hk' (Std.OrientedCmp.eq_symm hk))) hqp
  · rw [if_neg hk, hl]
    by_cases hqp : q = p
    · subst hqp
      rw [if_pos rfl]
      simp [he, hk]
    · rw [if_neg hqp]

theorem lock_alloc (hl : Linked h m key) {e : E} (hnew : m[key e]? = none) (k : K) :
    lock (h.alloc e) (m.insert (key e) h.next) k =
      if cmp (key e) k = .eq then some (h.next, e) else lock h m k := by
  by_cases hk : cmp (key e) k = .eq
  · rw [if_pos hk]
    exact (hl.alloc hnew).lock_eq_some.mpr ⟨by simp [h.alloc_objects], hk⟩
  · rw [if_neg hk, lock, lock, Std.TreeMap.getElem?_insert, if_neg hk]
    cases hp : m[k]? with
    | none => rfl
    | some p =>
      obtain ⟨e', he', _⟩ := (hl _ _).mp hp
      have hlt := Heap.lt_next he'
      simp [h.alloc_objects, Nat.ne_of_lt hlt]

end Linked

/-- The links of `m` may dangle, but none leads to an object with another key. -/
def Keyed (h : Heap E) (m : Std.TreeMap K Nat cmp) (key : E → K) : Prop :=
  ∀ k p, m[k]? = some p → p < h.next ∧ ∀ e, h.objects p = some e → cmp (key e) k = .eq

namespace Keyed
variable {h : Heap E} {m : Std.TreeMap K Nat cmp} {key : E → K}

theorem modify (hm : Keyed h m key) (p : Nat) {f : E → E} (hf : ∀ e, key (f e) = key e) :
    Keyed (h.modify p f) m key := by
  intro k q hq
  obtain ⟨hlt, hkey⟩ := hm k q hq
  refine ⟨hlt, fun e he => ?_⟩
  rw [h.modify_objects] at he
  split at he
  · rename_i hqp
    obtain ⟨e', he', rfl⟩ := Option.map_eq_some_iff.mp he
    rw [hf]
    exact hkey e' (hqp ▸ he')
  · exact hkey e he

variable [Std.TransCmp cmp]

theorem empty : Keyed (Heap.empty : Heap E) (∅ : Std.TreeMap K Nat cmp) key := by
  intro k p hp
  simp at hp

/-- A new object is linked under its key, whatever the link was before. -/
theorem alloc (hm : Keyed h m key) (e : E) :
    Keyed (h.alloc e) (m.insert (key e) h.next) key := by
  intro k q hq
  rw [Std.TreeMap.getElem?_insert] at hq
  split at hq
  · rename_i hk
    obtain rfl := Option.some.inj hq
    refine ⟨Nat.lt_succ_self _, fun e' he' => ?_⟩
    rw [h.alloc_objects, if_pos rfl] at he'
    obtain rfl := Option.some.inj he'
    exact hk
  · obtain ⟨hlt, hkey⟩ := hm k q hq
    refine ⟨Nat.lt_succ_of_lt hlt, fun e' he' => ?_⟩
    rw [h.alloc_objects, if_neg (Nat.ne_of_lt hlt)] at he'
    exact hkey e' he'

/-- Any object is linked under its key. -/
theorem insert (hm : Keyed h m key) {k : K} {p : Nat} (hlt : p < h.next)
    (hkey : ∀ e, h.objects p = some e → cmp (key e) k = .eq) : Keyed h (m.insert k p) key := by
  intro k' q hq
  rw [Std.TreeMap.getElem?_insert] at hq
  split at hq
  · rename_i hk
    obtain rfl := Option.some.inj hq
    exact ⟨hlt, fun e he => Std.TransCmp.eq_trans (hkey e he) hk⟩
  · exact hm k' q hq

theorem erase (hm : Keyed h m key) (k₀ : K) : Keyed h (m.erase k₀) key := by
  intro k q hq
  rw [Std.TreeMap.getElem?_erase] at hq
  split at hq
  · cases hq
  · exact hm k q hq

/-- An object goes, and any key is erased. -/
theorem free (hm : Keyed h m key) (p : Nat) (k₀ : K) : Keyed (h.free p) (m.erase k₀) key := by
  intro k q hq
  rw [Std.TreeMap.getElem?_erase] at hq
  split at hq
  · cases hq
  · obtain ⟨hlt, hkey⟩ := hm k q hq
    refine ⟨hlt, fun e he => ?_⟩
    rw [h.free_objects] at he
    split at he
    · cases he
    · exact hkey e he

end Keyed
end Table
end ShapingRouter.Library
