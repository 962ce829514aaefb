import Mathlib

/-! # Locks taken in order

A thread is a stack of frames, the next one to do on top.  A frame has a level; some frames
hold a lock until they are done, and the lock is of their level.  If every stack descends,
and strictly so onto a frame that holds a lock, then a thread never waits for a lock of a
level that it has passed.  So the threads cannot wait for one another in a circle: of those
on top, a frame of the highest level either holds a lock itself, and then it has only to
release it, or it finds every lock of its level free (`exists_unblocked`).
-/

namespace ShapingRouter.Library

variable {φ ℓ : Type} (level : φ → Nat) (holds : φ → Option ℓ)

/-- The levels descend from the top of the stack, and strictly so onto a frame that holds a
lock. -/
def Descends (stack : List φ) : Prop :=
  stack.Pairwise fun upper lower =>
    level lower ≤ level upper ∧ (holds lower ≠ none → level lower < level upper)

/-- No thread holds the lock. -/
def NotHeld (threads : List (List φ)) (lock : ℓ) : Prop :=
  ∀ stack ∈ threads, ∀ frame ∈ stack, holds frame ≠ some lock

variable {level holds} {threads : List (List φ)}

theorem Descends.tail {top : φ} {rest : List φ} (h : Descends level holds (top :: rest)) :
    Descends level holds rest :=
  (List.pairwise_cons.mp h).2

/-- What is put on a stack is of no lower level than what is under it. -/
theorem Descends.append {upper rest : List φ} (hupper : Descends level holds upper)
    (hrest : Descends level holds rest)
    (h : ∀ f ∈ upper, ∀ g ∈ rest, level g ≤ level f ∧ (holds g ≠ none → level g < level f)) :
    Descends level holds (upper ++ rest) :=
  List.pairwise_append.mpr ⟨hupper, hrest, h⟩

/-- A frame gives way to frames of its level or above; those that hold a lock are under
those of higher levels. -/
theorem Descends.replace {top : φ} {upper rest : List φ}
    (h : Descends level holds (top :: rest)) (hupper : Descends level holds upper)
    (hle : ∀ f ∈ upper, level top ≤ level f) : Descends level holds (upper ++ rest) := by
  obtain ⟨htop, hrest⟩ := List.pairwise_cons.mp h
  refine hupper.append hrest fun f hf g hg => ?_
  obtain ⟨hlevel, hstrict⟩ := htop g hg
  exact ⟨hlevel.trans (hle f hf), fun hheld => (hstrict hheld).trans_le (hle f hf)⟩

/-- The top frame that is of the highest level. -/
theorem exists_highest (hne : ∃ stack ∈ threads, stack ≠ []) :
    ∃ (t : Nat) (top : φ) (rest : List φ), threads[t]? = some (top :: rest) ∧
      ∀ (t' : Nat) (top' : φ) (rest' : List φ), threads[t']? = some (top' :: rest') →
        level top' ≤ level top := by
  let topLevel : Nat → Nat := fun t => ((threads[t]?.bind List.head?).map level).getD 0
  obtain ⟨stack, hmem, hstack⟩ := hne
  obtain ⟨t₀, ht₀⟩ := List.mem_iff_getElem?.mp hmem
  have hlt : ∀ {t : Nat} {stack : List φ}, threads[t]? = some stack → t < threads.length :=
    fun h => (List.getElem?_eq_some_iff.mp h).1
  let busy := (Finset.range threads.length).filter fun t => (threads[t]?.bind List.head?).isSome
  have hbusy : ∀ {t : Nat} {top : φ} {rest : List φ}, threads[t]? = some (top :: rest) →
      t ∈ busy ∧ topLevel t = level top := by
    intro t top rest ht
    refine ⟨Finset.mem_filter.mpr ⟨Finset.mem_range.mpr (hlt ht), ?_⟩, ?_⟩
    · simp [ht]
    · simp [topLevel, ht]
  obtain ⟨top₀, rest₀, rfl⟩ := List.exists_cons_of_ne_nil hstack
  obtain ⟨t, ht, hmax⟩ := Finset.exists_max_image busy topLevel ⟨t₀, (hbusy ht₀).1⟩
  obtain ⟨-, hsome⟩ := Finset.mem_filter.mp ht
  obtain ⟨top, htop⟩ := Option.isSome_iff_exists.mp hsome
  obtain ⟨stack, hstack, hhead⟩ := Option.bind_eq_some_iff.mp htop
  obtain ⟨rest, rfl⟩ := List.head?_eq_some_iff.mp hhead
  refine ⟨t, top, rest, hstack, fun t' top' rest' ht' => ?_⟩
  have hle := hmax t' (hbusy ht').1
  rwa [(hbusy ht').2, (hbusy hstack).2] at hle

/-- **No deadlock.**  Some thread is not blocked: its top frame holds a lock itself, or all
the locks of that frame's level are free. -/
theorem exists_unblocked {levelOf : ℓ → Nat}
    (hdesc : ∀ stack ∈ threads, Descends level holds stack)
    (hlevel : ∀ f lock, holds f = some lock → level f = levelOf lock)
    (hne : ∃ stack ∈ threads, stack ≠ []) :
    ∃ (t : Nat) (top : φ) (rest : List φ), threads[t]? = some (top :: rest) ∧
      (holds top ≠ none ∨ ∀ lock, levelOf lock = level top → NotHeld holds threads lock) := by
  obtain ⟨t, top, rest, ht, hmax⟩ := @exists_highest φ level threads hne
  by_cases hfree : ∀ lock, levelOf lock = level top → NotHeld holds threads lock
  · exact ⟨t, top, rest, ht, Or.inr hfree⟩
  · -- somebody holds a lock of the highest level: nothing can be on top of that frame
    simp only [NotHeld, not_forall, not_not] at hfree
    obtain ⟨lock, hlock, stack, hstack, frame, hframe, hholds⟩ := hfree
    obtain ⟨t', ht'⟩ := List.mem_iff_getElem?.mp hstack
    have hat : level frame = level top := (hlevel frame lock hholds).trans hlock
    cases stack with
    | nil => cases hframe
    | cons top' rest' =>
      rcases List.mem_cons.mp hframe with rfl | hbelow
      · exact ⟨t', frame, rest', ht', Or.inl (by simp [hholds])⟩
      · have hstrict := ((List.pairwise_cons.mp (hdesc _ hstack)).1 frame hbelow).2
          (by simp [hholds])
        have hle := hmax t' top' rest' ht'
        omega

end ShapingRouter.Library
