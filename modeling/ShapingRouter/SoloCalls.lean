import Mathlib
import ShapingRouter.ConnectionProgress

/-! # Calls one after the other

The sequential model of a NAT lets each call return before the next one begins, and what is
due expire in between.  The tasks of an owner can do so: between two calls every entry has one
reference, that of the handler which waits for its timer (`ConnSystem.Rests`), and a call
that goes on alone, with the handlers that it makes ready, ends in such a state again.

What a sequential model says of an owner is then what its tasks come to, step by step
(`ConnSystem.Simulates`).
-/

namespace ShapingRouter
open Library Std

/-- The members of an entry, whose owner has the given timeout. -/
def ConnectionEntry.members (connectionTimeout : UInt32) (e : ConnectionEntry) : EntryMembers :=
  .new connectionTimeout e.extTuple e.intTuple

/-- The entries, each with the reference of its handler. -/
def counted (connectionTimeout : UInt32) (entries : Heap ConnectionEntry) :
    Heap (Counted EntryMembers) :=
  entries.map fun e => ⟨e.members connectionTimeout, 1⟩

/-- A timer that is armed now expires no later than the entry does. -/
theorem expiry_le_lifetime (connectionTimeout : UInt32) (now : Nat) :
    (now : Int) + ConnectionEntry.timeout connectionTimeout * 10 ^ 9 ≤
      ((now + ConnectionEntry.lifetime connectionTimeout : Nat) : Int) := by
  have hle := Int.self_le_toNat (ConnectionEntry.timeout connectionTimeout)
  rw [ConnectionEntry.lifetime]
  push_cast
  omega

section Counted
variable {connectionTimeout : UInt32} {entries : Heap ConnectionEntry} {p : Nat}
  {e : ConnectionEntry}

theorem counted_objects (p : Nat) : (counted connectionTimeout entries).objects p =
    (entries.objects p).map fun e => ⟨e.members connectionTimeout, 1⟩ := rfl

theorem counted_objects_some (he : entries.objects p = some e) :
    (counted connectionTimeout entries).objects p = some ⟨e.members connectionTimeout, 1⟩ := by
  rw [counted_objects, he]
  rfl

theorem useCount_counted (he : entries.objects p = some e) :
    (counted connectionTimeout entries).useCount p = 1 :=
  Heap.useCount_of_some (counted_objects_some he)

/-- Rearming an entry changes its timer only. -/
theorem counted_rearm (connectionTimeout : UInt32) (entries : Heap ConnectionEntry) (p now : Nat) :
    counted connectionTimeout (entries.modify p (·.rearm now connectionTimeout)) =
      counted connectionTimeout entries := by
  refine Heap.ext (funext fun q => ?_) rfl
  simp only [counted, Heap.map, Heap.modify_objects]
  split
  · rename_i hq
    rw [hq, Option.map_map]
    rfl
  · rfl

/-- **Locking is the same** with and without counted references. -/
theorem lockCounted_counted {K : Type} {cmp : K → K → Ordering} (connectionTimeout : UInt32)
    (entries : Heap ConnectionEntry) (m : TreeMap K Nat cmp) (k : K) :
    lockCounted (counted connectionTimeout entries) m k =
      (lock entries m k).map Prod.fst := by
  rw [lockCounted, lock]
  cases m[k]? with
  | none => rfl
  | some p =>
    cases he : entries.objects p with
    | none =>
      have hnone : (counted connectionTimeout entries).useCount p = 0 :=
        Heap.useCount_of_none (by rw [counted_objects, he, Option.map_none])
      simp [hnone, he]
    | some e => simp [useCount_counted he, he]

end Counted

namespace ConnTask
variable {C ρ : Type} [CodePosition C] {t : ConnTask C ρ} {p : Nat}

/-- The task is in its owner's code. -/
def inCode : ConnTask C ρ → Bool
  | .code _ => true
  | _ => false

theorem cancel_of_not_mem (hp : p ∉ t.refs) : t.cancel p = t := by
  cases t with
  | waiting q expiry =>
    rw [cancel, if_neg]
    rintro rfl
    exact hp (Multiset.mem_singleton_self q)
  | _ => rfl

theorem locked_of_not_active (ht : ¬ t.Active) : t.locked = false := by
  cases t with
  | returned | waiting | done => rfl
  | _ => exact absurd trivial ht

end ConnTask

namespace ConnSystem
variable {M C ρ : Type}

/-! ## One task goes on alone -/

/-- The tasks `T` and `U`, and the task `t` between them. -/
def focused (T U : List (ConnTask C ρ)) (maps : M) (entries : Heap (Counted EntryMembers))
    (now : Int) (t : ConnTask C ρ) : ConnSystem M C ρ := ⟨maps, entries, T ++ t :: U, now⟩

section Focused
variable {T U : List (ConnTask C ρ)} {maps : M} {entries : Heap (Counted EntryMembers)} {now : Int}
  {t t' : ConnTask C ρ} {p : Nat}

theorem focused_self : (focused T U maps entries now t).tasks[T.length]? = some t := by
  simp [focused]

theorem focused_goes :
    (focused T U maps entries now t).goes T.length t' = focused T U maps entries now t' := by
  simp [focused, goes]

/-- Another task comes into focus. -/
theorem focused_focused {A B : List (ConnTask C ρ)} :
    focused (A ++ t :: B) U maps entries now t' = focused A (B ++ t' :: U) maps entries now t := by
  simp [focused]

theorem focused_drops (hcount : entries.useCount p ≠ 1) (hasMutex : Bool) :
    (focused T U maps entries now t).drops T.length p hasMutex t' =
      focused T U maps (entries.unref p) now t' := by
  have hcount' : (focused T U maps entries now t).entries.useCount p ≠ 1 := hcount
  rw [drops, if_neg hcount']
  show (focused T U maps (entries.unref p) now t).goes T.length t' = _
  exact focused_goes

theorem focused_stops :
    (focused T U maps entries now t).stops T.length p t' =
      focused (T.map (.cancel p)) (U.map (.cancel p)) maps entries now t' := by
  simp [focused, goes, stops]

theorem focused_arms (timeout : Int) :
    (focused T U maps entries now t).arms T.length p timeout t' =
      focused (T.map (.cancel p)) (U.map (.cancel p) ++ [.waiting p (now + timeout * 10 ^ 9)]) maps
        ((entries.acquire p).acquire p) now t' := by
  simp [focused, arms]

end Focused

theorem mem_focused {T U : List (ConnTask C ρ)} {t u : ConnTask C ρ} :
    u ∈ T ++ t :: U ↔ u = t ∨ u ∈ T ++ U := by
  rw [List.mem_append, List.mem_cons, List.mem_append, or_left_comm]

variable [CodePosition C] {owner : ConnOwner M C ρ}
  {Handled : ConnSystem M C ρ → ConnEvent → Prop}

/-- Tasks go on, one step after the other, and each step meets `Handled`. -/
def Reaches (owner : ConnOwner M C ρ) (Handled : ConnSystem M C ρ → ConnEvent → Prop) :
    ConnSystem M C ρ → ConnSystem M C ρ → Prop :=
  Relation.ReflTransGen fun s s' => ∃ i, Step owner s (.goes i) s' ∧ Handled s (.goes i)

/-- What is asked of an owner, and of the condition on the steps: only steps in the owner's code
may fail to meet it. -/
structure Solo (owner : ConnOwner M C ρ) (Handled : ConnSystem M C ρ → ConnEvent → Prop) :
    Prop where
  sound : ∀ {s e s'}, s.Sound → Step owner s e s' → s'.Sound
  offCode : ∀ {s i t}, s.tasks[i]? = some t → t.inCode = false → Handled s (.goes i)

namespace Reaches
variable {s s₁ s' : ConnSystem M C ρ} {T T' U : List (ConnTask C ρ)} {maps maps' : M}
  {entries entries' : Heap (Counted EntryMembers)} {now : Int} {t t' : ConnTask C ρ} {p : Nat}
  {c : C} {r : ρ}

theorem refl (s : ConnSystem M C ρ) : Reaches owner Handled s s := Relation.ReflTransGen.refl

theorem trans (run : Reaches owner Handled s s₁) (h : Reaches owner Handled s₁ s') :
    Reaches owner Handled s s' := Relation.ReflTransGen.trans run h

theorem step {i : Nat} (run : Reaches owner Handled s s₁) (h : Step owner s₁ (.goes i) s')
    (hhandled : Handled s₁ (.goes i)) : Reaches owner Handled s s' :=
  Relation.ReflTransGen.tail run ⟨i, h, hhandled⟩

theorem step_focused {t₁ : ConnTask C ρ} (run : Reaches owner Handled s s₁)
    (h : Step owner s₁ (.goes T.length) ((focused T U maps entries now t).goes T.length t₁))
    (hhandled : Handled s₁ (.goes T.length)) :
    Reaches owner Handled s (focused T U maps entries now t₁) :=
  run.step (focused_goes ▸ h) hhandled

/-- The task goes on in its owner's code. -/
theorem code (run : Reaches owner Handled s (focused T U maps entries now (.code c)))
    (h : owner.step (focused T U maps entries now (.code c)) T.length c
      ((focused T U maps' entries' now (.code c)).goes T.length t'))
    (hhandled : Handled (focused T U maps entries now (.code c)) (.goes T.length)) :
    Reaches owner Handled s (focused T U maps' entries' now t') :=
  run.step_focused (.code _ c _ focused_self h) hhandled

/-- It drops a reference that is not the last one. -/
theorem code_drops (run : Reaches owner Handled s (focused T U maps entries now (.code c)))
    (hcount : entries.useCount p ≠ 1) (hasMutex : Bool)
    (h : owner.step (focused T U maps entries now (.code c)) T.length c
      ((focused T U maps entries now (.code c)).drops T.length p hasMutex t'))
    (hhandled : Handled (focused T U maps entries now (.code c)) (.goes T.length)) :
    Reaches owner Handled s (focused T U maps (entries.unref p) now t') :=
  run.step (focused_drops hcount hasMutex ▸ .code _ c _ focused_self h) hhandled

/-- It arms a timer. -/
theorem code_arms (run : Reaches owner Handled s (focused T U maps entries now (.code c)))
    (timeout : Int)
    (h : owner.step (focused T U maps entries now (.code c)) T.length c
      ((focused T U maps entries now (.code c)).arms T.length p timeout t'))
    (hhandled : Handled (focused T U maps entries now (.code c)) (.goes T.length)) :
    Reaches owner Handled s
      (focused (T.map (.cancel p)) (U.map (.cancel p) ++ [.waiting p (now + timeout * 10 ^ 9)])
        maps ((entries.acquire p).acquire p) now t') :=
  run.step (focused_arms timeout ▸ .code _ c _ focused_self h) hhandled

/-- `stop`. -/
theorem stop (ho : Solo owner Handled)
    (run : Reaches owner Handled s (focused T U maps entries now (.found p r))) :
    Reaches owner Handled s
      (focused (T.map (.cancel p)) (U.map (.cancel p)) maps entries now (.stopped p r)) :=
  run.step (focused_stops ▸ .stop _ p r focused_self) (ho.offCode focused_self rfl)

/-- `armTimer`, but for its end. -/
theorem arm (ho : Solo owner Handled)
    (run : Reaches owner Handled s (focused T U maps entries now (.stopped p r)))
    {entry : Counted EntryMembers} (he : entries.objects p = some entry) :
    Reaches owner Handled s
      (focused (T.map (.cancel p))
        (U.map (.cancel p) ++ [.waiting p (now + entry.val.timeout * 10 ^ 9)])
        maps ((entries.acquire p).acquire p) now (.armed p r)) :=
  run.step (focused_arms entry.val.timeout ▸ .arm _ p r entry focused_self he)
    (ho.offCode focused_self rfl)

/-- The end of `armTimer`, when its reference is not the last one. -/
theorem armed (ho : Solo owner Handled)
    (run : Reaches owner Handled s (focused T U maps entries now (.armed p r)))
    (hcount : entries.useCount p ≠ 1) :
    Reaches owner Handled s (focused T U maps (entries.unref p) now (.holding p r)) :=
  run.step (focused_drops hcount false ▸ .armed _ p r focused_self)
    (ho.offCode focused_self rfl)

/-- A call returns, and its reference is not the last one. -/
theorem ret (ho : Solo owner Handled)
    (run : Reaches owner Handled s (focused T U maps entries now (.holding p r)))
    (hcount : entries.useCount p ≠ 1) :
    Reaches owner Handled s (focused T U maps (entries.unref p) now (.returned r)) :=
  run.step (focused_drops hcount false ▸ .ret _ p r focused_self)
    (ho.offCode focused_self rfl)

/-- A handler runs, and its reference is not the last one. -/
theorem handler (ho : Solo owner Handled)
    (run : Reaches owner Handled s (focused T U maps entries now (.ready p)))
    (hcount : entries.useCount p ≠ 1) :
    Reaches owner Handled s (focused T U maps (entries.unref p) now .done) :=
  run.step (focused_drops hcount false ▸ .handler _ p focused_self)
    (ho.offCode focused_self rfl)

/-- A timer expires. -/
theorem expire (ho : Solo owner Handled) {expiry : Int}
    (run : Reaches owner Handled s (focused T U maps entries now (.waiting p expiry)))
    (hle : expiry ≤ now) : Reaches owner Handled s (focused T U maps entries now (.ready p)) := by
  exact run.step_focused (.expire T.length p expiry focused_self hle)
    (ho.offCode focused_self rfl)

/-- A handler runs, and drops the last reference. -/
theorem handler_last (ho : Solo owner Handled)
    (run : Reaches owner Handled s (focused T U maps entries now (.ready p)))
    (hlast : entries.useCount p = 1) :
    Reaches owner Handled s
      (focused T U maps (entries.unref p) now (.removing p false .done)) := by
  have hstep : Step owner (focused T U maps entries now (.ready p)) _ _ :=
    .handler T.length p focused_self
  have hlast' : (focused T U maps entries now (.ready p : ConnTask C ρ)).entries.useCount p = 1 :=
    hlast
  rw [drops, if_pos hlast'] at hstep
  exact run.step_focused hstep (ho.offCode focused_self rfl)

/-- The deleter gets the mutex. -/
theorem remove (ho : Solo owner Handled)
    (run : Reaches owner Handled s (focused T U maps entries now (.removing p false t)))
    {entry : Counted EntryMembers} (he : entries.objects p = some entry)
    (hfree : ∀ u ∈ T ++ U, u.locked = false) :
    Reaches owner Handled s
      (focused T U (owner.removeFromMaps entry.val maps) (entries.free p) now t) := by
  have hstep : Step owner (focused T U maps entries now (.removing p false t)) _ _ :=
    .remove T.length p t entry focused_self (fun u hu => by
      rcases mem_focused.mp hu with rfl | hu
      · rfl
      · exact hfree u hu) he
  exact run.step_focused hstep (ho.offCode focused_self rfl)

/-- A call rearms the entry that it has locked, and returns. -/
theorem rearm (ho : Solo owner Handled)
    (run : Reaches owner Handled s (focused T [] maps (entries.acquire p) now (.found p r)))
    {entry : Counted EntryMembers} (he : entries.objects p = some entry)
    (hcount : entries.useCount p ≠ 0) (hcancel : T.map (.cancel p) = T')
    (hcancel' : T'.map (.cancel p) = T') :
    Reaches owner Handled s
      (focused T' [.waiting p (now + entry.val.timeout * 10 ^ 9)] maps (entries.acquire p) now
        (.returned r)) := by
  have hlocked := Heap.useCount_acquire_self hcount
  have hself := Heap.useCount_acquire_self (h := entries.acquire p) (p := p) (by omega)
  have hhandler := Heap.useCount_acquire_self (h := (entries.acquire p).acquire p) (p := p)
    (by omega)
  have run := (run.stop ho).arm ho (Heap.acquire_objects he)
  rw [hcancel, hcancel'] at run
  have run := run.armed ho (by omega)
  rw [Heap.unref_acquire] at run
  have run := run.ret ho (by omega)
  rwa [Heap.unref_acquire] at run

/-- The steps of tasks keep the references counted. -/
theorem sound (ho : Solo owner Handled) (run : Reaches owner Handled s s') (hs : s.Sound) :
    s'.Sound := by
  induction run with
  | refl => exact hs
  | tail _ h ih =>
    obtain ⟨i, hstep, -⟩ := h
    exact ho.sound ih hstep

end Reaches

/-! ## Between two calls -/

/-- Between two calls, when an owner has the maps `maps` and the entries `h`: no task has
anything to do, and for each entry a handler waits, whose timer expires no later than the entry
does. -/
structure Rests (connectionTimeout : UInt32) (maps : M) (h : Heap ConnectionEntry)
    (s : ConnSystem M C ρ) : Prop where
  maps : s.maps = maps
  entries : s.entries = counted connectionTimeout h
  quiet : ∀ t ∈ s.tasks, ¬ t.Active
  handler : ∀ p e, h.objects p = some e →
    ∃ expiry, .waiting p expiry ∈ s.tasks ∧ expiry ≤ (e.expires : Int)
  sound : s.Sound

/-- A call for `pkt`, which begins in `s` and goes on alone, returns `r`; then the owner rests,
with the maps `maps` and the entries `h`. -/
def Returns (owner : ConnOwner M C ρ) (Handled : ConnSystem M C ρ → ConnEvent → Prop)
    (connectionTimeout : UInt32) (s : ConnSystem M C ρ) (pkt : Packet) (r : ρ) (maps : M)
    (h : Heap ConnectionEntry) : Prop :=
  ∃ s', Reaches owner Handled { s with tasks := s.tasks ++ [owner.call pkt] } s' ∧
    Rests connectionTimeout maps h s' ∧ s'.tasks[s.tasks.length]? = some (.returned r) ∧
      s'.now = s.now

namespace Rests
variable {connectionTimeout : UInt32} {maps maps' : M} {h : Heap ConnectionEntry}
  {s s' : ConnSystem M C ρ} {p : Nat} {e : ConnectionEntry} {now : Nat} {pkt : Packet} {r : ρ}

/-- Before the first call. -/
theorem new (connectionTimeout : UInt32) (maps : M) :
    Rests connectionTimeout maps .empty ({ maps := maps } : ConnSystem M C ρ) where
  maps := rfl
  entries := rfl
  quiet := nofun
  handler := nofun
  sound := .new maps

/-- Time passes. -/
theorem tick (hr : Rests connectionTimeout maps h s) (now : Int) :
    Rests connectionTimeout maps h { s with now := now } :=
  ⟨hr.maps, hr.entries, hr.quiet, hr.handler, ⟨hr.sound.counts, hr.sound.deleters,
    hr.sound.exclusive⟩⟩

/-- The one handler of an entry, among the tasks. -/
theorem split (hr : Rests connectionTimeout maps h s) (he : h.objects p = some e) :
    ∃ A B expiry, s.tasks = A ++ .waiting p expiry :: B ∧ expiry ≤ (e.expires : Int) ∧
      ∀ t ∈ A ++ B, p ∉ t.refs := by
  obtain ⟨expiry, hmem, hle⟩ := hr.handler p e he
  obtain ⟨A, B, htasks⟩ := List.append_of_mem hmem
  refine ⟨A, B, expiry, htasks, hle, fun t ht hp => ?_⟩
  have hcount := hr.sound.counts p
  rw [hr.entries, useCount_counted he, refs, htasks] at hcount
  have hrefs : holdings ConnTask.refs (A ++ .waiting p expiry :: B) =
      p ::ₘ holdings ConnTask.refs (A ++ B) := by
    simp [ConnTask.refs]
  obtain ⟨i, hi⟩ := List.mem_iff_getElem?.mp ht
  have hpos : p ∈ holdings ConnTask.refs (A ++ B) := mem_holdings.mpr ⟨i, t, hi, hp⟩
  rw [hrefs, Multiset.count_cons_self] at hcount
  have := Multiset.count_pos.mpr hpos
  omega

/-- **An entry expires**: its handler runs, drops the last reference, and runs the deleter. -/
theorem timeout (ho : Solo owner Handled) (hr : Rests connectionTimeout maps h s)
    (he : h.objects p = some e) (hdue : (e.expires : Int) ≤ s.now) :
    ∃ s', Reaches owner Handled s s' ∧
      Rests connectionTimeout (owner.removeFromMaps (e.members connectionTimeout) maps) (h.free p)
        s' ∧ s'.now = s.now := by
  obtain ⟨A, B, expiry, htasks, hle, hother⟩ := hr.split he
  obtain ⟨m, counts, tasks, now⟩ := s
  obtain ⟨hmaps, hcounts, hquiet, hhandler, hsound⟩ := hr
  obtain rfl : m = maps := hmaps
  obtain rfl : counts = counted connectionTimeout h := hcounts
  obtain rfl : tasks = A ++ .waiting p expiry :: B := htasks
  have hlast : (counted connectionTimeout h).useCount p = 1 := useCount_counted he
  have hquiet' : ∀ t ∈ A ++ B, ¬ t.Active :=
    fun t ht => hquiet t (mem_focused.mpr (Or.inr ht))
  have run : Reaches owner Handled (focused A B m (counted connectionTimeout h) now
      (.waiting p expiry)) _ := Reaches.expire ho (.refl _) (hle.trans hdue)
  have run := (run.handler_last ho hlast).remove ho (Heap.unref_objects (counted_objects_some he))
    fun u hu => ConnTask.locked_of_not_active (hquiet' u hu)
  refine ⟨_, run, ⟨rfl, ?_, ?_, ?_, run.sound ho hsound⟩, rfl⟩
  · show ((counted connectionTimeout h).unref p).free p = counted connectionTimeout (h.free p)
    rw [Heap.free_unref, counted, counted, Heap.map_free]
  · rintro t ht hactive
    rcases mem_focused.mp ht with rfl | ht
    · exact hactive
    · exact hquiet' t ht hactive
  · intro q e' he'
    rw [Heap.free_objects] at he'
    split at he'
    · cases he'
    · rename_i hqp
      obtain ⟨expiry', hmem, hle'⟩ := hhandler q e' he'
      refine ⟨expiry', mem_focused.mpr (Or.inr ?_), hle'⟩
      rcases mem_focused.mp hmem with heq | hmem
      · exact absurd (ConnTask.waiting.inj heq).1 hqp
      · exact hmem

section Expire
variable {σ : Type} {mapsOf : σ → M} {entriesOf : σ → Heap ConnectionEntry} {expires : σ → Nat → σ}
  {x : σ}

/-- Entries expire, one after the other. -/
theorem foldl (ho : Solo owner Handled)
    (hnone : ∀ x p, (entriesOf x).objects p = none → expires x p = x)
    (hsome : ∀ x p e, (entriesOf x).objects p = some e →
      mapsOf (expires x p) = owner.removeFromMaps (e.members connectionTimeout) (mapsOf x) ∧
        entriesOf (expires x p) = (entriesOf x).free p) {ps : List Nat}
    (hr : Rests connectionTimeout (mapsOf x) (entriesOf x) s)
    (hdue : ∀ p ∈ ps, ∀ e, (entriesOf x).objects p = some e → (e.expires : Int) ≤ s.now) :
    ∃ s', Reaches owner Handled s s' ∧
      Rests connectionTimeout (mapsOf (ps.foldl expires x)) (entriesOf (ps.foldl expires x)) s' ∧
        s'.now = s.now := by
  induction ps generalizing x s with
  | nil => exact ⟨s, .refl s, hr, rfl⟩
  | cons p ps ih =>
    rw [List.foldl_cons]
    cases he : (entriesOf x).objects p with
    | none =>
      rw [hnone x p he]
      exact ih hr fun q hq => hdue q (List.mem_cons_of_mem _ hq)
    | some e =>
      obtain ⟨s₁, run, hr₁, hnow⟩ := hr.timeout ho he (hdue p List.mem_cons_self e he)
      obtain ⟨hmaps, hentries⟩ := hsome x p e he
      rw [← hmaps, ← hentries] at hr₁
      obtain ⟨s', run', hr', hnow'⟩ := ih hr₁ fun q hq e' he' => by
        rw [hentries, Heap.free_objects] at he'
        split at he'
        · cases he'
        · rw [hnow]
          exact hdue q (List.mem_cons_of_mem _ hq) e' he'
      exact ⟨s', run.trans run', hr', hnow'.trans hnow⟩

variable (mapsOf entriesOf expires) in
/-- **What is due expires.** -/
theorem expire (ho : Solo owner Handled)
    (hnone : ∀ x p, (entriesOf x).objects p = none → expires x p = x)
    (hsome : ∀ x p e, (entriesOf x).objects p = some e →
      mapsOf (expires x p) = owner.removeFromMaps (e.members connectionTimeout) (mapsOf x) ∧
        entriesOf (expires x p) = (entriesOf x).free p)
    (hr : Rests connectionTimeout (mapsOf x) (entriesOf x) s) (hnow : s.now = (now : Int)) {x' : σ}
    (hx' : x' = ((entriesOf x).pointers (·.due now)).foldl expires x) :
    ∃ s', Reaches owner Handled s s' ∧ Rests connectionTimeout (mapsOf x') (entriesOf x') s' ∧
      s'.now = s.now := by
  rw [hx']
  refine hr.foldl ho hnone hsome fun p hp e he => ?_
  obtain ⟨e', he', hdue⟩ := Heap.mem_pointers.mp hp
  rw [he] at he'
  obtain rfl := Option.some.inj he'
  rw [hnow]
  exact Int.ofNat_le.mpr (of_decide_eq_true hdue)

end Expire

/-! ### A call -/

theorem next (hr : Rests connectionTimeout maps h s) : s.entries.next = h.next := by
  rw [hr.entries]
  rfl

/-- A reference that a call has locked is not the last one. -/
theorem useCount_acquire_ne (hr : Rests connectionTimeout maps h s) (he : h.objects p = some e) :
    (s.entries.acquire p).useCount p ≠ 1 := by
  have hcount : s.entries.useCount p = 1 := by rw [hr.entries, useCount_counted he]
  have hlocked := Heap.useCount_acquire_self (h := s.entries) (p := p) (by omega)
  omega

/-- Nobody has the mutex, while a call is alone and has it not. -/
theorem free_focused (hr : Rests connectionTimeout maps h s) {t : ConnTask C ρ}
    (ht : t.locked = false) {entries : Heap (Counted EntryMembers)} :
    (focused s.tasks [] maps' entries s.now t).Free := by
  intro u hu
  rcases mem_focused.mp hu with rfl | hu
  · exact ht
  · exact ConnTask.locked_of_not_active (hr.quiet u (List.append_nil s.tasks ▸ hu))

/-- The system in which a call has just begun. -/
theorem call_sound (ho : Solo owner Handled) (hr : Rests connectionTimeout maps h s)
    (run : Reaches owner Handled { s with tasks := s.tasks ++ [owner.call pkt] } s') :
    s'.Sound := run.sound ho (ho.sound hr.sound (.call pkt))

/-- It returns with no trace. -/
theorem returns (ho : Solo owner Handled) (hr : Rests connectionTimeout maps h s)
    (run : Reaches owner Handled { s with tasks := s.tasks ++ [owner.call pkt] }
      (focused s.tasks [] s.maps s.entries s.now (.returned r))) :
    Returns owner Handled connectionTimeout s pkt r maps h := by
  refine ⟨_, run, ⟨hr.maps, hr.entries, ?_, ?_, hr.call_sound ho run⟩, focused_self, rfl⟩
  · intro t ht hactive
    rcases mem_focused.mp ht with rfl | ht
    · exact hactive
    · exact hr.quiet t (List.append_nil s.tasks ▸ ht) hactive
  · intro q e he
    obtain ⟨expiry, hmem, hle⟩ := hr.handler q e he
    exact ⟨expiry, List.mem_append_left _ hmem, hle⟩

/-- It has made an entry, for which a handler waits. -/
theorem returns_new (ho : Solo owner Handled) (hr : Rests connectionTimeout maps h s)
    {expiry : Int} (hle : expiry ≤ (e.expires : Int))
    (run : Reaches owner Handled { s with tasks := s.tasks ++ [owner.call pkt] }
      (focused s.tasks [.waiting s.entries.next expiry] maps'
        (s.entries.alloc ⟨e.members connectionTimeout, 1⟩) s.now (.returned r))) :
    Returns owner Handled connectionTimeout s pkt r maps' (h.alloc e) := by
  refine ⟨_, run, ⟨rfl, ?_, ?_, ?_, hr.call_sound ho run⟩, focused_self, rfl⟩
  · show s.entries.alloc _ = _
    rw [hr.entries, counted, counted, Heap.map_alloc]
  · intro t ht hactive
    rcases mem_focused.mp ht with rfl | ht
    · exact hactive
    · rcases List.mem_append.mp ht with ht | ht
      · exact hr.quiet t ht hactive
      · obtain rfl := List.mem_singleton.mp ht
        exact hactive
  · intro q e' he'
    rw [Heap.alloc_objects] at he'
    split at he'
    · rename_i hq
      obtain rfl := Option.some.inj he'
      refine ⟨expiry, mem_focused.mpr (Or.inr (List.mem_append_right _ ?_)), hle⟩
      rw [hq, hr.next]
      exact List.mem_singleton_self _
    · obtain ⟨expiry', hmem, hle'⟩ := hr.handler q e' he'
      exact ⟨expiry', List.mem_append_left _ hmem, hle'⟩

/-- No handler waits for an entry that is still to be made. -/
theorem map_cancel_next (hr : Rests connectionTimeout maps h s) :
    s.tasks.map (.cancel s.entries.next) = s.tasks := by
  refine (List.map_congr_left fun t ht => ?_).trans (List.map_id _)
  obtain ⟨i, hi⟩ := List.mem_iff_getElem?.mp ht
  exact ConnTask.cancel_of_not_mem fun hp => hr.sound.counts.next_not_mem (mem_refs hi hp)

/-- It has locked an entry, and rearms it: the old handler goes with its reference. -/
theorem returns_rearmed (ho : Solo owner Handled) (hr : Rests connectionTimeout maps h s)
    (he : h.objects p = some e) (hnow : s.now = (now : Int))
    (run : Reaches owner Handled { s with tasks := s.tasks ++ [owner.call pkt] }
      (focused s.tasks [] s.maps (s.entries.acquire p) s.now (.found p r))) :
    Returns owner Handled connectionTimeout s pkt r maps
      (h.modify p (·.rearm now connectionTimeout)) := by
  obtain ⟨A, B, old, htasks, -, hother⟩ := hr.split he
  have hcancel : ∀ {l : List (ConnTask C ρ)}, (∀ t ∈ l, t ∈ A ++ B) → l.map (.cancel p) = l :=
    fun hl => (List.map_congr_left fun t ht =>
      ConnTask.cancel_of_not_mem (hother t (hl t ht))).trans (List.map_id _)
  have hA := hcancel fun t => List.mem_append_left B
  have hB := hcancel fun t => List.mem_append_right A
  have hentry : s.entries.objects p = some ⟨e.members connectionTimeout, 1⟩ := by
    rw [hr.entries]
    exact counted_objects_some he
  have hcount : s.entries.useCount p = 1 := Heap.useCount_of_some hentry
  have hcancelled : s.tasks.map (.cancel p) = A ++ .ready p :: B := by
    rw [htasks, List.map_append, List.map_cons, hA, hB, ConnTask.cancel, if_pos rfl]
  have hcancelled' : (A ++ .ready p :: B).map (.cancel p) = A ++ .ready p :: B := by
    rw [List.map_append, List.map_cons, hA, hB]
    rfl
  -- the call arms the timer again, and so the old handler is ready
  have run := run.rearm ho hentry (by omega) hcancelled hcancelled'
  rw [focused_focused] at run
  have run := run.handler ho (hr.useCount_acquire_ne he)
  rw [Heap.unref_acquire, ← focused_focused] at run
  refine ⟨_, run, ⟨hr.maps, ?_, ?_, ?_, hr.call_sound ho run⟩, ?_, rfl⟩
  · rw [counted_rearm]
    exact hr.entries
  · have hquiet : ∀ t ∈ A ++ B, ¬ t.Active :=
      fun t ht => hr.quiet t (htasks ▸ mem_focused.mpr (Or.inr ht))
    intro t ht hactive
    rcases mem_focused.mp ht with rfl | ht
    · exact hactive
    · rcases List.mem_append.mp ht with ht | ht
      · rcases mem_focused.mp ht with rfl | ht
        · exact hactive
        · exact hquiet t ht hactive
      · obtain rfl := List.mem_singleton.mp ht
        exact hactive
  · intro q e' he'
    rw [Heap.modify_objects] at he'
    split at he'
    · rename_i hq
      rw [he] at he'
      obtain rfl := Option.some.inj he'
      refine ⟨s.now + ConnectionEntry.timeout connectionTimeout * 10 ^ 9,
        mem_focused.mpr (Or.inr (List.mem_append_right _ ?_)), ?_⟩
      · rw [hq]
        exact List.mem_singleton_self _
      · rw [hnow]
        exact expiry_le_lifetime connectionTimeout now
    · rename_i hq
      obtain ⟨expiry, hmem, hle⟩ := hr.handler q e' he'
      refine ⟨expiry, List.mem_append_left _ (mem_focused.mpr (Or.inr ?_)), hle⟩
      rw [htasks] at hmem
      rcases mem_focused.mp hmem with heq | hmem
      · exact absurd (ConnTask.waiting.inj heq).1 hq
      · exact hmem
  · have hlength : s.tasks.length = (A ++ .done :: B : List (ConnTask C ρ)).length := by
      rw [htasks, List.length_append, List.length_append]
      rfl
    rw [hlength]
    exact focused_self

end Rests
/-- **The tasks of an owner do what a sequential model says**, when its calls come one after the
other: `Matches x s` says that the owner rests in `s` as the model is in `x`. -/
structure Simulates {σ : Type} (owner : ConnOwner M C ρ)
    (Handled : ConnSystem M C ρ → ConnEvent → Prop) (Matches : σ → ConnSystem M C ρ → Prop)
    (expire : Nat → σ → σ) (call : Nat → Packet → σ → Option (σ × ρ)) : Prop where
  tick : ∀ {x s} (now : Int), Matches x s → Matches x { s with now := now }
  expire : ∀ {x s} {now : Nat}, Matches x s → s.now = (now : Int) →
    ∃ s', Reaches owner Handled s s' ∧ Matches (expire now x) s' ∧ s'.now = s.now
  call : ∀ {x s} {now : Nat} {pkt x' r}, Matches x s → s.now = (now : Int) →
    call now pkt x = some (x', r) →
    ∃ s', Reaches owner Handled { s with tasks := s.tasks ++ [owner.call pkt] } s' ∧
      Matches x' s' ∧ s'.tasks[s.tasks.length]? = some (.returned r) ∧ s'.now = s.now

end ConnSystem
end ShapingRouter
