import Mathlib
import ShapingRouter.DelayFilters
import ShapingRouter.Library.Run

/-! # The delay curve of DynamicDelay

`setDelays` turns the fix points of the curve into one delay for each second, and
pushes these to `delayQ_`.  `delayPopHandler` takes the first delay, pushes it back to
the end, and is called again a second later.

A segment of the curve goes from one fix point to the next one, the last one to the
first (`curve_eq`).  The code starts each segment at the last delay that it computed;
this delay is the fix point itself, so nothing adds up.  Then the queue goes round: at
all times either one call is posted, with the delay that is taken from the queue, or
one timer is pending and the queue holds the whole curve (`Plays`).
-/

namespace ShapingRouter
open Library

/-! ## Lists of blocks, and lists that go round -/

section Lists
variable {α β : Type}

/-- In a list of blocks of one length, where to find an element of a block. -/
theorem getElem?_flatMap {f : α → List β} {n : Nat} {l : List α}
    (hlength : ∀ x ∈ l, (f x).length = n) {i a : Nat} (ha : a < n) :
    (l.flatMap f)[i * n + a]? = l[i]?.bind fun x => (f x)[a]? := by
  induction l generalizing i with
  | nil => simp
  | cons x l ih =>
    have hx : (f x).length = n := hlength x List.mem_cons_self
    rw [List.flatMap_cons]
    cases i with
    | zero =>
      rw [Nat.zero_mul, Nat.zero_add, List.getElem?_append_left (by omega)]
      rfl
    | succ i =>
      have hle : n ≤ (i + 1) * n + a := by nlinarith
      have hsub : (i + 1) * n + a - n = i * n + a := by
        rw [Nat.succ_mul]
        omega
      rw [List.getElem?_append_right (by omega), hx, hsub,
        ih fun y hy => hlength y (List.mem_cons_of_mem _ hy)]
      rfl

/-- The first element moves to the end. -/
theorem rotate_succ {l rest : List α} {k : Nat} {d : α} (h : d :: rest = l.rotate k) :
    rest ++ [d] = l.rotate (k + 1) := by
  rw [← List.rotate_rotate, ← h, List.rotate_cons_succ, List.rotate_zero]

/-- What comes first after `k` moves. -/
theorem getElem?_of_rotate {l rest : List α} {k : Nat} {d : α} (h : d :: rest = l.rotate k) :
    l[k % l.length]? = some d := by
  have hne : l ≠ [] := by
    rintro rfl
    simp at h
  rw [← List.head?_rotate (Nat.mod_lt _ (List.length_pos_of_ne_nil hne)), List.rotate_mod, ← h]
  rfl

end Lists

/-! ## The curve -/

/-- Conversion to `int`, towards zero. -/
def truncate (x : ℚ) : Int := x.num.tdiv x.den

theorem truncate_of_nonneg {x : ℚ} (hx : 0 ≤ x) : truncate x = ⌊x⌋ := by
  rw [truncate, Rat.floor_def', Int.tdiv_eq_ediv_of_nonneg (Rat.num_nonneg.mpr hx)]

theorem truncate_intCast (d : Int) : truncate d = d := by
  simp [truncate]

namespace DynamicDelay

/-- The value between two fix points that `setDelays` computes, on the way from
`first`. -/
def point (resolution prev next first : Int) (a : Nat) : Int :=
  truncate (((next : ℚ) - prev) / resolution * a + first)

/-- The loops of `setDelays`, from the fix point `delays[i-1]` on. -/
def segments (resolution : Int) : List Int → List Int → Option (List Int)
  | prev :: next :: delays, tmpQ => do
    let first ← tmpQ.getLast?
    segments resolution (next :: delays)
      (tmpQ ++ (List.range resolution.toNat).map fun a => point resolution prev next first (a + 1))
  | [_], tmpQ => some tmpQ
  | [], tmpQ => some tmpQ

/-- `tmpQ`, as `setDelays` returns it. -/
def curve (delays : List Int) (resolution : Int) : Option (List Int) := do
  let first ← delays.head?
  let tmpQ ← segments resolution (delays ++ [first]) [first]
  some tmpQ.dropLast

variable {π : Type}

/-- `delayQ_.push`. -/
def pushDelay (f : DynamicDelay π) (d : Int) : DynamicDelay π :=
  { f with delayQ := (f.delayQ.push d).1, curvePosted := f.curvePosted ++ (f.delayQ.push d).2 }

/-- `setDelays`.  Without fix points it would read past the end of `delays`. -/
def setDelays (f : DynamicDelay π) (delays : List Int) (resolution : Int) :
    Option (DynamicDelay π × List Int) := do
  let tmpQ ← curve delays resolution
  some (tmpQ.foldl pushDelay f, tmpQ)

/-- Before `init`, the curve is what `delayQ_` holds. -/
theorem foldl_pushDelay (tmpQ queued : List Int) :
    tmpQ.foldl pushDelay (new queued : DynamicDelay π) = new (queued ++ tmpQ) := by
  induction tmpQ generalizing queued with
  | nil => simp
  | cons d tmpQ ih =>
    have hpush : pushDelay (new queued : DynamicDelay π) d = new (queued ++ [d]) := by
      simp [pushDelay, new, AsyncQueue.push, AsyncQueue.tryPop]
    rw [List.foldl_cons, hpush, ih, List.append_assoc]
    rfl

section Segments
variable {resolution : Nat} {prev next : Int}

theorem point_zero : point resolution prev next prev 0 = prev := by
  simp [point, truncate_intCast]

/-- A segment ends at the next fix point. -/
theorem point_last (hres : 1 ≤ resolution) :
    point resolution prev next prev resolution = next := by
  have hne : (resolution : ℚ) ≠ 0 := by
    have : resolution ≠ 0 := by omega
    exact_mod_cast this
  have hvalue : ((next : ℚ) - prev) / resolution * resolution + prev = next := by
    field_simp
    ring
  rw [point, Int.cast_natCast, hvalue, truncate_intCast]

/-- In between it is the interpolation of the two, rounded down. -/
theorem point_eq (hres : 1 ≤ resolution) (hprev : 0 ≤ prev) (hnext : 0 ≤ next) {a : Nat}
    (ha : a ≤ resolution) : point resolution prev next prev a =
      ⌊(prev : ℚ) + a * ((next : ℚ) - prev) / resolution⌋ := by
  have hpos : (0 : ℚ) < resolution := by
    have : 0 < resolution := by omega
    exact_mod_cast this
  have hvalue : ((next : ℚ) - prev) / resolution * a + prev =
      prev + a * ((next : ℚ) - prev) / resolution := by ring
  have hnonneg : (0 : ℚ) ≤ prev + a * ((next : ℚ) - prev) / resolution := by
    have hconvex : (prev : ℚ) + a * ((next : ℚ) - prev) / resolution =
        (((resolution : ℚ) - a) * prev + a * next) / resolution := by
      field_simp
      ring
    have hprev' : (0 : ℚ) ≤ prev := by exact_mod_cast hprev
    have hnext' : (0 : ℚ) ≤ next := by exact_mod_cast hnext
    have ha' : (0 : ℚ) ≤ (resolution : ℚ) - a := by
      have : (a : ℚ) ≤ resolution := by exact_mod_cast ha
      linarith
    rw [hconvex]
    positivity
  rw [point, Int.cast_natCast, hvalue, truncate_of_nonneg hnonneg]

/-- The values from one fix point up to the next one, without it. -/
def segment (resolution : Nat) (p : Int × Int) : List Int :=
  (List.range resolution).map (point resolution p.1 p.2 p.1)

/-- The code computes a segment without its first value and with the next fix point. -/
theorem segment_append (hres : 1 ≤ resolution) :
    prev :: (List.range resolution).map (fun a => point resolution prev next prev (a + 1)) =
      segment resolution (prev, next) ++ [next] := by
  have hsucc := List.range_succ (n := resolution)
  rw [List.range_succ_eq_map] at hsucc
  have hmap := congrArg (List.map (point resolution prev next prev)) hsucc
  rw [List.map_cons, List.map_map, List.map_append, List.map_singleton, point_zero,
    point_last hres] at hmap
  exact hmap

/-- **No drift**: the loops start each segment at the fix point. -/
theorem segments_eq (hres : 1 ≤ resolution) (prev : Int) (delays tmpQ : List Int) :
    ∃ last, segments resolution (prev :: delays) (tmpQ ++ [prev]) =
      some (tmpQ ++ ((prev :: delays).zip delays).flatMap (segment resolution) ++ [last]) := by
  induction delays generalizing prev tmpQ with
  | nil => exact ⟨prev, by simp [segments]⟩
  | cons next delays ih =>
    obtain ⟨last, ih⟩ := ih next (tmpQ ++ segment resolution (prev, next))
    refine ⟨last, ?_⟩
    have hsegment := @segment_append resolution prev next hres
    rw [segments, List.getLast?_concat, Option.bind_eq_bind, Option.bind_some, Int.toNat_natCast,
      List.append_assoc, List.singleton_append, hsegment, ← List.append_assoc, ih,
      List.zip_cons_cons, List.flatMap_cons, List.append_assoc tmpQ]

/-- **The curve**: one segment for each fix point, to the one after it. -/
theorem curve_eq (hres : 1 ≤ resolution) {delays : List Int} (hne : delays ≠ []) :
    curve delays resolution =
      some ((delays.zip (delays.rotate 1)).flatMap (segment resolution)) := by
  cases delays with
  | nil => exact absurd rfl hne
  | cons first delays =>
    obtain ⟨last, hsegments⟩ := segments_eq hres first (delays ++ [first]) []
    have hzip : (first :: (delays ++ [first])).zip (delays ++ [first]) =
        (first :: delays).zip (delays ++ [first]) := by
      have happend : (first :: delays ++ [first]).zip (delays ++ [first] ++ []) =
          (first :: delays).zip (delays ++ [first]) ++ [first].zip [] := List.zip_append (by simp)
      rwa [List.append_nil, List.zip_nil_right, List.append_nil] at happend
    rw [List.nil_append, List.nil_append, hzip] at hsegments
    have hrotate : (first :: delays).rotate 1 = delays ++ [first] := by
      rw [List.rotate_cons_succ, List.rotate_zero]
    rw [curve, List.head?_cons, Option.bind_eq_bind, Option.bind_some, List.cons_append,
      hsegments, Option.bind_eq_bind, Option.bind_some, List.dropLast_concat, hrotate]

example : curve [0, 8, 5] 4 = some [0, 2, 4, 6, 8, 7, 6, 5, 5, 3, 2, 1] := by decide +kernel

theorem length_segment (p : Int × Int) : (segment resolution p).length = resolution := by
  simp [segment]

theorem length_segments (delays : List Int) :
    ((delays.zip (delays.rotate 1)).flatMap (segment resolution)).length =
      delays.length * resolution := by
  simp [List.length_flatMap, length_segment]

/-- The value of the curve at a time. -/
theorem getElem?_segments (hres : 1 ≤ resolution) {delays : List Int}
    (hnonneg : ∀ d ∈ delays, 0 ≤ d) {i a : Nat} (ha : a < resolution)
    (hprev : delays[i]? = some prev) (hnext : delays[(i + 1) % delays.length]? = some next) :
    ((delays.zip (delays.rotate 1)).flatMap (segment resolution))[i * resolution + a]? =
      some ⌊(prev : ℚ) + a * ((next : ℚ) - prev) / resolution⌋ := by
  have hi : i < delays.length := (List.getElem?_eq_some_iff.mp hprev).1
  have hzip : (delays.zip (delays.rotate 1))[i]? = some (prev, next) := by
    rw [List.getElem?_zip_eq_some]
    exact ⟨hprev, by rw [List.getElem?_rotate hi, hnext]⟩
  rw [getElem?_flatMap (fun p _ => length_segment p) ha, hzip, Option.bind_some, segment,
    List.getElem?_map, List.getElem?_range ha, Option.map_some,
    point_eq hres (hnonneg _ (List.mem_of_getElem? hprev)) (hnonneg _ (List.mem_of_getElem? hnext))
      ha.le]

end Segments

/-! ## The curve is played -/

/-- What happens in a run: of the calls of `delayPopHandler`, the delay that each installs
is recorded. -/
inductive CurveEvent (π : Type)
  | handlePacket (pkt : π)
  | popHandler (k : Nat)
  | timeout (pkt : π)
  | delayPopHandler (delay : Int)
  | delayTimeout

/-- The delay that a call of `delayPopHandler` installs, in microseconds. -/
def CurveEvent.installed : CurveEvent π → List Int
  | delayPopHandler delay => [delay]
  | _ => []

/-- The delays that the calls of `delayPopHandler` installed, the first one first. -/
def installs (h : List (CurveEvent π)) : List Int := h.reverse.flatMap (·.installed)

@[simp] theorem installs_cons (e : CurveEvent π) (h : List (CurveEvent π)) :
    installs (e :: h) = installs h ++ e.installed := by
  simp [installs]

/-- One operation of the filter, with whatever ages of the packets. -/
inductive Step (f : DynamicDelay π) : CurveEvent π → DynamicDelay π → Prop
  | handlePacket (pkt : π) : Step f (.handlePacket pkt) (f.handlePacket pkt)
  | popHandler (age : π → Int) (k : Nat) (f' : DynamicDelay π) :
      f.popHandler age k = some f' → Step f (.popHandler k) f'
  | timeout (k : Nat) (f' : DynamicDelay π) (pkt : π) :
      f.timeout k = some (f', pkt) → Step f (.timeout pkt) f'
  | delayPopHandler (k : Nat) (f' : DynamicDelay π) :
      f.delayPopHandler k = some f' → Step f (.delayPopHandler f'.delay) f'
  | delayTimeout (k : Nat) (f' : DynamicDelay π) :
      f.delayTimeout k = some f' → Step f .delayTimeout f'

/-- **The curve is played**, and was moved on `k` times: either a call of
`delayPopHandler` is posted, with the delay that came first in the queue; or its timer
is pending, and the queue holds the whole curve. -/
inductive Plays (tmpQ : List Int) (k : Nat) (f : DynamicDelay π) : Prop
  | posted {d : Int} : f.delayQ.Open → f.delayQ.callback = none →
      f.curvePosted = [(.delayPopHandler, .ok d)] → f.curveTimers = [] →
      d :: f.delayQ.theQueue = tmpQ.rotate k → Plays tmpQ k f
  | pending : f.delayQ.Open → f.delayQ.callback = none → f.curvePosted = [] →
      f.curveTimers = [interval] → f.delayQ.theQueue = tmpQ.rotate k → Plays tmpQ k f

variable {tmpQ : List Int} {f f' : DynamicDelay π} {k j : Nat}

/-- The front of the curve is taken from the queue, for a posted call. -/
theorem plays_awaitDelay (hne : tmpQ ≠ []) (ho : f.delayQ.Open) (hposted : f.curvePosted = [])
    (htimers : f.curveTimers = []) (hqueue : f.delayQ.theQueue = tmpQ.rotate k) :
    Plays tmpQ k f.awaitDelay := by
  cases hq : f.delayQ.theQueue with
  | nil =>
    rw [hq, List.nil_eq_rotate_iff] at hqueue
    exact absurd hqueue.symm hne
  | cons d rest =>
    have hpop := AsyncQueue.asyncPop_of_cons ho hq CurveCallback.delayPopHandler
    refine .posted (d := d) ?_ ?_ ?_ htimers ?_
    · exact (AsyncQueue.asyncPop_open _).mpr ho
    · simp [awaitDelay, hpop]
    · simp [awaitDelay, hpop, hposted]
    · simp [awaitDelay, hpop, ← hqueue, hq]

/-- The packets do not matter to the curve. -/
theorem Plays.of_eq (hp : Plays tmpQ k f) (hqueue : f'.delayQ = f.delayQ)
    (hposted : f'.curvePosted = f.curvePosted) (htimers : f'.curveTimers = f.curveTimers) :
    Plays tmpQ k f' := by
  cases hp with
  | posted => constructor <;> simpa only [hqueue, hposted, htimers]
  | pending => apply Plays.pending <;> simpa only [hqueue, hposted, htimers]

theorem plays_init (hne : tmpQ ≠ []) : Plays tmpQ 0 (new tmpQ : DynamicDelay π).init := by
  have hzero : (new tmpQ : DynamicDelay π).delayQ.theQueue = tmpQ.rotate 0 := by
    rw [List.rotate_zero]
    rfl
  exact (plays_awaitDelay hne ⟨rfl, rfl⟩ rfl rfl hzero).of_eq rfl rfl rfl

/-- A call of `delayPopHandler` installs the first delay and moves it to the end. -/
theorem Plays.delayPopHandler (hp : Plays tmpQ k f) (h : f.delayPopHandler j = some f') :
    ∃ d, tmpQ[k % tmpQ.length]? = some d ∧ f'.delay = d * 1000 ∧
      f'.delayQ.theQueue = tmpQ.rotate (k + 1) ∧ Plays tmpQ (k + 1) f' := by
  unfold DynamicDelay.delayPopHandler at h
  cases hp with
  | pending ho hcallback hposted htimers hqueue => simp [hposted] at h
  | @posted d ho hcallback hposted htimers hqueue =>
    cases j with
    | succ j => simp [hposted] at h
    | zero =>
      have hpush := AsyncQueue.push_of_none ho hcallback d
      have hnext := rotate_succ hqueue
      simp only [hposted, List.getElem?_cons_zero, hpush, Option.some.injEq] at h
      subst h
      exact ⟨d, getElem?_of_rotate hqueue, rfl, hnext, .pending ho hcallback rfl
        (by simp [htimers]) hnext⟩

/-- A second later the next delay is asked for. -/
theorem Plays.delayTimeout (hp : Plays tmpQ k f) (hne : tmpQ ≠ [])
    (h : f.delayTimeout j = some f') : Plays tmpQ k f' := by
  obtain ⟨hj, h⟩ := Option.ite_none_right_eq_some.mp h
  obtain rfl := Option.some.inj h
  cases hp with
  | posted ho hcallback hposted htimers hqueue => simp [htimers] at hj
  | pending ho hcallback hposted htimers hqueue =>
    obtain rfl : j = 0 := by simpa [htimers] using hj
    exact plays_awaitDelay hne ho hposted (by simp [htimers]) hqueue

/-- What one step does: only a call of `delayPopHandler` moves the curve on. -/
theorem Plays.step (hp : Plays tmpQ k f) (hne : tmpQ ≠ []) {e : CurveEvent π}
    (hstep : Step f e f') :
    Plays tmpQ (k + e.installed.length) f' ∧ ∀ j d, e.installed[j]? = some d →
      f'.delayQ.theQueue = tmpQ.rotate (k + 1) ∧
      ∃ c, tmpQ[(k + j) % tmpQ.length]? = some c ∧ d = c * 1000 := by
  cases hstep with
  | handlePacket pkt => exact ⟨hp.of_eq rfl rfl rfl, by simp [CurveEvent.installed]⟩
  | popHandler age k f' hpop =>
    obtain ⟨l, -, rfl⟩ := Option.map_eq_some_iff.mp hpop
    exact ⟨hp.of_eq rfl rfl rfl, by simp [CurveEvent.installed]⟩
  | timeout k f' pkt ht =>
    obtain ⟨l, -, hl⟩ := Option.map_eq_some_iff.mp ht
    obtain ⟨rfl, -⟩ := Prod.mk.inj hl
    exact ⟨hp.of_eq rfl rfl rfl, by simp [CurveEvent.installed]⟩
  | delayTimeout k f' ht => exact ⟨hp.delayTimeout hne ht, by simp [CurveEvent.installed]⟩
  | delayPopHandler j f' hpop =>
    obtain ⟨c, hc, hdelay, hqueue, hp'⟩ := hp.delayPopHandler hpop
    refine ⟨hp', ?_⟩
    intro j d hj
    obtain ⟨rfl, rfl⟩ : j = 0 ∧ f'.delay = d := by
      simpa [CurveEvent.installed, List.getElem?_singleton] using hj
    exact ⟨hqueue, c, hc, hdelay⟩

/-- Every run plays the curve, and each call installs the next delay of it. -/
theorem plays (hne : tmpQ ≠ []) {h : List (CurveEvent π)}
    (run : Run Step (· = (new tmpQ : DynamicDelay π).init) h f) :
    Plays tmpQ (installs h).length f ∧ ∀ k d, (installs h)[k]? = some d →
      ∃ c, tmpQ[k % tmpQ.length]? = some c ∧ d = c * 1000 := by
  induction run with
  | start hs =>
    subst hs
    exact ⟨plays_init hne, by simp [installs]⟩
  | @step h f f' e run hstep ih =>
    obtain ⟨hp, hinstalled⟩ := ih
    obtain ⟨hp', hnew⟩ := hp.step hne hstep
    rw [installs_cons, List.length_append]
    refine ⟨hp', ?_⟩
    intro k d hk
    rcases Nat.lt_or_ge k (installs h).length with hlt | hge
    · rw [List.getElem?_append_left hlt] at hk
      exact hinstalled k d hk
    · rw [List.getElem?_append_right hge] at hk
      have hc := (hnew _ d hk).2
      rwa [Nat.add_sub_cancel' hge] at hc

/-- A posted call can run. -/
theorem Plays.exists_delayPopHandler (hp : Plays tmpQ k f) (htimers : f.curveTimers = []) :
    ∃ f', f.delayPopHandler 0 = some f' := by
  cases hp with
  | pending ho hcallback hposted hone hqueue => simp [htimers] at hone
  | posted ho hcallback hposted htimers hqueue =>
    simp only [DynamicDelay.delayPopHandler, hposted, List.getElem?_cons_zero]
    exact ⟨_, rfl⟩

/-- There is always a next call. -/
theorem Plays.exists_next (hp : Plays tmpQ k f) (hne : tmpQ ≠ []) :
    ∃ h f' d, Run Step (· = f) h f' ∧ installs (π := π) h = [d] := by
  by_cases htimers : f.curveTimers = []
  · obtain ⟨f', hpop⟩ := hp.exists_delayPopHandler htimers
    have hcall : Run Step (· = f) [.delayPopHandler f'.delay] f' :=
      .step (.start rfl) (.delayPopHandler 0 f' hpop)
    exact ⟨_, f', f'.delay, hcall, rfl⟩
  · cases hp with
    | posted ho hcallback hposted hnone hqueue => exact absurd hnone htimers
    | pending ho hcallback hposted hone hqueue =>
      have ht : f.delayTimeout 0 = some { f with curveTimers := [] }.awaitDelay := by
        simp [DynamicDelay.delayTimeout, hone]
      have hp' : Plays tmpQ k { f with curveTimers := [] }.awaitDelay :=
        plays_awaitDelay hne ho hposted rfl hqueue
      obtain ⟨f', hpop⟩ := hp'.exists_delayPopHandler rfl
      have hcall : Run Step (· = f) [.delayPopHandler f'.delay, .delayTimeout] f' :=
        .step (.step (.start rfl) (.delayTimeout 0 _ ht)) (.delayPopHandler 0 f' hpop)
      exact ⟨_, f', f'.delay, hcall, rfl⟩

/-- The delay of the `k`th second: the interpolation of the two fix points around it,
rounded down to a millisecond. -/
def Interpolated (delays : List Int) (resolution k : Nat) (delay : Int) : Prop :=
  ∃ i a prev next, k % (delays.length * resolution) = i * resolution + a ∧ a < resolution ∧
    delays[i]? = some prev ∧ delays[(i + 1) % delays.length]? = some next ∧
    delay = 1000 * ⌊(prev : ℚ) + a * ((next : ℚ) - prev) / resolution⌋

/-- At each fix point it is the fix point itself. -/
theorem Interpolated.fix_point {delays : List Int} {resolution i : Nat} {delay prev : Int}
    (h : Interpolated delays resolution k delay) (hres : 1 ≤ resolution)
    (hk : k % (delays.length * resolution) = i * resolution) (hprev : delays[i]? = some prev) :
    delay = 1000 * prev := by
  obtain ⟨i', a, prev', next, hk', ha, hprev', -, rfl⟩ := h
  rw [hk] at hk'
  have hdiv := congrArg (· / resolution) hk'
  have hmod := congrArg (· % resolution) hk'
  obtain rfl : a = 0 := by simpa [Nat.mod_eq_of_lt ha, eq_comm] using hmod
  obtain rfl : i' = i := by simpa [Nat.mul_div_cancel _ hres, eq_comm] using hdiv
  obtain rfl : prev = prev' := by simpa [hprev] using hprev'
  simp

/-- Each second has an interpolated delay, and it is what the curve has there. -/
theorem interpolated_of_segments {delays : List Int} {resolution : Nat} (hres : 1 ≤ resolution)
    (hnonneg : ∀ d ∈ delays, 0 ≤ d) {c : Int}
    (hc : ((delays.zip (delays.rotate 1)).flatMap (segment resolution))[
      k % (delays.length * resolution)]? = some c) :
    Interpolated delays resolution k (c * 1000) := by
  have hlt := (List.getElem?_eq_some_iff.mp hc).1
  rw [length_segments] at hlt
  generalize hm : k % (delays.length * resolution) = m at hc hlt
  have hsplit : m = m / resolution * resolution + m % resolution := (Nat.div_add_mod' _ _).symm
  have ha : m % resolution < resolution := Nat.mod_lt _ hres
  have hi : m / resolution < delays.length := Nat.div_lt_of_lt_mul (by rwa [Nat.mul_comm])
  have hj : (m / resolution + 1) % delays.length < delays.length :=
    Nat.mod_lt _ ((Nat.zero_le _).trans_lt hi)
  have hprev := List.getElem?_eq_getElem hi
  have hnext := List.getElem?_eq_getElem hj
  rw [hsplit, getElem?_segments hres hnonneg ha hprev hnext, Option.some.injEq] at hc
  exact ⟨m / resolution, m % resolution, _, _, hm.trans hsplit, ha, hprev, hnext,
    by rw [← hc, Int.mul_comm]⟩

end DynamicDelay

open DynamicDelay in
/-- **The delay curve is the periodic interpolation of its fix points.**  The `k`th call
of `delayPopHandler` installs the delay of the `k`th second of the curve, which goes round.
After each call the queue holds the whole curve, rotated; between two calls one delay at
most is missing, the one that the posted call carries. -/
theorem delay_curve_interpolates {π : Type} {delays : List Int} {resolution : Nat}
    (hne : delays ≠ []) (hnonneg : ∀ d ∈ delays, 0 ≤ d) (hres : 1 ≤ resolution) :
    ∃ f tmpQ, (new [] : DynamicDelay π).setDelays delays resolution = some (f, tmpQ) ∧
      tmpQ.length = delays.length * resolution ∧ ∀ h g, Run Step (· = f.init) h g →
        (∀ k delay, (installs h)[k]? = some delay → Interpolated delays resolution k delay ∧
          ∀ i prev, k % (delays.length * resolution) = i * resolution →
            delays[i]? = some prev → delay = 1000 * prev) ∧
        (∀ delay earlier, h = .delayPopHandler delay :: earlier →
          g.delayQ.theQueue = tmpQ.rotate (installs h).length) ∧
        Plays tmpQ (installs h).length g ∧
        ∃ h' g' delay, Run Step (· = g) h' g' ∧ installs (h' ++ h) = installs h ++ [delay] := by
  obtain ⟨tmpQ, htmpQ⟩ : ∃ tmpQ, tmpQ = (delays.zip (delays.rotate 1)).flatMap (segment resolution) :=
    ⟨_, rfl⟩
  have hcurve : curve delays resolution = some tmpQ := by rw [curve_eq hres hne, htmpQ]
  have hlength : tmpQ.length = delays.length * resolution := by rw [htmpQ, length_segments]
  have hne' : tmpQ ≠ [] := by
    rw [← List.length_pos_iff, hlength]
    exact Nat.mul_pos (List.length_pos_of_ne_nil hne) hres
  refine ⟨new tmpQ, tmpQ, ?_, hlength, ?_⟩
  · rw [setDelays, hcurve, Option.bind_eq_bind, Option.bind_some, foldl_pushDelay, List.nil_append]
  intro h g run
  obtain ⟨hp, hinstalled⟩ := plays hne' run
  refine ⟨?_, ?_, hp, ?_⟩
  · intro k delay hk
    obtain ⟨c, hc, rfl⟩ := hinstalled k delay hk
    rw [hlength, htmpQ] at hc
    have hvalue := interpolated_of_segments hres hnonneg hc
    exact ⟨hvalue, fun i prev hi hprev => hvalue.fix_point hres hi hprev⟩
  · rintro delay earlier rfl
    cases run with
    | step run hstep =>
      have hqueue := (((plays hne' run).1.step hne' hstep).2 0 delay rfl).1
      simpa [CurveEvent.installed] using hqueue
  · obtain ⟨h', g', delay, run', hnext⟩ := hp.exists_next hne'
    refine ⟨h', g', delay, run', ?_⟩
    rw [← hnext]
    simp [installs]

open DynamicDelay in
/-- The curve of the documentation of `setDelays`: every 12 seconds the delay is 0 again,
and 4 seconds later it is 8 milliseconds. -/
theorem delay_curve_documented : ∃ f tmpQ,
    (new [] : DynamicDelay Nat).setDelays [0, 8, 5] (4 : Nat) = some (f, tmpQ) ∧
      ∀ h g, Run Step (· = f.init) h g → ∀ k delay, (installs h)[k]? = some delay →
        (k % 12 = 0 → delay = 0) ∧ (k % 12 = 4 → delay = 8000) := by
  obtain ⟨f, tmpQ, hset, -, hruns⟩ :=
    @delay_curve_interpolates Nat [0, 8, 5] 4 (by decide) (by decide) (by decide)
  refine ⟨f, tmpQ, hset, ?_⟩
  intro h g run k delay hk
  obtain ⟨-, hfix⟩ := (hruns h g run).1 k delay hk
  exact ⟨fun hzero => hfix 0 0 hzero rfl, fun hfour => hfix 1 8 hfour rfl⟩

end ShapingRouter
