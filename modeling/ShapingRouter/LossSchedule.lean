import Mathlib
import ShapingRouter.LossFilters
import ShapingRouter.Library.Cycle
import ShapingRouter.Library.Run

/-! # The schedule of DynamicLoss

`DynamicLoss` goes round its list of losses, with a timer that is armed again by its own
handler.  Here it runs with a clock, in seconds, and with exact timers: the handler of a
timer runs at the very time at which the timer expires, and then the clock goes on.

The pending timer expires at the end of the slot that the clock is in, and the index is
that of the slot (`Plays`).  The handler moves both to the next slot, or to the first one
of the next period, so nothing adds up over the periods.
-/

namespace ShapingRouter
open Library

/-- A non-empty schedule that `setLosses` accepts, with positive times that can be
multiplied by 1000 in an `int`. -/
structure LossPattern (times : List Int) (losses : List ℚ) : Prop where
  nonempty : times ≠ []
  sameLength : times.length = losses.length
  positive : ∀ t ∈ times, 0 < t
  fits : ∀ t ∈ times, t * 1000 < 2 ^ 31

/-- `DynamicLoss`, the clock in seconds, and when the pending timers expire. -/
structure TimedLoss (τ : Type) where
  filter : DynamicLoss
  now : τ
  expiries : List τ

/-- What happens: the clock goes on; the `k`th pending timer expires, and its handler
runs; `setLosses` is called with lists that it does not accept. -/
inductive LossEvent (τ : Type)
  | wait (time : τ)
  | timeout (k : Nat)
  | refused (times : List Int) (losses : List ℚ)

namespace TimedLoss
variable {τ : Type} [Field τ]

/-- When timers armed at a time expire; they are armed in milliseconds. -/
def expire (now : τ) (timers : List Int) : List τ := timers.map fun (ms : Int) => now + (ms : τ) / 1000

/-- `init`, at time 0. -/
def start (f : DynamicLoss) : TimedLoss τ :=
  ⟨f.init, 0, expire 0 (f.init.timers.drop f.timers.length)⟩

/-- A filter that accepted the schedule was started at time 0. -/
def Started (times : List Int) (losses : List ℚ) (s : TimedLoss τ) : Prop :=
  ∃ f : DynamicLoss, f.timers = [] ∧ (f.setLosses times losses).2 = true ∧
    s = start (f.setLosses times losses).1

variable [LinearOrder τ]

/-- One step.  The clock stays before the next expiry, and a handler runs when its timer
expires.  Packets are not steps: `handlePacket` only reads the loss in force. -/
inductive Step (s : TimedLoss τ) : LossEvent τ → TimedLoss τ → Prop
  | wait (time : τ) : s.now ≤ time → (∀ e ∈ s.expiries, time < e) →
      Step s (.wait time) { s with now := time }
  | timeout (k : Nat) (expiry : τ) (f : DynamicLoss) : s.expiries[k]? = some expiry →
      (∀ e ∈ s.expiries, expiry ≤ e) → s.filter.handleTimeout k = some f →
      Step s (.timeout k) {
        filter := f
        now := expiry
        expiries := s.expiries.eraseIdx k ++
          expire expiry (f.timers.drop (s.filter.timers.eraseIdx k).length) }
  | refused (times : List Int) (losses : List ℚ) : times.length ≠ losses.length →
      Step s (.refused times losses)
        { s with filter := (s.filter.setLosses times losses).1 }

end TimedLoss

section Slots
variable {times : List Int}

/-- The durations of a schedule, as times of the clock. -/
def durations (τ : Type) [Field τ] (times : List Int) : List τ := times.map fun (t : Int) => (t : τ)

/-- `T_i`: the sum of the first `i` times. -/
abbrev slotStart (τ : Type) [Field τ] (times : List Int) (i : Nat) : τ :=
  boundary (durations τ times) i

/-- `T_n`: the sum of all times. -/
abbrev period (τ : Type) [Field τ] (times : List Int) : τ := slotStart τ times times.length

theorem slotStart_succ {τ : Type} [Field τ] {i : Nat} (hi : i < times.length) :
    slotStart τ times (i + 1) = slotStart τ times i + (times.getD i 0 : Int) := by
  apply boundary_succ
  simp [durations, hi]

end Slots

section Schedule
variable {τ : Type} [Field τ] [LinearOrder τ] [IsStrictOrderedRing τ]
  {times : List Int} {losses : List ℚ}

theorem LossPattern.durations_pos (h : LossPattern times losses) :
    ∀ d ∈ durations τ times, 0 < d := by
  intro d hd
  obtain ⟨t, ht, rfl⟩ := List.mem_map.mp hd
  exact_mod_cast h.positive t ht

theorem LossPattern.one_le (h : LossPattern times losses) {i : Nat} (hi : i < times.length) :
    (1 : τ) ≤ (times.getD i 0 : Int) := by
  have hpos : 0 < times.getD i 0 := by
    rw [List.getD_eq_getElem _ _ hi]
    exact h.positive _ (List.getElem_mem hi)
  exact_mod_cast hpos

/-- **Where the schedule is**: in slot `i` of period `k`, with the loss of that slot, and
one timer that expires at its end. -/
structure Plays (times : List Int) (losses : List ℚ) (k i : Nat) (s : TimedLoss τ) : Prop where
  index : i < times.length
  filter : s.filter = ⟨losses.getD i 0, i, times, losses, [times.getD i 0 * 1000]⟩
  expiry : s.expiries = [k * period τ times + slotStart τ times (i + 1)]
  begins : k * period τ times + slotStart τ times i ≤ s.now
  ends : s.now < k * period τ times + slotStart τ times (i + 1)

/-- A timer for a time of the schedule. -/
theorem expire_times (now : τ) (i : Nat) :
    TimedLoss.expire now [times.getD i 0 * 1000] = [now + (times.getD i 0 : Int)] := by
  simp only [TimedLoss.expire, List.map_cons, List.map_nil]
  push_cast
  rw [mul_div_cancel_right₀ _ (by norm_num : (1000 : τ) ≠ 0)]

/-- A slot is entered as the clock reaches its beginning. -/
theorem LossPattern.plays_enter (h : LossPattern times losses) {k i : Nat} (hi : i < times.length)
    {s : TimedLoss τ} (hnow : s.now = k * period τ times + slotStart τ times i)
    (hfilter : s.filter = ⟨losses.getD i 0, i, times, losses, [times.getD i 0 * 1000]⟩)
    (hexpiry : s.expiries = TimedLoss.expire s.now [times.getD i 0 * 1000]) :
    Plays times losses k i s := by
  have hpos : (1 : τ) ≤ (times.getD i 0 : Int) := h.one_le hi
  refine ⟨hi, hfilter, ?_, hnow.ge, ?_⟩
  · rw [hexpiry, expire_times, hnow, slotStart_succ hi, add_assoc]
  · rw [hnow, slotStart_succ hi, ← add_assoc]
    exact lt_add_of_pos_right _ (zero_lt_one.trans_le hpos)

theorem LossPattern.plays_started (h : LossPattern times losses) {s : TimedLoss τ}
    (hs : TimedLoss.Started times losses s) : Plays times losses 0 0 s := by
  obtain ⟨f, htimers, -, rfl⟩ := hs
  have hset : (f.setLosses times losses).1 = { f with times := times, losses := losses } := by
    rw [DynamicLoss.setLosses, if_neg (not_not.mpr h.sameLength)]
  apply h.plays_enter (List.length_pos_iff.mpr h.nonempty)
  · simp [TimedLoss.start]
  · simp [TimedLoss.start, hset, DynamicLoss.init, DynamicLoss.enter, htimers]
  · simp [TimedLoss.start, hset, DynamicLoss.init, DynamicLoss.enter, htimers]

/-- What the handler does. -/
theorem LossPattern.handleTimeout_eq (h : LossPattern times losses) {i : Nat} (hi : i < times.length)
    (x : Int) (loss : ℚ) : ∃ i',
    (⟨loss, i, times, losses, [x]⟩ : DynamicLoss).handleTimeout 0 =
      some ⟨losses.getD i' 0, i', times, losses, [times.getD i' 0 * 1000]⟩ ∧
    (i' = i + 1 ∧ i + 1 < times.length ∨ i' = 0 ∧ i + 1 = times.length) := by
  by_cases hlast : i + 1 < times.length
  · refine ⟨i + 1, ?_, Or.inl ⟨rfl, hlast⟩⟩
    have hnot : ¬(i + 1 ≥ losses.length) := by
      rw [← h.sameLength]
      omega
    simp [DynamicLoss.handleTimeout, DynamicLoss.enter, hnot]
  · refine ⟨0, ?_, Or.inr ⟨rfl, by omega⟩⟩
    have hge : i + 1 ≥ losses.length := by
      rw [← h.sameLength]
      omega
    simp [DynamicLoss.handleTimeout, DynamicLoss.enter, hge]

/-- The handler moves to the next slot, or to the first one of the next period. -/
theorem LossPattern.plays_timeout (h : LossPattern times losses) {k i : Nat} {s : TimedLoss τ}
    (hs : Plays times losses k i s) {f : DynamicLoss} (hf : s.filter.handleTimeout 0 = some f) :
    let expiry := k * period τ times + slotStart τ times (i + 1)
    ∃ k' i' : Nat, expiry = k' * period τ times + slotStart τ times i' ∧
      Plays times losses k' i' (⟨f, expiry, s.expiries.eraseIdx 0 ++
        TimedLoss.expire expiry (f.timers.drop (s.filter.timers.eraseIdx 0).length)⟩) := by
  intro expiry
  obtain ⟨i', hnext, hcase⟩ := h.handleTimeout_eq hs.index (times.getD i 0 * 1000) (losses.getD i 0)
  rw [hs.filter, hnext] at hf
  obtain rfl := Option.some.inj hf
  obtain ⟨rfl, hlt⟩ | ⟨rfl, hlast⟩ := hcase
  · refine ⟨k, i + 1, rfl, h.plays_enter hlt rfl rfl ?_⟩
    simp [hs.expiry, hs.filter]
  · have hperiod : expiry = (k + 1 : Nat) * period τ times + slotStart τ times 0 := by
      show k * period τ times + slotStart τ times (i + 1) = _
      rw [hlast]
      push_cast
      rw [slotStart, slotStart, boundary_zero, add_zero, add_mul, one_mul]
    refine ⟨k + 1, 0, hperiod, h.plays_enter (by omega) hperiod rfl ?_⟩
    simp [hs.expiry, hs.filter]

theorem LossPattern.plays_step (h : LossPattern times losses) {k i : Nat} {s s' : TimedLoss τ}
    {e : LossEvent τ} (hs : Plays times losses k i s) (hstep : s.Step e s') :
    ∃ k' i', Plays times losses k' i' s' := by
  cases hstep with
  | wait time hle hlt =>
    refine ⟨k, i, hs.index, hs.filter, hs.expiry, hs.begins.trans hle, ?_⟩
    apply hlt
    simp [hs.expiry]
  | timeout j expiry f hj hfirst hf =>
    cases j with
    | zero =>
      have hexpiry : k * period τ times + slotStart τ times (i + 1) = expiry := by
        simpa [hs.expiry] using hj
      subst hexpiry
      obtain ⟨k', i', -, hplays⟩ := h.plays_timeout hs hf
      exact ⟨k', i', hplays⟩
    | succ j => simp [hs.expiry] at hj
  | refused times' losses' hne =>
    refine ⟨k, i, hs.index, ?_, hs.expiry, hs.begins, hs.ends⟩
    show (s.filter.setLosses times' losses').1 = _
    rw [DynamicLoss.setLosses, if_pos hne]
    exact hs.filter

theorem LossPattern.plays_run (h : LossPattern times losses) {hist : List (LossEvent τ)}
    {s : TimedLoss τ} (run : Run TimedLoss.Step (TimedLoss.Started times losses) hist s) :
    ∃ k i, Plays times losses k i s := by
  induction run with
  | start hs => exact ⟨0, 0, h.plays_started hs⟩
  | step _ hstep ih =>
    obtain ⟨k, i, hplays⟩ := ih
    exact h.plays_step hplays hstep

/-- **Every time is reached**: `m` seconds after the next expiry, after at most `m` more
timeouts. -/
theorem LossPattern.reaches (h : LossPattern times losses) {t : τ} (m : Nat) {k i : Nat}
    {s : TimedLoss τ} (hs : Plays times losses k i s) {hist : List (LossEvent τ)}
    (run : Run TimedLoss.Step (TimedLoss.Started times losses) hist s) (ht : s.now ≤ t)
    (hm : t < k * period τ times + slotStart τ times (i + 1) + m) :
    ∃ hist' s', Run TimedLoss.Step (TimedLoss.Started times losses) hist' s' ∧ s'.now = t := by
  induction m generalizing k i s hist with
  | zero =>
    rw [Nat.cast_zero, add_zero] at hm
    exact ⟨_, _, .step run (.wait t ht (by simpa [hs.expiry] using hm)), rfl⟩
  | succ m ih =>
    by_cases hbefore : t < k * period τ times + slotStart τ times (i + 1)
    · exact ⟨_, _, .step run (.wait t ht (by simpa [hs.expiry] using hbefore)), rfl⟩
    · obtain ⟨i', hnext, -⟩ :=
        h.handleTimeout_eq hs.index (times.getD i 0 * 1000) (losses.getD i 0)
      rw [← hs.filter] at hnext
      obtain ⟨k', i', hexpiry, hplays⟩ := h.plays_timeout hs hnext
      have hstep := TimedLoss.Step.timeout (s := s) 0 _ _ (by rw [hs.expiry]; rfl)
        (by simp [hs.expiry]) hnext
      refine ih hplays (.step run hstep) (not_lt.mp hbefore) (hm.trans_le ?_)
      rw [slotStart_succ hplays.index, ← add_assoc, ← hexpiry, add_assoc]
      push_cast
      have hone : (1 : τ) ≤ (times.getD i' 0 : Int) := h.one_le hplays.index
      linarith

variable [FloorRing τ]

/-- **The loss schedule is periodic and exact.**  In every state that a run reaches, the
index is one of both lists, and the loss in force is that of the only slot in which the
time since the period began lies; a call of `setLosses` with lists of different lengths
changes nothing.  And every time is reached. -/
theorem loss_schedule (h : LossPattern times losses) :
    (∀ (hist : List (LossEvent τ)) (s : TimedLoss τ),
      Run TimedLoss.Step (TimedLoss.Started times losses) hist s →
      s.filter.times = times ∧ s.filter.losses = losses ∧
      s.filter.currentIndex < s.filter.times.length ∧
      s.filter.currentIndex < s.filter.losses.length ∧
      (∃! i, InSlot (durations τ times) (cycleMod s.now (period τ times)) i) ∧
      (∀ i, InSlot (durations τ times) (cycleMod s.now (period τ times)) i →
        losses[i]? = some s.filter.currentLoss) ∧
      ∀ times' losses', times'.length ≠ losses'.length →
        s.filter.setLosses times' losses' = (s.filter, false)) ∧
    ∀ t : τ, 0 ≤ t → ∃ hist s,
      Run TimedLoss.Step (TimedLoss.Started times losses) hist s ∧ s.now = t := by
  constructor
  · intro hist s run
    obtain ⟨k, i, hplays⟩ := h.plays_run run
    have hlen : (durations τ times).length = times.length := List.length_map _
    have hslot : InSlot (durations τ times) (cycleMod s.now (period τ times)) i := by
      have hmem := inSlot_of_mem (h.durations_pos (τ := τ)) (t := s.now) (k : Int)
        (by rw [hlen]; exact hplays.index)
      rw [hlen] at hmem
      exact hmem (by exact_mod_cast hplays.begins) (by exact_mod_cast hplays.ends)
    have hindex : i < losses.length := by
      rw [← h.sameLength]
      exact hplays.index
    rw [hplays.filter]
    refine ⟨rfl, rfl, hplays.index, hindex, ⟨i, hslot, ?_⟩, ?_, ?_⟩
    · intro j hj
      exact hj.unique h.durations_pos hslot
    · intro j hj
      obtain rfl := hj.unique h.durations_pos hslot
      rw [List.getElem?_eq_getElem hindex, List.getD_eq_getElem _ _ hindex]
    · intro times' losses' hne
      rw [DynamicLoss.setLosses, if_pos hne]
  · intro t ht
    have hstart : TimedLoss.Started times losses
        (TimedLoss.start ((DynamicLoss.new 0 0).setLosses times losses).1 : TimedLoss τ) := by
      refine ⟨_, rfl, ?_, rfl⟩
      rw [DynamicLoss.setLosses, if_neg (not_not.mpr h.sameLength)]
    obtain ⟨m, hm⟩ := exists_nat_gt t
    have hplays := h.plays_started hstart
    refine h.reaches m hplays (.start hstart) ht (hm.trans_le ?_)
    have hend := hplays.ends
    have hnow : (0 : τ) ≤ (TimedLoss.start
      ((DynamicLoss.new 0 0).setLosses times losses).1 : TimedLoss τ).now := le_rfl
    linarith

/-- The pattern of the README, with the clock in rational numbers: 2 s without loss, 1 s
with 10 %, 3 s with 50 %.  After 8.5 s, in the second period, it is 10 %. -/
theorem loss_schedule_readme :
    ∃ hist s, Run (TimedLoss.Step (τ := ℚ)) (TimedLoss.Started [2, 1, 3] [0, 1 / 10, 1 / 2])
        hist s ∧ s.now = 17 / 2 ∧ s.filter.currentIndex < 3 ∧ s.filter.currentLoss = 1 / 10 := by
  have h : LossPattern [2, 1, 3] [0, 1 / 10, 1 / 2] :=
    ⟨by simp, rfl, by simp, by simp⟩
  obtain ⟨hist, s, run, hnow⟩ := (loss_schedule (τ := ℚ) h).2 (17 / 2) (by norm_num)
  obtain ⟨htimes, -, hindex, -, -, hloss, -⟩ := (loss_schedule (τ := ℚ) h).1 hist s run
  have hperiod : period ℚ [2, 1, 3] = 6 := by
    norm_num [period, slotStart, boundary, durations]
  have hslot : InSlot (durations ℚ [2, 1, 3]) (cycleMod s.now (period ℚ [2, 1, 3])) 1 := by
    rw [hnow, hperiod, cycleMod_eq 1 (by norm_num) (by norm_num)]
    constructor
    · decide
    · norm_num [boundary, durations]
    · norm_num [boundary, durations]
  rw [htimes] at hindex
  exact ⟨hist, s, run, hnow, hindex, (Option.some.inj (hloss 1 hslot)).symm⟩

end Schedule
end ShapingRouter
