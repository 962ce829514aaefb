import Mathlib
import ShapingRouter.TokenConformance

/-! # What a refill adds

`run` computes what the time is worth in 64 bits, adds it to the tokens in 32 bits, and
only then compares with the cap.  So a refill saturates as long as the sum does not wrap
around; where it does, the bucket ends up full only if what is left of the sum still is
at the cap (`refill_saturates_iff`).

What the time is worth is rounded down to whole bytes at each refill, and the clock is
set to the present: the rest is lost.  Below the cap, a bucket gets what the time is
worth in all, less these rests (`credited_add_dropped`), so it delivers its rate to the
byte as long as they do not add up to two bytes (`bucket_delivers_iff`).
-/

namespace ShapingRouter
open Library

variable {π : Type}

namespace TokenBucket
variable (b : TokenBucket π) (diff : UInt64)

/-- What the time is worth, in bytes. -/
def worth : Nat := b.dataRate.toNat * diff.toNat / 8000

/-- Neither the product nor the sum of a refill leaves its type. -/
structure InRange : Prop where
  product : b.dataRate.toNat * diff.toNat < 2 ^ 64
  sum : b.tokens.toNat + b.worth diff < 2 ^ 32

/-- The tokens after a refill, with the product cut off to 64 bits and the sum to 32. -/
theorem toNat_refill : (b.refill diff).tokens.toNat =
    if b.tokens < b.maxTokens then min b.maxTokens.toNat
      ((b.tokens.toNat + b.dataRate.toNat * diff.toNat % 2 ^ 64 / 8000) % 2 ^ 32)
    else b.tokens.toNat := by
  have hsum : (b.tokens.toUInt64 + b.dataRate.toUInt64 * diff / 1000 / 8).toUInt32.toNat =
      (b.tokens.toNat + b.dataRate.toNat * diff.toNat % 2 ^ 64 / 8000) % 2 ^ 32 := by
    have hquot : (b.dataRate.toUInt64 * diff / 1000 / 8).toNat =
        b.dataRate.toNat * diff.toNat % 2 ^ 64 / 8000 := by
      rw [UInt64.toNat_div, UInt64.toNat_div, UInt64.toNat_mul, UInt32.toNat_toUInt64]
      exact Nat.div_div_eq_div_mul _ 1000 8
    rw [UInt64.toNat_toUInt32, UInt64.toNat_add, UInt32.toNat_toUInt64, hquot]
    omega
  unfold refill
  by_cases hlt : b.tokens < b.maxTokens
  · rw [if_pos hlt, if_pos hlt, ← hsum]
    dsimp only
    by_cases hmax : (b.tokens.toUInt64 + b.dataRate.toUInt64 * diff / 1000 / 8).toUInt32 >
        b.maxTokens
    · rw [if_pos hmax]
      have hmax' : b.maxTokens.toNat < _ := hmax
      exact (min_eq_left hmax'.le).symm
    · rw [if_neg hmax]
      have hmax' : _ ≤ b.maxTokens.toNat := Nat.le_of_not_lt hmax
      exact (min_eq_right hmax').symm
  · rw [if_neg hlt, if_neg hlt]

variable {b diff}

/-- A refill in range. -/
theorem InRange.toNat_refill (hr : b.InRange diff) : (b.refill diff).tokens.toNat =
    if b.tokens < b.maxTokens then min b.maxTokens.toNat (b.tokens.toNat + b.worth diff)
    else b.tokens.toNat := by
  have hsum := hr.sum
  rw [TokenBucket.toNat_refill, Nat.mod_eq_of_lt hr.product, Nat.mod_eq_of_lt]
  · rfl
  · exact hsum

/-- When a refill saturates: the sum does not wrap around, or there is nothing to add, or
what is left of the sum is at the cap all the same. -/
def Saturates (b : TokenBucket π) (diff : UInt64) : Prop :=
  b.tokens = b.maxTokens ∨ b.tokens.toNat + b.worth diff < 2 ^ 32 ∨
    b.maxTokens.toNat ≤ (b.tokens.toNat + b.worth diff) % 2 ^ 32

theorem refill_eq_min_iff (hcap : b.tokens ≤ b.maxTokens)
    (hfits : b.dataRate.toNat * diff.toNat < 2 ^ 64) :
    (b.refill diff).tokens.toNat = min b.maxTokens.toNat (b.tokens.toNat + b.worth diff) ↔
      b.Saturates diff := by
  have hcap' : b.tokens.toNat ≤ b.maxTokens.toNat := hcap
  have hmax := UInt32.toNat_lt b.maxTokens
  rw [toNat_refill, Nat.mod_eq_of_lt hfits, Saturates]
  by_cases hlt : b.tokens < b.maxTokens
  · have hlt' : b.tokens.toNat < b.maxTokens.toNat := hlt
    have hne : b.tokens ≠ b.maxTokens := by
      intro heq
      rw [heq] at hlt'
      exact absurd hlt' (lt_irrefl _)
    rw [if_pos hlt, or_iff_right hne]
    show min _ ((b.tokens.toNat + b.worth diff) % 2 ^ 32) = _ ↔ _
    omega
  · have heq : b.tokens = b.maxTokens := by
      apply UInt32.toNat_inj.mp
      have hge : b.maxTokens.toNat ≤ b.tokens.toNat := Nat.le_of_not_lt hlt
      omega
    rw [if_neg hlt, heq]
    simp

end TokenBucket

/-- **When a refill saturates.**  Where the product fits in 64 bits, the tokens after a
refill are the sum, cut off at the cap, iff the sum does not wrap around below the cap;
and then no refill takes tokens away, and a longer time never gives less. -/
theorem refill_saturates_iff (b : TokenBucket π) (hcap : b.tokens ≤ b.maxTokens) (diff : UInt64)
    (hfits : b.dataRate.toNat * diff.toNat < 2 ^ 64) :
    ((b.refill diff).tokens.toNat = min b.maxTokens.toNat
        (b.tokens.toNat + b.dataRate.toNat * diff.toNat / 8000) ↔ b.Saturates diff) ∧
      (b.Saturates diff → b.tokens ≤ (b.refill diff).tokens ∧ ∀ diff' ≤ diff,
        b.Saturates diff' → (b.refill diff').tokens ≤ (b.refill diff).tokens) := by
  have hcap' : b.tokens.toNat ≤ b.maxTokens.toNat := hcap
  refine ⟨TokenBucket.refill_eq_min_iff hcap hfits, ?_⟩
  intro hs
  have hvalue := (TokenBucket.refill_eq_min_iff hcap hfits).mpr hs
  refine ⟨?_, ?_⟩
  · rw [UInt32.le_iff_toNat_le, hvalue]
    omega
  · intro diff' hle hs'
    have hle' : b.dataRate.toNat * diff'.toNat ≤ b.dataRate.toNat * diff.toNat :=
      Nat.mul_le_mul_left _ hle
    have hvalue' := (TokenBucket.refill_eq_min_iff hcap (hle'.trans_lt hfits)).mpr hs'
    have hworth : b.worth diff' ≤ b.worth diff := Nat.div_le_div_right hle'
    rw [UInt32.le_iff_toNat_le, hvalue, hvalue']
    omega

/-- At the default rate, 1678 seconds without a refill take all tokens away. -/
theorem refill_wraps_around :
    ∃ (b : TokenBucket Nat) (diff : UInt64), b.tokens ≤ b.maxTokens ∧
      b.dataRate.toNat * diff.toNat < 2 ^ 64 ∧ b.tokens = 100 ∧ (b.refill diff).tokens = 0 ∧
      (b.refill diff).tokens.toNat ≠ min b.maxTokens.toNat
        (b.tokens.toNat + b.dataRate.toNat * diff.toNat / 8000) :=
  ⟨{ tokens := 100, timerStart := 0 }, 1677721561, by decide⟩

/-- Four milliseconds at the default rate fill an empty bucket. -/
theorem refill_saturates_default :
    (({ timerStart := 0 } : TokenBucket Nat).refill 4000).tokens.toNat =
      min 8000 (0 + 20480 * 4000 / 8000) :=
  (refill_saturates_iff ({ timerStart := 0 } : TokenBucket Nat) (by decide) 4000
    (by decide)).1.mpr (.inr (.inl (by decide)))

/-! ## What rounding loses -/

namespace BucketEvent

/-- The two readings of the clock are one. -/
def OneReading : BucketEvent π → Prop
  | handlePacket _ _ _ => True
  | run first second _ => first = second

/-- The refill, if there is one, stays in range. -/
def InRange (b : TokenBucket π) : BucketEvent π → Prop
  | handlePacket _ _ _ => True
  | run first _ _ => b.InRange (first - b.timerStart)

end BucketEvent

/-- The clock is read once, and the bucket does not get full. -/
def BelowCap (b : TokenBucket π) (e : BucketEvent π) : Prop :=
  e.OneReading ∧ e.available b < b.maxTokens

/-- And the refill stays in range. -/
def BelowCapInRange (b : TokenBucket π) (e : BucketEvent π) : Prop :=
  BelowCap b e ∧ e.InRange b

/-- What has been credited to a bucket: what it holds and has sent, less what it held. -/
def credited (len : π → UInt32) (b b' : TokenBucket π) (h : List (BucketEvent π)) : Int :=
  b'.tokens.toNat + totalLen len (sentBy h) - b.tokens.toNat

/-- Where the clock stands after a history. -/
def clockAfter (start : UInt64) : List (BucketEvent π) → UInt64
  | [] => start
  | .handlePacket _ _ _ :: h => clockAfter start h
  | .run _ second _ :: _ => second

/-- The rests that the refills of a history lose, in eight-thousandths of a byte. -/
def dropped (rate : UInt32) (start : UInt64) : List (BucketEvent π) → Nat
  | [] => 0
  | .handlePacket _ _ _ :: h => dropped rate start h
  | .run first _ _ :: h =>
    dropped rate start h + rate.toNat * (first - clockAfter start h).toNat % 8000

section Rounding
variable {len : π → UInt32} {b s s' b' : TokenBucket π} {e : BucketEvent π}
  {h : List (BucketEvent π)}

/-- Each step credits what it finds beyond the tokens that were there. -/
theorem credited_cons (hs : BucketStep len s e s') : credited len b s' (e :: h) =
    credited len b s h + ((e.available s).toNat - s.tokens.toNat) := by
  have hspent := hs.pays.spent
  have happend : sentBy (e :: h) = sentBy h ++ e.sent := by simp [sentBy]
  rw [credited, credited, happend, totalLen_append]
  push_cast
  omega

/-- What the time of a step is worth, in eight-thousandths of a byte. -/
def timeWorth (s s' : TokenBucket π) : Nat :=
  s.dataRate.toNat * (s'.timerStart.toNat - s.timerStart.toNat)

section OneRefill
variable {first second : UInt64} {sent : List π}

/-- The time of a step is the one that its refill counts. -/
theorem timeWorth_run (hs : BucketStep len s (.run first second sent) s')
    (hone : first = second) :
    timeWorth s s' = s.dataRate.toNat * (first - s.timerStart).toNat := by
  obtain ⟨hfirst, -, hrun⟩ := hs
  obtain ⟨-, -, hclock, -⟩ := TokenBucket.run_fields len s first second
  rw [hrun] at hclock
  rw [timeWorth, hclock, ← hone, UInt64.toNat_sub_of_le _ _ hfirst]

/-- Below the cap, the tokens are the sum that is left. -/
theorem available_of_belowCap (hbelow : BelowCap s (.run first second sent)) :
    ((BucketEvent.run first second sent).available s).toNat = (s.tokens.toNat +
      s.dataRate.toNat * (first - s.timerStart).toNat % 2 ^ 64 / 8000) % 2 ^ 32 := by
  have hvalue :=
    TokenBucket.toNat_refill { s with timerStart := second } (first - s.timerStart)
  have hlt : ((BucketEvent.run first second sent).available s).toNat < s.maxTokens.toNat :=
    hbelow.2
  change ((BucketEvent.run first second sent).available s).toNat = _ at hvalue
  dsimp only at hvalue
  by_cases htok : s.tokens < s.maxTokens
  · rw [if_pos htok] at hvalue
    omega
  · -- a full bucket stays full
    rw [if_neg htok] at hvalue
    have htok' : s.maxTokens.toNat ≤ s.tokens.toNat := Nat.le_of_not_lt htok
    omega

/-- **A refill in range** credits what the time is worth, less the rest. -/
theorem credit_of_inRange (hs : BucketStep len s (.run first second sent) s')
    (hbelow : BelowCap s (.run first second sent)) (hr : s.InRange (first - s.timerStart)) :
    (8000 * (((BucketEvent.run first second sent).available s).toNat - s.tokens.toNat) : Int) +
      (s.dataRate.toNat * (first - s.timerStart).toNat % 8000 : Nat) = timeWorth s s' := by
  have hsum := hr.sum
  rw [timeWorth_run hs hbelow.1, available_of_belowCap hbelow, Nat.mod_eq_of_lt hr.product]
  rw [TokenBucket.worth] at hsum
  omega

/-- **A refill out of range** falls short by two bytes at least. -/
theorem credit_of_not_inRange (hs : BucketStep len s (.run first second sent) s')
    (hbelow : BelowCap s (.run first second sent)) (hr : ¬s.InRange (first - s.timerStart)) :
    (8000 * (((BucketEvent.run first second sent).available s).toNat - s.tokens.toNat) : Int) +
      16000 ≤ timeWorth s s' := by
  have hout : 2 ^ 64 ≤ s.dataRate.toNat * (first - s.timerStart).toNat ∨
      2 ^ 32 ≤ s.tokens.toNat + s.dataRate.toNat * (first - s.timerStart).toNat / 8000 := by
    by_contra hin
    exact hr ⟨by omega, by rw [TokenBucket.worth]; omega⟩
  rw [timeWorth_run hs hbelow.1, available_of_belowCap hbelow]
  rcases hout with hproduct | hsum
  · omega
  · omega

end OneRefill

/-- The rest that a step loses, in eight-thousandths of a byte. -/
def BucketEvent.rest (s : TokenBucket π) : BucketEvent π → Nat
  | handlePacket _ _ _ => 0
  | run first _ _ => s.dataRate.toNat * (first - s.timerStart).toNat % 8000

/-- A packet that comes does not move the clock. -/
theorem timerStart_handlePacket {r : ℚ} {pkt : π} {sent : List π}
    (hs : BucketStep len s (.handlePacket r pkt sent) s') : s'.timerStart = s.timerStart := by
  change s.handlePacket len r pkt = (s', sent) at hs
  have hfst : s' = (s.handlePacket len r pkt).1 := by rw [hs]
  rw [hfst, TokenBucket.handlePacket]
  split <;> rfl

/-- **What a step credits**: what its time is worth, less the rest; and less two bytes at
least, where the refill leaves its range. -/
theorem credit_step (hs : BucketStep len s e s') (hbelow : BelowCap s e) :
    (e.InRange s → (8000 * ((e.available s).toNat - s.tokens.toNat) : Int) + e.rest s =
      timeWorth s s') ∧
    (¬e.InRange s → (8000 * ((e.available s).toNat - s.tokens.toNat) : Int) + 16000 ≤
      timeWorth s s') := by
  cases e with
  | handlePacket r pkt sent =>
    have hclock := timerStart_handlePacket hs
    refine ⟨fun _ => ?_, fun hr => absurd trivial hr⟩
    simp [BucketEvent.available, BucketEvent.rest, timeWorth, hclock]
  | run first second sent => exact ⟨credit_of_inRange hs hbelow, credit_of_not_inRange hs hbelow⟩

/-! ### Runs -/

theorem timerStart_eq_clockAfter (run : Run (BucketStep len) (· = b) h b') :
    b'.timerStart = clockAfter b.timerStart h := by
  induction run with
  | start hs =>
    rw [hs]
    rfl
  | @step h s s' e run hs ih =>
    cases e with
    | handlePacket r pkt sent => exact (timerStart_handlePacket hs).trans ih
    | run first second sent =>
      obtain ⟨-, -, hrun⟩ := hs
      obtain ⟨-, -, hclock, -⟩ := TokenBucket.run_fields len s first second
      rw [hrun] at hclock
      exact hclock

/-- A step adds its rest to what is dropped. -/
theorem dropped_cons (run : Run (BucketStep len) (· = b) h s) :
    dropped b.dataRate b.timerStart (e :: h) =
      dropped b.dataRate b.timerStart h + e.rest s := by
  cases e with
  | handlePacket r pkt sent => rfl
  | run first second sent =>
    rw [dropped, BucketEvent.rest, timerStart_eq_clockAfter run, (run_params run).2.1]

/-- The time of a run and the time of its next step add up. -/
theorem timeWorth_cons (run : Run (BucketStep len) (· = b) h s) (hs : BucketStep len s e s') :
    timeWorth b s' = timeWorth b s + timeWorth s s' := by
  obtain ⟨-, hrate, hbefore⟩ := run_params run
  have hbefore' : b.timerStart.toNat ≤ s.timerStart.toNat := hbefore
  have hafter : s.timerStart.toNat ≤ s'.timerStart.toNat := hs.pays.clock
  rw [timeWorth, timeWorth, timeWorth, hrate, ← Nat.mul_add]
  congr 1
  omega

/-- **In range, a bucket gets what the time is worth, less the rests.** -/
theorem credited_add_dropped
    (run : Run (Guarded (BucketStep len) BelowCapInRange) (· = b) h b') :
    8000 * credited len b b' h + dropped b.dataRate b.timerStart h = timeWorth b b' := by
  induction run with
  | start hs =>
    subst hs
    simp [credited, sentBy, totalLen, dropped, timeWorth]
  | @step h s s' e run hs ih =>
    obtain ⟨hs, hbelow, hr⟩ := hs
    have hstep := (credit_step hs hbelow).1 hr
    rw [credited_cons hs, dropped_cons run.of_guarded, timeWorth_cons run.of_guarded hs]
    push_cast at hstep ⊢
    linarith

/-- A run stays in range, or falls short by two bytes at least. -/
theorem inRange_or_short (run : Run (Guarded (BucketStep len) BelowCap) (· = b) h b') :
    Run (Guarded (BucketStep len) BelowCapInRange) (· = b) h b' ∨
      8000 * credited len b b' h + 16000 ≤ timeWorth b b' := by
  induction run with
  | start hs => exact .inl (.start hs)
  | @step h s s' e run hs ih =>
    obtain ⟨hs, hbelow⟩ := hs
    obtain ⟨hin, hout⟩ := credit_step hs hbelow
    rw [credited_cons hs, timeWorth_cons run.of_guarded hs]
    push_cast
    rcases ih with hrun | hshort
    · by_cases hr : e.InRange s
      · exact .inl (.step hrun ⟨hs, hbelow, hr⟩)
      · have htotal := credited_add_dropped hrun
        have hstep := hout hr
        refine .inr ?_
        omega
    · -- what falls short stays short: no step gets more than its time is worth
      have hstep : (8000 * ((e.available s).toNat - s.tokens.toNat) : Int) ≤ timeWorth s s' := by
        by_cases hr : e.InRange s
        · have hcredit := hin hr
          omega
        · have hcredit := hout hr
          omega
      refine .inr ?_
      linarith

end Rounding

/-- **When a bucket delivers its rate.**  In a run in which the clock is read once in each
`run` and the bucket does not get full, the tokens credited are short of what the rate
gives for the time by a byte at most, iff no refill leaves its range and the rests that
the refills lose stay below two bytes. -/
theorem bucket_delivers_iff (len : π → UInt32) {b b' : TokenBucket π} {h : List (BucketEvent π)}
    (run : Run (Guarded (BucketStep len) BelowCap) (· = b) h b') :
    ((b.dataRate.toNat * (b'.timerStart.toNat - b.timerStart.toNat) / 8000 : Nat) : Int) - 1 ≤
        credited len b b' h ↔
      Run (Guarded (BucketStep len) BelowCapInRange) (· = b) h b' ∧
        dropped b.dataRate b.timerStart h < 16000 := by
  change ((timeWorth b b' / 8000 : Nat) : Int) - 1 ≤ _ ↔ _
  constructor
  · intro hdelivers
    rcases inRange_or_short run with hrun | hshort
    · have htotal := credited_add_dropped hrun
      exact ⟨hrun, by omega⟩
    · omega
  · rintro ⟨hrun, hdropped⟩
    have htotal := credited_add_dropped hrun
    omega

/-- A byte takes eight milliseconds at rate 1, so that ticks every four milliseconds never
credit one. -/
theorem bucket_starves :
    ∃ (b b' : TokenBucket Nat) (h : List (BucketEvent Nat)), b.dataRate = 1 ∧
      Run (Guarded (BucketStep UInt32.ofNat) BelowCap) (· = b) h b' ∧
      b'.timerStart.toNat - b.timerStart.toNat = 16000 ∧ credited UInt32.ofNat b b' h = 0 ∧
      ¬((b.dataRate.toNat * (b'.timerStart.toNat - b.timerStart.toNat) / 8000 : Nat) : Int) - 1 ≤
        credited UInt32.ofNat b b' h := by
  have h1 : Guarded (BucketStep UInt32.ofNat) BelowCap
      ({ dataRate := 1, timerStart := 0 } : TokenBucket Nat) (.run 4000 4000 [])
      { dataRate := 1, timerStart := 4000, timers := [4] } :=
    ⟨⟨by decide, by decide, rfl⟩, rfl, by decide⟩
  have h2 : Guarded (BucketStep UInt32.ofNat) BelowCap
      ({ dataRate := 1, timerStart := 4000, timers := [4] } : TokenBucket Nat)
      (.run 8000 8000 []) { dataRate := 1, timerStart := 8000, timers := [4, 4] } :=
    ⟨⟨by decide, by decide, rfl⟩, rfl, by decide⟩
  have h3 : Guarded (BucketStep UInt32.ofNat) BelowCap
      ({ dataRate := 1, timerStart := 8000, timers := [4, 4] } : TokenBucket Nat)
      (.run 12000 12000 []) { dataRate := 1, timerStart := 12000, timers := [4, 4, 4] } :=
    ⟨⟨by decide, by decide, rfl⟩, rfl, by decide⟩
  have h4 : Guarded (BucketStep UInt32.ofNat) BelowCap
      ({ dataRate := 1, timerStart := 12000, timers := [4, 4, 4] } : TokenBucket Nat)
      (.run 16000 16000 []) { dataRate := 1, timerStart := 16000, timers := [4, 4, 4, 4] } :=
    ⟨⟨by decide, by decide, rfl⟩, rfl, by decide⟩
  exact ⟨_, _, _, rfl, .step (.step (.step (.step (.start rfl) h1) h2) h3) h4, by decide⟩

/-- A tick of two milliseconds at the default rate loses nothing. -/
theorem bucket_delivers_default :
    ∃ (b b' : TokenBucket Nat) (h : List (BucketEvent Nat)),
      Run (Guarded (BucketStep UInt32.ofNat) BelowCap) (· = b) h b' ∧
      b'.timerStart.toNat - b.timerStart.toNat = 2000 ∧
      ((20480 * 2000 / 8000 : Nat) : Int) - 1 ≤ credited UInt32.ofNat b b' h := by
  have hstep : BucketStep UInt32.ofNat ({ timerStart := 0 } : TokenBucket Nat)
      (.run 2000 2000 []) { tokens := 5120, timerStart := 2000, timers := [4] } :=
    ⟨by decide, by decide, rfl⟩
  have hbelow : BelowCapInRange ({ timerStart := 0 } : TokenBucket Nat) (.run 2000 2000 []) :=
    ⟨⟨rfl, by decide⟩, by decide, by decide⟩
  have run : Run (Guarded (BucketStep UInt32.ofNat) BelowCap) (· = _) [.run 2000 2000 []] _ :=
    .step (.start rfl) ⟨hstep, hbelow.1⟩
  exact ⟨_, _, _, run, rfl,
    (bucket_delivers_iff UInt32.ofNat run).mpr ⟨.step (.start rfl) ⟨hstep, hbelow⟩, by decide⟩⟩

end ShapingRouter
