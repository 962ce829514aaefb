import Mathlib
import ShapingRouter.Library.Run
import ShapingRouter.TokenBucket

/-! # What a token bucket lets through

A bucket never forwards more than its tokens are worth, and it gets tokens only for
time that its clock has credited: `run` credits the time up to its first reading of
the clock and counts on from the second, so the time in between is lost.  Eight
thousand times the tokens, less the rate times the clock, is therefore a potential
that pays for every byte sent (`BucketStep.pays`), and over any window the bytes sent
are bounded by what the bucket holds and what the window credits (`bucket_conforms`).
The sums of the code wrap around, but only ever to the bucket's disadvantage.
-/

namespace ShapingRouter
open Library

variable {π : Type}

/-- The bytes of a list of packets. -/
def totalLen (len : π → UInt32) (pkts : List π) : Nat := (pkts.map fun pkt => (len pkt).toNat).sum

theorem totalLen_append (len : π → UInt32) (pkts pkts' : List π) :
    totalLen len (pkts ++ pkts') = totalLen len pkts + totalLen len pkts' := by
  simp [totalLen]

/-- What happens to a bucket, and the packets that it forwards. -/
inductive BucketEvent (π : Type)
  | handlePacket (r : ℚ) (pkt : π) (sent : List π)
  | run (first second : UInt64) (sent : List π)

namespace BucketEvent

/-- The packets forwarded, the first one first. -/
def sent : BucketEvent π → List π
  | handlePacket _ _ sent | run _ _ sent => sent

/-- The tokens that `trySend` finds. -/
def available (b : TokenBucket π) : BucketEvent π → UInt32
  | handlePacket _ _ _ => b.tokens
  | run first second _ =>
    ({ b with timerStart := second }.refill (first - b.timerStart)).tokens

end BucketEvent

/-- One packet comes, or one timer expires; the clock does not go back. -/
def BucketStep (len : π → UInt32) (b : TokenBucket π) : BucketEvent π → TokenBucket π → Prop
  | .handlePacket r pkt sent, b' => b.handlePacket len r pkt = (b', sent)
  | .run first second sent, b' =>
    b.timerStart ≤ first ∧ first ≤ second ∧ b.run len first second = (b', sent)

/-- The runs of a bucket, however it is configured. -/
abbrev BucketRuns (len : π → UInt32) : List (BucketEvent π) → TokenBucket π → Prop :=
  Run (BucketStep len) fun b => b.tokens = 0 ∧ b.queue = [] ∧ b.timers = []

/-- The packets forwarded in the course of a history, the first one first. -/
def sentBy (h : List (BucketEvent π)) : List π := h.reverse.flatMap BucketEvent.sent

/-! ## One step -/

namespace TokenBucket
variable {len : π → UInt32} {b : TokenBucket π}

/-- What is forwarded is taken from the tokens, and there are enough of them. -/
theorem sendLoop_tokens (len : π → UInt32) (tokens : UInt32) (queue : List π) :
    (sendLoop len tokens queue).1.toNat + totalLen len (sendLoop len tokens queue).2.1 =
      tokens.toNat := by
  induction queue generalizing tokens with
  | nil => simp [sendLoop, totalLen]
  | cons pkt queue ih =>
    rw [sendLoop]
    split
    · rename_i hle
      have hle' : (len pkt).toNat ≤ tokens.toNat := hle
      have hsub := UInt32.toNat_sub_of_le _ _ hle
      have hrest := ih (tokens - len pkt)
      simp only [totalLen, List.map_cons, List.sum_cons] at hrest ⊢
      omega
    · simp [totalLen]

/-- `run` credits no more than the time is worth. -/
theorem refill_tokens_le (b : TokenBucket π) (diff : UInt64) :
    (b.refill diff).tokens.toNat ≤ b.tokens.toNat + b.dataRate.toNat * diff.toNat / 8000 := by
  have hsum : (b.tokens.toUInt64 + b.dataRate.toUInt64 * diff / 1000 / 8).toUInt32.toNat ≤
      b.tokens.toNat + b.dataRate.toNat * diff.toNat / 8000 := by
    have hprod : (b.dataRate.toUInt64 * diff).toNat ≤ b.dataRate.toNat * diff.toNat := by
      rw [UInt64.toNat_mul, UInt32.toNat_toUInt64]
      exact Nat.mod_le _ _
    have hquot : (b.dataRate.toUInt64 * diff / 1000 / 8).toNat ≤
        b.dataRate.toNat * diff.toNat / 8000 := by
      rw [UInt64.toNat_div, UInt64.toNat_div]
      show (b.dataRate.toUInt64 * diff).toNat / 1000 / 8 ≤ _
      rw [Nat.div_div_eq_div_mul]
      exact Nat.div_le_div_right hprod
    rw [UInt64.toNat_toUInt32, UInt64.toNat_add, UInt32.toNat_toUInt64]
    have hwrap := Nat.mod_le (b.tokens.toNat + (b.dataRate.toUInt64 * diff / 1000 / 8).toNat) (2 ^ 64)
    have hwrap' := Nat.mod_le
      ((b.tokens.toNat + (b.dataRate.toUInt64 * diff / 1000 / 8).toNat) % 2 ^ 64) (2 ^ 32)
    omega
  unfold refill
  split
  · dsimp only
    split
    · rename_i hmax
      have hmax' : b.maxTokens.toNat < _ := hmax
      exact (Nat.le_of_lt hmax').trans hsum
    · exact hsum
  · exact Nat.le_add_right _ _

/-- `run` does not fill the bucket over the brim. -/
theorem refill_tokens_le_max (hle : b.tokens ≤ b.maxTokens) (diff : UInt64) :
    (b.refill diff).tokens ≤ b.maxTokens := by
  unfold refill
  split
  · dsimp only
    split
    · exact UInt32.le_refl _
    · rename_i hmax
      exact UInt32.not_lt.mp hmax
  · exact hle

theorem refill_params (b : TokenBucket π) (diff : UInt64) :
    (b.refill diff).maxTokens = b.maxTokens ∧ (b.refill diff).dataRate = b.dataRate ∧
      (b.refill diff).timerStart = b.timerStart := by
  unfold refill
  split <;> exact ⟨rfl, rfl, rfl⟩

/-- `run` counts on from its second reading, and `trySend` spends what it finds. -/
theorem run_fields (len : π → UInt32) (b : TokenBucket π) (first second : UInt64) :
    (b.run len first second).1.maxTokens = b.maxTokens ∧
      (b.run len first second).1.dataRate = b.dataRate ∧
      (b.run len first second).1.timerStart = second ∧
      (b.run len first second).1.tokens.toNat + totalLen len (b.run len first second).2 =
        ({ b with timerStart := second }.refill (first - b.timerStart)).tokens.toNat := by
  obtain ⟨hmax, hrate, hclock⟩ :=
    refill_params { b with timerStart := second } (first - b.timerStart)
  exact ⟨hmax, hrate, hclock, sendLoop_tokens len _ _⟩

end TokenBucket

/-- **What a step does**: it finds tokens that the time since the last one is worth, no
more than the bucket takes, and pays with them for what it sends. -/
structure Pays (len : π → UInt32) (b : TokenBucket π) (e : BucketEvent π) (b' : TokenBucket π) :
    Prop where
  maxTokens : b'.maxTokens = b.maxTokens
  dataRate : b'.dataRate = b.dataRate
  clock : b.timerStart ≤ b'.timerStart
  capped : b.tokens ≤ b.maxTokens → e.available b ≤ b.maxTokens
  credited : (e.available b).toNat ≤
    b.tokens.toNat + b.dataRate.toNat * (b'.timerStart.toNat - b.timerStart.toNat) / 8000
  spent : b'.tokens.toNat + totalLen len e.sent = (e.available b).toNat

namespace BucketStep
variable {len : π → UInt32} {b b' : TokenBucket π} {e : BucketEvent π}

theorem pays (hs : BucketStep len b e b') : Pays len b e b' := by
  cases e with
  | handlePacket r pkt sent =>
    -- the packet is admitted or not, and no tokens are added
    have hsend : ∀ queue, TokenBucket.trySend len { b with queue := queue } = (b', sent) →
        Pays len b (.handlePacket r pkt sent) b' := by
      intro queue h
      obtain ⟨rfl, rfl⟩ := Prod.mk.inj h
      exact ⟨rfl, rfl, UInt64.le_refl _, fun hle => hle, Nat.le_add_right _ _,
        TokenBucket.sendLoop_tokens len b.tokens queue⟩
    change b.handlePacket len r pkt = (b', sent) at hs
    unfold TokenBucket.handlePacket at hs
    split at hs
    · exact hsend _ hs
    · exact hsend b.queue hs
  | run first second sent =>
    obtain ⟨hfirst, hsecond, hrun⟩ := hs
    obtain ⟨hmax, hrate, hclock, hspent⟩ := TokenBucket.run_fields len b first second
    rw [hrun] at hmax hrate hclock hspent
    have hcredit :=
      TokenBucket.refill_tokens_le { b with timerStart := second } (first - b.timerStart)
    have hsub := UInt64.toNat_sub_of_le _ _ hfirst
    have hsecond' : first.toNat ≤ second.toNat := hsecond
    refine ⟨hmax, hrate, ?_, fun hle => ?_, ?_, hspent⟩
    · rw [hclock]
      exact UInt64.le_trans hfirst hsecond
    · exact TokenBucket.refill_tokens_le_max (b := { b with timerStart := second }) hle _
    · -- the time between the two readings is not credited
      refine hcredit.trans (Nat.add_le_add_left (Nat.div_le_div_right (Nat.mul_le_mul_left _ ?_)) _)
      rw [hclock, hsub]
      omega

end BucketStep

/-! ## Runs -/

section Runs
variable {len : π → UInt32} {b b' : TokenBucket π} {h h' : List (BucketEvent π)}

/-- The potential of a bucket: its tokens are worth more, the less its clock shows. -/
def TokenBucket.potential (b : TokenBucket π) : Int :=
  8000 * b.tokens.toNat - b.dataRate.toNat * b.timerStart.toNat

/-- The potential pays for what a step sends. -/
theorem BucketStep.potential_le {e : BucketEvent π} (hs : BucketStep len b e b') :
    (8000 * totalLen len e.sent : Int) + b'.potential ≤ b.potential := by
  have hp := hs.pays
  have hclock : b.timerStart.toNat ≤ b'.timerStart.toNat := hp.clock
  have hcredit := hp.credited
  have hspent := hp.spent
  have hfloor := Nat.div_mul_le_self
    (b.dataRate.toNat * (b'.timerStart.toNat - b.timerStart.toNat)) 8000
  have hdiff : (b.dataRate.toNat * (b'.timerStart.toNat - b.timerStart.toNat) : Nat) =
      (b.dataRate.toNat * b'.timerStart.toNat - b.dataRate.toNat * b.timerStart.toNat : Int) := by
    push_cast [Nat.cast_sub hclock]
    ring
  rw [TokenBucket.potential, TokenBucket.potential, hp.dataRate]
  omega

/-- The configuration and the order of the clock, over a run. -/
theorem run_params (run : Run (BucketStep len) (· = b) h' b') :
    b'.maxTokens = b.maxTokens ∧ b'.dataRate = b.dataRate ∧ b.timerStart ≤ b'.timerStart := by
  induction run with
  | start hs =>
    subst hs
    exact ⟨rfl, rfl, UInt64.le_refl _⟩
  | step _ hs ih =>
    obtain ⟨hmax, hrate, hclock⟩ := ih
    have hp := hs.pays
    exact ⟨hp.maxTokens.trans hmax, hp.dataRate.trans hrate, UInt64.le_trans hclock hp.clock⟩

theorem totalLen_sentBy (len : π → UInt32) (h : List (BucketEvent π)) :
    (8000 * totalLen len (sentBy h) : Int) =
      (h.map fun e => (8000 * totalLen len e.sent : Int)).sum := by
  induction h with
  | nil => rfl
  | cons e h ih =>
    have happend : sentBy (e :: h) = sentBy h ++ e.sent := by simp [sentBy]
    rw [happend, totalLen_append, List.map_cons, List.sum_cons, ← ih]
    push_cast
    ring

/-- **A run sends what its tokens and its time are worth.** -/
theorem run_spends (run : Run (BucketStep len) (· = b) h' b') :
    totalLen len (sentBy h') + b'.tokens.toNat ≤
      b.tokens.toNat + b.dataRate.toNat * (b'.timerStart.toNat - b.timerStart.toNat) / 8000 := by
  obtain ⟨-, hrate, hclock⟩ := run_params run
  have hstep : ∀ s e s', BucketStep len s e s' →
      (8000 * totalLen len e.sent : Int) + s'.potential ≤ s.potential :=
    fun s e s' hs => BucketStep.potential_le hs
  have htotal := run.total_le TokenBucket.potential (fun e => (8000 * totalLen len e.sent : Int))
    hstep
  rw [← totalLen_sentBy, TokenBucket.potential, TokenBucket.potential, hrate] at htotal
  have hclock' : b.timerStart.toNat ≤ b'.timerStart.toNat := hclock
  have hdiff : (b.dataRate.toNat * (b'.timerStart.toNat - b.timerStart.toNat) : Nat) =
      (b.dataRate.toNat * b'.timerStart.toNat - b.dataRate.toNat * b.timerStart.toNat : Int) := by
    push_cast [Nat.cast_sub hclock']
    ring
  omega

/-- The tokens never exceed what the bucket takes. -/
theorem tokens_le_max (run : BucketRuns len h b) : b.tokens ≤ b.maxTokens := by
  induction run with
  | start hs =>
    rw [hs.1]
    exact UInt32.zero_le
  | @step h s s' e _ hs ih =>
    have hp := hs.pays
    have hcapped : (e.available s).toNat ≤ s.maxTokens.toNat := hp.capped ih
    have hspent := hp.spent
    rw [hp.maxTokens, UInt32.le_iff_toNat_le]
    omega

/-- The packets that the last event forwarded. -/
def lastSent (h : List (BucketEvent π)) : List π := (h.head?.map BucketEvent.sent).getD []

/-- What is left of the tokens, and what the last event sent, were in the bucket
together. -/
theorem lastSent_le_max (run : BucketRuns len h b) :
    totalLen len (lastSent h) + b.tokens.toNat ≤ b.maxTokens.toNat := by
  cases run with
  | start hs =>
    rw [hs.1]
    exact Nat.zero_le _
  | @step h s s' e run hs =>
    have hp := hs.pays
    have hcapped : (e.available s).toNat ≤ s.maxTokens.toNat := hp.capped (tokens_le_max run)
    have hspent := hp.spent
    rw [hp.maxTokens]
    show totalLen len e.sent + _ ≤ _
    omega

theorem totalLen_le_of_suffix {pkts pkts' : List π} (h : pkts <:+ pkts') :
    totalLen len pkts ≤ totalLen len pkts' := by
  obtain ⟨before, rfl⟩ := h
  rw [totalLen_append]
  exact Nat.le_add_left _ _

end Runs

/-- **A token bucket conforms.**  In every state that a run reaches, the tokens are no
more than the bucket takes; no step takes more than there are; and from there on, the
bytes sent are at most what the bucket takes and what the rate gives for the time on
its clock.  The window may begin in the middle of the last event, with the `rest` of
what that event sends. -/
theorem bucket_conforms (len : π → UInt32) {h : List (BucketEvent π)} {b : TokenBucket π}
    (run : BucketRuns len h b) :
    b.tokens ≤ b.maxTokens ∧
    (∀ e b', BucketStep len b e b' → e.available b ≤ b.maxTokens ∧
      b'.tokens.toNat + totalLen len e.sent = (e.available b).toNat) ∧
    ∀ h' b', Run (BucketStep len) (· = b) h' b' → ∀ rest, rest <:+ lastSent h →
      totalLen len (rest ++ sentBy h') ≤ b.maxTokens.toNat +
        b.dataRate.toNat * (b'.timerStart.toNat - b.timerStart.toNat) / 8000 := by
  have hmax := tokens_le_max run
  refine ⟨hmax, fun e b' hs => ⟨hs.pays.capped hmax, hs.pays.spent⟩, ?_⟩
  intro h' b' run' rest hrest
  have hspends := run_spends run'
  have hlast := lastSent_le_max run
  have hsuffix : totalLen len rest ≤ totalLen len (lastSent h) := totalLen_le_of_suffix hrest
  rw [totalLen_append]
  omega

/-- A full bucket sends 6000 bytes at once, and half a millisecond later 3000 more: it
takes 8000, and gets 1280 for that time. -/
theorem bucket_conforms_twice :
    ∃ (b b' : TokenBucket Nat) (h h' : List (BucketEvent Nat)), BucketRuns UInt32.ofNat h b ∧
      lastSent h = [6000] ∧ Run (BucketStep UInt32.ofNat) (· = b) h' b' ∧ sentBy h' = [3000] ∧
      totalLen UInt32.ofNat [6000, 3000] ≤ 8000 + 20480 * 500 / 8000 := by
  have hfill : BucketStep UInt32.ofNat ({ timerStart := 0 } : TokenBucket Nat)
      (.run 5000 5000 []) _ := ⟨by decide, by decide, rfl⟩
  have sent : BucketRuns UInt32.ofNat [.handlePacket 1 6000 [6000], .run 5000 5000 []]
      { tokens := 2000, timerStart := 5000, timers := [4] } :=
    .step (.step (.start ⟨rfl, rfl, rfl⟩) hfill) rfl
  have hrefill : BucketStep UInt32.ofNat
      { tokens := 2000, timerStart := 5000, timers := [4] } (.run 5500 5500 []) _ :=
    ⟨by decide, by decide, rfl⟩
  have last : Run (BucketStep UInt32.ofNat) (· = _)
      [.handlePacket 1 3000 [3000], .run 5500 5500 []] _ := .step (.step (.start rfl) hrefill) rfl
  obtain ⟨-, -, hwindow⟩ := bucket_conforms UInt32.ofNat sent
  exact ⟨_, _, _, _, sent, rfl, last, rfl, hwindow _ _ last [6000] (List.suffix_refl _)⟩

end ShapingRouter
