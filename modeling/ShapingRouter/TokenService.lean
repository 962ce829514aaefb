import Mathlib
import ShapingRouter.BucketQueue
import ShapingRouter.TokenRefill

/-! # What a bucket with a backlog sends

`TokenConformance` bounds from above what a bucket sends.  From below it is bounded only
while packets wait, and only if no refill fills the bucket to the brim.  A bucket never
has the tokens for a packet that waits, so it is enough that a refill and the longest such
packet fit into it together (`Timely`).  Then the bucket spends all that it is credited:
what the rate gives for the time, less a byte at most for each refill, less the time
between the two readings of the clock.  So a packet waits no longer than it takes to
credit what was in the queue when it came, and a packet more (`bucket_serves`).
-/

namespace ShapingRouter
open Library

variable {π : Type}

namespace BucketEvent

/-- The refill, if there is one, fits into the bucket with `M` bytes more. -/
def Timely (M : Nat) (s : TokenBucket π) : BucketEvent π → Prop
  | handlePacket _ _ _ => True
  | run first _ _ => s.dataRate.toNat * (first - s.timerStart).toNat < 2 ^ 64 ∧
      M + s.worth (first - s.timerStart) ≤ s.maxTokens.toNat

/-- How many refills there are. -/
def refills : BucketEvent π → Nat
  | handlePacket _ _ _ => 0
  | run _ _ _ => 1

/-- The time that is not credited: between the two readings of the clock. -/
def lost : BucketEvent π → Nat
  | handlePacket _ _ _ => 0
  | run first second _ => second.toNat - first.toNat

end BucketEvent

/-- The refills of a history. -/
def refillsOf (h : List (BucketEvent π)) : Nat := (h.map BucketEvent.refills).sum

/-- The time of a history that is not credited. -/
def lostTime (h : List (BucketEvent π)) : Nat := (h.map BucketEvent.lost).sum

section Service
variable {len : π → UInt32} {b b' s s' : TokenBucket π} {e : BucketEvent π}
  {h h' : List (BucketEvent π)} {M : Nat}

theorem sentBy_cons (e : BucketEvent π) (h : List (BucketEvent π)) :
    sentBy (e :: h) = sentBy h ++ e.sent := by simp [sentBy]

/-! ## First in, first out -/

theorem trySend_append (len : π → UInt32) (b : TokenBucket π) :
    (b.trySend len).2 ++ (b.trySend len).1.queue = b.queue :=
  TokenBucket.sendLoop_append len b.tokens b.queue

/-- A step forwards from the front of the queue, and leaves a bucket that waits. -/
theorem BucketStep.fifo (hs : BucketStep len s e s') :
    s'.Waits len ∧ ∃ come, e.sent ++ s'.queue = s.queue ++ come := by
  cases e with
  | handlePacket r pkt sent =>
    change s.handlePacket len r pkt = (s', sent) at hs
    obtain ⟨rfl, rfl⟩ := Prod.mk.inj hs.symm
    refine ⟨SharedBucket.waits_trySend len _, ?_⟩
    by_cases hr : s.admits r = true
    · refine ⟨[pkt], ?_⟩
      simp only [hr, if_true, BucketEvent.sent]
      exact trySend_append len { s with queue := s.queue ++ [pkt] }
    · refine ⟨[], ?_⟩
      simp only [hr, Bool.false_eq_true, if_false, BucketEvent.sent, List.append_nil]
      exact trySend_append len s
  | run first second sent =>
    obtain ⟨-, -, hrun⟩ := hs
    obtain ⟨rfl, rfl⟩ := Prod.mk.inj hrun.symm
    refine ⟨SharedBucket.waits_trySend len _, [], ?_⟩
    rw [List.append_nil]
    have happend := trySend_append len
      ({ s with timerStart := second }.refill (first - s.timerStart))
    rwa [TokenBucket.refill_queue] at happend

theorem BucketRuns.waits (run : BucketRuns len h b) : b.Waits len := by
  cases run with
  | start hs =>
    intro pkt rest hqueue
    rw [hs.2.1] at hqueue
    cases hqueue
  | step run hs => exact hs.fifo.1

/-- What is sent from a backlog is sent in order, and the first of the rest waits. -/
theorem run_fifo (run : Run (BucketStep len) (· = b) h' b') :
    ∃ come, sentBy h' ++ b'.queue = b.queue ++ come := by
  induction run with
  | start hs =>
    subst hs
    exact ⟨[], by simp [sentBy]⟩
  | @step h s s' e run hs ih =>
    obtain ⟨come, hcome⟩ := ih
    obtain ⟨-, more, hmore⟩ := hs.fifo
    refine ⟨come ++ more, ?_⟩
    rw [sentBy_cons, List.append_assoc, hmore, ← List.append_assoc, hcome, List.append_assoc]

/-- As long as not all of a backlog is sent, one of its packets comes next. -/
theorem exists_head (run : Run (BucketStep len) (· = b) h' b')
    (hnot : ¬ b.queue <+: sentBy h') :
    sentBy h' <+: b.queue ∧ ∃ pkt rest, b'.queue = pkt :: rest ∧ pkt ∈ b.queue := by
  obtain ⟨come, hcome⟩ := run_fifo run
  rcases List.append_eq_append_iff.mp hcome with ⟨left, hqueue, hb'⟩ | ⟨left, hsent, -⟩
  · refine ⟨⟨left, hqueue.symm⟩, ?_⟩
    cases left with
    | nil =>
      rw [List.append_nil] at hqueue
      exact absurd ⟨[], by rw [hqueue, List.append_nil]⟩ hnot
    | cons pkt rest =>
      exact ⟨pkt, rest ++ come, hb', by rw [hqueue]; simp⟩
  · exact absurd ⟨left, hsent.symm⟩ hnot

/-! ## What is credited is spent -/

/-- **A step spends all that it is credited**, less a byte for a refill and less the time
between the readings. -/
theorem BucketStep.spends_credit (hs : BucketStep len s e s') (htimely : e.Timely M s)
    (hwaits : s.tokens.toNat < M) :
    8000 * s.tokens.toNat + timeWorth s s' ≤ 8000 * (s'.tokens.toNat + totalLen len e.sent) +
      8000 * e.refills + s.dataRate.toNat * e.lost := by
  have hspent := hs.pays.spent
  cases e with
  | handlePacket r pkt sent =>
    have hclock := timerStart_handlePacket hs
    rw [timeWorth, hclock, Nat.sub_self, Nat.mul_zero]
    rw [hspent]
    exact Nat.le_add_right _ _
  | run first second sent =>
    obtain ⟨hproduct, hroom⟩ := htimely
    obtain ⟨hfirst, hsecond, hrun⟩ := hs
    obtain ⟨-, -, hclock, -⟩ := TokenBucket.run_fields len s first second
    rw [hrun] at hclock
    have hfirst' : s.timerStart.toNat ≤ first.toNat := hfirst
    have hsecond' : first.toNat ≤ second.toNat := hsecond
    have hmax := UInt32.toNat_lt s.maxTokens
    -- the bucket has room for the refill
    have hfound : ((BucketEvent.run first second sent).available s).toNat =
        s.tokens.toNat + s.worth (first - s.timerStart) := by
      have hr : ({ s with timerStart := second } : TokenBucket π).InRange (first - s.timerStart) :=
        ⟨hproduct, by show s.tokens.toNat + s.worth (first - s.timerStart) < _; omega⟩
      have hvalue := hr.toNat_refill
      have hlt : s.tokens < s.maxTokens := by
        show s.tokens.toNat < s.maxTokens.toNat
        omega
      rw [if_pos hlt] at hvalue
      refine hvalue.trans (min_eq_right ?_)
      show s.tokens.toNat + s.worth (first - s.timerStart) ≤ s.maxTokens.toNat
      omega
    have hdiff := UInt64.toNat_sub_of_le _ _ hfirst
    have htime : timeWorth s s' = s.dataRate.toNat * (first - s.timerStart).toNat +
        s.dataRate.toNat * (second.toNat - first.toNat) := by
      rw [timeWorth, hclock, hdiff, ← Nat.mul_add]
      congr 1
      omega
    rw [hspent, hfound, htime, TokenBucket.worth]
    simp only [BucketEvent.refills, BucketEvent.lost]
    omega

/-- **A run spends all that it is credited**, as long as a packet of the backlog waits. -/
theorem run_spends_credit (hwaits : b.Waits len) (hM : ∀ pkt ∈ b.queue, (len pkt).toNat ≤ M)
    (run : Run (Guarded (BucketStep len) fun s e => e.Timely M s) (· = b) h' b')
    (hnot : ¬ b.queue <+: sentBy h') :
    b'.tokens.toNat < M ∧
      8000 * b.tokens.toNat + timeWorth b b' ≤
        8000 * (b'.tokens.toNat + totalLen len (sentBy h')) + 8000 * refillsOf h' +
          b.dataRate.toNat * lostTime h' := by
  -- the first packet that waits is one of the backlog
  have hlow : ∀ {h s}, Run (BucketStep len) (· = b) h s → s.Waits len →
      ¬ b.queue <+: sentBy h → s.tokens.toNat < M := by
    intro h s run hw hnot
    obtain ⟨-, pkt, rest, hqueue, hmem⟩ := exists_head run hnot
    have hlt : s.tokens.toNat < (len pkt).toNat := hw pkt rest hqueue
    have hle := hM pkt hmem
    omega
  induction run with
  | start hs =>
    subst hs
    refine ⟨hlow (.start rfl) hwaits hnot, ?_⟩
    simp only [timeWorth, Nat.sub_self, Nat.mul_zero, sentBy]
    omega
  | @step h s s' e run hs ih =>
    have hbefore : ¬ b.queue <+: sentBy h := by
      intro hall
      refine hnot (hall.trans ?_)
      rw [sentBy_cons]
      exact List.prefix_append _ _
    obtain ⟨htokens, hsum⟩ := ih hbefore
    have hwhole := run.of_guarded.step hs.1
    have hstep := hs.1.spends_credit hs.2 htokens
    have hrate := (run_params run.of_guarded).2.1
    refine ⟨hlow hwhole hs.1.fifo.1 hnot, ?_⟩
    rw [timeWorth_cons run.of_guarded hs.1, sentBy_cons, totalLen_append]
    simp only [refillsOf, lostTime, List.map_cons, List.sum_cons, Nat.mul_add] at hsum ⊢
    rw [hrate] at hstep
    omega

end Service

/-- **A token bucket serves its backlog at its rate.**  As long as not all of the packets are
sent that were waiting, what is sent is no less than what the rate gives for the time, but
for a packet, a byte for each refill, and the time between the readings of the clock.  So
they are all sent when the time is worth that much more than they are. -/
theorem bucket_serves (len : π → UInt32) {M : Nat} {h h' : List (BucketEvent π)}
    {b b' : TokenBucket π} (run : BucketRuns len h b) (hM : ∀ pkt ∈ b.queue, (len pkt).toNat ≤ M)
    (run' : Run (Guarded (BucketStep len) fun s e => e.Timely M s) (· = b) h' b') :
    (¬ b.queue <+: sentBy h' → sentBy h' <+: b.queue ∧
      b.dataRate.toNat * (b'.timerStart.toNat - b.timerStart.toNat) <
        8000 * (totalLen len (sentBy h') + M + refillsOf h') +
          b.dataRate.toNat * lostTime h') ∧
    (8000 * (totalLen len b.queue + M + refillsOf h') + b.dataRate.toNat * lostTime h' ≤
        b.dataRate.toNat * (b'.timerStart.toNat - b.timerStart.toNat) →
      b.queue <+: sentBy h') := by
  have hserves : ¬ b.queue <+: sentBy h' → sentBy h' <+: b.queue ∧
      b.dataRate.toNat * (b'.timerStart.toNat - b.timerStart.toNat) <
        8000 * (totalLen len (sentBy h') + M + refillsOf h') +
          b.dataRate.toNat * lostTime h' := by
    intro hnot
    obtain ⟨hlow, hsum⟩ := run_spends_credit run.waits hM run' hnot
    refine ⟨(exists_head run'.of_guarded hnot).1, ?_⟩
    rw [timeWorth] at hsum
    omega
  refine ⟨hserves, fun htime => ?_⟩
  by_contra hnot
  obtain ⟨⟨left, hqueue⟩, hlt⟩ := hserves hnot
  have hlen : totalLen len (sentBy h') ≤ totalLen len b.queue := by
    rw [← hqueue, totalLen_append]
    exact Nat.le_add_right _ _
  omega

/-- A packet finds no tokens, and 1200 microseconds later there are enough of them. -/
theorem bucket_serves_backlog :
    ∃ (b b' : TokenBucket Nat) (h h' : List (BucketEvent Nat)), BucketRuns UInt32.ofNat h b ∧
      b.queue = [1500] ∧ sentBy h = [] ∧
      Run (Guarded (BucketStep UInt32.ofNat) fun s e => e.Timely 1500 s) (· = b) h' b' ∧
      [1500] <+: sentBy h' := by
  have harrive : BucketStep UInt32.ofNat ({ timerStart := 0 } : TokenBucket Nat)
      (.handlePacket 1 1500 []) { timerStart := 0, queue := [1500] } := rfl
  have waits : BucketRuns UInt32.ofNat [.handlePacket 1 1500 []]
      ({ timerStart := 0, queue := [1500] } : TokenBucket Nat) :=
    .step (.start ⟨rfl, rfl, rfl⟩) harrive
  have hrun : BucketStep UInt32.ofNat ({ timerStart := 0, queue := [1500] } : TokenBucket Nat)
      (.run 1200 1200 [1500]) { tokens := 1572, timerStart := 1200, timers := [4] } :=
    ⟨by decide, by decide, rfl⟩
  have htimely : BucketEvent.Timely 1500 ({ timerStart := 0, queue := [1500] } : TokenBucket Nat)
      (.run 1200 1200 [1500]) := ⟨by decide, by decide⟩
  have served : Run (Guarded (BucketStep UInt32.ofNat) fun s e => e.Timely 1500 s) (· = _)
      [.run 1200 1200 [1500]] _ := .step (.start rfl) ⟨hrun, htimely⟩
  have hserves := bucket_serves UInt32.ofNat waits (by decide) served
  exact ⟨_, _, _, _, waits, rfl, rfl, served, hserves.2 (by decide)⟩

end ShapingRouter
