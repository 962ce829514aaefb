import Mathlib
import ShapingRouter.Library.Run
import ShapingRouter.TokenRefill

/-! # The queue of a token bucket

Packets arrive and timers expire at any time, and each call takes the mutex for one
section after another: `handlePacket` to admit and to send, `run` to refill and to
send.  A `SharedBucket` is a bucket with the calls that are under way in it.  Whatever
the order of the sections, it sends what it admits in order, it never holds more than
`maxPackets`, and it does not idle: a head that the tokens are enough for has a
`trySend` coming (`bucket_queue_in_order`).

The ramp of the random early drop is a quotient of integers, so that the code follows
it only where it is 0, or where the draw is above it anyway (`early_drop_iff`).

A packet that is longer than `maxTokens` is admitted all the same, and then blocks the
queue for ever (`bucket_never_blocks`).
-/

namespace ShapingRouter
open Library

variable {π : Type}

/-! ## Random early drop -/

namespace TokenBucket
variable (b : TokenBucket π) (r : ℚ)

/-- How far the queue is into the RED region, as a fraction. -/
def redFraction : ℚ :=
  ((b.queue.length : ℚ) - b.redStart.toNat) / ((b.maxPackets.toNat : ℚ) - b.redStart.toNat)

/-- The ramp: all below `redStart`, none from `maxPackets` on, and in between the draws
above the fraction. -/
def RampAdmits : Prop :=
  b.queue.length < b.maxPackets.toNat ∧
    (b.queue.length < b.redStart.toNat ∨ b.redFraction < r)

/-- The draws that the code takes for too high: inside the RED region, above 0 and not
above the fraction. -/
def BelowRamp : Prop :=
  b.redStart.toNat < b.queue.length ∧ b.queue.length < b.maxPackets.toNat ∧
    0 < r ∧ r ≤ b.redFraction

variable {b r}

/-- From `redStart` to `maxPackets`, the fraction is 0 only at the start. -/
theorem redFraction_nonneg (hred : b.redStart.toNat ≤ b.queue.length)
    (hmax : b.queue.length < b.maxPackets.toNat) : 0 ≤ b.redFraction := by
  have hred' : (b.redStart.toNat : ℚ) ≤ b.queue.length := by exact_mod_cast hred
  have hmax' : (b.queue.length : ℚ) < b.maxPackets.toNat := by exact_mod_cast hmax
  apply div_nonneg
  · linarith
  · linarith

theorem admits_iff_rampAdmits :
    (b.admits r = true ↔ b.RampAdmits r) ↔ ¬b.BelowRamp r := by
  rw [admits_iff, RampAdmits, BelowRamp]
  by_cases hmax : b.queue.length < b.maxPackets.toNat
  · by_cases hred : b.queue.length < b.redStart.toNat
    · have hnot : ¬b.redStart.toNat < b.queue.length := by omega
      simp [hmax, hred, hnot]
    · have hnonneg := redFraction_nonneg (Nat.le_of_not_lt hred) hmax
      rcases Nat.eq_or_lt_of_le (Nat.le_of_not_lt hred) with heq | hlt
      · -- the ramp begins at 0
        have hzero : b.redFraction = 0 := by
          rw [redFraction, heq]
          simp
        simp [hmax, heq, hzero]
      · have hdrop : (0 < r ↔ b.redFraction < r) ↔ ¬(0 < r ∧ r ≤ b.redFraction) := by
          constructor
          · rintro hiff ⟨hpos, hle⟩
            exact absurd (hiff.mp hpos) (not_lt.mpr hle)
          · intro hnot
            refine ⟨fun hpos => ?_, fun hlt' => hnonneg.trans_lt hlt'⟩
            by_contra hle
            exact hnot ⟨hpos, not_lt.mp hle⟩
        simpa [hmax, hred, hlt] using hdrop
  · simp [hmax]

/-- The quotient is taken only where neither difference wraps and the divisor is not
zero. -/
theorem red_differences (hmax : b.queue.length < b.maxPackets.toNat)
    (hred : ¬b.queue.length < b.redStart.toNat) :
    b.redStart.toNat ≤ b.queue.length ∧ b.maxPackets - b.redStart ≠ 0 ∧
      (b.maxPackets - b.redStart).toNat = b.maxPackets.toNat - b.redStart.toNat := by
  have hle : b.redStart ≤ b.maxPackets := by
    rw [UInt32.le_iff_toNat_le]
    omega
  have hsub := UInt32.toNat_sub_of_le _ _ hle
  refine ⟨Nat.le_of_not_lt hred, ?_, hsub⟩
  intro hzero
  rw [hzero] at hsub
  change 0 = _ at hsub
  omega

end TokenBucket

/-- **When the random early drop follows its ramp.**  A packet is admitted as the ramp
says iff the queue is not inside the RED region, or the draw is 0 or above the fraction.
For every configuration, no difference wraps and nothing is divided by zero, and a longer
queue admits no more. -/
theorem early_drop_iff (b : TokenBucket π) (r : ℚ) :
    ((b.admits r = true ↔ b.RampAdmits r) ↔ ¬b.BelowRamp r) ∧
    (b.queue.length < b.maxPackets.toNat → ¬b.queue.length < b.redStart.toNat →
      b.redStart.toNat ≤ b.queue.length ∧ b.maxPackets - b.redStart ≠ 0 ∧
        (b.maxPackets - b.redStart).toNat = b.maxPackets.toNat - b.redStart.toNat) ∧
    ∀ queue : List π, b.queue.length ≤ queue.length →
      TokenBucket.admits { b with queue := queue } r = true → b.admits r = true := by
  refine ⟨TokenBucket.admits_iff_rampAdmits, TokenBucket.red_differences, ?_⟩
  intro queue hle hadmits
  obtain ⟨hmax, hred⟩ := (TokenBucket.admits_iff _ r).mp hadmits
  change queue.length < b.maxPackets.toNat at hmax
  change queue.length < b.redStart.toNat ∨ 0 < r at hred
  refine (TokenBucket.admits_iff b r).mpr ⟨hle.trans_lt hmax, ?_⟩
  rcases hred with hred | hpos
  · exact Or.inl (hle.trans_lt hred)
  · exact Or.inr hpos

/-- Half way up the ramp, a draw of a quarter is admitted. -/
theorem early_drop_ignores_ramp :
    ∃ b : TokenBucket Nat, b.queue.length = 20 ∧ b.redStart = 10 ∧ b.maxPackets = 30 ∧
      b.redFraction = 1 / 2 ∧ b.admits (1 / 4) = true ∧ ¬b.RampAdmits (1 / 4) := by
  have hfraction : ({ timerStart := 0, redStart := 10, queue := List.replicate 20 0 } :
      TokenBucket Nat).redFraction = 1 / 2 := by
    have hred : (10 : UInt32).toNat = 10 := rfl
    have hmax : (30 : UInt32).toNat = 30 := rfl
    norm_num [TokenBucket.redFraction, hred, hmax]
  refine ⟨_, rfl, rfl, rfl, hfraction, ?_, ?_⟩
  · exact (TokenBucket.admits_iff _ _).mpr ⟨by decide, .inr (by norm_num)⟩
  · rintro ⟨-, hred | hramp⟩
    · exact absurd hred (by decide)
    · rw [hfraction] at hramp
      norm_num at hramp

/-! ## The sections -/

/-- A call that is under way in a bucket, by its next section: `run` from its start, or
with the time that it has read; and the `trySend` that ends `run`, which arms its timer
again, or `handlePacket`. -/
inductive BucketCall
  | run
  | refill (diff : UInt64)
  | trySend (rearms : Bool)
  deriving DecidableEq, Repr

/-- `TokenBucket`, and the calls that are under way in it. -/
structure SharedBucket (π : Type) where
  bucket : TokenBucket π
  calls : List BucketCall

/-- What happens to a bucket: a timer expires; a call, the `k`th one, reads the clock,
refills or sends; or a packet comes, and is admitted or not. -/
inductive BucketSection (π : Type)
  | timeout (k : Nat)
  | readClock (k : Nat) (first second : UInt64)
  | refill (k : Nat)
  | arrive (r : ℚ) (pkt : π) (admitted : Bool)
  | trySend (k : Nat) (sent : List π)

namespace BucketSection

/-- The packet admitted by a section. -/
def admitted : BucketSection π → List π
  | arrive _ pkt true => [pkt]
  | _ => []

/-- The packets forwarded by a section. -/
def sent : BucketSection π → List π
  | trySend _ sent => sent
  | _ => []

end BucketSection

/-- The packets admitted, the first one first. -/
def admittedIn (h : List (BucketSection π)) : List π := h.reverse.flatMap (·.admitted)

/-- The packets forwarded, the first one first. -/
def sentIn (h : List (BucketSection π)) : List π := h.reverse.flatMap (·.sent)

section History
variable (e : BucketSection π) (h : List (BucketSection π))

@[simp] theorem admittedIn_cons : admittedIn (e :: h) = admittedIn h ++ e.admitted := by
  simp [admittedIn]

@[simp] theorem sentIn_cons : sentIn (e :: h) = sentIn h ++ e.sent := by
  simp [sentIn]

end History

namespace TokenBucket

/-- The first section of `handlePacket`. -/
def enqueue (b : TokenBucket π) (r : ℚ) (pkt : π) : TokenBucket π :=
  if b.admits r then { b with queue := b.queue ++ [pkt] } else b

/-- The bucket waits: it holds nothing, or the tokens are not enough for its head. -/
def Waits (len : π → UInt32) (b : TokenBucket π) : Prop :=
  ∀ pkt rest, b.queue = pkt :: rest → b.tokens < len pkt

end TokenBucket

namespace SharedBucket
variable (len : π → UInt32)

/-- One section. -/
inductive Step (s : SharedBucket π) : BucketSection π → SharedBucket π → Prop
  | timeout (k : Nat) : k < s.bucket.timers.length →
      Step s (.timeout k)
        { bucket := { s.bucket with timers := s.bucket.timers.eraseIdx k }
          calls := s.calls ++ [.run] }
  | readClock (k : Nat) (first second : UInt64) : s.calls[k]? = some .run →
      Step s (.readClock k first second)
        { bucket := { s.bucket with timerStart := second }
          calls := s.calls.set k (.refill (first - s.bucket.timerStart)) }
  | refill (k : Nat) (diff : UInt64) : s.calls[k]? = some (.refill diff) →
      Step s (.refill k)
        { bucket := s.bucket.refill diff, calls := s.calls.set k (.trySend true) }
  | arrive (r : ℚ) (pkt : π) :
      Step s (.arrive r pkt (s.bucket.admits r))
        { bucket := s.bucket.enqueue r pkt, calls := s.calls ++ [.trySend false] }
  | trySend (k : Nat) (rearms : Bool) : s.calls[k]? = some (.trySend rearms) →
      Step s (.trySend k (s.bucket.trySend len).2)
        { bucket := { (s.bucket.trySend len).1 with
            timers := s.bucket.timers ++ if rearms then [TokenBucket.tokenInterval] else [] }
          calls := s.calls.eraseIdx k }

/-- A bucket, however it is configured, in which `init` has called `run`. -/
def Started (s : SharedBucket π) : Prop :=
  s.bucket.tokens = 0 ∧ s.bucket.queue = [] ∧ s.bucket.timers = [] ∧ s.calls = [.run]

/-- The runs of a bucket. -/
abbrev Runs : List (BucketSection π) → SharedBucket π → Prop := Run (Step len) Started

variable {len} {s s' : SharedBucket π} {e : BucketSection π} {h : List (BucketSection π)}

/-! ### A call on its own -/

section LastCall
variable (len) (b : TokenBucket π) (calls : List BucketCall)

theorem set_last (call next : BucketCall) :
    (calls ++ [call]).set calls.length next = calls ++ [next] := by
  rw [List.set_append_right _ _ (Nat.le_refl _), Nat.sub_self, List.set_cons_zero]

theorem eraseIdx_last (call : BucketCall) : (calls ++ [call]).eraseIdx calls.length = calls := by
  rw [List.eraseIdx_append_of_length_le (Nat.le_refl _), Nat.sub_self, List.eraseIdx_cons_zero,
    List.append_nil]

theorem Step.readClock_last (first second : UInt64) :
    Step len ⟨b, calls ++ [.run]⟩ (.readClock calls.length first second)
      ⟨{ b with timerStart := second }, calls ++ [.refill (first - b.timerStart)]⟩ := by
  have hcall : (calls ++ [BucketCall.run])[calls.length]? = some .run := by simp
  have hstep : Step len ⟨b, calls ++ [.run]⟩ _ _ := .readClock _ first second hcall
  rwa [set_last] at hstep

theorem Step.refill_last (diff : UInt64) :
    Step len ⟨b, calls ++ [.refill diff]⟩ (.refill calls.length)
      ⟨b.refill diff, calls ++ [.trySend true]⟩ := by
  have hcall : (calls ++ [BucketCall.refill diff])[calls.length]? = some (.refill diff) := by simp
  have hstep : Step len ⟨b, calls ++ [.refill diff]⟩ _ _ := .refill _ diff hcall
  rwa [set_last] at hstep

theorem Step.trySend_last (rearms : Bool) :
    Step len ⟨b, calls ++ [.trySend rearms]⟩ (.trySend calls.length (b.trySend len).2)
      ⟨{ (b.trySend len).1 with
        timers := b.timers ++ if rearms then [TokenBucket.tokenInterval] else [] }, calls⟩ := by
  have hcall : (calls ++ [BucketCall.trySend rearms])[calls.length]? = some (.trySend rearms) := by
    simp
  have hstep : Step len ⟨b, calls ++ [.trySend rearms]⟩ _ _ := .trySend _ rearms hcall
  rwa [eraseIdx_last] at hstep

end LastCall

/-- `handlePacket`, with nothing in between. -/
theorem handlePacket_sections (s : SharedBucket π) (r : ℚ) (pkt : π) :
    Run (Step len) (· = s)
      [.trySend s.calls.length (s.bucket.handlePacket len r pkt).2,
        .arrive r pkt (s.bucket.admits r)]
      { s with bucket := (s.bucket.handlePacket len r pkt).1 } := by
  have hsend := Step.trySend_last len (s.bucket.enqueue r pkt) s.calls false
  rw [if_neg Bool.false_ne_true, List.append_nil] at hsend
  exact .step (.step (.start rfl) (.arrive r pkt)) hsend

/-- A timer that expires, and the `run` that it calls, with nothing in between. -/
theorem timeout_sections {k : Nat} {first second : UInt64} {r : TokenBucket π × List π}
    (ht : s.bucket.timeout len k first second = some r) :
    Run (Step len) (· = s)
      [.trySend s.calls.length r.2, .refill s.calls.length,
        .readClock s.calls.length first second, .timeout k]
      { s with bucket := r.1 } := by
  obtain ⟨hk, ht⟩ := Option.ite_none_right_eq_some.mp ht
  obtain rfl := Option.some.inj ht
  have hexpire : Step len s _ _ := .timeout k hk
  have hread := Step.readClock_last len
    { s.bucket with timers := s.bucket.timers.eraseIdx k } s.calls first second
  have hrefill := Step.refill_last len
    { s.bucket with timers := s.bucket.timers.eraseIdx k, timerStart := second } s.calls
    (first - s.bucket.timerStart)
  have hsend := Step.trySend_last len (TokenBucket.refill
    { s.bucket with timers := s.bucket.timers.eraseIdx k, timerStart := second }
    (first - s.bucket.timerStart)) s.calls true
  exact .step (.step (.step (.step (.start rfl) hexpire) hread) hrefill) hsend

/-! ### One section -/

/-- No section changes the configuration. -/
theorem Step.params (hs : Step len s e s') : s'.bucket.maxTokens = s.bucket.maxTokens ∧
    s'.bucket.maxPackets = s.bucket.maxPackets := by
  cases hs with
  | timeout k hk => exact ⟨rfl, rfl⟩
  | readClock k first second hk => exact ⟨rfl, rfl⟩
  | refill k diff hk =>
    show (s.bucket.refill diff).maxTokens = _ ∧ (s.bucket.refill diff).maxPackets = _
    rw [TokenBucket.refill]
    split <;> exact ⟨rfl, rfl⟩
  | arrive r pkt =>
    show (s.bucket.enqueue r pkt).maxTokens = _ ∧ (s.bucket.enqueue r pkt).maxPackets = _
    rw [TokenBucket.enqueue]
    split <;> exact ⟨rfl, rfl⟩
  | trySend k rearms hk => exact ⟨rfl, rfl⟩

/-- **What a section does to the queue**: nothing; or it appends a packet that there is
room for; or it takes from the front what it sends. -/
theorem Step.queue_cases (hs : Step len s e s') :
    (e.admitted = [] ∧ e.sent = [] ∧ s'.bucket.queue = s.bucket.queue) ∨
    (∃ r pkt, e = .arrive r pkt true ∧ s.bucket.admits r = true ∧
      s'.bucket.queue = s.bucket.queue ++ [pkt]) ∨
    (∃ k sent, e = .trySend k sent ∧ sent ++ s'.bucket.queue = s.bucket.queue) := by
  cases hs with
  | timeout k hk => exact Or.inl ⟨rfl, rfl, rfl⟩
  | readClock k first second hk => exact Or.inl ⟨rfl, rfl, rfl⟩
  | refill k diff hk => exact Or.inl ⟨rfl, rfl, TokenBucket.refill_queue s.bucket diff⟩
  | arrive r pkt =>
    cases hadmits : s.bucket.admits r with
    | true => exact Or.inr (Or.inl ⟨r, pkt, rfl, hadmits, by simp [TokenBucket.enqueue, hadmits]⟩)
    | false => exact Or.inl ⟨rfl, rfl, by simp [TokenBucket.enqueue, hadmits]⟩
  | trySend k rearms hk =>
    exact Or.inr (Or.inr ⟨k, _, rfl, TokenBucket.sendLoop_append len _ _⟩)

/-- `trySend` stops where the bucket waits. -/
theorem waits_trySend (len : π → UInt32) (b : TokenBucket π) : (b.trySend len).1.Waits len := by
  suffices key : ∀ tokens queue pkt rest,
      (TokenBucket.sendLoop len tokens queue).2.2 = pkt :: rest →
        (TokenBucket.sendLoop len tokens queue).1 < len pkt from
    key b.tokens b.queue
  intro tokens queue
  induction queue generalizing tokens with
  | nil =>
    intro pkt rest hrest
    cases hrest
  | cons head queue ih =>
    intro pkt rest hrest
    rw [TokenBucket.sendLoop] at hrest ⊢
    by_cases hle : len head ≤ tokens
    · rw [if_pos hle] at hrest ⊢
      exact ih _ pkt rest hrest
    · rw [if_neg hle] at hrest ⊢
      obtain ⟨rfl, rfl⟩ := List.cons.inj hrest
      exact UInt32.not_le.mp hle

theorem Step.waits {k : Nat} {sent : List π} (hs : Step len s (.trySend k sent) s') :
    s'.bucket.Waits len := by
  cases hs with
  | trySend k rearms hk => exact waits_trySend len s.bucket

/-- Another call that is under way stays under way. -/
theorem mem_set_of_ne {l : List BucketCall} {k : Nat} {call call' next : BucketCall}
    (hcall : call ∈ l) (hk : l[k]? = some call') (hne : call' ≠ call) : call ∈ l.set k next := by
  obtain ⟨j, hj⟩ := List.mem_iff_getElem?.mp hcall
  have hjk : k ≠ j := by
    intro heq
    rw [heq, hj] at hk
    exact hne (Option.some.inj hk).symm
  exact List.mem_iff_getElem?.mpr ⟨j, by rw [List.getElem?_set_ne hjk, hj]⟩

/-- **The invariant**: what was admitted has been sent or is in the queue, in order; the
queue is bounded; and where the bucket does not wait, a `trySend` is to come. -/
structure Inv (len : π → UInt32) (h : List (BucketSection π)) (s : SharedBucket π) : Prop where
  order : admittedIn h = sentIn h ++ s.bucket.queue
  bounded : s.bucket.queue.length ≤ s.bucket.maxPackets.toNat
  busy : s.bucket.Waits len ∨ ∃ rearms, .trySend rearms ∈ s.calls

theorem Inv.start (hs : Started s) : Inv len [] s := by
  obtain ⟨-, hqueue, -, -⟩ := hs
  refine ⟨?_, ?_, .inl ?_⟩
  · rw [hqueue]
    rfl
  · rw [hqueue]
    exact Nat.zero_le _
  · intro pkt rest hcons
    rw [hqueue] at hcons
    cases hcons

theorem Inv.order_step (hi : Inv len h s) (hs : Step len s e s') :
    admittedIn (e :: h) = sentIn (e :: h) ++ s'.bucket.queue := by
  have horder := hi.order
  rw [admittedIn_cons, sentIn_cons, horder]
  rcases hs.queue_cases with ⟨hadmitted, hsent, hqueue⟩ | ⟨r, pkt, rfl, -, hqueue⟩ |
    ⟨k, sent, rfl, hqueue⟩
  · simp [hadmitted, hsent, hqueue]
  · simp [BucketSection.admitted, BucketSection.sent, hqueue]
  · simp [BucketSection.admitted, BucketSection.sent, ← hqueue]

theorem Inv.bounded_step (hi : Inv len h s) (hs : Step len s e s') :
    s'.bucket.queue.length ≤ s'.bucket.maxPackets.toNat := by
  have hbounded := hi.bounded
  rw [hs.params.2]
  rcases hs.queue_cases with ⟨-, -, hqueue⟩ | ⟨r, pkt, -, hadmits, hqueue⟩ |
    ⟨k, sent, -, hqueue⟩
  · rw [hqueue]
    exact hbounded
  · have hroom := ((TokenBucket.admits_iff s.bucket r).mp hadmits).1
    rw [hqueue, List.length_append, List.length_singleton]
    omega
  · have hlength := congrArg List.length hqueue
    rw [List.length_append] at hlength
    omega

theorem Inv.busy_step (hi : Inv len h s) (hs : Step len s e s') :
    s'.bucket.Waits len ∨ ∃ rearms, .trySend rearms ∈ s'.calls := by
  have hbusy := hi.busy
  cases hs with
  | timeout k hk =>
    rcases hbusy with hwaits | ⟨rearms, hcall⟩
    · exact Or.inl hwaits
    · exact Or.inr ⟨rearms, List.mem_append_left _ hcall⟩
  | readClock k first second hk =>
    rcases hbusy with hwaits | ⟨rearms, hcall⟩
    · exact Or.inl hwaits
    · exact Or.inr ⟨rearms, mem_set_of_ne hcall hk (by simp)⟩
  | refill k diff hk =>
    -- the tokens may be enough for the head now, but the call goes on to send
    have hlt : k < s.calls.length := (List.getElem?_eq_some_iff.mp hk).1
    exact Or.inr ⟨true, List.mem_set hlt _⟩
  | arrive r pkt => exact Or.inr ⟨false, List.mem_append_right _ (List.mem_singleton.mpr rfl)⟩
  | trySend k rearms hk => exact Or.inl (waits_trySend len s.bucket)

theorem inv (run : Runs len h s) : Inv len h s := by
  induction run with
  | start hs => exact .start hs
  | step _ hs ih => exact ⟨ih.order_step hs, ih.bounded_step hs, ih.busy_step hs⟩

end SharedBucket

/-! ## The two directions -/

/-- `TokenBucketFilter`, and the calls that are under way in its buckets. -/
structure SharedTokenBucketFilter (π : Type) where
  inTb : SharedBucket π
  outTb : SharedBucket π

namespace SharedTokenBucketFilter

/-- The bucket of a direction. -/
def tb (f : SharedTokenBucketFilter π) (isIngoing : Bool) : SharedBucket π :=
  if isIngoing then f.inTb else f.outTb

/-- The bucket of a direction has done something. -/
def onTb (f : SharedTokenBucketFilter π) (isIngoing : Bool) (s : SharedBucket π) :
    SharedTokenBucketFilter π :=
  if isIngoing then { f with inTb := s } else { f with outTb := s }

/-- One section in one of the buckets; a packet comes to the bucket of its direction. -/
def Step (len : π → UInt32) (isIngoing : π → Bool) (f : SharedTokenBucketFilter π)
    (e : Bool × BucketSection π) (f' : SharedTokenBucketFilter π) : Prop :=
  (∀ r pkt admitted, e.2 = .arrive r pkt admitted → isIngoing pkt = e.1) ∧
    ∃ s', (f.tb e.1).Step len e.2 s' ∧ f' = f.onTb e.1 s'

/-- The runs of the filter, from `init` on. -/
abbrev Runs (len : π → UInt32) (isIngoing : π → Bool) :
    List (Bool × BucketSection π) → SharedTokenBucketFilter π → Prop :=
  Run (Step len isIngoing) fun f => ∀ d, (f.tb d).Started

/-- What happened in one direction. -/
def side (d : Bool) (h : List (Bool × BucketSection π)) : List (BucketSection π) :=
  (h.filter (·.1 = d)).map (·.2)

variable {len : π → UInt32} {isIngoing : π → Bool} {f f' : SharedTokenBucketFilter π}
  {h : List (Bool × BucketSection π)} {d : Bool}

theorem tb_onTb_self (s : SharedBucket π) : (f.onTb d s).tb d = s := by
  cases d <;> rfl

theorem tb_onTb_of_ne {d' : Bool} (hne : d ≠ d') (s : SharedBucket π) :
    (f.onTb d s).tb d' = f.tb d' := by
  cases d <;> cases d' <;> first | rfl | exact absurd rfl hne

/-- **Each direction runs by itself.** -/
theorem tb_run (run : Runs len isIngoing h f) (d : Bool) :
    SharedBucket.Runs len (side d h) (f.tb d) := by
  induction run with
  | start hs => exact .start (hs d)
  | @step h f f' e run hs ih =>
    obtain ⟨-, s', hs', rfl⟩ := hs
    by_cases hd : e.1 = d
    · subst hd
      rw [tb_onTb_self]
      simpa [side] using ih.step hs'
    · rw [tb_onTb_of_ne hd]
      simpa [side, hd] using ih

/-- The packets admitted in one direction are packets of that direction. -/
theorem isIngoing_of_mem_admittedIn (run : Runs len isIngoing h f) {pkt : π}
    (hpkt : pkt ∈ admittedIn (side d h)) : isIngoing pkt = d := by
  induction run with
  | start hs => cases hpkt
  | @step h f f' e run hs ih =>
    by_cases hd : e.1 = d
    · have hside : side d (e :: h) = e.2 :: side d h := by simp [side, hd]
      rw [hside, admittedIn_cons] at hpkt
      rcases List.mem_append.mp hpkt with hpkt | hpkt
      · exact ih hpkt
      · obtain ⟨d', e⟩ := e
        cases e with
        | arrive r pkt' admitted =>
          cases admitted with
          | true =>
            obtain rfl := List.mem_singleton.mp hpkt
            exact (hs.1 r pkt true rfl).trans hd
          | false => cases hpkt
        | timeout | readClock | refill | trySend => cases hpkt
    · have hside : side d (e :: h) = side d h := by simp [side, hd]
      rw [hside] at hpkt
      exact ih hpkt

end SharedTokenBucketFilter

/-- **The queues of a token bucket filter.**  However the sections of the calls follow on
each other, in each direction the packets admitted are those forwarded and then those in
the queue, in order; the queue holds no more than `maxPackets`; when a `trySend` is done
the queue is empty or its head longer than the tokens, and wherever it is not so a
`trySend` is to come; and no section touches the bucket of the other direction. -/
theorem bucket_queue_in_order (len : π → UInt32) (isIngoing : π → Bool)
    {h : List (Bool × BucketSection π)} {f : SharedTokenBucketFilter π}
    (run : SharedTokenBucketFilter.Runs len isIngoing h f) (d : Bool) :
    (admittedIn (SharedTokenBucketFilter.side d h) =
        sentIn (SharedTokenBucketFilter.side d h) ++ (f.tb d).bucket.queue ∧
      ∀ pkt ∈ admittedIn (SharedTokenBucketFilter.side d h), isIngoing pkt = d) ∧
    (f.tb d).bucket.queue.length ≤ (f.tb d).bucket.maxPackets.toNat ∧
    ((f.tb d).bucket.Waits len ∨ ∃ rearms, .trySend rearms ∈ (f.tb d).calls) ∧
    ∀ e f', SharedTokenBucketFilter.Step len isIngoing f (d, e) f' →
      (∀ k sent, e = .trySend k sent → (f'.tb d).bucket.Waits len) ∧ f'.tb (!d) = f.tb (!d) := by
  obtain ⟨horder, hbounded, hbusy⟩ :=
    SharedBucket.inv (SharedTokenBucketFilter.tb_run run d)
  refine ⟨⟨horder, ?_⟩, hbounded, hbusy, ?_⟩
  · intro pkt hpkt
    exact SharedTokenBucketFilter.isIngoing_of_mem_admittedIn run hpkt
  · rintro e f' ⟨-, s', hs', rfl⟩
    refine ⟨?_, SharedTokenBucketFilter.tb_onTb_of_ne (by simp) s'⟩
    rintro k sent rfl
    rw [SharedTokenBucketFilter.tb_onTb_self]
    exact hs'.waits

/-- A packet of 6000 bytes comes to a full bucket and leaves, one of 9000 bytes stays. -/
theorem bucket_queue_in_order_two :
    ∃ (h : List (Bool × BucketSection Nat)) (f : SharedTokenBucketFilter Nat),
      SharedTokenBucketFilter.Runs UInt32.ofNat (fun _ => true) h f ∧
      admittedIn (SharedTokenBucketFilter.side true h) = [6000, 9000] ∧
      sentIn (SharedTokenBucketFilter.side true h) = [6000] ∧
      admittedIn (SharedTokenBucketFilter.side true h) =
        sentIn (SharedTokenBucketFilter.side true h) ++ (f.tb true).bucket.queue := by
  have ingoing : ∀ {f : SharedTokenBucketFilter Nat} {e : BucketSection Nat}
      {s' : SharedBucket Nat}, f.inTb.Step UInt32.ofNat e s' →
        SharedTokenBucketFilter.Step UInt32.ofNat (fun _ => true) f (true, e)
          { f with inTb := s' } :=
    fun hs => ⟨fun _ _ _ _ => rfl, _, hs, rfl⟩
  have start : SharedTokenBucketFilter.Runs UInt32.ofNat (fun _ => true) []
      ⟨⟨{ timerStart := 0 }, [.run]⟩, ⟨{ timerStart := 0 }, [.run]⟩⟩ :=
    .start fun d => by cases d <;> exact ⟨rfl, rfl, rfl, rfl⟩
  have read := start.step (ingoing (.readClock 0 4000 4000 rfl))
  have refill := read.step (ingoing (.refill 0 4000 rfl))
  have filled := refill.step (ingoing (.trySend 0 true rfl))
  have first := (filled.step (ingoing (.arrive 1 6000))).step (ingoing (.trySend 0 false rfl))
  have second := (first.step (ingoing (.arrive 1 9000))).step (ingoing (.trySend 0 false rfl))
  exact ⟨_, _, second, rfl, rfl, (bucket_queue_in_order UInt32.ofNat _ second true).1.1⟩

/-! ## Packets that block the queue -/

namespace TokenBucket
variable {len : π → UInt32} {b : TokenBucket π}

/-- A time that is worth the tokens wanted, and hardly more. -/
theorem exists_worth (hrate : b.dataRate ≠ 0) {want : Nat} (hwant : want ≤ 2 ^ 31) :
    ∃ diff : UInt64, b.dataRate.toNat * diff.toNat < 2 ^ 64 ∧ want ≤ b.worth diff ∧
      b.worth diff < want + 2 ^ 30 := by
  have hpos : 0 < b.dataRate.toNat := by
    apply Nat.pos_of_ne_zero
    intro hzero
    exact hrate (UInt32.toNat_inj.mp hzero)
  have hrate32 := UInt32.toNat_lt b.dataRate
  -- the microseconds that `want` tokens take, rounded up
  obtain ⟨t, hlow, hhigh⟩ : ∃ t, 8000 * want ≤ b.dataRate.toNat * t ∧
      b.dataRate.toNat * t < 8000 * want + b.dataRate.toNat := by
    refine ⟨(8000 * want + b.dataRate.toNat - 1) / b.dataRate.toNat, ?_, ?_⟩
    · have hdiv := Nat.lt_mul_div_succ (8000 * want + b.dataRate.toNat - 1) hpos
      rw [Nat.mul_add, Nat.mul_one] at hdiv
      omega
    · have hdiv := Nat.mul_div_le (8000 * want + b.dataRate.toNat - 1) b.dataRate.toNat
      omega
  have ht : t < 2 ^ 64 := by
    have hle : t ≤ b.dataRate.toNat * t := Nat.le_mul_of_pos_left t hpos
    omega
  have hdiff : (UInt64.ofNat t).toNat = t := UInt64.toNat_ofNat_of_lt' ht
  refine ⟨UInt64.ofNat t, ?_, ?_, ?_⟩
  · rw [hdiff]
    omega
  · rw [worth, hdiff]
    omega
  · rw [worth, hdiff]
    omega

/-- **A tick that is late enough releases the head**, if the bucket takes so many tokens. -/
theorem exists_run_releases {pkt : π} {rest : List π} (hqueue : b.queue = pkt :: rest)
    (hfits : len pkt ≤ b.maxTokens) (hrate : b.dataRate ≠ 0) (hlen : (len pkt).toNat ≤ 2 ^ 31) :
    ∃ t, (b.run len t t).2.head? = some pkt := by
  have hfits' : (len pkt).toNat ≤ b.maxTokens.toNat := hfits
  suffices henough : ∃ diff, len pkt ≤ (b.refill diff).tokens by
    obtain ⟨diff, henough⟩ := henough
    refine ⟨b.timerStart + diff, ?_⟩
    have htokens : (({ b with timerStart := b.timerStart + diff } : TokenBucket π).refill
        (b.timerStart + diff - b.timerStart)).tokens = (b.refill diff).tokens := by
      rw [add_sub_cancel_left, refill, refill]
      split <;> rfl
    show (sendLoop len (({ b with timerStart := b.timerStart + diff } : TokenBucket π).refill
      (b.timerStart + diff - b.timerStart)).tokens _).2.1.head? = _
    rw [htokens, refill_queue, hqueue, sendLoop, if_pos henough]
    rfl
  by_cases htok : b.tokens < len pkt
  · have htok' : b.tokens.toNat < (len pkt).toNat := htok
    obtain ⟨diff, hproduct, hlow, hhigh⟩ :=
      exists_worth hrate (show (len pkt).toNat - b.tokens.toNat ≤ 2 ^ 31 by omega)
    have hr : b.InRange diff := ⟨hproduct, by omega⟩
    have hroom : b.tokens < b.maxTokens := UInt32.lt_of_lt_of_le htok hfits
    refine ⟨diff, ?_⟩
    rw [UInt32.le_iff_toNat_le, hr.toNat_refill, if_pos hroom]
    omega
  · -- there are enough already, and a refill for no time changes nothing
    have htok' : (len pkt).toNat ≤ b.tokens.toNat := Nat.le_of_not_lt htok
    have htoken := UInt32.toNat_lt b.tokens
    have hr : b.InRange 0 := ⟨by simp, by simpa [worth] using htoken⟩
    refine ⟨0, ?_⟩
    rw [UInt32.le_iff_toNat_le, hr.toNat_refill]
    have hworth : b.worth 0 = 0 := by simp [worth]
    split
    · omega
    · exact htok'

/-- The loop does not get past a packet that the tokens are not enough for. -/
theorem sendLoop_stops {tokens : UInt32} {pkt : π} (hlong : tokens < len pkt)
    (before rest : List π) :
    ∃ before', (sendLoop len tokens (before ++ pkt :: rest)).2.2 = before' ++ pkt :: rest := by
  induction before generalizing tokens with
  | nil =>
    rw [List.nil_append, sendLoop, if_neg (UInt32.not_le.mpr hlong)]
    exact ⟨[], rfl⟩
  | cons head before ih =>
    rw [List.cons_append, sendLoop]
    by_cases hle : len head ≤ tokens
    · rw [if_pos hle]
      exact ih (UInt32.lt_of_le_of_lt (UInt32.sub_le hle) hlong)
    · rw [if_neg hle]
      exact ⟨head :: before, rfl⟩

end TokenBucket

namespace SharedBucket
variable {len : π → UInt32} {s s' : SharedBucket π} {e : BucketSection π}
  {h h' : List (BucketSection π)}

/-- The condition: a packet that is admitted is no longer than the bucket takes tokens. -/
def AdmitsFitting (len : π → UInt32) (s : SharedBucket π) : BucketSection π → Prop
  | .arrive r pkt _ => s.bucket.admits r = true → len pkt ≤ s.bucket.maxTokens
  | _ => True

/-- The runs that admit only such packets. -/
abbrev FittingRuns (len : π → UInt32) : List (BucketSection π) → SharedBucket π → Prop :=
  Run (Guarded (Step len) (AdmitsFitting len)) Started

/-- Every packet in the queue is no longer than the bucket takes tokens. -/
def Fits (len : π → UInt32) (b : TokenBucket π) : Prop :=
  ∀ pkt ∈ b.queue, len pkt ≤ b.maxTokens

theorem Fits.step (hfits : Fits len s.bucket) (hs : Step len s e s')
    (hg : AdmitsFitting len s e) : Fits len s'.bucket := by
  intro pkt hpkt
  rw [hs.params.1]
  rcases hs.queue_cases with ⟨-, -, heq⟩ | ⟨r, pkt', rfl, hadmits, heq⟩ | ⟨k, sent, -, heq⟩
  · rw [heq] at hpkt
    exact hfits pkt hpkt
  · rw [heq] at hpkt
    rcases List.mem_append.mp hpkt with hpkt | hpkt
    · exact hfits pkt hpkt
    · obtain rfl := List.mem_singleton.mp hpkt
      exact hg hadmits
  · exact hfits pkt (heq ▸ List.mem_append_right _ hpkt)

theorem fits (run : FittingRuns len h s) : Fits len s.bucket := by
  induction run with
  | start hs =>
    intro pkt hpkt
    rw [hs.2.1] at hpkt
    cases hpkt
  | step _ hs ih => exact ih.step hs.1 hs.2

/-- A full bucket whose packets all fit waits only for packets to come. -/
theorem queue_eq_nil (hfits : Fits len s.bucket) (hwaits : s.bucket.Waits len)
    (hfull : s.bucket.tokens = s.bucket.maxTokens) : s.bucket.queue = [] := by
  cases hqueue : s.bucket.queue with
  | nil => rfl
  | cons pkt rest =>
    have hlong := hwaits pkt rest hqueue
    have hfit := hfits pkt (by rw [hqueue]; exact List.mem_cons_self)
    rw [hfull] at hlong
    exact absurd hfit (UInt32.not_le.mpr hlong)

/-- The tokens never exceed what the bucket takes. -/
theorem Step.tokens_le (hle : s.bucket.tokens ≤ s.bucket.maxTokens) (hs : Step len s e s') :
    s'.bucket.tokens ≤ s'.bucket.maxTokens := by
  rw [hs.params.1]
  cases hs with
  | timeout k hk => exact hle
  | readClock k first second hk => exact hle
  | refill k diff hk => exact TokenBucket.refill_tokens_le_max hle diff
  | arrive r pkt =>
    show (s.bucket.enqueue r pkt).tokens ≤ _
    rw [TokenBucket.enqueue]
    split <;> exact hle
  | trySend k rearms hk =>
    have hspent := TokenBucket.sendLoop_tokens len s.bucket.tokens s.bucket.queue
    have hle' : s.bucket.tokens.toNat ≤ s.bucket.maxTokens.toNat := hle
    rw [UInt32.le_iff_toNat_le]
    show (TokenBucket.sendLoop len s.bucket.tokens s.bucket.queue).1.toNat ≤ _
    omega

/-- A packet that does not fit stays where it is, with all that is behind it. -/
theorem Step.blocked {pkt : π} {before rest : List π}
    (hle : s.bucket.tokens ≤ s.bucket.maxTokens) (hlong : s.bucket.maxTokens < len pkt)
    (hs : Step len s e s') (hqueue : s.bucket.queue = before ++ pkt :: rest) :
    ∃ before' added, s'.bucket.queue = before' ++ pkt :: (rest ++ added) := by
  cases hs with
  | timeout k hk => exact ⟨before, [], by simpa using hqueue⟩
  | readClock k first second hk => exact ⟨before, [], by simpa using hqueue⟩
  | refill k diff hk => exact ⟨before, [], by simpa using hqueue⟩
  | arrive r pkt' =>
    cases hadmits : s.bucket.admits r with
    | true => exact ⟨before, [pkt'], by simp [TokenBucket.enqueue, hadmits, hqueue]⟩
    | false => exact ⟨before, [], by simp [TokenBucket.enqueue, hadmits, hqueue]⟩
  | trySend k rearms hk =>
    have htok : s.bucket.tokens < len pkt := UInt32.lt_of_le_of_lt hle hlong
    obtain ⟨before', hloop⟩ := TokenBucket.sendLoop_stops htok before rest
    refine ⟨before', [], ?_⟩
    show (TokenBucket.sendLoop len s.bucket.tokens s.bucket.queue).2.2 = _
    rw [hqueue, hloop, List.append_nil]

theorem tokens_le (run : Runs len h s) : s.bucket.tokens ≤ s.bucket.maxTokens := by
  induction run with
  | start hs =>
    rw [hs.1]
    exact UInt32.zero_le
  | step _ hs ih => exact hs.tokens_le ih

/-- **A packet that does not fit blocks the queue for ever.** -/
theorem blocked_run {pkt : π} {before rest : List π} (run : Runs len h s)
    (hlong : s.bucket.maxTokens < len pkt) (hqueue : s.bucket.queue = before ++ pkt :: rest)
    (next : Run (Step len) (· = s) h' s') :
    ∃ before' added, s'.bucket.queue = before' ++ pkt :: (rest ++ added) := by
  suffices key : s'.bucket.maxTokens = s.bucket.maxTokens ∧
      ∃ before' added, s'.bucket.queue = before' ++ pkt :: (rest ++ added) from key.2
  induction next with
  | start hs =>
    subst hs
    exact ⟨rfl, before, [], by simpa using hqueue⟩
  | @step h' s₁ s₂ e next hs ih =>
    obtain ⟨hmax, before', added, hqueue'⟩ := ih
    have hle := tokens_le (run.trans next)
    obtain ⟨before'', added', hqueue''⟩ := hs.blocked hle (by rwa [hmax]) hqueue'
    exact ⟨hs.params.1.trans hmax, before'', added ++ added', by rw [hqueue'', List.append_assoc]⟩

end SharedBucket

/-- **Packets that block a token bucket.**  In a run that admits only packets that are no
longer than `maxTokens`, every packet in the queue fits, a `trySend` that leaves the bucket
full leaves the queue empty, and a tick that is late enough releases the head.  And a
packet in the queue that does not fit stays there in every continuation, with all that is
behind it. -/
theorem bucket_never_blocks (len : π → UInt32) {h : List (BucketSection π)} {s : SharedBucket π} :
    (SharedBucket.FittingRuns len h s →
      SharedBucket.Fits len s.bucket ∧
      (∀ k sent s', SharedBucket.Step len s (.trySend k sent) s' →
        s'.bucket.tokens = s'.bucket.maxTokens → s'.bucket.queue = []) ∧
      ∀ pkt rest, s.bucket.queue = pkt :: rest → s.bucket.dataRate ≠ 0 →
        (len pkt).toNat ≤ 2 ^ 31 → ∃ t, (s.bucket.run len t t).2.head? = some pkt) ∧
    (SharedBucket.Runs len h s → ∀ before pkt rest, s.bucket.queue = before ++ pkt :: rest →
      s.bucket.maxTokens < len pkt → ∀ h' s', Run (SharedBucket.Step len) (· = s) h' s' →
        ∃ before' added, s'.bucket.queue = before' ++ pkt :: (rest ++ added)) := by
  constructor
  · intro run
    have hfits := SharedBucket.fits run
    refine ⟨hfits, ?_, ?_⟩
    · intro k sent s' hs hfull
      exact SharedBucket.queue_eq_nil (hfits.step hs trivial) hs.waits hfull
    · intro pkt rest hqueue hrate hlen
      have hfit := hfits pkt (by rw [hqueue]; exact List.mem_cons_self)
      exact TokenBucket.exists_run_releases hqueue hfit hrate hlen
  · intro run before pkt rest hqueue hlong h' s' next
    exact SharedBucket.blocked_run run hlong hqueue next

/-- In the default configuration, a packet of 9000 bytes stays at the head of the queue,
though the bucket is full. -/
theorem bucket_blocked :
    ∃ (h : List (BucketSection Nat)) (s : SharedBucket Nat), SharedBucket.Runs UInt32.ofNat h s ∧
      s.bucket.maxTokens = 8000 ∧ h.head? = some (.trySend 0 []) ∧
      s.bucket.tokens = s.bucket.maxTokens ∧ s.bucket.queue = [9000] := by
  have start : SharedBucket.Runs UInt32.ofNat []
      (⟨{ timerStart := 0 }, [.run]⟩ : SharedBucket Nat) := .start ⟨rfl, rfl, rfl, rfl⟩
  have read := start.step (.readClock 0 4000 4000 rfl)
  have filled := (read.step (.refill 0 4000 rfl)).step (.trySend 0 true rfl)
  have blocked := (filled.step (.arrive 1 9000)).step (.trySend 0 false rfl)
  exact ⟨_, _, blocked, rfl, rfl, rfl, rfl⟩

/-- A packet of 6000 bytes waits for tokens, and fits. -/
theorem bucket_never_blocks_fitting :
    ∃ (h : List (BucketSection Nat)) (s : SharedBucket Nat),
      SharedBucket.FittingRuns UInt32.ofNat h s ∧ s.bucket.queue = [6000] ∧
      ∃ t, (s.bucket.run UInt32.ofNat t t).2.head? = some 6000 := by
  have start : SharedBucket.FittingRuns UInt32.ofNat []
      (⟨{ timerStart := 0 }, [.run]⟩ : SharedBucket Nat) := .start ⟨rfl, rfl, rfl, rfl⟩
  have hfits : UInt32.ofNat 6000 ≤ 8000 := by decide
  have arrive := start.step ⟨.arrive 1 6000, fun _ => hfits⟩
  have wait := arrive.step ⟨.trySend 1 false rfl, trivial⟩
  obtain ⟨-, -, hrelease⟩ := (bucket_never_blocks UInt32.ofNat).1 wait
  exact ⟨_, _, wait, rfl, hrelease 6000 [] rfl (by decide) (by decide)⟩

end ShapingRouter
