import Mathlib

/-! # The token bucket

A `TokenBucket` forwards packets from its queue as long as it has tokens for them, a
token being worth a byte; `run` adds tokens for the time that has passed, and
`handlePacket` admits a packet or not.  Between `redStart` packets and `maxPackets` it
compares the draw with a quotient of integers, which there is 0, so that only a draw
of 0 is refused (`admits_iff`).  A packet that is not admitted is let go of, and
nothing else.

`TokenBucketFilter` is one bucket for each direction.  Clocks count microseconds.
-/

namespace ShapingRouter

/-- `TokenBucket`, with packets `π`.  `timers` are the pending timers, with what they
were armed for in milliseconds. -/
structure TokenBucket (π : Type) where
  tokens : UInt32 := 0
  maxTokens : UInt32 := 8000
  maxPackets : UInt32 := 30
  dataRate : UInt32 := 20480
  redStart : UInt32 := 30
  timerStart : UInt64
  queue : List π := []
  timers : List Int := []

namespace TokenBucket
variable {π : Type}

def setMaxTokens (b : TokenBucket π) (t : UInt32) : TokenBucket π := { b with maxTokens := t }
def setMaxPackets (b : TokenBucket π) (p : UInt32) : TokenBucket π := { b with maxPackets := p }
def setDataRate (b : TokenBucket π) (rate : UInt32) : TokenBucket π := { b with dataRate := rate }
def setRedStart (b : TokenBucket π) (start : UInt32) : TokenBucket π := { b with redStart := start }

/-- `tokenInterval_`. -/
def tokenInterval : Int := 4

/-- The loop of `trySend`: the tokens left, the packets forwarded, and the queue left.
`len` is a packet's `getPacketLen`. -/
def sendLoop (len : π → UInt32) : UInt32 → List π → UInt32 × List π × List π
  | tokens, [] => (tokens, [], [])
  | tokens, pkt :: queue =>
    if len pkt ≤ tokens then
      let r := sendLoop len (tokens - len pkt) queue
      (r.1, pkt :: r.2.1, r.2.2)
    else (tokens, [], pkt :: queue)

/-- `trySend`, and the packets that it forwards. -/
def trySend (len : π → UInt32) (b : TokenBucket π) : TokenBucket π × List π :=
  let r := sendLoop len b.tokens b.queue
  ({ b with tokens := r.1, queue := r.2.2 }, r.2.1)

/-- The tokens that `run` adds for `diff` microseconds. -/
def refill (b : TokenBucket π) (diff : UInt64) : TokenBucket π :=
  if b.tokens < b.maxTokens then
    let tokens := (b.tokens.toUInt64 + b.dataRate.toUInt64 * diff / 1000 / 8).toUInt32
    { b with tokens := if tokens > b.maxTokens then b.maxTokens else tokens }
  else b

/-- `run`, which reads the clock twice, and the packets that it forwards. -/
def run (len : π → UInt32) (b : TokenBucket π) (first second : UInt64) :
    TokenBucket π × List π :=
  let r := trySend len ({ b with timerStart := second }.refill (first - b.timerStart))
  ({ r.1 with timers := r.1.timers ++ [tokenInterval] }, r.2)

/-- The `k`th pending timer expires. -/
def timeout (len : π → UInt32) (b : TokenBucket π) (k : Nat) (first second : UInt64) :
    Option (TokenBucket π × List π) :=
  if k < b.timers.length then
    some (run len { b with timers := b.timers.eraseIdx k } first second)
  else none

/-- Whether `handlePacket` admits a packet, having drawn `r`. -/
def admits (b : TokenBucket π) (r : ℚ) : Bool :=
  if b.queue.length < b.maxPackets.toNat then
    if b.queue.length < b.redStart.toNat then true
    else
      decide (r > ((b.queue.length - b.redStart.toNat) / (b.maxPackets - b.redStart).toNat : Nat))
  else false

/-- `handlePacket`, and the packets that it forwards. -/
def handlePacket (len : π → UInt32) (b : TokenBucket π) (r : ℚ) (pkt : π) :
    TokenBucket π × List π :=
  -- a packet that is not admitted is let go of here, without a verdict
  trySend len (if b.admits r then { b with queue := b.queue ++ [pkt] } else b)

/-- **Who is admitted**: in the RED region the quotient is 0. -/
theorem admits_iff (b : TokenBucket π) (r : ℚ) :
    b.admits r = true ↔ b.queue.length < b.maxPackets.toNat ∧
      (b.queue.length < b.redStart.toNat ∨ 0 < r) := by
  unfold admits
  by_cases hmax : b.queue.length < b.maxPackets.toNat
  · by_cases hred : b.queue.length < b.redStart.toNat
    · simp [hmax, hred]
    · -- neither difference wraps, and the first is the smaller
      have hle : b.redStart ≤ b.maxPackets := by
        rw [UInt32.le_iff_toNat_le]
        omega
      have hquot :
          (b.queue.length - b.redStart.toNat) / (b.maxPackets - b.redStart).toNat = 0 := by
        apply Nat.div_eq_of_lt
        rw [UInt32.toNat_sub_of_le _ _ hle]
        omega
      simp [hmax, hred, hquot]
  · simp [hmax]

/-! ## What a bucket holds -/

/-- What the bucket holds. -/
def held (b : TokenBucket π) : Multiset π := b.queue

/-- `trySend` forwards an initial part of the queue. -/
theorem sendLoop_append (len : π → UInt32) (tokens : UInt32) (queue : List π) :
    (sendLoop len tokens queue).2.1 ++ (sendLoop len tokens queue).2.2 = queue := by
  induction queue generalizing tokens with
  | nil => rfl
  | cons pkt queue ih =>
    rw [sendLoop]
    split
    · rw [List.cons_append, ih]
    · rfl

theorem held_trySend (len : π → UInt32) (b : TokenBucket π) :
    (trySend len b).1.held + (trySend len b).2 = b.held := by
  have hloop := sendLoop_append len b.tokens b.queue
  rw [add_comm]
  simp only [held, trySend, Multiset.coe_add, hloop]

@[simp] theorem refill_queue (b : TokenBucket π) (diff : UInt64) :
    (b.refill diff).queue = b.queue := by
  unfold refill
  split <;> rfl

theorem held_run (len : π → UInt32) (b : TokenBucket π) (first second : UInt64) :
    (run len b first second).1.held + (run len b first second).2 = b.held := by
  have h := held_trySend len ({ b with timerStart := second }.refill (first - b.timerStart))
  simpa only [run, held, refill_queue] using h

theorem held_timeout {len : π → UInt32} {b : TokenBucket π} {k : Nat} {first second : UInt64}
    {r : TokenBucket π × List π} (h : timeout len b k first second = some r) :
    r.1.held + r.2 = b.held := by
  obtain ⟨_, h⟩ := Option.ite_none_right_eq_some.mp h
  obtain rfl := Option.some.inj h
  exact held_run len _ first second

/-- An admitted packet is held or forwarded. -/
theorem held_handlePacket (len : π → UInt32) {b : TokenBucket π} {r : ℚ} (hr : b.admits r = true)
    (pkt : π) :
    (handlePacket len b r pkt).1.held + (handlePacket len b r pkt).2 = b.held + {pkt} := by
  rw [handlePacket, if_pos hr, held_trySend]
  simp [held, ← Multiset.coe_add]

/-- A packet that is not admitted is not held, and not forwarded either. -/
theorem held_refused (len : π → UInt32) {b : TokenBucket π} {r : ℚ} (hr : b.admits r = false)
    (pkt : π) :
    (handlePacket len b r pkt).1.held + (handlePacket len b r pkt).2 = b.held := by
  rw [handlePacket, hr, if_neg Bool.false_ne_true, held_trySend]

end TokenBucket

/-! ## The filter -/

/-- `TokenBucketFilter`. -/
structure TokenBucketFilter (π : Type) where
  inTb : TokenBucket π
  outTb : TokenBucket π

namespace TokenBucketFilter
variable {π : Type} {len : π → UInt32} {f : TokenBucketFilter π}

/-- The constructor, whose buckets read the clock. -/
def new (inStart outStart : UInt64) : TokenBucketFilter π :=
  ⟨{ timerStart := inStart }, { timerStart := outStart }⟩

/-- The two readings of the clock in a `run`. -/
structure Readings where
  first : UInt64
  second : UInt64
  deriving DecidableEq, Repr

/-- `init`, and the packets that it forwards. -/
def init (len : π → UInt32) (f : TokenBucketFilter π) (inReads outReads : Readings) :
    TokenBucketFilter π × List π :=
  let i := f.inTb.run len inReads.first inReads.second
  let o := f.outTb.run len outReads.first outReads.second
  (⟨i.1, o.1⟩, i.2 ++ o.2)

/-- The bucket of a packet. -/
def bucket (f : TokenBucketFilter π) (isIngoing : Bool) : TokenBucket π :=
  if isIngoing then f.inTb else f.outTb

/-- The bucket of one direction has done something. -/
def onBucket (f : TokenBucketFilter π) (isIngoing : Bool) (r : TokenBucket π × List π) :
    TokenBucketFilter π × List π :=
  if isIngoing then ({ f with inTb := r.1 }, r.2) else ({ f with outTb := r.1 }, r.2)

/-- The `k`th pending timer of one bucket expires. -/
def timeout (len : π → UInt32) (f : TokenBucketFilter π) (isIngoing : Bool) (k : Nat)
    (reads : Readings) : Option (TokenBucketFilter π × List π) :=
  ((f.bucket isIngoing).timeout len k reads.first reads.second).map (f.onBucket isIngoing)

/-- `handlePacket`, and the packets that it forwards. -/
def handlePacket (len : π → UInt32) (f : TokenBucketFilter π) (isIngoing : Bool) (r : ℚ)
    (pkt : π) : TokenBucketFilter π × List π :=
  f.onBucket isIngoing ((f.bucket isIngoing).handlePacket len r pkt)

/-- What the filter holds. -/
def held (f : TokenBucketFilter π) : Multiset π := f.inTb.held + f.outTb.held

/-- What one bucket gains or loses, the filter gains or loses. -/
theorem held_onBucket {isIngoing : Bool} {r : TokenBucket π × List π} {new : Multiset π}
    (h : r.1.held + r.2 = (f.bucket isIngoing).held + new) :
    (f.onBucket isIngoing r).1.held + (f.onBucket isIngoing r).2 = f.held + new := by
  cases isIngoing with
  | true =>
    calc r.1.held + f.outTb.held + r.2 = r.1.held + r.2 + f.outTb.held := by abel
      _ = f.inTb.held + new + f.outTb.held := by rw [h]; rfl
      _ = f.held + new := by rw [held]; abel
  | false =>
    calc f.inTb.held + r.1.held + r.2 = f.inTb.held + (r.1.held + r.2) := by abel
      _ = f.inTb.held + (f.outTb.held + new) := by rw [h]; rfl
      _ = f.held + new := by rw [held]; abel

theorem held_init (inReads outReads : Readings) :
    (f.init len inReads outReads).1.held + (f.init len inReads outReads).2 = f.held := by
  have hin := f.inTb.held_run len inReads.first inReads.second
  have hout := f.outTb.held_run len outReads.first outReads.second
  rw [held, held, ← hin, ← hout, init, ← Multiset.coe_add]
  abel

theorem held_timeout {isIngoing : Bool} {k : Nat} {reads : Readings}
    {r : TokenBucketFilter π × List π} (h : f.timeout len isIngoing k reads = some r) :
    r.1.held + r.2 = f.held := by
  obtain ⟨r', hr', rfl⟩ := Option.map_eq_some_iff.mp h
  have hb : r'.1.held + r'.2 = (f.bucket isIngoing).held + 0 := by
    rw [add_zero]
    exact TokenBucket.held_timeout hr'
  simpa using held_onBucket hb

theorem held_handlePacket {isIngoing : Bool} {r : ℚ}
    (hr : (f.bucket isIngoing).admits r = true) (pkt : π) :
    (f.handlePacket len isIngoing r pkt).1.held + (f.handlePacket len isIngoing r pkt).2 =
      f.held + {pkt} :=
  held_onBucket (TokenBucket.held_handlePacket len hr pkt)

theorem held_refused {isIngoing : Bool} {r : ℚ} (hr : (f.bucket isIngoing).admits r = false)
    (pkt : π) :
    (f.handlePacket len isIngoing r pkt).1.held + (f.handlePacket len isIngoing r pkt).2 =
      f.held := by
  have hb := (TokenBucket.held_refused len hr pkt).trans (add_zero _).symm
  exact (held_onBucket hb).trans (add_zero _)

end TokenBucketFilter
end ShapingRouter
