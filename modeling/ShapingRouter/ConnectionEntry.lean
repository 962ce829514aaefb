import Mathlib
import ShapingRouter.ConnectionTuple
import ShapingRouter.Library.Deadlines
import ShapingRouter.Library.WeakTable

/-! # Connection entries and their timers

A `ConnectionEntry` lives as long as its timer is pending: the timer's handler
holds the only lasting reference.  Between two packets an entry is therefore
alive exactly until its timer expires, and the deleter its owner gave it then
erases its keys.  The clock counts nanoseconds, and a timeout is given in
seconds.  Every table of entries is a table of weak references in the sense of
`Library.WeakTable`; `held` is what such a table knows at a time, and the three
theorems about it say that creating and rearming an entry touch its key, and
that expiry drops what is due.
-/

namespace ShapingRouter
open Library

/-- `ConnectionEntry`: its tuples, and when its timer expires. -/
structure ConnectionEntry where
  extTuple : ConnectionTuple
  intTuple : ConnectionTuple
  expires : Nat
  deriving DecidableEq, Repr

namespace ConnectionEntry

/-- `timeout_`: the constructor converts the timeout of the owner to an `int`. -/
def timeout (connectionTimeout : UInt32) : Int := connectionTimeout.toInt32.toInt

/-- For how long a timer is pending after `armTimer`.  With a negative timeout it expires
at once. -/
def lifetime (connectionTimeout : UInt32) : Nat := 10 ^ 9 * (timeout connectionTimeout).toNat

/-- `start`: the timer is armed. -/
def start (extTuple intTuple : ConnectionTuple) (now : Nat) (connectionTimeout : UInt32) :
    ConnectionEntry := ⟨extTuple, intTuple, now + lifetime connectionTimeout⟩

/-- `rearm`: the timer is stopped and armed again. -/
def rearm (now : Nat) (connectionTimeout : UInt32) (e : ConnectionEntry) : ConnectionEntry :=
  { e with expires := now + lifetime connectionTimeout }

/-- The timer has expired by `now`. -/
def due (now : Nat) (e : ConnectionEntry) : Bool := decide (e.expires ≤ now)

theorem timeout_eq (connectionTimeout : UInt32) :
    timeout connectionTimeout = if connectionTimeout.toNat < 2 ^ 31 then
      (connectionTimeout.toNat : Int) else connectionTimeout.toNat - 2 ^ 32 := by
  have hbits : timeout connectionTimeout = connectionTimeout.toBitVec.toInt := rfl
  have hnat : connectionTimeout.toBitVec.toNat = connectionTimeout.toNat := rfl
  rw [hbits, BitVec.toInt_eq_toNat_cond, hnat]
  split <;> split <;> first | rfl | omega

/-- Up to the largest `int` the timer is pending for the timeout. -/
theorem lifetime_of_lt {connectionTimeout : UInt32} (h : connectionTimeout.toNat < 2 ^ 31) :
    lifetime connectionTimeout = 10 ^ 9 * connectionTimeout.toNat := by
  rw [lifetime, timeout_eq, if_pos h, Int.toNat_natCast]

/-- From there on it expires at once. -/
theorem lifetime_of_le {connectionTimeout : UInt32} (h : 2 ^ 31 ≤ connectionTimeout.toNat) :
    lifetime connectionTimeout = 0 := by
  have hlt := connectionTimeout.toNat_lt
  have hneg : (timeout connectionTimeout).toNat = 0 := by
    rw [timeout_eq, if_neg (by omega)]
    omega
  rw [lifetime, hneg, Nat.mul_zero]

end ConnectionEntry

section Held
variable {κ α : Type} {cmp : κ → κ → Ordering}

/-- What the table `m` holds under `k`: the deadline of the entry found, and what
`val` reads off it. -/
def held (h : Heap ConnectionEntry) (m : Std.TreeMap κ Nat cmp) (val : ConnectionEntry → α)
    (k : κ) : Option (Nat × α) :=
  (lock h m k).map fun found => (found.2.expires, val found.2)

variable {h h' : Heap ConnectionEntry} {m m' : Std.TreeMap κ Nat cmp}
  {key : ConnectionEntry → κ} {val : ConnectionEntry → α}

theorem held_eq_some (hl : Linked h m key) {k : κ} {d : Nat} {v : α} :
    held h m val k = some (d, v) ↔
      ∃ p e, h.objects p = some e ∧ cmp (key e) k = .eq ∧ e.expires = d ∧ val e = v := by
  simp only [held, Option.map_eq_some_iff, Prod.mk.injEq]
  constructor
  · rintro ⟨⟨p, e⟩, hpe, hd, hv⟩
    obtain ⟨he, hk⟩ := hl.lock_eq_some.mp hpe
    exact ⟨p, e, he, hk, hd, hv⟩
  · rintro ⟨p, e, he, hk, hd, hv⟩
    exact ⟨(p, e), hl.lock_eq_some.mpr ⟨he, hk⟩, hd, hv⟩

/-- **Rearming touches the entry's key.** -/
theorem held_rearm (hl : Linked h m key) (val : ConnectionEntry → α) {p : Nat}
    {e : ConnectionEntry} (he : h.objects p = some e) (now : Nat) (timeout : UInt32)
    (hkey : ∀ e, key (e.rearm now timeout) = key e)
    (hval : ∀ e, val (e.rearm now timeout) = val e) (k : κ) :
    held (h.modify p (·.rearm now timeout)) m val k =
      if cmp (key e) k = .eq then some (now + ConnectionEntry.lifetime timeout, val e)
      else held h m val k := by
  rw [held, hl.lock_modify he hkey]
  split
  · simp [ConnectionEntry.rearm, ← hval e]
  · rfl

/-- **Creating an entry touches its key.** -/
theorem held_alloc [Std.TransCmp cmp] (hl : Linked h m key) (val : ConnectionEntry → α)
    {e : ConnectionEntry} (hnew : m[key e]? = none) (k : κ) :
    held (h.alloc e) (m.insert (key e) h.next) val k =
      if cmp (key e) k = .eq then some (e.expires, val e) else held h m val k := by
  rw [held, hl.lock_alloc hnew]
  split <;> rfl

/-- **Expiry drops what is due.** -/
theorem held_expire (hl : Linked h m key) (hl' : Linked h' m' key) {now : Nat}
    (hsub : ∀ p e, h'.objects p = some e ↔ h.objects p = some e ∧ e.due now = false)
    (k : κ) (d : Nat) (v : α) :
    held h' m' val k = some (d, v) ↔ held h m val k = some (d, v) ∧ now < d := by
  rw [held_eq_some hl, held_eq_some hl']
  constructor
  · rintro ⟨p, e, he, hk, rfl, rfl⟩
    obtain ⟨he, hdue⟩ := (hsub p e).mp he
    exact ⟨⟨p, e, he, hk, rfl, rfl⟩, by simpa [ConnectionEntry.due] using hdue⟩
  · rintro ⟨⟨p, e, he, hk, rfl, rfl⟩, hlt⟩
    exact ⟨p, e, (hsub p e).mpr ⟨he, by simpa [ConnectionEntry.due] using hlt⟩, hk, rfl, rfl⟩

end Held
end ShapingRouter
