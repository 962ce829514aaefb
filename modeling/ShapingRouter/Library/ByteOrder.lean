import Mathlib

/-! # Byte order

A number of fixed width lies in memory as that many bytes, in the order of the
host.  `store` and `load` are the two directions; `hton` and `ntoh` are what the
functions of those names return: the number that the host reads where the network
wrote, and the other way round.  So storing what `hton` returns lays the number
out in network order, whatever the host (`store_hton`), and `ntoh` of what was
loaded is the number in network order (`ntoh_load`).
-/

namespace ShapingRouter.Library

/-- Where the least significant byte of a number is: first, or last. -/
inductive ByteOrder
  | little | big
  deriving DecidableEq, Repr

/-- The `w` bytes of `n`, the least significant first. -/
def littleBytes (w n : Nat) : List UInt8 := (List.range w).map fun i => UInt8.ofNat (n / 256 ^ i)

/-- The number with these bytes, the least significant first. -/
def ofLittleBytes (bs : List UInt8) : Nat := Nat.ofDigits 256 (bs.map UInt8.toNat)

theorem length_littleBytes (w n : Nat) : (littleBytes w n).length = w := by
  simp [littleBytes]

theorem ofLittleBytes_littleBytes (w n : Nat) :
    ofLittleBytes (littleBytes w n) = n % 256 ^ w := by
  induction w with
  | zero => simp [littleBytes, ofLittleBytes, Nat.mod_one]
  | succ w ih =>
    unfold ofLittleBytes littleBytes at ih ⊢
    rw [List.range_succ, List.map_append, List.map_append, Nat.ofDigits_append, ih,
      Nat.mod_pow_succ]
    simp

theorem littleBytes_ofLittleBytes (bs : List UInt8) :
    littleBytes bs.length (ofLittleBytes bs) = bs := by
  induction bs with
  | nil => rfl
  | cons b bs ih =>
    have hb : b.toNat < 256 := UInt8.toNat_lt b
    have hdiv : ∀ i, (b.toNat + 256 * ofLittleBytes bs) / 256 ^ (i + 1) =
        ofLittleBytes bs / 256 ^ i := by
      intro i
      rw [Nat.pow_succ', ← Nat.div_div_eq_div_mul]
      congr 1
      omega
    have hhead : UInt8.ofNat (b.toNat + 256 * ofLittleBytes bs) = b := by
      rw [← UInt8.toNat_inj, UInt8.toNat_ofNat']
      omega
    have hcons : ofLittleBytes (b :: bs) = b.toNat + 256 * ofLittleBytes bs := by
      simp [ofLittleBytes, Nat.ofDigits_cons]
    rw [hcons, littleBytes, List.length_cons, List.range_succ_eq_map, List.map_cons, List.map_map]
    simp only [Nat.pow_zero, Nat.div_one, hhead, Function.comp_def, Nat.succ_eq_add_one, hdiv]
    exact congrArg (b :: ·) ih

namespace ByteOrder

/-- How `n` lies in `w` bytes of memory. -/
def store (order : ByteOrder) (w n : Nat) : List UInt8 :=
  match order with
  | little => littleBytes w n
  | big => (littleBytes w n).reverse

/-- The number that lies in these bytes of memory. -/
def load (order : ByteOrder) (bs : List UInt8) : Nat :=
  match order with
  | little => ofLittleBytes bs
  | big => ofLittleBytes bs.reverse

variable (order : ByteOrder)

@[simp] theorem length_store (w n : Nat) : (order.store w n).length = w := by
  cases order <;> simp [store, length_littleBytes]

theorem load_store (w n : Nat) : order.load (order.store w n) = n % 256 ^ w := by
  cases order <;> simp [store, load, ofLittleBytes_littleBytes]

theorem store_load (bs : List UInt8) : order.store bs.length (order.load bs) = bs := by
  cases order with
  | little => exact littleBytes_ofLittleBytes bs
  | big =>
    have h := littleBytes_ofLittleBytes bs.reverse
    rw [List.length_reverse] at h
    exact (congrArg List.reverse h).trans (List.reverse_reverse bs)

/-- `load` of `w` bytes fits in `w` bytes. -/
theorem load_lt (bs : List UInt8) : order.load bs < 256 ^ bs.length := by
  have h := order.load_store bs.length (order.load bs)
  rw [order.store_load] at h
  rw [h]
  exact Nat.mod_lt _ (Nat.pow_pos (by decide))

/-! ## Words of 16 and 32 bits -/

def store16 (x : UInt16) : List UInt8 := order.store 2 x.toNat
def store32 (x : UInt32) : List UInt8 := order.store 4 x.toNat
def load16 (bs : List UInt8) : UInt16 := UInt16.ofNat (order.load bs)
def load32 (bs : List UInt8) : UInt32 := UInt32.ofNat (order.load bs)

def ntohs (x : UInt16) : UInt16 := big.load16 (order.store16 x)
def htonl (x : UInt32) : UInt32 := order.load32 (big.store32 x)
def ntohl (x : UInt32) : UInt32 := big.load32 (order.store32 x)

@[simp] theorem length_store16 (x : UInt16) : (order.store16 x).length = 2 := order.length_store 2 _
@[simp] theorem length_store32 (x : UInt32) : (order.store32 x).length = 4 := order.length_store 4 _

theorem load16_store16 (x : UInt16) : order.load16 (order.store16 x) = x := by
  rw [load16, store16, load_store, ← UInt16.toNat_inj, UInt16.toNat_ofNat']
  have := x.toNat_lt
  omega

theorem load32_store32 (x : UInt32) : order.load32 (order.store32 x) = x := by
  rw [load32, store32, load_store, ← UInt32.toNat_inj, UInt32.toNat_ofNat']
  have := x.toNat_lt
  omega

theorem store16_load16 {bs : List UInt8} (h : bs.length = 2) :
    order.store16 (order.load16 bs) = bs := by
  have hlt := order.load_lt bs
  have hs := order.store_load bs
  rw [h] at hlt hs
  rw [store16, load16, UInt16.toNat_ofNat', Nat.mod_eq_of_lt (by omega), hs]

theorem store32_load32 {bs : List UInt8} (h : bs.length = 4) :
    order.store32 (order.load32 bs) = bs := by
  have hlt := order.load_lt bs
  have hs := order.store_load bs
  rw [h] at hlt hs
  rw [store32, load32, UInt32.toNat_ofNat', Nat.mod_eq_of_lt (by omega), hs]

/-- **Network order in memory**, whatever the host. -/
theorem store32_htonl (x : UInt32) : order.store32 (order.htonl x) = big.store32 x :=
  order.store32_load32 (big.length_store32 x)

/-- **The number the network wrote**, whatever the host. -/
theorem ntohs_load16 {bs : List UInt8} (h : bs.length = 2) :
    order.ntohs (order.load16 bs) = big.load16 bs := by
  rw [ntohs, order.store16_load16 h]

theorem ntohl_load32 {bs : List UInt8} (h : bs.length = 4) :
    order.ntohl (order.load32 bs) = big.load32 bs := by
  rw [ntohl, order.store32_load32 h]

end ByteOrder
end ShapingRouter.Library
