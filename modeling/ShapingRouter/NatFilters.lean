import Mathlib
import ShapingRouter.NatMapper

/-! # The NAT filters

A filter decides which packets may pass.  `PortrSymNatFilter` and
`AddrrNatFilter` are the same code over two types of tuple: each remembers the
tuples its outgoing packets were answered under, and lets an ingoing packet pass
if its own tuple is remembered or its destination port has a rule.  `FilterKind`
holds the two conversions between the tuple type and `ConnectionTuple` (the
constructor, and the slicing when a tuple is stored in an entry), and
`ConnFilter` is the common code.  `FullconeNatFilter` lets everything pass.

`ConnFilter.Valid` says that the table is linked to the entries alive; the key
of an entry is rebuilt from the sliced tuple, as the deleter does.
-/

namespace ShapingRouter
open Library Std

/-- How a filter's tuples are made from, and stored as, connection tuples. -/
structure FilterKind (κ : Type) (cmp : κ → κ → Ordering) where
  ofTuple : ConnectionTuple → κ
  toTuple : κ → ConnectionTuple
  /-- Slicing a tuple and rebuilding it gives it back. -/
  ofTuple_toTuple : ∀ k, ofTuple (toTuple k) = k

/-- The members of `PortrSymNatFilter` and of `AddrrNatFilter`, and the entries
they own. -/
structure ConnFilter (κ : Type) (cmp : κ → κ → Ordering) where
  connectionTimeout : UInt32
  dnatRules : DnatRules
  connMap : TreeMap κ Nat cmp
  entries : Heap ConnectionEntry

namespace ConnFilter
variable {κ : Type} {cmp : κ → κ → Ordering} (kind : FilterKind κ cmp)

/-- The constructor, and `setDnatRules`. -/
def new (connectionTimeout : UInt32) (dnatRules : DnatRules) : ConnFilter κ cmp :=
  ⟨connectionTimeout, dnatRules, ∅, Heap.empty⟩

/-- `extTup` of an outgoing packet: the tuple that its answers carry. -/
def extTup (pkt : Packet) : κ :=
  kind.ofTuple ⟨pkt.dstIp, pkt.srcIp, pkt.dport, pkt.sport, pkt.transProt⟩

/-- `removeFromMaps`. -/
def removeFromMaps (f : ConnFilter κ cmp) (tup : κ) : ConnFilter κ cmp :=
  { f with connMap := f.connMap.erase tup }

/-- `filterPacket`. -/
def filterPacket (f : ConnFilter κ cmp) (now : Nat) (pkt : Packet) : ConnFilter κ cmp × Bool :=
  let tuple := kind.ofTuple (ConnectionTuple.ofPacket pkt)
  if pkt.isIngoing then
    (f, f.connMap.contains tuple || f.dnatRules.contains pkt.dport)
  else
    match lock f.entries f.connMap (extTup kind pkt) with
    | some (p, _) =>
      ({ f with entries := f.entries.modify p (·.rearm now f.connectionTimeout) }, true)
    | none =>
      ({ f with
          connMap := f.connMap.insert (extTup kind pkt) f.entries.next
          entries := f.entries.alloc (.start (kind.toTuple (extTup kind pkt)) (kind.toTuple tuple)
            now f.connectionTimeout) }, true)

/-- The timer of the entry at `p` has expired: the last reference goes, and the
entry's deleter runs. -/
def timeout (f : ConnFilter κ cmp) (p : Nat) : ConnFilter κ cmp :=
  match f.entries.objects p with
  | some ent =>
    { f.removeFromMaps (kind.ofTuple ent.extTuple) with entries := f.entries.free p }
  | none => f

/-- Every timer that is due by `now` fires. -/
def expire (f : ConnFilter κ cmp) (now : Nat) : ConnFilter κ cmp :=
  (f.entries.pointers (·.due now)).foldl (timeout kind) f

end ConnFilter

/-! ## The three filters -/

def portrSymKind : FilterKind ConnectionTuple ConnectionTuple.cmp := ⟨id, id, fun _ => rfl⟩

def addrrKind : FilterKind AddrrTuple AddrrTuple.cmp := ⟨.mk, (·.toConnectionTuple), fun _ => rfl⟩

/-- `PortrSymNatFilter`. -/
abbrev PortrSymNatFilter := ConnFilter ConnectionTuple ConnectionTuple.cmp

/-- `AddrrNatFilter`. -/
abbrev AddrrNatFilter := ConnFilter AddrrTuple AddrrTuple.cmp

/-- `PortrSymNatFilter::filterPacket`. -/
def PortrSymNatFilter.filterPacket (f : PortrSymNatFilter) (now : Nat) (pkt : Packet) :
    PortrSymNatFilter × Bool := ConnFilter.filterPacket portrSymKind f now pkt

/-- `AddrrNatFilter::filterPacket`. -/
def AddrrNatFilter.filterPacket (f : AddrrNatFilter) (now : Nat) (pkt : Packet) :
    AddrrNatFilter × Bool := ConnFilter.filterPacket addrrKind f now pkt

/-- `FullconeNatFilter`.  Its rules are set but never read. -/
structure FullconeNatFilter where
  connectionTimeout : UInt32
  dnatRules : DnatRules

/-- `FullconeNatFilter::filterPacket`. -/
def FullconeNatFilter.filterPacket (f : FullconeNatFilter) (_now : Nat) (_pkt : Packet) :
    FullconeNatFilter × Bool := (f, true)

/-! ## What a filter keeps -/

namespace ConnFilter
variable {κ : Type} {cmp : κ → κ → Ordering} {kind : FilterKind κ cmp} {f f' : ConnFilter κ cmp}

/-- The invariant of a filter. -/
def Valid (kind : FilterKind κ cmp) (f : ConnFilter κ cmp) : Prop :=
  Linked f.entries f.connMap (fun e => kind.ofTuple e.extTuple)

/-- Until when a tuple is remembered. -/
def heldTuple (f : ConnFilter κ cmp) : κ → Option (Nat × Unit) :=
  held f.entries f.connMap (fun _ => ())

theorem timeout_params (kind : FilterKind κ cmp) (f : ConnFilter κ cmp) (p : Nat) :
    (f.timeout kind p).connectionTimeout = f.connectionTimeout ∧
      (f.timeout kind p).dnatRules = f.dnatRules := by
  unfold timeout
  split <;> exact ⟨rfl, rfl⟩

theorem timeout_entries (kind : FilterKind κ cmp) (f : ConnFilter κ cmp) (p : Nat) :
    (f.timeout kind p).entries = f.entries.free p := by
  unfold timeout
  split
  · rfl
  · rename_i hp
    exact (Heap.free_of_none hp).symm

theorem expire_params (f : ConnFilter κ cmp) (now : Nat) :
    (f.expire kind now).connectionTimeout = f.connectionTimeout ∧
      (f.expire kind now).dnatRules = f.dnatRules := by
  unfold expire
  refine List.foldlRecOn (motive := fun f' : ConnFilter κ cmp =>
    f'.connectionTimeout = f.connectionTimeout ∧ f'.dnatRules = f.dnatRules) _ _ ⟨rfl, rfl⟩ ?_
  intro f' hf' p _
  obtain ⟨ht, hr⟩ := timeout_params kind f' p
  exact ⟨ht.trans hf'.1, hr.trans hf'.2⟩

/-- Expiry frees exactly the entries that are due. -/
theorem expire_objects (f : ConnFilter κ cmp) (now p : Nat) (e : ConnectionEntry) :
    (f.expire kind now).entries.objects p = some e ↔
      f.entries.objects p = some e ∧ e.due now = false := by
  rw [expire, ← List.foldl_hom ConnFilter.entries fun f p => (timeout_entries kind f p).symm]
  exact Heap.free_pointers_objects _ _ _ _

variable [TransCmp cmp]

theorem valid_new (timeout : UInt32) (rules : DnatRules) :
    (new timeout rules : ConnFilter κ cmp).Valid kind := Linked.empty

theorem Valid.timeout (hv : f.Valid kind) (p : Nat) : (f.timeout kind p).Valid kind := by
  unfold ConnFilter.timeout
  split
  · rename_i ent hp
    exact Linked.free hv hp
  · exact hv

theorem Valid.expire (hv : f.Valid kind) (now : Nat) : (f.expire kind now).Valid kind := by
  unfold ConnFilter.expire
  apply List.foldlRecOn
  · exact hv
  · intro f' hv' p _
    exact hv'.timeout p

theorem Valid.heldTuple_expire (hv : f.Valid kind) (now : Nat) (k : κ) (d : Nat) (v : Unit) :
    (f.expire kind now).heldTuple k = some (d, v) ↔ f.heldTuple k = some (d, v) ∧ now < d :=
  held_expire hv (hv.expire now) (f.expire_objects now) k d v

omit [TransCmp cmp] in
/-- An ingoing packet changes nothing, and passes by its own tuple or by a rule. -/
theorem filterPacket_ingoing (kind : FilterKind κ cmp) (f : ConnFilter κ cmp) {pkt : Packet}
    (hin : pkt.isIngoing = true) (now : Nat) :
    f.filterPacket kind now pkt =
      (f, f.connMap.contains (kind.ofTuple (ConnectionTuple.ofPacket pkt)) ||
        f.dnatRules.contains pkt.dport) := by
  simp [filterPacket, hin]

/-- The table has a key iff it holds the tuple. -/
theorem Valid.contains_iff (hv : f.Valid kind) (k : κ) :
    f.connMap.contains k = true ↔ ∃ d, f.heldTuple k = some (d, ()) := by
  rw [TreeMap.contains_eq_isSome_getElem?, Option.isSome_iff_exists]
  constructor
  · rintro ⟨p, hp⟩
    obtain ⟨e, he, hk⟩ := (hv _ _).mp hp
    exact ⟨e.expires, (held_eq_some hv).mpr ⟨p, e, he, hk, rfl, rfl⟩⟩
  · rintro ⟨d, hd⟩
    obtain ⟨p, e, he, hk, -⟩ := (held_eq_some hv).mp hd
    exact ⟨p, (hv _ _).mpr ⟨e, he, hk⟩⟩

/-- `f'` is `f` after an outgoing packet whose answers carry `k`. -/
structure Touches (kind : FilterKind κ cmp) (f : ConnFilter κ cmp) (now : Nat) (k : κ)
    (f' : ConnFilter κ cmp) : Prop where
  timeout : f'.connectionTimeout = f.connectionTimeout
  rules : f'.dnatRules = f.dnatRules
  valid : f'.Valid kind
  same : ∀ k', cmp k k' = .eq →
    f'.heldTuple k' = some (now + ConnectionEntry.lifetime f.connectionTimeout, ())
  other : ∀ k', cmp k k' ≠ .eq → f'.heldTuple k' = f.heldTuple k'

/-- **An outgoing packet always passes**, and touches the tuple of its answers. -/
theorem Valid.filterPacket_outgoing (hv : f.Valid kind) {pkt : Packet}
    (hout : pkt.isIngoing = false) (now : Nat) :
    (f.filterPacket kind now pkt).2 = true ∧
      f.Touches kind now (extTup kind pkt) (f.filterPacket kind now pkt).1 := by
  simp only [filterPacket, hout, Bool.false_eq_true, if_false]
  split
  · rename_i p ent hfound
    obtain ⟨hp, hkey⟩ := Linked.lock_eq_some hv |>.mp hfound
    have hheld := held_rearm hv (fun _ => ()) hp now f.connectionTimeout (fun _ => rfl)
      (fun _ => rfl)
    refine ⟨rfl, rfl, rfl, Linked.modify hv p fun _ => rfl, fun k hk => ?_, fun k hk => ?_⟩
    · exact (hheld k).trans (if_pos (TransCmp.eq_trans hkey hk))
    · exact (hheld k).trans (if_neg fun h =>
        hk (TransCmp.eq_trans (OrientedCmp.eq_symm hkey) h))
  · rename_i hnone
    have hnew := Linked.getElem?_of_lock_eq_none hv hnone
    -- the entry stores the sliced tuple; the key rebuilt from it is the tuple again
    have hkey := kind.ofTuple_toTuple (extTup kind pkt)
    rw [← hkey] at hnew
    have halloc := Linked.alloc (e := .start (kind.toTuple (extTup kind pkt))
      (kind.toTuple (kind.ofTuple (ConnectionTuple.ofPacket pkt))) now f.connectionTimeout) hv hnew
    have hheld := held_alloc hv (fun _ => ()) (e := .start (kind.toTuple (extTup kind pkt))
      (kind.toTuple (kind.ofTuple (ConnectionTuple.ofPacket pkt))) now f.connectionTimeout) hnew
    simp only [ConnectionEntry.start, hkey] at halloc hheld
    refine ⟨rfl, rfl, rfl, halloc, fun k hk => ?_, fun k hk => ?_⟩
    · exact (hheld k).trans (if_pos hk)
    · exact (hheld k).trans (if_neg hk)

end ConnFilter
end ShapingRouter
