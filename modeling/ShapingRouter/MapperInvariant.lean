import Mathlib
import ShapingRouter.NatMapper

/-! # What a mapper keeps

Both maps of a mapper are linked to its entries, and every entry leads from the
internal address to the external one (`ConnMapper.Valid`).  Expiry and packets
keep this, for either kind of mapper.  In a valid mapper an outgoing packet that
no rule concerns touches the key of its connection, with the external port it is
sent from (`ConnMapper.Touches`); an ingoing packet changes nothing.
-/

namespace ShapingRouter.ConnMapper
open Library Std

variable {κ : Type} {cmp : κ → κ → Ordering} (kind : MapperKind κ cmp)

/-- The invariant of a mapper whose outgoing packets all come from `int`. -/
structure Valid (int : UInt32) (m : ConnMapper κ cmp) : Prop where
  linkedInt : Linked m.entries m.intPortMap (fun e => kind.intKey e.intTuple)
  linkedExt : Linked m.entries m.extPortMap (fun e => e.extTuple.dport)
  tuples : ∀ p e, m.entries.objects p = some e →
    e.intTuple.srcIp = int ∧ e.extTuple.dstIp = m.ipExt ∧ kind.pinned e.intTuple e.extTuple.dport

/-- The external port that the connection under an internal key holds, and until
when. -/
def heldPort (m : ConnMapper κ cmp) : κ → Option (Nat × UInt16) :=
  held m.entries m.intPortMap (fun e => e.extTuple.dport)

/-- The entry alive under an external port. -/
def entryAt (m : ConnMapper κ cmp) (port : UInt16) : Option ConnectionEntry :=
  (lock m.entries m.extPortMap port).map (·.2)

variable {kind} {int : UInt32} {m m' : ConnMapper κ cmp}

/-! ## Expiry -/

theorem timeout_base (m : ConnMapper κ cmp) (p : Nat) :
    (m.timeout kind p).toNatMapperBase = m.toNatMapperBase := by
  unfold timeout
  split <;> rfl

theorem timeout_entries (kind : MapperKind κ cmp) (m : ConnMapper κ cmp) (p : Nat) :
    (m.timeout kind p).entries = m.entries.free p := by
  unfold timeout
  split
  · rfl
  · rename_i hp
    exact (Heap.free_of_none hp).symm

theorem expire_base (m : ConnMapper κ cmp) (now : Nat) :
    (m.expire kind now).toNatMapperBase = m.toNatMapperBase := by
  unfold expire
  refine List.foldlRecOn (motive := fun m' : ConnMapper κ cmp =>
    m'.toNatMapperBase = m.toNatMapperBase) _ _ rfl ?_
  intro m' hm' p _
  rw [timeout_base, hm']

/-- Expiry frees exactly the entries that are due. -/
theorem expire_objects (m : ConnMapper κ cmp) (now p : Nat) (e : ConnectionEntry) :
    (m.expire kind now).entries.objects p = some e ↔
      m.entries.objects p = some e ∧ e.due now = false := by
  rw [expire, ← List.foldl_hom ConnMapper.entries fun m p => (timeout_entries kind m p).symm]
  exact Heap.free_pointers_objects _ _ _ _

/-! ## The invariant is kept -/

variable [TransCmp cmp]

theorem valid_new (ipInt ipExt : UInt32) (timeout : UInt32) (rules : DnatRules) :
    (new ipInt ipExt timeout rules : ConnMapper κ cmp).Valid kind int where
  linkedInt := Linked.empty
  linkedExt := Linked.empty
  tuples _ _ h := by cases h

theorem Valid.timeout (hv : m.Valid kind int) (p : Nat) : (m.timeout kind p).Valid kind int := by
  unfold ConnMapper.timeout
  split
  · rename_i ent hp
    refine ⟨hv.linkedInt.free hp, hv.linkedExt.free hp, fun q e he => ?_⟩
    refine hv.tuples q e ?_
    rw [Heap.free_objects] at he
    split at he
    · cases he
    · exact he
  · exact hv

theorem Valid.expire (hv : m.Valid kind int) (now : Nat) : (m.expire kind now).Valid kind int := by
  unfold ConnMapper.expire
  apply List.foldlRecOn
  · exact hv
  · intro m' hv' p _
    exact hv'.timeout p

omit [TransCmp cmp] in
theorem Valid.rearm (hv : m.Valid kind int) (p now : Nat) :
    ({ m with entries := m.entries.modify p (·.rearm now m.connectionTimeout) } :
      ConnMapper κ cmp).Valid kind int := by
  refine ⟨hv.linkedInt.modify p fun _ => rfl, hv.linkedExt.modify p fun _ => rfl, ?_⟩
  intro q e he
  rw [Heap.modify_objects] at he
  split at he
  · obtain ⟨e', he', rfl⟩ := Option.map_eq_some_iff.mp he
    exact hv.tuples p e' he'
  · exact hv.tuples q e he

omit [TransCmp cmp] in
/-- A port chosen for a connection that the internal map does not know is not in
use by any connection. -/
theorem Valid.extPort_unused (hv : m.Valid kind int) {t : ConnectionTuple} {port : UInt16}
    (hnew : m.intPortMap[kind.intKey t]? = none)
    (hport : kind.extPort m.extPortMap.contains t = some port) : m.extPortMap[port]? = none := by
  cases hp : m.extPortMap[port]? with
  | none => rfl
  | some p =>
    obtain ⟨e, he, hk⟩ := (hv.linkedExt _ _).mp hp
    have hpinned := (hv.tuples p e he).2.2
    rw [show e.extTuple.dport = port from LawfulEqCmp.eq_of_compare hk] at hpinned
    rcases kind.apart hport with hfree | hpin
    · rw [TreeMap.contains_eq_isSome_getElem?, hp] at hfree
      cases hfree
    · rw [(hv.linkedInt _ _).mpr ⟨e, he, hpin _ hpinned⟩] at hnew
      cases hnew

theorem Valid.makeNewConn (hv : m.Valid kind int) {pkt : Packet} {port : UInt16} (now : Nat)
    (hsrc : pkt.srcIp = int)
    (hnew : m.intPortMap[kind.intKey (ConnectionTuple.ofPacket pkt)]? = none)
    (hport : kind.extPort m.extPortMap.contains (ConnectionTuple.ofPacket pkt) = some port) :
    (m.makeNewConn kind now (m.extTuple pkt port) (ConnectionTuple.ofPacket pkt)).Valid
      kind int := by
  refine ⟨hv.linkedInt.alloc hnew, hv.linkedExt.alloc (hv.extPort_unused hnew hport), ?_⟩
  intro p e he
  change (m.entries.alloc _).objects p = some e at he
  rw [Heap.alloc_objects] at he
  split at he
  · obtain rfl := Option.some.inj he
    exact ⟨hsrc, rfl, kind.pinned_of_extPort hport⟩
  · exact hv.tuples p e he

/-! ## Packets -/

omit [TransCmp cmp] in
/-- A rule settles a packet, and leaves the mapper as it is. -/
theorem mapPacket_of_rule {pkt pkt' : Packet} (hrule : m.checkDnat pkt = some pkt') (now : Nat) :
    m.mapPacket kind now pkt = some (m, some pkt') := by
  simp only [mapPacket, hrule]

omit [TransCmp cmp] in
/-- Without a rule, an ingoing packet is rewritten by the entry under its
destination port, and the mapper stays as it is. -/
theorem mapPacket_ingoing {pkt : Packet} (hin : pkt.isIngoing = true)
    (hrule : m.checkDnat pkt = none) (now : Nat) :
    m.mapPacket kind now pkt = some (m, (m.entryAt pkt.dport).map
      fun e => pkt.withDestination e.intTuple.srcIp e.intTuple.sport) := by
  simp only [mapPacket, hrule, hin, if_true, entryAt]
  split <;> rename_i h <;> rw [h] <;> rfl

omit [TransCmp cmp] in
/-- A packet that the mapper never finishes with belongs to a new connection, and
there is no external port for it. -/
theorem mapPacket_eq_none {pkt : Packet} {now : Nat} (h : m.mapPacket kind now pkt = none) :
    m.heldPort (kind.intKey (ConnectionTuple.ofPacket pkt)) = none ∧
      kind.extPort m.extPortMap.contains (ConnectionTuple.ofPacket pkt) = none := by
  simp only [mapPacket] at h
  split at h
  · cases h
  · split at h
    · split at h <;> cases h
    · split at h
      · cases h
      · rename_i hlock
        split at h
        · cases h
        · exact ⟨by rw [heldPort, held, hlock]; rfl, by assumption⟩

variable (kind int) in
/-- `m'` is `m` after it sent an outgoing packet with tuple `t` from external
port `port`: the key of `t` holds that port for another timeout, and it is the
port it held before, or a newly chosen one. -/
structure Touches (m : ConnMapper κ cmp) (now : Nat) (t : ConnectionTuple) (port : UInt16)
    (m' : ConnMapper κ cmp) : Prop where
  base : m'.toNatMapperBase = m.toNatMapperBase
  valid : m'.Valid kind int
  same : ∀ k, cmp (kind.intKey t) k = .eq →
    m'.heldPort k = some (now + ConnectionEntry.lifetime m.connectionTimeout, port)
  other : ∀ k, cmp (kind.intKey t) k ≠ .eq → m'.heldPort k = m.heldPort k
  stable : ∀ k d v, cmp (kind.intKey t) k = .eq → m.heldPort k = some (d, v) → v = port
  chosen : m.heldPort (kind.intKey t) = none →
    kind.extPort m.extPortMap.contains t = some port
  pinned : kind.pinned t port

/-- An entry under the key of `t` is rearmed. -/
theorem Valid.touches_rearm (hv : m.Valid kind int) {t : ConnectionTuple} {p : Nat}
    {ent : ConnectionEntry}
    (hfound : lock m.entries m.intPortMap (kind.intKey t) = some (p, ent)) (now : Nat) :
    m.Touches kind int now t ent.extTuple.dport
      { m with entries := m.entries.modify p (·.rearm now m.connectionTimeout) } := by
  obtain ⟨hp, hkey⟩ := hv.linkedInt.lock_eq_some.mp hfound
  have hheld := held_rearm hv.linkedInt (fun e => e.extTuple.dport) hp now m.connectionTimeout
    (fun _ => rfl) (fun _ => rfl)
  have hsame : ∀ k, cmp (kind.intKey t) k = .eq ↔ cmp (kind.intKey ent.intTuple) k = .eq :=
    fun k => ⟨TransCmp.eq_trans hkey, TransCmp.eq_trans (OrientedCmp.eq_symm hkey)⟩
  refine ⟨rfl, hv.rearm p now, fun k hk => ?_, fun k hk => ?_, fun k d v hk hd => ?_, ?_,
    kind.pinned_of_key hkey (hv.tuples p ent hp).2.2⟩
  · rw [heldPort, hheld, if_pos ((hsame k).mp hk)]
  · rw [heldPort, hheld, if_neg fun h => hk ((hsame k).mpr h), heldPort]
  · obtain ⟨q, e, hq, hek, -, rfl⟩ := (held_eq_some hv.linkedInt).mp hd
    have hpq := hv.linkedInt.unique hq hp
      (TransCmp.eq_trans hek (OrientedCmp.eq_symm ((hsame k).mp hk)))
    rw [hpq, hp] at hq
    rw [Option.some.inj hq]
  · intro hnone
    rw [heldPort, held, hfound] at hnone
    cases hnone

/-- A new entry is made for `t`. -/
theorem Valid.touches_makeNewConn (hv : m.Valid kind int) {pkt : Packet} {port : UInt16}
    (hsrc : pkt.srcIp = int)
    (hnone : lock m.entries m.intPortMap (kind.intKey (ConnectionTuple.ofPacket pkt)) = none)
    (hport : kind.extPort m.extPortMap.contains (ConnectionTuple.ofPacket pkt) = some port)
    (now : Nat) :
    m.Touches kind int now (ConnectionTuple.ofPacket pkt) port
      (m.makeNewConn kind now (m.extTuple pkt port) (ConnectionTuple.ofPacket pkt)) := by
  have hnew := hv.linkedInt.getElem?_of_lock_eq_none hnone
  have hheld := held_alloc hv.linkedInt (fun e => e.extTuple.dport)
    (e := .start (m.extTuple pkt port) (.ofPacket pkt) now m.connectionTimeout) hnew
  refine ⟨rfl, hv.makeNewConn now hsrc hnew hport, fun k hk => ?_, fun k hk => ?_,
    fun k d v hk hd => ?_, fun _ => hport, kind.pinned_of_extPort hport⟩
  · exact (hheld k).trans (if_pos hk)
  · exact (hheld k).trans (if_neg hk)
  · obtain ⟨q, e, hq, hek, -⟩ := (held_eq_some hv.linkedInt).mp hd
    rw [(hv.linkedInt _ _).mpr ⟨e, hq, TransCmp.eq_trans hek (OrientedCmp.eq_symm hk)⟩] at hnew
    cases hnew

/-- **An outgoing packet that no rule concerns** is sent from the external
address, and touches its connection. -/
theorem Valid.mapPacket_outgoing (hv : m.Valid kind int) {pkt : Packet} {now : Nat}
    (hout : pkt.isIngoing = false) (hsrc : pkt.srcIp = int) (hrule : m.checkDnat pkt = none)
    {r : Option Packet} (h : m.mapPacket kind now pkt = some (m', r)) :
    ∃ port, r = some (pkt.withSource m.ipExt port) ∧
      m.Touches kind int now (ConnectionTuple.ofPacket pkt) port m' := by
  simp only [mapPacket, hrule, hout, Bool.false_eq_true, if_false] at h
  split at h
  · rename_i p ent hfound
    obtain ⟨rfl, rfl⟩ := Prod.mk.inj (Option.some.inj h)
    have hext := (hv.tuples p ent (hv.linkedInt.lock_eq_some.mp hfound).1).2.1
    exact ⟨ent.extTuple.dport, by rw [hext], hv.touches_rearm hfound now⟩
  · rename_i hnone
    split at h
    · rename_i port hport
      obtain ⟨rfl, rfl⟩ := Prod.mk.inj (Option.some.inj h)
      exact ⟨port, rfl, hv.touches_makeNewConn hsrc hnone hport now⟩
    · cases h

/-! ## Entries by external port -/

theorem Valid.heldPort_expire (hv : m.Valid kind int) (now : Nat) (k : κ) (d : Nat) (v : UInt16) :
    (m.expire kind now).heldPort k = some (d, v) ↔ m.heldPort k = some (d, v) ∧ now < d :=
  held_expire hv.linkedInt (hv.expire now).linkedInt (m.expire_objects now) k d v

/-- The entry under an external port holds that port for its own internal key. -/
theorem Valid.entryAt_spec (hv : m.Valid kind int) {port : UInt16} {e : ConnectionEntry}
    (h : m.entryAt port = some e) :
    e.intTuple.srcIp = int ∧ m.heldPort (kind.intKey e.intTuple) = some (e.expires, port) := by
  obtain ⟨⟨p, e'⟩, hlock, rfl⟩ := Option.map_eq_some_iff.mp h
  obtain ⟨he, hport⟩ := hv.linkedExt.lock_eq_some.mp hlock
  exact ⟨(hv.tuples p e' he).1, (held_eq_some hv.linkedInt).mpr
    ⟨p, e', he, ReflCmp.compare_self, rfl, LawfulEqCmp.eq_of_compare hport⟩⟩

omit [TransCmp cmp] in
/-- A port is a key of the external map iff some entry holds it. -/
theorem Valid.contains_extPortMap (hv : m.Valid kind int) (port : UInt16) :
    m.extPortMap.contains port = true ↔ ∃ e, m.entryAt port = some e := by
  rw [TreeMap.contains_eq_isSome_getElem?, Option.isSome_iff_exists]
  constructor
  · rintro ⟨p, hp⟩
    obtain ⟨e, he, hk⟩ := (hv.linkedExt _ _).mp hp
    exact ⟨e, congrArg (Option.map _) (hv.linkedExt.lock_eq_some.mpr ⟨he, hk⟩)⟩
  · rintro ⟨e, he⟩
    obtain ⟨⟨p, e'⟩, hlock, -⟩ := Option.map_eq_some_iff.mp he
    exact ⟨p, hv.linkedExt.getElem?_of_lock_eq_some hlock⟩

omit [TransCmp cmp] in
/-- What is held under a key is found under its external port. -/
theorem Valid.entryAt_of_held (hv : m.Valid kind int) {k : κ} {d : Nat} {port : UInt16}
    (h : m.heldPort k = some (d, port)) :
    ∃ e, m.entryAt port = some e ∧ cmp (kind.intKey e.intTuple) k = .eq ∧
      e.intTuple.srcIp = int := by
  obtain ⟨p, e, he, hk, -, rfl⟩ := (held_eq_some hv.linkedInt).mp h
  have hlock := hv.linkedExt.lock_eq_some.mpr ⟨he, ReflCmp.compare_self⟩
  exact ⟨e, by rw [entryAt, hlock]; rfl, hk, (hv.tuples p e he).1⟩

end ShapingRouter.ConnMapper
