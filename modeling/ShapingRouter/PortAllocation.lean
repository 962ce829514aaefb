import Mathlib
import ShapingRouter.MapperInvariant
import ShapingRouter.SequentialHandling

/-! # The external port of a new connection

`SymNatMapper::mapPort` counts up from the source port to the first port that
`extPortMap_` does not have.  Only the packet thread adds ports, and it is in
`makeNewConn` when it does, so the port is still free when its entry is linked: no
live connection loses its place in the maps.  But the loop ends only if there is a
free port (`mapPort_allocates_iff`), and nothing keeps the number of connections below
the number of ports (`ports_exhausted`).
-/

namespace ShapingRouter
open Library Std

/-- The loop of `SymNatMapper::mapPort` ends, and returns `port`. -/
def MapPortLoop (taken : UInt16 → Bool) (tup : ConnectionTuple) (port : UInt16) : Prop :=
  Walk taken (· + 1) tup.sport port

theorem mapPort_eq_some {taken : UInt16 → Bool} {tup : ConnectionTuple} {port : UInt16} :
    mapPort taken tup = some port ↔ MapPortLoop taken tup port :=
  (probe_iff covers_ports).trans walk_iff.symm

/-- Locking fails where the entry, if there is one, has lost its last reference. -/
theorem lockLive_eq_none {κ : Type} {cmp : κ → κ → Ordering} {h : Heap SharedEntry}
    {m : TreeMap κ Nat cmp} {k : κ} :
    lockLive h m k = none ↔
      ∀ p e, m[k]? = some p → h.objects p = some e → e.life = .released := by
  simp only [lockLive, lock, Option.map_eq_none_iff, Option.filter_eq_none_iff,
    Option.bind_eq_some_iff, Option.map_eq_some_iff]
  constructor
  · intro hnone p e hp he
    simpa using hnone (p, e) ⟨p, hp, e, he, rfl⟩
  · rintro hall _ ⟨p, hp, e, he, rfl⟩
    simpa using hall p e hp he

namespace SharedMapper
variable {κ : Type} {cmp : κ → κ → Ordering}

/-- The entry at `p` is alive, and has references left. -/
def Live (m : SharedMapper κ cmp) (p : Nat) : Prop :=
  ∃ e, m.entries.objects p = some e ∧ e.life ≠ .released

/-- What leads to a live connection in `m` leads to it in `m'`. -/
structure KeepsLive (m m' : SharedMapper κ cmp) : Prop where
  int : ∀ (k : κ) p, m.intPortMap[k]? = some p → m.Live p → m'.intPortMap[k]? = some p
  ext : ∀ (port : UInt16) p, m.extPortMap[port]? = some p → m.Live p → m'.extPortMap[port]? = some p

end SharedMapper

/-- `SymNatMapper`, as the threads share it. -/
abbrev SharedSymMapper := SharedMapper ConnectionTuple ConnectionTuple.cmp

namespace SharedSymMapper

/-- What is asked of `mapPort`, called in the state `m` for a new connection: it ends;
if a port is free it returns the first one at or after the source port; and from then
on, no step of `makeNewConn` overwrites a live connection. -/
structure Allocates (m : SharedSymMapper) (pkt : Packet) : Prop where
  ends : ∃ port, MapPortLoop m.extPortMap.contains (.ofPacket pkt) port
  first : (∃ port, m.extPortMap.contains port = false) → ∃ port,
    MapPortLoop m.extPortMap.contains (.ofPacket pkt) port ∧
      FirstFree (m.extPortMap.contains · = true) (· + 1) pkt.sport port
  fresh : ∀ h' m', Run (fun m e m' => m.step symKind e = some m') (· = m) h' m' →
    ∀ event m'', event = .linkInt ∨ event = .linkExt → m'.step symKind event = some m'' →
      m'.KeepsLive m''

/-- What holds of the new connection that the packet thread is making. -/
def NewConn (m : SharedSymMapper) : MapperThread → Prop
  | .missing pkt => lockLive m.entries m.intPortMap (ConnectionTuple.ofPacket pkt) = none
  | .mapped pkt port =>
    lockLive m.entries m.intPortMap (ConnectionTuple.ofPacket pkt) = none ∧
      m.extPortMap[port]? = none
  | .linking p => ∀ e, m.entries.objects p = some e →
      m.extPortMap[SharedMapper.extKey e]? = none
  | .idle | .holding _ | .found _ | .linked _ => True

variable {m m' : SharedSymMapper} {t : MapperThread}

/-- A timer's step on the entry at `p`. -/
theorem NewConn.timer (hi : NewConn m t) {p : Nat} {e : SharedEntry}
    (he : m.entries.objects p = some e) {g : SharedEntry → SharedEntry}
    (hext : ∀ e, SharedMapper.extKey (g e) = SharedMapper.extKey e)
    (hg : e.life = .released → (g e).life = .released) :
    NewConn { m with entries := m.entries.modify p g } t := by
  have hlock : ∀ {k}, lockLive m.entries m.intPortMap k = none →
      lockLive (m.entries.modify p g) m.intPortMap k = none := by
    intro k hnone
    rw [lockLive_eq_none] at hnone ⊢
    intro q e' hq he'
    rw [m.entries.modify_objects] at he'
    split at he'
    · rename_i hqp
      subst hqp
      rw [he] at he'
      obtain rfl := Option.some.inj he'
      exact hg (hnone q e hq he)
    · exact hnone q e' hq he'
  cases t with
  | missing pkt => exact hlock hi
  | mapped pkt port => exact ⟨hlock hi.1, hi.2⟩
  | linking q =>
    intro e' he'
    rw [show ({ m with entries := m.entries.modify p g } : SharedSymMapper).entries =
      m.entries.modify p g from rfl, m.entries.modify_objects] at he'
    split at he'
    · rename_i hqp
      subst hqp
      obtain ⟨e'', he'', rfl⟩ := Option.map_eq_some_iff.mp he'
      rw [hext]
      exact hi e'' he''
    · exact hi e' he'
  | idle | holding _ | found _ | linked _ => trivial

/-- A deleter runs: ports and tuples become free, and none is taken. -/
theorem NewConn.deleter (hi : NewConn m t) (p : Nat) (e : SharedEntry) :
    NewConn (m.removeFromMaps symKind p e) t := by
  have hfree : ∀ {q e'}, (m.entries.free p).objects q = some e' → m.entries.objects q = some e' := by
    intro q e' he'
    rw [m.entries.free_objects] at he'
    split at he'
    · cases he'
    · exact he'
  have hlock : ∀ {k}, lockLive m.entries m.intPortMap k = none →
      lockLive (m.entries.free p) (m.intPortMap.erase (SharedMapper.intKey symKind e)) k = none := by
    intro k hnone
    rw [lockLive_eq_none] at hnone ⊢
    intro q e' hq he'
    rw [TreeMap.getElem?_erase] at hq
    split at hq
    · cases hq
    · exact hnone q e' hq (hfree he')
  have hport : ∀ {port : UInt16}, m.extPortMap[port]? = none →
      (m.extPortMap.erase (SharedMapper.extKey e))[port]? = none := by
    intro port hnone
    rw [TreeMap.getElem?_erase, hnone]
    exact ite_self none
  cases t with
  | missing pkt => exact hlock hi
  | mapped pkt port => exact ⟨hlock hi.1, hport hi.2⟩
  | linking q => exact fun e' he' => hport (hi e' (hfree he'))
  | idle | holding _ | found _ | linked _ => trivial

theorem newConn_lookup (m : SharedSymMapper) (pkt : Packet) :
    NewConn m (m.lookup symKind pkt) := by
  unfold SharedMapper.lookup
  split
  · trivial
  · split
    · split <;> trivial
    · split
      · trivial
      · assumption

theorem NewConn.linkInt {pkt : Packet} {port : UInt16} (hi : NewConn m (.mapped pkt port)) :
    NewConn (m.linkInt symKind pkt port) (.linking m.entries.next) := by
  intro e he
  have he : (m.entries.alloc (m.newEntry pkt port)).objects m.entries.next = some e := he
  rw [Heap.alloc_objects, if_pos rfl] at he
  obtain rfl := Option.some.inj he
  exact hi.2

/-- **Every step keeps the new connection free of others.** -/
theorem NewConn.step (hi : NewConn m m.thread) {event : MapperEvent}
    (h : m.step symKind event = some m') : NewConn m' m'.thread := by
  cases SharedMapper.step_cases symKind h with
  | lookup pkt _ => exact newConn_lookup m pkt
  | mapPort hth hport =>
    rw [hth] at hi
    refine ⟨hi, ?_⟩
    have hfree := mapPort_free hport
    rwa [TreeMap.contains_eq_isSome_getElem?, Option.isSome_eq_false_iff,
      Option.isNone_iff_eq_none] at hfree
  | linkInt hth =>
    rw [hth] at hi
    exact hi.linkInt
  | rearm _ | linkExt _ _ | start _ | drop _ => trivial
  | fire he hlife =>
    refine hi.timer he (fun _ => rfl) ?_
    rw [hlife]
    exact Life.noConfusion
  | release he _ _ => exact hi.timer he (fun _ => rfl) fun _ => rfl
  | deleter _ _ => exact hi.deleter _ _

theorem newConn_run {h : List MapperEvent} (run : SharedMapper.Runs symKind h m) :
    NewConn m m.thread := by
  induction run with
  | start hs =>
    obtain ⟨base, rfl⟩ := hs
    trivial
  | step _ hs ih => exact ih.step hs

/-- The updates of the maps in `makeNewConn` overwrite no live connection. -/
theorem NewConn.keepsLive (hi : NewConn m m.thread) {event : MapperEvent}
    (hevent : event = .linkInt ∨ event = .linkExt) (h : m.step symKind event = some m') :
    m.KeepsLive m' := by
  rcases hevent with rfl | rfl
  · cases SharedMapper.step_cases symKind h with
    | linkInt hth =>
      rw [hth] at hi
      refine ⟨fun k p hp hlive => ?_, fun _ _ hp _ => hp⟩
      show (m.intPortMap.insert _ _)[k]? = some p
      rw [TreeMap.getElem?_insert]
      split
      · rename_i hk
        obtain ⟨e, he, hlife⟩ := hlive
        obtain rfl := (ConnectionTuple.cmp_eq_iff _ _).mp hk
        exact absurd (lockLive_eq_none.mp hi.1 p e hp he) hlife
      · exact hp
  · cases SharedMapper.step_cases symKind h with
    | linkExt hth he =>
      rw [hth] at hi
      refine ⟨fun _ _ hp _ => hp, fun port p hp _ => ?_⟩
      show (m.extPortMap.insert _ _)[port]? = some p
      rw [TreeMap.getElem?_insert]
      split
      · rename_i hk
        rw [← LawfulEqCmp.eq_of_compare hk, hi _ he] at hp
        cases hp
      · exact hp

end SharedSymMapper

/-- **When `mapPort` allocates a port.**  In every state that the packets and the timers
can lead to, and for every packet, the port is allocated as it should be iff some port
is not a key of `extPortMap_`. -/
theorem mapPort_allocates_iff {h : List MapperEvent} {m : SharedSymMapper}
    (run : SharedMapper.Runs symKind h m) (pkt : Packet) :
    SharedSymMapper.Allocates m pkt ↔ ∃ port, m.extPortMap.contains port = false := by
  have hends : (∃ port, MapPortLoop m.extPortMap.contains (.ofPacket pkt) port) ↔
      ∃ port, m.extPortMap.contains port = false := walk_ends_iff covers_ports
  constructor
  · intro halloc
    exact hends.mp halloc.ends
  · intro hfree
    obtain ⟨port, hport⟩ := hends.mpr hfree
    refine ⟨⟨port, hport⟩, fun _ => ⟨port, hport, walk_iff.mp hport⟩, ?_⟩
    intro h' m' run' event m'' hevent hs
    exact (SharedSymMapper.newConn_run (run.trans run')).keepsLive hevent hs

/-- The source port is taken, and the next one is free. -/
theorem mapPort_allocates_next :
    ∃ (h : List MapperEvent) (m : SharedSymMapper), SharedMapper.Runs symKind h m ∧
      m.thread = .missing (.ofAddresses false 1 8 5 80) ∧
      SharedSymMapper.Allocates m (.ofAddresses false 1 8 5 80) ∧
      MapPortLoop m.extPortMap.contains (.ofPacket (.ofAddresses false 1 8 5 80)) 6 := by
  have run : SharedMapper.Runs symKind _ _ :=
    Run.of_replay (SharedMapper.step symKind) (fun _ _ _ h => h)
      [.lookup (.ofAddresses false 1 7 5 80), .mapPort, .linkInt, .linkExt, .start, .drop,
        .lookup (.ofAddresses false 1 8 5 80)] ⟨⟨1, 9, 60000, ∅⟩, rfl⟩ rfl
  refine ⟨_, _, run, by decide, (mapPort_allocates_iff run _).mpr ⟨6, by decide⟩, ?_⟩
  exact .again (by decide) (.exit (by decide))

/-! ## Every port taken -/

/-- A packet from the `n`th port of the host 1 to the host 7. -/
def scanPacket (n : Nat) : Packet := .ofAddresses false 1 7 (UInt16.ofNat n) 80

/-- What the mapper keeps when the host 1 has used its first `n` ports. -/
structure Scanned (m : SymNatMapper) (n : Nat) : Prop where
  valid : ConnMapper.Valid symKind 1 m
  rules : m.dnatRules = ∅
  ports : ∀ port, m.extPortMap.contains port = true ↔ port.toNat < n
  tuples : ∀ t : ConnectionTuple, m.intPortMap.contains t = true → t.dstIp = 7 ∧ t.sport.toNat < n

theorem Scanned.checkDnat {m : SymNatMapper} {n : Nat} (hs : Scanned m n) (pkt : Packet) :
    m.checkDnat pkt = none := by
  simp [NatMapperBase.checkDnat, hs.rules]

/-- A tuple that is not in the map is not found. -/
theorem Scanned.lock {m : SymNatMapper} {n : Nat} (hs : Scanned m n) {t : ConnectionTuple}
    (ht : ¬ (t.dstIp = 7 ∧ t.sport.toNat < n)) : m.intPortMap[t]? = none := by
  have hc : ¬ m.intPortMap.contains t = true := fun hc => ht (hs.tuples t hc)
  rw [TreeMap.contains_eq_isSome_getElem?] at hc
  simpa using hc

/-- The next port of the scan. -/
theorem Scanned.next {m : SymNatMapper} {n : Nat} (hs : Scanned m n) (hn : n < 2 ^ 16) :
    ∃ m' r, m.mapPacket 0 (scanPacket n) = some (m', r) ∧ Scanned m' (n + 1) := by
  have hport : (UInt16.ofNat n).toNat = n := UInt16.toNat_ofNat_of_lt' hn
  have hnone : m.intPortMap[ConnectionTuple.ofPacket (scanPacket n)]? = none :=
    hs.lock fun h => absurd h.2 (by show ¬ (UInt16.ofNat n).toNat < n; omega)
  have hlock : Library.lock m.entries m.intPortMap (ConnectionTuple.ofPacket (scanPacket n)) =
      none := by
    rw [Library.lock, hnone]
    rfl
  -- the source port itself is free
  have hfree : mapPort m.extPortMap.contains (.ofPacket (scanPacket n)) =
      some (UInt16.ofNat n) := by
    refine mapPort_eq_some.mpr (.exit (Bool.eq_false_iff.mpr fun hc => ?_))
    have hlt := (hs.ports _).mp hc
    change (UInt16.ofNat n).toNat < n at hlt
    omega
  have hv := hs.valid.makeNewConn 0 (show (scanPacket n).srcIp = 1 from rfl) hnone hfree
  refine ⟨_, some ((scanPacket n).withSource m.ipExt (UInt16.ofNat n)), ?_, hv, hs.rules,
    fun port => ?_, fun t ht => ?_⟩
  · simp only [SymNatMapper.mapPacket, ConnMapper.mapPacket, hs.checkDnat]
    simp only [show (scanPacket n).isIngoing = false from rfl, symKind, hlock, hfree]
    rfl
  · show (m.extPortMap.insert (UInt16.ofNat n) _).contains port = true ↔ _
    rw [TreeMap.contains_insert, Bool.or_eq_true, hs.ports, beq_iff_eq,
      LawfulEqCmp.compare_eq_iff_eq, ← UInt16.toNat_inj, hport]
    omega
  · have ht : (m.intPortMap.insert (ConnectionTuple.ofPacket (scanPacket n)) _).contains t = true :=
      ht
    rw [TreeMap.contains_insert, Bool.or_eq_true, beq_iff_eq, ConnectionTuple.cmp_eq_iff] at ht
    rcases ht with rfl | ht
    · exact ⟨rfl, by show (UInt16.ofNat n).toNat < n + 1; omega⟩
    · obtain ⟨hdst, hlt⟩ := hs.tuples t ht
      exact ⟨hdst, by omega⟩

/-- The host 1 uses its ports one after the other. -/
theorem exists_scanned (n : Nat) (hn : n ≤ 2 ^ 16) :
    ∃ h m, Run (ConnMapper.SequentialStep symKind) (∃ a b t d, · = ConnMapper.new a b t d) h m ∧
      Scanned m n := by
  induction n with
  | zero =>
    refine ⟨[], ConnMapper.new 1 9 60000 ∅, .start ⟨_, _, _, _, rfl⟩, ?_⟩
    exact ⟨ConnMapper.valid_new .., rfl, by simp [ConnMapper.new], by simp [ConnMapper.new]⟩
  | succ n ih =>
    obtain ⟨h, m, run, hs⟩ := ih (by omega)
    obtain ⟨m', r, hmap, hs'⟩ := hs.next (by omega)
    exact ⟨() :: h, m', run.step (.mapPacket hmap), hs'⟩

/-- **`mapPort` does not end** when the host 1 has used each of its ports once within the
timeout, and sends a packet to another host. -/
theorem ports_exhausted :
    ∃ (h : List MapperEvent) (m : SharedSymMapper) (pkt : Packet),
      SharedMapper.Runs symKind h m ∧ m.thread = .missing pkt ∧
      (∀ port : UInt16, ∃ p, m.extPortMap[port]? = some p ∧ m.Live p) ∧
      ¬ SharedSymMapper.Allocates m pkt := by
  obtain ⟨h, m, run, hs⟩ := exists_scanned (2 ^ 16) (Nat.le_refl _)
  obtain ⟨h', run'⟩ := ConnMapper.shared_runs run
  have hports : ∀ port, m.extPortMap.contains port = true :=
    fun port => (hs.ports port).mpr port.toNat_lt
  have hnone := hs.lock (t := .ofPacket (.ofAddresses false 1 8 5 80)) (by decide)
  have hmissing : m.shared.lookup symKind (.ofAddresses false 1 8 5 80) =
      .missing (.ofAddresses false 1 8 5 80) := by
    have hrule : m.shared.checkDnat (.ofAddresses false 1 8 5 80) = none := hs.checkDnat _
    have hlock : lockLive m.shared.entries m.shared.intPortMap
        (ConnectionTuple.ofPacket (.ofAddresses false 1 8 5 80)) = none := by
      refine lockLive_eq_none.mpr fun p e hp _ => ?_
      rw [show m.shared.intPortMap = m.intPortMap from rfl, hnone] at hp
      cases hp
    simp only [SharedMapper.lookup, hrule]
    simp only [show (Packet.ofAddresses false 1 8 5 80).isIngoing = false from rfl, symKind, hlock]
    rfl
  refine ⟨_, _, _, run'.step (e := .lookup (.ofAddresses false 1 8 5 80)) rfl, hmissing,
    fun port => ?_, fun halloc => ?_⟩
  · have hc := hports port
    rw [TreeMap.contains_eq_isSome_getElem?, Option.isSome_iff_exists] at hc
    obtain ⟨p, hp⟩ := hc
    obtain ⟨e, he, -⟩ := (hs.valid.linkedExt _ _).mp hp
    exact ⟨p, hp, e.shared, congrArg (Option.map ConnectionEntry.shared) he, by intro hr; cases hr⟩
  · obtain ⟨port, hport⟩ := halloc.ends
    exact (walk_iff.mp hport).1 (hports port)

end ShapingRouter
