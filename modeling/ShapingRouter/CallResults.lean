import Mathlib
import ShapingRouter.ConnectionProgress
import ShapingRouter.DeleterLock
import ShapingRouter.NatInvariant

/-! # What calls of a mapper and of a filter return

Calls of `mapPacket` and of `filterPacket` in any number, with handlers and deleters between
their steps.  Links may be stale, and a new entry may lose its links to the deleter of an old
one.  Still every entry translates to the external address, so that `mapPacket` gives an
outgoing packet no other source (`MapperSound.step`), and `filterPacket` lets every outgoing
packet pass.

No call waits for another one for good: while none waits for itself, some step can be taken
until all calls have returned, but where `mapPort` finds no port (`MapperSound.exists_goes`,
`FilterSound.exists_goes`).
-/

namespace ShapingRouter
open Library Std

/-! ## The mappers -/

section Mappers
variable {κ : Type} {cmp : κ → κ → Ordering} (kind : MapperKind κ cmp) (base : NatMapperBase)

/-- The key of an entry in the internal map. -/
def MapperKind.entryKey (entry : EntryMembers) : κ := kind.intKey entry.intTuple

/-- What `mapPacket` may return for `pkt`, when the outgoing packets came from sources with
`S`: an outgoing packet gets the external address, an ingoing one goes to the target of a rule
or to one of the sources. -/
def Answers (S : UInt32 → Prop) (pkt : Packet) (r : Option Packet) : Prop :=
  if pkt.isIngoing then
    ∀ pkt', r = some pkt' → ∃ ip port, pkt' = pkt.withDestination ip port ∧
      ((∃ rule, base.dnatRules[pkt.dport]? = some rule ∧ rule.dstIp = ip) ∨ S ip)
  else
    ∃ port, r = some (pkt.withSource base.ipExt port) ∧
      (port = pkt.sport ∨ kind.pinned (ConnectionTuple.ofPacket pkt) port)

/-- The entry at `p`, if it is still there, has the key of the outgoing packet `pkt`. -/
def IsEntryFor (entries : Heap (Counted EntryMembers)) (pkt : Packet) (p : Nat) : Prop :=
  p < entries.next ∧ ∀ o, entries.objects p = some o →
    cmp (kind.entryKey o.val) (kind.intKey (ConnectionTuple.ofPacket pkt)) = .eq

/-- A call of `mapPacket` is at work on `pkt`. -/
def MapperCode.Fits (entries : Heap (Counted EntryMembers)) (S : UInt32 → Prop) (pkt : Packet) :
    MapperCode → Prop
  | search pkt' | inSearch pkt' | searched pkt' none =>
    pkt' = pkt ∧ (pkt.isIngoing = false → S pkt.srcIp)
  | searched pkt' (some p) => pkt' = pkt ∧ (pkt.isIngoing = false → IsEntryFor kind entries pkt p)
  | missing pkt' | mapping pkt' _ => pkt' = pkt ∧ pkt.isIngoing = false ∧ S pkt.srcIp
  | mapped pkt' port =>
    pkt' = pkt ∧ pkt.isIngoing = false ∧ S pkt.srcIp ∧
      kind.pinned (ConnectionTuple.ofPacket pkt) port
  | made pkt' port p | linkedInt pkt' port p =>
    pkt' = pkt ∧ pkt.isIngoing = false ∧ IsEntryFor kind entries pkt p ∧
      kind.pinned (ConnectionTuple.ofPacket pkt) port
  | linkedExt pkt' port _ | arming pkt' port _ =>
    pkt' = pkt ∧ pkt.isIngoing = false ∧ kind.pinned (ConnectionTuple.ofPacket pkt) port

/-- The task is a call for `pkt`. -/
def MapsFor (entries : Heap (Counted EntryMembers)) (S : UInt32 → Prop) (pkt : Packet)
    (t : ConnTask MapperCode (Option Packet)) : Prop :=
  t.Serves (MapperCode.Fits kind entries S pkt) (Answers kind base S pkt)

/-- What holds of every entry, however the calls interleave: it translates to the external
address, to a port it may be chosen for, and was made for a packet from a source with `S`.
The internal map leads to no entry with another key. -/
structure TablesSound (S : UInt32 → Prop) (maps : MapperMaps κ cmp)
    (entries : Heap (Counted EntryMembers)) : Prop where
  keyed : Keyed entries maps.intPortMap fun o => kind.entryKey o.val
  entry : ∀ p o, entries.objects p = some o →
    o.val.extTuple.dstIp = base.ipExt ∧ kind.pinned o.val.intTuple o.val.extTuple.dport ∧
      S o.val.intTuple.srcIp

/-- The invariant of a mapper. -/
structure MapperSound (S : UInt32 → Prop) (s : MapperSystem κ cmp) : Prop where
  sound : s.Sound
  unlocked : ¬ s.SelfLocked
  tables : TablesSound kind base S s.maps s.entries
  tasks : ∀ t ∈ s.tasks, t.IsHandler ∨ ∃ pkt, MapsFor kind base s.entries S pkt t

variable {kind} {base} {mapsPort : Bool} {S S' : UInt32 → Prop}
  {entries entries' : Heap (Counted EntryMembers)} {maps : MapperMaps κ cmp}
  {s s' : MapperSystem κ cmp} {pkt : Packet} {p i : Nat} {c : MapperCode}
  {t : ConnTask MapperCode (Option Packet)}

theorem IsEntryFor.evolves (h : IsEntryFor kind entries pkt p) (hle : entries.Evolves entries') :
    IsEntryFor kind entries' pkt p := by
  obtain ⟨hlt, hkey⟩ := h
  refine ⟨Nat.lt_of_lt_of_le hlt hle.next, fun o' ho' => ?_⟩
  obtain ⟨o, ho, hval⟩ := hle.val p o' hlt ho'
  rw [hval]
  exact hkey o ho

theorem Answers.mono {r : Option Packet} (h : Answers kind base S pkt r)
    (himp : ∀ ip, S ip → S' ip) : Answers kind base S' pkt r := by
  unfold Answers at h ⊢
  split
  · rename_i hin
    rw [if_pos hin] at h
    intro pkt' hr
    obtain ⟨ip, port, heq, hrule | hsrc⟩ := h pkt' hr
    · exact ⟨ip, port, heq, Or.inl hrule⟩
    · exact ⟨ip, port, heq, Or.inr (himp ip hsrc)⟩
  · rename_i hout
    rwa [if_neg hout] at h

theorem answers_outgoing (hout : pkt.isIngoing = false) {r : Option Packet} :
    Answers kind base S pkt r ↔ ∃ port, r = some (pkt.withSource base.ipExt port) ∧
      (port = pkt.sport ∨ kind.pinned (ConnectionTuple.ofPacket pkt) port) := by
  rw [Answers, if_neg (hout ▸ Bool.false_ne_true)]

theorem answers_ingoing (hin : pkt.isIngoing = true) {r : Option Packet} :
    Answers kind base S pkt r ↔ ∀ pkt', r = some pkt' →
      ∃ ip port, pkt' = pkt.withDestination ip port ∧
        ((∃ rule, base.dnatRules[pkt.dport]? = some rule ∧ rule.dstIp = ip) ∨ S ip) := by
  rw [Answers, if_pos hin]

/-- Where a rule says so, `checkDnat` has rewritten the packet. -/
theorem answers_checkDnat {pkt' : Packet} (h : base.checkDnat pkt = some pkt') :
    Answers kind base S pkt (some pkt') := by
  cases hdir : pkt.isIngoing with
  | true =>
    rw [answers_ingoing hdir]
    cases hrule : base.dnatRules[pkt.dport]? with
    | none =>
      rw [NatMapperBase.checkDnat_eq_none.mpr (by rw [if_pos hdir, hrule])] at h
      cases h
    | some rule =>
      rw [NatMapperBase.checkDnat_ingoing hdir hrule] at h
      rintro _ hsome
      rw [← h] at hsome
      obtain rfl := Option.some.inj hsome
      exact ⟨rule.dstIp, rule.dport, rfl, Or.inl ⟨rule, rfl, rfl⟩⟩
  | false =>
    rw [answers_outgoing hdir]
    have hrule : base.dnatRules[pkt.sport]? ≠ none := by
      intro hnone
      rw [NatMapperBase.checkDnat_eq_none.mpr (by rw [hdir, if_neg Bool.false_ne_true, hnone])] at h
      cases h
    rw [NatMapperBase.checkDnat_outgoing hdir hrule] at h
    exact ⟨pkt.sport, h.symm, Or.inl rfl⟩

theorem MapperCode.Fits.mono (h : c.Fits kind entries S pkt) (hle : entries.Evolves entries')
    (himp : ∀ ip, S ip → S' ip) : c.Fits kind entries' S' pkt := by
  cases c with
  | search pkt' | inSearch pkt' => exact ⟨h.1, fun hout => himp _ (h.2 hout)⟩
  | searched pkt' ent =>
    cases ent with
    | none => exact ⟨h.1, fun hout => himp _ (h.2 hout)⟩
    | some p => exact ⟨h.1, fun hout => (h.2 hout).evolves hle⟩
  | missing pkt' | mapping pkt' hasMutex => exact ⟨h.1, h.2.1, himp _ h.2.2⟩
  | mapped pkt' port => exact ⟨h.1, h.2.1, himp _ h.2.2.1, h.2.2.2⟩
  | made pkt' port p | linkedInt pkt' port p => exact ⟨h.1, h.2.1, h.2.2.1.evolves hle, h.2.2.2⟩
  | linkedExt pkt' port p | arming pkt' port p => exact h

theorem MapsFor.mono (h : MapsFor kind base entries S pkt t) (hle : entries.Evolves entries')
    (himp : ∀ ip, S ip → S' ip) : MapsFor kind base entries' S' pkt t :=
  ConnTask.Serves.mono h (fun _ hc => hc.mono hle himp) fun _ hr => hr.mono himp

/-- Entries come and go, but none is made. -/
theorem TablesSound.evolves (h : TablesSound kind base S maps entries)
    (hle : entries.Evolves entries') (hnext : entries'.next = entries.next) :
    TablesSound kind base S maps entries' where
  keyed := h.keyed.evolves hle
  entry _ _ ho := hle.forall_val (P := fun e => e.extTuple.dstIp = base.ipExt ∧
    kind.pinned e.intTuple e.extTuple.dport ∧ S e.intTuple.srcIp) hnext h.entry ho

theorem TablesSound.mono (h : TablesSound kind base S maps entries)
    (himp : ∀ ip, S ip → S' ip) : TablesSound kind base S' maps entries where
  keyed := h.keyed
  entry p o ho := by
    obtain ⟨hext, hpin, hsrc⟩ := h.entry p o ho
    exact ⟨hext, hpin, himp _ hsrc⟩

/-- An entry is made for an outgoing packet. -/
theorem TablesSound.alloc (h : TablesSound kind base S maps entries) {entry : EntryMembers}
    (hentry : entry.extTuple.dstIp = base.ipExt ∧ kind.pinned entry.intTuple entry.extTuple.dport ∧
      S entry.intTuple.srcIp) :
    TablesSound kind base S maps (entries.alloc ⟨entry, 1⟩) where
  keyed := h.keyed.evolves (.alloc _ _)
  entry p o ho := by
    rw [Heap.alloc_objects] at ho
    split at ho
    · obtain rfl := Option.some.inj ho
      exact hentry
    · exact h.entry p o ho

/-- A deleter erases the links. -/
theorem TablesSound.erase [TransCmp cmp] (h : TablesSound kind base S maps entries)
    (entry : EntryMembers) :
    TablesSound kind base S ((mapperOwner kind mapsPort base).removeFromMaps entry maps)
      entries where
  keyed := h.keyed.erase _
  entry := h.entry

/-! ### One step -/

/-- Taking the mutex changes no more than the place. -/
theorem MapperCode.Fits.lock {c' : MapperCode} (h : c.Fits kind entries S pkt)
    (hlock : c.lock = some c') : c'.Fits kind entries S pkt := by
  cases c with
  | search pkt' | missing pkt' =>
    obtain rfl := Option.some.inj hlock
    exact h
  | inSearch | searched | mapping | mapped | made | linkedInt | linkedExt | arming => cases hlock

/-- The search leads an outgoing packet to an entry with its key. -/
theorem TablesSound.isEntryFor (h : TablesSound kind base S s.maps s.entries)
    (hout : pkt.isIngoing = false) (hp : s.searchEntry kind pkt = some p) :
    IsEntryFor kind s.entries pkt p := by
  rw [ConnSystem.searchEntry, if_neg (hout ▸ Bool.false_ne_true)] at hp
  exact h.keyed _ p (lockCounted_eq_some.mp hp).1

/-- **One step in `mapPacket`**: the call stays one for its packet, and the tables stay sound. -/
theorem TablesSound.code [TransCmp cmp] (h : TablesSound kind base S s.maps s.entries)
    (ht : s.tasks[i]? = some (.code c)) (hc : c.Fits kind s.entries S pkt)
    (hstep : MapperStep kind mapsPort base s i c s') :
    ∃ t', s.Moves i t' s' ∧ MapsFor kind base s'.entries S pkt t' ∧
      TablesSound kind base S s'.maps s'.entries := by
  cases hstep with
  | lock _ c' hlock hfree => exact ⟨_, .goes ht _, hc.lock hlock, h⟩
  | searchFound pkt' p hp =>
    obtain ⟨rfl, -⟩ := hc
    refine ⟨_, .takes ht p _, ⟨rfl, fun hout => ?_⟩, h.evolves (.acquire _ p) rfl⟩
    exact (h.isEntryFor hout hp).evolves (.acquire _ p)
  | searchNone pkt' hp => exact ⟨_, .goes ht _, hc, h⟩
  | found pkt' p entry he =>
    obtain ⟨rfl, hkey⟩ := hc
    obtain ⟨hext, hpin, hsrc⟩ := h.entry p entry he
    refine ⟨_, .goes ht _, ?_, h⟩
    cases hdir : pkt'.isIngoing with
    | true =>
      rw [if_pos rfl]
      refine (answers_ingoing hdir).mpr ?_
      rintro _ ⟨⟩
      exact ⟨_, _, rfl, Or.inr hsrc⟩
    | false =>
      rw [if_neg Bool.false_ne_true]
      refine (answers_outgoing hdir).mpr ⟨entry.val.extTuple.dport, ?_, Or.inr ?_⟩
      · rw [hext]
      · exact kind.pinned_of_key ((hkey hdir).2 entry he) hpin
  | missing pkt' =>
    obtain ⟨rfl, hsrc⟩ := hc
    refine ⟨_, .goes ht _, ?_, h⟩
    cases hdir : pkt'.isIngoing with
    | true =>
      rw [if_pos rfl]
      exact (answers_ingoing hdir).mpr nofun
    | false =>
      rw [if_neg Bool.false_ne_true]
      cases mapsPort with
      | true => exact ⟨rfl, hdir, hsrc hdir⟩
      | false => exact ⟨rfl, hdir, hsrc hdir⟩
  | mapPort pkt' hasMutex port hport =>
    obtain ⟨rfl, hout, hsrc⟩ := hc
    exact ⟨_, .goes ht _, ⟨rfl, hout, hsrc, kind.pinned_of_extPort hport⟩, h⟩
  | make pkt' port =>
    obtain ⟨rfl, hout, hsrc, hpin⟩ := hc
    refine ⟨_, .makes ht _ _ _, ⟨rfl, hout, ⟨Nat.lt_succ_self _, fun o ho => ?_⟩, hpin⟩,
      h.alloc ⟨rfl, hpin, hsrc⟩⟩
    have ho' : (s.entries.alloc _).objects s.entries.next = some o := ho
    rw [Heap.alloc_objects, if_pos rfl] at ho'
    obtain rfl := Option.some.inj ho'
    exact ReflCmp.compare_self
  | linkInt pkt' port p =>
    obtain ⟨rfl, hout, hentry, hpin⟩ := hc
    exact ⟨_, .set ht _ (.refl _) _, ⟨rfl, hout, hentry, hpin⟩,
      h.keyed.insert hentry.1 hentry.2, h.entry⟩
  | linkExt pkt' port p =>
    obtain ⟨rfl, hout, -, hpin⟩ := hc
    exact ⟨_, .set ht _ (.refl _) _, ⟨rfl, hout, hpin⟩, h.keyed, h.entry⟩
  | start pkt' port p entry he =>
    have hm := ConnSystem.Moves.arms ht p entry.val.timeout (.code (.arming pkt' port p))
    exact ⟨_, hm, hc, h.evolves hm.evolves rfl⟩
  | armed pkt' port p =>
    obtain ⟨rfl, hout, hpin⟩ := hc
    refine ⟨_, .drops ht p false _, ?_, h.evolves (.unref _ p) rfl⟩
    have hanswer : Answers kind base S pkt' (some (pkt'.withSource base.ipExt port)) :=
      (answers_outgoing hout).mpr ⟨port, rfl, Or.inr hpin⟩
    split
    · exact hanswer
    · exact hanswer

/-- The task `j` of the mapper is a call for `pkt`. -/
def MapperSystem.Serves (kind : MapperKind κ cmp) (base : NatMapperBase) (S : UInt32 → Prop)
    (pkt : Packet) (j : Nat) (s : MapperSystem κ cmp) : Prop :=
  s.ServedAt (MapperCode.Fits kind s.entries S pkt) (Answers kind base S pkt) j

variable {e : ConnEvent} {j : Nat}

theorem mapsFor_call (hsrc : pkt.isIngoing = false → S pkt.srcIp)
    (entries : Heap (Counted EntryMembers)) :
    MapsFor kind base entries S pkt ((mapperOwner kind mapsPort base).call pkt) := by
  rw [mapperOwner]
  dsimp only
  split
  · rename_i pkt' hrule
    exact answers_checkDnat hrule
  · exact ⟨rfl, hsrc⟩

/-- A call that was there before. -/
theorem MapperSystem.Serves.moves (hj : s.Serves kind base S pkt j) {t' : ConnTask MapperCode _}
    (hm : s.Moves i t' s')
    (hself : ∀ t, s.tasks[i]? = some t → MapsFor kind base s.entries S pkt t →
      MapsFor kind base s'.entries S pkt t') : s'.Serves kind base S pkt j := by
  by_cases hji : j = i
  · subst hji
    obtain ⟨t, ht, hmaps⟩ := hj
    exact ⟨t', hm.self, hself t ht hmaps⟩
  · exact (hm.served hji hj).mono (fun _ hc => hc.mono hm.evolves fun _ => id) fun _ => id

/-- The tasks of the mapper after one went on. -/
theorem MapperSound.moves (hs : MapperSound kind base S s) {t' : ConnTask MapperCode _}
    (hm : s.Moves i t' s') (ht' : t'.IsHandler ∨ ∃ pkt, MapsFor kind base s'.entries S pkt t') :
    ∀ t ∈ s'.tasks, t.IsHandler ∨ ∃ pkt, MapsFor kind base s'.entries S pkt t := by
  refine hm.forall_tasks ?_ (fun t p h => Or.inl (ConnTask.isHandler_of_handles h)) ?_ ht'
  · rintro t p (hhandler | ⟨pkt, hmaps⟩)
    · exact Or.inl (hhandler.cancel p)
    · exact Or.inr ⟨pkt, ConnTask.Serves.cancel hmaps p⟩
  · intro t hmem
    rcases hs.tasks t hmem with hhandler | ⟨pkt, hmaps⟩
    · exact Or.inl hhandler
    · exact Or.inr ⟨pkt, hmaps.mono hm.evolves fun _ => id⟩

/-- **One step of a mapper**: every call stays one for its packet. -/
theorem MapperSound.step [TransCmp cmp] (hs : MapperSound kind base S s)
    (h : ConnSystem.Step (mapperOwner kind mapsPort base) s e s')
    (hcall : ∀ pkt, e = .call pkt → pkt.isIngoing = false → S pkt.srcIp) :
    MapperSound kind base S s' ∧
      ∀ pkt j, s.Serves kind base S pkt j → s'.Serves kind base S pkt j := by
  have hsound := hs.sound.mapper h
  have hunlocked := ConnSystem.not_selfLocked_mapper hs.sound hs.unlocked h
  cases e with
  | call pkt =>
    cases h
    refine ⟨⟨hsound, hunlocked, hs.tables, fun t hmem => ?_⟩, fun pkt' j ⟨t, ht, hmaps⟩ => ?_⟩
    · rcases List.mem_append.mp hmem with hmem | hmem
      · exact hs.tasks t hmem
      · obtain rfl := List.mem_singleton.mp hmem
        exact Or.inr ⟨pkt, mapsFor_call (hcall pkt rfl) _⟩
    · exact ⟨t, (List.getElem?_append_left (List.getElem?_eq_some_iff.mp ht).1).trans ht, hmaps⟩
  | tick now =>
    cases h
    exact ⟨⟨hsound, hunlocked, hs.tables, hs.tasks⟩, fun _ _ => id⟩
  | goes i =>
    rcases h.goes_cases with ⟨c, ht, hcode⟩ | ⟨t, t', ht, hadvances, hm, hnext, hmaps⟩
    · obtain hhandler | ⟨pkt, hfits⟩ := hs.tasks _ (List.mem_of_getElem? ht)
      · exact hhandler.elim
      obtain ⟨t', hm, hmaps, htables⟩ := hs.tables.code ht hfits hcode
      refine ⟨⟨hsound, hunlocked, htables, hs.moves hm (Or.inr ⟨pkt, hmaps⟩)⟩, fun pkt' j hj => ?_⟩
      refine hj.moves hm fun u hu hfits' => ?_
      rw [ht] at hu
      obtain rfl := Option.some.inj hu
      obtain ⟨t'', hm', hmaps', -⟩ := hs.tables.code ht hfits' hcode
      have heq : some t'' = some t' := hm'.self.symm.trans hm.self
      exact Option.some.inj heq ▸ hmaps'
    · have hadvance : ∀ {pkt}, MapsFor kind base s.entries S pkt t →
          MapsFor kind base s'.entries S pkt t' :=
        fun hmaps => (ConnTask.Serves.advances hmaps hadvances).mono
          (fun _ hc => hc.mono hm.evolves fun _ => id) fun _ => id
      refine ⟨⟨hsound, hunlocked, ?_, hs.moves hm ?_⟩, fun pkt' j hj => ?_⟩
      · have htables := hs.tables.evolves hm.evolves hnext
        rcases hmaps with hsame | ⟨p, entry, -, herased⟩
        · rw [hsame]
          exact htables
        · rw [herased]
          exact htables.erase entry.val
      · rcases hs.tasks t (List.mem_of_getElem? ht) with hhandler | ⟨pkt, hmaps⟩
        · exact Or.inl (hhandler.advances hadvances)
        · exact Or.inr ⟨pkt, hadvance hmaps⟩
      · refine hj.moves hm fun u hu hmaps => ?_
        rw [ht] at hu
        obtain rfl := Option.some.inj hu
        exact hadvance hmaps

/-- A call begins, as the last task. -/
theorem MapperSystem.serves_call (hsrc : pkt.isIngoing = false → S pkt.srcIp)
    (h : ConnSystem.Step (mapperOwner kind mapsPort base) s (.call pkt) s') :
    s'.Serves kind base S pkt s.tasks.length := by
  cases h
  exact ⟨_, List.getElem?_concat_length, mapsFor_call hsrc _⟩

theorem MapperSound.new [TransCmp cmp] (kind : MapperKind κ cmp) (base : NatMapperBase)
    (S : UInt32 → Prop) : MapperSound kind base S { maps := ⟨∅, ∅⟩ } where
  sound := .new _
  unlocked := fun ⟨_, _, hmem⟩ => by cases hmem
  tables := ⟨Keyed.empty, fun p o ho => by cases ho⟩
  tasks := nofun

/-- More packets have come. -/
theorem MapperSound.mono (hs : MapperSound kind base S s) (himp : ∀ ip, S ip → S' ip) :
    MapperSound kind base S' s where
  sound := hs.sound
  unlocked := hs.unlocked
  tables := hs.tables.mono himp
  tasks t hmem := by
    rcases hs.tasks t hmem with hhandler | ⟨pkt, hmaps⟩
    · exact Or.inl hhandler
    · exact Or.inr ⟨pkt, hmaps.mono (.refl _) himp⟩

theorem MapperSystem.Serves.mono (h : s.Serves kind base S pkt j) (himp : ∀ ip, S ip → S' ip) :
    s.Serves kind base S' pkt j :=
  ConnSystem.ServedAt.mono h (fun _ hc => hc.mono (.refl _) himp) fun _ hr => hr.mono himp

/-! ### The calls come to rest -/

/-- How many steps a call takes at most, with those of the handler that it adds. -/
def MapperCode.rank : MapperCode → Nat
  | arming _ _ _ => 4
  | linkedExt _ _ _ => 8
  | linkedInt _ _ _ => 9
  | made _ _ _ => 10
  | mapped _ _ => 11
  | mapping _ _ => 12
  | missing _ => 13
  | searched _ _ => 14
  | inSearch _ => 15
  | search _ => 16

theorem mapperStep_work (ht : s.tasks[i]? = some (.code c))
    (h : MapperStep kind mapsPort base s i c s') :
    s'.work MapperCode.rank + 1 ≤ s.work MapperCode.rank := by
  cases h with
  | lock _ c' hlock hfree =>
    refine ConnSystem.work_lt_set ht rfl ?_
    cases c with
    | search pkt' | missing pkt' =>
      obtain rfl := Option.some.inj hlock
      exact Nat.le_refl _
    | inSearch | searched | mapping | mapped | made | linkedInt | linkedExt | arming => cases hlock
  | searchFound pkt' p hp => exact ConnSystem.work_lt_set ht rfl (Nat.le_refl 15)
  | searchNone pkt' hp => exact ConnSystem.work_lt_set ht rfl (Nat.le_refl 15)
  | found pkt' p entry he =>
    refine ConnSystem.work_lt_set ht rfl ?_
    split
    · simp [ConnTask.left, MapperCode.rank]
    · simp [ConnTask.left, MapperCode.rank]
  | missing pkt' =>
    refine ConnSystem.work_lt_set ht rfl ?_
    split
    · simp [ConnTask.left, MapperCode.rank]
    · split
      · simp [ConnTask.left, MapperCode.rank]
      · simp [ConnTask.left, MapperCode.rank]
  | mapPort pkt' hasMutex port hport => exact ConnSystem.work_lt_set ht rfl (Nat.le_refl 12)
  | make pkt' port => exact ConnSystem.work_lt_set ht rfl (Nat.le_refl 11)
  | linkInt pkt' port p => exact ConnSystem.work_lt_set ht rfl (Nat.le_refl 10)
  | linkExt pkt' port p => exact ConnSystem.work_lt_set ht rfl (Nat.le_refl 9)
  | start pkt' port p entry he => exact ConnSystem.work_lt_arms ht rfl _ (Nat.le_refl 8)
  | armed pkt' port p => exact ConnSystem.work_lt_drops ht p false (Nat.le_refl 4)

theorem mapper_work (h : ConnSystem.Step (mapperOwner kind mapsPort base) s (.goes i) s') :
    s'.work MapperCode.rank + 1 ≤ s.work MapperCode.rank :=
  h.work_lt fun _ ht hstep => mapperStep_work ht hstep

theorem left_mapperOwner_call (kind : MapperKind κ cmp) (mapsPort : Bool) (base : NatMapperBase)
    (pkt : Packet) : ((mapperOwner kind mapsPort base).call pkt).left MapperCode.rank ≤ 16 := by
  rw [mapperOwner]
  dsimp only
  split
  · exact Nat.zero_le _
  · exact Nat.le_refl _

/-- A call is in `mapPort`, which does not return. -/
def MapperSystem.Searching (kind : MapperKind κ cmp) (s : MapperSystem κ cmp) : Prop :=
  ∃ pkt hasMutex, .code (.mapping pkt hasMutex) ∈ s.tasks ∧
    kind.extPort s.maps.extPortMap.contains (ConnectionTuple.ofPacket pkt) = none

/-- A call that needs no mutex, or has it or could have it, goes on. -/
theorem exists_mapperStep (hs : s.Sound) (hport : ¬ s.Searching kind)
    (ht : s.tasks[i]? = some (.code c)) (hfree : CodePosition.locked c = true ∨ s.Free) :
    ∃ s', MapperStep kind mapsPort base s i c s' := by
  have hobject : ∀ {p}, p ∈ CodePosition.held c → ∃ entry, s.entries.objects p = some entry :=
    fun hp => hs.counts.exists_object (ConnSystem.mem_refs ht hp)
  cases c with
  | search pkt' => exact ⟨_, .lock _ _ rfl (hfree.resolve_left Bool.false_ne_true)⟩
  | missing pkt' => exact ⟨_, .lock _ _ rfl (hfree.resolve_left Bool.false_ne_true)⟩
  | inSearch pkt' =>
    cases hp : s.searchEntry kind pkt' with
    | none => exact ⟨_, .searchNone pkt' hp⟩
    | some p => exact ⟨_, .searchFound pkt' p hp⟩
  | searched pkt' ent =>
    cases ent with
    | none => exact ⟨_, .missing pkt'⟩
    | some p =>
      obtain ⟨entry, he⟩ := hobject (Multiset.mem_singleton_self p)
      exact ⟨_, .found pkt' p entry he⟩
  | mapping pkt' hasMutex =>
    cases hp : kind.extPort s.maps.extPortMap.contains (ConnectionTuple.ofPacket pkt') with
    | none => exact absurd ⟨pkt', hasMutex, List.mem_of_getElem? ht, hp⟩ hport
    | some port => exact ⟨_, .mapPort pkt' hasMutex port hp⟩
  | mapped pkt' port => exact ⟨_, .make pkt' port⟩
  | made pkt' port p => exact ⟨_, .linkInt pkt' port p⟩
  | linkedInt pkt' port p => exact ⟨_, .linkExt pkt' port p⟩
  | linkedExt pkt' port p =>
    obtain ⟨entry, he⟩ := hobject (Multiset.mem_singleton_self p)
    exact ⟨_, .start pkt' port p entry he⟩
  | arming pkt' port p => exact ⟨_, .armed pkt' port p⟩

/-- **Some task of a mapper can go on**, while any has something to do and `mapPort` returns. -/
theorem MapperSound.exists_goes (hs : MapperSound kind base S s) (hport : ¬ s.Searching kind)
    (hactive : ∃ t ∈ s.tasks, t.Active) :
    ∃ i s', ConnSystem.Step (mapperOwner kind mapsPort base) s (.goes i) s' :=
  ConnSystem.exists_goes hs.sound hs.unlocked
    (fun _ _ ht hfree => exists_mapperStep hs.sound hport ht hfree) hactive

end Mappers

/-! ## The filters -/

/-- What `filterPacket` may return for `pkt`: an outgoing packet passes. -/
def Passes (pkt : Packet) (r : Bool) : Prop := pkt.isIngoing = false → r = true

/-- What a NAT relies on in its filter.  `Sound` is the filter's invariant, and `Handled` the
condition under which a step makes no call wait for itself; `Fits` says that a call is at work
on a packet, and `rank` how many steps it takes at most. -/
structure FilterContract {N D : Type} [CodePosition D] (owner : ConnOwner N D Bool) (maps : N)
    (Sound : ConnSystem N D Bool → Prop) (Handled : ConnSystem N D Bool → ConnEvent → Prop)
    (Fits : Packet → D → Prop) (rank : D → Nat) : Prop where
  new : Sound { maps := maps }
  step : ∀ s e s', Sound s → ConnSystem.Step owner s e s' → Sound s'
  call : ∀ pkt, (owner.call pkt).Serves (Fits pkt) (Passes pkt)
  code : ∀ s i c s', s.tasks[i]? = some (.code c) → owner.step s i c s' →
    ∃ t', s.Moves i t' s' ∧ ∀ pkt, Fits pkt c → t'.Serves (Fits pkt) (Passes pkt)
  left : ∀ pkt, (owner.call pkt).left rank ≤ 14
  work : ∀ s i s', ConnSystem.Step owner s (.goes i) s' → s'.work rank + 1 ≤ s.work rank
  exists_goes : ∀ s, Sound s → ¬ s.SelfLocked → (∃ t ∈ s.tasks, t.Active) →
    ∃ i s', ConnSystem.Step owner s (.goes i) s'
  handled : ∀ s e s', Sound s → ¬ s.SelfLocked → ConnSystem.Step owner s e s' →
    (¬ s'.SelfLocked ↔ Handled s e)
  outgoing : ∀ s e, ¬ Handled s e → ∃ j c, e = .goes j ∧ s.tasks[j]? = some (.code c) ∧
    ∀ pkt, Fits pkt c → pkt.isIngoing = false

namespace FilterContract
variable {N D : Type} [CodePosition D] {owner : ConnOwner N D Bool} {maps : N}
  {Sound : ConnSystem N D Bool → Prop} {Handled : ConnSystem N D Bool → ConnEvent → Prop}
  {Fits : Packet → D → Prop} {rank : D → Nat} {s s' : ConnSystem N D Bool} {e : ConnEvent}
  {pkt : Packet} {j : Nat}

/-- **One step of a filter**: every call stays one for its packet. -/
theorem serves (hf : FilterContract owner maps Sound Handled Fits rank)
    (h : ConnSystem.Step owner s e s') (hj : s.ServedAt (Fits pkt) (Passes pkt) j) :
    s'.ServedAt (Fits pkt) (Passes pkt) j := by
  obtain ⟨t, ht, hserves⟩ := hj
  cases e with
  | call pkt' =>
    cases h
    exact ⟨t, (List.getElem?_append_left (List.getElem?_eq_some_iff.mp ht).1).trans ht, hserves⟩
  | tick now =>
    cases h
    exact ⟨t, ht, hserves⟩
  | goes i =>
    rcases h.goes_cases with ⟨c, hi, hcode⟩ | ⟨u, u', hi, hadvances, hm, -, -⟩
    · obtain ⟨t', hm, hgoes⟩ := hf.code s i c s' hi hcode
      by_cases hji : j = i
      · subst hji
        rw [ht] at hi
        obtain rfl := Option.some.inj hi
        exact ⟨t', hm.self, hgoes pkt hserves⟩
      · exact hm.served hji ⟨t, ht, hserves⟩
    · by_cases hji : j = i
      · subst hji
        rw [ht] at hi
        obtain rfl := Option.some.inj hi
        exact ⟨u', hm.self, hserves.advances hadvances⟩
      · exact hm.served hji ⟨t, ht, hserves⟩

/-- A call begins, as the last task. -/
theorem serves_call (hf : FilterContract owner maps Sound Handled Fits rank)
    (h : ConnSystem.Step owner s (.call pkt) s') :
    s'.ServedAt (Fits pkt) (Passes pkt) s.tasks.length := by
  cases h
  exact ⟨_, List.getElem?_concat_length, hf.call pkt⟩

/-- No call waits for itself after a step that is none in the filter's code. -/
theorem unlocked_of_ne_goes (hf : FilterContract owner maps Sound Handled Fits rank)
    (hs : Sound s) (hgood : ¬ s.SelfLocked) (h : ConnSystem.Step owner s e s')
    (he : ∀ j, e ≠ .goes j) : ¬ s'.SelfLocked := by
  refine (hf.handled s e s' hs hgood h).mpr ?_
  by_contra hnot
  obtain ⟨j, c, heq, -⟩ := hf.outgoing s e hnot
  exact he j heq

/-- A call that waits for itself does so for ever. -/
theorem hangs (hf : FilterContract owner maps Sound Handled Fits rank)
    (h : ConnSystem.Step owner s e s') (hj : s.HangsAt j) : s'.HangsAt j := by
  refine hj.step (fun i c s' ht hcode => ?_) h
  obtain ⟨t', hm, -⟩ := hf.code s i c s' ht hcode
  exact ⟨t', hm⟩

/-- **Where the condition is not met**, a call for an outgoing packet waits for itself. -/
theorem hangs_of_not_handled (hf : FilterContract owner maps Sound Handled Fits rank)
    (hs : Sound s) (hgood : ¬ s.SelfLocked) (h : ConnSystem.Step owner s e s')
    (hnot : ¬ Handled s e) :
    ∃ j c, s.tasks[j]? = some (.code c) ∧ (∀ pkt, Fits pkt c → pkt.isIngoing = false) ∧
      s'.HangsAt j := by
  obtain ⟨j, c, rfl, ht, hout⟩ := hf.outgoing s e hnot
  have hlocked : s'.SelfLocked := by
    by_contra hfine
    exact hnot ((hf.handled s _ s' hs hgood h).mp hfine)
  refine ⟨j, c, ht, hout, ?_⟩
  rcases h.goes_cases with ⟨c', hi, hcode⟩ | ⟨u, u', hi, -, hm, -, -⟩
  · obtain ⟨t', hm, -⟩ := hf.code s j c' s' hi hcode
    exact hm.hangsAt hgood hlocked
  · exact hm.hangsAt hgood hlocked

end FilterContract

section Filters
variable {κ : Type} {cmp : κ → κ → Ordering} {kind : FilterKind κ cmp} {connectionTimeout : UInt32}
  {dnatRules : DnatRules} {s s' : FilterSystem κ cmp} {e : ConnEvent} {i : Nat} {c : FilterCode}
  {pkt : Packet}

/-- A call of `filterPacket` is at work on `pkt`. -/
def FilterCode.Fits (pkt : Packet) : FilterCode → Prop
  | conn pkt' | inConn pkt' | rules pkt' | inRules pkt' => pkt' = pkt ∧ pkt.isIngoing = true
  | search pkt' | inSearch pkt' | searched pkt' _ | missing pkt' | making pkt' =>
    pkt' = pkt ∧ pkt.isIngoing = false
  | made _ | arming _ | created _ | leaving => pkt.isIngoing = false

/-- How many steps a call takes at most, with those of the handler that it adds. -/
def FilterCode.rank : FilterCode → Nat
  | inRules _ | leaving => 1
  | rules _ => 2
  | inConn _ | created _ => 3
  | conn _ => 4
  | arming _ => 5
  | made _ => 9
  | making _ => 10
  | missing _ => 11
  | searched _ _ => 12
  | inSearch _ => 13
  | search _ => 14

/-- **One step in `filterPacket`**: the call stays one for its packet. -/
theorem filterStep_moves (ht : s.tasks[i]? = some (.code c))
    (h : FilterStep kind connectionTimeout dnatRules s i c s') :
    ∃ t', s.Moves i t' s' ∧ ∀ pkt, c.Fits pkt → t'.Serves (FilterCode.Fits pkt) (Passes pkt) := by
  cases h with
  | lock _ c' hlock hfree =>
    refine ⟨_, .goes ht _, fun pkt hc => ?_⟩
    cases c with
    | conn pkt' | rules pkt' | search pkt' | missing pkt' =>
      obtain rfl := Option.some.inj hlock
      exact hc
    | inConn | inRules | inSearch | searched | making | made | arming | created | leaving =>
      cases hlock
  | conn pkt' =>
    refine ⟨_, .goes ht _, fun pkt hc => ?_⟩
    split
    · exact fun _ => rfl
    · exact hc
  | rules pkt' =>
    refine ⟨_, .goes ht _, fun pkt hc hout => ?_⟩
    rw [hc.2] at hout
    cases hout
  | searchFound pkt' p hp => exact ⟨_, .takes ht p _, fun pkt hc => hc⟩
  | searchNone pkt' hp => exact ⟨_, .goes ht _, fun pkt hc => hc⟩
  | found pkt' p => exact ⟨_, .goes ht _, fun pkt hc _ => rfl⟩
  | missing pkt' => exact ⟨_, .goes ht _, fun pkt hc => hc⟩
  | make pkt' => exact ⟨_, .makes ht _ _ _, fun pkt hc => hc.2⟩
  | start p entry he => exact ⟨_, .arms ht p _ _, fun pkt hc => hc⟩
  | armed p =>
    refine ⟨_, .drops ht p true _, fun pkt hc => ?_⟩
    split
    · exact hc
    · exact hc
  | scopeEnd p =>
    refine ⟨_, .drops ht p true _, fun pkt hc => ?_⟩
    split
    · exact hc
    · exact hc
  | unlock => exact ⟨_, .goes ht _, fun pkt hc _ => rfl⟩

theorem filterStep_work (ht : s.tasks[i]? = some (.code c))
    (h : FilterStep kind connectionTimeout dnatRules s i c s') :
    s'.work FilterCode.rank + 1 ≤ s.work FilterCode.rank := by
  cases h with
  | lock _ c' hlock hfree =>
    refine ConnSystem.work_lt_set ht rfl ?_
    cases c with
    | conn pkt' | rules pkt' | search pkt' | missing pkt' =>
      obtain rfl := Option.some.inj hlock
      exact Nat.le_refl _
    | inConn | inRules | inSearch | searched | making | made | arming | created | leaving =>
      cases hlock
  | conn pkt' =>
    refine ConnSystem.work_lt_set ht rfl ?_
    split
    · simp [ConnTask.left, FilterCode.rank]
    · simp [ConnTask.left, FilterCode.rank]
  | rules pkt' => exact ConnSystem.work_lt_set ht rfl (Nat.le_refl 1)
  | searchFound pkt' p hp => exact ConnSystem.work_lt_set ht rfl (Nat.le_refl 13)
  | searchNone pkt' hp => exact ConnSystem.work_lt_set ht rfl (Nat.le_refl 13)
  | found pkt' p =>
    refine ConnSystem.work_lt_set ht rfl ?_
    simp [ConnTask.left, FilterCode.rank]
  | missing pkt' => exact ConnSystem.work_lt_set ht rfl (Nat.le_refl 12)
  | make pkt' => exact ConnSystem.work_lt_set ht rfl (Nat.le_refl 10)
  | start p entry he => exact ConnSystem.work_lt_arms ht rfl _ (Nat.le_refl 9)
  | armed p => exact ConnSystem.work_lt_drops ht p true (Nat.le_refl 5)
  | scopeEnd p => exact ConnSystem.work_lt_drops ht p true (Nat.le_refl 3)
  | unlock => exact ConnSystem.work_lt_set ht rfl (Nat.le_refl 1)

/-- A call that needs no mutex, or has it or could have it, goes on. -/
theorem exists_filterStep (kind : FilterKind κ cmp) (connectionTimeout : UInt32)
    (dnatRules : DnatRules) (hs : s.Sound) (ht : s.tasks[i]? = some (.code c))
    (hfree : CodePosition.locked c = true ∨ s.Free) :
    ∃ s', FilterStep kind connectionTimeout dnatRules s i c s' := by
  cases c with
  | conn pkt' => exact ⟨_, .lock _ _ rfl (hfree.resolve_left Bool.false_ne_true)⟩
  | rules pkt' => exact ⟨_, .lock _ _ rfl (hfree.resolve_left Bool.false_ne_true)⟩
  | search pkt' => exact ⟨_, .lock _ _ rfl (hfree.resolve_left Bool.false_ne_true)⟩
  | missing pkt' => exact ⟨_, .lock _ _ rfl (hfree.resolve_left Bool.false_ne_true)⟩
  | inConn pkt' => exact ⟨_, .conn pkt'⟩
  | inRules pkt' => exact ⟨_, .rules pkt'⟩
  | inSearch pkt' =>
    cases hp : lockCounted s.entries s.maps (ConnFilter.extTup kind pkt') with
    | none => exact ⟨_, .searchNone pkt' hp⟩
    | some p => exact ⟨_, .searchFound pkt' p hp⟩
  | searched pkt' ent =>
    cases ent with
    | none => exact ⟨_, .missing pkt'⟩
    | some p => exact ⟨_, .found pkt' p⟩
  | making pkt' => exact ⟨_, .make pkt'⟩
  | made p =>
    obtain ⟨entry, he⟩ :=
      hs.counts.exists_object (ConnSystem.mem_refs ht (Multiset.mem_singleton_self p))
    exact ⟨_, .start p entry he⟩
  | arming p => exact ⟨_, .armed p⟩
  | created p => exact ⟨_, .scopeEnd p⟩
  | leaving => exact ⟨_, .unlock⟩

/-- **`PortrSymNatFilter` and `AddrrNatFilter`**: every call lets an outgoing packet pass, and no
call waits for itself where handlers are still there at the end of the section. -/
theorem filterContract (kind : FilterKind κ cmp) (connectionTimeout : UInt32)
    (dnatRules : DnatRules) :
    FilterContract (filterOwner kind connectionTimeout dnatRules) ∅
      (fun s => s.Sound ∧ ConnSystem.Alone s.tasks) ConnSystem.EntryHandled FilterCode.Fits
      FilterCode.rank where
  new := ⟨.new _, fun _ _ _ _ _ ht => by cases ht⟩
  step s e s' hs h := ⟨hs.1.filter h, hs.2.step hs.1 h⟩
  call pkt := by
    cases hdir : pkt.isIngoing with
    | true => simp [filterOwner, hdir, ConnTask.Serves, FilterCode.Fits]
    | false => simp [filterOwner, hdir, ConnTask.Serves, FilterCode.Fits]
  code s i c s' ht h := filterStep_moves ht h
  left pkt := by
    rw [filterOwner]
    dsimp only
    split
    · exact Nat.le_of_ble_eq_true rfl
    · exact Nat.le_refl _
  work s i s' h := h.work_lt fun _ ht hstep => filterStep_work ht hstep
  exists_goes s hs hgood hactive :=
    ConnSystem.exists_goes hs.1 hgood (fun _ _ ht hfree => exists_filterStep _ _ _ hs.1 ht hfree)
      hactive
  handled s e s' hs hgood h := ConnSystem.not_selfLocked_iff hs.1 hs.2 hgood h
  outgoing s e hnot := by
    simp only [ConnSystem.EntryHandled, not_forall] at hnot
    obtain ⟨j, p, rfl, ht, -⟩ := hnot
    exact ⟨j, _, rfl, ht, fun _ hc => hc⟩

end Filters

/-! ### The full cone filter -/

/-- `FullconeNatFilter` has no code between the call and its result. -/
instance : CodePosition Empty where
  locked := Empty.elim
  held := Empty.elim

/-- `FullconeNatFilter`. -/
def fullconeOwner : ConnOwner Unit Empty Bool where
  call _ := .returned true
  step _ _ c _ := c.elim
  removeFromMaps _ maps := maps

/-- No call of `FullconeNatFilter` has anything to do. -/
theorem fullcone_step {s s' : ConnSystem Unit Empty Bool} {e : ConnEvent}
    (hs : ∀ t ∈ s.tasks, t = .returned true) (h : ConnSystem.Step fullconeOwner s e s') :
    ∀ t ∈ s'.tasks, t = .returned true := by
  cases e with
  | call pkt =>
    cases h
    intro t hmem
    rcases List.mem_append.mp hmem with hmem | hmem
    · exact hs t hmem
    · exact List.mem_singleton.mp hmem
  | tick now =>
    cases h
    exact hs
  | goes i =>
    rcases h.goes_cases with ⟨c, -, -⟩ | ⟨t, t', ht, hadvances, -⟩
    · exact c.elim
    · exact absurd (hs t (List.mem_of_getElem? ht)) (ConnTask.not_advances_returned hadvances)

/-- **`FullconeNatFilter`**: every call returns at once. -/
theorem fullconeContract :
    FilterContract fullconeOwner () (fun s => ∀ t ∈ s.tasks, t = .returned true)
      (fun _ _ => True) (fun _ c => c.elim) Empty.elim where
  new := nofun
  step s e s' hs h := fullcone_step hs h
  call pkt := fun _ => rfl
  code s i c := c.elim
  left pkt := Nat.zero_le _
  work s i s' h := h.work_lt fun c => c.elim
  exists_goes s hs _ hactive := by
    obtain ⟨t, hmem, hactive⟩ := hactive
    rw [hs t hmem] at hactive
    exact hactive.elim
  handled s e s' hs _ h := by
    refine iff_of_true ?_ trivial
    rintro ⟨p, next, hmem⟩
    cases fullcone_step hs h _ hmem
  outgoing s e hnot := absurd trivial hnot

end ShapingRouter
