import Mathlib
import ShapingRouter.ConnectionReclaim

/-! # Handling one packet after the other, as interleaved steps

`ConnMapper` and `ConnFilter` handle a packet, or the expiry of an entry, in one
go.  Each of the two is what the interleaved machines do when the packet thread, or
the timers, make all their steps without the other coming between
(`ConnMapper.mapPacket_maps`, `ConnMapper.timeout_steps` and their likes for the
filters).  So what holds in every run of an interleaved machine holds in every
sequential run (`ConnMapper.shared_runs`, `ConnFilter.shared_runs`).
-/

namespace ShapingRouter
open Library Std

/-- An entry of a sequential table, as the threads see it between two packets. -/
def ConnectionEntry.shared (e : ConnectionEntry) : SharedEntry := ⟨e.extTuple, e.intTuple, .pending⟩

/-- Between two packets, locking fails only for what is not there. -/
theorem lockLive_shared {κ : Type} {cmp : κ → κ → Ordering} (h : Heap ConnectionEntry)
    (m : TreeMap κ Nat cmp) (k : κ) :
    lockLive (h.map ConnectionEntry.shared) m k = (lock h m k).map (·.1) := by
  simp only [lockLive, lock, Heap.map]
  cases m[k]? with
  | none => rfl
  | some p => cases hp : h.objects p <;> simp [hp, ConnectionEntry.shared, Option.filter]

/-- The three steps of a timer, on an entry that is pending. -/
theorem timer_steps {h : Heap SharedEntry} {p : Nat} {e : SharedEntry} (he : h.objects p = some e)
    (hlife : e.life = .pending) :
    (h.objects p).any (·.life = .pending) = true ∧
      ((h.modify p .fire).objects p).any (·.life = .fired) = true ∧
      ((h.modify p .fire).modify p .release).objects p = some e.release ∧
      ((h.modify p .fire).modify p .release).free p = h.free p := by
  have hfired : (h.modify p .fire).objects p = some e.fire := by
    simp [h.modify_objects, he]
  refine ⟨by simp [he, hlife], by simp [hfired, SharedEntry.fire], ?_, ?_⟩
  · rw [Heap.modify_objects, if_pos rfl, hfired]
    rfl
  · refine Heap.ext (funext fun q => ?_) rfl
    rw [Heap.free_objects, Heap.free_objects]
    by_cases hq : q = p
    · rw [if_pos hq, if_pos hq]
    · rw [if_neg hq, if_neg hq, Heap.modify_objects, if_neg hq, Heap.modify_objects, if_neg hq]

/-! ## The mappers -/

/-- A step of the packet thread, at work on `pkt`; the others are the timers'. -/
def MapperEvent.isFor (pkt : Packet) : MapperEvent → Bool
  | .lookup pkt' => decide (pkt' = pkt)
  | .rearm | .mapPort | .linkInt | .linkExt | .start | .drop => true
  | .fire _ | .release _ | .deleter _ => false

namespace SharedMapper
variable {κ : Type} {cmp : κ → κ → Ordering} {kind : MapperKind κ cmp} {pkt : Packet}
  {m m' : SharedMapper κ cmp}

/-- The entry that the packet thread holds. -/
def heldEntry (m : SharedMapper κ cmp) : Option SharedEntry := m.thread.held.bind m.entries.objects

/-- What `mapPacket` makes of `pkt` where it returns: the packet is rewritten as the
entry says, or as `checkDnat` does when there is none. -/
def answer (m : SharedMapper κ cmp) (pkt : Packet) : Option Packet :=
  match m.heldEntry with
  | some e =>
    some (if pkt.isIngoing then pkt.withDestination e.intTuple.srcIp e.intTuple.sport
      else pkt.withSource e.extTuple.dstIp e.extTuple.dport)
  | none => m.checkDnat pkt

/-- The packet thread handles `pkt` with no timer in between: it enters the mapper as `m`,
leaves it as `m'`, and `r` is what `mapPacket` makes of the packet. -/
inductive Maps (kind : MapperKind κ cmp) (pkt : Packet) :
    SharedMapper κ cmp → SharedMapper κ cmp → Option Packet → Prop
  | returns {m m' : SharedMapper κ cmp} (event : MapperEvent) : event.isFor pkt = true →
      m.step kind event = some m' → m'.thread = .idle → Maps kind pkt m m' (m.answer pkt)
  | goesOn {m m₁ m' : SharedMapper κ cmp} {r : Option Packet} (event : MapperEvent) :
      event.isFor pkt = true → m.step kind event = some m₁ → m₁.thread ≠ .idle →
      Maps kind pkt m₁ m' r → Maps kind pkt m m' r

theorem Maps.steps {r : Option Packet} (h : Maps kind pkt m m' r) :
    ∃ es : List MapperEvent, es.foldlM (SharedMapper.step kind) m = some m' := by
  induction h with
  | returns event _ hstep _ =>
    refine ⟨[event], ?_⟩
    rw [List.foldlM_cons, hstep]
    rfl
  | goesOn event _ hstep _ _ ih =>
    obtain ⟨es, hes⟩ := ih
    refine ⟨event :: es, ?_⟩
    rw [List.foldlM_cons, hstep]
    exact hes

end SharedMapper

namespace ConnMapper
variable {κ : Type} {cmp : κ → κ → Ordering} {kind : MapperKind κ cmp} {m m' : ConnMapper κ cmp}

/-- The mapper as the threads share it, between two packets. -/
def shared (m : ConnMapper κ cmp) : SharedMapper κ cmp :=
  { m.toNatMapperBase with
    intPortMap := m.intPortMap
    extPortMap := m.extPortMap
    entries := m.entries.map ConnectionEntry.shared
    thread := .idle }

/-- The lookup is the first step. -/
theorem lookup_step {pkt : Packet} {t : MapperThread} (hlookup : m.shared.lookup kind pkt = t) :
    m.shared.step kind (.lookup pkt) = some { m.shared with thread := t } := by
  subst hlookup
  rfl

/-- The packet thread drops the entry at `p`. -/
theorem drop_maps {s : SharedMapper κ cmp} {p : Nat} (hth : s.thread = .holding p) (pkt : Packet) :
    SharedMapper.Maps kind pkt s { s with thread := .idle } (s.answer pkt) := by
  have hdrop : s.step kind .drop = some { s with thread := .idle } := by
    simp [SharedMapper.step, hth]
  exact .returns .drop rfl hdrop rfl

/-- What the packet thread makes of the packet, holding the entry at `p`. -/
theorem answer_holding {s : SharedMapper κ cmp} {p : Nat} {e : SharedEntry}
    (hth : s.thread = .holding p) (he : s.entries.objects p = some e) (pkt : Packet) :
    s.answer pkt = some (if pkt.isIngoing
      then pkt.withDestination e.intTuple.srcIp e.intTuple.sport
      else pkt.withSource e.extTuple.dstIp e.extTuple.dport) := by
  simp only [SharedMapper.answer, SharedMapper.heldEntry, hth, MapperThread.held, Option.bind_some,
    he]

/-- A packet is looked up, the timer of the entry found is rearmed, and the reference
dropped. -/
theorem rearm_maps {pkt : Packet} (hout : pkt.isIngoing = false) {p : Nat} {ent : ConnectionEntry}
    (hp : m.entries.objects p = some ent) (hlookup : m.shared.lookup kind pkt = .found p)
    (now : Nat) :
    SharedMapper.Maps kind pkt m.shared
      { m with entries := m.entries.modify p (·.rearm now m.connectionTimeout) }.shared
      (some (pkt.withSource ent.extTuple.dstIp ent.extTuple.dport)) := by
  have hmap : (m.entries.modify p (·.rearm now m.connectionTimeout)).map ConnectionEntry.shared =
      (m.entries.map ConnectionEntry.shared).modify p .arm :=
    m.entries.map_modify ConnectionEntry.shared (fun _ => rfl) p
  let s₂ : SharedMapper κ cmp :=
    { m.shared with entries := m.shared.entries.modify p .arm, thread := .holding p }
  have hentry : s₂.entries.objects p = some ent.shared.arm := by
    show ((m.entries.map ConnectionEntry.shared).modify p .arm).objects p = _
    rw [Heap.modify_objects, if_pos rfl]
    simp [Heap.map, hp]
  have hlast : SharedMapper.Maps kind pkt s₂ _ _ := drop_maps rfl pkt
  rw [answer_holding rfl hentry, hout, if_neg Bool.false_ne_true] at hlast
  refine .goesOn (.lookup pkt) (decide_eq_true rfl) (lookup_step hlookup) MapperThread.noConfusion
    ?_
  refine .goesOn .rearm rfl rfl MapperThread.noConfusion ?_
  simp only [shared, hmap]
  exact hlast

/-- A packet is looked up in vain, and `makeNewConn` links and starts a new entry. -/
theorem makeNewConn_maps {pkt : Packet} {port : UInt16} (hout : pkt.isIngoing = false)
    (hlookup : m.shared.lookup kind pkt = .missing pkt)
    (hport : kind.extPort m.extPortMap.contains (ConnectionTuple.ofPacket pkt) = some port)
    (now : Nat) :
    SharedMapper.Maps kind pkt m.shared
      (m.makeNewConn kind now (m.extTuple pkt port) (ConnectionTuple.ofPacket pkt)).shared
      (some (pkt.withSource m.ipExt port)) := by
  have hmap : (m.entries.alloc
        (.start (m.extTuple pkt port) (.ofPacket pkt) now m.connectionTimeout)).map
          ConnectionEntry.shared =
      ((m.entries.map ConnectionEntry.shared).alloc (m.shared.newEntry pkt port)).modify
        m.entries.next .arm := by
    rw [Heap.map_alloc]
    exact (Heap.modify_alloc _ (m.shared.newEntry pkt port) .arm).symm
  have hnew : ((m.entries.map ConnectionEntry.shared).alloc (m.shared.newEntry pkt port)).objects
      m.entries.next = some (m.shared.newEntry pkt port) := by
    rw [Heap.alloc_objects]
    exact if_pos rfl
  let s₂ : SharedMapper κ cmp := { m.shared with thread := .mapped pkt port }
  let s₃ : SharedMapper κ cmp := s₂.linkInt kind pkt port
  let s₄ : SharedMapper κ cmp :=
    { s₃ with extPortMap := s₃.extPortMap.insert port m.entries.next,
              thread := .linked m.entries.next }
  let s₅ : SharedMapper κ cmp :=
    { s₄ with entries := s₄.entries.modify m.entries.next .arm, thread := .holding m.entries.next }
  have hmapPort : SharedMapper.step kind { m.shared with thread := .missing pkt } .mapPort =
      some s₂ := by
    show Option.map _ (kind.extPort m.extPortMap.contains (ConnectionTuple.ofPacket pkt)) = _
    rw [hport]
    rfl
  have hlinkExt : s₃.step kind .linkExt = some s₄ := by
    show Option.map _ (((m.entries.map ConnectionEntry.shared).alloc
      (m.shared.newEntry pkt port)).objects m.entries.next) = _
    rw [hnew]
    rfl
  have hentry : s₅.entries.objects m.entries.next = some (m.shared.newEntry pkt port).arm := by
    show (((m.entries.map ConnectionEntry.shared).alloc (m.shared.newEntry pkt port)).modify
      m.entries.next .arm).objects m.entries.next = _
    rw [Heap.modify_objects, if_pos rfl, hnew]
    rfl
  have hlast : SharedMapper.Maps kind pkt s₅ _ _ := drop_maps rfl pkt
  rw [answer_holding rfl hentry, hout, if_neg Bool.false_ne_true] at hlast
  refine .goesOn (.lookup pkt) (decide_eq_true rfl) (lookup_step hlookup) MapperThread.noConfusion
    ?_
  refine .goesOn .mapPort rfl hmapPort MapperThread.noConfusion ?_
  refine .goesOn .linkInt rfl rfl MapperThread.noConfusion ?_
  refine .goesOn .linkExt rfl hlinkExt MapperThread.noConfusion ?_
  refine .goesOn .start rfl rfl MapperThread.noConfusion ?_
  simp only [shared, makeNewConn, hmap]
  exact hlast

/-- **A packet handled in one go** is the steps of the packet thread, one after the other. -/
theorem mapPacket_maps {now : Nat} {pkt : Packet} {r : Option Packet}
    (h : m.mapPacket kind now pkt = some (m', r)) :
    SharedMapper.Maps kind pkt m.shared m'.shared r := by
  have hdnat : m.shared.checkDnat pkt = m.checkDnat pkt := rfl
  have hint := lockLive_shared m.entries m.intPortMap (kind.intKey (ConnectionTuple.ofPacket pkt))
  have hext := lockLive_shared m.entries m.extPortMap pkt.dport
  -- the cases of the sequential code say which steps the packet thread takes
  simp only [mapPacket] at h
  split at h
  · rename_i hrule
    obtain ⟨rfl, rfl⟩ := Prod.mk.inj (Option.some.inj h)
    have hlookup : m.shared.lookup kind pkt = .idle := by simp [SharedMapper.lookup, hdnat, hrule]
    have hlast : SharedMapper.Maps kind pkt m.shared _ _ :=
      .returns (.lookup pkt) (decide_eq_true rfl) (lookup_step hlookup) rfl
    rwa [show m.shared.answer pkt = some _ from hrule] at hlast
  · rename_i hrule
    split at h
    · rename_i hin
      split at h
      · rename_i p ent hlock
        obtain ⟨rfl, rfl⟩ := Prod.mk.inj (Option.some.inj h)
        have hlookup : m.shared.lookup kind pkt = .holding p := by
          simp [SharedMapper.lookup, hrule, hin, shared, hext, hlock]
        let s₁ : SharedMapper κ cmp := { m.shared with thread := .holding p }
        have hentry : s₁.entries.objects p = some ent.shared := by
          show (m.entries.objects p).map ConnectionEntry.shared = _
          rw [(lock_spec hlock).2, Option.map_some]
        have hlast : SharedMapper.Maps kind pkt s₁ _ _ := drop_maps rfl pkt
        rw [answer_holding rfl hentry, hin, if_pos rfl] at hlast
        exact .goesOn (.lookup pkt) (decide_eq_true rfl) (lookup_step hlookup)
          MapperThread.noConfusion hlast
      · rename_i hlock
        obtain ⟨rfl, rfl⟩ := Prod.mk.inj (Option.some.inj h)
        have hlookup : m.shared.lookup kind pkt = .idle := by
          simp [SharedMapper.lookup, hrule, hin, shared, hext, hlock]
        have hlast : SharedMapper.Maps kind pkt m.shared _ _ :=
          .returns (.lookup pkt) (decide_eq_true rfl) (lookup_step hlookup) rfl
        rwa [show m.shared.answer pkt = none from hrule] at hlast
    · rename_i hin
      have hout : pkt.isIngoing = false := by simpa using hin
      split at h
      · rename_i p ent hlock
        obtain ⟨rfl, rfl⟩ := Prod.mk.inj (Option.some.inj h)
        exact rearm_maps hout (lock_spec hlock).2
          (by simp [SharedMapper.lookup, hrule, hin, shared, hint, hlock]) now
      · rename_i hlock
        split at h
        · rename_i port hport
          obtain ⟨rfl, rfl⟩ := Prod.mk.inj (Option.some.inj h)
          exact makeNewConn_maps hout
            (by simp [SharedMapper.lookup, hrule, hin, shared, hint, hlock]) hport now
        · cases h

/-- **An expiry in one go** is the steps of the timer, one after the other. -/
theorem timeout_steps {p : Nat} {e : ConnectionEntry} (he : m.entries.objects p = some e) :
    [MapperEvent.fire p, .release p, .deleter p].foldlM (SharedMapper.step kind) m.shared =
      some (m.timeout kind p).shared := by
  have hmap : (m.entries.map ConnectionEntry.shared).objects p = some e.shared := by
    simp [Heap.map, he]
  obtain ⟨hpending, hfired, hreleased, hfree⟩ := timer_steps hmap rfl
  have htimeout : m.timeout kind p =
      { m.removeFromMaps kind e.intTuple e.extTuple with entries := m.entries.free p } := by
    simp [timeout, he]
  rw [htimeout]
  simp only [shared, removeFromMaps, Heap.map_free, ← hfree]
  simp [List.foldlM_cons, SharedMapper.step, hpending, hfired, hreleased, MapperThread.held,
    SharedEntry.release, SharedMapper.removeFromMaps, SharedMapper.intKey, SharedMapper.extKey,
    ConnectionEntry.shared]

/-- A sequential mapper handles a packet, or one of its entries expires. -/
inductive SequentialStep (kind : MapperKind κ cmp) (m : ConnMapper κ cmp) :
    Unit → ConnMapper κ cmp → Prop
  | mapPacket {now : Nat} {pkt : Packet} {m' : ConnMapper κ cmp} {r : Option Packet} :
      m.mapPacket kind now pkt = some (m', r) → SequentialStep kind m () m'
  | timeout {p : Nat} {e : ConnectionEntry} :
      m.entries.objects p = some e → SequentialStep kind m () (m.timeout kind p)

/-- **Sequential runs are runs of the shared mapper.** -/
theorem shared_runs {h : List Unit}
    (run : Run (SequentialStep kind) (∃ a b t d, · = ConnMapper.new a b t d) h m) :
    ∃ h', SharedMapper.Runs kind h' m.shared := by
  refine run.invariant (I := fun _ m => ∃ h', SharedMapper.Runs kind h' m.shared) ?_ ?_
  · rintro _ ⟨a, b, t, d, rfl⟩
    exact ⟨[], .start ⟨⟨a, b, t, d⟩, rfl⟩⟩
  · rintro _ m _ m' _ ⟨h', run'⟩ hs
    obtain ⟨es, hes⟩ : ∃ es : List MapperEvent,
        es.foldlM (SharedMapper.step kind) m.shared = some m'.shared := by
      cases hs with
      | mapPacket hmap => exact (mapPacket_maps hmap).steps
      | timeout he => exact ⟨_, timeout_steps he⟩
    exact ⟨_, run'.trans (.of_replay (SharedMapper.step kind) (fun _ _ _ h => h) es rfl hes)⟩

end ConnMapper

/-! ## The filters -/

namespace ConnFilter
variable {κ : Type} {cmp : κ → κ → Ordering} {kind : FilterKind κ cmp} {f : ConnFilter κ cmp}

/-- The filter as the threads share it, between two packets. -/
def shared (f : ConnFilter κ cmp) : SharedFilter κ cmp :=
  ⟨f.connMap, f.entries.map ConnectionEntry.shared, .idle⟩

/-- An outgoing packet is filtered in two steps: the lookup, and what follows from it. -/
theorem filterPacket_outgoing_steps (kind : FilterKind κ cmp) (f : ConnFilter κ cmp) (now : Nat)
    {pkt : Packet} (hout : pkt.isIngoing = false) :
    ∃ f₁ event, f.shared.step kind (.lookup pkt) = some f₁ ∧
      f₁.step kind event = some (f.filterPacket kind now pkt).1.shared := by
  have hlock := lockLive_shared f.entries f.connMap (extTup kind pkt)
  have hlookup : ∀ t, f.shared.lookup kind pkt = t →
      f.shared.step kind (.lookup pkt) = some { f.shared with thread := t } := by
    rintro t rfl
    rfl
  simp only [filterPacket, hout, Bool.false_eq_true, if_false]
  split
  · rename_i p ent hfound
    have hthread : f.shared.lookup kind pkt = .found p := by
      simp [SharedFilter.lookup, hout, shared, hlock, hfound]
    refine ⟨_, .rearm, hlookup _ hthread, ?_⟩
    have hmap : (f.entries.modify p (·.rearm now f.connectionTimeout)).map
        ConnectionEntry.shared = (f.entries.map ConnectionEntry.shared).modify p .arm :=
      f.entries.map_modify ConnectionEntry.shared (fun _ => rfl) p
    simp [SharedFilter.step, shared, hmap]
  · rename_i hnone
    have hthread : f.shared.lookup kind pkt = .missing pkt := by
      simp [SharedFilter.lookup, hout, shared, hlock, hnone]
    refine ⟨_, .create, hlookup _ hthread, ?_⟩
    simp [SharedFilter.step, SharedFilter.create, shared, Heap.map_alloc, ConnectionEntry.shared,
      ConnectionEntry.start]

/-- **A packet filtered in one go** is the steps of the packet thread, one after the other. -/
theorem filterPacket_steps (kind : FilterKind κ cmp) (f : ConnFilter κ cmp) (now : Nat)
    (pkt : Packet) :
    ∃ es : List FilterEvent, es.foldlM (SharedFilter.step kind) f.shared =
      some (f.filterPacket kind now pkt).1.shared := by
  cases hdir : pkt.isIngoing with
  | true =>
    refine ⟨[.lookup pkt], ?_⟩
    rw [filterPacket_ingoing kind f hdir]
    simp [List.foldlM_cons, SharedFilter.step, SharedFilter.lookup, shared, hdir]
  | false =>
    obtain ⟨f₁, event, hlookup, hstep⟩ := filterPacket_outgoing_steps kind f now hdir
    refine ⟨[.lookup pkt, event], ?_⟩
    rw [List.foldlM_cons, hlookup]
    show f₁.step kind event >>= _ = _
    rw [hstep]
    rfl

/-- **An expiry in one go** is the steps of the timer, one after the other. -/
theorem timeout_steps {p : Nat} {e : ConnectionEntry} (he : f.entries.objects p = some e) :
    [FilterEvent.fire p, .release p, .deleter p].foldlM (SharedFilter.step kind) f.shared =
      some (f.timeout kind p).shared := by
  have hmap : (f.entries.map ConnectionEntry.shared).objects p = some e.shared := by
    simp [Heap.map, he]
  obtain ⟨hpending, hfired, hreleased, hfree⟩ := timer_steps hmap rfl
  have htimeout : f.timeout kind p =
      { f.removeFromMaps (kind.ofTuple e.extTuple) with entries := f.entries.free p } := by
    simp [timeout, he]
  rw [htimeout]
  simp only [shared, removeFromMaps, Heap.map_free, ← hfree]
  simp [List.foldlM_cons, SharedFilter.step, hpending, hfired, hreleased, SharedEntry.release,
    SharedFilter.key, ConnectionEntry.shared]

/-- A sequential filter handles a packet, or one of its entries expires. -/
inductive SequentialStep (kind : FilterKind κ cmp) (f : ConnFilter κ cmp) :
    Unit → ConnFilter κ cmp → Prop
  | filterPacket (now : Nat) (pkt : Packet) :
      SequentialStep kind f () (f.filterPacket kind now pkt).1
  | timeout {p : Nat} {e : ConnectionEntry} :
      f.entries.objects p = some e → SequentialStep kind f () (f.timeout kind p)

/-- **Sequential runs are runs of the shared filter.** -/
theorem shared_runs {h : List Unit}
    (run : Run (SequentialStep kind) (∃ t d, · = ConnFilter.new t d) h f) :
    ∃ h', SharedFilter.Runs kind h' f.shared := by
  refine run.invariant (I := fun _ f => ∃ h', SharedFilter.Runs kind h' f.shared) ?_ ?_
  · rintro _ ⟨t, d, rfl⟩
    exact ⟨[], .start rfl⟩
  · rintro _ f _ f' _ ⟨h', run'⟩ hs
    obtain ⟨es, hes⟩ : ∃ es : List FilterEvent,
        es.foldlM (SharedFilter.step kind) f.shared = some f'.shared := by
      cases hs with
      | filterPacket now pkt => exact filterPacket_steps kind f now pkt
      | timeout he => exact ⟨_, timeout_steps he⟩
    exact ⟨_, run'.trans (.of_replay (SharedFilter.step kind) (fun _ _ _ h => h) es rfl hes)⟩

end ConnFilter
end ShapingRouter
