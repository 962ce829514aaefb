import Mathlib
import ShapingRouter.CallResults
import ShapingRouter.SoloCalls

/-! # The sequential mapper and filter, call by call

`ConnMapper` and `ConnFilter` handle a packet, or what is due, in one go.  The tasks of a mapper
and of a filter do the same when a call is alone: every step of `mapPacket` and of `filterPacket`
is taken, with its mutex and its references, and they return what the sequential ones do
(`ConnMapper.RestsIn.returns`, `ConnFilter.RestsIn.returns`).
-/

namespace ShapingRouter
open Library Std ConnSystem

section Mappers
variable {κ : Type} {cmp : κ → κ → Ordering} {kind : MapperKind κ cmp} {mapsPort : Bool}
  {base : NatMapperBase} {m m' : ConnMapper κ cmp} {s : MapperSystem κ cmp} {now : Nat}
  {pkt : Packet} {r : Option Packet}

theorem mapperSolo (kind : MapperKind κ cmp) (mapsPort : Bool) (base : NatMapperBase) :
    Solo (mapperOwner kind mapsPort base) fun _ _ => True where
  sound hs h := hs.mapper h
  offCode _ _ := trivial

/-- `makeNewConn`: the entry is made, linked twice, and started. -/
theorem mapperOwner_makes {T : List (ConnTask MapperCode (Option Packet))}
    {maps : MapperMaps κ cmp} {entries : Heap (Counted EntryMembers)} {t : Int} {port : UInt16}
    {entry : EntryMembers}
    (hentry : entry = .new base.connectionTimeout
      ⟨pkt.dstIp, base.ipExt, pkt.dport, port, pkt.transProt⟩ (ConnectionTuple.ofPacket pkt))
    (hcancel : T.map (.cancel entries.next) = T)
    (run : Reaches (mapperOwner kind mapsPort base) (fun _ _ => True) s
      (focused T [] maps entries t (.code (.mapped pkt port)))) :
    Reaches (mapperOwner kind mapsPort base) (fun _ _ => True) s
      (focused T [.waiting entries.next (t + entry.timeout * 10 ^ 9)]
        ⟨maps.intPortMap.insert (kind.intKey (ConnectionTuple.ofPacket pkt)) entries.next,
          maps.extPortMap.insert port entries.next⟩
        (entries.alloc ⟨entry, 1⟩) t (.returned (some (pkt.withSource base.ipExt port)))) := by
  obtain ⟨hmade, hself, hhandler⟩ := entries.made_objects entry
  have run : Reaches (mapperOwner kind mapsPort base) (fun _ _ => True) s
      (focused T [] maps (entries.alloc ⟨entry, 1⟩) t
        (.code (.made pkt port entries.next))) := run.code (hentry ▸ .make pkt port) trivial
  have run : Reaches (mapperOwner kind mapsPort base) (fun _ _ => True) s
      (focused T [] ⟨maps.intPortMap.insert (kind.intKey (ConnectionTuple.ofPacket pkt))
        entries.next, maps.extPortMap⟩ (entries.alloc ⟨entry, 1⟩) t
        (.code (.linkedInt pkt port entries.next))) := run.code (.linkInt pkt port _) trivial
  have run : Reaches (mapperOwner kind mapsPort base) (fun _ _ => True) s
      (focused T [] ⟨maps.intPortMap.insert (kind.intKey (ConnectionTuple.ofPacket pkt))
        entries.next, maps.extPortMap.insert port entries.next⟩ (entries.alloc ⟨entry, 1⟩) t
        (.code (.linkedExt pkt port entries.next))) := run.code (.linkExt pkt port _) trivial
  have run := run.code_arms entry.timeout (.start pkt port entries.next ⟨entry, 1⟩ hmade) trivial
  rw [hcancel] at run
  have run := run.code_drops hhandler false (.armed pkt port entries.next) trivial
  rw [Heap.unref_acquire] at run
  have run := run.ret (mapperSolo kind mapsPort base) hself
  rwa [Heap.unref_acquire] at run

namespace ConnMapper

/-- `intPortMap_` and `extPortMap_`. -/
def maps (m : ConnMapper κ cmp) : MapperMaps κ cmp := ⟨m.intPortMap, m.extPortMap⟩

/-- The mapper, between two calls. -/
structure RestsIn (base : NatMapperBase) (m : ConnMapper κ cmp) (s : MapperSystem κ cmp) :
    Prop where
  same : m.toNatMapperBase = base
  rests : s.Rests base.connectionTimeout m.maps m.entries

theorem RestsIn.new (base : NatMapperBase) :
    (ConnMapper.new base.ipInt base.ipExt base.connectionTimeout base.dnatRules :
      ConnMapper κ cmp).RestsIn base { maps := ⟨∅, ∅⟩ } := ⟨rfl, .new _ _⟩

theorem RestsIn.searchEntry (hm : m.RestsIn base s) (kind : MapperKind κ cmp) (pkt : Packet)
    (t : ConnTask MapperCode (Option Packet)) :
    (focused s.tasks [] s.maps s.entries s.now t).searchEntry kind pkt =
      (if pkt.isIngoing then lock m.entries m.extPortMap pkt.dport
        else lock m.entries m.intPortMap (kind.intKey (ConnectionTuple.ofPacket pkt))).map
          Prod.fst := by
  show (if pkt.isIngoing then lockCounted s.entries s.maps.extPortMap pkt.dport
    else lockCounted s.entries s.maps.intPortMap (kind.intKey (ConnectionTuple.ofPacket pkt))) = _
  rw [hm.rests.entries, hm.rests.maps]
  split
  · exact lockCounted_counted _ _ _ _
  · exact lockCounted_counted _ _ _ _

theorem RestsIn.returns_rule (hm : m.RestsIn base s) {pkt' : Packet}
    (hrule : base.checkDnat pkt = some pkt') :
    Returns (mapperOwner kind mapsPort base) (fun _ _ => True) base.connectionTimeout s
      pkt (some pkt') m.maps m.entries := by
  have hcall : (mapperOwner kind mapsPort base).call pkt = .returned (some pkt') := by
    simp [mapperOwner, hrule]
  refine hm.rests.returns (mapperSolo kind mapsPort base) ?_
  rw [hcall]
  exact .refl _

variable (kind mapsPort) in
/-- The search. -/
theorem RestsIn.searched (hm : m.RestsIn base s) (hrule : base.checkDnat pkt = none) :
    Reaches (mapperOwner kind mapsPort base) (fun _ _ => True)
      { s with tasks := s.tasks ++ [(mapperOwner kind mapsPort base).call pkt] }
      (focused s.tasks [] s.maps s.entries s.now (.code (.inSearch pkt))) := by
  have hcall : (mapperOwner kind mapsPort base).call pkt = .code (.search pkt) := by
    simp [mapperOwner, hrule]
  rw [hcall]
  exact Reaches.code (.refl (focused s.tasks [] s.maps s.entries s.now
    (.code (.search pkt)))) (.lock _ _ rfl (hm.rests.free_focused rfl)) trivial

variable (kind mapsPort) in
/-- An entry is found, and its tuples are read. -/
theorem RestsIn.found (hm : m.RestsIn base s) (hrule : base.checkDnat pkt = none) {p : Nat}
    {ent : ConnectionEntry} (he : m.entries.objects p = some ent)
    (hfound : (if pkt.isIngoing then lock m.entries m.extPortMap pkt.dport
      else lock m.entries m.intPortMap (kind.intKey (ConnectionTuple.ofPacket pkt))) =
        some (p, ent)) :
    Reaches (mapperOwner kind mapsPort base) (fun _ _ => True)
      { s with tasks := s.tasks ++ [(mapperOwner kind mapsPort base).call pkt] }
      (focused s.tasks [] s.maps (s.entries.acquire p) s.now
        (if pkt.isIngoing then .holding p (some (pkt.withDestination ent.intTuple.srcIp
            ent.intTuple.sport))
          else .found p (some (pkt.withSource ent.extTuple.dstIp ent.extTuple.dport)))) := by
  have hsearch := hm.searchEntry kind pkt (.code (.inSearch pkt))
  rw [hfound] at hsearch
  have hentry : s.entries.objects p = some ⟨ent.members base.connectionTimeout, 1⟩ := by
    rw [hm.rests.entries]
    exact counted_objects_some he
  have run : Reaches (mapperOwner kind mapsPort base) (fun _ _ => True) _
      (focused s.tasks [] s.maps (s.entries.acquire p) s.now
        (.code (.searched pkt (some p)))) :=
    (hm.searched kind mapsPort hrule).code (.searchFound pkt p hsearch) trivial
  have hlocked : (focused s.tasks [] s.maps (s.entries.acquire p) s.now
      (.code (.searched pkt (some p)) : ConnTask MapperCode (Option Packet))).entries.objects p =
        some ⟨ent.members base.connectionTimeout, 2⟩ := Heap.acquire_objects hentry
  exact run.code (.found pkt p _ hlocked) trivial

variable (kind mapsPort) in
/-- No entry is found. -/
theorem RestsIn.notFound (hm : m.RestsIn base s) (hrule : base.checkDnat pkt = none)
    (hnone : (if pkt.isIngoing then lock m.entries m.extPortMap pkt.dport
      else lock m.entries m.intPortMap (kind.intKey (ConnectionTuple.ofPacket pkt))) = none) :
    Reaches (mapperOwner kind mapsPort base) (fun _ _ => True)
      { s with tasks := s.tasks ++ [(mapperOwner kind mapsPort base).call pkt] }
      (focused s.tasks [] s.maps s.entries s.now
        (if pkt.isIngoing then .returned none
          else .code (if mapsPort then .missing pkt else .mapping pkt false))) := by
  have hsearch := hm.searchEntry kind pkt (.code (.inSearch pkt))
  rw [hnone] at hsearch
  have run := (hm.searched kind mapsPort hrule).code
    (.searchNone pkt hsearch) trivial
  exact run.code (.missing pkt) trivial

variable (mapsPort) in
/-- A new connection is made. -/
theorem RestsIn.made (hm : m.RestsIn base s) (hrule : base.checkDnat pkt = none)
    (hout : pkt.isIngoing = false)
    (hnone : lock m.entries m.intPortMap (kind.intKey (ConnectionTuple.ofPacket pkt)) = none)
    {port : UInt16}
    (hport : kind.extPort m.extPortMap.contains (ConnectionTuple.ofPacket pkt) = some port) :
    Reaches (mapperOwner kind mapsPort base) (fun _ _ => True)
      { s with tasks := s.tasks ++ [(mapperOwner kind mapsPort base).call pkt] }
      (focused s.tasks [] s.maps s.entries s.now (.code (.mapped pkt port))) := by
  have hport : kind.extPort s.maps.extPortMap.contains (ConnectionTuple.ofPacket pkt) =
      some port := by
    rw [hm.rests.maps]
    exact hport
  have run := hm.notFound kind mapsPort hrule
    (by rw [hout, if_neg Bool.false_ne_true, hnone])
  rw [hout, if_neg Bool.false_ne_true] at run
  cases mapsPort with
  | false => exact run.code (.mapPort pkt false port hport) trivial
  | true =>
    have run := run.code (.lock _ (.mapping pkt true) rfl (hm.rests.free_focused rfl)) trivial
    exact run.code (.mapPort pkt true port hport) trivial

/-- **A call of `mapPacket`** returns what the sequential one does. -/
theorem RestsIn.returns (hm : m.RestsIn base s) (hnow : s.now = (now : Int))
    (h : m.mapPacket kind now pkt = some (m', r)) :
    m'.toNatMapperBase = base ∧
      Returns (mapperOwner kind mapsPort base) (fun _ _ => True) base.connectionTimeout s
        pkt r m'.maps m'.entries := by
  have hsolo := mapperSolo kind mapsPort base
  obtain rfl := hm.same
  unfold mapPacket at h
  split at h
  · rename_i pkt' hrule
    obtain ⟨rfl, rfl⟩ := Prod.mk.inj (Option.some.inj h)
    exact ⟨rfl, hm.returns_rule hrule⟩
  rename_i hrule
  cases hdir : pkt.isIngoing with
  | true =>
    rw [hdir, if_pos rfl] at h
    split at h
    · rename_i p ent hfound
      obtain ⟨rfl, rfl⟩ := Prod.mk.inj (Option.some.inj h)
      have he := (lock_spec hfound).2
      have run := hm.found kind mapsPort hrule he
        (by rw [hdir, if_pos rfl, hfound])
      rw [hdir, if_pos rfl] at run
      have run := run.ret hsolo (hm.rests.useCount_acquire_ne he)
      rw [Heap.unref_acquire] at run
      exact ⟨rfl, hm.rests.returns hsolo run⟩
    · rename_i hnone
      obtain ⟨rfl, rfl⟩ := Prod.mk.inj (Option.some.inj h)
      have run := hm.notFound kind mapsPort hrule
        (by rw [hdir, if_pos rfl, hnone])
      rw [hdir, if_pos rfl] at run
      exact ⟨rfl, hm.rests.returns hsolo run⟩
  | false =>
    rw [hdir, if_neg Bool.false_ne_true] at h
    dsimp only at h
    split at h
    · rename_i p ent hfound
      obtain ⟨rfl, rfl⟩ := Prod.mk.inj (Option.some.inj h)
      have he := (lock_spec hfound).2
      have run := hm.found kind mapsPort hrule he
        (by rw [hdir, if_neg Bool.false_ne_true, hfound])
      rw [hdir, if_neg Bool.false_ne_true] at run
      exact ⟨rfl, hm.rests.returns_rearmed hsolo he hnow run⟩
    · rename_i hnone
      split at h
      · rename_i port hport
        obtain ⟨rfl, rfl⟩ := Prod.mk.inj (Option.some.inj h)
        have run := mapperOwner_makes rfl hm.rests.map_cancel_next
          (hm.made mapsPort hrule hdir hnone hport)
        have hreturns := hm.rests.returns_new (e := .start (m.extTuple pkt port)
          (ConnectionTuple.ofPacket pkt) now m.connectionTimeout) hsolo
          (hnow ▸ expiry_le_lifetime m.connectionTimeout now) run
        rw [hm.rests.maps, hm.rests.next] at hreturns
        exact ⟨rfl, hreturns⟩
      · cases h

/-- **What is due expires.** -/
theorem RestsIn.expire (hm : m.RestsIn base s) (hnow : s.now = (now : Int)) :
    ∃ s', Reaches (mapperOwner kind mapsPort base) (fun _ _ => True) s s' ∧
      (m.expire kind now).RestsIn base s' ∧ s'.now = s.now := by
  obtain ⟨s', run, hr, hnow'⟩ := hm.rests.expire maps entries (timeout kind)
    (mapperSolo kind mapsPort base)
    (fun m p he => by rw [timeout, he])
    (fun m p e he => by
      rw [timeout, he]
      exact ⟨rfl, rfl⟩) hnow rfl
  exact ⟨s', run, ⟨(m.expire_base now).trans hm.same, hr⟩, hnow'⟩

end ConnMapper
end Mappers

section Filters
variable {κ : Type} {cmp : κ → κ → Ordering} {kind : FilterKind κ cmp} {connectionTimeout : UInt32}
  {dnatRules : DnatRules} {f f' : ConnFilter κ cmp} {s : FilterSystem κ cmp} {now : Nat}
  {pkt : Packet}

theorem filterSolo (kind : FilterKind κ cmp) (connectionTimeout : UInt32) (dnatRules : DnatRules) :
    Solo (filterOwner kind connectionTimeout dnatRules) EntryHandled where
  sound hs h := hs.filter h
  offCode ht hcode := by
    intro i p heq hcreated
    obtain rfl := ConnEvent.goes.inj heq
    rw [ht] at hcreated
    obtain rfl := Option.some.inj hcreated
    cases hcode

/-- A call goes on in the filter's code, but for the end of the section that makes an entry. -/
theorem filterOwner_code {maps maps' : TreeMap κ Nat cmp}
    {entries entries' : Heap (Counted EntryMembers)} {T U : List (ConnTask FilterCode Bool)}
    {t : Int} {c : FilterCode} {t' : ConnTask FilterCode Bool}
    (run : Reaches (filterOwner kind connectionTimeout dnatRules) EntryHandled s
      (focused T U maps entries t (.code c)))
    (h : FilterStep kind connectionTimeout dnatRules (focused T U maps entries t (.code c))
      T.length c ((focused T U maps' entries' t (.code c)).goes T.length t'))
    (hc : ∀ p, c ≠ .created p) :
    Reaches (filterOwner kind connectionTimeout dnatRules) EntryHandled s
      (focused T U maps' entries' t t') :=
  run.code h (entryHandled_of_code focused_self hc)

namespace ConnFilter

/-- The filter, between two calls. -/
structure RestsIn (connectionTimeout : UInt32) (dnatRules : DnatRules) (f : ConnFilter κ cmp)
    (s : FilterSystem κ cmp) : Prop where
  timeout : f.connectionTimeout = connectionTimeout
  rules : f.dnatRules = dnatRules
  rests : s.Rests connectionTimeout f.connMap f.entries

theorem RestsIn.new (connectionTimeout : UInt32) (dnatRules : DnatRules) :
    (ConnFilter.new connectionTimeout dnatRules : ConnFilter κ cmp).RestsIn connectionTimeout
      dnatRules { maps := ∅ } := ⟨rfl, rfl, .new _ _⟩

/-- **What is due expires.** -/
theorem RestsIn.expire (hf : f.RestsIn connectionTimeout dnatRules s) (hnow : s.now = (now : Int)) :
    ∃ s', Reaches (filterOwner kind connectionTimeout dnatRules) EntryHandled s s' ∧
      (f.expire kind now).RestsIn connectionTimeout dnatRules s' ∧ s'.now = s.now := by
  obtain ⟨s', run, hr, hnow'⟩ := hf.rests.expire connMap entries (ConnFilter.timeout kind)
    (filterSolo kind connectionTimeout dnatRules)
    (fun f p he => by rw [ConnFilter.timeout, he])
    (fun f p e he => by
      rw [ConnFilter.timeout, he]
      exact ⟨rfl, rfl⟩) hnow rfl
  have hparams : (f.expire kind now).connectionTimeout = f.connectionTimeout ∧
      (f.expire kind now).dnatRules = f.dnatRules := f.expire_params now
  exact ⟨s', run, ⟨hparams.1.trans hf.timeout, hparams.2.trans hf.rules, hr⟩, hnow'⟩

variable (kind) in
/-- An ingoing packet. -/
theorem RestsIn.returns_ingoing (hf : f.RestsIn connectionTimeout dnatRules s)
    (hin : pkt.isIngoing = true) :
    Returns (filterOwner kind connectionTimeout dnatRules) EntryHandled
      connectionTimeout s pkt
      (f.connMap.contains (kind.ofTuple (ConnectionTuple.ofPacket pkt)) ||
        f.dnatRules.contains pkt.dport) f.connMap f.entries := by
  have hcall : (filterOwner kind connectionTimeout dnatRules).call pkt = .code (.conn pkt) := by
    simp [filterOwner, hin]
  have hsolo := filterSolo kind connectionTimeout dnatRules
  have run : Reaches (filterOwner kind connectionTimeout dnatRules) EntryHandled
      { s with tasks := s.tasks ++ [(filterOwner kind connectionTimeout dnatRules).call pkt] }
      (focused s.tasks [] s.maps s.entries s.now (.code (.inConn pkt))) := by
    rw [hcall]
    exact filterOwner_code (.refl (focused s.tasks [] s.maps s.entries s.now (.code (.conn pkt))))
      (.lock _ _ rfl (hf.rests.free_focused rfl)) fun _ => FilterCode.noConfusion
  have run := filterOwner_code run (.conn pkt) fun _ => FilterCode.noConfusion
  have hmaps : (focused s.tasks [] s.maps s.entries s.now
      (.code (.inConn pkt) : ConnTask FilterCode Bool)).maps = f.connMap := hf.rests.maps
  refine hf.rests.returns hsolo ?_
  rw [hmaps] at run
  cases hcontains : f.connMap.contains (kind.ofTuple (ConnectionTuple.ofPacket pkt)) with
  | true =>
    rw [hcontains, if_pos rfl] at run
    exact run
  | false =>
    rw [hcontains, if_neg Bool.false_ne_true] at run
    have run := filterOwner_code run (.lock _ (.inRules pkt) rfl (hf.rests.free_focused rfl))
      fun _ => FilterCode.noConfusion
    rw [Bool.false_or, hf.rules]
    exact filterOwner_code run (.rules pkt) fun _ => FilterCode.noConfusion

variable (kind) in
/-- The search for the entry of an outgoing packet. -/
theorem RestsIn.searched (hf : f.RestsIn connectionTimeout dnatRules s)
    (hout : pkt.isIngoing = false) :
    Reaches (filterOwner kind connectionTimeout dnatRules) EntryHandled
      { s with tasks := s.tasks ++ [(filterOwner kind connectionTimeout dnatRules).call pkt] }
      (focused s.tasks [] s.maps s.entries s.now (.code (.inSearch pkt))) := by
  have hcall : (filterOwner kind connectionTimeout dnatRules).call pkt = .code (.search pkt) := by
    simp [filterOwner, hout]
  rw [hcall]
  exact filterOwner_code (.refl (focused s.tasks [] s.maps s.entries s.now (.code (.search pkt))))
    (.lock _ _ rfl (hf.rests.free_focused rfl)) fun _ => FilterCode.noConfusion

theorem RestsIn.lockCounted (hf : f.RestsIn connectionTimeout dnatRules s) (k : κ) :
    Library.lockCounted s.entries s.maps k = (lock f.entries f.connMap k).map Prod.fst := by
  rw [hf.rests.entries, hf.rests.maps]
  exact lockCounted_counted _ _ _ _

/-- The entry of an outgoing packet is found. -/
theorem RestsIn.returns_found (hf : f.RestsIn connectionTimeout dnatRules s)
    (hnow : s.now = (now : Int)) (hout : pkt.isIngoing = false) {p : Nat} {ent : ConnectionEntry}
    (hfound : lock f.entries f.connMap (extTup kind pkt) = some (p, ent)) :
    Returns (filterOwner kind connectionTimeout dnatRules) EntryHandled connectionTimeout s pkt true
      f.connMap (f.entries.modify p (·.rearm now connectionTimeout)) := by
  have hlocked := hf.lockCounted (extTup kind pkt)
  rw [hfound] at hlocked
  have run : Reaches (filterOwner kind connectionTimeout dnatRules) EntryHandled _
      (focused s.tasks [] s.maps (s.entries.acquire p) s.now (.code (.searched pkt (some p)))) :=
    filterOwner_code (hf.searched kind hout) (.searchFound pkt p hlocked)
      fun _ => FilterCode.noConfusion
  have run := filterOwner_code run (.found pkt p) fun _ => FilterCode.noConfusion
  exact hf.rests.returns_rearmed (filterSolo kind connectionTimeout dnatRules)
    (lock_spec hfound).2 hnow run

/-- An entry is made for an outgoing packet. -/
theorem RestsIn.returns_new (hf : f.RestsIn connectionTimeout dnatRules s)
    (hnow : s.now = (now : Int)) (hout : pkt.isIngoing = false)
    (hnone : lock f.entries f.connMap (extTup kind pkt) = none) :
    Returns (filterOwner kind connectionTimeout dnatRules) EntryHandled connectionTimeout s pkt true
      (f.connMap.insert (extTup kind pkt) f.entries.next)
      (f.entries.alloc (.start (kind.toTuple (extTup kind pkt))
        (kind.toTuple (kind.ofTuple (ConnectionTuple.ofPacket pkt))) now connectionTimeout)) := by
  have hlocked := hf.lockCounted (extTup kind pkt)
  rw [hnone] at hlocked
  have run := filterOwner_code (hf.searched kind hout) (.searchNone pkt hlocked)
    fun _ => FilterCode.noConfusion
  have run := filterOwner_code run (.missing pkt) fun _ => FilterCode.noConfusion
  have run := filterOwner_code run (.lock _ (.making pkt) rfl (hf.rests.free_focused rfl))
    fun _ => FilterCode.noConfusion
  let entry := kind.entry connectionTimeout pkt
  obtain ⟨hmade, hself, hhandler⟩ := s.entries.made_objects entry
  have run : Reaches (filterOwner kind connectionTimeout dnatRules) EntryHandled _
      (focused s.tasks [] (s.maps.insert (extTup kind pkt) s.entries.next)
        (s.entries.alloc ⟨entry, 1⟩) s.now (.code (.made s.entries.next))) :=
    filterOwner_code run (.make pkt) fun _ => FilterCode.noConfusion
  have run := run.code_arms entry.timeout (.start s.entries.next ⟨entry, 1⟩ hmade)
    (entryHandled_of_code focused_self fun _ => FilterCode.noConfusion)
  rw [hf.rests.map_cancel_next] at run
  have run := run.code_drops hhandler true (.armed s.entries.next)
    (entryHandled_of_code focused_self fun _ => FilterCode.noConfusion)
  rw [Heap.unref_acquire] at run
  -- the handler that has just been made waits when the section ends
  have run := run.code_drops hself true (.scopeEnd s.entries.next) (by
    intro i p heq hcreated
    obtain rfl := ConnEvent.goes.inj heq
    rw [focused_self] at hcreated
    cases hcreated
    exact ⟨_, mem_focused.mpr (Or.inr (List.mem_append_right _ (List.mem_singleton_self _))), rfl⟩)
  rw [Heap.unref_acquire] at run
  have run := filterOwner_code run .unlock fun _ => FilterCode.noConfusion
  have hreturns := hf.rests.returns_new (e := .start (kind.toTuple (extTup kind pkt))
    (kind.toTuple (kind.ofTuple (ConnectionTuple.ofPacket pkt))) now connectionTimeout)
    (filterSolo kind connectionTimeout dnatRules)
    (hnow ▸ expiry_le_lifetime connectionTimeout now) run
  rwa [hf.rests.maps, hf.rests.next] at hreturns

/-- **A call of `filterPacket`** returns what the sequential one does. -/
theorem RestsIn.returns (hf : f.RestsIn connectionTimeout dnatRules s) (hnow : s.now = (now : Int))
    (pkt : Packet) :
    ∃ s', Reaches (filterOwner kind connectionTimeout dnatRules) EntryHandled
        { s with tasks := s.tasks ++ [(filterOwner kind connectionTimeout dnatRules).call pkt] }
        s' ∧
      (f.filterPacket kind now pkt).1.RestsIn connectionTimeout dnatRules s' ∧
      s'.tasks[s.tasks.length]? = some (.returned (f.filterPacket kind now pkt).2) ∧
      s'.now = s.now := by
  obtain ⟨rfl, rfl⟩ := And.intro hf.timeout hf.rules
  unfold filterPacket
  dsimp only
  split
  · rename_i hin
    obtain ⟨s', run, hr, htask, hnow'⟩ := hf.returns_ingoing kind hin
    exact ⟨s', run, ⟨rfl, rfl, hr⟩, htask, hnow'⟩
  · rename_i hdir
    have hout := Bool.eq_false_of_not_eq_true hdir
    split
    · rename_i p ent hfound
      obtain ⟨s', run, hr, htask, hnow'⟩ := hf.returns_found hnow hout hfound
      exact ⟨s', run, ⟨rfl, rfl, hr⟩, htask, hnow'⟩
    · rename_i hnone
      obtain ⟨s', run, hr, htask, hnow'⟩ := hf.returns_new hnow hout hnone
      exact ⟨s', run, ⟨rfl, rfl, hr⟩, htask, hnow'⟩

end ConnFilter
end Filters
end ShapingRouter
