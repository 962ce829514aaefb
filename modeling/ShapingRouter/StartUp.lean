import Mathlib
import ShapingRouter.ChainConfiguration

/-! # Starting the router

`main` builds the router with all filters or with a list, calls setters, and executes
one of the two chains.  Any list will do: names that `Router::init` does not know are
passed over, and an input filter in the middle of the list begins both chains anew.

The IPv6 chain of all filters has an `output6_`, but there is no `output_`, and
`init6Filters` asks for the one and calls the other.
-/

namespace ShapingRouter
open Library

/-- The classes whose `handlePacket` passes packets on to `next_`. -/
def FilterClass.forwards : FilterClass → Bool
  | Output | OutputLibnet | Output6Libnet => false
  | Input | InputDrop | Burst | Loss | StaticDelay | Nat | TokenBucketFilter | DynamicDelay
  | DynamicLoss => true

namespace FilterObject

/-- `next_` of the two buckets of a `TokenBucketFilter`: its `init` gives them its own,
before it starts them. -/
def bucketNext (o : FilterObject) : Option FilterPtr :=
  if .init ∈ o.calls then o.next else none

/-- The filter can pass packets on, and so can its buckets, if they were started. -/
structure Linked (o : FilterObject) : Prop where
  next : o.cls.forwards = true → o.next ≠ none
  buckets : o.cls = .TokenBucketFilter → .init ∈ o.calls → o.bucketNext ≠ none

theorem linked_of_next {o : FilterObject} (h : o.cls.forwards = true → o.next ≠ none) :
    o.Linked where
  next := h
  buckets hcls hinit := by
    rw [bucketNext, if_pos hinit]
    apply h
    rw [hcls]
    rfl

end FilterObject

/-- The chain has a start, and every filter from there on that forwards packets has a
next one. -/
structure RouterChain.Ready (c : RouterChain) : Prop where
  start : c.start ≠ none
  linked : ∃ os, c.Visits c.start os ∧ ∀ o ∈ os, o.Linked

namespace Router

/-- What `main` does with the `filters` and `accept-mode` options. -/
def build (extIf : String) : Option (Bool × List String) → Option Router
  | some (acceptMode, filters) => init {} extIf (mainFilters acceptMode filters)
  | none => initAll {} extIf

/-- The initialization in `execute6` or `execute`. -/
def startUp (r : Router) (ipv6 : Bool) (qh : Nat) : Except InitError Router :=
  if ipv6 then r.init6Filters qh else r.initFilters qh

/-- The chain that is executed. -/
def executed (r : Router) (ipv6 : Bool) : RouterChain := if ipv6 then r.chain6 else r.chain

end Router

/-! ## Calls keep a chain ready -/

namespace RouterChain
variable {c : RouterChain} {p : Option FilterPtr} {os : List FilterObject}

/-- Calls leave the links as they are. -/
theorem Visits.callAll (h : c.Visits p os) (calls : List (FilterName × FilterCall)) :
    ∃ os', (c.callAll calls).Visits p os' ∧
      ∀ o' ∈ os', ∃ o ∈ os, o'.cls = o.cls ∧ o'.next = o.next := by
  induction h with
  | nil => exact ⟨[], .nil, by simp⟩
  | @cons p o rest hp _ ih =>
    obtain ⟨rest', hrest', hall⟩ := ih
    have hobj := c.callAll_objects calls p
    rw [hp, Option.map_some] at hobj
    refine ⟨_ :: rest', .cons hobj hrest', ?_⟩
    intro o' ho'
    rcases List.mem_cons.mp ho' with rfl | hmem
    · exact ⟨o, List.mem_cons_self, rfl, rfl⟩
    · obtain ⟨o₁, ho₁, heq⟩ := hall o' hmem
      exact ⟨o₁, List.mem_cons_of_mem _ ho₁, heq⟩

theorem ready_of_visits (os : List FilterObject) (h : c.Visits c.start os) (hne : os ≠ [])
    (hall : ∀ o ∈ os, o.cls.forwards = true → o.next ≠ none) : c.Ready where
  start hstart := by
    rw [hstart] at h
    cases h
    exact hne rfl
  linked := ⟨os, h, fun o ho => FilterObject.linked_of_next (hall o ho)⟩

theorem Ready.callAll (h : c.Ready) (calls : List (FilterName × FilterCall)) :
    (c.callAll calls).Ready := by
  obtain ⟨os, hvisits, hall⟩ := h.linked
  obtain ⟨os', hvisits', hsame⟩ := hvisits.callAll calls
  constructor
  · rw [callAll_start]
    exact h.start
  · rw [callAll_start]
    refine ⟨os', hvisits', fun o' ho' => FilterObject.linked_of_next ?_⟩
    obtain ⟨o, ho, hcls, hnext⟩ := hsame o' ho'
    rw [hcls, hnext]
    exact (hall o ho).next

end RouterChain

/-! ## Building from a list -/

namespace ChainBuilder

/-- The chain runs through the filters from place `base` on, and `o` is the last. -/
structure Threaded (b : ChainBuilder) (base : Nat) (o : FilterObject) : Prop where
  start : b.chain.start = some base
  last : b.last = some (b.chain.filters.next - 1)
  nonempty : base < b.chain.filters.next
  object : ∀ p : Nat, base ≤ p → p + 1 < b.chain.filters.next →
    ∃ o, b.chain.filters.objects p = some o ∧ o.next = some (p + 1)
  end_ : b.chain.filters.objects (b.chain.filters.next - 1) = some o
  end_next : o.next = none

variable {b : ChainBuilder} {base : Nat} {o : FilterObject}

theorem threaded_first (b : ChainBuilder) (name : FilterName) (cls : FilterClass) :
    (b.first name cls).Threaded b.chain.filters.next { cls := cls } where
  start := rfl
  last := rfl
  nonempty := Nat.lt_succ_self _
  object p hp hlt := by
    have hlt : p + 1 < b.chain.filters.next + 1 := hlt
    omega
  end_ := by
    show (b.chain.filters.alloc _).objects b.chain.filters.next = _
    rw [Heap.alloc_objects, if_pos rfl]
  end_next := rfl

theorem Threaded.append (h : b.Threaded base o) (name : FilterName) (cls : FilterClass) :
    ∃ b', b.append name cls = some b' ∧ b'.Threaded base { cls := cls } ∧
      b'.chain.member = Function.update b.chain.member name (some b.chain.filters.next) := by
  have hpos := h.nonempty
  simp only [ChainBuilder.append, h.last]
  refine ⟨_, rfl, ⟨h.start, rfl, Nat.lt_succ_of_lt hpos, fun p hp hlt => ?_, ?_, rfl⟩, rfl⟩
  · have hlt : p + 1 < b.chain.filters.next + 1 := hlt
    simp only [Heap.modify_objects, Heap.alloc_objects]
    by_cases hend : p = b.chain.filters.next - 1
    · -- the filter that was the last one
      rw [if_pos hend, if_neg (by omega), h.end_]
      refine ⟨_, rfl, ?_⟩
      show some b.chain.filters.next = some (p + 1)
      rw [hend, Nat.sub_add_cancel (by omega)]
    · obtain ⟨o₁, ho₁, hnext⟩ := h.object p hp (by omega)
      rw [if_neg hend, if_neg (by omega)]
      exact ⟨o₁, ho₁, hnext⟩
  · show ((b.chain.filters.alloc _).modify _ _).objects b.chain.filters.next = _
    rw [Heap.modify_objects, if_neg (by omega), Heap.alloc_objects, if_pos rfl]

/-- From any of its places on, the chain visits filters that have a next one, and then
the last. -/
theorem Threaded.visits (h : b.Threaded base o) (p : Nat) (hbase : base ≤ p)
    (hp : p < b.chain.filters.next) :
    ∃ os, b.chain.Visits (some p) os ∧ ∀ o₁ ∈ os, o₁.next ≠ none ∨ o₁ = o := by
  induction hd : b.chain.filters.next - 1 - p generalizing p with
  | zero =>
    obtain rfl : p = b.chain.filters.next - 1 := by omega
    refine ⟨[o], .cons h.end_ ?_, by simp⟩
    rw [h.end_next]
    exact .nil
  | succ d ih =>
    obtain ⟨o₁, ho₁, hnext⟩ := h.object p hbase (by omega)
    obtain ⟨os, hvisits, hall⟩ := ih (p + 1) (by omega) (by omega) (by omega)
    refine ⟨o₁ :: os, .cons ho₁ (hnext ▸ hvisits), ?_⟩
    intro o₂ ho₂
    rcases List.mem_cons.mp ho₂ with rfl | hmem
    · exact Or.inl (by rw [hnext]; simp)
    · exact hall o₂ hmem

/-- A chain that ends in an output filter. -/
theorem Threaded.ready (h : b.Threaded base o) (hout : o.cls.forwards = false) :
    b.chain.Ready := by
  obtain ⟨os, hvisits, hall⟩ := h.visits base (Nat.le_refl _) h.nonempty
  rw [← h.start] at hvisits
  apply RouterChain.ready_of_visits os hvisits
  · rintro rfl
    rw [h.start] at hvisits
    cases hvisits
  · intro o₁ ho₁ hcls
    rcases hall o₁ ho₁ with hnext | rfl
    · exact hnext
    · rw [hout] at hcls
      cases hcls

end ChainBuilder

namespace RouterBuilder

/-- Both chains have a last filter, and if there is an `output6_` there is an `output_`. -/
structure Threaded (b : RouterBuilder) : Prop where
  v4 : ∃ base o, b.v4.Threaded base o
  v6 : ∃ base o, b.v6.Threaded base o
  output : b.v6.chain.member .output ≠ none → b.v4.chain.member .output ≠ none

/-- What the loop body of `Router::init` can do. -/
inductive Adds (b : RouterBuilder) : Option RouterBuilder → Prop
  | first (name : FilterName) : name ≠ .output → Adds b (some (b.first name))
  | append (name : FilterName) : Adds b (b.append name)
  | append4 : Adds b (b.append4 .nat)
  | unknown : Adds b (some b)

/-- It does one of these for any string. -/
theorem adds_add (b : RouterBuilder) (it : String) : Adds b (b.add it) := by
  unfold add
  refine iteInduction (fun _ => .first .input (by decide)) fun _ => ?_
  refine iteInduction (fun _ => .first .inputDrop (by decide)) fun _ => ?_
  refine iteInduction (fun _ => .append .burst) fun _ => ?_
  refine iteInduction (fun _ => .append .loss) fun _ => ?_
  refine iteInduction (fun _ => .append .staticDelay) fun _ => ?_
  refine iteInduction (fun _ => .append4) fun _ => ?_
  refine iteInduction (fun _ => .append .tokenBucketFilter) fun _ => ?_
  refine iteInduction (fun _ => .append .dynamicDelay) fun _ => ?_
  refine iteInduction (fun _ => .append .dynamicLoss) fun _ => ?_
  refine iteInduction (fun _ => .append .output) fun _ => ?_
  exact iteInduction (fun _ => .append .outputLibnet) fun _ => .unknown

theorem threaded_first (b : RouterBuilder) {name : FilterName} (hname : name ≠ .output)
    (hout : b.v6.chain.member .output ≠ none → b.v4.chain.member .output ≠ none) :
    (b.first name).Threaded where
  v4 := ⟨_, _, b.v4.threaded_first name name.cls⟩
  v6 := ⟨_, _, b.v6.threaded_first name name.cls6⟩
  output := by
    show Function.update _ _ _ _ ≠ _ → Function.update _ _ _ _ ≠ _
    rw [Function.update_of_ne (Ne.symm hname), Function.update_of_ne (Ne.symm hname)]
    exact hout

/-- A filter added to both chains is the last of both. -/
theorem Threaded.append {b : RouterBuilder} (h : b.Threaded) (name : FilterName) :
    ∃ b', b.append name = some b' ∧ b'.Threaded ∧
      (∃ base, b'.v4.Threaded base { cls := name.cls }) ∧
      ∃ base, b'.v6.Threaded base { cls := name.cls6 } := by
  obtain ⟨base, o, h4⟩ := h.v4
  obtain ⟨base₆, o₆, h6⟩ := h.v6
  obtain ⟨v4, hv4, ht4, hm4⟩ := h4.append name name.cls
  obtain ⟨v6, hv6, ht6, hm6⟩ := h6.append name name.cls6
  refine ⟨⟨v4, v6⟩, ?_, ⟨⟨_, _, ht4⟩, ⟨_, _, ht6⟩, ?_⟩, ⟨_, ht4⟩, ⟨_, ht6⟩⟩
  · simp [RouterBuilder.append, hv4, hv6]
  · rw [hm4, hm6, Function.update_apply, Function.update_apply]
    by_cases hname : FilterName.output = name
    · simp [hname]
    · rw [if_neg hname, if_neg hname]
      exact h.output

theorem Threaded.append4 {b : RouterBuilder} (h : b.Threaded) :
    ∃ b', b.append4 .nat = some b' ∧ b'.Threaded := by
  obtain ⟨base, o, h4⟩ := h.v4
  obtain ⟨v4, hv4, ht4, hm4⟩ := h4.append .nat FilterName.nat.cls
  refine ⟨⟨v4, b.v6⟩, ?_, ⟨_, _, ht4⟩, h.v6, ?_⟩
  · simp [RouterBuilder.append4, hv4]
  · rw [hm4, Function.update_of_ne (by decide)]
    exact h.output

/-- One more element of the list, whatever it is. -/
theorem Threaded.add {b : RouterBuilder} (h : b.Threaded) (it : String) :
    ∃ b', b.add it = some b' ∧ b'.Threaded := by
  have hadds := b.adds_add it
  generalize b.add it = added at hadds
  cases hadds with
  | first name hname => exact ⟨_, rfl, b.threaded_first hname h.output⟩
  | append name =>
    obtain ⟨b', hb', ht, -⟩ := h.append name
    exact ⟨b', hb', ht⟩
  | append4 => exact h.append4
  | unknown => exact ⟨b, rfl, h⟩

/-- A whole list of strings. -/
theorem Threaded.addList {b : RouterBuilder} (h : b.Threaded) (its : List String) :
    ∃ b', its.foldlM RouterBuilder.add b = some b' ∧ b'.Threaded := by
  induction its generalizing b with
  | nil => exact ⟨b, rfl, h⟩
  | cons it its ih =>
    obtain ⟨b₁, h₁, ht₁⟩ := h.add it
    obtain ⟨b', h', ht'⟩ := ih ht₁
    refine ⟨b', ?_, ht'⟩
    rw [List.foldlM_cons, h₁]
    exact h'

end RouterBuilder

/-! ## Both ways to build -/

namespace Router

/-- `main`'s list, whatever is in the middle of it. -/
theorem init_ready (extIf : String) (acceptMode : Bool) (filters : List String) :
    ∃ r, init {} extIf (mainFilters acceptMode filters) = some r ∧ r.chain.Ready ∧
      r.chain6.Ready ∧
      ((r.chain6.member .output).isSome → (r.chain.member .output).isSome) := by
  obtain ⟨head, last, hhead, hlast, hlist, hfirst, happend⟩ : ∃ head last : FilterName,
      head ≠ .output ∧ (last.cls.forwards = false ∧ last.cls6.forwards = false) ∧
      mainFilters acceptMode filters = head.toString :: filters ++ [last.toString] ∧
      (∀ b, RouterBuilder.add b head.toString = some (b.first head)) ∧
      ∀ b, RouterBuilder.add b last.toString = b.append last := by
    cases acceptMode with
    | true => exact ⟨.input, .output, by decide, by decide, rfl, fun _ => rfl, fun _ => rfl⟩
    | false =>
      exact ⟨.inputDrop, .outputLibnet, by decide, by decide, rfl, fun _ => rfl, fun _ => rfl⟩
  have h0 := (⟨⟨{}, none⟩, ⟨{}, none⟩⟩ : RouterBuilder).threaded_first hhead (by simp)
  obtain ⟨b₁, hb₁, ht₁⟩ := h0.addList filters
  obtain ⟨b, hb, ht, ⟨_, ht4⟩, _, ht6⟩ := ht₁.append last
  refine ⟨⟨true, extIf, b.v4.chain, b.v6.chain⟩, ?_, ht4.ready hlast.1, ht6.ready hlast.2, ?_⟩
  · rw [init, hlist, List.cons_append, List.foldlM_cons, hfirst, Option.bind_eq_bind,
      Option.bind_some, List.foldlM_append, hb₁]
    simp [happend, hb]
  · simpa [Option.isSome_iff_ne_none] using ht.output

/-- All filters. -/
theorem initAll_ready (extIf : String) :
    ∃ r, initAll {} extIf = some r ∧ r.chain.Ready ∧ r.chain6.Ready ∧
      r.chain.member .output = none ∧ (r.chain6.member .output).isSome := by
  refine ⟨_, rfl, ?_, ?_, rfl, rfl⟩
  · apply RouterChain.ready_of_visits [
      { cls := .InputDrop, next := some 1 }, { cls := .Loss, next := some 2 },
      { cls := .Nat, next := some 3 }, { cls := .Burst, next := some 4 },
      { cls := .StaticDelay, next := some 6 }, { cls := .DynamicLoss, next := some 5 },
      { cls := .DynamicDelay, next := some 7 }, { cls := .TokenBucketFilter, next := some 8 },
      { cls := .OutputLibnet }]
    · exact .cons rfl (.cons rfl (.cons rfl (.cons rfl (.cons rfl (.cons rfl (.cons rfl
        (.cons rfl (.cons rfl .nil))))))))
    · simp
    · decide
  · apply RouterChain.ready_of_visits [
      { cls := .Input, next := some 1 }, { cls := .Loss, next := some 2 },
      { cls := .Burst, next := some 3 }, { cls := .StaticDelay, next := some 5 },
      { cls := .DynamicLoss, next := some 4 }, { cls := .DynamicDelay, next := some 6 },
      { cls := .TokenBucketFilter, next := some 7 }, { cls := .Output }]
    · exact .cons rfl (.cons rfl (.cons rfl (.cons rfl (.cons rfl (.cons rfl (.cons rfl
        (.cons rfl .nil)))))))
    · simp
    · decide

/-! ## Setters and initialization -/

variable {r : Router} (setters : List SetterCall) (qh : Nat)

theorem configureAll_member (name : FilterName) :
    (r.configureAll setters).chain.member name = r.chain.member name ∧
      (r.configureAll setters).chain6.member name = r.chain6.member name := by
  rw [configureAll_chain, configureAll_chain6, RouterChain.callAll_member,
    RouterChain.callAll_member]
  exact ⟨rfl, rfl⟩

theorem execute_ready (h : r.chain.Ready) :
    ∃ r', (r.configureAll setters).startUp false qh = .ok r' ∧ (r'.executed false).Ready := by
  refine ⟨_, (r.configureAll setters).initFilters_eq qh, ?_⟩
  show ((r.configureAll setters).chain.callAll _).Ready
  rw [configureAll_chain]
  exact (h.callAll _).callAll _

theorem execute6_ready (h : r.chain6.Ready)
    (hout : (r.chain6.member .output).isSome → (r.chain.member .output).isSome) :
    ∃ r', (r.configureAll setters).startUp true qh = .ok r' ∧ (r'.executed true).Ready := by
  obtain ⟨h4, h6⟩ := r.configureAll_member setters .output
  rw [← h4, ← h6] at hout
  obtain ⟨r', hr', hchain⟩ := (r.configureAll setters).init6Filters_eq qh hout
  refine ⟨r', hr', ?_⟩
  show r'.chain6.Ready
  rw [hchain, configureAll_chain6]
  exact (h.callAll _).callAll _

/-- An `output6_` without an `output_`. -/
theorem execute6_null (h4 : r.chain.member .output = none)
    (h6 : (r.chain6.member .output).isSome) :
    (r.configureAll setters).startUp true qh = .error .nullPointer := by
  obtain ⟨p, hp⟩ := Option.isSome_iff_exists.mp h6
  obtain ⟨hm4, hm6⟩ := r.configureAll_member setters .output
  rw [h4] at hm4
  rw [hp] at hm6
  show (r.configureAll setters).init6Filters qh = _
  simp only [init6Filters, RouterChain.tryInit_eq, bind, Except.bind, RouterChain.call_member,
    hm4, hm6]

/-- **The router starts safely** with any list of filters, and with all of them for IPv4.
`start_` is set, every filter behind it that forwards packets has a next one, and no null
pointer is followed on the way; for IPv6 without a list one is. -/
theorem startUp_ready_iff (extIf : String) (filters : Option (Bool × List String))
    (setters : List SetterCall) (ipv6 : Bool) (qh : Nat) :
    (∃ r r', build extIf filters = some r ∧
      (r.configureAll setters).startUp ipv6 qh = .ok r' ∧ (r'.executed ipv6).Ready) ↔
    ¬(filters = none ∧ ipv6 = true) := by
  cases filters with
  | some given =>
    obtain ⟨acceptMode, list⟩ := given
    obtain ⟨r, hr, hready, hready6, hout⟩ := init_ready extIf acceptMode list
    refine iff_of_true ?_ (by simp)
    cases ipv6 with
    | true =>
      obtain ⟨r', hr', h⟩ := execute6_ready setters qh hready6 hout
      exact ⟨r, r', hr, hr', h⟩
    | false =>
      obtain ⟨r', hr', h⟩ := execute_ready setters qh hready
      exact ⟨r, r', hr, hr', h⟩
  | none =>
    obtain ⟨r, hr, hready, -, h4, h6⟩ := initAll_ready extIf
    cases ipv6 with
    | true =>
      refine iff_of_false ?_ (by simp)
      rintro ⟨r₁, r', hr₁, hr', -⟩
      obtain rfl : r = r₁ := Option.some.inj (hr.symm.trans hr₁)
      rw [execute6_null setters qh h4 h6] at hr'
      cases hr'
    | false =>
      obtain ⟨r', hr', h⟩ := execute_ready setters qh hready
      exact iff_of_true ⟨r, r', hr, hr', h⟩ (by simp)

/-- `router --ext-if eth0 --ipv6`: the addresses are set, to nothing, and then
`init6Filters` calls a filter that is not there. -/
theorem startUp_all_ipv6 : ∃ r, build "eth0" none = some r ∧
    (r.configureAll [.setIPs "" ""]).startUp true 0 = .error .nullPointer ∧
    ¬∃ r r', build "eth0" none = some r ∧
      (r.configureAll [.setIPs "" ""]).startUp true 0 = .ok r' ∧ (r'.executed true).Ready := by
  refine ⟨_, rfl, rfl, ?_⟩
  rintro ⟨r, r', hr, hr', -⟩
  obtain rfl := Option.some.inj hr
  cases hr'

end Router
end ShapingRouter
