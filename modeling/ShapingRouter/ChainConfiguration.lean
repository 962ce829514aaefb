import Mathlib
import ShapingRouter.Router

/-! # The chain and the router's members

`Router::init` links a new filter for every element of its list, so the chain is the
list.  But a member of the router keeps the last filter of its type, and the setters
and `init` routines reach no other.  So the filters of the chain are all configured and
initialized just when no type occurs twice (`chain_configured_iff`).

Each chain is built in the order of its list, so the pointer of a filter is its place in
the list (`ChainBuilder.Built`).  After that, nothing but calls is made on the filters
(`RouterChain.callAll`).
-/

namespace ShapingRouter
open Library

/-- No element of the list comes again iff none is found behind itself. -/
theorem nodup_iff_not_mem_drop {α : Type} {l : List α} :
    l.Nodup ↔ ∀ (i : Nat) (a : α), l[i]? = some a → a ∉ l.drop (i + 1) := by
  induction l with
  | nil => simp
  | cons b l ih =>
    rw [List.nodup_cons, ih]
    constructor
    · rintro ⟨hb, hl⟩ i a hi
      cases i with
      | zero =>
        obtain rfl := Option.some.inj hi
        exact hb
      | succ i => exact hl i a hi
    · intro h
      exact ⟨h 0 b rfl, fun i a hi => h (i + 1) a hi⟩

/-- An element of the list is found somewhere for the last time. -/
theorem exists_last_occurrence {α : Type} {a : α} {l : List α} (h : a ∈ l) :
    ∃ i : Nat, l[i]? = some a ∧ a ∉ l.drop (i + 1) := by
  induction l with
  | nil => cases h
  | cons b l ih =>
    by_cases hl : a ∈ l
    · obtain ⟨i, hi, hdrop⟩ := ih hl
      exact ⟨i + 1, hi, hdrop⟩
    · rcases List.mem_cons.mp h with rfl | hmem
      · exact ⟨0, rfl, hl⟩
      · exact absurd hmem hl

/-- Two new ends. -/
theorem nodup_ends {α : Type} {a b : α} {l : List α} (ha : a ∉ l) (hb : b ∉ l) (hab : a ≠ b) :
    (a :: l ++ [b]).Nodup ↔ l.Nodup := by
  rw [List.nodup_append_comm, List.singleton_append, List.nodup_cons, List.nodup_cons,
    List.mem_cons, not_or]
  exact ⟨fun h => h.2.2, fun h => ⟨⟨Ne.symm hab, hb⟩, ha, h⟩⟩

/-! ## Building -/

namespace ChainBuilder

/-- The chain holds one filter for each of the names, in their order, and a member
holds the last filter of its name. -/
structure Built (cls : FilterName → FilterClass) (names : List FilterName) (b : ChainBuilder) :
    Prop where
  nonempty : 0 < names.length
  size : b.chain.filters.next = names.length
  object : ∀ i name, names[i]? = some name → b.chain.filters.objects i =
    some { cls := cls name, next := if i + 1 < names.length then some (i + 1) else none }
  start : b.chain.start = some 0
  last : b.last = some (names.length - 1)
  member : ∀ name p, b.chain.member name = some p ↔
    names[p]? = some name ∧ name ∉ names.drop (p + 1)

variable {cls : FilterName → FilterClass} {names : List FilterName} {b : ChainBuilder}

theorem built_first (name : FilterName) : (first ⟨{}, none⟩ name (cls name)).Built cls [name] where
  nonempty := Nat.one_pos
  size := rfl
  object i name' hi := by
    cases i with
    | zero =>
      obtain rfl := Option.some.inj hi
      rfl
    | succ i => cases hi
  start := rfl
  last := rfl
  member name' p := by
    show Function.update (fun _ => none) name (some 0) name' = some p ↔ _
    rw [Function.update_apply]
    cases p with
    | zero => simp [eq_comm]
    | succ p => simp

/-- What the heap holds once one more filter is linked to the last one. -/
theorem Built.append_objects (hb : b.Built cls names) (name : FilterName) {i : Nat}
    {name' : FilterName} (hi : (names ++ [name])[i]? = some name') :
    ((b.chain.filters.alloc { cls := cls name }).modify (names.length - 1)
      (·.setNext names.length)).objects i =
    some { cls := cls name', next := if i + 1 < names.length + 1 then some (i + 1) else none } := by
  have hpos := hb.nonempty
  rw [Heap.modify_objects, Heap.alloc_objects, Heap.alloc_objects, hb.size]
  rcases Nat.lt_trichotomy i names.length with hlt | rfl | hgt
  · rw [List.getElem?_append_left hlt] at hi
    have hobj := hb.object i name' hi
    by_cases hi' : i = names.length - 1
    · -- the filter that was the last one now has a next one
      subst hi'
      rw [if_pos rfl, if_neg (by omega), hobj]
      simp only [Option.map_some, FilterObject.setNext]
      rw [Nat.sub_add_cancel hpos, if_pos (by omega)]
    · rw [if_neg hi', if_neg (by omega), hobj, if_pos (by omega), if_pos (by omega)]
  · rw [List.getElem?_append_right (Nat.le_refl _), Nat.sub_self] at hi
    obtain rfl := Option.some.inj hi
    rw [if_neg (by omega), if_pos rfl, if_neg (by omega)]
  · rw [List.getElem?_eq_none (by simpa using hgt)] at hi
    cases hi

/-- Its member holds it, and the other members hold what they held. -/
theorem Built.append_member (hb : b.Built cls names) (name name' : FilterName) (p : FilterPtr) :
    Function.update b.chain.member name (some names.length) name' = some p ↔
      (names ++ [name])[p]? = some name' ∧ name' ∉ (names ++ [name]).drop (p + 1) := by
  have hlen : (names ++ [name]).length = names.length + 1 := by simp
  rw [Function.update_apply]
  rcases Nat.lt_trichotomy p names.length with hlt | rfl | hgt
  · rw [List.getElem?_append_left hlt, List.drop_append_of_le_length (by omega)]
    by_cases hname : name' = name
    · subst hname
      simp only [if_true, Option.some.injEq, List.mem_append, List.mem_singleton, or_true,
        not_true_eq_false, and_false, iff_false]
      exact Nat.ne_of_gt hlt
    · rw [if_neg hname, hb.member]
      simp [hname]
  · rw [List.getElem?_append_right (Nat.le_refl _), Nat.sub_self, List.drop_eq_nil_of_le (by omega)]
    by_cases hname : name' = name
    · simp [hname]
    · rw [if_neg hname, hb.member, List.getElem?_eq_none (Nat.le_refl _)]
      simp [Ne.symm hname]
  · rw [List.getElem?_eq_none (by omega)]
    by_cases hname : name' = name
    · simp only [hname, if_true, Option.some.injEq, reduceCtorEq, false_and, iff_false]
      exact Nat.ne_of_lt hgt
    · rw [if_neg hname, hb.member, List.getElem?_eq_none (by omega)]
      simp

/-- One more filter. -/
theorem Built.append (hb : b.Built cls names) (name : FilterName) :
    ∃ b', b.append name (cls name) = some b' ∧ b'.Built cls (names ++ [name]) := by
  have hlen : (names ++ [name]).length = names.length + 1 := by simp
  simp only [ChainBuilder.append, hb.last, hb.size]
  refine ⟨_, rfl, by omega, ?_, fun i name' hi => ?_, hb.start, by simp, hb.append_member name⟩
  · exact (congrArg (· + 1) hb.size).trans hlen.symm
  · rw [hlen]
    exact hb.append_objects name hi

end ChainBuilder

namespace RouterBuilder

/-- The names in the IPv6 chain. -/
def names6 (names : List FilterName) : List FilterName := names.filter (· ≠ .nat)

/-- Both chains are built for a list of names, the IPv6 chain without the `Nat`s. -/
structure Built (names : List FilterName) (b : RouterBuilder) : Prop where
  v4 : b.v4.Built FilterName.cls names
  v6 : b.v6.Built FilterName.cls6 (names6 names)

variable {names : List FilterName} {b : RouterBuilder}

/-- One more element of the list. -/
theorem Built.add (hb : b.Built names) {name : FilterName}
    (hname : name ≠ .input ∧ name ≠ .inputDrop) :
    ∃ b', b.add name.toString = some b' ∧ b'.Built (names ++ [name]) := by
  obtain ⟨v4, h4, hb4⟩ := hb.v4.append name
  by_cases hnat : name = .nat
  · subst hnat
    refine ⟨⟨v4, b.v6⟩, ?_, hb4, by simpa [names6] using hb.v6⟩
    show b.append4 .nat = _
    simp [append4, h4]
  · obtain ⟨v6, h6, hb6⟩ := hb.v6.append name
    refine ⟨⟨v4, v6⟩, ?_, hb4, by simpa [names6, hnat] using hb6⟩
    have hadd : b.add name.toString = b.append name := by
      cases name with
      | input => exact absurd rfl hname.1
      | inputDrop => exact absurd rfl hname.2
      | nat => exact absurd rfl hnat
      | burst | loss | staticDelay | tokenBucketFilter | dynamicDelay | dynamicLoss | output
      | outputLibnet => rfl
    rw [hadd]
    simp [append, h4, h6]

/-- The rest of the list. -/
theorem Built.addAll (hb : b.Built names) {rest : List FilterName}
    (hrest : ∀ name ∈ rest, name ≠ .input ∧ name ≠ .inputDrop) :
    ∃ b', (rest.map (·.toString)).foldlM RouterBuilder.add b = some b' ∧
      b'.Built (names ++ rest) := by
  induction rest generalizing names b with
  | nil => exact ⟨b, rfl, by simpa using hb⟩
  | cons name rest ih =>
    obtain ⟨b₁, h₁, hb₁⟩ := hb.add (hrest name List.mem_cons_self)
    obtain ⟨b', h', hb'⟩ := ih hb₁ fun n hn => hrest n (List.mem_cons_of_mem _ hn)
    refine ⟨b', ?_, by simpa using hb'⟩
    rw [List.map_cons, List.foldlM_cons, h₁]
    exact h'

/-- A list that begins with an input filter, from nothing on. -/
theorem exists_built {head : FilterName} {rest : List FilterName}
    (hhead : head = .input ∨ head = .inputDrop)
    (hrest : ∀ name ∈ rest, name ≠ .input ∧ name ≠ .inputDrop) :
    ∃ b : RouterBuilder, b.Built (head :: rest) ∧
      ((head :: rest).map (·.toString)).foldlM RouterBuilder.add ⟨⟨{}, none⟩, ⟨{}, none⟩⟩ =
        some b := by
  have hfirst : (RouterBuilder.first ⟨⟨{}, none⟩, ⟨{}, none⟩⟩ head).Built [head] := by
    refine ⟨ChainBuilder.built_first head, ?_⟩
    rw [show names6 [head] = [head] by rcases hhead with rfl | rfl <;> rfl]
    exact ChainBuilder.built_first head
  have hadd : RouterBuilder.add ⟨⟨{}, none⟩, ⟨{}, none⟩⟩ head.toString =
      some (RouterBuilder.first ⟨⟨{}, none⟩, ⟨{}, none⟩⟩ head) := by
    rcases hhead with rfl | rfl <;> rfl
  obtain ⟨b, hb, hbuilt⟩ := hfirst.addAll hrest
  refine ⟨b, hbuilt, ?_⟩
  rw [List.map_cons, List.foldlM_cons, hadd]
  exact hb

end RouterBuilder

/-- The names of a whole chain. -/
def wrapped (acceptMode : Bool) (L : List FilterName) : List FilterName :=
  if acceptMode then .input :: L ++ [.output] else .inputDrop :: L ++ [.outputLibnet]

theorem mainFilters_names (acceptMode : Bool) (L : List FilterName) :
    mainFilters acceptMode (L.map (·.toString)) = (wrapped acceptMode L).map (·.toString) := by
  cases acceptMode <;> simp [mainFilters, wrapped, FilterName.toString]

/-- **`Router::init` builds both chains** for what `main` passes on. -/
theorem Router.init_built (extIf : String) (acceptMode : Bool) {L : List FilterName}
    (hL : ∀ name ∈ L, name.Selectable) :
    ∃ (b : RouterBuilder) (r : Router), b.Built (wrapped acceptMode L) ∧ r.chain = b.v4.chain ∧
      r.chain6 = b.v6.chain ∧
      Router.init {} extIf (mainFilters acceptMode (L.map (·.toString))) = some r := by
  have hrest : ∀ last, last ≠ .input ∧ last ≠ .inputDrop → ∀ name ∈ L ++ [last],
      name ≠ FilterName.input ∧ name ≠ .inputDrop := by
    intro last hlast name hname
    rcases List.mem_append.mp hname with h | h
    · have hsel := hL name h
      constructor
      · rintro rfl
        exact hsel
      · rintro rfl
        exact hsel
    · obtain rfl := List.mem_singleton.mp h
      exact hlast
  have hall : ∃ b : RouterBuilder, b.Built (wrapped acceptMode L) ∧
      ((wrapped acceptMode L).map (·.toString)).foldlM RouterBuilder.add
        ⟨⟨{}, none⟩, ⟨{}, none⟩⟩ = some b := by
    cases acceptMode with
    | true => exact RouterBuilder.exists_built (Or.inl rfl) (hrest .output (by decide))
    | false => exact RouterBuilder.exists_built (Or.inr rfl) (hrest .outputLibnet (by decide))
  obtain ⟨b, hbuilt, hb⟩ := hall
  refine ⟨b, ⟨true, extIf, b.v4.chain, b.v6.chain⟩, hbuilt, rfl, rfl, ?_⟩
  rw [Router.init, mainFilters_names, hb]
  rfl

/-! ## Calls -/

namespace RouterChain

/-- Calls made through the members, one after the other. -/
def callAll (c : RouterChain) (calls : List (FilterName × FilterCall)) : RouterChain :=
  calls.foldl (fun c k => c.call k.1 k.2) c

variable (c : RouterChain)

@[simp] theorem call_member (name : FilterName) (call : FilterCall) :
    (c.call name call).member = c.member := by
  unfold RouterChain.call
  split <;> rfl

@[simp] theorem call_start (name : FilterName) (call : FilterCall) :
    (c.call name call).start = c.start := by
  unfold RouterChain.call
  split <;> rfl

theorem call_objects (name : FilterName) (call : FilterCall) (p : FilterPtr) :
    (c.call name call).filters.objects p =
      if c.member name = some p then (c.filters.objects p).map (·.record call)
      else c.filters.objects p := by
  unfold RouterChain.call
  split
  · rename_i q hq
    simp only [Heap.modify_objects, hq, Option.some.injEq]
    by_cases hp : p = q
    · rw [if_pos hp, if_pos hp.symm, hp]
    · rw [if_neg hp, if_neg (Ne.symm hp)]
  · rename_i hnone
    rw [hnone, if_neg (by simp)]

variable (calls : List (FilterName × FilterCall))

@[simp] theorem callAll_member : (c.callAll calls).member = c.member := by
  induction calls generalizing c with
  | nil => rfl
  | cons k calls ih => exact (ih _).trans (c.call_member k.1 k.2)

@[simp] theorem callAll_start : (c.callAll calls).start = c.start := by
  induction calls generalizing c with
  | nil => rfl
  | cons k calls ih => exact (ih _).trans (c.call_start k.1 k.2)

/-- **A filter has got the calls made through the members that hold it.** -/
theorem callAll_objects (p : FilterPtr) :
    (c.callAll calls).filters.objects p = (c.filters.objects p).map fun o =>
      { o with calls := o.calls ++ (calls.filter (c.member ·.1 = some p)).map (·.2) } := by
  induction calls generalizing c with
  | nil => simp [callAll]
  | cons k calls ih =>
    show ((c.call k.1 k.2).callAll calls).filters.objects p = _
    rw [ih, call_objects, call_member, List.filter_cons]
    by_cases hk : c.member k.1 = some p
    · simp only [hk, if_true, decide_true, Option.map_map, Function.comp_def, FilterObject.record,
        List.map_cons, List.append_assoc, List.singleton_append]
    · simp only [hk, if_false, decide_false, Bool.false_eq_true]

theorem callAll_append (more : List (FilterName × FilterCall)) :
    c.callAll (calls ++ more) = (c.callAll calls).callAll more := List.foldl_append ..

/-- No `init` answers false. -/
theorem tryInit_eq (name : FilterName) : c.tryInit name = .ok (c.call name .init) := by
  unfold tryInit
  split
  · rename_i p hp
    rw [if_pos]
    cases c.filters.objects p with
    | none => rfl
    | some o => cases hcls : o.cls <;> simp [hcls, FilterClass.initAnswer]
  · rename_i hnone
    rw [RouterChain.call, hnone]

end RouterChain

/-- The calls that the setters make. -/
def setterCalls (setters : List SetterCall) : List (FilterName × FilterCall) :=
  setters.map fun call => (call.filter, .setter call)

/-- The calls that `initFilters` makes. -/
def initCalls (qh : Nat) : List (FilterName × FilterCall) :=
  [(.input, .init), (.inputDrop, .setQH qh), (.inputDrop, .init), (.staticDelay, .init),
    (.dynamicDelay, .init), (.dynamicLoss, .init), (.loss, .init), (.nat, .init), (.burst, .init),
    (.tokenBucketFilter, .init), (.output, .setQH qh), (.output, .init), (.outputLibnet, .init)]

/-- The calls that `init6Filters` makes on the IPv6 chain. -/
def initCalls6 (qh : Nat) : List (FilterName × FilterCall) :=
  [(.input, .init), (.inputDrop, .setQH qh), (.inputDrop, .init), (.staticDelay, .init),
    (.dynamicDelay, .init), (.dynamicLoss, .init), (.loss, .init), (.burst, .init),
    (.tokenBucketFilter, .init), (.output, .init), (.outputLibnet, .init)]

namespace Router
variable (r : Router) (setters : List SetterCall) (qh : Nat)

theorem configure_eq (call : SetterCall) :
    r.configure call = if call.filter = .nat then r.setOne call else r.setBoth call := by
  cases call <;> rfl

theorem configureAll_chain :
    (r.configureAll setters).chain = r.chain.callAll (setterCalls setters) := by
  induction setters generalizing r with
  | nil => rfl
  | cons call setters ih =>
    refine (ih _).trans ?_
    rw [configure_eq]
    split <;> rfl

theorem configureAll_chain6 : (r.configureAll setters).chain6 =
    r.chain6.callAll (setterCalls (setters.filter (·.filter ≠ .nat))) := by
  induction setters generalizing r with
  | nil => rfl
  | cons call setters ih =>
    refine (ih _).trans ?_
    rw [configure_eq, List.filter_cons]
    by_cases hnat : call.filter = .nat
    · simp [hnat, setOne]
    · simp [hnat, setBoth, setterCalls, RouterChain.callAll]

theorem initFilters_eq :
    r.initFilters qh = .ok { r with chain := r.chain.callAll (initCalls qh) } := by
  simp only [initFilters, RouterChain.tryInit_eq]
  rfl

theorem init6Filters_eq (hout : (r.chain6.member .output).isSome → (r.chain.member .output).isSome) :
    ∃ r', r.init6Filters qh = .ok r' ∧ r'.chain6 = r.chain6.callAll (initCalls6 qh) := by
  simp only [init6Filters, RouterChain.tryInit_eq, bind, Except.bind, RouterChain.call_member]
  cases h6 : r.chain6.member .output with
  | none => exact ⟨_, rfl, rfl⟩
  | some p6 =>
    cases h4 : r.chain.member .output with
    | none =>
      rw [h6, h4] at hout
      cases hout rfl
    | some p4 => exact ⟨_, rfl, rfl⟩

end Router

/-! ## What is visited -/

/-- A chain whose filters lie one behind the other in the heap is visited in that
order. -/
theorem RouterChain.visits_of_indexed {c : RouterChain} {os : List FilterObject}
    (hobj : ∀ (i : Nat) (o : FilterObject), os[i]? = some o → c.filters.objects i = some o ∧
      o.next = if i + 1 < os.length then some (i + 1) else none) (k : Nat) (hk : k ≤ os.length) :
    c.Visits (if k < os.length then some k else none) (os.drop k) := by
  induction hd : os.length - k generalizing k with
  | zero =>
    rw [if_neg (by omega), List.drop_eq_nil_of_le (by omega)]
    exact .nil
  | succ d ih =>
    have hlt : k < os.length := by omega
    obtain ⟨hk', hnext⟩ := hobj k os[k] (List.getElem?_eq_getElem hlt)
    rw [if_pos hlt, List.drop_eq_getElem_cons hlt]
    refine .cons hk' ?_
    rw [hnext]
    exact ih (k + 1) (by omega) (by omega)

/-- Of the calls for `name`, the setters and `init`. -/
structure Configures (calls : List (FilterName × FilterCall)) (setters : List SetterCall)
    (name : FilterName) : Prop where
  given : ((calls.filter (·.1 = name)).map (·.2)).filterMap FilterCall.setter? =
    setters.filter (·.filter = name)
  inited : .init ∈ (calls.filter (·.1 = name)).map (·.2)

namespace ChainBuilder
variable {cls : FilterName → FilterClass} {names : List FilterName} {b : ChainBuilder}
  {calls : List (FilterName × FilterCall)} {setters : List SetterCall}

/-- The filter at place `i`, with the calls that it got: all those for its name, if it is
the one that the member holds, and else none. -/
def called (b : ChainBuilder) (cls : FilterName → FilterClass) (names : List FilterName)
    (calls : List (FilterName × FilterCall)) (i : Nat) (name : FilterName) : FilterObject where
  cls := cls name
  next := if i + 1 < names.length then some (i + 1) else none
  calls := if b.chain.member name = some i then (calls.filter (·.1 = name)).map (·.2) else []

theorem Built.objects_callAll (hb : b.Built cls names) {i : Nat} {name : FilterName}
    (hi : names[i]? = some name) :
    (b.chain.callAll calls).filters.objects i = some (b.called cls names calls i name) := by
  -- a member that holds this filter is the one for its name
  have hname : ∀ other, b.chain.member other = some i → other = name := by
    intro other hother
    have h := ((hb.member other i).mp hother).1
    rw [hi] at h
    exact (Option.some.inj h).symm
  rw [RouterChain.callAll_objects, hb.object i name hi]
  simp only [Option.map_some, called, List.nil_append, Option.some.injEq, FilterObject.mk.injEq,
    true_and]
  by_cases hheld : b.chain.member name = some i
  · rw [if_pos hheld]
    refine congrArg (List.map Prod.snd) (List.filter_congr fun k _ => ?_)
    rw [decide_eq_decide]
    constructor
    · exact hname k.1
    · intro hk
      rw [hk, hheld]
  · rw [if_neg hheld, List.map_eq_nil_iff, List.filter_eq_nil_iff]
    intro k _ hk
    have hk : b.chain.member k.1 = some i := of_decide_eq_true hk
    rw [← hname k.1 hk] at hheld
    exact hheld hk

/-- A filter is configured iff the member holds it, that is iff its name does not come
again. -/
theorem Built.configured_at_iff (hb : b.Built cls names) {i : Nat} {name : FilterName}
    (hi : names[i]? = some name) (hcalls : Configures calls setters name)
    (hcls : ∀ call ∈ setters, call.filter.cls = cls name ↔ call.filter = name) :
    (b.called cls names calls i name).Configured setters ↔ name ∉ names.drop (i + 1) := by
  by_cases hheld : b.chain.member name = some i
  · refine iff_of_true ⟨?_, ?_⟩ ((hb.member name i).mp hheld).2
    · simp only [called, if_pos hheld]
      refine hcalls.given.trans ?_
      refine List.filter_congr fun call hcall => ?_
      rw [decide_eq_decide]
      exact (hcls call hcall).symm
    · simp only [called, if_pos hheld]
      exact hcalls.inited
  · refine iff_of_false (fun hconf => ?_) fun hdrop => hheld ((hb.member name i).mpr ⟨hi, hdrop⟩)
    have hinit := hconf.inited
    simp only [called, if_neg hheld] at hinit
    cases hinit

/-- **Which filters of a chain are configured**, after calls that have for each of its
names the setters and `init`. -/
theorem Built.configured_iff (hb : b.Built cls names) (calls : List (FilterName × FilterCall))
    (setters : List SetterCall) (hcalls : ∀ name ∈ names, Configures calls setters name)
    (hcls : ∀ name ∈ names, ∀ call ∈ setters, call.filter.cls = cls name ↔ call.filter = name) :
    ∃ os, (b.chain.callAll calls).Visits (b.chain.callAll calls).start os ∧
      os.map (·.cls) = names.map cls ∧ ((∀ o ∈ os, o.Configured setters) ↔ names.Nodup) := by
  have hget : ∀ (i : Nat) (o : FilterObject), (names.mapIdx (b.called cls names calls))[i]? = some o →
      ∃ name, names[i]? = some name ∧ o = b.called cls names calls i name := by
    intro i o ho
    rw [List.getElem?_mapIdx] at ho
    obtain ⟨name, hi, rfl⟩ := Option.map_eq_some_iff.mp ho
    exact ⟨name, hi, rfl⟩
  have hlen : (names.mapIdx (b.called cls names calls)).length = names.length := List.length_mapIdx
  refine ⟨names.mapIdx (b.called cls names calls), ?_, ?_, ?_⟩
  · rw [RouterChain.callAll_start, hb.start]
    have hvisits := RouterChain.visits_of_indexed (c := b.chain.callAll calls)
      (fun i o ho => ?_) 0 (Nat.zero_le (names.mapIdx (b.called cls names calls)).length)
    · rwa [hlen, if_pos hb.nonempty, List.drop_zero] at hvisits
    · obtain ⟨name, hi, rfl⟩ := hget i o ho
      refine ⟨hb.objects_callAll hi, ?_⟩
      rw [hlen]
      rfl
  · refine List.ext_getElem? fun i => ?_
    simp only [List.getElem?_map, List.getElem?_mapIdx, Option.map_map]
    rfl
  · rw [nodup_iff_not_mem_drop]
    constructor
    · intro hall i name hi
      have hmem : name ∈ names := List.mem_of_getElem? hi
      refine (hb.configured_at_iff hi (hcalls name hmem) (hcls name hmem)).mp (hall _ ?_)
      refine List.mem_of_getElem? (i := i) ?_
      rw [List.getElem?_mapIdx, hi]
      rfl
    · intro hnodup o ho
      obtain ⟨i, ho⟩ := List.getElem?_of_mem ho
      obtain ⟨name, hi, rfl⟩ := hget i o ho
      have hmem : name ∈ names := List.mem_of_getElem? hi
      exact (hb.configured_at_iff hi (hcalls name hmem) (hcls name hmem)).mpr (hnodup i name hi)

end ChainBuilder

/-! ## The calls that are made -/

theorem FilterName.cls_inj {name name' : FilterName} : name.cls = name'.cls ↔ name = name' := by
  cases name <;> cases name' <;> simp [cls]

theorem FilterName.cls6_eq {name : FilterName} (h : name ≠ .outputLibnet) :
    name.cls6 = name.cls := by
  cases name with
  | outputLibnet => exact absurd rfl h
  | input | inputDrop | burst | loss | staticDelay | nat | tokenBucketFilter | dynamicDelay
  | dynamicLoss | output => rfl

/-- A setter is for one class, in the IPv6 chain too. -/
theorem SetterCall.cls6_iff (call : SetterCall) (name : FilterName) :
    call.filter.cls = name.cls6 ↔ call.filter = name := by
  by_cases hname : name = .outputLibnet
  · subst hname
    cases call <;> simp [filter, FilterName.cls, FilterName.cls6]
  · rw [FilterName.cls6_eq hname]
    exact FilterName.cls_inj

/-- Setter calls, of which those for `name` are `setters`, and then calls that are no
setters. -/
theorem configures_append {given setters : List SetterCall} {inits : List (FilterName × FilterCall)}
    {name : FilterName} (hgiven : given.filter (·.filter = name) = setters.filter (·.filter = name))
    (hsetter : ∀ k ∈ inits, k.2.setter? = none) (hinit : (name, .init) ∈ inits) :
    Configures (setterCalls given ++ inits) setters name := by
  refine ⟨?_, ?_⟩
  · have hnone : ((inits.filter (·.1 = name)).map (·.2)).filterMap FilterCall.setter? = [] := by
      refine List.filterMap_eq_nil_iff.mpr fun call hcall => ?_
      obtain ⟨k, hk, rfl⟩ := List.mem_map.mp hcall
      exact hsetter k (List.mem_of_mem_filter hk)
    rw [List.filter_append, List.map_append, List.filterMap_append, hnone, List.append_nil, ← hgiven]
    clear hgiven
    induction given with
    | nil => rfl
    | cons call given ih =>
      simp only [setterCalls, List.map_cons, List.filter_cons] at ih ⊢
      by_cases hname : call.filter = name
      · simpa [hname, FilterCall.setter?] using ih
      · simpa [hname] using ih
  · refine List.mem_map.mpr ⟨(name, .init), ?_, rfl⟩
    exact List.mem_filter.mpr ⟨List.mem_append_right _ hinit, decide_eq_true rfl⟩

/-- The filters that `main` adds are not among those of the list. -/
theorem nodup_wrapped (acceptMode : Bool) {L : List FilterName}
    (hL : ∀ name ∈ L, name.Selectable) : (wrapped acceptMode L).Nodup ↔ L.Nodup := by
  have hnot : ∀ name, ¬ FilterName.Selectable name → name ∉ L :=
    fun name hsel hmem => hsel (hL name hmem)
  cases acceptMode with
  | true => exact nodup_ends (hnot .input id) (hnot .output id) (by decide)
  | false => exact nodup_ends (hnot .inputDrop id) (hnot .outputLibnet id) (by decide)

theorem mem_initCalls (name : FilterName) (qh : Nat) : (name, .init) ∈ initCalls qh := by
  cases name <;> simp [initCalls]

theorem mem_initCalls6 {name : FilterName} (hnat : name ≠ .nat) (qh : Nat) :
    (name, .init) ∈ initCalls6 qh := by
  cases name with
  | nat => exact absurd rfl hnat
  | input | inputDrop | burst | loss | staticDelay | tokenBucketFilter | dynamicDelay
  | dynamicLoss | output | outputLibnet => simp [initCalls6]

namespace RouterBuilder
variable {names : List FilterName} {b : RouterBuilder} {r : Router}

/-- The IPv4 chain after any setters and the calls of `initFilters`. -/
theorem Built.configured4 (hb : b.Built names) (hchain : r.chain = b.v4.chain)
    (setters : List SetterCall) (qh : Nat) :
    ∃ os, ((r.configureAll setters).chain.callAll (initCalls qh)).Visits
        ((r.configureAll setters).chain.callAll (initCalls qh)).start os ∧
      os.map (·.cls) = names.map FilterName.cls ∧
      ((∀ o ∈ os, o.Configured setters) ↔ names.Nodup) := by
  have hconf := hb.v4.configured_iff (setterCalls setters ++ initCalls qh) setters
    (fun name _ => configures_append rfl (by simp [initCalls, FilterCall.setter?])
      (mem_initCalls name qh)) (fun name _ call _ => FilterName.cls_inj)
  rwa [RouterChain.callAll_append, ← hchain, ← Router.configureAll_chain] at hconf

/-- The IPv6 chain after any setters and the calls of `init6Filters`.  It has no `Nat`, so
it does not miss the setters for one. -/
theorem Built.configured6 (hb : b.Built names) (hchain : r.chain6 = b.v6.chain)
    (setters : List SetterCall) (qh : Nat) :
    ∃ os, ((r.configureAll setters).chain6.callAll (initCalls6 qh)).Visits
        ((r.configureAll setters).chain6.callAll (initCalls6 qh)).start os ∧
      os.map (·.cls) = (names6 names).map FilterName.cls6 ∧
      ((∀ o ∈ os, o.Configured setters) ↔ (names6 names).Nodup) := by
  have hnat : ∀ name ∈ names6 names, name ≠ .nat := by
    intro name hname
    simpa [names6] using (List.mem_filter.mp hname).2
  have hgiven : ∀ name ∈ names6 names, (setters.filter (·.filter ≠ .nat)).filter (·.filter = name) =
      setters.filter (·.filter = name) := by
    intro name hname
    rw [List.filter_filter]
    refine List.filter_congr fun call _ => ?_
    by_cases hcall : call.filter = name
    · simp [hcall, hnat name hname]
    · simp [hcall]
  have hconf := hb.v6.configured_iff
    (setterCalls (setters.filter (·.filter ≠ .nat)) ++ initCalls6 qh) setters
    (fun name hname => configures_append (hgiven name hname)
      (by simp [initCalls6, FilterCall.setter?]) (mem_initCalls6 (hnat name hname) qh))
    (fun name _ call _ => call.cls6_iff name)
  rwa [RouterChain.callAll_append, ← hchain, ← Router.configureAll_chain6] at hconf

/-- Where there is an `output6_` there is an `output_`. -/
theorem Built.output_of_output6 (hb : b.Built names) (h4 : r.chain = b.v4.chain)
    (h6 : r.chain6 = b.v6.chain) (setters : List SetterCall) :
    ((r.configureAll setters).chain6.member .output).isSome →
      ((r.configureAll setters).chain.member .output).isSome := by
  rw [Router.configureAll_chain, Router.configureAll_chain6, RouterChain.callAll_member,
    RouterChain.callAll_member, h4, h6, Option.isSome_iff_exists, Option.isSome_iff_exists]
  rintro ⟨p, hp⟩
  have hmem := List.mem_of_getElem? ((hb.v6.member _ _).mp hp).1
  obtain ⟨i, hi⟩ := exists_last_occurrence (List.mem_of_mem_filter hmem)
  exact ⟨i, (hb.v4.member _ _).mpr hi⟩

end RouterBuilder

/-- **The chain is the list, and it is configured if nothing is listed twice.**  For
what `main` passes on, both chains have one filter for each element of the list, in its
order, the IPv6 chain without the `Nat`s; and after any setters and `initFilters`, or
`init6Filters`, every filter of either chain is configured and initialized iff no filter
is listed twice. -/
theorem chain_configured_iff (extIf : String) (acceptMode : Bool)
    (L : List {name : FilterName // name.Selectable}) (setters : List SetterCall) (qh : Nat) :
    ∃ (r r₄ r₆ : Router) (os os₆ : List FilterObject),
      Router.init {} extIf (mainFilters acceptMode (L.map (·.1.toString))) = some r ∧
      (r.configureAll setters).initFilters qh = .ok r₄ ∧
      (r.configureAll setters).init6Filters qh = .ok r₆ ∧
      r₄.chain.Visits r₄.chain.start os ∧ r₆.chain6.Visits r₆.chain6.start os₆ ∧
      os.map (·.cls) = (wrapped acceptMode (L.map (·.1))).map FilterName.cls ∧
      os₆.map (·.cls) = (RouterBuilder.names6 (wrapped acceptMode (L.map (·.1)))).map
        FilterName.cls6 ∧
      ((∀ o ∈ os ++ os₆, o.Configured setters) ↔ L.Nodup) := by
  have hL : ∀ name ∈ L.map (·.1), name.Selectable := by
    intro name hname
    obtain ⟨⟨_, hsel⟩, -, rfl⟩ := List.mem_map.mp hname
    exact hsel
  obtain ⟨b, r, hb, h4, h6, hr⟩ := Router.init_built extIf acceptMode hL
  have hnodup := nodup_wrapped acceptMode hL
  rw [List.nodup_map_iff Subtype.val_injective] at hnodup
  obtain ⟨os, hvisits, hcls, hconf⟩ := hb.configured4 h4 setters qh
  obtain ⟨os₆, hvisits₆, hcls₆, hconf₆⟩ := hb.configured6 h6 setters qh
  obtain ⟨r₆, hr₆, hchain₆⟩ := (r.configureAll setters).init6Filters_eq qh
    (hb.output_of_output6 h4 h6 setters)
  rw [← hchain₆] at hvisits₆
  refine ⟨r, _, r₆, os, os₆, ?_, (r.configureAll setters).initFilters_eq qh, hr₆, hvisits, hvisits₆,
    hcls, hcls₆, ?_⟩
  · rw [← hr, List.map_map]
    rfl
  · rw [List.forall_mem_append, hconf, hconf₆, ← hnodup]
    exact ⟨fun h => h.1, fun h => ⟨h, h.filter _⟩⟩

/-- **A delay filter that is linked and never initialized**: of two that are listed, the
first gets neither the setter call nor `init`. -/
theorem listed_twice_unconfigured :
    ∃ (r r₄ : Router) (os : List FilterObject),
      Router.init {} "eth0" (mainFilters false ["StaticDelay", "StaticDelay"]) = some r ∧
      (r.configureAll [.setDelay 5]).initFilters 0 = .ok r₄ ∧
      r₄.chain.Visits r₄.chain.start os ∧
      os[1]? = some { cls := .StaticDelay, next := some 2, calls := [] } ∧
      ¬ ∀ o ∈ os, o.Configured [.setDelay 5] := by
  refine ⟨_, _, [{ cls := .InputDrop, next := some 1, calls := [.setQH 0, .init] },
    { cls := .StaticDelay, next := some 2, calls := [] },
    { cls := .StaticDelay, next := some 3, calls := [.setter (.setDelay 5), .init] },
    { cls := .OutputLibnet, next := none, calls := [.init] }], rfl, rfl, ?_, rfl, fun hall => ?_⟩
  · exact .cons rfl (.cons rfl (.cons rfl (.cons rfl .nil)))
  · have hinit := (hall { cls := .StaticDelay, next := some 2, calls := [] } (by decide)).inited
    cases hinit

end ShapingRouter
