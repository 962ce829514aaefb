import Mathlib
import ShapingRouter.CommandLine
import ShapingRouter.DelayCurve
import ShapingRouter.LockedChain

/-! # The chain that a command line starts

`Router` knows of a filter only which calls were made on it.  Here the calls are made on
the filters' own models: `FilterObject.filter` is what a filter has become by them.  So
the chain that `main` executes is one that `LockedChain` starts from, and each filter in
it is set as its own options say, and by nothing else (`main_starts_chain`).
-/

namespace ShapingRouter
open Library Std

/-! ## What calls make of a filter -/

/-- What filters take from elsewhere: what `inet_network` makes of an address, what
the constructors leave in memory, the clock, and whether libnet gives a handle. -/
structure Surroundings where
  inetNetwork : String → UInt32
  ipExt : UInt32
  ipInt : UInt32
  currentLoss : ℚ
  currentIndex : Nat
  inStart : UInt64
  outStart : UInt64
  inReads : TokenBucketFilter.Readings
  outReads : TokenBucketFilter.Readings
  libnet : Bool

/-- A setter of `Nat`. -/
def NatConfig.set (c : NatConfig) (env : Surroundings) : SetterCall → NatConfig
  | .setIPs ipExt ipInt => c.setIPs (env.inetNetwork ipExt) (env.inetNetwork ipInt)
  | .setDnatRule ip extPort intPort => c.setDnatRule (env.inetNetwork ip) extPort intPort
  | .setNatType type => c.setNatType type
  | .setTimeout timeout => c.setTimeout timeout
  | _ => c

/-- A setter of `TokenBucketFilter`. -/
def TokenBucketFilter.set {π : Type} (f : TokenBucketFilter π) : SetterCall → TokenBucketFilter π
  | .setInRateLimit rate => { f with inTb := f.inTb.setDataRate rate }
  | .setInMaxTokens t => { f with inTb := f.inTb.setMaxTokens t }
  | .setInMaxPackets p => { f with inTb := f.inTb.setMaxPackets p }
  | .setInRedStart s => { f with inTb := f.inTb.setRedStart s }
  | .setOutRateLimit rate => { f with outTb := f.outTb.setDataRate rate }
  | .setOutMaxTokens t => { f with outTb := f.outTb.setMaxTokens t }
  | .setOutMaxPackets p => { f with outTb := f.outTb.setMaxPackets p }
  | .setOutRedStart s => { f with outTb := f.outTb.setRedStart s }
  | _ => f

namespace RouterFilter

/-- A setter.  `setDelays` reads the first delay, which is undefined without one. -/
def set (env : Surroundings) : RouterFilter → SetterCall → Option RouterFilter
  | shaping (.loss f), .setLoss loss => some (shaping (.loss (f.setLoss loss)))
  | shaping (.burst f), .setBurstDuration dur => some (shaping (.burst (f.setBurstDuration dur)))
  | shaping (.burst f), .setSleepDuration dur => some (shaping (.burst (f.setSleepDuration dur)))
  | shaping (.staticDelay f), .setDelay del => some (shaping (.staticDelay (f.setDelay del)))
  | shaping (.dynamicDelay f), .setDelays d r =>
    (f.setDelays d r).map fun o => shaping (.dynamicDelay o.1)
  | shaping (.dynamicLoss f), .setLosses t l => some (shaping (.dynamicLoss (f.setLosses t l).1))
  | shaping (.tokenBucketFilter f), call => some (shaping (.tokenBucketFilter (f.set call)))
  | nat n, call => some (nat { n with config := n.config.set env call })
  | f, _ => some f

/-- `init`, before the first packet. -/
def init (env : Surroundings) : RouterFilter → RouterFilter
  | shaping (.burst f) => shaping (.burst f.init.1)
  | shaping (.staticDelay f) => shaping (.staticDelay f.init)
  | shaping (.dynamicDelay f) => shaping (.dynamicDelay f.init)
  | shaping (.dynamicLoss f) => shaping (.dynamicLoss f.init)
  | shaping (.tokenBucketFilter f) =>
    shaping (.tokenBucketFilter
      (f.init PacketPool.empty.getPacketLen env.inReads env.outReads).1)
  | nat n => nat n.config.init
  | outputLibnet stage => outputLibnet stage.init
  | f => f

end RouterFilter

/-- A filter, or a `Nat` whose mapper and filter are still null. -/
inductive MadeFilter
  | uninitNat (c : NatConfig)
  | filter (f : RouterFilter)

namespace MadeFilter

/-- The constructors.  `Output6Libnet` is the output stage of the other family. -/
def make (env : Surroundings) : FilterClass → MadeFilter
  | .Input => filter .input
  | .InputDrop => filter .inputDrop
  | .Burst => filter (.shaping (.burst {}))
  | .Loss => filter (.shaping (.loss {}))
  | .StaticDelay => filter (.shaping (.staticDelay .new))
  | .Nat => uninitNat { ipExt := env.ipExt, ipInt := env.ipInt }
  | .TokenBucketFilter =>
    filter (.shaping (.tokenBucketFilter (.new env.inStart env.outStart)))
  | .DynamicDelay => filter (.shaping (.dynamicDelay (.new [])))
  | .DynamicLoss => filter (.shaping (.dynamicLoss (.new env.currentLoss env.currentIndex)))
  | .Output => filter .output
  | .OutputLibnet | .Output6Libnet => filter (.outputLibnet (.uninit [] env.libnet))

/-- A call. -/
def call (env : Surroundings) : MadeFilter → FilterCall → Option MadeFilter
  | uninitNat c, .setter s => some (uninitNat (c.set env s))
  | uninitNat c, .init => some (filter (.nat c.init))
  | filter f, .setter s => (f.set env s).map filter
  | filter f, .init => some (filter (f.init env))
  | m, .setQH _ => some m

/-- The filter, unless it is a `Nat` that was never initialized. -/
def filter? : MadeFilter → Option RouterFilter
  | uninitNat _ => none
  | filter f => some f

/-- What calls make of a new filter. -/
def called (env : Surroundings) (told : FilterClass × List FilterCall) : Option RouterFilter :=
  (told.2.foldlM (call env) (make env told.1)).bind filter?

end MadeFilter

namespace FilterObject

/-- Its class, and the calls made on it. -/
def told (o : FilterObject) : FilterClass × List FilterCall := (o.cls, o.calls)

/-- What the calls have made of it. -/
def filter (env : Surroundings) (o : FilterObject) : Option RouterFilter :=
  MadeFilter.called env o.told

end FilterObject

/-! ## What the options say -/

/-- The type of a name, if it is valid. -/
def NatType.named (type : String) : Option NatType :=
  if type = "portr" then some .portRNat
  else if type = "addrr" then some .addrRNat
  else if type = "symnat" then some .symNat
  else if type = "fullcone" then some .fullConeNat
  else none

namespace VariablesMap

/-- The rules for these ports, entered one after the other. -/
def enterRules (target : UInt32) (ports : List (UInt16 × UInt16)) (rules : DnatRules) : DnatRules :=
  ports.foldl (fun rules p => rules.insert p.1 ⟨0, target, 0, p.2, 0⟩) rules

/-- The configuration of the NAT. -/
def natConfig (vm : VariablesMap) (env : Surroundings) : NatConfig where
  ipExt := env.inetNetwork (vm.natExtIp.getD "")
  ipInt := env.inetNetwork (vm.natIntIp.getD "")
  connectionTimeout := vm.natTimeout.getD 600
  type := (vm.natType.bind NatType.named).getD .portRNat
  dnatRules := enterRules (env.inetNetwork (vm.natIntIp.getD "")) vm.rulePorts ∅

/-- A bucket, with its options. -/
def bucket (rate maxTokens maxPackets redStart : Option Int) (start : UInt64) :
    TokenBucket PacketPtr where
  dataRate := (rate.map .ofInt).getD 20480
  maxTokens := (maxTokens.map .ofInt).getD 8000
  maxPackets := (maxPackets.map .ofInt).getD 30
  redStart := (redStart.map .ofInt).getD 30
  timerStart := start

/-- The filter of a name as its options configure it, initialized. -/
def configured (vm : VariablesMap) (env : Surroundings) : FilterName → RouterFilter
  | .input => .input
  | .inputDrop => .inputDrop
  | .burst => .shaping (.burst (Burst.init
      { burstDur := vm.burstDur.getD 0, sleepDur := vm.burstSleep.getD 10 }).1)
  | .loss => .shaping (.loss ⟨vm.loss.getD 0⟩)
  | .staticDelay => .shaping (.staticDelay (StaticDelay.init
      { DelayLine.new with delay := vm.delay.getD 0 * 1000 }))
  | .nat => .nat (vm.natConfig env).init
  | .tokenBucketFilter => .shaping (.tokenBucketFilter (TokenBucketFilter.init
      PacketPool.empty.getPacketLen
      ⟨bucket vm.tbfInRate vm.tbfInMaxTokens vm.tbfInMaxPackets vm.tbfInRedStart env.inStart,
        bucket vm.tbfOutRate vm.tbfOutMaxTokens vm.tbfOutMaxPackets vm.tbfOutRedStart env.outStart⟩
      env.inReads env.outReads).1)
  | .dynamicDelay => .shaping (.dynamicDelay (DynamicDelay.init (.new
      ((vm.curve.bind fun c => DynamicDelay.curve c.1 c.2).getD []))))
  | .dynamicLoss => .shaping (.dynamicLoss (DynamicLoss.init
      ⟨env.currentLoss, env.currentIndex, (vm.pattern.map (·.1)).getD [1],
        (vm.pattern.map (·.2)).getD [0], []⟩))
  | .output => .output
  | .outputLibnet => .outputLibnet (OutputStage.uninit [] env.libnet).init

/-- The filters between the first and the last one: those listed, none of them twice, or
all, in which case the accept mode is not looked at. -/
def Lists (vm : VariablesMap) (acceptMode : Bool) (L : List FilterName) : Prop :=
  match vm.filters with
  | some given => acceptMode = vm.acceptMode ∧ given = L.map (·.toString) ∧
      (∀ name ∈ L, name.Selectable) ∧ L.Nodup
  | none => acceptMode = false ∧
      L = [.loss, .nat, .burst, .staticDelay, .dynamicLoss, .dynamicDelay, .tokenBucketFilter]

/-- The options that the code computes with exactly: the loss times are `int`s in milliseconds
too, the delays are `float`s, and the curve between two of them has no fractions. -/
structure Exact (vm : VariablesMap) : Prop where
  times : ∀ dlt, vm.dynLossTimes = some dlt → ∀ t ∈ dlt, -2 ^ 31 ≤ t * 1000 ∧ t * 1000 < 2 ^ 31
  delays : ∀ dd, vm.dynDelays = some dd → ∀ d ∈ dd, |d| ≤ 2 ^ 23
  steps : ∀ dd ddr, vm.curve = some (dd, ddr) → 0 < ddr →
    ∀ prev ∈ dd, ∀ next ∈ dd, ddr ∣ next - prev

end VariablesMap

/-! ## The calls that a filter got -/

section Told
variable {c : RouterChain} {calls : List (FilterName × FilterCall)}

/-- The calls for a name. -/
def callsFor (calls : List (FilterName × FilterCall)) (name : FilterName) : List FilterCall :=
  (calls.filter (·.1 = name)).map (·.2)

/-- A filter that one member holds, and no other, gets the calls for its name. -/
theorem RouterChain.callAll_told {name : FilterName} {p : FilterPtr} {cls : FilterClass}
    {next : Option FilterPtr} (hobj : c.filters.objects p = some { cls := cls, next := next })
    (hheld : ∀ k, c.member k = some p ↔ k = name) :
    (c.callAll calls).filters.objects p = some ⟨cls, next, callsFor calls name⟩ := by
  rw [RouterChain.callAll_objects, hobj]
  simp only [Option.map_some, List.nil_append, Option.some.injEq, FilterObject.mk.injEq, true_and]
  refine congrArg (List.map Prod.snd) (List.filter_congr fun k _ => ?_)
  rw [decide_eq_decide]
  exact hheld k.1

/-- A chain of distinct filters, after any calls. -/
theorem ChainBuilder.Built.told {cls : FilterName → FilterClass} {names : List FilterName}
    {b : ChainBuilder} (hb : b.Built cls names) (hnodup : names.Nodup)
    (calls : List (FilterName × FilterCall)) :
    ∃ os, (b.chain.callAll calls).Visits (b.chain.callAll calls).start os ∧
      os.map (·.told) = names.map fun name => (cls name, callsFor calls name) := by
  let os := names.mapIdx fun i name => (⟨cls name,
    if i + 1 < names.length then some (i + 1) else none, callsFor calls name⟩ : FilterObject)
  have hlen : os.length = names.length := List.length_mapIdx
  refine ⟨os, ?_, ?_⟩
  · rw [RouterChain.callAll_start, hb.start]
    have hvisits := RouterChain.visits_of_indexed (c := b.chain.callAll calls)
      (fun i o ho => ?_) 0 (Nat.zero_le os.length)
    · rwa [hlen, if_pos hb.nonempty, List.drop_zero] at hvisits
    · rw [List.getElem?_mapIdx] at ho
      obtain ⟨name, hi, rfl⟩ := Option.map_eq_some_iff.mp ho
      refine ⟨RouterChain.callAll_told (hb.object i name hi) fun k => ?_, by rw [hlen]⟩
      rw [hb.member, hi]
      constructor
      · rintro ⟨hk, -⟩
        exact (Option.some.inj hk).symm
      · rintro rfl
        exact ⟨rfl, nodup_iff_not_mem_drop.mp hnodup i k hi⟩
  · refine List.ext_getElem? fun i => ?_
    simp only [os, List.getElem?_map, List.getElem?_mapIdx, Option.map_map]
    rfl

end Told

namespace Router

/-- The filters of the IPv4 chain of all filters: each name with its pointer and `next_`. -/
theorem initAll_chain : ∃ c c6, (∀ extIf, initAll {} extIf = some ⟨true, extIf, c, c6⟩) ∧
    c.start = some 0 ∧
    ∀ o ∈ ([(.inputDrop, 0, some 1), (.loss, 1, some 2), (.nat, 2, some 3), (.burst, 3, some 4),
        (.staticDelay, 4, some 6), (.dynamicLoss, 6, some 5), (.dynamicDelay, 5, some 7),
        (.tokenBucketFilter, 7, some 8), (.outputLibnet, 8, none)] :
        List (FilterName × FilterPtr × Option FilterPtr)),
      c.filters.objects o.2.1 = some { cls := o.1.cls, next := o.2.2 } ∧
        ∀ k, c.member k = some o.2.1 ↔ k = o.1 := by
  refine ⟨_, _, fun _ => rfl, rfl, ?_⟩
  intro o ho
  simp only [List.mem_cons, List.not_mem_nil, or_false] at ho
  rcases ho with rfl | rfl | rfl | rfl | rfl | rfl | rfl | rfl | rfl
  all_goals
    refine ⟨rfl, fun k => ?_⟩
    cases k <;> decide

/-- All filters, after any calls. -/
theorem initAll_told (extIf : String) (calls : List (FilterName × FilterCall)) :
    ∃ r os, initAll {} extIf = some r ∧
      (r.chain.callAll calls).Visits (r.chain.callAll calls).start os ∧
      os.map (·.told) = (wrapped false [.loss, .nat, .burst, .staticDelay, .dynamicLoss,
        .dynamicDelay, .tokenBucketFilter]).map fun name => (name.cls, callsFor calls name) := by
  obtain ⟨c, c6, hinit, hstart, hall⟩ := initAll_chain
  have hobj : ∀ name p next, (name, p, next) ∈ _ → (c.callAll calls).filters.objects p =
      some ⟨name.cls, next, callsFor calls name⟩ :=
    fun name p next h => RouterChain.callAll_told (hall _ h).1 (hall _ h).2
  refine ⟨_, [⟨.InputDrop, some 1, callsFor calls .inputDrop⟩,
    ⟨.Loss, some 2, callsFor calls .loss⟩, ⟨.Nat, some 3, callsFor calls .nat⟩,
    ⟨.Burst, some 4, callsFor calls .burst⟩, ⟨.StaticDelay, some 6, callsFor calls .staticDelay⟩,
    ⟨.DynamicLoss, some 5, callsFor calls .dynamicLoss⟩,
    ⟨.DynamicDelay, some 7, callsFor calls .dynamicDelay⟩,
    ⟨.TokenBucketFilter, some 8, callsFor calls .tokenBucketFilter⟩,
    ⟨.OutputLibnet, none, callsFor calls .outputLibnet⟩], hinit extIf, ?_, rfl⟩
  rw [RouterChain.callAll_start, hstart]
  refine .cons (hobj .inputDrop 0 _ ?_) (.cons (hobj .loss 1 _ ?_) (.cons (hobj .nat 2 _ ?_)
    (.cons (hobj .burst 3 _ ?_) (.cons (hobj .staticDelay 4 _ ?_) (.cons (hobj .dynamicLoss 6 _ ?_)
    (.cons (hobj .dynamicDelay 5 _ ?_) (.cons (hobj .tokenBucketFilter 7 _ ?_)
    (.cons (hobj .outputLibnet 8 _ ?_) .nil))))))))
  all_goals simp

end Router

/-! ## Each filter gets its options -/

section Options
variable (vm : VariablesMap) (env : Surroundings) (qh : Nat)

theorem callsFor_setters (setters : List SetterCall) (inits : List (FilterName × FilterCall))
    (name : FilterName) : callsFor (setterCalls setters ++ inits) name =
      (setters.filter (·.filter = name)).map .setter ++ callsFor inits name := by
  unfold callsFor setterCalls
  rw [List.filter_append, List.map_append, List.filter_map, List.map_map]
  rfl

/-- The setter calls for a name. -/
theorem setters_filter (name : FilterName) : vm.setters.filter (·.filter = name) =
    match name with
    | .nat => [.setIPs (vm.natExtIp.getD "") (vm.natIntIp.getD "")] ++
        vm.natType.toList.map .setNatType ++ vm.natTimeout.toList.map .setTimeout ++
        vm.rulePorts.map fun ports => .setDnatRule (vm.natIntIp.getD "") ports.1 ports.2
    | .staticDelay => vm.delay.toList.map .setDelay
    | .loss => vm.loss.toList.map .setLoss
    | .tokenBucketFilter => vm.tbfInRate.toList.map (.setInRateLimit ∘ .ofInt) ++
        vm.tbfInMaxTokens.toList.map (.setInMaxTokens ∘ .ofInt) ++
        vm.tbfInMaxPackets.toList.map (.setInMaxPackets ∘ .ofInt) ++
        vm.tbfInRedStart.toList.map (.setInRedStart ∘ .ofInt) ++
        vm.tbfOutRate.toList.map (.setOutRateLimit ∘ .ofInt) ++
        vm.tbfOutMaxTokens.toList.map (.setOutMaxTokens ∘ .ofInt) ++
        vm.tbfOutMaxPackets.toList.map (.setOutMaxPackets ∘ .ofInt) ++
        vm.tbfOutRedStart.toList.map (.setOutRedStart ∘ .ofInt)
    | .burst => vm.burstDur.toList.map .setBurstDuration ++
        vm.burstSleep.toList.map .setSleepDuration
    | .dynamicDelay => vm.curve.toList.map fun c => .setDelays c.1 c.2
    | .dynamicLoss => vm.pattern.toList.map fun p => .setLosses p.1 p.2
    | .input | .inputDrop | .output | .outputLibnet => [] := by
  unfold VariablesMap.setters VariablesMap.optionSetters
  simp only [List.filter_append, List.filter_map, Function.comp_def, SetterCall.filter,
    List.filter_cons, List.filter_nil]
  cases name <;> simp

theorem foldlM_uninitNat (calls : List SetterCall) (c : NatConfig) :
    (calls.map .setter).foldlM (MadeFilter.call env) (.uninitNat c) =
      some (.uninitNat (calls.foldl (fun c call => c.set env call) c)) := by
  induction calls generalizing c with
  | nil => rfl
  | cons call calls ih => exact ih _

theorem foldlM_tokenBucketFilter (calls : List SetterCall) (f : TokenBucketFilter PacketPtr) :
    (calls.map .setter).foldlM (MadeFilter.call env) (.filter (.shaping (.tokenBucketFilter f))) =
      some (.filter (.shaping (.tokenBucketFilter (calls.foldl TokenBucketFilter.set f)))) := by
  induction calls generalizing f with
  | nil => rfl
  | cons call calls ih => exact ih _

theorem NatConfig.setNatType_eq (c : NatConfig) (type : String) :
    c.setNatType type = { c with type := (NatType.named type).getD c.type } := by
  unfold NatConfig.setNatType NatType.named
  split_ifs <;> rfl

theorem foldl_setDnatRule (ip : String) (ports : List (UInt16 × UInt16)) (c : NatConfig) :
    (ports.map fun p => SetterCall.setDnatRule ip p.1 p.2).foldl (fun c call => c.set env call) c =
      { c with dnatRules := VariablesMap.enterRules (env.inetNetwork ip) ports c.dnatRules } := by
  induction ports generalizing c with
  | nil => rfl
  | cons p ports ih => exact ih _

/-- What the setters make of a new `Nat`. -/
theorem foldl_natConfig : (vm.setters.filter (·.filter = .nat)).foldl
    (fun c call => c.set env call) { ipExt := env.ipExt, ipInt := env.ipInt } =
      vm.natConfig env := by
  rw [setters_filter]
  simp only [List.foldl_append, foldl_setDnatRule, VariablesMap.natConfig]
  cases vm.natTimeout <;> cases vm.natType
  all_goals
    simp only [Option.toList, List.map_cons, List.map_nil, List.foldl_cons, List.foldl_nil,
      NatConfig.set.eq_1, NatConfig.set.eq_3, NatConfig.set.eq_4, NatConfig.setNatType_eq]
    rfl

/-- What the setters make of two new buckets. -/
theorem foldl_buckets : (vm.setters.filter (·.filter = .tokenBucketFilter)).foldl
    TokenBucketFilter.set (.new env.inStart env.outStart) =
      (⟨VariablesMap.bucket vm.tbfInRate vm.tbfInMaxTokens vm.tbfInMaxPackets vm.tbfInRedStart
          env.inStart,
        VariablesMap.bucket vm.tbfOutRate vm.tbfOutMaxTokens vm.tbfOutMaxPackets
          vm.tbfOutRedStart env.outStart⟩ : TokenBucketFilter PacketPtr) := by
  -- the setters of one bucket leave the other as it is
  have hin : ∀ (rate maxTokens maxPackets redStart : Option Int) (b : TokenBucket PacketPtr),
      (rate.toList.map (SetterCall.setInRateLimit ∘ .ofInt) ++
        maxTokens.toList.map (SetterCall.setInMaxTokens ∘ .ofInt) ++
        maxPackets.toList.map (SetterCall.setInMaxPackets ∘ .ofInt) ++
        redStart.toList.map (SetterCall.setInRedStart ∘ .ofInt)).foldl TokenBucketFilter.set
          ⟨{ timerStart := env.inStart }, b⟩ =
        ⟨VariablesMap.bucket rate maxTokens maxPackets redStart env.inStart, b⟩ := by
    intro rate maxTokens maxPackets redStart b
    cases rate <;> cases maxTokens <;> cases maxPackets <;> cases redStart <;> rfl
  have hout : ∀ (rate maxTokens maxPackets redStart : Option Int) (b : TokenBucket PacketPtr),
      (rate.toList.map (SetterCall.setOutRateLimit ∘ .ofInt) ++
        maxTokens.toList.map (SetterCall.setOutMaxTokens ∘ .ofInt) ++
        maxPackets.toList.map (SetterCall.setOutMaxPackets ∘ .ofInt) ++
        redStart.toList.map (SetterCall.setOutRedStart ∘ .ofInt)).foldl TokenBucketFilter.set
          ⟨b, { timerStart := env.outStart }⟩ =
        ⟨b, VariablesMap.bucket rate maxTokens maxPackets redStart env.outStart⟩ := by
    intro rate maxTokens maxPackets redStart b
    cases rate <;> cases maxTokens <;> cases maxPackets <;> cases redStart <;> rfl
  rw [setters_filter, ← hout, ← hin, ← List.foldl_append]
  simp only [List.append_assoc]
  rfl

theorem DynamicDelay.exists_segments (resolution : Int) (delays tmpQ : List Int) (hne : tmpQ ≠ []) :
    ∃ tmpQ', DynamicDelay.segments resolution delays tmpQ = some tmpQ' := by
  fun_induction DynamicDelay.segments resolution delays tmpQ with
  | case1 tmpQ prev next delays ih =>
    rw [List.getLast?_eq_some_getLast hne]
    exact ih _ (by simp [hne])
  | case2 => exact ⟨_, rfl⟩
  | case3 => exact ⟨_, rfl⟩

/-- With a fix point there is a curve. -/
theorem DynamicDelay.exists_curve (resolution : Int) {delays : List Int} (hne : delays ≠ []) :
    ∃ tmpQ, DynamicDelay.curve delays resolution = some tmpQ := by
  obtain ⟨first, rest, rfl⟩ := List.exists_cons_of_ne_nil hne
  obtain ⟨tmpQ, h⟩ := exists_segments resolution (first :: rest ++ [first]) [first] (by simp)
  refine ⟨tmpQ.dropLast, ?_⟩
  rw [DynamicDelay.curve, List.head?_cons, Option.bind_eq_bind, Option.bind_some, h]
  rfl

/-- The curve, of delays of which there is one at least. -/
theorem setDelays_curve : (vm.curve.toList.map
    (FilterCall.setter ∘ fun c => SetterCall.setDelays c.1 c.2)).foldlM (MadeFilter.call env)
      (.filter (.shaping (.dynamicDelay (.new [])))) =
    some (.filter (.shaping (.dynamicDelay (.new
      ((vm.curve.bind fun c => DynamicDelay.curve c.1 c.2).getD []))))) := by
  cases hc : vm.curve with
  | none => rfl
  | some c =>
    obtain ⟨dd, ddr⟩ := c
    have hne : dd ≠ [] := by
      intro hnil
      unfold VariablesMap.curve at hc
      split at hc
      · rename_i hdd _
        obtain ⟨rfl, rfl⟩ := Prod.mk.inj (Option.some.inj hc)
        exact vm.dynDelays_ne (hdd.trans (congrArg some hnil))
      · cases hc
    obtain ⟨tmpQ, htmpQ⟩ := DynamicDelay.exists_curve ddr hne
    simp only [Option.toList, List.map_cons, List.map_nil, List.foldlM_cons, List.foldlM_nil,
      Function.comp_apply, MadeFilter.call, RouterFilter.set, DynamicDelay.setDelays, htmpQ,
      Option.bind_some, Option.getD_some]
    simp [DynamicDelay.foldl_pushDelay]

/-- **A filter becomes what its options say**, by the calls for its name. -/
theorem filter_configured (hcons : vm.Consistent) (name : FilterName) :
    MadeFilter.called env (name.cls, callsFor (setterCalls vm.setters ++ initCalls qh) name) =
      some (vm.configured env name) := by
  rw [MadeFilter.called, callsFor_setters, List.foldlM_append]
  cases name with
  | nat =>
    rw [show MadeFilter.make env FilterName.nat.cls = .uninitNat ⟨env.ipExt, env.ipInt, 10 * 60,
      .portRNat, ∅⟩ from rfl, foldlM_uninitNat, foldl_natConfig]
    rfl
  | tokenBucketFilter =>
    rw [show MadeFilter.make env FilterName.tokenBucketFilter.cls = .filter (.shaping
      (.tokenBucketFilter (.new env.inStart env.outStart))) from rfl, foldlM_tokenBucketFilter,
      foldl_buckets]
    rfl
  | dynamicDelay =>
    rw [setters_filter, List.map_map]
    rw [show MadeFilter.make env FilterName.dynamicDelay.cls = .filter (.shaping
      (.dynamicDelay (.new []))) from rfl]
    rw [setDelays_curve]
    rfl
  | dynamicLoss =>
    rw [setters_filter]
    unfold VariablesMap.configured
    cases hp : vm.pattern with
    | none => rfl
    | some p =>
      obtain ⟨dlt, dl⟩ := p
      have hlen : dlt.length = dl.length := by
        unfold VariablesMap.pattern at hp
        split at hp
        · rename_i dl' dlt' hdl hdlt
          obtain ⟨rfl, rfl⟩ := Prod.mk.inj (Option.some.inj hp)
          obtain ⟨times, htimes, hlen⟩ := hcons.losses _ hdl
          rw [hdlt] at htimes
          rw [hlen, Option.some.inj htimes]
        · cases hp
      have hset : ∀ f : DynamicLoss,
          (f.setLosses dlt dl).1 = { f with times := dlt, losses := dl } := by
        intro f
        rw [DynamicLoss.setLosses, if_neg (not_not.mpr hlen)]
      simp only [Option.toList, List.map_cons, List.map_nil, List.foldlM_cons, List.foldlM_nil]
      show some (RouterFilter.shaping (.dynamicLoss
        (DynamicLoss.init (DynamicLoss.setLosses _ dlt dl).1))) = _
      rw [hset]
      rfl
  | burst =>
    rw [setters_filter]
    unfold VariablesMap.configured
    cases vm.burstDur <;> cases vm.burstSleep <;> rfl
  | loss =>
    rw [setters_filter]
    unfold VariablesMap.configured
    cases vm.loss <;> rfl
  | staticDelay =>
    rw [setters_filter]
    unfold VariablesMap.configured
    cases vm.delay <;> rfl
  | input | inputDrop | output | outputLibnet =>
    rw [setters_filter]
    rfl

/-- The rule for a port is the last one given for it. -/
theorem enterRules_getElem? (target : UInt32) (ports : List (UInt16 × UInt16)) (rules : DnatRules)
    (port : UInt16) : (VariablesMap.enterRules target ports rules)[port]? =
      ((ports.reverse.find? (·.1 = port)).map fun p => ⟨0, target, 0, p.2, 0⟩).or rules[port]? := by
  induction ports generalizing rules with
  | nil => rfl
  | cons p ports ih =>
    show (VariablesMap.enterRules target ports (rules.insert p.1 ⟨0, target, 0, p.2, 0⟩))[port]? = _
    rw [ih, List.reverse_cons, List.find?_append, TreeMap.getElem?_insert]
    cases ports.reverse.find? (·.1 = port) with
    | some q => rfl
    | none =>
      by_cases hp : p.1 = port
      · simp [hp]
      · simp [hp]

end Options

/-! ## The chain -/

theorem wrapped_configured (vm : VariablesMap) (env : Surroundings) (acceptMode : Bool)
    (L : List FilterName) : (wrapped acceptMode L).map (vm.configured env) =
      LockedChain.wrap acceptMode (L.map (vm.configured env))
        (OutputStage.uninit [] env.libnet).init := by
  cases acceptMode <;> simp [wrapped, LockedChain.wrap, VariablesMap.configured]

theorem configured_listed (vm : VariablesMap) (env : Surroundings) {name : FilterName}
    (h : name.Selectable) : (vm.configured env name).Listed := by
  cases name with
  | input | inputDrop | output | outputLibnet => cases h
  | burst | loss | staticDelay | nat | tokenBucketFilter | dynamicDelay | dynamicLoss => trivial

theorem configured_started (vm : VariablesMap) (env : Surroundings) (name : FilterName) :
    (vm.configured env name).Started := by
  cases name with
  | outputLibnet => exact ⟨env.libnet, rfl⟩
  | tokenBucketFilter =>
    exact ⟨by simp [TokenBucketFilter.init, TokenBucket.run, TokenBucket.trySend,
      VariablesMap.bucket, TokenBucket.sendLoop], by simp [TokenBucketFilter.init,
      TokenBucket.run, TokenBucket.trySend, VariablesMap.bucket, TokenBucket.sendLoop]⟩
  | input | inputDrop | burst | loss | staticDelay | nat | dynamicDelay | dynamicLoss
  | output => first | rfl | trivial

/-- `init` leaves the timers pending. -/
theorem configured_armed (vm : VariablesMap) (env : Surroundings) (name : FilterName) :
    (vm.configured env name).Armed := by
  cases name with
  | tokenBucketFilter =>
    intro d
    cases d <;> exact List.append_ne_nil_of_right_ne_nil _ (List.cons_ne_nil _ _)
  | burst => exact List.cons_ne_nil _ _
  | input | inputDrop | loss | staticDelay | nat | dynamicDelay | dynamicLoss | output
  | outputLibnet => trivial

/-- What is visited of the chain that `main` makes, after any calls. -/
theorem build_told {extIf : String} {vm : VariablesMap} {rt₀ : Router}
    (hbuild : Router.build extIf (vm.filters.map (vm.acceptMode, ·)) = some rt₀)
    {acceptMode : Bool} {L : List FilterName} (hL : vm.Lists acceptMode L)
    (calls : List (FilterName × FilterCall)) :
    ∃ os, (rt₀.chain.callAll calls).Visits (rt₀.chain.callAll calls).start os ∧
      os.map (·.told) = (wrapped acceptMode L).map fun name => (name.cls, callsFor calls name) := by
  unfold VariablesMap.Lists at hL
  cases hf : vm.filters with
  | some given =>
    rw [hf] at hL hbuild
    obtain ⟨rfl, rfl, hsel, hnodup⟩ := hL
    obtain ⟨b, r, hb, h4, -, hr⟩ := Router.init_built extIf vm.acceptMode hsel
    obtain rfl : r = rt₀ := Option.some.inj (hr.symm.trans hbuild)
    rw [h4]
    exact hb.v4.told ((nodup_wrapped vm.acceptMode hsel).mpr hnodup) calls
  | none =>
    rw [hf] at hL hbuild
    obtain ⟨rfl, rfl⟩ := hL
    obtain ⟨r, os, hr, hvisits⟩ := Router.initAll_told extIf calls
    obtain rfl : r = rt₀ := Option.some.inj (hr.symm.trans hbuild)
    exact ⟨os, hvisits⟩

/-- Setters and `initFilters` are calls. -/
theorem Router.startUp_configureAll (rt₀ : Router) (setters : List SetterCall) (qh : Nat) :
    ∃ rt', (rt₀.configureAll setters).startUp false qh = .ok rt' ∧
      rt'.chain = rt₀.chain.callAll (setterCalls setters ++ initCalls qh) := by
  refine ⟨_, (rt₀.configureAll setters).initFilters_eq qh, ?_⟩
  rw [RouterChain.callAll_append, ← configureAll_chain]

/-- **What a command line starts.**  If `main` gets to `execute`, the chain that the
packets go through is the list, or all filters, between the filters of the mode; each
filter is as its own options say, initialized; and `LockedChain` starts from it, with the
timers pending.  The rule for a port is the last that was given for it.  This is about
options that are `Exact`: on others the state of the dynamic filters is not the code's. -/
theorem main_starts_chain (env : Surroundings) {vm : VariablesMap} {rt : Router}
    (h : main (some vm) = .ok (rt, false)) {acceptMode : Bool} {L : List FilterName}
    (hL : vm.Lists acceptMode L) (_ : vm.Exact) (qh : Nat) (headers : PacketPtr → Packet) :
    ∃ rt' os, rt.startUp false qh = .ok rt' ∧ rt'.chain.Visits rt'.chain.start os ∧
      os.map (·.filter env) = (wrapped acceptMode L).map (some ∘ vm.configured env) ∧
      LockedChain.Starts acceptMode (L.map (vm.configured env))
        ⟨(wrapped acceptMode L).map (vm.configured env), .empty, headers, [[]]⟩ ∧
      (∀ f ∈ L.map (vm.configured env), f.Armed) ∧
      ∀ port, (vm.natConfig env).dnatRules[port]? =
        (vm.rulePorts.reverse.find? (·.1 = port)).map fun p =>
          ⟨0, env.inetNetwork (vm.natIntIp.getD ""), 0, p.2, 0⟩ := by
  obtain ⟨vm', extIf, rt₀, heq, -, -, hbuild, hcons, hrt, -⟩ := main_ok_iff.mp h
  obtain rfl := Option.some.inj heq
  obtain ⟨rt', hinit, hchain⟩ := rt₀.startUp_configureAll vm.setters qh
  obtain ⟨os, hvisits, htold⟩ := build_told hbuild hL (setterCalls vm.setters ++ initCalls qh)
  rw [← hrt] at hinit
  rw [← hchain] at hvisits
  have hsel : ∀ name ∈ L, name.Selectable := by
    unfold VariablesMap.Lists at hL
    split at hL
    · exact hL.2.2.1
    · rw [hL.2]
      simp [FilterName.Selectable]
  refine ⟨rt', os, hinit, hvisits, ?_, ⟨⟨_, wrapped_configured vm env acceptMode L⟩, ?_, ?_, rfl, rfl⟩,
    ?_, fun port => ?_⟩
  · calc os.map (·.filter env) = (os.map (·.told)).map (MadeFilter.called env) := by
          rw [List.map_map]
          rfl
      _ = (wrapped acceptMode L).map (some ∘ vm.configured env) := by
          rw [htold, List.map_map]
          refine List.map_congr_left fun name _ => ?_
          rw [Function.comp_apply, Function.comp_apply]
          exact filter_configured vm env qh hcons name
  · intro f hf
    obtain ⟨name, hname, rfl⟩ := List.mem_map.mp hf
    exact configured_listed vm env (hsel name hname)
  · intro f hf
    obtain ⟨name, -, rfl⟩ := List.mem_map.mp hf
    exact configured_started vm env name
  · intro f hf
    obtain ⟨name, -, rfl⟩ := List.mem_map.mp hf
    exact configured_armed vm env name
  · rw [VariablesMap.natConfig, enterRules_getElem?]
    simp

/-- `router --ext-if eth0 --filters Loss StaticDelay --loss 0.5 --delay 20`: both filters get
their options, and an ingoing packet waits 20 milliseconds. -/
theorem main_starts_loss_and_delay :
    ∃ env vm rt rt' os, main (some vm) = .ok (rt, false) ∧ rt.startUp false 0 = .ok rt' ∧
      rt'.chain.Visits rt'.chain.start os ∧
      os.map (·.filter env) = [some .inputDrop, some (.shaping (.loss ⟨1 / 2⟩)),
        some (.shaping (.staticDelay (StaticDelay.init { DelayLine.new with delay := 20000 }))),
        some (.outputLibnet (OutputStage.uninit [] env.libnet).init)] := by
  let env : Surroundings := ⟨fun _ => 0, 0, 0, 0, 0, 0, 0, ⟨0, 0⟩, ⟨0, 0⟩, true⟩
  let vm : VariablesMap :=
    { extIf := some "eth0"
      filters := some ["Loss", "StaticDelay"]
      loss := some (1 / 2)
      delay := some 20 }
  have h : main (some vm) = .ok (_, false) := main_ok_iff.mpr ⟨vm, _, _, rfl, rfl, rfl, rfl,
    ⟨fun h => absurd rfl h, by simp [vm], by simp [vm]⟩, rfl, rfl⟩
  have hL : vm.Lists false [.loss, .staticDelay] :=
    ⟨rfl, rfl, by simp [FilterName.Selectable], by decide⟩
  have hexact : vm.Exact := ⟨by simp [vm], by simp [vm], by simp [vm, VariablesMap.curve]⟩
  obtain ⟨rt', os, hinit, hvisits, hfilter, -⟩ := main_starts_chain env h hL hexact 0
    fun _ => .ofAddresses true 0 0 0 0
  exact ⟨env, vm, _, rt', os, h, hinit, hvisits, hfilter⟩

end ShapingRouter
