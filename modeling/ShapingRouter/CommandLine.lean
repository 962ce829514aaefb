import Mathlib
import ShapingRouter.StartUp

/-! # The command line

`main` reads the options, builds the router, calls a setter for each option that is
given, and executes the router.  An option for a filter that is not listed goes to a
setter that does nothing.  Reading the command line is the library's work;
`VariablesMap` is what it makes of it.

Up to `execute`, `main` either exits or calls the setters of `VariablesMap.setters`, in
this order, on the router that it has built (`main_ok_iff`).
-/

namespace ShapingRouter
open Library

/-- `po::variables_map`.  An option that takes several values has one at least. -/
structure VariablesMap where
  help : Bool := false
  extIf : Option String := none
  natExtIp : Option String := none
  natIntIp : Option String := none
  natType : Option String := none
  natTimeout : Option UInt32 := none
  delay : Option Int := none
  loss : Option ℚ := none
  tbfInRate : Option Int := none
  tbfInMaxTokens : Option Int := none
  tbfInMaxPackets : Option Int := none
  tbfInRedStart : Option Int := none
  tbfOutRate : Option Int := none
  tbfOutMaxTokens : Option Int := none
  tbfOutMaxPackets : Option Int := none
  tbfOutRedStart : Option Int := none
  dynDelays : Option (List Int) := none
  dynDelayRes : Option Int := none
  dynLosses : Option (List ℚ) := none
  dynLossTimes : Option (List Int) := none
  burstDur : Option Int := none
  burstSleep : Option Int := none
  natExtPort : Option (List UInt16) := none
  natIntPort : Option (List UInt16) := none
  filters : Option (List String) := none
  ipv6 : Bool := false
  acceptMode : Bool := false
  dynDelays_ne : dynDelays ≠ some [] := by simp

/-- The ways in which `main` ends before it executes the router. -/
inductive MainExit
  | illegalOptions
  | help
  | extIfRequired
  | dynDelaysWithoutRes
  | dynLossesLengths
  | dynLossesWithoutTimes
  | natPortLengths
  | nullPointer
  deriving DecidableEq, Repr

namespace MainExit

/-- The argument of `exit`.  Following a null pointer ends the process without one. -/
def code : MainExit → Option Nat
  | help => some 0
  | illegalOptions | extIfRequired | dynDelaysWithoutRes | dynLossesLengths
  | dynLossesWithoutTimes | natPortLengths => some 1
  | nullPointer => none

/-- What is printed before the list of options. -/
def message : MainExit → String
  | illegalOptions => "Illegal options!\nUsage: router [options]\n"
  | help => ""
  | extIfRequired => "The external interface is required\n"
  | dynDelaysWithoutRes => "dyn-delays where set without dyn-delay-res\n"
  | dynLossesLengths => "dyn-losses and dyn-loss-times did not have matching lengths\n"
  | dynLossesWithoutTimes => "dyn-losses where set without dyn-loss-times\n"
  | natPortLengths => "nat-ext-port was not same length as nat-int-port\n"
  | nullPointer => ""

end MainExit

namespace Router

/-- `if (vm.count(..)) { rt->set(vm[..]); }` -/
def given {α : Type} (rt : Router) (option : Option α) (set : Router → α → Router) : Router :=
  match option with
  | some value => set rt value
  | none => rt

/-- The setters of `main` up to the dynamic filters. -/
def setOptions (rt : Router) (vm : VariablesMap) : Router :=
  let rt := rt.setIPs (vm.natExtIp.getD "") (vm.natIntIp.getD "")
  let rt := rt.given vm.natType setNatType
  let rt := rt.given vm.natTimeout setNatTimeout
  let rt := rt.given vm.delay setDelay
  let rt := rt.given vm.loss setLoss
  let rt := rt.given vm.tbfInRate fun rt rate => rt.setTbfInRateLimit (.ofInt rate)
  let rt := rt.given vm.tbfInMaxTokens fun rt t => rt.setTbfInMaxTokens (.ofInt t)
  let rt := rt.given vm.tbfInMaxPackets fun rt p => rt.setTbfInMaxPackets (.ofInt p)
  let rt := rt.given vm.tbfInRedStart fun rt s => rt.setTbfInRedStart (.ofInt s)
  let rt := rt.given vm.tbfOutRate fun rt rate => rt.setTbfOutRateLimit (.ofInt rate)
  let rt := rt.given vm.tbfOutMaxTokens fun rt t => rt.setTbfOutMaxTokens (.ofInt t)
  let rt := rt.given vm.tbfOutMaxPackets fun rt p => rt.setTbfOutMaxPackets (.ofInt p)
  let rt := rt.given vm.tbfOutRedStart fun rt s => rt.setTbfOutRedStart (.ofInt s)
  let rt := rt.given vm.burstDur setBurstDuration
  rt.given vm.burstSleep setSleepDuration

/-- The `dyn-delays` option. -/
def setDynDelays (rt : Router) (vm : VariablesMap) : Except MainExit Router :=
  match vm.dynDelays, vm.dynDelayRes with
  | some dd, some ddr => .ok (rt.setDynamicDelays dd ddr)
  | some _, none => .error .dynDelaysWithoutRes
  | none, _ => .ok rt

/-- The `dyn-losses` option. -/
def setDynLosses (rt : Router) (vm : VariablesMap) : Except MainExit Router :=
  match vm.dynLosses, vm.dynLossTimes with
  | some dl, some dlt =>
    if dl.length ≠ dlt.length then .error .dynLossesLengths else .ok (rt.setDynamicLosses dlt dl)
  | some _, none => .error .dynLossesWithoutTimes
  | none, _ => .ok rt

/-- The `nat-ext-port` and `nat-int-port` options. -/
def setPorts (rt : Router) (vm : VariablesMap) : Except MainExit Router :=
  match vm.natExtPort with
  | some extNat =>
    let intNat := vm.natIntPort.getD extNat
    if extNat.length ≠ intNat.length then .error .natPortLengths
    else .ok ((extNat.zip intNat).foldl
      (fun rt ports => rt.setDnatRule (vm.natIntIp.getD "") ports.1 ports.2) rt)
  | none => .ok rt

end Router

/-- The options, in the order in which `main` looks at them. -/
def Router.setAll (rt : Router) (vm : VariablesMap) : Except MainExit Router := do
  let rt ← (rt.setOptions vm).setDynDelays vm
  let rt ← rt.setDynLosses vm
  rt.setPorts vm

/-- `main` up to `execute6` or `execute`: the router, and which of the two it is. -/
def main (parsed : Option VariablesMap) : Except MainExit (Router × Bool) :=
  match parsed with
  | none => .error .illegalOptions
  | some vm =>
    if vm.help then .error .help
    else
      match vm.extIf with
      | none => .error .extIfRequired
      | some extIf =>
        match Router.build extIf (vm.filters.map (vm.acceptMode, ·)) with
        | none => .error .nullPointer
        | some rt => do
          let rt ← rt.setAll vm
          return (rt, vm.ipv6)

namespace VariablesMap

/-- The ports of the rules, external and internal. -/
def rulePorts (vm : VariablesMap) : List (UInt16 × UInt16) :=
  match vm.natExtPort with
  | some extNat => extNat.zip (vm.natIntPort.getD extNat)
  | none => []

/-- The delays and the resolution, where both are given. -/
def curve (vm : VariablesMap) : Option (List Int × Int) :=
  match vm.dynDelays, vm.dynDelayRes with
  | some dd, some ddr => some (dd, ddr)
  | _, _ => none

/-- The times and the losses, where both are given. -/
def pattern (vm : VariablesMap) : Option (List Int × List ℚ) :=
  match vm.dynLosses, vm.dynLossTimes with
  | some dl, some dlt => some (dlt, dl)
  | _, _ => none

/-- The calls of setters that `main` makes, up to the dynamic filters. -/
def optionSetters (vm : VariablesMap) : List SetterCall :=
  [.setIPs (vm.natExtIp.getD "") (vm.natIntIp.getD "")] ++
  vm.natType.toList.map .setNatType ++
  vm.natTimeout.toList.map .setTimeout ++
  vm.delay.toList.map .setDelay ++
  vm.loss.toList.map .setLoss ++
  vm.tbfInRate.toList.map (.setInRateLimit ∘ .ofInt) ++
  vm.tbfInMaxTokens.toList.map (.setInMaxTokens ∘ .ofInt) ++
  vm.tbfInMaxPackets.toList.map (.setInMaxPackets ∘ .ofInt) ++
  vm.tbfInRedStart.toList.map (.setInRedStart ∘ .ofInt) ++
  vm.tbfOutRate.toList.map (.setOutRateLimit ∘ .ofInt) ++
  vm.tbfOutMaxTokens.toList.map (.setOutMaxTokens ∘ .ofInt) ++
  vm.tbfOutMaxPackets.toList.map (.setOutMaxPackets ∘ .ofInt) ++
  vm.tbfOutRedStart.toList.map (.setOutRedStart ∘ .ofInt) ++
  vm.burstDur.toList.map .setBurstDuration ++
  vm.burstSleep.toList.map .setSleepDuration

/-- All of them. -/
def setters (vm : VariablesMap) : List SetterCall :=
  vm.optionSetters ++
  vm.curve.toList.map (fun c => .setDelays c.1 c.2) ++
  vm.pattern.toList.map (fun p => .setLosses p.1 p.2) ++
  vm.rulePorts.map fun ports => .setDnatRule (vm.natIntIp.getD "") ports.1 ports.2

/-- What `main` asks of the options that belong together. -/
structure Consistent (vm : VariablesMap) : Prop where
  delays : vm.dynDelays ≠ none → vm.dynDelayRes ≠ none
  losses : ∀ dl, vm.dynLosses = some dl → ∃ dlt, vm.dynLossTimes = some dlt ∧ dl.length = dlt.length
  ports : ∀ extNat intNat, vm.natExtPort = some extNat → vm.natIntPort = some intNat →
    extNat.length = intNat.length

end VariablesMap

namespace Router
variable (rt : Router) (vm : VariablesMap)

theorem configureAll_append (setters more : List SetterCall) :
    rt.configureAll (setters ++ more) = (rt.configureAll setters).configureAll more :=
  List.foldl_append ..

theorem given_eq {α : Type} (option : Option α) (set : Router → α → Router) (call : α → SetterCall)
    (hset : ∀ rt value, set rt value = configure rt (call value)) :
    rt.given option set = rt.configureAll (option.toList.map call) := by
  cases option with
  | none => rfl
  | some value => exact hset rt value

theorem setDynDelays_ok {rt' : Router} : rt.setDynDelays vm = .ok rt' ↔
    (vm.dynDelays ≠ none → vm.dynDelayRes ≠ none) ∧
      rt' = rt.configureAll (vm.curve.toList.map fun c => .setDelays c.1 c.2) := by
  unfold setDynDelays VariablesMap.curve
  cases vm.dynDelays <;> cases vm.dynDelayRes <;> simp [configureAll, configure, eq_comm]

theorem setDynLosses_ok {rt' : Router} : rt.setDynLosses vm = .ok rt' ↔
    (∀ dl, vm.dynLosses = some dl →
      ∃ dlt, vm.dynLossTimes = some dlt ∧ dl.length = dlt.length) ∧
      rt' = rt.configureAll (vm.pattern.toList.map fun p => .setLosses p.1 p.2) := by
  unfold setDynLosses VariablesMap.pattern
  cases vm.dynLosses with
  | none => simp [configureAll, eq_comm]
  | some dl =>
    cases vm.dynLossTimes with
    | none => simp
    | some dlt =>
      by_cases h : dl.length = dlt.length
      · simp [h, configureAll, configure, eq_comm]
      · simp [h]

theorem setPorts_ok {rt' : Router} : rt.setPorts vm = .ok rt' ↔
    (∀ extNat intNat, vm.natExtPort = some extNat → vm.natIntPort = some intNat →
      extNat.length = intNat.length) ∧
      rt' = rt.configureAll
        (vm.rulePorts.map fun ports => .setDnatRule (vm.natIntIp.getD "") ports.1 ports.2) := by
  unfold setPorts VariablesMap.rulePorts configureAll
  rw [List.foldl_map]
  cases vm.natExtPort with
  | none => simp [eq_comm]
  | some extNat =>
    cases vm.natIntPort with
    | none => simp [configure, eq_comm]
    | some intNat =>
      by_cases h : extNat.length = intNat.length
      · simp [h, configure, eq_comm]
      · simp [h]

theorem setOptions_eq : rt.setOptions vm = rt.configureAll vm.optionSetters := by
  simp only [VariablesMap.optionSetters, configureAll_append]
  unfold setOptions
  rw [← given_eq _ vm.burstSleep setSleepDuration _ fun _ _ => rfl,
    ← given_eq _ vm.burstDur setBurstDuration _ fun _ _ => rfl,
    ← given_eq _ vm.tbfOutRedStart (fun rt s => rt.setTbfOutRedStart (.ofInt s)) _ fun _ _ => rfl,
    ← given_eq _ vm.tbfOutMaxPackets (fun rt p => rt.setTbfOutMaxPackets (.ofInt p)) _ fun _ _ => rfl,
    ← given_eq _ vm.tbfOutMaxTokens (fun rt t => rt.setTbfOutMaxTokens (.ofInt t)) _ fun _ _ => rfl,
    ← given_eq _ vm.tbfOutRate (fun rt rate => rt.setTbfOutRateLimit (.ofInt rate)) _ fun _ _ => rfl,
    ← given_eq _ vm.tbfInRedStart (fun rt s => rt.setTbfInRedStart (.ofInt s)) _ fun _ _ => rfl,
    ← given_eq _ vm.tbfInMaxPackets (fun rt p => rt.setTbfInMaxPackets (.ofInt p)) _ fun _ _ => rfl,
    ← given_eq _ vm.tbfInMaxTokens (fun rt t => rt.setTbfInMaxTokens (.ofInt t)) _ fun _ _ => rfl,
    ← given_eq _ vm.tbfInRate (fun rt rate => rt.setTbfInRateLimit (.ofInt rate)) _ fun _ _ => rfl,
    ← given_eq _ vm.loss setLoss _ fun _ _ => rfl, ← given_eq _ vm.delay setDelay _ fun _ _ => rfl,
    ← given_eq _ vm.natTimeout setNatTimeout _ fun _ _ => rfl,
    ← given_eq _ vm.natType setNatType _ fun _ _ => rfl]
  rfl

end Router

theorem bind_ok_iff {ε α β : Type} {x : Except ε α} {f : α → Except ε β} {b : β} :
    (x >>= f) = .ok b ↔ ∃ a, x = .ok a ∧ f a = .ok b := by
  cases x with
  | error e =>
    constructor
    · intro h
      cases h
    · rintro ⟨a, h, -⟩
      cases h
  | ok a =>
    constructor
    · intro h
      exact ⟨a, rfl, h⟩
    · rintro ⟨a', h, h'⟩
      cases h
      exact h'

/-- The options that belong together, one after the other. -/
theorem Router.setAll_ok (rt : Router) (vm : VariablesMap) {rt' : Router} :
    rt.setAll vm = .ok rt' ↔ vm.Consistent ∧ rt' = rt.configureAll vm.setters := by
  simp only [setAll, bind_ok_iff, setOptions_eq, setDynDelays_ok, setDynLosses_ok, setPorts_ok]
  constructor
  · rintro ⟨rt₁, ⟨hdelays, h₁⟩, rt₂, ⟨hlosses, h₂⟩, hports, h₃⟩
    refine ⟨⟨hdelays, hlosses, hports⟩, ?_⟩
    rw [h₃, h₂, h₁]
    simp only [VariablesMap.setters, configureAll_append]
  · rintro ⟨⟨hdelays, hlosses, hports⟩, h⟩
    refine ⟨_, ⟨hdelays, Eq.refl _⟩, _, ⟨hlosses, Eq.refl _⟩, hports, ?_⟩
    rw [h]
    simp only [VariablesMap.setters, configureAll_append]

/-- **When `main` gets to `execute`, and with which router.** -/
theorem main_ok_iff {parsed : Option VariablesMap} {rt : Router} {ipv6 : Bool} :
    main parsed = .ok (rt, ipv6) ↔ ∃ vm extIf rt₀, parsed = some vm ∧ vm.help = false ∧
      vm.extIf = some extIf ∧ Router.build extIf (vm.filters.map (vm.acceptMode, ·)) = some rt₀ ∧
      vm.Consistent ∧ rt = rt₀.configureAll vm.setters ∧ ipv6 = vm.ipv6 := by
  unfold main
  constructor
  · intro h
    split at h
    · cases h
    · rename_i vm
      split at h
      · cases h
      · rename_i hhelp
        split at h
        · cases h
        · rename_i extIf hext
          split at h
          · cases h
          · rename_i rt₀ hbuild
            obtain ⟨rt', hset, h⟩ := bind_ok_iff.mp h
            obtain ⟨rfl, rfl⟩ := Prod.mk.inj (Except.ok.inj h)
            obtain ⟨hcons, hrt⟩ := (rt₀.setAll_ok vm).mp hset
            exact ⟨vm, extIf, rt₀, rfl, by simpa using hhelp, hext, hbuild, hcons, hrt, rfl⟩
  · rintro ⟨vm, extIf, rt₀, rfl, hhelp, hext, hbuild, hcons, hrt, rfl⟩
    simp only [hhelp, hext, hbuild, Bool.false_eq_true, if_false]
    exact bind_ok_iff.mpr ⟨rt, (rt₀.setAll_ok vm).mpr ⟨hcons, hrt⟩, rfl⟩

/-- The router is always built, whatever is listed. -/
theorem Router.exists_build (extIf : String) (filters : Option (Bool × List String)) :
    ∃ rt, Router.build extIf filters = some rt := by
  cases filters with
  | some given =>
    obtain ⟨rt, h, -⟩ := Router.init_ready extIf given.1 given.2
    exact ⟨rt, h⟩
  | none =>
    obtain ⟨rt, h, -⟩ := Router.initAll_ready extIf
    exact ⟨rt, h⟩

namespace Router
variable {rt : Router} {vm : VariablesMap} {e : MainExit}

theorem setDynDelays_error (h : rt.setDynDelays vm = .error e) :
    e.code = some 1 ∧ e.message ≠ "" := by
  unfold setDynDelays at h
  split at h
  · cases h
  · cases h
    decide
  · cases h

theorem setDynLosses_error (h : rt.setDynLosses vm = .error e) :
    e.code = some 1 ∧ e.message ≠ "" := by
  unfold setDynLosses at h
  split at h
  · split at h
    · cases h
      decide
    · cases h
  · cases h
    decide
  · cases h

theorem setPorts_error (h : rt.setPorts vm = .error e) : e.code = some 1 ∧ e.message ≠ "" := by
  unfold setPorts at h
  split at h
  · dsimp only at h
    split at h
    · cases h
      decide
    · cases h
  · cases h

/-- An exit that is due to the options that belong together. -/
theorem setAll_error (h : rt.setAll vm = .error e) : e.code = some 1 ∧ e.message ≠ "" := by
  unfold setAll at h
  cases hdelays : (rt.setOptions vm).setDynDelays vm with
  | error e' =>
    rw [hdelays] at h
    cases h
    exact setDynDelays_error hdelays
  | ok rt₁ =>
    rw [hdelays] at h
    cases hlosses : rt₁.setDynLosses vm with
    | error e' =>
      simp only [bind, Except.bind, hlosses] at h
      cases h
      exact setDynLosses_error hlosses
    | ok rt₂ =>
      simp only [bind, Except.bind, hlosses] at h
      exact setPorts_error h

end Router

/-- **`main` executes the router or says why not.**  It gets to `execute` iff the options
are legal, ask for no help, name the external interface, and belong together; any list of
filters will do.  It exits with 0 iff help is asked for, else with 1 and a message. -/
theorem main_executes_or_exits (parsed : Option VariablesMap) :
    ((∃ out, main parsed = .ok out) ↔
      ∃ vm, parsed = some vm ∧ vm.help = false ∧ vm.extIf ≠ none ∧ vm.Consistent) ∧
    ∀ e, main parsed = .error e →
      (e.code = some 0 ↔ ∃ vm, parsed = some vm ∧ vm.help = true) ∧
      (e.code ≠ some 0 → e.code = some 1 ∧ e.message ≠ "") := by
  refine ⟨⟨?_, ?_⟩, ?_⟩
  · rintro ⟨⟨rt, ipv6⟩, h⟩
    obtain ⟨vm, extIf, rt₀, rfl, hhelp, hext, -, hcons, -⟩ := main_ok_iff.mp h
    exact ⟨vm, rfl, hhelp, by simp [hext], hcons⟩
  · rintro ⟨vm, rfl, hhelp, hext, hcons⟩
    obtain ⟨extIf, hext⟩ := Option.ne_none_iff_exists'.mp hext
    obtain ⟨rt₀, hbuild⟩ := Router.exists_build extIf (vm.filters.map (vm.acceptMode, ·))
    exact ⟨_, main_ok_iff.mpr ⟨vm, extIf, rt₀, rfl, hhelp, hext, hbuild, hcons, rfl, rfl⟩⟩
  · intro e h
    unfold main at h
    split at h
    · cases h
      simp [MainExit.code, MainExit.message]
    · rename_i vm
      split at h
      · rename_i hhelp
        cases h
        simp [MainExit.code, hhelp]
      · rename_i hhelp
        -- help was not asked for, so the code is 1
        suffices hone : e.code = some 1 ∧ e.message ≠ "" by
          refine ⟨?_, fun _ => hone⟩
          rw [hone.1]
          refine iff_of_false (by decide) ?_
          rintro ⟨vm', hvm, hhelp'⟩
          obtain rfl := Option.some.inj hvm
          exact hhelp hhelp'
        split at h
        · cases h
          decide
        · rename_i extIf hext
          obtain ⟨rt₀, hbuild⟩ := Router.exists_build extIf (vm.filters.map (vm.acceptMode, ·))
          simp only [hbuild] at h
          cases hset : rt₀.setAll vm with
          | error e' =>
            rw [hset] at h
            cases h
            exact Router.setAll_error hset
          | ok rt =>
            rw [hset] at h
            cases h

end ShapingRouter
