import Mathlib
import ShapingRouter.DelayFilters
import ShapingRouter.Library.Run

/-! # When the delay filters forward a packet

A delay filter serves one packet at a time: a packet waits for the one before it, and
only then is its own timer armed.  Here the filters run with a clock.  Timers are ideal:
a timer fires when its time has come, and the clock stands still while a posted call
waits (`TimedDelay.Step`).

A packet that waited for the one before it was, by then, not yet late itself, because
the one before it had come no later and was stamped no later.  So no waiting adds up: a
packet leaves no later than the largest delay that was ever in force would have it, and
the packets leave in the order in which they came (`delay_is_exact`).

`DelayKind` says what the two filters have in common: packets take the steps of a
`DelayLine`, with the delay in force.  What else `DynamicDelay` does only changes the
delay.
-/

namespace ShapingRouter
open Library

/-- A delay filter: a `DelayLine` with a delay, which it may alter. -/
structure DelayKind (φ π : Type) where
  line : φ → DelayLine π
  delay : φ → Int
  init : φ → φ
  handlePacket : φ → π → φ
  popHandler : φ → (π → Int) → Nat → Option φ
  timeout : φ → Nat → Option (φ × π)
  Alters : φ → φ → Prop
  line_init : ∀ f, line (init f) = (line f).asyncPop
  delay_init : ∀ f, delay (init f) = delay f
  line_handlePacket : ∀ f pkt, line (handlePacket f pkt) = (line f).handlePacket pkt
  delay_handlePacket : ∀ f pkt, delay (handlePacket f pkt) = delay f
  line_popHandler : ∀ f age k, (popHandler f age k).map line = (line f).popHandler (delay f) age k
  delay_popHandler : ∀ {f age k f'}, popHandler f age k = some f' → delay f' = delay f
  line_timeout : ∀ f k, (timeout f k).map (fun r => (line r.1, r.2)) = (line f).timeout k
  delay_timeout : ∀ {f k r}, timeout f k = some r → delay r.1 = delay f
  line_alters : ∀ {f f'}, Alters f f' → line f' = line f

/-- `StaticDelay`, which keeps its delay. -/
def staticKind (π : Type) : DelayKind (StaticDelay π) π where
  line f := f.toDelayLine
  delay f := f.delay
  init := StaticDelay.init
  handlePacket := StaticDelay.handlePacket
  popHandler := StaticDelay.popHandler
  timeout := StaticDelay.timeout
  Alters _ _ := False
  line_init _ := rfl
  delay_init _ := rfl
  line_handlePacket _ _ := rfl
  delay_handlePacket _ _ := rfl
  line_popHandler f age k := by simp [StaticDelay.popHandler, Function.comp_def]
  delay_popHandler h := by
    obtain ⟨l, -, rfl⟩ := Option.map_eq_some_iff.mp h
    rfl
  line_timeout f k := by simp [StaticDelay.timeout, Function.comp_def]
  delay_timeout h := by
    obtain ⟨l, -, rfl⟩ := Option.map_eq_some_iff.mp h
    rfl
  line_alters h := h.elim

/-- `DynamicDelay`, whose delay is altered by the steps of its curve, or in any way. -/
def dynamicKind (π : Type) : DelayKind (DynamicDelay π) π where
  line f := f.toDelayLine
  delay f := f.delay
  init := DynamicDelay.init
  handlePacket := DynamicDelay.handlePacket
  popHandler := DynamicDelay.popHandler
  timeout := DynamicDelay.timeout
  Alters f f' := (∃ k, f.delayPopHandler k = some f') ∨ (∃ k, f.delayTimeout k = some f') ∨
    ∃ delay, f' = { f with delay := delay }
  line_init _ := rfl
  delay_init _ := rfl
  line_handlePacket _ _ := rfl
  delay_handlePacket _ _ := rfl
  line_popHandler f age k := by simp [DynamicDelay.popHandler, Function.comp_def]
  delay_popHandler h := by
    obtain ⟨l, -, rfl⟩ := Option.map_eq_some_iff.mp h
    rfl
  line_timeout f k := by simp [DynamicDelay.timeout, Function.comp_def]
  delay_timeout h := by
    obtain ⟨l, -, rfl⟩ := Option.map_eq_some_iff.mp h
    rfl
  line_alters h := by
    rcases h with ⟨k, h⟩ | ⟨k, h⟩ | ⟨delay, rfl⟩
    · exact DynamicDelay.delayPopHandler_line h
    · exact DynamicDelay.delayTimeout_line h
    · rfl

/-! ## One packet at a time -/

/-- What a delay filter is at: it waits for a packet; a packet was handed to `popHandler`;
or the timer of a packet is pending, armed for a time. -/
inductive Serving (π : Type)
  | idle
  | posted (pkt : π)
  | armed (pkt : π) (left : Int)

/-- No timer is pending. -/
def Serving.Unarmed {π : Type} : Serving π → Prop
  | idle | posted _ => True
  | armed _ _ => False

namespace DelayLine
variable {π : Type}

/-- What the line is at, and the packets that it holds, the first one first. -/
inductive Serves (l : DelayLine π) : Serving π → List π → Prop
  | idle : l.queue.callback = some .popHandler → l.queue.theQueue = [] → l.posted = [] →
      l.timers = [] → Serves l .idle []
  | posted {pkt : π} : l.queue.callback = none → l.posted = [(.popHandler, .ok pkt)] →
      l.timers = [] → Serves l (.posted pkt) (pkt :: l.queue.theQueue)
  | armed {pkt : π} {left : Int} : l.queue.callback = none → l.posted = [] →
      l.timers = [(pkt, left)] → Serves l (.armed pkt left) (pkt :: l.queue.theQueue)

variable {l l' : DelayLine π} {sv : Serving π} {held : List π}

theorem Serves.held_idle (hs : l.Serves .idle held) : held = [] := by
  cases hs with
  | idle hcallback hqueue hposted htimers => rfl

theorem Serves.held_posted {pkt : π} (hs : l.Serves (.posted pkt) held) :
    l.posted ≠ [] ∧ ∃ rest, held = pkt :: rest := by
  cases hs with
  | posted hcallback hposted htimers => exact ⟨by simp [hposted], _, rfl⟩

theorem Serves.posted_armed {pkt : π} {left : Int} (hs : l.Serves (.armed pkt left) held) :
    l.posted = [] := by
  cases hs with
  | armed hcallback hposted htimers => exact hposted

/-- Asking for the next packet, when nothing is posted or pending. -/
theorem serves_asyncPop (hposted : l.posted = []) (htimers : l.timers = []) :
    ∃ sv, l.asyncPop.Serves sv l.queue.theQueue ∧ Serving.Unarmed sv := by
  cases hq : l.queue.theQueue with
  | nil =>
    have hpop := AsyncQueue.asyncPop_of_nil l.isOpen hq DelayCallback.popHandler
    refine ⟨.idle, .idle ?_ ?_ ?_ htimers, trivial⟩
    · simp [asyncPop, hpop]
    · simp [asyncPop, hpop, hq]
    · simp [asyncPop, hpop, hposted]
  | cons pkt rest =>
    have hpop := AsyncQueue.asyncPop_of_cons l.isOpen hq DelayCallback.popHandler
    have hqueue : l.asyncPop.queue.theQueue = rest := by simp [asyncPop, hpop]
    refine ⟨.posted pkt, ?_, trivial⟩
    rw [← hqueue]
    refine .posted ?_ ?_ htimers
    · simp [asyncPop, hpop]
    · simp [asyncPop, hpop, hposted]

/-- A packet comes: it is served at once if nothing was, and else comes last. -/
theorem Serves.handlePacket (hs : l.Serves sv held) (pkt : π) :
    ∃ sv', (l.handlePacket pkt).Serves sv' (held ++ [pkt]) ∧
      (sv' = sv ∧ held ≠ [] ∨ Serving.Unarmed sv ∧ Serving.Unarmed sv') := by
  cases hs with
  | idle hcallback hqueue hposted htimers =>
    have hpush := AsyncQueue.push_of_some l.isOpen hcallback hqueue pkt
    have hempty : (l.handlePacket pkt).queue.theQueue = [] := by
      simp [DelayLine.handlePacket, hpush]
    refine ⟨.posted pkt, ?_, Or.inr ⟨trivial, trivial⟩⟩
    rw [List.nil_append, ← hempty]
    refine .posted ?_ ?_ htimers
    · simp [DelayLine.handlePacket, hpush]
    · simp [DelayLine.handlePacket, hpush, hposted]
  | @posted first hcallback hposted htimers =>
    have hpush := AsyncQueue.push_of_none l.isOpen hcallback pkt
    have hqueue : (l.handlePacket pkt).queue.theQueue = l.queue.theQueue ++ [pkt] := by
      simp [DelayLine.handlePacket, hpush]
    refine ⟨.posted first, ?_, Or.inl ⟨rfl, by simp⟩⟩
    rw [List.cons_append, ← hqueue]
    refine .posted ?_ ?_ htimers
    · simp [DelayLine.handlePacket, hpush, hcallback]
    · simp [DelayLine.handlePacket, hpush, hposted]
  | @armed first left hcallback hposted htimers =>
    have hpush := AsyncQueue.push_of_none l.isOpen hcallback pkt
    have hqueue : (l.handlePacket pkt).queue.theQueue = l.queue.theQueue ++ [pkt] := by
      simp [DelayLine.handlePacket, hpush]
    refine ⟨.armed first left, ?_, Or.inl ⟨rfl, by simp⟩⟩
    rw [List.cons_append, ← hqueue]
    refine .armed ?_ ?_ htimers
    · simp [DelayLine.handlePacket, hpush, hcallback]
    · simp [DelayLine.handlePacket, hpush, hposted]

/-- `popHandler` runs for the packet that was handed to it, and arms its timer. -/
theorem Serves.popHandler (hs : l.Serves sv held) {delay : Int} {age : π → Int} {k : Nat}
    (h : l.popHandler delay age k = some l') :
    ∃ pkt, sv = .posted pkt ∧ l.timers = [] ∧ l'.timers = [(pkt, max 0 (delay - age pkt))] ∧
      l'.Serves (.armed pkt (max 0 (delay - age pkt))) held := by
  unfold DelayLine.popHandler at h
  cases hs with
  | idle hcallback hqueue hposted htimers => simp [hposted] at h
  | armed hcallback hposted htimers => simp [hposted] at h
  | @posted pkt hcallback hposted htimers =>
    cases k with
    | succ k => simp [hposted] at h
    | zero =>
      simp only [hposted, List.getElem?_cons_zero, Option.some.injEq] at h
      subst h
      have hleft : (if delay - age pkt < 0 then 0 else delay - age pkt) = max 0 (delay - age pkt) := by
        omega
      refine ⟨pkt, rfl, htimers, ?_, .armed hcallback rfl ?_⟩
      · simp only [htimers, hleft, List.nil_append]
      · simp only [htimers, hleft, List.nil_append]

/-- It can run. -/
theorem Serves.exists_popHandler {pkt : π} (hs : l.Serves (.posted pkt) held) (delay : Int)
    (age : π → Int) : ∃ l', l.popHandler delay age 0 = some l' := by
  cases hs with
  | posted hcallback hposted htimers =>
    simp only [DelayLine.popHandler, hposted, List.getElem?_cons_zero]
    exact ⟨_, rfl⟩

/-- The timer of the first packet expires: the packet is forwarded, and the next one is
asked for. -/
theorem Serves.timeout (hs : l.Serves sv held) {k : Nat} {pkt : π}
    (h : l.timeout k = some (l', pkt)) :
    ∃ left rest sv', sv = .armed pkt left ∧ held = pkt :: rest ∧ l'.Serves sv' rest ∧
      Serving.Unarmed sv' := by
  unfold DelayLine.timeout at h
  cases hs with
  | idle hcallback hqueue hposted htimers => simp [htimers] at h
  | posted hcallback hposted htimers => simp [htimers] at h
  | @armed first left hcallback hposted htimers =>
    cases k with
    | succ k => simp [htimers] at h
    | zero =>
      simp only [htimers, List.getElem?_cons_zero, Option.some.injEq, Prod.mk.injEq] at h
      obtain ⟨rfl, rfl⟩ := h
      obtain ⟨sv', hserves, hunarmed⟩ := serves_asyncPop
        (l := { l with timers := [(first, left)].eraseIdx 0 }) hposted rfl
      exact ⟨left, _, sv', rfl, rfl, hserves, hunarmed⟩

/-- It can expire. -/
theorem Serves.exists_timeout {pkt : π} {left : Int} (hs : l.Serves (.armed pkt left) held) :
    ∃ r, l.timeout 0 = some r := by
  cases hs with
  | armed hcallback hposted htimers =>
    simp only [DelayLine.timeout, htimers, List.getElem?_cons_zero]
    exact ⟨_, rfl⟩

end DelayLine

/-! ## The filter and the clock -/

/-- A delay filter, the clock in microseconds, when the pending timers expire, and the
time stamp of the newest packet. -/
structure TimedDelay (φ : Type) where
  filter : φ
  now : Int
  expiries : List Int := []
  newest : Option Int := none

/-- What happens: a packet comes at a time; a call of `popHandler` arms the timer of a
packet, with the delay in force; a packet is forwarded at a time; the delay is altered;
the clock goes on. -/
inductive DelayEvent (π : Type)
  | handlePacket (pkt : π) (time : Int)
  | popHandler (k : Nat) (served : List (π × Int))
  | timeout (k : Nat) (pkt : π) (time : Int)
  | alter (delay : Int)
  | wait (time : Int)

namespace DelayEvent
variable {π : Type}

/-- The packet that comes, with the time. -/
def pushed : DelayEvent π → List (π × Int)
  | handlePacket pkt time => [(pkt, time)]
  | _ => []

/-- The packet that is popped, with the delay in force. -/
def popped : DelayEvent π → List (π × Int)
  | popHandler _ served => served
  | _ => []

/-- The packet that is forwarded, with the time. -/
def forwarded : DelayEvent π → List (π × Int)
  | timeout _ pkt time => [(pkt, time)]
  | _ => []

/-- A step that the filter takes by itself. -/
def Own : DelayEvent π → Prop
  | popHandler _ _ | timeout _ _ _ | wait _ => True
  | handlePacket _ _ | alter _ => False

end DelayEvent

section History
variable {π : Type}

/-- The packets that came, the first one first. -/
def pushes (h : List (DelayEvent π)) : List (π × Int) := h.reverse.flatMap (·.pushed)

/-- The packets that were popped with the delays then in force, the first one first. -/
def pops (h : List (DelayEvent π)) : List (π × Int) := h.reverse.flatMap (·.popped)

/-- The packets that were forwarded, the first one first. -/
def forwards (h : List (DelayEvent π)) : List (π × Int) := h.reverse.flatMap (·.forwarded)

/-- The largest delay that was in force, starting with `delay`, and at least 0. -/
def maxDelay (delay : Int) : List (DelayEvent π) → Int
  | [] => max 0 delay
  | .alter d :: h => max d (maxDelay delay h)
  | .handlePacket _ _ :: h | .popHandler _ _ :: h | .timeout _ _ _ :: h | .wait _ :: h =>
    maxDelay delay h

variable (e : DelayEvent π) (h : List (DelayEvent π))

@[simp] theorem pushes_cons : pushes (e :: h) = pushes h ++ e.pushed := by
  simp [pushes]

@[simp] theorem pops_cons : pops (e :: h) = pops h ++ e.popped := by
  simp [pops]

@[simp] theorem forwards_cons : forwards (e :: h) = forwards h ++ e.forwarded := by
  simp [forwards]

theorem maxDelay_le_cons (delay : Int) : maxDelay delay h ≤ maxDelay delay (e :: h) := by
  cases e with
  | alter d => exact le_max_right _ _
  | handlePacket pkt time | popHandler k d | timeout k pkt time | wait time => exact le_refl _

end History

namespace TimedDelay
variable {φ π : Type}

/-- The timers that were armed between two states of the filter. -/
def armed (kind : DelayKind φ π) (f f' : φ) : List (π × Int) :=
  (kind.line f').timers.drop (kind.line f).timers.length

/-- One step, where `stamp` gives the packets' time stamps.  A packet comes with a time
stamp that is not in the future, and not before that of the packet that came before it.
A timer fires just when it expires; the clock does not go on while a call is posted, nor
past the expiry of a timer. -/
inductive Step (kind : DelayKind φ π) (stamp : π → Int) (s : TimedDelay φ) :
    DelayEvent π → TimedDelay φ → Prop
  | handlePacket (pkt : π) : stamp pkt ≤ s.now → (∀ t, s.newest = some t → t ≤ stamp pkt) →
      Step kind stamp s (.handlePacket pkt s.now)
        { s with filter := kind.handlePacket s.filter pkt, newest := some (stamp pkt) }
  | popHandler (k : Nat) (f : φ) :
      kind.popHandler s.filter (fun pkt => s.now - stamp pkt) k = some f →
      Step kind stamp s
        (.popHandler k ((armed kind s.filter f).map fun t => (t.1, kind.delay s.filter)))
        { s with
          filter := f, expiries := s.expiries ++ (armed kind s.filter f).map (s.now + ·.2) }
  | timeout (k : Nat) (f : φ) (pkt : π) : s.expiries[k]? = some s.now →
      kind.timeout s.filter k = some (f, pkt) →
      Step kind stamp s (.timeout k pkt s.now)
        { s with filter := f, expiries := s.expiries.eraseIdx k }
  | alter (f : φ) : kind.Alters s.filter f →
      Step kind stamp s (.alter (kind.delay f)) { s with filter := f }
  | wait (time : Int) : s.now ≤ time → (kind.line s.filter).posted = [] →
      (∀ e ∈ s.expiries, time ≤ e) → Step kind stamp s (.wait time) { s with now := time }

/-- The runs from a new filter with a delay, with all packets after `init`. -/
abbrev Runs (kind : DelayKind φ π) (stamp : π → Int) (delay : Int) :
    List (DelayEvent π) → TimedDelay φ → Prop :=
  Run (Step kind stamp) fun s =>
    ∃ f now, kind.line f = .new ∧ kind.delay f = delay ∧ s = { filter := kind.init f, now := now }

/-- Steps that the filter takes by itself. -/
abbrev OwnSteps (kind : DelayKind φ π) (stamp : π → Int) (s : TimedDelay φ) :
    List (DelayEvent π) → TimedDelay φ → Prop :=
  Run (Guarded (Step kind stamp) fun _ e => e.Own) (· = s)

/-! ## The invariant -/

/-- What the pending timer will do.  `held` are the packets held, with the times at which
they came. -/
def Timer (stamp : π → Int) (delay : Int) (h : List (DelayEvent π)) (s : TimedDelay φ)
    (held : List (π × Int)) : Serving π → Prop
  | .idle | .posted _ => s.expiries = [] ∧ (pops h).length = (forwards h).length
  | .armed pkt _ => ∃ a d expiry rest, held = (pkt, a) :: rest ∧ s.expiries = [expiry] ∧
      (pops h).length = (forwards h).length + 1 ∧ (pops h)[(forwards h).length]? = some (pkt, d) ∧
      s.now ≤ expiry ∧ stamp pkt + d ≤ expiry ∧ expiry ≤ max a (stamp pkt + maxDelay delay h)

/-- The packets came in the order of their time stamps, and none came before it was
stamped. -/
structure Arrivals (stamp : π → Int) (h : List (DelayEvent π)) (s : TimedDelay φ) : Prop where
  sorted : (pushes h).Pairwise fun p q => stamp p.1 ≤ stamp q.1 ∧ p.2 ≤ q.2
  past : ∀ p ∈ pushes h, stamp p.1 ≤ p.2 ∧ p.2 ≤ s.now
  newest : ∀ p ∈ pushes h, ∃ t, s.newest = some t ∧ stamp p.1 ≤ t

/-- **The invariant of the timed runs.**  The packets that came are those sent on and
those held, in this order, and none of those held is late. -/
structure Inv (kind : DelayKind φ π) (stamp : π → Int) (delay : Int) (h : List (DelayEvent π))
    (s : TimedDelay φ) (sv : Serving π) (sent held : List (π × Int)) : Prop where
  came : pushes h = sent ++ held
  order : sent.map (·.1) = (forwards h).map (·.1)
  line : (kind.line s.filter).Serves sv (held.map (·.1))
  arrivals : Arrivals stamp h s
  known : kind.delay s.filter ≤ maxDelay delay h
  due : ∀ p ∈ held, s.now ≤ max p.2 (stamp p.1 + maxDelay delay h)
  timer : Timer stamp delay h s held sv

variable {kind : DelayKind φ π} {stamp : π → Int} {delay : Int} {h : List (DelayEvent π)}
  {s s' : TimedDelay φ} {sv : Serving π} {sent held : List (π × Int)}

/-- Where no timer is pending, none will expire. -/
theorem timer_unarmed (hsv : sv.Unarmed) :
    Timer stamp delay h s held sv ↔
      s.expiries = [] ∧ (pops h).length = (forwards h).length := by
  cases sv with
  | idle | posted pkt => exact Iff.rfl
  | armed pkt left => exact hsv.elim

/-- The timer is not overdue. -/
theorem Timer.now_le (ht : Timer stamp delay h s held sv) : ∀ e ∈ s.expiries, s.now ≤ e := by
  cases sv with
  | idle | posted pkt => simp [ht.1]
  | armed pkt left =>
    obtain ⟨a, d, expiry, rest, -, hone, -, -, hnow, -, -⟩ := ht
    simpa [hone] using hnow

/-- A packet that comes last does not matter to the timer. -/
theorem Timer.append (ht : Timer stamp delay h s held sv) (p : π × Int) :
    Timer stamp delay h s (held ++ [p]) sv := by
  cases sv with
  | idle | posted pkt => exact ht
  | armed pkt left =>
    obtain ⟨a, d, expiry, rest, rfl, ht⟩ := ht
    exact ⟨a, d, expiry, rest ++ [p], rfl, ht⟩

/-- Nor does anything matter that pops and forwards no packet, as long as the clock does not
pass the expiry. -/
theorem Timer.keep (ht : Timer stamp delay h s held sv) {h' : List (DelayEvent π)}
    (hpops : pops h' = pops h) (hforwards : forwards h' = forwards h)
    (hmax : maxDelay delay h ≤ maxDelay delay h') (hexpiries : s'.expiries = s.expiries)
    (hnow : ∀ e ∈ s.expiries, s'.now ≤ e) : Timer stamp delay h' s' held sv := by
  cases sv with
  | idle | posted pkt =>
    obtain ⟨hnone, hlength⟩ := ht
    exact ⟨hexpiries.trans hnone, by rw [hpops, hforwards, hlength]⟩
  | armed pkt left =>
    obtain ⟨a, d, expiry, rest, hheld, hone, hlength, hpopped, -, hearly, hlate⟩ := ht
    have hbefore : s'.now ≤ expiry := hnow expiry (by simp [hone])
    refine ⟨a, d, expiry, rest, hheld, hexpiries.trans hone, ?_, ?_, hbefore, hearly, ?_⟩
    · rw [hpops, hforwards, hlength]
    · rw [hpops, hforwards, hpopped]
    · omega

/-- A packet comes. -/
theorem Arrivals.push (ha : Arrivals stamp h s) {pkt : π} (hpast : stamp pkt ≤ s.now)
    (hnewest : ∀ t, s.newest = some t → t ≤ stamp pkt) (f : φ) :
    Arrivals stamp (.handlePacket pkt s.now :: h)
      { s with filter := f, newest := some (stamp pkt) } := by
  have hpushes : pushes (.handlePacket pkt s.now :: h) = pushes h ++ [(pkt, s.now)] :=
    pushes_cons _ _
  have hstamp : ∀ p ∈ pushes h, stamp p.1 ≤ stamp pkt := by
    intro p hp
    obtain ⟨t, ht, hle⟩ := ha.newest p hp
    exact hle.trans (hnewest t ht)
  constructor
  · rw [hpushes, List.pairwise_append]
    refine ⟨ha.sorted, List.pairwise_singleton _ _, ?_⟩
    intro p hp q hq
    obtain rfl := List.mem_singleton.mp hq
    exact ⟨hstamp p hp, (ha.past p hp).2⟩
  · intro p hp
    rw [hpushes, List.mem_append, List.mem_singleton] at hp
    rcases hp with hp | rfl
    · exact ha.past p hp
    · exact ⟨hpast, le_refl _⟩
  · intro p hp
    rw [hpushes, List.mem_append, List.mem_singleton] at hp
    rcases hp with hp | rfl
    · exact ⟨_, rfl, hstamp p hp⟩
    · exact ⟨_, rfl, le_refl _⟩

/-- Any other step. -/
theorem Arrivals.keep (ha : Arrivals stamp h s) {h' : List (DelayEvent π)}
    (hpushes : pushes h' = pushes h) (hnow : s.now ≤ s'.now) (hnewest : s'.newest = s.newest) :
    Arrivals stamp h' s' := by
  constructor
  · rw [hpushes]
    exact ha.sorted
  · rw [hpushes]
    intro p hp
    have hpast := ha.past p hp
    exact ⟨hpast.1, hpast.2.trans hnow⟩
  · rw [hpushes, hnewest]
    exact ha.newest

theorem Inv.start {f : φ} (now : Int) (hline : kind.line f = .new) (hdelay : kind.delay f = delay) :
    ∃ sv, Inv kind stamp delay [] { filter := kind.init f, now := now } sv [] [] := by
  obtain ⟨sv, hserves, hunarmed⟩ := DelayLine.serves_asyncPop (l := kind.line f)
    (by rw [hline]; rfl) (by rw [hline]; rfl)
  have hqueue : (kind.line f).queue.theQueue = [] := by rw [hline]; rfl
  rw [hqueue, ← kind.line_init] at hserves
  have hknown : kind.delay (kind.init f) ≤ max 0 delay := by
    rw [kind.delay_init, hdelay]
    exact le_max_right _ _
  exact ⟨sv, rfl, rfl, hserves, ⟨.nil, by simp [pushes], by simp [pushes]⟩, hknown, by simp,
    (timer_unarmed hunarmed).mpr ⟨rfl, rfl⟩⟩

/-- A packet comes. -/
theorem Inv.handlePacket (hi : Inv kind stamp delay h s sv sent held) {pkt : π}
    (hpast : stamp pkt ≤ s.now) (hnewest : ∀ t, s.newest = some t → t ≤ stamp pkt) :
    ∃ sv', Inv kind stamp delay (.handlePacket pkt s.now :: h)
      { s with filter := kind.handlePacket s.filter pkt, newest := some (stamp pkt) } sv' sent
      (held ++ [(pkt, s.now)]) := by
  obtain ⟨sv', hserves, hsv⟩ := hi.line.handlePacket pkt
  have hpushes : pushes (.handlePacket pkt s.now :: h) = pushes h ++ [(pkt, s.now)] :=
    pushes_cons _ _
  have hforwards : forwards (.handlePacket pkt s.now :: h) = forwards h := by
    simp [DelayEvent.forwarded]
  have hpops : pops (.handlePacket pkt s.now :: h) = pops h := by simp [DelayEvent.popped]
  have hmax : maxDelay delay (.handlePacket pkt s.now :: h) = maxDelay delay h := rfl
  have htimer : Timer stamp delay (.handlePacket pkt s.now :: h)
      { s with filter := kind.handlePacket s.filter pkt, newest := some (stamp pkt) }
      (held ++ [(pkt, s.now)]) sv' := by
    rcases hsv with ⟨rfl, -⟩ | ⟨hsv, hsv'⟩
    · have ht := hi.timer.append (pkt, s.now)
      exact ht.keep hpops hforwards hmax.ge rfl ht.now_le
    · rw [timer_unarmed hsv', hforwards, hpops]
      exact (timer_unarmed hsv).mp hi.timer
  refine ⟨sv', ?_, ?_, ?_, hi.arrivals.push hpast hnewest _, ?_, ?_, htimer⟩
  · rw [hpushes, hi.came, List.append_assoc]
  · rw [hforwards, hi.order]
  · rw [List.map_append, kind.line_handlePacket]
    exact hserves
  · show kind.delay (kind.handlePacket s.filter pkt) ≤ maxDelay delay h
    rw [kind.delay_handlePacket]
    exact hi.known
  · intro p hp
    rw [List.mem_append, List.mem_singleton] at hp
    rcases hp with hp | rfl
    · exact hi.due p hp
    · exact le_max_left _ _

/-- A packet is popped, and its timer armed. -/
theorem Inv.popHandler (hi : Inv kind stamp delay h s sv sent held) {k : Nat} {f : φ}
    (hpop : kind.popHandler s.filter (fun pkt => s.now - stamp pkt) k = some f) :
    ∃ pkt left, Inv kind stamp delay
      (.popHandler k ((armed kind s.filter f).map fun t => (t.1, kind.delay s.filter)) :: h)
      { s with
        filter := f, expiries := s.expiries ++ (armed kind s.filter f).map (s.now + ·.2) }
      (.armed pkt left) sent held := by
  have hline := kind.line_popHandler s.filter (fun pkt => s.now - stamp pkt) k
  rw [hpop, Option.map_some] at hline
  obtain ⟨pkt, rfl, hbefore, hafter, hserves⟩ := hi.line.popHandler hline.symm
  obtain ⟨hexpiries, hlength⟩ := hi.timer
  have harmed : armed kind s.filter f = [(pkt, max 0 (kind.delay s.filter - (s.now - stamp pkt)))] := by
    simp [armed, hbefore, hafter]
  have hforwards : forwards (.popHandler k [(pkt, kind.delay s.filter)] :: h) = forwards h := by
    simp [DelayEvent.forwarded]
  have hpushes : pushes (.popHandler k [(pkt, kind.delay s.filter)] :: h) = pushes h := by
    simp [DelayEvent.pushed]
  have hpops : pops (.popHandler k [(pkt, kind.delay s.filter)] :: h) =
      pops h ++ [(pkt, kind.delay s.filter)] := pops_cons _ _
  -- the packet is the first one held
  obtain ⟨-, packets, hmap⟩ := hi.line.held_posted
  obtain ⟨⟨first, a⟩, rest, rfl, hfirst, -⟩ := List.map_eq_cons_iff.mp hmap
  obtain rfl : pkt = first := hfirst.symm
  have hdue := hi.due _ List.mem_cons_self
  have hknown := hi.known
  rw [harmed, List.map_singleton, List.map_singleton, hexpiries, List.nil_append]
  refine ⟨_, _, ?_, ?_, hserves, hi.arrivals.keep hpushes (le_refl _) rfl, ?_, hi.due, ?_⟩
  · rw [hpushes, hi.came]
  · rw [hforwards, hi.order]
  · show kind.delay f ≤ maxDelay delay h
    rw [kind.delay_popHandler hpop]
    exact hknown
  · refine ⟨a, kind.delay s.filter, _, rest, rfl, rfl, ?_, ?_, ?_, ?_, ?_⟩
    · rw [hpops, hforwards, List.length_append, hlength]
      rfl
    · rw [hpops, hforwards, ← hlength, List.getElem?_concat_length]
    · show s.now ≤ _
      omega
    · omega
    · show _ ≤ max a (stamp pkt + maxDelay delay h)
      dsimp only at hdue
      omega

/-- A packet is forwarded, in time. -/
theorem Inv.timeout (hi : Inv kind stamp delay h s sv sent held) {k : Nat} {f : φ} {pkt : π}
    (hexpiry : s.expiries[k]? = some s.now) (ht : kind.timeout s.filter k = some (f, pkt)) :
    ∃ a d rest sv', held = (pkt, a) :: rest ∧ (pops h)[(forwards h).length]? = some (pkt, d) ∧
      stamp pkt + d ≤ s.now ∧ s.now ≤ max a (stamp pkt + maxDelay delay h) ∧
      Inv kind stamp delay (.timeout k pkt s.now :: h)
        { s with filter := f, expiries := s.expiries.eraseIdx k } sv' (sent ++ [(pkt, a)]) rest := by
  have hline := kind.line_timeout s.filter k
  rw [ht, Option.map_some] at hline
  obtain ⟨left, rest', sv', rfl, hmap, hserves, hunarmed⟩ := hi.line.timeout hline.symm
  obtain ⟨a, d, expiry, rest, rfl, hexpiries, hlength, hpopped, -, hearly, hlate⟩ := hi.timer
  obtain ⟨rfl, rfl⟩ : k = 0 ∧ expiry = s.now := by
    cases k with
    | zero => simpa [hexpiries] using hexpiry
    | succ k => simp [hexpiries] at hexpiry
  obtain rfl : rest.map (·.1) = rest' := (List.cons.inj hmap).2
  have hpushes : pushes (.timeout 0 pkt s.now :: h) = pushes h := by simp [DelayEvent.pushed]
  have hpops : pops (.timeout 0 pkt s.now :: h) = pops h := by simp [DelayEvent.popped]
  have hforwards : forwards (.timeout 0 pkt s.now :: h) = forwards h ++ [(pkt, s.now)] :=
    forwards_cons _ _
  refine ⟨a, d, rest, sv', rfl, hpopped, hearly, hlate, ?_, ?_, hserves,
    hi.arrivals.keep hpushes (le_refl _) rfl, ?_, ?_, ?_⟩
  · rw [hpushes, hi.came, List.append_assoc]
    rfl
  · rw [hforwards, List.map_append, List.map_append, hi.order]
    rfl
  · show kind.delay f ≤ maxDelay delay h
    rw [show kind.delay f = kind.delay s.filter from kind.delay_timeout ht]
    exact hi.known
  · intro p hp
    exact hi.due p (List.mem_cons_of_mem _ hp)
  · rw [timer_unarmed hunarmed, hpops, hforwards, List.length_append, hlength]
    exact ⟨by simp [hexpiries], rfl⟩

/-- The delay changes. -/
theorem Inv.alter (hi : Inv kind stamp delay h s sv sent held) {f : φ}
    (ha : kind.Alters s.filter f) :
    Inv kind stamp delay (.alter (kind.delay f) :: h) { s with filter := f } sv sent held := by
  have hpushes : pushes (.alter (kind.delay f) :: h) = pushes h := by simp [DelayEvent.pushed]
  have hpops : pops (.alter (kind.delay f) :: h) = pops h := by simp [DelayEvent.popped]
  have hforwards : forwards (.alter (kind.delay f) :: h) = forwards h := by
    simp [DelayEvent.forwarded]
  have hmax := maxDelay_le_cons (.alter (kind.delay f)) h delay
  refine ⟨?_, ?_, ?_, hi.arrivals.keep hpushes (le_refl _) rfl, le_max_left _ _, ?_, ?_⟩
  · rw [hpushes, hi.came]
  · rw [hforwards, hi.order]
  · rw [kind.line_alters ha]
    exact hi.line
  · intro p hp
    exact (hi.due p hp).trans (max_le_max_left _ (by omega))
  · exact hi.timer.keep hpops hforwards hmax rfl hi.timer.now_le

/-- While packets are held a timer is pending, and it expires before any of them is
late: those behind the first one came later, and were stamped later. -/
theorem Inv.due_of_wait (hi : Inv kind stamp delay h s sv sent held) {time : Int}
    (hposted : (kind.line s.filter).posted = []) (hexpiries : ∀ e ∈ s.expiries, time ≤ e) :
    ∀ p ∈ held, time ≤ max p.2 (stamp p.1 + maxDelay delay h) := by
  cases sv with
  | idle =>
    intro p hp
    have hnone := hi.line.held_idle
    simp [List.map_eq_nil_iff.mp hnone] at hp
  | posted pkt => exact absurd hposted hi.line.held_posted.1
  | armed pkt left =>
    obtain ⟨a, d, expiry, rest, rfl, hone, -, -, -, -, hlate⟩ := hi.timer
    have hle : time ≤ expiry := hexpiries expiry (by simp [hone])
    have hsorted := hi.arrivals.sorted
    rw [hi.came, List.pairwise_append] at hsorted
    intro p hp
    rcases List.mem_cons.mp hp with rfl | hp
    · exact hle.trans hlate
    · have hafter := List.rel_of_pairwise_cons hsorted.2.1 hp
      dsimp only at hafter
      omega

/-- The clock goes on. -/
theorem Inv.wait (hi : Inv kind stamp delay h s sv sent held) {time : Int}
    (htime : s.now ≤ time) (hposted : (kind.line s.filter).posted = [])
    (hexpiries : ∀ e ∈ s.expiries, time ≤ e) :
    Inv kind stamp delay (.wait time :: h) { s with now := time } sv sent held := by
  have hpushes : pushes (.wait time :: h) = pushes h := by simp [DelayEvent.pushed]
  have hpops : pops (.wait time :: h) = pops h := by simp [DelayEvent.popped]
  have hforwards : forwards (.wait time :: h) = forwards h := by simp [DelayEvent.forwarded]
  have hmax : maxDelay delay (.wait time :: h) = maxDelay delay h := rfl
  refine ⟨?_, ?_, hi.line, hi.arrivals.keep hpushes htime rfl, hi.known,
    hi.due_of_wait hposted hexpiries, ?_⟩
  · rw [hpushes, hi.came]
  · rw [hforwards, hi.order]
  · exact hi.timer.keep hpops hforwards hmax.ge rfl hexpiries

/-- Every run keeps the invariant. -/
theorem inv (run : Runs kind stamp delay h s) :
    ∃ sv sent held, Inv kind stamp delay h s sv sent held := by
  induction run with
  | start hs =>
    obtain ⟨f, now, hline, hdelay, rfl⟩ := hs
    obtain ⟨sv, hi⟩ := Inv.start now hline hdelay
    exact ⟨sv, [], [], hi⟩
  | step run hstep ih =>
    obtain ⟨sv, sent, held, hi⟩ := ih
    cases hstep with
    | handlePacket pkt hpast hnewest =>
      obtain ⟨sv', hi'⟩ := hi.handlePacket hpast hnewest
      exact ⟨sv', _, _, hi'⟩
    | popHandler k f hpop =>
      obtain ⟨pkt, left, hi'⟩ := hi.popHandler hpop
      exact ⟨_, _, _, hi'⟩
    | timeout k f pkt hexpiry ht =>
      obtain ⟨a, d, rest, sv', -, -, -, -, hi'⟩ := hi.timeout hexpiry ht
      exact ⟨sv', _, _, hi'⟩
    | alter f ha => exact ⟨sv, sent, held, hi.alter ha⟩
    | wait time htime hposted hexpiries => exact ⟨sv, sent, held, hi.wait htime hposted hexpiries⟩

/-! ## Nothing is left behind -/

/-- When the timer of a packet is pending, the clock goes on and the packet is
forwarded. -/
theorem Inv.exists_timeout {pkt : π} {left : Int}
    (hi : Inv kind stamp delay h s (.armed pkt left) sent held) :
    ∃ p rest h' s' sv', held = p :: rest ∧ OwnSteps kind stamp s h' s' ∧
      Inv kind stamp delay (h' ++ h) s' sv' (sent ++ [p]) rest := by
  obtain ⟨a, d, expiry, rest, rfl, hexpiries, -, -, hnow, -, -⟩ := hi.timer
  have hposted := hi.line.posted_armed
  have hall : ∀ e ∈ s.expiries, expiry ≤ e := by simp [hexpiries]
  have hwait : Step kind stamp s (.wait expiry) { s with now := expiry } :=
    .wait expiry hnow hposted hall
  -- the timer can expire
  obtain ⟨r, hr⟩ := hi.line.exists_timeout
  rw [← kind.line_timeout s.filter 0] at hr
  obtain ⟨⟨f, fired⟩, ht, -⟩ := Option.map_eq_some_iff.mp hr
  have hexpiry : s.expiries[0]? = some expiry := by simp [hexpiries]
  have htimeout : Step kind stamp { s with now := expiry } (.timeout 0 fired expiry)
      { s with filter := f, now := expiry, expiries := s.expiries.eraseIdx 0 } :=
    .timeout 0 f fired hexpiry ht
  have hi' := hi.wait hnow hposted hall
  obtain ⟨b, d', rest', sv', hheld, -, -, -, hi''⟩ := hi'.timeout hexpiry ht
  obtain ⟨hfirst, rfl⟩ := List.cons.inj hheld
  rw [← hfirst] at hi''
  refine ⟨(pkt, a), rest, [.timeout 0 fired expiry, .wait expiry], _, sv', rfl, ?_, hi''⟩
  exact .step (.step (.start rfl) ⟨hwait, trivial⟩) ⟨htimeout, trivial⟩

/-- The first packet held is forwarded. -/
theorem Inv.exists_forward {p : π × Int} {rest : List (π × Int)}
    (hi : Inv kind stamp delay h s sv sent (p :: rest)) :
    ∃ h' s' sv', OwnSteps kind stamp s h' s' ∧
      Inv kind stamp delay (h' ++ h) s' sv' (sent ++ [p]) rest := by
  cases sv with
  | idle => exact absurd hi.line.held_idle (by simp)
  | armed pkt left =>
    obtain ⟨p, rest, h', s', sv', hheld, run, hi'⟩ := hi.exists_timeout
    obtain ⟨rfl, rfl⟩ := List.cons.inj hheld
    exact ⟨h', s', sv', run, hi'⟩
  | posted pkt =>
    obtain ⟨l, hl⟩ := hi.line.exists_popHandler (kind.delay s.filter) fun pkt => s.now - stamp pkt
    rw [← kind.line_popHandler] at hl
    obtain ⟨f, hpop, -⟩ := Option.map_eq_some_iff.mp hl
    have hstep : Step kind stamp s _ _ := .popHandler 0 f hpop
    obtain ⟨pkt, left, hi'⟩ := hi.popHandler hpop
    obtain ⟨p, rest, h', s', sv', hheld, run, hi''⟩ := hi'.exists_timeout
    obtain ⟨rfl, rfl⟩ := List.cons.inj hheld
    rw [List.append_cons] at hi''
    have hfirst : OwnSteps kind stamp s [_] _ := .step (.start rfl) ⟨hstep, trivial⟩
    exact ⟨_, s', sv', hfirst.trans run, hi''⟩

/-- All packets held are forwarded. -/
theorem Inv.exists_forwards (hi : Inv kind stamp delay h s sv sent held) :
    ∃ h' s' sv', OwnSteps kind stamp s h' s' ∧
      Inv kind stamp delay (h' ++ h) s' sv' (sent ++ held) [] := by
  induction held generalizing h s sv sent with
  | nil => exact ⟨[], s, sv, .start rfl, by simpa using hi⟩
  | cons p rest ih =>
    obtain ⟨h', s', sv', run, hi'⟩ := hi.exists_forward
    obtain ⟨h'', s'', sv'', run', hi''⟩ := ih hi'
    rw [← List.append_cons, ← List.append_assoc] at hi''
    exact ⟨h'' ++ h', s'', sv'', run.trans run', hi''⟩

/-! ## The filters are exact -/

/-- **No packet is reordered, lost or late.**  The packets forwarded are the first ones
that came, in their order.  A packet is forwarded no earlier than the delay in force when
it was popped asks for, and no later than the largest delay so far does.  No packet held
is overdue, and the filter can forward all of them by itself. -/
structure Punctual (kind : DelayKind φ π) (stamp : π → Int) (delay : Int)
    (h : List (DelayEvent π)) (s : TimedDelay φ) : Prop where
  order : (forwards h).map (·.1) <+: (pushes h).map (·.1)
  inTime : ∀ k pkt t earlier, .timeout k pkt t :: earlier <:+ h → ∃ a d,
    (pushes h)[(forwards earlier).length]? = some (pkt, a) ∧
    (pops earlier)[(forwards earlier).length]? = some (pkt, d) ∧
    a ≤ t ∧ stamp pkt + d ≤ t ∧ t ≤ max a (stamp pkt + maxDelay delay earlier)
  notOverdue : ∀ k pkt a, (forwards h).length ≤ k → (pushes h)[k]? = some (pkt, a) →
    s.now ≤ max a (stamp pkt + maxDelay delay h)
  ends : ∃ h' s', OwnSteps kind stamp s h' s' ∧
    (forwards (h' ++ h)).map (·.1) = (pushes h).map (·.1)

/-- What came earlier in a run came from a run. -/
theorem Runs.of_suffix (run : Runs kind stamp delay h s) {e : DelayEvent π}
    {earlier : List (DelayEvent π)} (hsuffix : e :: earlier <:+ h) :
    ∃ s₁ s₂, Runs kind stamp delay earlier s₁ ∧ Step kind stamp s₁ e s₂ := by
  induction run with
  | start hs => simp at hsuffix
  | @step h s s' e' run hstep ih =>
    rcases List.suffix_cons_iff.mp hsuffix with heq | hsuffix
    · obtain ⟨rfl, rfl⟩ := List.cons.inj heq
      exact ⟨s, s', run, hstep⟩
    · exact ih hsuffix

/-- What came earlier, came first. -/
theorem pushes_prefix {h h' : List (DelayEvent π)} (hsuffix : h' <:+ h) :
    pushes h' <+: pushes h := by
  obtain ⟨later, rfl⟩ := hsuffix
  exact ⟨later.reverse.flatMap (·.pushed), by simp [pushes]⟩

theorem punctual (run : Runs kind stamp delay h s) : Punctual kind stamp delay h s := by
  obtain ⟨sv, sent, held, hi⟩ := inv run
  have hlength : sent.length = (forwards h).length := by
    simpa using congrArg List.length hi.order
  constructor
  · rw [hi.came, List.map_append, hi.order]
    exact List.prefix_append _ _
  · intro k pkt t earlier hsuffix
    obtain ⟨s₁, s₂, run₁, hstep⟩ := run.of_suffix hsuffix
    obtain ⟨sv₁, sent₁, held₁, hi₁⟩ := inv run₁
    cases hstep with
    | timeout k f pkt hexpiry ht =>
      obtain ⟨a, d, rest, sv', rfl, hpopped, hearly, hlate, -⟩ := hi₁.timeout hexpiry ht
      have hlength₁ : sent₁.length = (forwards earlier).length := by
        simpa using congrArg List.length hi₁.order
      have hcame : (pushes earlier)[(forwards earlier).length]? = some (pkt, a) := by
        rw [hi₁.came, ← hlength₁, List.getElem?_append_right (le_refl _), Nat.sub_self]
        rfl
      obtain ⟨later, hlater⟩ := pushes_prefix ((List.suffix_cons _ _).trans hsuffix)
      have hpast := hi₁.arrivals.past _ (List.mem_of_getElem? hcame)
      refine ⟨a, d, ?_, hpopped, hpast.2, hearly, hlate⟩
      rw [← hlater, List.getElem?_append_left (List.getElem?_eq_some_iff.mp hcame).1, hcame]
  · intro k pkt a hk hpkt
    rw [hi.came, List.getElem?_append_right (by omega)] at hpkt
    exact hi.due _ (List.mem_of_getElem? hpkt)
  · obtain ⟨h', s', sv', run', hi'⟩ := hi.exists_forwards
    refine ⟨h', s', run', ?_⟩
    rw [← hi'.order, ← hi.came]

/-! ## The delay of `StaticDelay` -/

theorem static_delay {s : TimedDelay (StaticDelay π)}
    (run : Runs (staticKind π) stamp delay h s) :
    s.filter.delay = delay ∧ (∀ p ∈ pops h, p.2 = delay) ∧ maxDelay delay h = max 0 delay := by
  induction run with
  | start hs =>
    obtain ⟨f, now, -, hdelay, rfl⟩ := hs
    exact ⟨hdelay, by simp [pops], rfl⟩
  | step run hstep ih =>
    obtain ⟨hdelay, hpops, hmax⟩ := ih
    cases hstep with
    | handlePacket pkt hpast hnewest => exact ⟨hdelay, by simpa [DelayEvent.popped] using hpops, hmax⟩
    | popHandler k f hpop =>
      refine ⟨((staticKind π).delay_popHandler hpop).trans hdelay, ?_, hmax⟩
      intro p hp
      rw [pops_cons, List.mem_append] at hp
      rcases hp with hp | hp
      · exact hpops p hp
      · obtain ⟨t, -, rfl⟩ := List.mem_map.mp hp
        exact hdelay
    | timeout k f pkt hexpiry ht =>
      exact ⟨((staticKind π).delay_timeout ht).trans hdelay,
        by simpa [DelayEvent.popped] using hpops, hmax⟩
    | alter f ha => exact ha.elim
    | wait time htime hposted hexpiries =>
      exact ⟨hdelay, by simpa [DelayEvent.popped] using hpops, hmax⟩

end TimedDelay

open TimedDelay in
/-- **Serving one packet at a time adds no delay**, whatever the delay and its changes;
and `StaticDelay` forwards each packet exactly when its own delay has passed, or at once
if it had passed already. -/
theorem delay_is_exact {π : Type} (stamp : π → Int) (delay : Int) :
    (∀ h s, Runs (dynamicKind π) stamp delay h s → Punctual (dynamicKind π) stamp delay h s) ∧
    ∀ h s, Runs (staticKind π) stamp delay h s → Punctual (staticKind π) stamp delay h s ∧
      ∀ k pkt t earlier, .timeout k pkt t :: earlier <:+ h → ∃ a,
        (pushes h)[(forwards earlier).length]? = some (pkt, a) ∧ t = max a (stamp pkt + delay) := by
  refine ⟨fun h s run => punctual run, fun h s run => ⟨punctual run, ?_⟩⟩
  intro k pkt t earlier hsuffix
  obtain ⟨a, d, hcame, hpopped, ha, hearly, hlate⟩ := (punctual run).inTime k pkt t earlier hsuffix
  obtain ⟨s₁, s₂, run₁, -⟩ := run.of_suffix hsuffix
  obtain ⟨-, hpops, hmax⟩ := static_delay run₁
  obtain rfl : d = delay := hpops _ (List.mem_of_getElem? hpopped)
  obtain ⟨sv, sent, held, hi⟩ := inv run
  have hpast := (hi.arrivals.past _ (List.mem_of_getElem? hcame)).1
  refine ⟨a, hcame, ?_⟩
  dsimp only at hpast
  omega

open TimedDelay in
/-- The delay falls to 0 while a packet waits: the next packet does not overtake it. -/
theorem delay_falls : ∃ h s, Runs (dynamicKind Int) id 0 h s ∧
    forwards h = [(0, 1000), (300, 1000)] ∧ Punctual (dynamicKind Int) id 0 h s := by
  have start : Runs (dynamicKind Int) id 0 [] _ := .start ⟨.new [], 0, rfl, rfl, rfl⟩
  have first := ((start.step (.alter _ (.inr (.inr ⟨1000, rfl⟩)))).step
    (.handlePacket 0 (by decide) (by simp))).step (.popHandler 0 _ rfl)
  have second := ((first.step (.wait 400 (by decide) rfl (by decide))).step
    (.alter _ (.inr (.inr ⟨0, rfl⟩)))).step (.handlePacket 300 (by decide) (by simp))
  have third := ((second.step (.wait 1000 (by decide) rfl (by decide))).step
    (.timeout 0 _ 0 rfl rfl)).step (.popHandler 0 _ rfl)
  have run := third.step (.timeout 0 _ 300 rfl rfl)
  exact ⟨_, _, run, rfl, (delay_is_exact id 0).1 _ _ run⟩

end ShapingRouter
