import Mathlib
import ShapingRouter.Burst
import ShapingRouter.Library.Run

/-! # Burst and the order of packets

`Burst::handlePacket` reads `sleeping_` and then, in another step, forwards the packet
or pushes it to the buffer under the lock; the timer may expire in between.  A packet
that goes the direct way is in no danger, because the buffer is empty then.  A packet
that goes to the buffer is, when the buffer has just been flushed: it stays behind
while later packets pass it by, and leaves with the next burst.

`BurstThread` is the filter with one thread that handles packets.  The packets are
kept in order in all the runs whose pushes find the filter awake, and those are the
runs that never leave a packet behind (`burst_keeps_order`).
-/

namespace ShapingRouter
open Library

/-- `Burst`, and the packet that `handlePacket` is at, with what it has read. -/
structure BurstThread (π : Type) where
  filter : Burst π
  handling : Option (π × Bool) := none

/-- The atomic steps, and the packets that a timer forwards. -/
inductive BurstStepLabel (π : Type)
  | readSleeping (pkt : π)
  | push (pkt : π)
  | forward (pkt : π)
  | timeout (k : Nat) (sent : List π)

namespace BurstThread
variable {π : Type}

/-- The filter once `init` has been called, with its durations. -/
def start (burstDur sleepDur : Int) : BurstThread π where
  filter := (((({} : Burst π).setBurstDuration burstDur).setSleepDuration sleepDur).init).1

/-- One step of the thread or of the timer. -/
inductive Step (s : BurstThread π) : BurstStepLabel π → BurstThread π → Prop
  | readSleeping (pkt : π) : s.handling = none →
      Step s (.readSleeping pkt) { s with handling := some (pkt, s.filter.sleeping) }
  | push (pkt : π) : s.handling = some (pkt, false) →
      Step s (.push pkt)
        { filter := { s.filter with queue := s.filter.queue ++ [pkt] }, handling := none }
  | forward (pkt : π) : s.handling = some (pkt, true) →
      Step s (.forward pkt) { s with handling := none }
  | timeout (k : Nat) (f : Burst π) (sent : List π) : s.filter.timeout k = some (f, sent) →
      Step s (.timeout k sent) { s with filter := f }

/-- The condition: the locked push finds `sleeping_` unset. -/
def PushesAwake (s : BurstThread π) : BurstStepLabel π → Prop
  | .push _ => s.filter.sleeping = false
  | _ => True

/-- While the filter sleeps and no packet is handled, nothing is left in the buffer. -/
def Flushed (s : BurstThread π) : Prop :=
  s.handling = none → s.filter.sleeping = true → s.filter.queue = []

/-- The packet that is being handled. -/
def inHand (s : BurstThread π) : List π := (s.handling.map (·.1)).toList

/-- The runs from `init` on. -/
abbrev Runs (burstDur sleepDur : Int) : List (BurstStepLabel π) → BurstThread π → Prop :=
  Run Step (· = start burstDur sleepDur)

/-- The runs whose every push finds the filter awake. -/
abbrev AwakeRuns (burstDur sleepDur : Int) : List (BurstStepLabel π) → BurstThread π → Prop :=
  Run (Guarded Step PushesAwake) (· = start burstDur sleepDur)

/-- The runs that leave no packet behind. -/
abbrev FlushedRuns (burstDur sleepDur : Int) : List (BurstStepLabel π) → BurstThread π → Prop :=
  Run (Within Step Flushed) (· = start burstDur sleepDur)

end BurstThread

namespace BurstStepLabel
variable {π : Type}

/-- The packets handed in by a step. -/
def handed : BurstStepLabel π → List π
  | readSleeping pkt => [pkt]
  | _ => []

/-- The packets forwarded by a step. -/
def forwarded : BurstStepLabel π → List π
  | forward pkt => [pkt]
  | timeout _ sent => sent
  | _ => []

end BurstStepLabel

/-- The packets handed in, the first one first. -/
def handedIn {π : Type} (h : List (BurstStepLabel π)) : List π := h.reverse.flatMap (·.handed)

/-- The packets forwarded, the first one first. -/
def forwardedBy {π : Type} (h : List (BurstStepLabel π)) : List π := h.reverse.flatMap (·.forwarded)

section History
variable {π : Type} (e : BurstStepLabel π) (h : List (BurstStepLabel π))

@[simp] theorem handedIn_cons : handedIn (e :: h) = handedIn h ++ e.handed := by
  simp [handedIn]

@[simp] theorem forwardedBy_cons : forwardedBy (e :: h) = forwardedBy h ++ e.forwarded := by
  simp [forwardedBy]

end History

namespace BurstThread
variable {π : Type} {s s' : BurstThread π} {e : BurstStepLabel π} {h : List (BurstStepLabel π)}
  {burstDur sleepDur : Int}

/-- A packet that is handled without a timer in between is handled as one call of
`handlePacket`. -/
theorem handlePacket_steps (pkt : π) (hidle : s.handling = none) :
    ∃ label, label.forwarded = (s.filter.handlePacket pkt).2 ∧
      Run Step (· = s) [label, .readSleeping pkt]
        { s with filter := (s.filter.handlePacket pkt).1 } := by
  have hread : Run Step (· = s) [.readSleeping pkt]
      { s with handling := some (pkt, s.filter.sleeping) } :=
    .step (.start rfl) (.readSleeping pkt hidle)
  unfold Burst.handlePacket
  split
  · rename_i hsleeping
    refine ⟨.forward pkt, rfl, ?_⟩
    have hlast := hread.step (.forward pkt (by rw [hsleeping]))
    rwa [← hidle] at hlast
  · rename_i hsleeping
    refine ⟨.push pkt, rfl, ?_⟩
    have hlast := hread.step (.push pkt (by simp [hsleeping]))
    rwa [← hidle] at hlast

/-! ## A timer -/

/-- What a timer does: it ends the sleep, or it forwards all there is and begins it. -/
theorem timeout_cases {f f' : Burst π} {k : Nat} {sent : List π}
    (h : f.timeout k = some (f', sent)) :
    (f.sleeping = true ∧ f'.sleeping = false ∧ f'.queue = f.queue ∧ sent = []) ∨
    (f.sleeping = false ∧ f'.sleeping = true ∧ f'.queue = [] ∧ sent = f.queue) := by
  obtain ⟨_, h⟩ := Option.ite_none_right_eq_some.mp h
  unfold Burst.init at h
  split at h
  · rename_i hsleeping
    obtain ⟨rfl, rfl⟩ := Prod.mk.inj (Option.some.inj h)
    exact Or.inl ⟨hsleeping, rfl, rfl, rfl⟩
  · rename_i hsleeping
    obtain ⟨rfl, rfl⟩ := Prod.mk.inj (Option.some.inj h)
    exact Or.inr ⟨by simpa using hsleeping, rfl, rfl, rfl⟩

/-! ## The condition keeps the order -/

/-- **The invariant of the runs that meet the condition**: the packets leave in the
order in which they came, and a packet on its direct way has nothing ahead of it. -/
structure Inv (h : List (BurstStepLabel π)) (s : BurstThread π) : Prop where
  order : handedIn h = forwardedBy h ++ s.filter.queue ++ s.inHand
  asleep : s.filter.sleeping = true → s.filter.queue = []
  direct : ∀ pkt, s.handling = some (pkt, true) → s.filter.queue = []

theorem Inv.start : Inv [] (start burstDur sleepDur : BurstThread π) :=
  ⟨rfl, fun _ => rfl, fun _ _ => rfl⟩

theorem Inv.step (hI : Inv h s) (hs : Step s e s') (hawake : PushesAwake s e) :
    Inv (e :: h) s' := by
  have horder := hI.order
  cases hs with
  | readSleeping pkt hidle =>
    refine ⟨?_, hI.asleep, fun p hp => ?_⟩
    · rw [handedIn_cons, forwardedBy_cons, horder]
      simp [inHand, hidle, BurstStepLabel.handed, BurstStepLabel.forwarded]
    · exact hI.asleep (Prod.mk.inj (Option.some.inj hp)).2
  | push pkt hread =>
    refine ⟨?_, fun hsleeping => ?_, fun p hp => ?_⟩
    · rw [handedIn_cons, forwardedBy_cons, horder]
      simp [inHand, hread, BurstStepLabel.handed, BurstStepLabel.forwarded]
    · rw [show s.filter.sleeping = false from hawake] at hsleeping
      cases hsleeping
    · cases hp
  | forward pkt hread =>
    have hempty := hI.direct pkt hread
    refine ⟨?_, hI.asleep, fun p hp => ?_⟩
    · rw [handedIn_cons, forwardedBy_cons, horder]
      simp [inHand, hread, hempty, BurstStepLabel.handed, BurstStepLabel.forwarded]
    · cases hp
  | timeout k f sent ht =>
    rcases timeout_cases ht with ⟨hasleep, hawake', hqueue, rfl⟩ | ⟨-, -, hqueue, rfl⟩
    · refine ⟨?_, fun hsleeping => ?_, fun p hp => ?_⟩
      · rw [handedIn_cons, forwardedBy_cons, horder]
        simp [inHand, hqueue, BurstStepLabel.handed, BurstStepLabel.forwarded]
      · exact hqueue.trans (hI.asleep hasleep)
      · exact hqueue.trans (hI.asleep hasleep)
    · refine ⟨?_, fun _ => hqueue, fun _ _ => hqueue⟩
      rw [handedIn_cons, forwardedBy_cons, horder]
      simp [inHand, hqueue, BurstStepLabel.handed, BurstStepLabel.forwarded]

theorem inv (run : AwakeRuns burstDur sleepDur h s) : Inv h s := by
  induction run with
  | start hs =>
    subst hs
    exact .start
  | step _ hs ih => exact ih.step hs.1 hs.2

/-- A push that finds the filter asleep leaves its packet behind. -/
theorem awake_of_flushed (hs : Step s e s') (hflushed : Flushed s') : PushesAwake s e := by
  cases hs with
  | push pkt hread =>
    show s.filter.sleeping = false
    by_contra hsleeping
    have hempty := hflushed rfl (by simpa using hsleeping)
    exact absurd hempty (by simp)
  | readSleeping pkt hidle => trivial
  | forward pkt hread => trivial
  | timeout k f sent ht => trivial

theorem flushedRuns_of_awakeRuns (run : AwakeRuns burstDur sleepDur h s) :
    FlushedRuns burstDur sleepDur h s := by
  induction run with
  | start hs => exact .start hs
  | step run hs ih =>
    have hI := inv (run.step hs)
    exact ih.step ⟨hs.1, fun _ hsleeping => hI.asleep hsleeping⟩

theorem awakeRuns_of_flushedRuns (run : FlushedRuns burstDur sleepDur h s) :
    AwakeRuns burstDur sleepDur h s :=
  run.mono fun _ _ _ hs => ⟨hs.1, awake_of_flushed hs.1 hs.2⟩

end BurstThread

/-- **When Burst keeps packets in order.**  If every push finds the filter awake, then
in every state every packet handed in is forwarded, or in the buffer, or being handled,
once and in this order, and nothing is left in the buffer while the filter sleeps.  And
the runs in which nothing is ever left there are just the runs of this kind. -/
theorem burst_keeps_order {π : Type} {burstDur sleepDur : Int} {h : List (BurstStepLabel π)}
    {s : BurstThread π} :
    (BurstThread.AwakeRuns burstDur sleepDur h s →
      handedIn h = forwardedBy h ++ s.filter.queue ++ s.inHand ∧ s.Flushed) ∧
    (BurstThread.AwakeRuns burstDur sleepDur h s ↔ BurstThread.FlushedRuns burstDur sleepDur h s) := by
  refine ⟨fun run => ?_, BurstThread.flushedRuns_of_awakeRuns, BurstThread.awakeRuns_of_flushedRuns⟩
  have hI := BurstThread.inv run
  exact ⟨hI.order, fun _ hsleeping => hI.asleep hsleeping⟩

/-- A packet that is read and pushed in one collection window leaves at its end. -/
theorem burst_keeps_one :
    ∃ (h : List (BurstStepLabel Nat)) (s : BurstThread Nat), BurstThread.AwakeRuns 1 10 h s ∧
      handedIn h = [7] ∧ forwardedBy h = [7] ∧
      handedIn h = forwardedBy h ++ s.filter.queue ++ s.inHand := by
  have wake : BurstThread.AwakeRuns 1 10 [BurstStepLabel.timeout 0 ([] : List Nat)] _ :=
    .step (.start rfl) ⟨.timeout 0 _ _ rfl, trivial⟩
  have read := wake.step ⟨.readSleeping 7 rfl, trivial⟩
  have push := read.step ⟨.push 7 rfl, rfl⟩
  have flush := push.step ⟨.timeout 0 _ _ rfl, trivial⟩
  exact ⟨_, _, flush, rfl, rfl, (burst_keeps_order.1 flush).1⟩

/-- **Burst reorders**: 1 reads that the filter is awake, the window ends, 1 is pushed
and left behind, and 2 is forwarded before it. -/
theorem burst_reorders :
    ∃ (h h' : List (BurstStepLabel Nat)) (s s' : BurstThread Nat),
      BurstThread.Runs 1 10 h s ∧ ¬ s.Flushed ∧
      BurstThread.Runs 1 10 (h' ++ h) s' ∧ handedIn (h' ++ h) = [1, 2] ∧
        forwardedBy (h' ++ h) = [2, 1] := by
  have wake : BurstThread.Runs 1 10 [BurstStepLabel.timeout 0 ([] : List Nat)] _ :=
    .step (.start rfl) (.timeout 0 _ _ rfl)
  have read := wake.step (.readSleeping 1 rfl)
  have flush := read.step (.timeout 0 _ _ rfl)
  have push := flush.step (.push 1 rfl)
  have pass := (push.step (.readSleeping 2 rfl)).step (.forward 2 rfl)
  have last := (pass.step (.timeout 0 _ _ rfl)).step (.timeout 0 _ _ rfl)
  refine ⟨_, [_, _, _, _], _, _, push, fun hflushed => ?_, last, rfl, rfl⟩
  have hempty := hflushed rfl rfl
  cases hempty

end ShapingRouter
