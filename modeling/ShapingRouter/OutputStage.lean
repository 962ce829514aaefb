import Mathlib
import ShapingRouter.Library.Run
import ShapingRouter.OutputLibnet

/-! # The output stage and its consumer token

`OutputLibnet` and `Output6Libnet` consume their queue with one callback.  It is
registered in the queue, or posted to the `io_service`, or, during a run of
`popHandler`, in the hands of that run, which gives it back by calling
`asyncPop` and loses it when it returns early.  While the token is not lost, a
waiting packet has a run of `popHandler` coming to it; a lost token never comes
back.  So the stage survives exactly while every run gets through
(`output_survives_iff`).

Both stages are one state machine, `OutputStage`, with the `popHandler` as its
parameter.  Packets are handed over in the order they were pushed in, whatever
becomes of the token.
-/

namespace ShapingRouter
open Library

/-- The one callback that an output stage registers. -/
inductive OutputCallback
  | popHandler
  deriving DecidableEq, Repr

/-- An output stage: its queue, whether `l_` is not `NULL`, and the callbacks that
wait in the `io_service`. -/
structure OutputStage (α : Type) where
  queue : AsyncQueue OutputCallback α
  handle : Bool
  posted : List (OutputCallback × Delivery α)

/-- What happens to an output stage.  `pop d r` is a run of `popHandler` on `d`, in
which libnet succeeds as `r` says. -/
inductive OutputEvent (α : Type)
  | push (data : α)
  | pop (d : Delivery α) (r : LibnetResults)
  | niceClose
  | close

namespace OutputStage
variable {α : Type} (popHandler : LibnetResults → Bool → Delivery α → PopRun)

/-- An operation on the queue, and the posting of what it posts. -/
def onQueue (s : OutputStage α)
    (op : AsyncQueue OutputCallback α →
      AsyncQueue OutputCallback α × List (OutputCallback × Delivery α)) : OutputStage α :=
  { s with queue := (op s.queue).1, posted := s.posted ++ (op s.queue).2 }

/-- The stage when a run of `popHandler` has come to its end, or returned early. -/
def afterRun (s : OutputStage α) (i : Nat) (run : PopRun) : OutputStage α :=
  { s with handle := run.handle, posted := s.posted.eraseIdx i }

/-- A run of `popHandler`, with the `asyncPop` it may end in. -/
def runPopHandler (s : OutputStage α) (i : Nat) (d : Delivery α) (r : LibnetResults) :
    OutputStage α :=
  if (popHandler r s.handle d).rearmed then
    (s.afterRun i (popHandler r s.handle d)).onQueue (·.asyncPop .popHandler)
  else s.afterRun i (popHandler r s.handle d)

/-- The steps: a push, a run of any posted callback, and the two ways to close. -/
inductive Step (s : OutputStage α) : OutputEvent α → OutputStage α → Prop
  | push (data : α) : Step s (.push data) (s.onQueue (·.push data))
  | pop (i : Nat) (d : Delivery α) (r : LibnetResults) :
      s.posted[i]? = some (.popHandler, d) → Step s (.pop d r) (s.runPopHandler popHandler i d r)
  | niceClose : Step s .niceClose (s.onQueue (·.niceClose))
  | close : Step s .close (s.onQueue (·.close))

/-- The stage before `init`, with the packets that came before it. -/
def uninit (before : List α) (handle : Bool) : OutputStage α := ⟨{ theQueue := before }, handle, []⟩

/-- `init`. -/
def init (s : OutputStage α) : OutputStage α := s.onQueue (·.asyncPop .popHandler)

/-- A run of a stage that was given the packets `before` before `init`. -/
abbrev Runs (before : List α) : List (OutputEvent α) → OutputStage α → Prop :=
  Run (Step popHandler) (fun s => ∃ handle, s = (uninit before handle).init)

/-- Unless the queue was stopped: the callback is registered and the queue is
empty, or there is one `popHandler` posted, and not both. -/
def Healthy (s : OutputStage α) : Prop :=
  s.queue.Open →
    Xor (s.queue.callback = some .popHandler ∧ s.queue.theQueue = []) (s.posted.length = 1)

/-- The packets pushed, the oldest first. -/
def pushed : List (OutputEvent α) → List α
  | [] => []
  | .push data :: h => pushed h ++ [data]
  | _ :: h => pushed h

/-- The packets handed to `popHandler`, the oldest first. -/
def handed : List (OutputEvent α) → List α
  | [] => []
  | .pop (.ok data) _ :: h => handed h ++ [data]
  | _ :: h => handed h

/-- The packets on their way to `popHandler`, the oldest first. -/
def waiting (s : OutputStage α) : List α :=
  s.posted.filterMap (fun p => match p.2 with | .ok data => some data | .stopped => none) ++
    s.queue.theQueue

/-! ## Where the token is -/

/-- Where the consumer token of an open stage is. -/
inductive Token (s : OutputStage α) : Prop
  | registered : s.queue.callback = some .popHandler → s.queue.theQueue = [] → s.posted = [] → Token s
  | posted (data : α) : s.queue.callback = none → s.posted = [(.popHandler, .ok data)] → Token s
  | lost : s.queue.callback = none → s.posted = [] → Token s

variable {popHandler} {s s' : OutputStage α}

theorem healthy_of_registered (hc : s.queue.callback = some .popHandler)
    (hq : s.queue.theQueue = []) (hp : s.posted = []) : s.Healthy :=
  fun _ => Or.inl ⟨⟨hc, hq⟩, by simp [hp]⟩

theorem healthy_of_posted {data : α} (hc : s.queue.callback = none)
    (hp : s.posted = [(.popHandler, .ok data)]) : s.Healthy :=
  fun _ => Or.inr ⟨by simp [hp], by simp [hc]⟩

/-- A stage that has lost its token is not healthy. -/
theorem not_healthy_of_lost (ho : s.queue.Open) (hc : s.queue.callback = none)
    (hp : s.posted = []) : ¬ s.Healthy := by
  intro h
  rcases h ho with ⟨⟨hc', -⟩, -⟩ | ⟨hp', -⟩
  · rw [hc] at hc'
    cases hc'
  · rw [hp] at hp'
    cases hp'

/-- The `asyncPop` of `init`, or of a run that got through, takes the token to the
next packet or registers it. -/
theorem token_rearm (ho : s.queue.Open) (hp : s.posted = []) :
    (s.onQueue (·.asyncPop .popHandler)).Token ∧
      (s.onQueue (·.asyncPop .popHandler)).Healthy ∧
      (s.onQueue (·.asyncPop .popHandler)).waiting = s.waiting := by
  cases hq : s.queue.theQueue with
  | nil =>
    have h := AsyncQueue.asyncPop_of_nil ho hq OutputCallback.popHandler
    simp only [onQueue, h, hp]
    exact ⟨.registered rfl hq rfl, healthy_of_registered rfl hq rfl, by simp [waiting, hp]⟩
  | cons d rest =>
    have h := AsyncQueue.asyncPop_of_cons ho hq OutputCallback.popHandler
    simp only [onQueue, h, hp]
    exact ⟨.posted d rfl rfl, healthy_of_posted rfl rfl, by simp [waiting, hp, hq]⟩

/-- A push moves the token from the queue to the packet, if it is there. -/
theorem token_push (ht : s.Token) (ho : s.queue.Open) (data : α) :
    (s.onQueue (·.push data)).Token ∧
      ((s.onQueue (·.push data)).Healthy ↔ s.Healthy) ∧
      (s.onQueue (·.push data)).waiting = s.waiting ++ [data] := by
  have ho' : (s.onQueue (·.push data)).queue.Open := (AsyncQueue.push_open data).mpr ho
  cases ht with
  | registered hc hq hp =>
    have h := AsyncQueue.push_of_some ho hc hq data
    simp only [onQueue, h, hp]
    exact ⟨.posted data rfl rfl, iff_of_true (healthy_of_posted rfl rfl)
      (healthy_of_registered hc hq hp), by simp [waiting, hp, hq]⟩
  | posted d hc hp =>
    have h := AsyncQueue.push_of_none ho hc data
    simp only [onQueue, h, hp]
    exact ⟨.posted d hc rfl, iff_of_true (healthy_of_posted hc rfl) (healthy_of_posted hc hp),
      by simp [waiting, hp]⟩
  | lost hc hp =>
    have h := AsyncQueue.push_of_none ho hc data
    simp only [onQueue, h, hp]
    exact ⟨.lost hc rfl, iff_of_false (not_healthy_of_lost ho hc rfl)
      (not_healthy_of_lost ho hc hp), by simp [waiting, hp]⟩

/-- A run of `popHandler` gives the token back or loses it. -/
theorem token_pop (popHandler : LibnetResults → Bool → Delivery α → PopRun) (ht : s.Token)
    (ho : s.queue.Open) {i : Nat} {d : Delivery α} (hi : s.posted[i]? = some (.popHandler, d))
    (r : LibnetResults) :
    ∃ data, d = .ok data ∧ (s.runPopHandler popHandler i d r).Token ∧
      ((s.runPopHandler popHandler i d r).Healthy ↔ (popHandler r s.handle d).rearmed = true) ∧
      data :: (s.runPopHandler popHandler i d r).waiting = s.waiting := by
  cases ht with
  | registered hc hq hp => rw [hp] at hi; cases hi
  | lost hc hp => rw [hp] at hi; cases hi
  | posted data hc hp =>
    rw [hp] at hi
    obtain ⟨rfl, heq⟩ : i = 0 ∧ (OutputCallback.popHandler, Delivery.ok data) = (.popHandler, d) := by
      cases i with
      | zero => exact ⟨rfl, Option.some.inj hi⟩
      | succ i => cases hi
    obtain rfl := (Prod.mk.inj heq).2
    refine ⟨data, rfl, ?_⟩
    have hwait : s.waiting = data :: s.queue.theQueue := by simp [waiting, hp]
    have hend : (s.afterRun 0 (popHandler r s.handle (.ok data))).posted = [] := by
      simp [afterRun, hp]
    unfold runPopHandler
    split
    · rename_i hrun
      obtain ⟨htok, hhealthy, hw⟩ := token_rearm
        (s := s.afterRun 0 (popHandler r s.handle (.ok data))) ho hend
      refine ⟨htok, iff_of_true hhealthy hrun, ?_⟩
      rw [hw, hwait, waiting, hend]
      rfl
    · rename_i hrun
      refine ⟨.lost hc hend, iff_of_false (not_healthy_of_lost ho hc hend) hrun, ?_⟩
      rw [hwait, waiting, hend]
      rfl

/-- A stage that is open was open before the step. -/
theorem Step.open_before {e : OutputEvent α} (hs : Step popHandler s e s')
    (ho' : s'.queue.Open) : s.queue.Open := by
  cases hs with
  | push data => exact (AsyncQueue.push_open data).mp ho'
  | pop i d r hi =>
    unfold runPopHandler at ho'
    split at ho'
    · exact (AsyncQueue.asyncPop_open _).mp ho'
    · exact ho'
  | niceClose => exact absurd ho' AsyncQueue.not_open_niceClose
  | close => exact absurd ho' AsyncQueue.not_open_close

/-! ## Runs -/

/-- **The invariant of a run**: the stage is closed, or its token is somewhere, and
the packets pushed are those handed over and those on their way, in order. -/
def Inv (before : List α) (h : List (OutputEvent α)) (s : OutputStage α) : Prop :=
  s.queue.Open → s.Token ∧ handed h ++ s.waiting = before ++ pushed h

/-- What a step does to an open stage that stays open. -/
theorem inv_step {before : List α} {h : List (OutputEvent α)} {e : OutputEvent α}
    (hI : Inv before h s) (hs : Step popHandler s e s') : Inv before (e :: h) s' := by
  intro ho'
  have ho := hs.open_before ho'
  obtain ⟨ht, hw⟩ := hI ho
  cases hs with
  | push data =>
    obtain ⟨ht', -, hw'⟩ := token_push ht ho data
    refine ⟨ht', ?_⟩
    rw [hw']
    simp only [handed, pushed]
    rw [← List.append_assoc, hw, List.append_assoc]
  | pop i d r hi =>
    obtain ⟨data, rfl, ht', -, hw'⟩ := token_pop popHandler ht ho hi r
    refine ⟨ht', ?_⟩
    rw [← hw'] at hw
    simpa [handed, pushed] using hw
  | niceClose => exact absurd ho' AsyncQueue.not_open_niceClose
  | close => exact absurd ho' AsyncQueue.not_open_close

theorem inv_run {before : List α} {h : List (OutputEvent α)}
    (run : Runs popHandler before h s) : Inv before h s := by
  refine run.invariant ?_ fun h s e s' _ hI hs => inv_step hI hs
  rintro _ ⟨handle, rfl⟩ -
  obtain ⟨ht, -, hw⟩ := token_rearm (s := uninit before handle) ⟨rfl, rfl⟩ rfl
  refine ⟨ht, ?_⟩
  rw [init, hw]
  simp [handed, pushed, waiting, uninit]

/-- The condition under which a step keeps the token: the stage is closed, or the
step is no run of `popHandler`, or the run comes to its end. -/
def KeepsToken (getsThrough : LibnetResults → Bool → α → Prop) (s : OutputStage α)
    (e : OutputEvent α) : Prop :=
  s.queue.Open → ∀ data r, e = .pop (.ok data) r → getsThrough r s.handle data

/-- A healthy stage stays healthy iff the step keeps the token. -/
theorem healthy_step {getsThrough : LibnetResults → Bool → α → Prop}
    (hspec : ∀ r l data, (popHandler r l (.ok data)).rearmed = true ↔ getsThrough r l data)
    {before : List α} {h : List (OutputEvent α)} {e : OutputEvent α} (hI : Inv before h s)
    (hh : s.Healthy) (hs : Step popHandler s e s') : s'.Healthy ↔ KeepsToken getsThrough s e := by
  by_cases ho : s.queue.Open
  · obtain ⟨ht, -⟩ := hI ho
    cases hs with
    | push data =>
      obtain ⟨-, hiff, -⟩ := token_push ht ho data
      exact iff_of_true (hiff.mpr hh) fun _ data' r he => by cases he
    | pop i d r hi =>
      obtain ⟨data, rfl, -, hiff, -⟩ := token_pop popHandler ht ho hi r
      rw [hiff, hspec]
      constructor
      · rintro hgets - data' r' he
        obtain ⟨hd, rfl⟩ := OutputEvent.pop.inj he
        obtain rfl := Delivery.ok.inj hd
        exact hgets
      · intro hk
        exact hk ho data r rfl
    | niceClose =>
      exact iff_of_true (fun ho' => absurd ho' AsyncQueue.not_open_niceClose)
        fun _ data' r he => by cases he
    | close =>
      exact iff_of_true (fun ho' => absurd ho' AsyncQueue.not_open_close)
        fun _ data' r he => by cases he
  · -- a closed stage stays closed, and nothing is asked of it
    exact iff_of_true (fun ho' => absurd (hs.open_before ho') ho) fun ho' => absurd ho' ho

/-- **A stage stays healthy exactly while every run of `popHandler` gets through.** -/
theorem healthy_iff {getsThrough : LibnetResults → Bool → α → Prop}
    (hspec : ∀ r l data, (popHandler r l (.ok data)).rearmed = true ↔ getsThrough r l data)
    {before : List α} {h : List (OutputEvent α)} :
    Run (Within (Step popHandler) Healthy) (fun s => ∃ handle, s = (uninit before handle).init) h s ↔
      Run (Guarded (Step popHandler) (KeepsToken getsThrough))
        (fun s => ∃ handle, s = (uninit before handle).init) h s := by
  refine Run.within_iff_guarded (I := Inv before) inv_run ?_
    fun h s e s' hI hh hs => healthy_step hspec hI hh hs
  rintro _ ⟨handle, rfl⟩
  exact (token_rearm (s := uninit before handle) ⟨rfl, rfl⟩ rfl).2.1

end OutputStage

/-! ## The two stages -/

open OutputStage

/-- **When the output stages survive.**  A run of either stage stays healthy
exactly if every run of `popHandler` in it gets through: there is a libnet handle
or `libnet_init` makes one, and the builders that the packet needs and
`libnet_write` succeed.  In every run the packets are handed to `popHandler` in
the order they were pushed in. -/
theorem output_survives_iff (order : ByteOrder) :
    (∀ before h s,
      (Run (Within (Step (OutputLibnet.popHandler order)) Healthy)
          (fun s => ∃ handle, s = (uninit before handle).init) h s ↔
        Run (Guarded (Step (OutputLibnet.popHandler order)) (KeepsToken OutputLibnet.GetsThrough))
          (fun s => ∃ handle, s = (uninit before handle).init) h s) ∧
      (Runs (OutputLibnet.popHandler order) before h s → s.queue.Open →
        handed h ++ s.waiting = before ++ pushed h)) ∧
    ∀ before h s,
      (Run (Within (Step Output6Libnet.popHandler) Healthy)
          (fun s => ∃ handle, s = (uninit before handle).init) h s ↔
        Run (Guarded (Step Output6Libnet.popHandler)
            (KeepsToken fun r l (_ : Packet6) => Output6Libnet.GetsThrough r l))
          (fun s => ∃ handle, s = (uninit before handle).init) h s) ∧
      (Runs Output6Libnet.popHandler before h s → s.queue.Open →
        handed h ++ s.waiting = before ++ pushed h) := by
  refine ⟨fun before h s => ⟨?_, fun run ho => (inv_run run ho).2⟩,
    fun before h s => ⟨?_, fun run ho => (inv_run run ho).2⟩⟩
  · exact healthy_iff (OutputLibnet.popHandler_rearmed order)
  · exact healthy_iff Output6Libnet.popHandler_rearmed

/-- An empty UDP datagram from 0.0.0.1:5 to 0.0.0.7:80. -/
def emptyDatagram : Packet :=
  .construct .little { isIngoing := false } 0 0
    [0x45, 0, 0, 28, 0, 0, 0, 0, 64, 17, 0, 0, 0, 0, 0, 1, 0, 0, 0, 7, 0, 5, 0, 80, 0, 8, 0, 0]

/-- **A failing write blocks the stage**: the packet after the one that could not be
written is never handed to `popHandler`. -/
theorem output_blocked_by_failure :
    ∃ h s, Runs (OutputLibnet.popHandler .little) [] h s ∧ s.queue.Open ∧ ¬ s.Healthy ∧
      s.queue.theQueue = [emptyDatagram] ∧ s.posted = [] := by
  have run : Runs (OutputLibnet.popHandler .little) []
      [.push emptyDatagram, .pop (.ok emptyDatagram) { write := false }, .push emptyDatagram] _ :=
    .step (.step (.step (.start ⟨true, rfl⟩) (.push _)) (.pop 0 _ _ rfl)) (.push _)
  exact ⟨_, _, run, ⟨rfl, rfl⟩, not_healthy_of_lost ⟨rfl, rfl⟩ rfl rfl, rfl, rfl⟩

end ShapingRouter
