/-
# ClStateAnalyzer.Analyzer.Shutdown — the `Run` / `Close` handshake

`StateAnalyzer` and `BlockAnalyzer` end the same way. `Run` does its work, then
`if s.finishDownload { s.routineClosed <- struct{}{} }` and returns; `Close` sets
`s.finishDownload = true` and then waits on `<-s.routineClosed`. The channel is unbuffered, so a
send and a receive happen together, as one step (`handOff`). The two analyzers' handshakes are the
same two processes over the shared flag and channel, modelled once.

The model is a step function on the two program counters and the flag; a schedule is a list of
actions and a reachable state is what some schedule leads to from the start. `Close` can be called
once: its counter never returns to `idle`. All of `Run`'s work before the flag test is one step.
-/
import ClStateAnalyzer.Word

namespace ClStateAnalyzer.Analyzer.Shutdown

/-- Where `Run` is. -/
inductive RunPc
  | working | testing | sending | returned
  deriving Repr, DecidableEq

/-- Where `Close` is. -/
inductive ClosePc
  | idle | receiving | closed
  deriving Repr, DecidableEq

/-- The two processes and the shared `finishDownload` flag. -/
structure Handshake where
  run : RunPc
  close : ClosePc
  finishDownload : Bool
  deriving Repr, DecidableEq

/-- `Run` is working, `Close` not called, the flag clear. -/
def initial : Handshake := ⟨.working, .idle, false⟩

/-- A step of one process, or the rendezvous of both on `routineClosed`. -/
inductive Action
  | finishWork | testFlag | callClose | handOff
  deriving Repr, DecidableEq

/-- The state after an action, or `none` when the action is not enabled. -/
def next (s : Handshake) : Action → Option Handshake
  | .finishWork => if s.run = .working then some { s with run := .testing } else none
  | .testFlag =>
    if s.run = .testing then some { s with run := if s.finishDownload then .sending else .returned }
    else none
  | .callClose =>
    if s.close = .idle then some { s with finishDownload := true, close := .receiving } else none
  | .handOff =>
    if s.run = .sending ∧ s.close = .receiving then some { s with run := .returned, close := .closed }
    else none

/-- The state a schedule leads to, when every action of it is enabled in turn. -/
def execute (s : Handshake) (schedule : List Action) : Option Handshake :=
  schedule.foldlM next s

/-- A state some schedule leads to from the start. -/
def Reachable (s : Handshake) : Prop := ∃ schedule, execute initial schedule = some s

/-- What every reachable state satisfies: the flag is set exactly once `Close` has started, `Close`
finishes only with `Run`, and a sending `Run` always has `Close` receiving. -/
structure Invariant (s : Handshake) : Prop where
  flag : s.finishDownload = true ↔ s.close ≠ .idle
  closed : s.close = .closed → s.run = .returned
  sending : s.run = .sending → s.close = .receiving

theorem invariant_initial : Invariant initial :=
  ⟨by decide, by decide, by decide⟩

theorem next_invariant {s s' : Handshake} {a : Action} (hs : Invariant s) (h : next s a = some s') :
    Invariant s' := by
  obtain ⟨run, close, flag⟩ := s
  obtain ⟨hflag, hclosed, hsend⟩ := hs
  simp only at hflag hclosed hsend
  cases a <;> simp only [next] at h <;> split at h <;> cases h
  next hrun =>
    exact ⟨hflag, (fun hc => absurd (hclosed hc) (by rw [hrun]; decide)), fun h => by cases h⟩
  next hrun =>
    refine ⟨hflag, fun hc => absurd (hclosed hc) (by rw [hrun]; decide), fun hs => ?_⟩
    have hf : flag = true := by cases flag <;> simp_all
    cases close
    · exact absurd rfl (hflag.mp hf)
    · rfl
    · exact absurd (hclosed rfl) (by rw [hrun]; decide)
  next =>
    exact ⟨by simp, (fun h => by cases h), fun _ => rfl⟩
  next hrc =>
    exact ⟨iff_of_true (hflag.mpr (by rw [hrc.2]; decide)) (by simp), fun _ => rfl,
      fun h => by cases h⟩

theorem execute_invariant {s : Handshake} (hs : Invariant s) :
    ∀ {schedule s'}, execute s schedule = some s' → Invariant s' := by
  intro schedule
  induction schedule generalizing s with
  | nil => intro s' h; cases h; exact hs
  | cons a rest ih =>
    intro s' h
    obtain ⟨t, ht, hrest⟩ := Option.bind_eq_some.mp h
    exact ih (next_invariant hs ht) hrest

theorem Reachable.invariant {s : Handshake} (h : Reachable s) : Invariant s :=
  let ⟨_, hs⟩ := h
  execute_invariant invariant_initial hs

/-- `Run` never blocks for good on its send: whenever it is sending, `Close` is receiving and the
hand-off can happen. -/
theorem Reachable.handOff_enabled {s : Handshake} (h : Reachable s) (hrun : s.run = .sending) :
    next s .handOff = some { s with run := .returned, close := .closed } := by
  simp only [next, hrun, h.invariant.sending hrun, and_self, if_true]

theorem handOff_enabled_after_close :
    Reachable ⟨.sending, .receiving, true⟩ ∧
      next ⟨.sending, .receiving, true⟩ .handOff = some ⟨.returned, .closed, true⟩ :=
  ⟨⟨[.callClose, .finishWork, .testFlag], rfl⟩,
    Reachable.handOff_enabled ⟨[.callClose, .finishWork, .testFlag], rfl⟩ rfl⟩

/-- A `Close` that starts before `Run` has returned is answered: a schedule of `Run`'s own steps
completes the hand-off. -/
theorem Reachable.close_answered {s : Handshake} (h : Reachable s) (hclose : s.close = .receiving)
    (hrun : s.run ≠ .returned) :
    ∃ schedule, execute s schedule = some ⟨.returned, .closed, true⟩ := by
  obtain ⟨run, close, flag⟩ := s
  simp only at hclose hrun
  subst hclose
  have hflag : flag = true := h.invariant.flag.mpr (by simp)
  subst hflag
  cases run
  · exact ⟨[.finishWork, .testFlag, .handOff], rfl⟩
  · exact ⟨[.testFlag, .handOff], rfl⟩
  · exact ⟨[.handOff], rfl⟩
  · exact absurd rfl hrun

theorem close_answered_while_working :
    Reachable ⟨.working, .receiving, true⟩ ∧
      ∃ schedule, execute ⟨.working, .receiving, true⟩ schedule = some ⟨.returned, .closed, true⟩ :=
  ⟨⟨[.callClose], rfl⟩, Reachable.close_answered ⟨[.callClose], rfl⟩ rfl (by decide)⟩

/-- When `Run` tests the flag before `Close` sets it, `Run` returns without sending and `Close`
then waits on `routineClosed` with no action of either process enabled. -/
theorem close_blocked_after_run_returned :
    Reachable ⟨.returned, .receiving, true⟩ ∧ ∀ a, next ⟨.returned, .receiving, true⟩ a = none :=
  ⟨⟨[.finishWork, .testFlag, .callClose], rfl⟩, fun a => by cases a <;> rfl⟩

end ClStateAnalyzer.Analyzer.Shutdown
