import CommandGrove.Watch.Controller
import Mathlib.Data.Finset.Card

/-!
# Callers and worker in any order

Any number of callers announce changes while one worker builds, and the steps of all of them come
in any order.  A change may come when a job is sent and not yet taken, or when a build has ended
and the gate has not been told; it leads to a build all the same, and there are never two jobs.

## What is here

* `Controller.Moves` — what each step does and when it can be done, read off `Controller.step?`.
* `Controller.Consistent` — one job at most is on its way or with the worker, and the gate knows of
  it; `Controller.Owes` — a change that no build has taken up will be taken up.
* `Act`, `Crowd` — steps with the callers who do them, and the callers who have a job to send.
* `Crowd.Runs` — the histories of a crowd; `Crowd.Runs.sound` says what they keep.
* `Crowd.no_change_lost` — the main result.
-/

set_option autoImplicit false
namespace CommandGrove

/-! ## Places in a history -/

/-- A place in a history is its end or a place before its last entry. -/
theorem split_snoc {α : Type} {history before later : List α} {a x : α}
    (h : history ++ [a] = before ++ x :: later) :
    (a = x ∧ history = before ∧ later = []) ∨
      ∃ rest, later = rest ++ [a] ∧ history = before ++ x :: rest := by
  rcases List.eq_nil_or_concat later with rfl | ⟨rest, last, rfl⟩
  · obtain ⟨hbefore, hx⟩ := List.append_inj' h rfl
    exact Or.inl ⟨List.singleton_inj.1 hx, hbefore, rfl⟩
  · rw [List.concat_eq_append] at h ⊢
    rw [← List.cons_append, ← List.append_assoc] at h
    obtain ⟨hbefore, hlast⟩ := List.append_inj' h rfl
    exact Or.inr ⟨rest, by rw [hlast], hbefore⟩

/-! ## What a step does -/

/-- The jobs that the worker has in hand: one from the time it takes a job until the gate tells it
that no other build is wanted. -/
def Worker.load : Worker → Nat
  | .waiting => 0
  | .due | .building | .ended => 1

namespace Controller

/-- What a step does to a state in which it can be done. -/
inductive Moves (c : Controller) : Step → Controller → Prop
  | open (h : c.gate.building = false) :
      Moves c .trigger { c with gate := ⟨true, c.gate.pending⟩, unsent := c.unsent + 1 }
  | defer (h : c.gate.building = true) :
      Moves c .trigger { c with gate := ⟨true, true⟩ }
  | send (h : 0 < c.unsent) :
      Moves c .send { c with unsent := c.unsent - 1, queued := c.queued + 1 }
  | receive (h : c.worker = .waiting) (hq : 0 < c.queued) :
      Moves c .receive { c with queued := c.queued - 1, worker := .due }
  | start (h : c.worker = .due) :
      Moves c .start { c with worker := .building, builds := c.builds + 1 }
  | stop (h : c.worker = .building) : Moves c .stop { c with worker := .ended }
  | again (h : c.worker = .ended) (hp : c.gate.pending = true) :
      Moves c .finish { c with gate := ⟨c.gate.building, false⟩, worker := .due }
  | idle (h : c.worker = .ended) (hp : c.gate.pending = false) :
      Moves c .finish { c with gate := ⟨false, false⟩, worker := .waiting }

theorem moves_of_step? {c s : Controller} {a : Step} (h : c.step? a = some s) : c.Moves a s := by
  cases a with
  | trigger =>
    cases hb : c.gate.building with
    | false =>
      have hs : { c with gate := ⟨true, c.gate.pending⟩, unsent := c.unsent + 1 } = s := by
        simpa [step?, Gate.trigger, hb] using h
      exact hs ▸ .open hb
    | true =>
      have hs : { c with gate := ⟨true, true⟩ } = s := by
        simpa [step?, Gate.trigger, hb] using h
      exact hs ▸ .defer hb
  | send =>
    obtain ⟨hu, rfl⟩ : c.unsent ≠ 0 ∧ _ = s := by simpa [step?] using h
    exact .send (Nat.pos_of_ne_zero hu)
  | receive =>
    obtain ⟨⟨hw, hq⟩, rfl⟩ : (c.worker = .waiting ∧ c.queued ≠ 0) ∧ _ = s := by
      simpa [step?] using h
    exact .receive hw (Nat.pos_of_ne_zero hq)
  | start =>
    obtain ⟨hw, rfl⟩ : c.worker = .due ∧ _ = s := by simpa [step?] using h
    exact .start hw
  | stop =>
    obtain ⟨hw, rfl⟩ : c.worker = .building ∧ _ = s := by simpa [step?] using h
    exact .stop hw
  | finish =>
    cases hp : c.gate.pending with
    | true =>
      obtain ⟨hw, rfl⟩ : c.worker = .ended ∧ _ = s := by simpa [step?, Gate.finish, hp] using h
      exact .again hw hp
    | false =>
      obtain ⟨hw, rfl⟩ : c.worker = .ended ∧ _ = s := by simpa [step?, Gate.finish, hp] using h
      exact .idle hw hp

/-! ## One job at most -/

/-- The jobs to send, the jobs in the queue and the job in hand are one if the gate says that a
build runs, and none otherwise. -/
structure Consistent (c : Controller) : Prop where
  balance : c.unsent + c.queued + c.worker.load = if c.gate.building = true then 1 else 0
  wellFormed : c.gate.WellFormed

theorem consistent_initial : initial.Consistent := ⟨rfl, fun h => nomatch h⟩

/-- Every step keeps the balance. -/
theorem Consistent.moves {c s : Controller} {a : Step} (h : c.Consistent) (hs : c.Moves a s) :
    s.Consistent := by
  obtain ⟨balance, wellFormed⟩ := h
  cases hs with
  | «open» hb =>
    rw [hb, if_neg Bool.false_ne_true] at balance
    exact ⟨by simpa using by omega, fun _ => rfl⟩
  | defer hb => exact ⟨by rw [balance, hb], fun _ => rfl⟩
  | send hu =>
    refine ⟨?_, wellFormed⟩
    rw [← balance]
    simp only
    omega
  | receive hw hq =>
    refine ⟨?_, wellFormed⟩
    rw [← balance, hw]
    simp only [Worker.load]
    omega
  | start hw => exact ⟨by rw [← balance, hw]; rfl, wellFormed⟩
  | stop hw => exact ⟨by rw [← balance, hw]; rfl, wellFormed⟩
  | again hw hp => exact ⟨by rw [← balance, hw]; rfl, fun h => nomatch h⟩
  | idle hw hp =>
    -- The job in hand is the only one, so nothing is left behind it.
    refine ⟨?_, fun h => nomatch h⟩
    rw [hw, Worker.load] at balance
    simp only [Worker.load, Bool.false_eq_true, if_false]
    split at balance <;> omega

/-! ## What will be built -/

/-- A build is still to start: its job is not sent, or in the queue, or with the worker. -/
def IsDue (c : Controller) : Prop := 0 < c.unsent ∨ 0 < c.queued ∨ c.worker = .due

/-- Another build will follow, either because one is still to start or because the gate remembers
that it is wanted. -/
def Owes (c : Controller) : Prop := c.gate.pending = true ∨ c.IsDue

/-- A change is remembered as soon as it is announced. -/
theorem owes_of_trigger {c s : Controller} (hs : c.Moves .trigger s) : s.Owes := by
  cases hs with
  | «open» => exact Or.inr (Or.inl (Nat.succ_pos _))
  | defer => exact Or.inl rfl

/-- What is remembered is forgotten only when a build starts. -/
theorem Owes.moves {c s : Controller} {a : Step} (h : c.Owes) (hs : c.Moves a s)
    (hstart : a ≠ .start) : s.Owes := by
  cases hs with
  | «open» => exact Or.inr (Or.inl (Nat.succ_pos _))
  | defer => exact Or.inl rfl
  | send => exact h.imp_right fun _ => Or.inr (Or.inl (Nat.succ_pos _))
  | receive => exact Or.inr (Or.inr (Or.inr rfl))
  | start => exact absurd rfl hstart
  | stop hw =>
    refine h.imp_right fun hdue => hdue.imp_right fun hdue => hdue.imp_right fun hworker => ?_
    exact nomatch hw.symm.trans hworker
  | again => exact Or.inr (Or.inr (Or.inr rfl))
  | idle hw hp =>
    refine Or.inr (h.elim (fun hpending => nomatch hp.symm.trans hpending) ?_)
    refine fun hdue => hdue.imp_right fun hdue => hdue.imp_right fun hworker => ?_
    exact nomatch hw.symm.trans hworker

/-- Nothing is remembered while the gate is open. -/
theorem Consistent.not_owes {c : Controller} (h : c.Consistent) (hb : c.gate.building = false) :
    ¬ c.Owes := by
  have hbalance := h.balance
  rw [hb, if_neg Bool.false_ne_true] at hbalance
  rintro (hpending | hunsent | hqueued | hworker)
  · exact nomatch hb.symm.trans (h.wellFormed hpending)
  · omega
  · omega
  · rw [hworker, Worker.load] at hbalance
    omega

end Controller

/-! ## Crowds -/

/-- A step, with the caller if it is the step of one. -/
inductive Act (Caller : Type) where
  /-- A caller announces a change. -/
  | trigger (caller : Caller)
  /-- A caller sends the job it has to send. -/
  | send (caller : Caller)
  | receive
  | start
  /-- The build ends, and succeeds or not. -/
  | stop (succeeded : Bool)
  | finish
  deriving DecidableEq, Repr

/-- What everybody shares, and the callers who were told to start a build and have not sent a job
yet. -/
structure Crowd (Caller : Type) where
  controller : Controller
  owing : Finset Caller

/-- What an act is for the controller. -/
def Act.step {Caller : Type} : Act Caller → Step
  | .trigger _ => .trigger
  | .send _ => .send
  | .receive => .receive
  | .start => .start
  | .stop _ => .stop
  | .finish => .finish

namespace Crowd

variable {Caller : Type} [DecidableEq Caller]

/-- Nothing has happened. -/
def initial : Crowd Caller := ⟨.initial, ∅⟩

/-- It is the turn of the act: a caller sends a job after it was told to, and announces nothing
before it has sent it. -/
def admits (c : Crowd Caller) : Act Caller → Bool
  | .trigger i => i ∉ c.owing
  | .send i => i ∈ c.owing
  | _ => true

/-- The callers who have a job to send behind an act. -/
def owingAfter (c : Crowd Caller) : Act Caller → Finset Caller
  | .trigger i => if c.controller.gate.trigger.1 = .start then insert i c.owing else c.owing
  | .send i => c.owing.erase i
  | _ => c.owing

/-- The state after an act, if it can be done. -/
def act? (c : Crowd Caller) (a : Act Caller) : Option (Crowd Caller) :=
  if c.admits a then (c.controller.step? a.step).map fun s => ⟨s, c.owingAfter a⟩ else none

/-- The crowd gets from the start into a state by the acts of a history, one after the other. -/
inductive Runs : List (Act Caller) → Crowd Caller → Prop
  | nil : Runs [] initial
  | snoc {history : List (Act Caller)} {c s : Crowd Caller} {a : Act Caller}
      (h : Runs history c) (hact : c.act? a = some s) : Runs (history ++ [a]) s

theorem act?_eq_some {c s : Crowd Caller} {a : Act Caller} (h : c.act? a = some s) :
    c.admits a = true ∧ c.controller.Moves a.step s.controller ∧ s.owing = c.owingAfter a := by
  rw [act?] at h
  split at h
  · next hadmits =>
    obtain ⟨shared, hstep, rfl⟩ := Option.map_eq_some_iff.1 h
    exact ⟨hadmits, Controller.moves_of_step? hstep, rfl⟩
  · exact nomatch h

/-- The controller counts the callers who have a job to send. -/
theorem card_owing_of_act {c s : Crowd Caller} {a : Act Caller} (h : c.act? a = some s)
    (hcount : c.owing.card = c.controller.unsent) : s.owing.card = s.controller.unsent := by
  obtain ⟨controller, owing⟩ := s
  obtain ⟨hadmits, hmoves, howing⟩ := act?_eq_some h
  simp only at hmoves howing ⊢
  rw [howing]
  cases a with
  | trigger i =>
    have hi : i ∉ c.owing := by simpa [admits] using hadmits
    generalize hstep : (Act.trigger i).step = step at hmoves
    cases hmoves <;> cases hstep
    · next hb =>
      rw [owingAfter, Gate.trigger, hb]
      simpa [Finset.card_insert_of_notMem hi] using hcount
    · next hb =>
      rw [owingAfter, Gate.trigger, hb]
      simpa using hcount
  | send i =>
    have hi : i ∈ c.owing := by simpa [admits] using hadmits
    generalize hstep : (Act.send i).step = step at hmoves
    cases hmoves <;> cases hstep
    rw [owingAfter, Finset.card_erase_of_mem hi, hcount]
  | receive | start | stop _ | finish =>
    generalize hstep : Act.step _ = step at hmoves
    cases hmoves <;> cases hstep <;> exact hcount

/-! ## Changes that wait -/

/-- A change was announced, and no build has started since. -/
def Awaits (history : List (Act Caller)) : Prop :=
  ∃ before i after, history = before ++ .trigger i :: after ∧ .start ∉ after

omit [DecidableEq Caller] in
theorem not_awaits_nil : ¬ Awaits ([] : List (Act Caller)) := by
  rintro ⟨before, i, after, h, -⟩
  exact List.append_ne_nil_of_right_ne_nil before (List.cons_ne_nil _ _) h.symm

omit [DecidableEq Caller] in
/-- A change waits behind an act if the act announces it, or if it waited before and the act starts
no build. -/
theorem awaits_snoc {history : List (Act Caller)} {a : Act Caller} (h : Awaits (history ++ [a])) :
    a.step = .trigger ∨ a.step ≠ .start ∧ Awaits history := by
  obtain ⟨before, i, after, hsplit, hafter⟩ := h
  rcases split_snoc hsplit with ⟨rfl, -, -⟩ | ⟨rest, rfl, hhistory⟩
  · exact Or.inl rfl
  · rw [List.mem_append, not_or, List.mem_singleton] at hafter
    refine Or.inr ⟨fun hstart => hafter.2 ?_, before, i, rest, hhistory, hafter.1⟩
    cases a <;> cases hstart
    rfl

/-! ## Every run -/

/-- What every history of a crowd keeps. -/
structure Sound (history : List (Act Caller)) (c : Crowd Caller) : Prop where
  consistent : c.controller.Consistent
  card_owing : c.owing.card = c.controller.unsent
  owes : Awaits history → c.controller.Owes

/-- **One act keeps what every history keeps.** -/
theorem Sound.act {history : List (Act Caller)} {c s : Crowd Caller} {a : Act Caller}
    (h : Sound history c) (hact : c.act? a = some s) : Sound (history ++ [a]) s := by
  obtain ⟨-, hmoves, -⟩ := act?_eq_some hact
  refine ⟨h.consistent.moves hmoves, card_owing_of_act hact h.card_owing, fun hawaits => ?_⟩
  rcases awaits_snoc hawaits with htrigger | ⟨hstart, hawaits⟩
  · rw [htrigger] at hmoves
    exact Controller.owes_of_trigger hmoves
  · exact (h.owes hawaits).moves hmoves hstart

theorem Runs.sound {history : List (Act Caller)} {c : Crowd Caller} (h : Runs history c) :
    Sound history c := by
  induction h with
  | nil => exact ⟨Controller.consistent_initial, rfl, fun h => absurd h not_awaits_nil⟩
  | snoc _ hact ih => exact ih.act hact

/-- **No change is lost, and there are never two jobs.**  Whatever the order of the acts of any
callers and of the worker: the callers with a job to send, the jobs in the queue and the job in
hand are one while the gate says that a build runs, and none otherwise; another build is wanted
only while one runs; while none runs, every change that was announced was followed by the start of
a build; and when a change was announced after the last start of a build, the gate is building, and
it remembers that another build is wanted or a build is still to start. -/
theorem no_change_lost (history : List (Act Caller)) (c : Crowd Caller) (h : Runs history c) :
    c.owing.card + c.controller.queued + (if c.controller.worker = .waiting then 0 else 1)
        = (if c.controller.gate.building = true then 1 else 0) ∧
      (c.controller.gate.pending = true → c.controller.gate.building = true) ∧
      (c.controller.gate.building = false → ∀ before i after,
        history = before ++ .trigger i :: after → .start ∈ after) ∧
      (∀ before i after, history = before ++ .trigger i :: after → .start ∉ after →
        c.controller.gate.building = true ∧
          (c.controller.gate.pending = true ∨ c.owing.Nonempty ∨ 0 < c.controller.queued ∨
            c.controller.worker = .due)) := by
  have hsound := h.sound
  have hload : (if c.controller.worker = .waiting then 0 else 1) = c.controller.worker.load := by
    cases c.controller.worker <;> rfl
  have hanswered : c.controller.gate.building = false → ¬ Awaits history := fun hb hawaits =>
    hsound.consistent.not_owes hb (hsound.owes hawaits)
  refine ⟨?_, hsound.consistent.wellFormed, ?_, ?_⟩
  · rw [hload, hsound.card_owing, hsound.consistent.balance]
  · intro hb before i after hsplit
    by_contra hstart
    exact hanswered hb ⟨before, i, after, hsplit, hstart⟩
  · intro before i after hsplit hstart
    have hawaits : Awaits history := ⟨before, i, after, hsplit, hstart⟩
    refine ⟨?_, ?_⟩
    · by_contra hb
      exact hanswered (Bool.eq_false_iff.2 hb) hawaits
    · rw [← Finset.card_pos, hsound.card_owing]
      exact hsound.owes hawaits

/-- A change comes while a build runs that fails; the gate answers that another build is wanted, and
that build is still to start. -/
theorem no_change_lost_of_two_callers :
    ∃ c : Crowd Bool,
      Runs [.trigger false, .send false, .receive, .start, .trigger true, .stop false, .finish] c ∧
        c.controller.worker = .due ∧ c.owing.card = 0 ∧ c.controller.queued = 0 ∧
        c.controller.gate.building = true ∧
          (c.controller.gate.pending = true ∨ c.owing.Nonempty ∨ 0 < c.controller.queued ∨
            c.controller.worker = .due) := by
  have h : Runs [.trigger false, .send false, .receive, .start, .trigger true, .stop false, .finish]
      (⟨⟨⟨true, false⟩, 0, 0, .due, 1⟩, ∅⟩ : Crowd Bool) :=
    ((((((Runs.nil.snoc rfl).snoc rfl).snoc rfl).snoc rfl).snoc rfl).snoc rfl).snoc rfl
  exact ⟨_, h, rfl, rfl, rfl,
    (no_change_lost _ _ h).2.2.2 [.trigger false, .send false, .receive, .start] true
      [.stop false, .finish] rfl (by decide)⟩

end Crowd
end CommandGrove
