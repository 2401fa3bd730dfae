import CommandGrove.Bundler
import CommandGrove.Proofs.Watch.Interleavings

/-!
# Histories of changes and builds

When everybody is done with what one event leads to before the next event comes, the controller is
in one of two states: it is at rest, or one build runs and the gate knows whether another one is
wanted.  So what each event answers can be told from the events before it.

## What is here

* `Controller.atRest`, `Controller.running` — the two states, with an equation for what each event
  does to each of them.
* `Controller.Batch.counts` — a path of the batch counts; `Matcher.filter_eq_nil_iff` and
  `Matcher.accepts_of_hidden` say when none does.
* `Controller.Event`, `Controller.after` — histories of events, and the state behind them;
  `Controller.exists_runs_after` says that callers and worker get there step by step.
* `Controller.AnnouncedDuring` — a change came while the build with a number was the last one.
* `Controller.answers_after` — the main result.
-/

set_option autoImplicit false
namespace CommandGrove

/-! ## The paths that count -/

/-- A component as it is written. -/
def Component.text : Component → List Char
  | .root => ['/']
  | .here => ['.']
  | .up => ['.', '.']
  | .name text => text

namespace Matcher

theorem isHidden_iff {c : Component} : isHidden c = true ↔ c.text.head? = some '.' := by
  cases c <;> simp [isHidden, Component.text]

/-- What is hidden below the root never counts, whatever the glob. -/
theorem accepts_of_hidden {m : Matcher} {path : List Char} {c : Component}
    (hc : c ∈ Path.components (m.relative path)) (hdot : c.text.head? = some '.') :
    m.accepts path = false := by
  have hany : (Path.components (m.relative path)).any isHidden = true :=
    List.any_eq_true.2 ⟨c, hc, isHidden_iff.2 hdot⟩
  rw [accepts, hany]
  rfl

theorem keep_eq_nil_iff {m : Matcher} {seen : List (List Char)} {path : List Char} :
    m.keep seen path = [] ↔ seen = [] ∧ m.accepts path = false := by
  rw [keep]
  cases seen with
  | nil => cases m.accepts path <;> simp
  | cons first rest => split <;> simp

/-- Nothing is left of a batch if none of its paths counts. -/
theorem filter_eq_nil_iff {m : Matcher} {paths : List (List Char)} :
    m.filter paths = [] ↔ ∀ path ∈ paths, m.accepts path = false := by
  have hfold (seen : List (List Char)) : paths.foldl m.keep seen = [] ↔
      seen = [] ∧ ∀ path ∈ paths, m.accepts path = false := by
    induction paths generalizing seen with
    | nil => simp
    | cons path rest ih => rw [List.foldl_cons, ih, keep_eq_nil_iff, and_assoc, List.forall_mem_cons]
  rw [filter, hfold]
  exact and_iff_right rfl

end Matcher

/-- The units that bundlers are started on are hidden. -/
theorem head?_of_isUnitName {name : String} (h : IsUnitName name) :
    name.toList.head? = some '.' := by
  obtain ⟨middle, -, rfl⟩ := h
  rw [String.toList_append, String.toList_append, unitMark]
  rfl

namespace Controller

/-- A path of one of the events in the batch counts. -/
def Batch.counts (m : Matcher) : Batch → Bool
  | .events paths => paths.any fun event => event.any m.accepts
  | .errors _ => false

theorem Batch.counts_iff {m : Matcher} {b : Batch} : b.counts m = true ↔
    ∃ paths, b = .events paths ∧ ∃ event ∈ paths, ∃ path ∈ event, m.accepts path = true := by
  cases b with
  | events paths => simp [counts]
  | errors messages => simp [counts]

/-- A batch of hidden paths does not count. -/
theorem Batch.counts_of_hidden {m : Matcher} {paths : List (List (List Char))}
    (h : ∀ event ∈ paths, ∀ path ∈ event, ∃ component ∈ Path.components (m.relative path),
      component.text.head? = some '.') : Batch.counts m (.events paths) = false := by
  rw [Bool.eq_false_iff, Ne, counts_iff]
  rintro ⟨_, hb, event, hevent, path, hpath, haccepts⟩
  obtain rfl := Batch.events.inj hb
  obtain ⟨component, hcomponent, hdot⟩ := h event hevent path hpath
  rw [Matcher.accepts_of_hidden hcomponent hdot] at haccepts
  exact Bool.false_ne_true haccepts

theorem Batch.isEmpty_changed (m : Matcher) (b : Batch) :
    (b.changed m).isEmpty = !b.counts m := by
  rw [Bool.eq_iff_iff, Bool.not_eq_true', List.isEmpty_iff]
  cases b with
  | events paths =>
    rw [changed, Matcher.filter_eq_nil_iff, counts]
    simp only [List.mem_flatten, List.any_eq_false, forall_exists_index, and_imp,
      Bool.not_eq_true]
    exact ⟨fun h event hevent path hpath => h path event hevent hpath,
      fun h path event hevent hpath => h event hevent path hpath⟩
  | errors messages => exact iff_of_true rfl rfl

/-- A batch is a change if one of its paths counts, and nothing otherwise. -/
theorem batch_eq (c : Controller) (m : Matcher) (b : Batch) :
    c.batch m b = if b.counts m = true then (true, c.request.2) else (false, c) := by
  rw [batch, Batch.isEmpty_changed]
  cases b.counts m <;> rfl

/-! ## Two states -/

/-- No build runs, after so many of them. -/
def atRest (builds : Nat) : Controller := ⟨⟨false, false⟩, 0, 0, .waiting, builds⟩

/-- The last of so many builds runs, and perhaps another one is wanted. -/
def running (pending : Bool) (builds : Nat) : Controller := ⟨⟨true, pending⟩, 0, 0, .building, builds⟩

theorem running_inj {pending pending' : Bool} {n k : Nat}
    (h : running pending n = running pending' k) : pending = pending' ∧ n = k := by
  simpa [running] using h

theorem atRest_ne_running (n : Nat) (pending : Bool) (k : Nat) : atRest n ≠ running pending k :=
  fun h => nomatch congrArg Controller.worker h

theorem request_atRest (n : Nat) : (atRest n).request = (true, running false (n + 1)) := rfl

theorem request_running (pending : Bool) (n : Nat) :
    (running pending n).request = (false, running true n) := rfl

theorem release_atRest (n : Nat) : (atRest n).release = (none, atRest n) := rfl

theorem release_running_true (n : Nat) :
    (running true n).release = (some .again, running false (n + 1)) := rfl

theorem release_running_false (n : Nat) :
    (running false n).release = (some .idle, atRest n) := rfl

/-- The controller is in one of the two states. -/
inductive Settled : Controller → Prop
  | atRest (n : Nat) : Settled (atRest n)
  | running (pending : Bool) (n : Nat) : Settled (running pending n)

theorem Settled.eq {c : Controller} (h : c.Settled) :
    (∃ n, c = Controller.atRest n) ∨ ∃ pending n, c = Controller.running pending n := by
  cases h with
  | atRest n => exact Or.inl ⟨n, rfl⟩
  | running pending n => exact Or.inr ⟨pending, n, rfl⟩

/-! ## Events -/

/-- What can come from outside. -/
inductive Event where
  | request
  | batch (b : Batch)
  /-- The build that runs ends, and succeeds or not. -/
  | release (succeeded : Bool)

/-- The event announces a change. -/
def Event.announces (m : Matcher) : Event → Bool
  | .request => true
  | .batch b => b.counts m
  | .release _ => false

/-- The event is the end of a build. -/
def Event.isRelease : Event → Bool
  | .release _ => true
  | _ => false

/-- The state behind an event. -/
def move (m : Matcher) (c : Controller) : Event → Controller
  | .request => c.request.2
  | .batch b => (c.batch m b).2
  | .release _ => c.release.2

/-- The state behind a history of events. -/
def after (m : Matcher) (history : List Event) : Controller := history.foldl (move m) initial

section History

variable {m : Matcher}

theorem after_snoc (history : List Event) (e : Event) :
    after m (history ++ [e]) = move m (after m history) e := List.foldl_concat ..

theorem move_eq (c : Controller) (e : Event) :
    move m c e = if e.announces m = true then c.request.2
      else if e.isRelease = true then c.release.2 else c := by
  cases e with
  | request => rfl
  | batch b =>
    rw [move, batch_eq, Event.announces]
    cases b.counts m <;> rfl
  | release succeeded => rfl

theorem Settled.move {c : Controller} (h : c.Settled) (e : Event) :
    (Controller.move m c e).Settled := by
  rw [move_eq]
  cases h with
  | atRest n =>
    rw [request_atRest, release_atRest]
    split
    · exact .running _ _
    · split <;> exact .atRest n
  | running pending n =>
    rw [request_running]
    split
    · exact .running _ _
    · split
      · cases pending with
        | true => exact release_running_true n ▸ .running _ _
        | false => exact release_running_false n ▸ .atRest _
      · exact .running _ _

theorem settled_after (history : List Event) : (after m history).Settled := by
  induction history using List.reverseRecOn with
  | nil => exact .atRest 0
  | append_singleton history e ih => rw [after_snoc]; exact ih.move e

/-- Callers and worker get behind every history step by step. -/
theorem exists_runs_after (history : List Event) :
    ∃ acts, Crowd.Runs acts (⟨after m history, ∅⟩ : Crowd Unit) := by
  induction history using List.reverseRecOn with
  | nil => exact ⟨[], .nil⟩
  | append_singleton history e ih =>
    obtain ⟨acts, hruns⟩ := ih
    have hsettled := settled_after (m := m) history
    rw [after_snoc, move_eq]
    revert hruns
    generalize after m history = c at hsettled ⊢
    intro hruns
    cases hsettled with
    | atRest n =>
      rw [request_atRest, release_atRest]
      split
      · exact ⟨_, (((hruns.snoc (a := .trigger ()) rfl).snoc (a := .send ()) rfl).snoc
          (a := .receive) rfl).snoc (a := .start) rfl⟩
      · split <;> exact ⟨_, hruns⟩
    | running pending n =>
      rw [request_running]
      split
      · exact ⟨_, hruns.snoc (a := .trigger ()) rfl⟩
      · split
        · cases pending with
          | true =>
            exact ⟨_, ((hruns.snoc (a := .stop true) rfl).snoc (a := .finish) rfl).snoc
              (a := .start) rfl⟩
          | false => exact ⟨_, (hruns.snoc (a := .stop true) rfl).snoc (a := .finish) rfl⟩
        · exact ⟨_, hruns⟩

/-! ## Changes while a build runs -/

/-- A change came when as many builds had been started. -/
def AnnouncedDuring (m : Matcher) (history : List Event) (builds : Nat) : Prop :=
  ∃ before e later, history = before ++ e :: later ∧ e.announces m = true ∧
    (after m before).builds = builds

theorem announcedDuring_snoc {history : List Event} {e : Event} {n : Nat} :
    AnnouncedDuring m (history ++ [e]) n ↔
      AnnouncedDuring m history n ∨ e.announces m = true ∧ (after m history).builds = n := by
  constructor
  · rintro ⟨before, x, later, hsplit, hx, hbuilds⟩
    rcases split_snoc hsplit with ⟨rfl, rfl, -⟩ | ⟨rest, -, hhistory⟩
    · exact Or.inr ⟨hx, hbuilds⟩
    · exact Or.inl ⟨before, x, rest, hhistory, hx, hbuilds⟩
  · rintro (⟨before, x, later, rfl, hx, hbuilds⟩ | ⟨he, hbuilds⟩)
    · exact ⟨before, x, later ++ [e], by simp, hx, hbuilds⟩
    · exact ⟨history, e, [], rfl, he, hbuilds⟩

/-- A build is started by a change that comes while none runs. -/
def startsAtRest (m : Matcher) (c : Controller) (e : Event) : Bool :=
  e.announces m && c.worker != .building

/-- The gate answers the end of a build with another one. -/
def answersAgain (c : Controller) (e : Event) : Bool :=
  e.isRelease && c.release.1 == some .again

/-- Builds are started by changes that come while none runs, and by the ends of builds that are
answered with another one. -/
theorem Settled.builds_move {c : Controller} (h : c.Settled) (e : Event) :
    (Controller.move m c e).builds
      = c.builds + (startsAtRest m c e).toNat + (answersAgain c e).toNat := by
  have hexclusive : e.announces m = true → e.isRelease = false := by
    cases e <;> simp [Event.announces, Event.isRelease]
  rw [move_eq, startsAtRest, answersAgain]
  cases h with
  | atRest n =>
    rw [request_atRest, release_atRest]
    cases e.announces m <;> cases e.isRelease <;> rfl
  | running pending n =>
    rw [request_running]
    cases hannounces : e.announces m with
    | true =>
      rw [hexclusive hannounces]
      rfl
    | false => cases e.isRelease <;> cases pending <;> rfl

theorem builds_of_announcedDuring {history : List Event} {n : Nat}
    (h : AnnouncedDuring m history n) : n ≤ (after m history).builds := by
  induction history using List.reverseRecOn with
  | nil =>
    obtain ⟨before, e, later, hsplit, -⟩ := h
    exact absurd hsplit.symm (List.append_ne_nil_of_right_ne_nil _ (List.cons_ne_nil _ _))
  | append_singleton history e ih =>
    have hmove := (settled_after (m := m) history).builds_move (m := m) e
    rw [after_snoc]
    rcases announcedDuring_snoc.1 h with h | ⟨-, h⟩
    · have := ih h
      omega
    · omega

/-- **The gate remembers a change as long as the build runs that it came in**, however many came,
and forgets it with the next build. -/
theorem pending_iff {history : List Event} {pending : Bool} {n : Nat}
    (h : after m history = running pending n) :
    pending = true ↔ AnnouncedDuring m history n := by
  induction history using List.reverseRecOn generalizing pending n with
  | nil => exact absurd h (atRest_ne_running _ _ _)
  | append_singleton history e ih =>
    -- A build that has just started is one that no change before can have come in.
    have hfresh : (after m history).builds < n → ¬ AnnouncedDuring m (history ++ [e]) n := by
      intro hlt hduring
      rcases announcedDuring_snoc.1 hduring with hduring | ⟨-, hbuilds⟩
      · exact Nat.not_le_of_lt hlt (builds_of_announcedDuring hduring)
      · exact Nat.ne_of_lt hlt hbuilds
    rw [after_snoc, move_eq] at h
    rcases (settled_after (m := m) history).eq with ⟨k, hc⟩ | ⟨p, k, hc⟩
    · rw [hc, request_atRest, release_atRest] at h
      split at h
      · obtain ⟨rfl, rfl⟩ := running_inj h
        exact iff_of_false Bool.false_ne_true (hfresh (hc ▸ Nat.lt_succ_self k))
      · split at h <;> exact absurd h (atRest_ne_running _ _ _)
    · rw [hc, request_running] at h
      split at h
      · next hannounces =>
        obtain ⟨rfl, rfl⟩ := running_inj h
        exact iff_of_true rfl (announcedDuring_snoc.2 (Or.inr ⟨hannounces, by rw [hc]; rfl⟩))
      · next hannounces =>
        split at h
        · cases p with
          | true =>
            rw [release_running_true] at h
            obtain ⟨rfl, rfl⟩ := running_inj h
            exact iff_of_false Bool.false_ne_true (hfresh (hc ▸ Nat.lt_succ_self k))
          | false => exact absurd h (atRest_ne_running _ _ _)
        · obtain ⟨rfl, rfl⟩ := running_inj h
          rw [ih hc, announcedDuring_snoc]
          exact (or_iff_left fun hnow => hannounces hnow.1).symm

theorem request_after_iff (history : List Event) :
    (after m history).request.1 = true ↔ (after m history).worker ≠ .building := by
  rcases (settled_after (m := m) history).eq with ⟨n, hc⟩ | ⟨pending, n, hc⟩
  · rw [hc]
    exact iff_of_true rfl nofun
  · rw [hc]
    exact iff_of_false Bool.false_ne_true fun h => h rfl

theorem release_after_eq_none_iff (history : List Event) :
    (after m history).release.1 = none ↔ (after m history).worker ≠ .building := by
  rcases (settled_after (m := m) history).eq with ⟨n, hc⟩ | ⟨pending, n, hc⟩
  · rw [hc]
    exact iff_of_true rfl nofun
  · rw [hc]
    refine iff_of_false ?_ fun h => h rfl
    cases pending <;> exact Option.some_ne_none _

/-- The end of a build is answered with another one if a change came since the build was started. -/
theorem release_after_eq_again_iff (history : List Event) :
    (after m history).release.1 = some .again ↔ (after m history).worker = .building ∧
      AnnouncedDuring m history (after m history).builds := by
  rcases (settled_after (m := m) history).eq with ⟨n, hc⟩ | ⟨pending, n, hc⟩
  · rw [hc]
    exact iff_of_false nofun fun h => nomatch h.1
  · have hpending := pending_iff hc
    rw [hc]
    refine Iff.trans ?_ (hpending.trans (and_iff_right rfl).symm)
    cases pending with
    | true => exact iff_of_true rfl rfl
    | false => exact iff_of_false nofun Bool.false_ne_true

/-! ## Counting builds -/

/-- The events of a history, each with the state that it comes in. -/
def timeline (m : Matcher) (c : Controller) : List Event → List (Controller × Event)
  | [] => []
  | e :: rest => (c, e) :: timeline m (move m c e) rest

theorem Settled.builds_foldl {c : Controller} (h : c.Settled) (history : List Event) :
    (history.foldl (Controller.move m) c).builds = c.builds +
      (timeline m c history).countP (fun x => startsAtRest m x.1 x.2) +
      (timeline m c history).countP (fun x => answersAgain x.1 x.2) := by
  induction history generalizing c with
  | nil => rfl
  | cons e rest ih =>
    rw [List.foldl_cons, ih (h.move e), h.builds_move, timeline, List.countP_cons, List.countP_cons]
    cases startsAtRest m c e <;> cases answersAgain c e <;> simp <;> omega

/-! ## What every event answers -/

/-- **Every history tells what the next event answers.**  A request answers that it started a build
exactly if none runs.  A batch answers yes exactly if a path of one of its events counts; then it
is one request, and otherwise it changes nothing, so a batch of errors and one in which every path
has a component below the root that begins with a dot, as the units of bundlers have, change
nothing.  The end of a build is answered with another one exactly if a change came while as many
builds had been started as now, that is, since the build that runs was started.  And as many builds
were started as changes came while none ran and ends were answered with another build. -/
theorem answers_after (m : Matcher) (history : List Event) :
    ((after m history).request.1 = true ↔ (after m history).worker ≠ .building) ∧
      (∀ b, ((after m history).batch m b).1 = true ↔ ∃ paths, b = .events paths ∧
        ∃ event ∈ paths, ∃ path ∈ event, m.accepts path = true) ∧
      (∀ b, ((after m history).batch m b).2 = if ((after m history).batch m b).1 = true
        then (after m history).request.2 else after m history) ∧
      (∀ messages, (after m history).batch m (.errors messages) = (false, after m history)) ∧
      (∀ paths : List (List (List Char)),
        (∀ event ∈ paths, ∀ path ∈ event, ∃ component ∈ Path.components (m.relative path),
          component.text.head? = some '.') →
        (after m history).batch m (.events paths) = (false, after m history)) ∧
      (∀ name, IsUnitName name → name.toList.head? = some '.') ∧
      ((after m history).release.1 = some .again ↔ (after m history).worker = .building ∧
        ∃ before e later, history = before ++ e :: later ∧ e.announces m = true ∧
          (after m before).builds = (after m history).builds) ∧
      ((after m history).release.1 = none ↔ (after m history).worker ≠ .building) ∧
      (after m history).builds =
        (timeline m initial history).countP
            (fun x => x.2.announces m && x.1.worker != .building) +
          (timeline m initial history).countP
            (fun x => x.2.isRelease && x.1.release.1 == some .again) := by
  refine ⟨request_after_iff history, ?_, ?_, fun _ => rfl, ?_, fun _ => head?_of_isUnitName,
    release_after_eq_again_iff history, release_after_eq_none_iff history, ?_⟩
  · intro b
    rw [batch_eq, ← Batch.counts_iff]
    cases b.counts m <;> simp
  · intro b
    rw [batch_eq]
    cases b.counts m <;> rfl
  · intro paths hpaths
    rw [batch_eq, Batch.counts_of_hidden hpaths]
    rfl
  · have hcount := (Settled.atRest 0).builds_foldl (m := m) history
    rw [show (atRest 0).builds = 0 from rfl, Nat.zero_add] at hcount
    exact hcount

/-- While the first build runs a change comes, and then the unit of a bundler is written: that
changes nothing, and the end of the build is answered with another one. -/
theorem answers_after_of_unit_written :
    ∃ (m : Matcher) (paths : List (List (List Char))),
      (∀ event ∈ paths, ∀ path ∈ event, ∃ component ∈ Path.components (m.relative path),
        component.text.head? = some '.') ∧
      paths = [["/work/.fli-entry-000.ts".toList]] ∧
      (after m [.request, .request]).batch m (.events paths)
        = (false, after m [.request, .request]) ∧
      (after m [.request, .request]).release.1 = some .again := by
  let m : Matcher := ⟨[.leading, .star], ["/work".toList]⟩
  have hhidden : ∀ event ∈ [["/work/.fli-entry-000.ts".toList]], ∀ path ∈ event,
      ∃ component ∈ Path.components (m.relative path), component.text.head? = some '.' := by
    simp only [List.forall_mem_singleton]
    exact ⟨.name ".fli-entry-000.ts".toList, by decide +kernel, rfl⟩
  obtain ⟨-, -, -, -, hbatch, -, hrelease, -⟩ := answers_after m [.request, .request]
  exact ⟨m, _, hhidden, rfl, hbatch _ hhidden,
    hrelease.2 ⟨rfl, [.request], .request, [], rfl, rfl, rfl⟩⟩

end History

end Controller
end CommandGrove
