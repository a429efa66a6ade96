import TelemetryStreams.Proofs.Context.Turns
import Mathlib.Data.List.Induction

/-!
# Contexts that come from one another

Along a history the context at a place stays there, is cloned to a new place, or gives way to one
that is derived from it (`Passes`). What a context has become in this way depends on the changes
alone and on the times at which they were made (`Descends.derives`): its deadline is the earliest of
all that were applied, its token the one that it was linked to last. So a change can only bring the
end of a context forward, unless it is a link, which exchanges what cancels it
(`derived_contexts_end`).
-/
namespace TelemetryStreams

namespace Change

/-- The deadline that a change applies at some time, if it applies one. -/
def limit? (now : Nat) : Change → Option Nat
  | .deadline time => some time
  | .timeout after => some (now + after)
  | .link _ | .parent _ | .metadata _ => none

/-- The token that a change links to, if it links. -/
def link? : Change → Option Nat
  | .link token => some token
  | .deadline _ | .timeout _ | .parent _ | .metadata _ => none

def limits (changes : List (Nat × Change)) : List Nat :=
  changes.filterMap fun row => row.2.limit? row.1

/-- The token that is linked to last by changes, if any is. -/
def lastLink? (changes : List (Nat × Change)) : Option Nat :=
  (changes.filterMap fun row => row.2.link?).getLast?

@[simp] theorem limits_append (a b : List (Nat × Change)) :
    limits (a ++ b) = limits a ++ limits b := List.filterMap_append

theorem lastLink?_append (a b : List (Nat × Change)) :
    lastLink? (a ++ b) = (lastLink? b).or (lastLink? a) := by
  unfold lastLink?
  rw [List.filterMap_append, List.getLast?_append]

@[simp] theorem lastLink?_singleton (row : Nat × Change) : lastLink? [row] = row.2.link? := by
  cases linked : row.2.link? <;> simp [lastLink?, linked]

end Change

namespace Context

def deriveAll (context : Context) (changes : List (Nat × Change)) : Context :=
  changes.foldl (fun context row => context.derive row.1 row.2) context

theorem deriveAll_append (context : Context) (changes more : List (Nat × Change)) :
    context.deriveAll (changes ++ more) = (context.deriveAll changes).deriveAll more :=
  List.foldl_append

theorem deriveAll_concat (context : Context) (changes : List (Nat × Change)) (row : Nat × Change) :
    context.deriveAll (changes ++ [row]) = (context.deriveAll changes).derive row.1 row.2 :=
  context.deriveAll_append changes [row]

theorem token_derive (context : Context) (now : Nat) (change : Change) :
    (context.derive now change).token = change.link?.getD context.token := by
  cases change <;> rfl

theorem token_deriveAll (context : Context) (changes : List (Nat × Change)) :
    (context.deriveAll changes).token = (Change.lastLink? changes).getD context.token := by
  induction changes using List.reverseRecOn with
  | nil => rfl
  | append_singleton changes row ih =>
    rw [deriveAll_concat, token_derive, ih, Change.lastLink?_append, Change.lastLink?_singleton]
    cases row.2.link? <;> rfl

theorem min?_concat (times : List Nat) (time : Nat) :
    (times ++ [time]).min? = some (earlier times.min? time) := by
  cases times with
  | nil => rfl
  | cons first times =>
    rw [List.cons_append, List.min?_cons', List.min?_cons', List.foldl_append]
    rfl

theorem deadline_derive (context : Context) (now : Nat) (change : Change) :
    (context.derive now change).deadline =
      ((change.limit? now).map (earlier context.deadline)).or context.deadline := by
  cases change <;> rfl

/-- The deadline of a derived context is the earliest of those that were applied and the one that
was there before. -/
theorem deadline_deriveAll (context : Context) (changes : List (Nat × Change)) :
    (context.deriveAll changes).deadline =
      (context.deadline.toList ++ Change.limits changes).min? := by
  induction changes using List.reverseRecOn with
  | nil => cases limit : context.deadline <;> simp [deriveAll, Change.limits, limit]
  | append_singleton changes row ih =>
    rw [deriveAll_concat, deadline_derive, Change.limits_append, ← List.append_assoc, ih]
    cases limit : row.2.limit? row.1 with
    | none => simp [Change.limits, limit]
    | some time =>
      have alone : Change.limits [row] = [time] := by simp [Change.limits, limit]
      rw [alone, min?_concat]
      rfl

theorem isDue_deriveAll {c : Context} {now : Nat} {changes : List (Nat × Change)} :
    (c.deriveAll changes).IsDue now ↔
      ∃ time ∈ c.deadline.toList ++ Change.limits changes, time ≤ now := by
  constructor
  · rintro ⟨time, isDeadline, reached⟩
    rw [deadline_deriveAll] at isDeadline
    exact ⟨time, (List.min?_eq_some_iff.mp isDeadline).1, reached⟩
  · rintro ⟨time, here, reached⟩
    obtain ⟨first, isFirst⟩ := Option.isSome_iff_exists.mp (List.isSome_min?_of_mem here)
    refine ⟨first, (deadline_deriveAll c changes).trans isFirst, Nat.le_trans ?_ reached⟩
    exact (List.min?_eq_some_iff.mp isFirst).2 time here

theorem IsDue.deriveAll {c : Context} {now : Nat} (due : c.IsDue now)
    (changes : List (Nat × Change)) : (c.deriveAll changes).IsDue now := by
  obtain ⟨time, isDeadline, reached⟩ := due
  exact isDue_deriveAll.mpr ⟨time, by simp [isDeadline], reached⟩

end Context

namespace Contexts

/-- What a step hands on from a place to a place after it, and by which changes. -/
inductive Passes (s : Contexts) : Action → Nat → Nat → List (Nat × Change) → Prop
  | stayed {action place} (unchanged : ∀ change, action ≠ .change place change) :
      Passes s action place place []
  | cloned {place} : Passes s (.clone place) place s.contexts.length []
  | changed {place change} : Passes s (.change place change) place place [(s.now, change)]

/-- Whether the context at a place after a history comes from one at a place before, and by which
changes. -/
inductive Descends (s : Contexts) (place : Nat) :
    List Action → Contexts → Nat → List (Nat × Change) → Prop
  | refl (inside : place < s.contexts.length) : Descends s place [] s place []
  | step {actions t other changes action u last made}
      (earlier : Descends s place actions t other changes) (turn : Turn t action u)
      (passes : Passes t action other last made) :
      Descends s place (actions ++ [action]) u last (changes ++ made)

variable {s t u : Contexts} {action : Action} {actions : List Action} {place other : Nat}
  {changes made : List (Nat × Change)} {c d : Context}

/-- The contexts after a step: what is handed on is derived by the changes. -/
theorem Passes.derives (passes : Passes s action place other made) (turn : Turn s action t)
    (isContext : s.contexts[place]? = some c) : t.contexts[other]? = some (c.deriveAll made) := by
  have inside := (List.getElem?_eq_some_iff.mp isContext).1
  cases passes with
  | stayed unchanged =>
    cases turn with
    | created | cloned => exact (List.getElem?_append_left inside).trans isContext
    | @changed changedPlace _ change =>
      have apart : changedPlace ≠ place := fun same => unchanged change (by rw [same])
      exact (List.getElem?_set_ne apart).trans isContext
    | _ => exact isContext
  | cloned =>
    cases turn with
    | cloned isCloned =>
      obtain rfl := Option.some.inj (isCloned.symm.trans isContext)
      exact List.getElem?_concat_length
  | changed =>
    cases turn with
    | changed isChanged =>
      obtain rfl := Option.some.inj (isChanged.symm.trans isContext)
      exact List.getElem?_set_self inside

/-- A context after a step has just been made, with a token of its own, or it was handed on. -/
theorem Turn.context_cases (turn : Turn s action t) (isContext : t.contexts[other]? = some d) :
    (∃ spec, action = .create spec ∧ other = s.contexts.length ∧ d.token = s.tokens.length ∧
      d.deadline = spec.timeout.map (s.now + ·)) ∨
    ∃ place c made, s.contexts[place]? = some c ∧ Passes s action place other made ∧
      d = c.deriveAll made := by
  have stays (isContext : s.contexts[other]? = some d)
      (unchanged : ∀ change, action ≠ .change other change) :
      ∃ place c made, s.contexts[place]? = some c ∧ Passes s action place other made ∧
        d = c.deriveAll made := ⟨other, d, [], isContext, .stayed unchanged, rfl⟩
  cases turn with
  | @created spec =>
    obtain isContext | ⟨here, rfl⟩ := concat_cases isContext
    · exact .inr (stays isContext fun _ same => by cases same)
    · exact .inl ⟨spec, rfl, here, rfl, rfl⟩
  | @cloned place c isCloned =>
    obtain isContext | ⟨rfl, rfl⟩ := concat_cases isContext
    · exact .inr (stays isContext fun _ same => by cases same)
    · exact .inr ⟨place, d, [], isCloned, .cloned, rfl⟩
  | @changed place c change isChanged =>
    have inside := (List.getElem?_eq_some_iff.mp isChanged).1
    by_cases same : place = other
    · subst same
      rw [List.getElem?_set_self inside] at isContext
      obtain rfl := Option.some.inj isContext
      exact .inr ⟨place, c, _, isChanged, .changed, rfl⟩
    · rw [List.getElem?_set_ne same] at isContext
      exact .inr (stays isContext fun _ same' => by cases same'; exact same rfl)
  | _ => exact .inr (stays isContext fun _ same => by cases same)

theorem Descends.follows (descends : Descends s place actions t other changes) :
    s.follow actions = some t := by
  induction descends with
  | refl => rfl
  | step earlier turn passes ih =>
    rw [follow_concat, ih]
    exact turn.made

theorem Descends.exists_origin (descends : Descends s place actions t other changes) :
    ∃ c, s.contexts[place]? = some c := by
  induction descends with
  | refl inside => exact ⟨_, List.getElem?_eq_getElem inside⟩
  | step earlier turn passes ih => exact ih

theorem Descends.derives (descends : Descends s place actions t other changes)
    (isContext : s.contexts[place]? = some c) :
    t.contexts[other]? = some (c.deriveAll changes) := by
  induction descends with
  | refl => exact isContext
  | step earlier turn passes ih =>
    rw [Context.deriveAll_append]
    exact passes.derives turn ih

/-- Deriving a context can only bring its deadline forward, and leaves what cancels it as it is
unless it links. A context that comes from one that has ended has ended too if the deadline was the
reason, or if nothing was linked on the way. Else it is canceled by the last token that was linked,
and goes on until that is canceled or one of its deadlines is reached. -/
theorem derived_contexts_end (descends : Descends s place actions t other changes)
    (isContext : s.contexts[place]? = some c) (isDerived : t.contexts[other]? = some d)
    (u : Contexts) (ended : u.endOf c ≠ none) :
    (c.IsDue u.now → u.endOf d ≠ none) ∧
    (Change.lastLink? changes = none →
      u.endOf d ≠ none ∧ (u.endOf c = some .canceled → u.endOf d = some .canceled)) ∧
    ∀ token, Change.lastLink? changes = some token →
      (u.endOf d = some .canceled ↔ u.isCanceled token = true) ∧
      (u.endOf d = none ↔ u.isCanceled token = false ∧
        ∀ time ∈ c.deadline.toList ++ Change.limits changes, u.now < time) := by
  obtain rfl := Option.some.inj ((descends.derives isContext).symm.trans isDerived)
  have token := c.token_deriveAll changes
  have dueEnds (due : c.IsDue u.now) : u.endOf (c.deriveAll changes) ≠ none := fun live =>
    (endOf_eq_none_iff.mp live).2 (due.deriveAll changes)
  refine ⟨dueEnds, fun noLink => ?_, fun linked isLinked => ?_⟩
  · rw [noLink, Option.getD_none] at token
    have cancels (canceled : u.endOf c = some .canceled) :
        u.endOf (c.deriveAll changes) = some .canceled := by
      rw [endOf_eq_canceled_iff, token]
      exact endOf_eq_canceled_iff.mp canceled
    obtain ⟨-, canceled⟩ | ⟨-, due, -⟩ | ⟨-, -, live⟩ := endOf_cases u c
    · exact ⟨by rw [cancels canceled]; exact Option.some_ne_none _, cancels⟩
    · exact ⟨dueEnds due, cancels⟩
    · exact absurd live ended
  · rw [isLinked, Option.getD_some] at token
    rw [endOf_eq_canceled_iff, endOf_eq_none_iff, token, Context.isDue_deriveAll]
    exact ⟨Iff.rfl, and_congr_right fun _ => by simp⟩

/-- A context with a deadline, and a token that belongs to none. -/
def unlinked : Contexts where
  now := 2
  tokens := [false, false]
  shared := [1]
  contexts := [{ token := 0, deadline := some 18 }]

/-- The context is cloned, and its clone is linked to the token. -/
def linking : List Action :=
  [.clone 0, .change 1 (.deadline 9), .change 1 (.link 1), .change 1 (.timeout 5)]

/-- The context is canceled, and its clone goes on until its own deadline. -/
theorem derived_contexts_end_linked :
    ∃ t u v c d, follow {} [.create { timeout := some 18 }, .share, .advance 2] = some unlinked ∧
      unlinked.follow linking = some t ∧
      Descends unlinked 0 linking t 1 [(2, .deadline 9), (2, .link 1), (2, .timeout 5)] ∧
      unlinked.contexts[0]? = some c ∧ t.contexts[1]? = some d ∧
      t.follow [.cancel 0, .advance 4] = some u ∧ u.endOf c ≠ none ∧ u.endOf d = none ∧
      t.follow [.cancel 0, .advance 5] = some v ∧ v.endOf c ≠ none ∧ v.endOf d ≠ none := by
  have cloned : Descends unlinked 0 [.clone 0] _ 1 [] :=
    .step (.refl (by decide)) (step_turn rfl) .cloned
  have limited : Descends unlinked 0 [.clone 0, .change 1 (.deadline 9)] _ 1 [(2, .deadline 9)] :=
    cloned.step (step_turn rfl) .changed
  have linked : Descends unlinked 0 [.clone 0, .change 1 (.deadline 9), .change 1 (.link 1)] _ 1
      [(2, .deadline 9), (2, .link 1)] := limited.step (step_turn rfl) .changed
  have descends : Descends unlinked 0 linking _ 1
      [(2, .deadline 9), (2, .link 1), (2, .timeout 5)] := linked.step (step_turn rfl) .changed
  refine ⟨_, _, _, _, _, rfl, descends.follows, descends, rfl, rfl, rfl, by decide, ?_, rfl,
    by decide, ?_⟩
  · exact ((derived_contexts_end descends rfl rfl _ (by decide)).2.2 1 rfl).2.mpr ⟨rfl, by decide⟩
  · intro live
    have late := ((derived_contexts_end descends rfl rfl _ (by decide)).2.2 1 rfl).2.mp live
    exact absurd late.2 (by decide)

/-- A context that has been linked may go on after the one that it comes from has ended. -/
theorem linked_context_outlives :
    ¬ ∀ history s place actions t other changes c d later u,
      follow {} history = some s → Descends s place actions t other changes →
      s.contexts[place]? = some c → t.contexts[other]? = some d → t.follow later = some u →
      u.endOf c ≠ none → u.endOf d ≠ none := by
  intro claim
  have cloned : Descends unlinked 0 [.clone 0] _ 1 [] :=
    .step (.refl (by decide)) (step_turn rfl) .cloned
  have linked : Descends unlinked 0 [.clone 0, .change 1 (.link 1)] _ 1 [(2, .link 1)] :=
    cloned.step (step_turn rfl) .changed
  exact claim [.create { timeout := some 18 }, .share, .advance 2] unlinked 0 _ _ 1 _ _ _
    [.cancel 0] _ rfl linked rfl rfl rfl (by decide) (by decide)

end Contexts

end TelemetryStreams
