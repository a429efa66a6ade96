import TelemetryStreams.Context

/-!
# What a step of contexts can be

`Contexts.Turn` lists the operations on contexts and tokens, each with the state after it. A history
is a list of operations that were possible one after the other (`Contexts.follow`), with looks of
those who wait wherever they come. Time never goes back, what is canceled stays canceled, and so a
context that has ended has done so for good (`Later.endOf`).
-/
namespace TelemetryStreams

def Context.IsDue (c : Context) (now : Nat) : Prop := ∃ time, c.deadline = some time ∧ time ≤ now

theorem concat_cases {α : Type} {list : List α} {last x : α} {place : Nat}
    (isThere : (list ++ [last])[place]? = some x) :
    list[place]? = some x ∨ (place = list.length ∧ x = last) := by
  rw [List.getElem?_append] at isThere
  split at isThere
  case isTrue => exact .inl isThere
  case isFalse outside =>
    obtain rfl := List.mem_singleton.mp (List.mem_of_getElem? isThere)
    have inside := (List.getElem?_eq_some_iff.mp isThere).1
    rw [List.length_singleton] at inside
    exact .inr ⟨by omega, rfl⟩

namespace Contexts

/-- The operations on contexts and tokens. -/
inductive Turn (s : Contexts) : Action → Contexts → Prop
  | created {spec} : Turn s (.create spec) (s.create spec)
  | cloned {place c} (isContext : s.contexts[place]? = some c) :
      Turn s (.clone place) { s with contexts := s.contexts ++ [c] }
  | shared : Turn s .share s.share
  | changed {place c change} (isContext : s.contexts[place]? = some c)
      (admitted : s.admits change = true) :
      Turn s (.change place change)
        { s with contexts := s.contexts.set place (c.derive s.now change) }
  | canceled {place c} (isContext : s.contexts[place]? = some c) :
      Turn s (.cancel place) (s.cancelToken c.token)
  | canceledShared {place token} (isShared : s.shared[place]? = some token) :
      Turn s (.cancelShared place) (s.cancelToken token)
  | advanced {time} : Turn s (.advance time) (s.advance time)
  | watched {place c} (isContext : s.contexts[place]? = some c) :
      Turn s (.watch place)
        { s with watches := s.watches ++ [{ token := c.token, deadline := c.deadline }] }
  | looked {late} : Turn s (.look late) (s.look late)

variable {s t u : Contexts} {action : Action} {actions more : List Action} {flag : Bool}

/-- Every step that is possible is in the list. -/
theorem step_turn (made : s.step action = some t) : Turn s action t := by
  cases action with
  | create spec => cases made; exact .created
  | share => cases made; exact .shared
  | advance time => cases made; exact .advanced
  | look late => cases made; exact .looked
  | clone place =>
    obtain ⟨c, isContext, made⟩ := Option.bind_eq_some_iff.mp made
    cases made
    exact .cloned isContext
  | change place change =>
    obtain ⟨c, isContext, made⟩ := Option.bind_eq_some_iff.mp made
    split at made
    case isTrue admitted => cases made; exact .changed isContext admitted
    case isFalse => cases made
  | cancel place =>
    obtain ⟨c, isContext, made⟩ := Option.bind_eq_some_iff.mp made
    cases made
    exact .canceled isContext
  | cancelShared place =>
    obtain ⟨token, isShared, made⟩ := Option.bind_eq_some_iff.mp made
    cases made
    exact .canceledShared isShared
  | watch place =>
    obtain ⟨c, isContext, made⟩ := Option.bind_eq_some_iff.mp made
    cases made
    exact .watched isContext

theorem Turn.made (turn : Turn s action t) : s.step action = some t := by
  cases turn with
  | created | shared | advanced | looked => rfl
  | cloned found | canceled found | canceledShared found | watched found => simp [step, found]
  | changed isContext admitted => simp [step, isContext, admitted]

/-- Performs operations one after the other, if they are possible. -/
def follow (s : Contexts) : List Action → Option Contexts
  | [] => some s
  | action :: actions => (s.step action).bind fun t => t.follow actions

theorem follow_append (s : Contexts) (actions more : List Action) :
    s.follow (actions ++ more) = (s.follow actions).bind fun t => t.follow more := by
  induction actions generalizing s with
  | nil => rfl
  | cons action actions ih =>
    simp only [List.cons_append, follow, Option.bind_assoc]
    exact congrArg _ (funext ih)

theorem follow_concat (s : Contexts) (actions : List Action) (action : Action) :
    s.follow (actions ++ [action]) = (s.follow actions).bind fun t => t.step action := by
  rw [follow_append]
  exact congrArg _ (funext fun t => Option.bind_fun_some (t.step action))

theorem turn_of_follow_concat (follows : s.follow (actions ++ [action]) = some u) :
    ∃ t, s.follow actions = some t ∧ Turn t action u := by
  rw [follow_concat] at follows
  obtain ⟨t, follows, made⟩ := Option.bind_eq_some_iff.mp follows
  exact ⟨t, follows, step_turn made⟩

theorem follow_induction {P : Contexts → Prop}
    (step : ∀ s t action, P s → Turn s action t → P t)
    (follows : s.follow actions = some t) (holds : P s) : P t := by
  induction actions generalizing s with
  | nil =>
    cases follows
    exact holds
  | cons action actions ih =>
    obtain ⟨middle, made, follows⟩ := Option.bind_eq_some_iff.mp follows
    exact ih follows (step s middle action holds (step_turn made))

/-! ### The end of a context -/

variable {c : Context}

/-- A context has ended when it has been canceled or its deadline has been reached, and in the first
case it says so. -/
theorem endOf_cases (s : Contexts) (c : Context) :
    (s.isCanceled c.token = true ∧ s.endOf c = some .canceled) ∨
      (s.isCanceled c.token = false ∧ c.IsDue s.now ∧ s.endOf c = some .deadlineExceeded) ∨
        (s.isCanceled c.token = false ∧ ¬ c.IsDue s.now ∧ s.endOf c = none) := by
  unfold endOf endReason Context.IsDue
  cases canceled : s.isCanceled c.token with
  | true => exact .inl ⟨rfl, rfl⟩
  | false =>
    cases c.deadline with
    | none => simp
    | some time => by_cases reached : time ≤ s.now <;> simp [reached]

theorem endOf_eq_none_iff :
    s.endOf c = none ↔ s.isCanceled c.token = false ∧ ¬ c.IsDue s.now := by
  obtain ⟨canceled, ended⟩ | ⟨live, due, ended⟩ | ⟨live, undue, ended⟩ := endOf_cases s c
  · simp [canceled, ended]
  · simp [live, due, ended]
  · simp [live, undue, ended]

theorem endOf_eq_canceled_iff : s.endOf c = some .canceled ↔ s.isCanceled c.token = true := by
  obtain ⟨canceled, ended⟩ | ⟨live, -, ended⟩ | ⟨live, -, ended⟩ := endOf_cases s c
  · simp [canceled, ended]
  · simp [live, ended]
  · simp [live, ended]

def Ends (s : Contexts) (c : Context) : Error → Prop
  | .canceled => s.isCanceled c.token = true
  | .deadlineExceeded => c.IsDue s.now
  | _ => False

theorem ends_of_endOf {reason : Error} (ended : s.endOf c = some reason) : s.Ends c reason := by
  obtain ⟨canceled, isEnd⟩ | ⟨-, due, isEnd⟩ | ⟨-, -, isEnd⟩ := endOf_cases s c
  · cases ended.symm.trans isEnd
    exact canceled
  · cases ended.symm.trans isEnd
    exact due
  · cases ended.symm.trans isEnd

theorem endOf_ne_none_iff : s.endOf c ≠ none ↔ ∃ reason, s.Ends c reason := by
  constructor
  · intro ended
    obtain ⟨reason, isEnd⟩ := Option.ne_none_iff_exists'.mp ended
    exact ⟨reason, ends_of_endOf isEnd⟩
  · rintro ⟨reason, ends⟩ live
    obtain ⟨uncanceled, undue⟩ := endOf_eq_none_iff.mp live
    cases reason with
    | canceled => exact Bool.eq_false_iff.mp uncanceled ends
    | deadlineExceeded => exact undue ends
    | _ => exact ends

/-- The reasons that one who waits for the end of a context may find. -/
def Wakes (s : Contexts) (c : Context) (reason : Error) : Prop :=
  TelemetryStreams.Wakes s.now (s.isCanceled c.token) c.deadline reason

/-! ### What stays -/

@[simp] theorem isCanceled_cancelToken (s : Contexts) (token other : Nat) :
    (s.cancelToken token).isCanceled other =
      (s.isCanceled other || decide (token = other ∧ token < s.tokens.length)) := by
  by_cases same : token = other
  · subst same
    by_cases inside : token < s.tokens.length <;>
      simp [isCanceled, cancelToken, wake, inside]
  · simp [isCanceled, cancelToken, wake, same]

theorem endOf_cancelToken_self {token : Nat} (isToken : token < s.tokens.length)
    (same : token = c.token) : (s.cancelToken token).endOf c = some .canceled := by
  rw [endOf_eq_canceled_iff, isCanceled_cancelToken]
  simp [← same, isToken]

theorem endOf_cancelToken_of_ne {token : Nat} (apart : token ≠ c.token) :
    (s.cancelToken token).endOf c = s.endOf c := by
  unfold endOf
  rw [isCanceled_cancelToken]
  simp [apart, cancelToken, wake]

theorem isCanceled_of_append {added : List Bool} {token : Nat}
    (tokens : t.tokens = s.tokens ++ added) (inside : token < s.tokens.length) :
    t.isCanceled token = s.isCanceled token := by
  unfold isCanceled
  rw [tokens, List.getElem?_append_left inside]

/-- What is so for good: that time has come, and what has been canceled. -/
structure Later (s t : Contexts) : Prop where
  now : s.now ≤ t.now
  tokens : s.tokens.length ≤ t.tokens.length
  canceled : ∀ token, s.isCanceled token = true → t.isCanceled token = true

theorem Later.refl (s : Contexts) : Later s s := ⟨Nat.le_refl _, Nat.le_refl _, fun _ => id⟩

theorem Later.trans (first : Later s t) (second : Later t u) : Later s u :=
  ⟨Nat.le_trans first.now second.now, Nat.le_trans first.tokens second.tokens,
    fun token => second.canceled token ∘ first.canceled token⟩

theorem Later.ends (later : Later s t) {reason : Error} (ends : s.Ends c reason) :
    t.Ends c reason := by
  cases reason with
  | canceled => exact later.canceled _ ends
  | deadlineExceeded =>
    obtain ⟨time, isDeadline, reached⟩ := ends
    exact ⟨time, isDeadline, Nat.le_trans reached later.now⟩
  | _ => exact ends

theorem Later.wakes (later : Later s t) {reason : Error} (wakes : s.Wakes c reason) :
    t.Wakes c reason :=
  TelemetryStreams.Wakes.later wakes later.now (later.canceled c.token)

theorem Later.endOf (later : Later s t) (ended : s.endOf c ≠ none) : t.endOf c ≠ none := by
  obtain ⟨reason, ends⟩ := endOf_ne_none_iff.mp ended
  exact endOf_ne_none_iff.mpr ⟨reason, later.ends ends⟩

theorem later_cancelToken (s : Contexts) (token : Nat) : Later s (s.cancelToken token) where
  now := Nat.le_refl _
  tokens := by simp [cancelToken, wake]
  canceled other canceled := by simp [canceled]

theorem later_of_append {added : List Bool} (now : t.now = s.now)
    (tokens : t.tokens = s.tokens ++ added) : Later s t where
  now := Nat.le_of_eq now.symm
  tokens := by simp [tokens]
  canceled token canceled := by
    have inside : token < s.tokens.length := by
      refine Nat.lt_of_not_le fun outside => ?_
      simp [isCanceled, List.getElem?_eq_none outside] at canceled
    exact (isCanceled_of_append tokens inside).trans canceled

/-- Whether an operation cancels a token. -/
def Cancels (s : Contexts) (token : Nat) : Action → Prop
  | .create spec => token = s.tokens.length ∧ spec.canceled = true
  | .cancel place => ∃ c, s.contexts[place]? = some c ∧ c.token = token
  | .cancelShared place => s.shared[place]? = some token
  | _ => False

theorem isCanceled_concat (tokens : t.tokens = s.tokens ++ [flag]) (token : Nat) :
    t.isCanceled token = true ↔
      s.isCanceled token = true ∨ token = s.tokens.length ∧ flag = true := by
  unfold isCanceled
  rw [tokens, List.getElem?_append]
  split
  case isTrue inside =>
    have differ : token ≠ s.tokens.length := Nat.ne_of_lt inside
    simp [differ]
  case isFalse outside =>
    rw [List.getElem?_eq_none (Nat.le_of_not_lt outside)]
    by_cases last : token = s.tokens.length
    · simp [last]
    · have beyond : token - s.tokens.length ≠ 0 := by omega
      simp [last, beyond]

/-- What is canceled after an operation was so before, or the operation cancels it. -/
theorem Turn.isCanceled_iff (turn : Turn s action t)
    (exist : ∀ (place : Nat) (c : Context), s.contexts[place]? = some c → c.token < s.tokens.length)
    (shared : ∀ token ∈ s.shared, token < s.tokens.length) (token : Nat) :
    t.isCanceled token = true ↔ s.isCanceled token = true ∨ Cancels s token action := by
  cases turn with
  | created => exact isCanceled_concat rfl token
  | shared => simpa [Cancels] using isCanceled_concat (t := s.share) rfl token
  | canceled isContext =>
    have isToken := exist _ _ isContext
    simp only [isCanceled_cancelToken, Bool.or_eq_true, decide_eq_true_iff, Cancels, isContext,
      Option.some.injEq, exists_eq_left']
    exact or_congr_right (and_iff_left_of_imp fun _ => isToken)
  | canceledShared isShared =>
    have isToken := shared _ (List.mem_of_getElem? isShared)
    simp only [isCanceled_cancelToken, Bool.or_eq_true, decide_eq_true_iff, Cancels, isShared,
      Option.some.injEq]
    exact or_congr_right (and_iff_left_of_imp fun _ => isToken)
  | _ => exact (or_iff_left id).symm

theorem Turn.later (turn : Turn s action t) : Later s t := by
  cases turn with
  | created | shared => exact later_of_append rfl rfl
  | cloned | changed | watched | looked => exact later_of_append rfl (List.append_nil _).symm
  | canceled | canceledShared => exact later_cancelToken s _
  | advanced => exact ⟨Nat.le_add_right _ _, Nat.le_refl _, fun _ => id⟩

theorem later_of_follow (follows : s.follow actions = some t) : Later s t :=
  follow_induction (fun _ _ _ earlier turn => earlier.trans turn.later) follows (Later.refl s)

end Contexts

end TelemetryStreams
