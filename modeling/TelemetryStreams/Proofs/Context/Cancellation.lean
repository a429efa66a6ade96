import TelemetryStreams.Proofs.Context.Descent

/-!
# Whom a cancellation reaches

Contexts have one token when they come from one context without a link on the way (`Akin`), or when
they were linked to one token last (`LinkedTo`), and for no other reason (`Traced`). Canceling a
context cancels its token, so it reaches those and nobody else (`cancel_reaches_holders`): a context
that has been linked cancels the token that it was linked to, and with it all others that were.
-/
namespace TelemetryStreams

namespace Contexts

/-- Whether two contexts come from one without a link on the way. -/
def Akin (history : List Action) (t : Contexts) (one other : Nat) : Prop :=
  ∃ before after s place changes changes', history = before ++ after ∧ follow {} before = some s ∧
    Descends s place after t one changes ∧ Change.lastLink? changes = none ∧
    Descends s place after t other changes' ∧ Change.lastLink? changes' = none

/-- Whether a token is the last that a context, or one that it comes from, was linked to. -/
def LinkedTo (history : List Action) (t : Contexts) (place token : Nat) : Prop :=
  ∃ before after s origin changes, history = before ++ after ∧ follow {} before = some s ∧
    Descends s origin after t place changes ∧ Change.lastLink? changes = some token

variable {s t u : Contexts} {history actions : List Action} {action : Action}
  {place other one token : Nat} {made made' changes : List (Nat × Change)} {c d : Context}

theorem Akin.step (akin : Akin history s one other) (turn : Turn s action t) {one' other' : Nat}
    (passes : Passes s action one one' made) (free : Change.lastLink? made = none)
    (passes' : Passes s action other other' made') (free' : Change.lastLink? made' = none) :
    Akin (history ++ [action]) t one' other' := by
  obtain ⟨before, after, origin, place, changes, changes', rfl, follows, descends, unlinked,
    descends', unlinked'⟩ := akin
  refine ⟨before, after ++ [action], origin, place, changes ++ made, changes' ++ made',
    List.append_assoc .., follows, descends.step turn passes, ?_, descends'.step turn passes', ?_⟩
  · rw [Change.lastLink?_append, free, unlinked]
    rfl
  · rw [Change.lastLink?_append, free', unlinked']
    rfl

theorem akin_self (follows : follow {} history = some t) (inside : place < t.contexts.length) :
    Akin history t place place :=
  ⟨history, [], t, place, [], [], (List.append_nil _).symm, follows, .refl inside, rfl,
    .refl inside, rfl⟩

theorem LinkedTo.step (linked : LinkedTo history s place token) (turn : Turn s action t)
    (passes : Passes s action place other made) (free : Change.lastLink? made = none) :
    LinkedTo (history ++ [action]) t other token := by
  obtain ⟨before, after, origin, first, changes, rfl, follows, descends, isLast⟩ := linked
  refine ⟨before, after ++ [action], origin, first, changes ++ made, List.append_assoc .., follows,
    descends.step turn passes, ?_⟩
  rw [Change.lastLink?_append, free, isLast]
  rfl

theorem linkedTo_of_passes (follows : follow {} history = some s) (turn : Turn s action t)
    (inside : place < s.contexts.length) (passes : Passes s action place other made)
    (links : Change.lastLink? made = some token) : LinkedTo (history ++ [action]) t other token :=
  ⟨history, [action], s, place, made, rfl, follows, (Descends.refl inside).step turn passes, links⟩

/-! ### Tokens -/

theorem Passes.shared (passes : Passes s action place other made) (turn : Turn s action t)
    (links : Change.lastLink? made = some token) : token ∈ s.shared := by
  cases passes with
  | stayed | cloned => cases links
  | @changed place change =>
    cases turn with
    | changed isContext admitted =>
      rw [Change.lastLink?_singleton] at links
      cases change with
      | link other =>
        cases links
        simpa [admits] using admitted
      | _ => cases links

theorem Turn.shared_cases (turn : Turn s action t) (isShared : token ∈ t.shared) :
    token ∈ s.shared ∨ (token = s.tokens.length ∧ t.tokens.length = s.tokens.length + 1) := by
  cases turn with
  | shared =>
    refine (List.mem_append.mp isShared).imp_right fun isNew => ?_
    exact ⟨List.mem_singleton.mp isNew, List.length_append⟩
  | _ => exact .inl isShared

theorem Turn.stays_shared (turn : Turn s action t) (isShared : token ∈ s.shared) :
    token ∈ t.shared := by
  cases turn with
  | shared => exact List.mem_append_left _ isShared
  | _ => exact isShared

/-- All tokens exist, and contexts have one token only where they come from one context or were
linked to it. -/
structure Traced (history : List Action) (t : Contexts) : Prop where
  exist : ∀ (place : Nat) (c : Context), t.contexts[place]? = some c → c.token < t.tokens.length
  shared : ∀ token ∈ t.shared, token < t.tokens.length
  linked : ∀ (place : Nat) (c : Context), t.contexts[place]? = some c → c.token ∈ t.shared →
    LinkedTo history t place c.token
  akin : ∀ (one other : Nat) (c d : Context), t.contexts[one]? = some c →
    t.contexts[other]? = some d → c.token = d.token → c.token ∉ t.shared → Akin history t one other

theorem traced_start : Traced [] {} where
  exist place c isContext := by cases isContext
  shared token isShared := by cases isShared
  linked place c isContext := by cases isContext
  akin one other c d isContext := by cases isContext

theorem Traced.handed_lt (traced : Traced history s) (turn : Turn s action t)
    (isContext : s.contexts[place]? = some c) (passes : Passes s action place other made) :
    (c.deriveAll made).token < s.tokens.length := by
  rw [Context.token_deriveAll]
  cases links : Change.lastLink? made with
  | none => exact traced.exist place c isContext
  | some token => exact traced.shared token (passes.shared turn links)

/-- A context that was handed on without a shared token was not linked. -/
theorem Passes.unlinked (passes : Passes s action place other made) (turn : Turn s action t)
    (unshared : (c.deriveAll made).token ∉ t.shared) :
    Change.lastLink? made = none ∧ (c.deriveAll made).token = c.token := by
  have token := c.token_deriveAll made
  cases links : Change.lastLink? made with
  | none => exact ⟨rfl, by rw [token, links]; rfl⟩
  | some linked =>
    rw [links, Option.getD_some] at token
    exact absurd (turn.stays_shared (passes.shared turn links)) (token ▸ unshared)

theorem Traced.step (traced : Traced history s) (follows : follow {} history = some s)
    (turn : Turn s action t) : Traced (history ++ [action]) t where
  exist place c isContext := by
    obtain ⟨spec, rfl, -, isNew, -⟩ | ⟨origin, b, made, isOld, passes, rfl⟩ :=
      turn.context_cases isContext
    · cases turn
      rw [isNew, create, List.length_append]
      exact Nat.lt_succ_self _
    · exact Nat.lt_of_lt_of_le (traced.handed_lt turn isOld passes) turn.later.tokens
  shared token isShared := by
    obtain isShared | ⟨rfl, longer⟩ := turn.shared_cases isShared
    · exact Nat.lt_of_lt_of_le (traced.shared token isShared) turn.later.tokens
    · omega
  linked place c isContext isShared := by
    obtain ⟨spec, rfl, -, isNew, -⟩ | ⟨origin, b, made, isOld, passes, rfl⟩ :=
      turn.context_cases isContext
    · cases turn
      exact absurd (traced.shared _ isShared) (by omega)
    · have inside := (List.getElem?_eq_some_iff.mp isOld).1
      have token := b.token_deriveAll made
      cases links : Change.lastLink? made with
      | some linked =>
        rw [links, Option.getD_some] at token
        exact token ▸ linkedTo_of_passes follows turn inside passes links
      | none =>
        rw [links, Option.getD_none] at token
        rw [token] at isShared ⊢
        obtain isShared | ⟨isNew, -⟩ := turn.shared_cases isShared
        · exact (traced.linked origin b isOld isShared).step turn passes links
        · exact absurd (traced.exist origin b isOld) (by omega)
  akin one other c d isContext isOther same unshared := by
    obtain ⟨spec, rfl, rfl, isNew, -⟩ | ⟨origin, b, made, isOld, passes, rfl⟩ :=
      turn.context_cases isContext <;>
      obtain ⟨spec', isCreate, rfl, isNew', -⟩ | ⟨origin', b', made', isOld', passes', rfl⟩ :=
        turn.context_cases isOther
    · refine akin_self (t := t) ?_ (List.getElem?_eq_some_iff.mp isContext).1
      rw [follow_concat, follows]
      exact turn.made
    · have old := traced.handed_lt turn isOld' passes'
      omega
    · have old := traced.handed_lt turn isOld passes
      omega
    · obtain ⟨free, token⟩ := passes.unlinked turn unshared
      obtain ⟨free', token'⟩ := passes'.unlinked turn (same ▸ unshared)
      rw [token, token'] at same
      rw [token] at unshared
      have akin := traced.akin origin origin' b b' isOld isOld' same fun isShared =>
        unshared (turn.stays_shared isShared)
      exact akin.step turn passes free passes' free'

theorem traced_follow (follows : follow {} history = some t) : Traced history t := by
  induction history using List.reverseRecOn generalizing t with
  | nil =>
    cases follows
    exact traced_start
  | append_singleton history action ih =>
    obtain ⟨s, follows, turn⟩ := turn_of_follow_concat follows
    exact (ih follows).step follows turn

/-! ### Cancellation -/

/-- The context at the end of a descent. -/
theorem Descends.token_eq (descends : Descends s place actions t other changes)
    (isContext : t.contexts[other]? = some d) :
    ∃ c, s.contexts[place]? = some c ∧ d.token = (Change.lastLink? changes).getD c.token := by
  obtain ⟨c, isOrigin⟩ := descends.exists_origin
  obtain rfl := Option.some.inj ((descends.derives isOrigin).symm.trans isContext)
  exact ⟨c, isOrigin, c.token_deriveAll changes⟩

theorem Descends.shared (descends : Descends s place actions t other changes)
    (links : Change.lastLink? changes = some token) : token ∈ t.shared := by
  induction descends with
  | refl => cases links
  | step earlier turn passes ih =>
    rw [Change.lastLink?_append] at links
    obtain links | ⟨-, links⟩ := Option.or_eq_some_iff.mp links
    · exact turn.stays_shared (passes.shared turn links)
    · exact turn.stays_shared (ih links)

theorem LinkedTo.token_eq (linked : LinkedTo history t place token)
    (isContext : t.contexts[place]? = some c) : c.token = token := by
  obtain ⟨before, after, s, origin, changes, -, -, descends, isLast⟩ := linked
  obtain ⟨_, -, same⟩ := descends.token_eq isContext
  rw [same, isLast, Option.getD_some]

theorem LinkedTo.shared (linked : LinkedTo history t place token) : token ∈ t.shared := by
  obtain ⟨before, after, s, origin, changes, -, -, descends, isLast⟩ := linked
  exact descends.shared isLast

theorem Akin.token_eq (akin : Akin history t one other) (isContext : t.contexts[one]? = some c)
    (isOther : t.contexts[other]? = some d) : c.token = d.token := by
  obtain ⟨before, after, s, place, changes, changes', -, -, descends, unlinked, descends',
    unlinked'⟩ := akin
  obtain ⟨b, isOrigin, same⟩ := descends.token_eq isContext
  obtain ⟨b', isOrigin', same'⟩ := descends'.token_eq isOther
  obtain rfl := Option.some.inj (isOrigin.symm.trans isOrigin')
  rw [same, same', unlinked, unlinked']

/-- Whether a context has the token of another one: they are akin, or were linked to one token
last. -/
def SharesToken (history : List Action) (t : Contexts) (one other : Nat) : Prop :=
  Akin history t one other ∨ ∃ token, LinkedTo history t one token ∧ LinkedTo history t other token

theorem Traced.sharesToken_iff (traced : Traced history t) (isContext : t.contexts[one]? = some c)
    (isOther : t.contexts[other]? = some d) :
    SharesToken history t one other ↔ c.token = d.token := by
  constructor
  · rintro (akin | ⟨token, linked, linked'⟩)
    · exact akin.token_eq isContext isOther
    · exact (linked.token_eq isContext).trans (linked'.token_eq isOther).symm
  · intro same
    by_cases isShared : c.token ∈ t.shared
    · refine .inr ⟨c.token, traced.linked one c isContext isShared, ?_⟩
      exact same ▸ traced.linked other d isOther (same ▸ isShared)
    · exact .inl (traced.akin one other c d isContext isOther same isShared)

theorem SharesToken.exists_context (shares : SharesToken history t one other) :
    ∃ d, t.contexts[other]? = some d := by
  obtain ⟨_, _, s, place, _, _, -, -, -, -, descends, -⟩ |
    ⟨token, -, _, _, s, place, _, -, -, descends, -⟩ := shares
  all_goals
    obtain ⟨c, isOrigin⟩ := descends.exists_origin
    exact ⟨_, descends.derives isOrigin⟩

/-- Canceling a context cancels it and those that share its token, because they are akin to it or
were linked to the token that it was linked to last; it does nothing to any other context. Of the
shared tokens it cancels the one that the context was linked to last. -/
theorem cancel_reaches_holders (follows : follow {} history = some t)
    (made : t.step (.cancel place) = some u) :
    u.ended? place = some .canceled ∧
    (∀ other, SharesToken history t place other → u.ended? other = some .canceled) ∧
    (∀ other, ¬ SharesToken history t place other → u.ended? other = t.ended? other) ∧
    (∀ token ∈ t.shared,
      (u.isCanceled token = true ↔ t.isCanceled token = true ∨ LinkedTo history t place token)) ∧
    u.contexts = t.contexts ∧ u.shared = t.shared ∧ u.now = t.now := by
  have traced := traced_follow follows
  obtain ⟨c, isContext, made⟩ := Option.bind_eq_some_iff.mp made
  cases made
  have isToken := traced.exist place c isContext
  have ended {other : Nat} {d : Context} (isOther : t.contexts[other]? = some d) :
      (t.cancelToken c.token).ended? other =
        if c.token = d.token then some .canceled else t.ended? other := by
    have here : (t.cancelToken c.token).contexts[other]? = some d := isOther
    rw [ended?, ended?, here, isOther, Option.bind_some, Option.bind_some]
    split
    case isTrue same => exact endOf_cancelToken_self isToken same
    case isFalse apart => exact endOf_cancelToken_of_ne apart
  refine ⟨by rw [ended isContext, if_pos rfl], fun other shares => ?_, fun other apart => ?_,
    fun token isShared => ?_, rfl, rfl, rfl⟩
  · obtain ⟨d, isOther⟩ := shares.exists_context
    rw [ended isOther, if_pos ((traced.sharesToken_iff isContext isOther).mp shares)]
  · cases isOther : t.contexts[other]? with
    | none => simp [ended?, isOther, cancelToken, wake]
    | some d => rw [ended isOther, if_neg (apart ∘ (traced.sharesToken_iff isContext isOther).mpr)]
  · rw [isCanceled_cancelToken, Bool.or_eq_true, decide_eq_true_iff]
    refine or_congr_right ⟨fun both => ?_, fun linked => ⟨linked.token_eq isContext, isToken⟩⟩
    obtain ⟨rfl, -⟩ := both
    exact traced.linked place c isContext isShared

/-- Two callers with contexts that are linked to one token, and a clone of the first one's with a
deadline. The third context is on its own. -/
def sharing : List Action :=
  [.share, .create {}, .change 0 (.link 0), .create {}, .change 1 (.link 0), .clone 0,
    .change 2 (.timeout 5), .create {}]

theorem cancel_reaches_holders_linked :
    ∃ t u, follow {} sharing = some t ∧ t.step (.cancel 2) = some u ∧
      [0, 1, 2, 3].map t.ended? = [none, none, none, none] ∧
      [0, 1, 2, 3].map u.ended? = [some .canceled, some .canceled, some .canceled, none] ∧
      LinkedTo sharing t 2 0 ∧ u.isCanceled 0 = true := by
  have facts : ((follow {} sharing).bind fun t => (t.step (.cancel 2)).bind fun u =>
      t.contexts[0]?.bind fun a => t.contexts[1]?.bind fun b => t.contexts[2]?.bind fun c =>
        t.contexts[3]?.map fun d => ([a, b, c, d].map Context.token, t.shared,
          [0, 1, 2, 3].map t.ended?)) =
      some ([0, 0, 0, 3], [0], [none, none, none, none]) := by decide +kernel
  obtain ⟨t, follows, facts⟩ := Option.bind_eq_some_iff.mp facts
  obtain ⟨u, made, facts⟩ := Option.bind_eq_some_iff.mp facts
  obtain ⟨a, isA, facts⟩ := Option.bind_eq_some_iff.mp facts
  obtain ⟨b, isB, facts⟩ := Option.bind_eq_some_iff.mp facts
  obtain ⟨c, isC, facts⟩ := Option.bind_eq_some_iff.mp facts
  obtain ⟨d, isD, facts⟩ := Option.map_eq_some_iff.mp facts
  simp only [Prod.mk.injEq, List.map_cons, List.map_nil, List.cons.injEq] at facts
  obtain ⟨⟨tokenA, tokenB, tokenC, tokenD, -⟩, shared, live⟩ := facts
  have traced := traced_follow follows
  obtain ⟨self, reached, others, tokens, -⟩ := cancel_reaches_holders follows made
  have linked : LinkedTo sharing t 2 0 := tokenC ▸ traced.linked 2 c isC (by simp [tokenC, shared])
  have first := reached 0 ((traced.sharesToken_iff isC isA).mpr (tokenC.trans tokenA.symm))
  have second := reached 1 ((traced.sharesToken_iff isC isB).mpr (tokenC.trans tokenB.symm))
  have last := others 3 fun shares => by
    have same := (traced.sharesToken_iff isC isD).mp shares
    omega
  refine ⟨t, u, follows, made, by simp [live], ?_, linked, ?_⟩
  · simp [first, second, self, last, live]
  · exact (tokens 0 (by simp [shared])).mpr (.inr linked)

theorem Descends.place_eq (descends : Descends s place actions t other changes)
    (uncloned : ∀ origin, .clone origin ∉ actions) : other = place := by
  induction descends with
  | refl => rfl
  | step earlier turn passes ih =>
    have before := ih fun origin isClone => uncloned origin (List.mem_append_left _ isClone)
    cases passes with
    | stayed | changed => exact before
    | cloned => exact absurd (List.mem_append_right _ (List.mem_singleton_self _)) (uncloned _)

theorem Akin.eq_of_uncloned (akin : Akin history t one other)
    (uncloned : ∀ origin, .clone origin ∉ history) : one = other := by
  obtain ⟨before, after, s, place, changes, changes', rfl, -, descends, -, descends', -⟩ := akin
  have rest (origin : Nat) : .clone origin ∉ after := fun isClone =>
    uncloned origin (List.mem_append_right _ isClone)
  exact (descends.place_eq rest).trans (descends'.place_eq rest).symm

/-- A context that is linked to a token cancels the token when it is canceled, and a context that it
has nothing else to do with. -/
theorem linked_cancel_reaches_others :
    ∃ history t u, follow {} history = some t ∧ t.step (.cancel 0) = some u ∧
      ¬ Akin history t 0 1 ∧ t.ended? 1 = none ∧ u.ended? 1 = some .canceled ∧
      0 ∈ t.shared ∧ t.isCanceled 0 = false ∧ u.isCanceled 0 = true := by
  refine ⟨[.share, .create {}, .change 0 (.link 0), .create {}, .change 1 (.link 0)], _, _, rfl,
    rfl, fun akin => ?_, rfl, rfl, List.mem_singleton_self 0, rfl, rfl⟩
  exact absurd (akin.eq_of_uncloned (by simp)) (by decide)

end Contexts

end TelemetryStreams
