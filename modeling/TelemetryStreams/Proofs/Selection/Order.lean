import TelemetryStreams.Proofs.Prioritizer
import TelemetryStreams.Proofs.Selection.Turns
import Mathlib.Data.List.Nodup
import Mathlib.Logic.ExistsUnique

/-!
# The order of the ready streams

What happens to the ready streams is a history of deeds: streams are offered and withdrawn, callers
return with streams, and the prioritizer is downgraded. Which offers still stand can be told from the
history alone (`Stands`), and so can the order in which they were made (`standing`). The ready streams are
those, in that order, after every run, whoever waits and was notified meanwhile (`ready_is_fifo`): a
caller that looks gets the stream whose offer is the oldest one that stands, and by that uses up one offer.
-/
namespace TelemetryStreams.Selection

/-- What happens to the ready streams. -/
inductive Deed where
  | offered (stream : Nat)
  | withdrawn (stream : Nat)
  /-- A caller has returned with a stream. -/
  | handed (stream : Nat)
  | downgraded
  deriving DecidableEq, Repr

/-- Whether an offer of a stream is over once this has happened. -/
def Deed.ends (stream : Nat) : Deed → Bool
  | .offered _ => false
  | .withdrawn other | .handed other => other = stream
  | .downgraded => true

def streamOf? (s : Selection) (caller : Nat) : Option Nat := do
  let c ← s.seekers[caller]?
  match c.phase with
  | .done (.ok stream) => stream
  | _ => none

/-- What an action that leads to a state does to the ready streams. -/
def deeds (t : Selection) : Action → List Deed
  | .setReady stream => [.offered stream]
  | .removeReady stream => [.withdrawn stream]
  | .downgrade => [.downgraded]
  | .look caller | .lookAgain caller => (t.streamOf? caller).toList.map .handed
  | _ => []

/-- What the actions of a run do to the ready streams. -/
def record (s : Selection) : List Action → List Deed
  | [] => []
  | action :: actions => match s.perform action with
    | some t => t.deeds action ++ t.record actions
    | none => []

/-! ### What a history says -/

/-- An offer of a stream between two parts of a history stands: it was not made after a downgrade, and
since then the stream was neither handed out nor withdrawn, and there was no downgrade. -/
structure Stands (earlier : List Deed) (stream : Nat) (later : List Deed) : Prop where
  accepted : .downgraded ∉ earlier
  lasts : ∀ deed ∈ later, deed.ends stream = false

/-- The stream whose offer is the oldest one that stands. -/
def IsOldest (history : List Deed) (stream : Nat) : Prop :=
  ∃ earlier later, history = earlier ++ .offered stream :: later ∧ Stands earlier stream later ∧
    ∀ before other between, earlier = before ++ .offered other :: between →
      ¬ Stands before other (between ++ .offered stream :: later)

/-- An offer after a history takes effect: it is not made after a downgrade, and no other offer of the
stream stands. -/
def TakesEffect (earlier : List Deed) (stream : Nat) : Prop :=
  .downgraded ∉ earlier ∧ ∀ before between, earlier = before ++ .offered stream :: between →
    ¬ Stands before stream between

/-- Handing out a stream after a history uses up the offer that was made after an earlier part of it. -/
def UsesUp (history : List Deed) (stream : Nat) (earlier : List Deed) : Prop :=
  TakesEffect earlier stream ∧ ∃ later, history = earlier ++ .offered stream :: later ∧
    Stands earlier stream later

/-- The streams with an offer that stands, the oldest offer first. -/
def standing : List Deed → List Nat
  | [] => []
  | .offered stream :: later =>
    if later.any (Deed.ends stream) then standing later
    else stream :: (standing later).filter (· ≠ stream)
  | .withdrawn _ :: later | .handed _ :: later => standing later
  | .downgraded :: _ => []

variable {s t u : Selection} {action : Action} {actions more : List Action} {caller stream other : Nat}
  {earlier later history : List Deed} {deed : Deed}

theorem stands_cons (mild : deed ≠ .downgraded) :
    Stands (deed :: earlier) stream later ↔ Stands earlier stream later := by
  constructor
  · rintro ⟨accepted, lasts⟩
    exact ⟨fun isDeed => accepted (List.mem_cons_of_mem _ isDeed), lasts⟩
  · rintro ⟨accepted, lasts⟩
    refine ⟨fun isDeed => ?_, lasts⟩
    obtain same | isDeed := List.mem_cons.mp isDeed
    · exact mild same.symm
    · exact accepted isDeed

theorem stands_nil : Stands [] stream later ↔ ¬ later.any (Deed.ends stream) := by
  rw [Bool.not_eq_true, List.any_eq_false]
  constructor
  · rintro ⟨-, lasts⟩ deed isDeed
    simp [lasts deed isDeed]
  · intro lasts
    exact ⟨by simp, fun deed isDeed => by simpa using lasts deed isDeed⟩

theorem Stands.append (stands : Stands earlier stream later) {since : List Deed}
    (lasts : ∀ deed ∈ since, deed.ends stream = false) : Stands earlier stream (later ++ since) := by
  refine ⟨stands.accepted, fun deed isDeed => ?_⟩
  obtain isDeed | isDeed := List.mem_append.mp isDeed
  · exact stands.lasts deed isDeed
  · exact lasts deed isDeed

theorem split_cons {stream : Nat} :
    deed :: history = earlier ++ .offered stream :: later ↔
      earlier = [] ∧ deed = .offered stream ∧ history = later ∨
        ∃ rest, earlier = deed :: rest ∧ history = rest ++ .offered stream :: later := by
  cases earlier with
  | nil => simp
  | cons first rest =>
    simp only [List.cons_append, List.cons.injEq, reduceCtorEq, false_and, false_or]
    constructor
    · rintro ⟨rfl, same⟩
      exact ⟨rest, ⟨rfl, rfl⟩, same⟩
    · rintro ⟨_, ⟨rfl, rfl⟩, same⟩
      exact ⟨rfl, same⟩

theorem nodup_standing (history : List Deed) : (standing history).Nodup := by
  induction history with
  | nil => exact List.nodup_nil
  | cons deed history ih =>
    cases deed with
    | offered stream =>
      unfold standing
      split
      · exact ih
      · exact List.nodup_cons.mpr ⟨by simp, ih.filter _⟩
    | withdrawn | handed => exact ih
    | downgraded => exact List.nodup_nil

theorem mem_standing : stream ∈ standing history ↔
    ∃ earlier later, history = earlier ++ .offered stream :: later ∧ Stands earlier stream later := by
  induction history with
  | nil => simp [standing]
  | cons deed history ih =>
    -- What stands after a mild deed stands without it, unless the deed is the offer itself.
    have later (mild : deed ≠ .downgraded) :
        (∃ earlier later, deed :: history = earlier ++ .offered stream :: later ∧
          Stands earlier stream later) ↔
        deed = .offered stream ∧ ¬ history.any (Deed.ends stream) ∨ stream ∈ standing history := by
      rw [ih]
      constructor
      · rintro ⟨earlier, later, split, stands⟩
        obtain ⟨rfl, rfl, rfl⟩ | ⟨rest, rfl, rfl⟩ := split_cons.mp split
        · exact .inl ⟨rfl, stands_nil.mp stands⟩
        · exact .inr ⟨rest, later, rfl, (stands_cons mild).mp stands⟩
      · rintro (⟨rfl, lasts⟩ | ⟨rest, later, rfl, stands⟩)
        · exact ⟨[], history, rfl, stands_nil.mpr lasts⟩
        · exact ⟨deed :: rest, later, rfl, (stands_cons mild).mpr stands⟩
    cases deed with
    | offered other =>
      rw [later (fun same => by cases same), standing]
      by_cases same : other = stream
      · subst same
        split
        case isTrue ended => simp [ended]
        case isFalse lasts => simp [lasts]
      · split <;> simp [same, Ne.symm same]
    | withdrawn | handed =>
      rw [later (fun same => by cases same), standing]
      simp
    | downgraded =>
      simp only [standing, List.not_mem_nil, false_iff]
      rintro ⟨earlier, later, split, stands⟩
      obtain ⟨-, wrong, -⟩ | ⟨rest, rfl, -⟩ := split_cons.mp split
      · cases wrong
      · exact stands.accepted List.mem_cons_self

theorem head?_standing : (standing history).head? = some stream ↔ IsOldest history stream := by
  induction history with
  | nil => simp [standing, IsOldest]
  | cons deed history ih =>
    have later (mild : deed ≠ .downgraded)
        (past : ∀ other, deed = .offered other → history.any (Deed.ends other)) :
        IsOldest (deed :: history) stream ↔ IsOldest history stream := by
      constructor
      · rintro ⟨earlier, later, split, stands, oldest⟩
        obtain ⟨rfl, rfl, rfl⟩ | ⟨rest, rfl, rfl⟩ := split_cons.mp split
        · exact absurd (past _ rfl) (stands_nil.mp stands)
        · refine ⟨rest, later, rfl, (stands_cons mild).mp stands, ?_⟩
          rintro before other between rfl older
          exact oldest (deed :: before) other between rfl ((stands_cons mild).mpr older)
      · rintro ⟨rest, later, rfl, stands, oldest⟩
        refine ⟨deed :: rest, later, rfl, (stands_cons mild).mpr stands, ?_⟩
        intro before other between split older
        obtain ⟨rfl, rfl, rfl⟩ | ⟨before, rfl, rfl⟩ := split_cons.mp split
        · exact stands_nil.mp older (past _ rfl)
        · exact oldest before other between rfl ((stands_cons mild).mp older)
    cases deed with
    | offered other =>
      unfold standing
      split
      case isTrue ended =>
        rw [later (fun same => by cases same) fun _ same => by cases same; exact ended]
        exact ih
      case isFalse lasts =>
        rw [List.head?_cons, Option.some.injEq]
        constructor
        · rintro rfl
          exact ⟨[], history, rfl, stands_nil.mpr lasts, by simp⟩
        · rintro ⟨earlier, later, split, stands, oldest⟩
          obtain ⟨-, same, -⟩ | ⟨rest, rfl, rfl⟩ := split_cons.mp split
          · exact Deed.offered.inj same
          · exact absurd (stands_nil.mpr lasts) (oldest [] other rest rfl)
    | withdrawn | handed =>
      rw [later (fun same => by cases same) fun _ same => by cases same]
      exact ih
    | downgraded =>
      simp only [standing, List.head?_nil, reduceCtorEq, false_iff]
      rintro ⟨earlier, later, split, stands, -⟩
      obtain ⟨-, wrong, -⟩ | ⟨rest, rfl, -⟩ := split_cons.mp split
      · cases wrong
      · exact stands.accepted List.mem_cons_self

/-! ### One deed more -/

theorem any_ends_concat (history : List Deed) (deed : Deed) (stream : Nat) :
    (history ++ [deed]).any (Deed.ends stream) =
      (history.any (Deed.ends stream) || deed.ends stream) := by
  simp

/-- A stream that is offered comes to the end, unless it stands already or there was a downgrade. -/
theorem standing_offered (history : List Deed) (stream : Nat) :
    standing (history ++ [.offered stream]) =
      if .downgraded ∈ history ∨ stream ∈ standing history then standing history
      else standing history ++ [stream] := by
  induction history with
  | nil => simp [standing]
  | cons deed history ih =>
    cases deed with
    | offered other =>
      simp only [List.cons_append, standing, any_ends_concat, Deed.ends, Bool.or_false]
      split
      case isTrue => simp [ih]
      case isFalse lasts =>
        have accepting : .downgraded ∉ history := fun isDeed =>
          lasts (List.any_eq_true.mpr ⟨_, isDeed, rfl⟩)
        rw [ih]
        by_cases same : stream = other
        · subst same
          by_cases isIn : stream ∈ standing history <;> simp [accepting, isIn]
        · by_cases isIn : stream ∈ standing history <;> simp [accepting, isIn, same]
    | withdrawn | handed => simpa [standing] using ih
    | downgraded => simp [standing]

/-- Any other deed takes the streams away whose offers it ends, and leaves the others in their order. -/
theorem standing_ends (history : List Deed) (ending : ∀ stream, deed ≠ .offered stream) :
    standing (history ++ [deed]) = (standing history).filter fun stream => !deed.ends stream := by
  induction history with
  | nil =>
    cases deed with
    | offered stream => exact absurd rfl (ending stream)
    | withdrawn | handed | downgraded => rfl
  | cons first history ih =>
    cases first with
    | offered other =>
      simp only [List.cons_append, standing, any_ends_concat, Bool.or_eq_true]
      by_cases past : history.any (Deed.ends other) = true
      · simpa [past] using ih
      · cases ends : deed.ends other with
        | true =>
          have same (stream : Nat) : (!deed.ends stream) =
              (!deed.ends stream && decide (stream ≠ other)) := by
            by_cases same : stream = other
            · simp [same, ends]
            · simp [same]
          simp only [past, or_true, if_true, ih, Bool.false_eq_true, if_false]
          rw [List.filter_cons_of_neg (by simp [ends]), List.filter_filter]
          exact List.filter_congr fun stream _ => same stream
        | false =>
          simp only [past, Bool.false_eq_true, or_false, if_false, ih]
          rw [List.filter_cons_of_pos (by simp [ends]), List.filter_filter, List.filter_filter]
          simp only [Bool.and_comm]
    | withdrawn | handed => simpa [standing] using ih
    | downgraded => simp [standing]

/-! ### What every step keeps -/

/-- The ready streams are those that stand in a history, and every stream was handed out when its offer
was the oldest one. -/
structure Fifo (s : Selection) (history : List Deed) : Prop where
  ready : s.prioritizer.ready = standing history
  downgraded : s.prioritizer.downgraded = true ↔ .downgraded ∈ history
  fair : ∀ before stream after, history = before ++ .handed stream :: after → IsOldest before stream

theorem fair_concat
    (fair : ∀ before stream after, history = before ++ .handed stream :: after →
      IsOldest before stream)
    (last : ∀ stream, deed = .handed stream → IsOldest history stream) :
    ∀ before stream after, history ++ [deed] = before ++ .handed stream :: after →
      IsOldest before stream := by
  intro before stream after split
  rcases List.eq_nil_or_concat' after with rfl | ⟨after, final, rfl⟩
  · obtain ⟨rfl, same⟩ := List.append_inj' split rfl
    exact last stream (List.head_eq_of_cons_eq same)
  · rw [← List.cons_append, ← List.append_assoc] at split
    exact fair before stream after (List.append_inj' split rfl).1

theorem Fifo.rest (fifo : Fifo s history) (same : t.prioritizer.Agrees s.prioritizer) :
    Fifo t history :=
  ⟨same.ready.trans fifo.ready, by rw [same.downgraded]; exact fifo.downgraded, fifo.fair⟩

theorem streamOf?_eq_some_iff : s.streamOf? caller = some stream ↔
    ∃ c, s.seekers[caller]? = some c ∧ c.phase = .done (.ok (some stream)) := by
  unfold streamOf?
  cases s.seekers[caller]? with
  | none => simp
  | some c =>
    simp only [Option.bind_eq_bind, Option.bind_some, Option.some.injEq, exists_eq_left']
    split
    case h_1 found phase => simp [phase]
    case h_2 other => simpa using other _

theorem streamOf?_found {c : Seeker} {look : Find × Prioritizer}
    (isSeeker : s.seekers[caller]? = some c) :
    (s.found caller look).streamOf? caller = some stream ↔ look.1 = .stream stream := by
  unfold streamOf? found
  rw [setPhase_getElem? isSeeker]
  cases look.1 <;> simp [ofFind]

/-- A look hands out the oldest stream, if there is one. -/
theorem Fifo.looks {c : Seeker} {before : Prioritizer} (fifo : Fifo s history)
    (isSeeker : s.seekers[caller]? = some c) (same : before.Agrees s.prioritizer) :
    (∀ stream, (s.found caller (before.look caller)).streamOf? caller = some stream ↔
      IsOldest history stream) ∧
    Fifo (s.found caller (before.look caller)) (history ++
      ((s.found caller (before.look caller)).streamOf? caller).toList.map .handed) := by
  have ready : before.ready = standing history := same.ready.trans fifo.ready
  have downgraded : (before.look caller).2.downgraded = true ↔ .downgraded ∈ history := by
    rw [Prioritizer.downgraded_look, same.downgraded]
    exact fifo.downgraded
  obtain ⟨stream, found, first⟩ | ⟨found, none, left⟩ := before.look_cases caller
  · have stands : standing history = stream :: (before.look caller).2.ready := ready.symm.trans first
    have has : (s.found caller (before.look caller)).streamOf? caller = some stream :=
      (streamOf?_found isSeeker).mpr found
    rw [has]
    refine ⟨fun other => by simp [← head?_standing, stands], ?_, ?_,
      fair_concat fifo.fair fun other same => ?_⟩
    · have others := (List.nodup_cons.mp (stands ▸ nodup_standing history)).1
      have stays : ∀ other ∈ (before.look caller).2.ready,
          (!(Deed.handed stream).ends other) = true := by
        intro other isReady
        have differ : stream ≠ other := fun same => others (same ▸ isReady)
        simpa [Deed.ends] using differ
      change (before.look caller).2.ready = standing (history ++ [.handed stream])
      rw [standing_ends _ (fun _ same => by cases same), stands,
        List.filter_cons_of_neg (by simp [Deed.ends]), List.filter_eq_self.mpr stays]
    · simpa [Selection.found] using downgraded
    · cases same
      exact head?_standing.mp (by rw [stands]; rfl)
  · have empty : standing history = [] := ready.symm.trans none
    have unfound (stream : Nat) : (before.look caller).1 ≠ .stream stream := by
      obtain found | found := found <;> rw [found] <;> exact fun same => by cases same
    have has : (s.found caller (before.look caller)).streamOf? caller = Option.none :=
      Option.eq_none_iff_forall_ne_some.mpr fun stream same =>
        unfound stream ((streamOf?_found isSeeker).mp same)
    rw [has]
    refine ⟨fun stream => by simp [← head?_standing, empty], ?_, ?_, ?_⟩
    · simpa [Selection.found, empty] using left
    · simpa [Selection.found] using downgraded
    · simpa using fifo.fair

/-- Every step keeps the order. -/
theorem Fifo.step (fifo : Fifo s history) (turn : Turn s action t) :
    Fifo t (history ++ t.deeds action) := by
  have rest (none : t.deeds action = []) (same : t.prioritizer.Agrees s.prioritizer) :
      Fifo t (history ++ t.deeds action) := by
    rw [none, List.append_nil]
    exact fifo.rest same
  cases turn with
  | @readied stream =>
    refine ⟨?_, ?_, fair_concat fifo.fair fun _ same => by cases same⟩
    · simp only [Prioritizer.ready_setReady, deeds, standing_offered, fifo.ready, fifo.downgraded]
    · simpa [deeds, Prioritizer.downgraded_setReady] using fifo.downgraded
  | withdrawn =>
    refine ⟨?_, ?_, fair_concat fifo.fair fun _ same => by cases same⟩
    · rw [deeds, standing_ends _ (fun _ same => by cases same), ← fifo.ready]
      simp [Prioritizer.removeReady, Deed.ends, eq_comm]
    · simpa [deeds, Prioritizer.removeReady] using fifo.downgraded
  | downgraded =>
    refine ⟨?_, by simp [deeds, Prioritizer.downgrade],
      fair_concat fifo.fair fun _ same => by cases same⟩
    rw [deeds, standing_ends _ (fun _ same => by cases same)]
    simp [Prioritizer.downgrade, Deed.ends]
  | arrived | canceled | advanced => exact rest rfl ⟨rfl, rfl⟩
  | looked isSeeker => exact (fifo.looks isSeeker ⟨rfl, rfl⟩).2
  | @lookedAgain caller c isSeeker =>
    have same : Prioritizer.Agrees { s.prioritizer with
      notified := s.prioritizer.notified.erase caller } s.prioritizer := ⟨rfl, rfl⟩
    exact (fifo.looks isSeeker same).2
  | dismissed | gaveUp => exact rest rfl (Prioritizer.agrees_leave _ _)

theorem fifo_start : Fifo {} [] := by
  refine ⟨rfl, by simp, fun before stream after split => ?_⟩
  have size := congrArg List.length split
  simp at size

theorem Fifo.follow (fifo : Fifo s history) (follows : s.follow actions = some t) :
    Fifo t (history ++ s.record actions) := by
  induction actions generalizing s history with
  | nil =>
    cases follows
    simpa [record] using fifo
  | cons action actions ih =>
    obtain ⟨middle, made, follows⟩ := Option.bind_eq_some_iff.mp follows
    have kept := ih (fifo.step (perform_turn made)) follows
    simpa [record, made] using kept

/-! ### What is handed out -/

/-- Of two places of a deed in a history one comes before the other one, unless they are the same. -/
theorem split_cases {since since' : List Deed}
    (same : earlier ++ deed :: since = later ++ deed :: since') :
    earlier = later ∨ (∃ between, later = earlier ++ deed :: between ∧
        since = between ++ deed :: since') ∨
      ∃ between, earlier = later ++ deed :: between ∧ since' = between ++ deed :: since := by
  obtain ⟨between, rfl, tail⟩ | ⟨between, rfl, tail⟩ := List.append_eq_append_iff.mp same
  · cases between with
    | nil => exact .inl (List.append_nil _).symm
    | cons first between =>
      simp only [List.cons_append, List.cons.injEq] at tail
      obtain ⟨rfl, tail⟩ := tail
      exact .inr (.inl ⟨between, rfl, tail⟩)
  · cases between with
    | nil => exact .inl (List.append_nil _)
    | cons first between =>
      simp only [List.cons_append, List.cons.injEq] at tail
      obtain ⟨rfl, tail⟩ := tail
      exact .inr (.inr ⟨between, rfl, tail⟩)

/-- Of two offers of a stream the later one takes no effect while the earlier one stands. -/
theorem Stands.not_takesEffect {since : List Deed}
    (stands : Stands earlier stream (later ++ since)) :
    ¬ TakesEffect (earlier ++ .offered stream :: later) stream := by
  rintro ⟨-, alone⟩
  exact alone earlier later rfl ⟨stands.accepted, fun deed isDeed =>
    stands.lasts deed (List.mem_append_left _ isDeed)⟩

theorem UsesUp.unique {other : List Deed} (first : UsesUp history stream earlier)
    (second : UsesUp history stream other) : earlier = other := by
  obtain ⟨effect, later, split, stands⟩ := first
  obtain ⟨effect', later', split', stands'⟩ := second
  obtain same | ⟨between, rfl, rfl⟩ | ⟨between, rfl, rfl⟩ := split_cases (split.symm.trans split')
  · exact same
  · exact absurd effect' stands.not_takesEffect
  · exact absurd effect stands'.not_takesEffect

/-- The oldest offer that stands has taken effect. -/
theorem IsOldest.usesUp (oldest : IsOldest history stream) :
    ∃ earlier, UsesUp history stream earlier := by
  obtain ⟨earlier, later, split, stands, oldest⟩ := oldest
  refine ⟨earlier, ⟨stands.accepted, fun before between isSplit older => ?_⟩, later, split, stands⟩
  refine oldest before stream between isSplit (older.append fun deed isDeed => ?_)
  obtain rfl | isDeed := List.mem_cons.mp isDeed
  · rfl
  · exact stands.lasts deed isDeed

theorem eq_of_usesUp {before after before' after' : List Deed}
    (same : before ++ .handed stream :: after = before' ++ .handed stream :: after')
    (uses : UsesUp before stream earlier) (uses' : UsesUp before' stream earlier) :
    before = before' := by
  obtain ⟨-, later, isSplit, stands⟩ := uses
  obtain ⟨-, later', isSplit', stands'⟩ := uses'
  have fresh {later : List Deed} (stands : Stands earlier stream later) : .handed stream ∉ later := by
    intro isDeed
    simpa [Deed.ends] using stands.lasts _ isDeed
  rw [isSplit, isSplit', List.append_assoc, List.append_assoc] at same
  obtain rfl | ⟨between, rfl, -⟩ | ⟨between, rfl, -⟩ :=
    split_cases (List.cons.inj (List.append_cancel_left same)).2
  · exact isSplit.trans isSplit'.symm
  · exact absurd (List.mem_append_right _ List.mem_cons_self) (fresh stands')
  · exact absurd (List.mem_append_right _ List.mem_cons_self) (fresh stands)

/-! ### Streams that were withdrawn -/

/-- A caller has its stream from before a step, or gets one that was ready. -/
theorem Turn.streamOf?_cases (turn : Turn s action t) (has : t.streamOf? caller = some stream) :
    s.streamOf? caller = some stream ∨ stream ∈ s.prioritizer.ready := by
  obtain ⟨d, isSeeker, phase⟩ := streamOf?_eq_some_iff.mp has
  have looks {c : Seeker} {before : Prioritizer} (isSeeker : s.seekers[caller]? = some c)
      (same : before.ready = s.prioritizer.ready)
      (has : (s.found caller (before.look caller)).streamOf? caller = some stream) :
      stream ∈ s.prioritizer.ready := by
    have found := (streamOf?_found isSeeker).mp has
    obtain ⟨other, found', first⟩ | ⟨nothing | nothing, -⟩ := before.look_cases caller
    · rw [found] at found'
      cases found'
      exact same ▸ first ▸ List.mem_cons_self
    · rw [found] at nothing
      cases nothing
    · rw [found] at nothing
      cases nothing
  obtain own | arriving | ⟨c, before, same⟩ := turn.phase_cases isSeeker
  · simp only [system, List.mem_cons, List.not_mem_nil, or_false] at own
    cases turn with
    | readied | withdrawn | downgraded | arrived | canceled | advanced => simp at own
    | looked isSeeker' =>
      obtain rfl : _ = caller := by simpa using own
      exact .inr (looks isSeeker' rfl has)
    | @lookedAgain other _ isSeeker' =>
      obtain rfl : other = caller := by simpa using own
      have same : Prioritizer.ready { s.prioritizer with
        notified := s.prioritizer.notified.erase other } = s.prioritizer.ready := rfl
      exact .inr (looks isSeeker' same has)
    | dismissed isSeeker' =>
      obtain rfl : _ = caller := by simpa using own
      have left := (setPhase_getElem? isSeeker').symm.trans isSeeker
      cases left
      cases phase
    | @gaveUp other _ _ late isSeeker' =>
      obtain rfl : other = caller := by cases late <;> simpa using own
      have left := (setPhase_getElem? isSeeker').symm.trans isSeeker
      cases left
      cases phase
  · rw [arriving] at phase
    cases phase
  · exact .inl (streamOf?_eq_some_iff.mpr ⟨c, before, same.symm.trans phase⟩)

theorem Turn.mem_ready (turn : Turn s action t) (isReady : stream ∈ t.prioritizer.ready) :
    stream ∈ s.prioritizer.ready ∨ action = .setReady stream := by
  have looks {caller : Nat} {before : Prioritizer} (same : before.ready = s.prioritizer.ready)
      (isReady : stream ∈ (before.look caller).2.ready) : stream ∈ s.prioritizer.ready := by
    obtain ⟨other, -, first⟩ | ⟨-, -, none⟩ := before.look_cases caller
    · exact same ▸ first ▸ List.mem_cons_of_mem _ isReady
    · rw [none] at isReady
      cases isReady
  cases turn with
  | readied => exact (Prioritizer.mem_setReady isReady).imp_right fun same => by rw [same]
  | withdrawn => exact .inl (Prioritizer.mem_removeReady.mp isReady).1
  | downgraded => cases isReady
  | arrived | canceled | advanced => exact .inl isReady
  | looked => exact .inl (looks rfl isReady)
  | @lookedAgain caller =>
    have same : Prioritizer.ready { s.prioritizer with
      notified := s.prioritizer.notified.erase caller } = s.prioritizer.ready := rfl
    exact .inl (looks same isReady)
  | dismissed | gaveUp => exact .inl ((Prioritizer.agrees_leave _ _).ready ▸ isReady)

theorem not_handed (follows : s.follow actions = some t) (unready : stream ∉ s.prioritizer.ready)
    (unoffered : .setReady stream ∉ actions) (has : t.streamOf? caller = some stream) :
    s.streamOf? caller = some stream := by
  induction actions generalizing s with
  | nil =>
    cases follows
    exact has
  | cons action actions ih =>
    obtain ⟨middle, made, follows⟩ := Option.bind_eq_some_iff.mp follows
    have turn := perform_turn made
    have other : action ≠ .setReady stream := fun same => unoffered (same ▸ List.mem_cons_self)
    have unready' : stream ∉ middle.prioritizer.ready := fun isReady =>
      (turn.mem_ready isReady).elim unready other
    have earlier := ih follows unready' fun isOffered =>
      unoffered (List.mem_cons_of_mem _ isOffered)
    exact (turn.streamOf?_cases earlier).resolve_right unready

/-- The ready streams are those whose offers stand, the oldest offer first, and no stream is there twice.
A caller that looks gets the stream with the oldest offer that stands, if there is one. Whenever a stream was
handed out it was that one, and one offer that had taken effect was used up by it and by no other hand-out.
A stream that is offered comes to the end, unless it is ready already, and one that is withdrawn leaves the
others in their order; until it is offered again no caller gets it, notified or not. -/
theorem ready_is_fifo (follows : follow {} actions = some s) :
    (s.prioritizer.ready.Nodup ∧ s.prioritizer.ready = standing (record {} actions) ∧
      ∀ stream, stream ∈ s.prioritizer.ready ↔ ∃ earlier later,
        record {} actions = earlier ++ .offered stream :: later ∧ Stands earlier stream later) ∧
    (∀ caller t, s.perform (.look caller) = some t ∨ s.perform (.lookAgain caller) = some t →
      ∀ stream, t.streamOf? caller = some stream ↔ IsOldest (record {} actions) stream) ∧
    (∀ before stream after, record {} actions = before ++ .handed stream :: after →
      IsOldest before stream ∧ (∃! earlier, UsesUp before stream earlier) ∧
      ∀ before' after' earlier, record {} actions = before' ++ .handed stream :: after' →
        UsesUp before stream earlier → UsesUp before' stream earlier → before = before') ∧
    (∀ stream t, s.perform (.setReady stream) = some t → t.prioritizer.ready =
      if s.prioritizer.downgraded = true ∨ stream ∈ s.prioritizer.ready then s.prioritizer.ready
      else s.prioritizer.ready ++ [stream]) ∧
    ∀ stream t, s.perform (.removeReady stream) = some t →
      t.prioritizer.ready = s.prioritizer.ready.filter (· ≠ stream) ∧
      ∀ more u, t.follow more = some u → .setReady stream ∉ more →
        ∀ caller, u.streamOf? caller = some stream → s.streamOf? caller = some stream := by
  have fifo : Fifo s (record {} actions) := by simpa using fifo_start.follow follows
  refine ⟨⟨?_, fifo.ready, fun stream => ?_⟩, ?_, ?_, ?_, ?_⟩
  · rw [fifo.ready]
    exact nodup_standing _
  · rw [fifo.ready]
    exact mem_standing
  · rintro caller t (made | made)
    · cases perform_turn made with
      | looked isSeeker => exact (fifo.looks isSeeker ⟨rfl, rfl⟩).1
    · cases perform_turn made with
      | lookedAgain isSeeker =>
        have same : Prioritizer.Agrees { s.prioritizer with
          notified := s.prioritizer.notified.erase caller } s.prioritizer := ⟨rfl, rfl⟩
        exact (fifo.looks isSeeker same).1
  · intro before stream after split
    have oldest := fifo.fair before stream after split
    obtain ⟨earlier, uses⟩ := oldest.usesUp
    refine ⟨oldest, ⟨earlier, uses, fun other uses' => uses'.unique uses⟩, ?_⟩
    exact fun before' after' earlier split' => eq_of_usesUp (split.symm.trans split')
  · intro stream t made
    cases made
    exact Prioritizer.ready_setReady _ _
  · intro stream t made
    cases made
    refine ⟨rfl, fun more u follows unoffered caller has => ?_⟩
    have gone : stream ∉ (s.prioritizer.removeReady stream).ready := fun isReady =>
      (Prioritizer.mem_removeReady.mp isReady).2 rfl
    exact (not_handed follows gone unoffered has :)

/-- Two callers wait and are notified of two streams, of which one is withdrawn before they look and the
other one is offered once more. A third stream is offered after them. -/
def withdrawnInTime : List Action :=
  [.arrive {}, .arrive {}, .look 0, .look 1, .setReady 7, .setReady 8, .removeReady 7, .setReady 9,
    .setReady 8]

theorem ready_is_fifo_withdrawn :
    ∃ s t, follow {} withdrawnInTime = some s ∧ s.prioritizer.notified = [0, 1] ∧
      record {} withdrawnInTime = [.offered 7, .offered 8, .withdrawn 7, .offered 9, .offered 8] ∧
      s.prioritizer.ready = [8, 9] ∧ s.perform (.lookAgain 0) = some t ∧
      t.streamOf? 0 = some 8 ∧ IsOldest (record {} withdrawnInTime) 8 := by
  have facts : ((follow {} withdrawnInTime).bind fun s => (s.perform (.lookAgain 0)).map fun t =>
      (s.prioritizer.notified, t.streamOf? 0)) = some ([0, 1], some 8) := by decide +kernel
  obtain ⟨s, follows, facts⟩ := Option.bind_eq_some_iff.mp facts
  obtain ⟨t, made, facts⟩ := Option.map_eq_some_iff.mp facts
  simp only [Prod.mk.injEq] at facts
  obtain ⟨notified, has⟩ := facts
  have history : record {} withdrawnInTime =
      [.offered 7, .offered 8, .withdrawn 7, .offered 9, .offered 8] := by decide +kernel
  obtain ⟨⟨-, ready, -⟩, looks, -⟩ := ready_is_fifo follows
  refine ⟨s, t, follows, notified, history, ?_, made, has, (looks 0 t (.inr made) 8).mp has⟩
  rw [ready, history]
  decide

end TelemetryStreams.Selection
