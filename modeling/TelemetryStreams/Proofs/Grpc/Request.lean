import TelemetryStreams.Grpc.Request
import TelemetryStreams.Proofs.Metadata

/-!
# Requests and the order of their headers

The configured headers are a map, which is gone through in any order. A header that cannot be put into
metadata refuses the request in every order. Otherwise a name gets the value of the last header that has
it in lower case, so the order decides between headers whose names differ in case only: each of them is
the one that is sent in some order. The order does not matter exactly if a header is refused, or all
headers of one name have one value (`request_by_order`).
-/
namespace TelemetryStreams.Grpc

variable {header : String × String} {headers : List (String × String)} {row : String × String}
  {metadata : Metadata}

/-! ### Single headers -/

/-- What a header puts into metadata, unless it is refused: its value, under its name in lower case. -/
def lowered? (header : String × String) : Option (String × String) :=
  (headerName? header.1).bind fun lower =>
    if header.2.toList.all isValueChar then some (lower, header.2) else none

theorem of_lowered? (low : lowered? header = some row) :
    headerName? header.1 = some row.1 ∧ row.2 = header.2 := by
  obtain ⟨lower, named, put⟩ := Option.bind_eq_some_iff.mp low
  split at put
  · rw [← Option.some.inj put]
    exact ⟨named, rfl⟩
  · cases put

theorem putHeaders_of_some (low : lowered? header = some row) :
    putHeaders metadata (header :: headers) = putHeaders (metadata.put row.1 row.2) headers := by
  obtain ⟨lower, named, put⟩ := Option.bind_eq_some_iff.mp low
  simp only [putHeaders, named]
  split at put
  · rw [← Option.some.inj put, if_pos ‹_›]
  · cases put

theorem putHeaders_of_none (refused : lowered? header = none) :
    ∃ message, putHeaders metadata (header :: headers) = .error ⟨.invalidArgument, message⟩ := by
  unfold lowered? at refused
  rw [putHeaders]
  cases named : headerName? header.1 with
  | none => exact ⟨_, rfl⟩
  | some lower =>
    rw [named, Option.bind_some] at refused
    split at refused
    · cases refused
    · exact ⟨_, if_neg ‹_›⟩

/-! ### All headers -/

theorem putHeaders_of_accepted (accepted : ∀ header ∈ headers, (lowered? header).isSome = true) :
    putHeaders metadata headers = .ok (metadata.overlay (headers.filterMap lowered?)) := by
  induction headers generalizing metadata with
  | nil => rfl
  | cons header headers ih =>
    obtain ⟨row, low⟩ := Option.isSome_iff_exists.mp (accepted header List.mem_cons_self)
    have others := fun other isOther => accepted other (List.mem_cons_of_mem _ isOther)
    rw [putHeaders_of_some low, ih others, List.filterMap_cons, low]
    rfl

theorem putHeaders_of_refused (refused : ∃ header ∈ headers, lowered? header = none) :
    ∃ message, putHeaders metadata headers = .error ⟨.invalidArgument, message⟩ := by
  induction headers generalizing metadata with
  | nil =>
    obtain ⟨header, isHeader, -⟩ := refused
    cases isHeader
  | cons header headers ih =>
    cases low : lowered? header with
    | none => exact putHeaders_of_none low
    | some row =>
      rw [putHeaders_of_some low]
      apply ih
      obtain ⟨other, isOther, none⟩ := refused
      obtain rfl | later := List.mem_cons.mp isOther
      · rw [low] at none
        cases none
      · exact ⟨other, later, none⟩

/-! ### Orders -/

/-- Whether metadata holds the value of every header under the name in lower case. -/
def HoldsAll (metadata : Metadata) (headers : List (String × String)) : Prop :=
  ∀ header ∈ headers, ∃ lower, headerName? header.1 = some lower ∧
    metadata.value? lower = some header.2

/-- Whether two orders of the headers make no difference: the request is refused in both, or it is built
in both with the same metadata, which holds all headers. -/
def OrderFree (headers : List (String × String)) : Prop :=
  ∀ first second : List (String × String), first.Perm headers → second.Perm headers →
    (∃ message message', request first = .error ⟨.invalidArgument, message⟩ ∧
      request second = .error ⟨.invalidArgument, message'⟩) ∨
    ∃ metadata metadata', request first = .ok metadata ∧ request second = .ok metadata' ∧
      metadata'.Perm metadata ∧ HoldsAll metadata headers

variable {order : List (String × String)}

theorem request_of_accepted (accepted : ∀ header ∈ headers, (lowered? header).isSome = true)
    (same : order.Perm headers) :
    request order = .ok (Metadata.overlay [] (order.filterMap lowered?)) :=
  putHeaders_of_accepted fun header isHeader => accepted header (same.subset isHeader)

theorem request_of_refused (refused : ∃ header ∈ headers, lowered? header = none)
    (same : order.Perm headers) : ∃ message, request order = .error ⟨.invalidArgument, message⟩ := by
  apply putHeaders_of_refused
  obtain ⟨header, isHeader, none⟩ := refused
  exact ⟨header, same.symm.subset isHeader, none⟩

/-- The header that comes last is the one that is sent under its name. -/
theorem value?_of_last (low : lowered? header = some row) (earlier : List (String × String)) :
    (Metadata.overlay [] ((earlier ++ [header]).filterMap lowered?)).value? row.1 = some header.2 := by
  obtain ⟨-, value⟩ := of_lowered? low
  rw [Metadata.value?_overlay_nil, List.filterMap_append, List.filterMap_cons, low,
    List.filterMap_nil, List.reverse_append, List.reverse_singleton, List.singleton_append,
    Metadata.value?_cons, if_pos rfl, value]

theorem agrees_lowered
    (agree : ∀ a ∈ headers, ∀ b ∈ headers, headerName? a.1 = headerName? b.1 → a.2 = b.2) :
    Metadata.Agrees (headers.filterMap lowered?) := by
  intro first isFirst second isSecond same
  obtain ⟨a, isHeader, low⟩ := List.mem_filterMap.mp isFirst
  obtain ⟨b, isOther, low'⟩ := List.mem_filterMap.mp isSecond
  obtain ⟨name, value⟩ := of_lowered? low
  obtain ⟨name', value'⟩ := of_lowered? low'
  rw [value, value']
  apply agree a isHeader b isOther
  rw [name, name', same]

theorem holdsAll_of_agree (accepted : ∀ header ∈ headers, (lowered? header).isSome = true)
    (agree : ∀ a ∈ headers, ∀ b ∈ headers, headerName? a.1 = headerName? b.1 → a.2 = b.2)
    (same : order.Perm headers) :
    HoldsAll (Metadata.overlay [] (order.filterMap lowered?)) headers := by
  intro header isHeader
  obtain ⟨row, low⟩ := Option.isSome_iff_exists.mp (accepted header isHeader)
  obtain ⟨name, value⟩ := of_lowered? low
  have rows : (order.filterMap lowered?).reverse.Perm (headers.filterMap lowered?) :=
    (List.reverse_perm _).trans (same.filterMap lowered?)
  refine ⟨row.1, name, ?_⟩
  rw [Metadata.value?_overlay_nil, ((agrees_lowered agree).perm rows).value?_eq_some_iff, rows.mem_iff,
    ← value]
  exact List.mem_filterMap.mpr ⟨header, isHeader, low⟩

theorem refused_or_accepted (headers : List (String × String)) :
    (∃ header ∈ headers, lowered? header = none) ∨
      ∀ header ∈ headers, (lowered? header).isSome = true := by
  by_cases refused : ∃ header ∈ headers, lowered? header = none
  · exact .inl refused
  · refine .inr fun header isHeader => Option.isSome_iff_ne_none.mpr fun none => ?_
    exact refused ⟨header, isHeader, none⟩

/-- Two headers of one name are not both held unless they have the same value. -/
theorem HoldsAll.agree (holds : HoldsAll metadata headers) :
    ∀ a ∈ headers, ∀ b ∈ headers, headerName? a.1 = headerName? b.1 → a.2 = b.2 := by
  intro a isHeader b isOther same
  obtain ⟨lower, name, value⟩ := holds a isHeader
  obtain ⟨lower', name', value'⟩ := holds b isOther
  rw [name, name', Option.some.injEq] at same
  rw [same, value'] at value
  exact (Option.some.inj value).symm

theorem orderFree_of_refused (refused : ∃ header ∈ headers, lowered? header = none) :
    OrderFree headers := by
  intro first second isFirst isSecond
  obtain ⟨message, fails⟩ := request_of_refused refused isFirst
  obtain ⟨message', fails'⟩ := request_of_refused refused isSecond
  exact .inl ⟨message, message', fails, fails'⟩

theorem orderFree_of_agree (accepted : ∀ header ∈ headers, (lowered? header).isSome = true)
    (agree : ∀ a ∈ headers, ∀ b ∈ headers, headerName? a.1 = headerName? b.1 → a.2 = b.2) :
    OrderFree headers := by
  intro first second isFirst isSecond
  refine .inr ⟨_, _, request_of_accepted accepted isFirst, request_of_accepted accepted isSecond, ?_,
    holdsAll_of_agree accepted agree isFirst⟩
  apply ((agrees_lowered agree).perm (isFirst.filterMap lowered?)).overlay_perm
  exact (isSecond.trans isFirst.symm).filterMap lowered?

/-- What becomes of configured headers, in all the orders in which they can be gone through. -/
structure Requests (headers : List (String × String)) : Prop where
  /-- A header that is refused refuses the request in every order. -/
  refused : (∃ header ∈ headers, lowered? header = none) →
    ∀ order : List (String × String), order.Perm headers →
      ∃ message, request order = .error ⟨.invalidArgument, message⟩
  /-- Otherwise the request is built in every order. The value of a name is that of the last header that
  has the name in lower case. -/
  accepted : (∀ header ∈ headers, (lowered? header).isSome = true) →
    ∀ order : List (String × String), order.Perm headers →
      ∃ metadata, request order = .ok metadata ∧ metadata.IsMap ∧
        ∀ name, metadata.value? name = Metadata.value? (order.filterMap lowered?).reverse name
  /-- Any header can be the one that is sent under its name. -/
  chosen : (∀ header ∈ headers, (lowered? header).isSome = true) → ∀ header ∈ headers,
    ∃ order metadata, order.Perm headers ∧ request order = .ok metadata ∧
      (headerName? header.1).bind metadata.value? = some header.2
  /-- The order does not matter exactly if a header is refused, or all headers with one name have one
  value. -/
  orderFree : OrderFree headers ↔ (∃ header ∈ headers, lowered? header = none) ∨
    ∀ a ∈ headers, ∀ b ∈ headers, headerName? a.1 = headerName? b.1 → a.2 = b.2

/-- Of headers whose names differ in case only, one is sent, and the order in which the headers are gone
through decides which. -/
theorem request_by_order (headers : List (String × String)) : Requests headers := by
  constructor
  · exact fun refused order same => request_of_refused refused same
  · intro accepted order same
    exact ⟨_, request_of_accepted accepted same, Metadata.isMap_overlay _,
      Metadata.value?_overlay_nil _⟩
  · intro accepted header isHeader
    obtain ⟨row, low⟩ := Option.isSome_iff_exists.mp (accepted header isHeader)
    have same : (headers.erase header ++ [header]).Perm headers :=
      (List.perm_append_singleton _ _).trans (List.perm_cons_erase isHeader).symm
    refine ⟨_, _, same, request_of_accepted accepted same, ?_⟩
    rw [(of_lowered? low).1, Option.bind_some]
    exact value?_of_last low _
  · constructor
    · intro free
      obtain refused | accepted := refused_or_accepted headers
      · exact .inl refused
      · obtain ⟨message, -, fails, -⟩ | ⟨metadata, -, -, -, -, holds⟩ :=
          free headers headers (.refl _) (.refl _)
        · rw [request_of_accepted accepted (.refl _)] at fails
          cases fails
        · exact .inr holds.agree
    · intro orderly
      obtain refused | accepted := refused_or_accepted headers
      · exact orderFree_of_refused refused
      · obtain refused | agree := orderly
        · exact orderFree_of_refused refused
        · exact orderFree_of_agree accepted agree

/-- Two headers, of which either can be the one that is sent. -/
theorem colliding_headers_depend_on_order :
    Metadata.IsMap [("X-Tenant", "a"), ("x-tenant", "b")] ∧
    request [("X-Tenant", "a"), ("x-tenant", "b")] = .ok [("x-tenant", "b")] ∧
    request [("x-tenant", "b"), ("X-Tenant", "a")] = .ok [("x-tenant", "a")] ∧
    ¬ OrderFree [("X-Tenant", "a"), ("x-tenant", "b")] := by
  have first : request [("X-Tenant", "a"), ("x-tenant", "b")] = .ok [("x-tenant", "b")] := by
    decide +kernel
  have second : request [("x-tenant", "b"), ("X-Tenant", "a")] = .ok [("x-tenant", "a")] := by
    decide +kernel
  refine ⟨by decide, first, second, fun free => ?_⟩
  obtain ⟨message, -, fails, -⟩ | ⟨metadata, metadata', sends, sends', same, -⟩ :=
    free _ _ (.refl _) (.swap ("X-Tenant", "a") ("x-tenant", "b") [])
  · rw [first] at fails
    cases fails
  · rw [first, Except.ok.injEq] at sends
    rw [second, Except.ok.injEq] at sends'
    subst sends sends'
    simp at same

end TelemetryStreams.Grpc
