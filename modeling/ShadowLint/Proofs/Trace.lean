import ShadowLint.Trace

/-!
# What a trace settles on

No step of a trace looks at the events that were told before it.  A trace is therefore summed up
without its events: by the fault at which it breaks off, if there is one, and by its result
otherwise.  There is one rule for each way to build a trace.
-/

namespace ShadowLint
namespace Trace

variable {Item Result Later : Type}

/-- Whatever was told before, the trace breaks off at the fault if there is one, and otherwise has
the result. -/
def Settles (trace : Trace Result) (fault? : Option NoEdge) (result : Result) : Prop :=
  ∀ told, (trace.run.run told).1 = fault?.elim (.ok result) .error

theorem settles_pure (result : Result) : Settles (pure result) none result := fun _ => rfl

theorem settles_throw (fault : NoEdge) (result : Result) :
    Settles (throw fault) (some fault) result := fun _ => rfl

theorem settles_tell (event : Event) : Settles (tell event) none () := fun _ => rfl

/-- A sequence breaks off where its first part does, and otherwise as its second part does. -/
theorem Settles.bind {first : Trace Result} {next : Result → Trace Later}
    {fault? nextFault? : Option NoEdge} {result : Result} {later : Later}
    (settles : first.Settles fault? result)
    (nextSettles : fault? = none → (next result).Settles nextFault? later) :
    (first >>= next).Settles (fault?.or nextFault?) later := by
  intro told
  have firstRun := settles told
  change ((ExceptT.bindCont next (first.run.run told).1).run (first.run.run told).2).1 = _
  rw [firstRun]
  cases fault? with
  | some fault => rfl
  | none => exact nextSettles rfl _

/-- A sequence whose first part never breaks off. -/
theorem Settles.bind_none {first : Trace Result} {next : Result → Trace Later}
    {fault? : Option NoEdge} {result : Result} {later : Later}
    (settles : first.Settles none result) (nextSettles : (next result).Settles fault? later) :
    (first >>= next).Settles fault? later := by
  simpa using settles.bind fun _ => nextSettles

theorem Settles.outcome_eq {trace : Trace Result} {fault? : Option NoEdge} {result : Result}
    (settles : trace.Settles fault? result) :
    trace.outcome.1 = fault?.elim (.ok result) .error :=
  settles []

theorem Settles.outcome_eq_ok_iff {trace : Trace Result} {fault? : Option NoEdge}
    {result value : Result} (settles : trace.Settles fault? result) :
    trace.outcome.1 = .ok value ↔ fault? = none ∧ result = value := by
  rw [settles.outcome_eq]
  cases fault? <;> simp

theorem Settles.outcome_eq_error_iff {trace : Trace Result} {fault? : Option NoEdge}
    {result : Result} {fault : NoEdge} (settles : trace.Settles fault? result) :
    trace.outcome.1 = .error fault ↔ fault? = some fault := by
  rw [settles.outcome_eq]
  cases fault? <;> simp

theorem findSome?_cons_eq_or {fault? : Item → Option NoEdge} (item : Item) (rest : List Item) :
    (item :: rest).findSome? fault? = (fault? item).or (rest.findSome? fault?) := by
  rw [List.findSome?_cons]
  cases fault? item <;> rfl

/-- Items are gathered one after the other, where the state has no say in whether the gathering
breaks off. -/
theorem settles_foldlM {step : Result → Item → Trace Result} {fault? : Item → Option NoEdge}
    {after : Result → Item → Result}
    (each : ∀ before item, (step before item).Settles (fault? item) (after before item))
    (items : List Item) (start : Result) :
    Settles (items.foldlM step start) (items.findSome? fault?) (items.foldl after start) := by
  induction items generalizing start with
  | nil => exact settles_pure start
  | cons item rest ih =>
      rw [findSome?_cons_eq_or]
      exact (each start item).bind fun _ => ih (after start item)

end Trace
end ShadowLint
