import RegisterMap.Event
import RegisterMap.Fault

/-!
# Traced computations

A computation that may fail, together with the events up to its end or its failure.

Events never bear on a result: the result of a sequence of steps is the sequence of their results
(`Traced.result_bind`).
-/

namespace RegisterMap

/-- A result or a failure, and what happened on the way to it. -/
structure Traced (α : Type) where
  events : List Event
  result : Except Failure α

namespace Traced

variable {α β : Type}

/-- The events of the first step, then those of the next one if the first did not fail. -/
def andThen (x : Traced α) (f : α → Traced β) : Traced β :=
  match x.result with
  | .ok a => ⟨x.events ++ (f a).events, (f a).result⟩
  | .error failure => ⟨x.events, .error failure⟩

instance : Monad Traced where
  pure a := ⟨[], .ok a⟩
  bind := andThen

/-- Nothing but an event. -/
def note (event : Event) : Traced Unit :=
  ⟨[event], .ok ()⟩

/-- Nothing but a result. -/
def ofExcept (result : Except Failure α) : Traced α :=
  ⟨[], result⟩

/-- A result that only a fault can prevent. -/
def ofFault (result : Except Fault α) : Traced α :=
  ⟨[], result.mapError Failure.ofFault⟩

/-- The same computation, its failure seen from a wider context. -/
def within (context : Context) (x : Traced α) : Traced α :=
  ⟨x.events, x.result.mapError (·.within context)⟩

@[simp] theorem result_pure (a : α) : (pure a : Traced α).result = .ok a :=
  rfl

@[simp] theorem events_pure (a : α) : (pure a : Traced α).events = [] :=
  rfl

@[simp] theorem result_bind (x : Traced α) (f : α → Traced β) :
    (x >>= f).result = x.result >>= fun a => (f a).result := by
  obtain ⟨events, result⟩ := x
  cases result <;> rfl

@[simp] theorem result_note (event : Event) : (note event).result = .ok () :=
  rfl

@[simp] theorem result_ofExcept (result : Except Failure α) : (ofExcept result).result = result :=
  rfl

@[simp] theorem result_ofFault (result : Except Fault α) :
    (ofFault result).result = result.mapError Failure.ofFault :=
  rfl

@[simp] theorem result_within (context : Context) (x : Traced α) :
    (x.within context).result = x.result.mapError (·.within context) :=
  rfl

instance : LawfulMonad Traced :=
  LawfulMonad.mk' Traced
    (fun x => by
      obtain ⟨events, result⟩ := x
      cases result <;> simp [Functor.map, andThen])
    (fun _ _ => by simp [bind, andThen, pure])
    (fun x f g => by
      obtain ⟨events, result⟩ := x
      cases result with
      | error => rfl
      | ok a =>
        simp only [bind, andThen]
        cases (f a).result <;> simp)

end Traced
end RegisterMap
