import DbLifecycle.Host.Basic
import Mathlib.Data.List.Induction

/-!
# Handlers one after another

Handlers are registered with a host one after another, for one kind of failure or the other. A route
that fails is answered by the handler that was registered last for the kind of its failure.

* `Host.register`: registrations in order; `lastHandler?`: the last one for a kind.
* `Host.handlers_register`: the table that they leave behind.
* `Host.responseTo_ofFailure`: who answers for a route that fails.
* `Failure.IsGeneral`: the general response to a failure.
* **`Host.last_handler_answers`**: the last handler answers, and what registrations change.
-/

namespace DbLifecycle

open Http

/-! ## Registrations -/

/-- The handler that was registered last for a kind. -/
def lastHandler? (rs : List (ErrorKind × Handler)) (k : ErrorKind) : Option Handler :=
  (rs.reverse.find? fun r => r.1 = k).map (·.2)

section LastHandler

variable {rs rs' later : List (ErrorKind × Handler)} {k k' : ErrorKind} {h h' : Handler}

theorem lastHandler?_append :
    lastHandler? (rs ++ rs') k = (lastHandler? rs' k).or (lastHandler? rs k) := by
  rw [lastHandler?, List.reverse_append, List.find?_append, Option.map_or]
  rfl

theorem lastHandler?_concat :
    lastHandler? (rs ++ [(k, h)]) k' = if k' = k then some h else lastHandler? rs k' := by
  rw [lastHandler?_append]
  by_cases hk : k' = k
  · simp [lastHandler?, hk]
  · simp [lastHandler?, hk, Ne.symm hk]

/-- Neighbours for different kinds may change places. -/
theorem lastHandler?_swap (hk : k ≠ k') :
    lastHandler? (rs ++ (k, h) :: (k', h') :: later) =
      lastHandler? (rs ++ (k', h') :: (k, h) :: later) := by
  have hsteps (r r' : ErrorKind × Handler) :
      rs ++ r :: r' :: later = rs ++ [r] ++ [r'] ++ later := by simp
  funext asked
  rw [hsteps, hsteps, lastHandler?_append, @lastHandler?_append (rs ++ [(k', h')] ++ [(k, h)])]
  congr 1
  simp only [lastHandler?_concat]
  by_cases hasked : asked = k
  · rw [if_pos hasked, if_pos hasked, if_neg (hasked ▸ hk)]
  · rw [if_neg hasked, if_neg hasked]

end LastHandler

namespace Host

/-- Registers handlers one after another. -/
def register (host : Host) (rs : List (ErrorKind × Handler)) : Host :=
  rs.foldl (fun host r => host.addHandler r.1 r.2) host

/-- **The table of handlers**: for every kind the last one, or what was there before. -/
theorem handlers_register (host : Host) (rs : List (ErrorKind × Handler)) (k : ErrorKind) :
    (host.register rs).handlers k = (lastHandler? rs k).or (host.handlers k) := by
  induction rs using List.reverseRecOn with
  | nil => rfl
  | append_singleton rs r ih =>
    rw [register, List.foldl_append, List.foldl_cons, List.foldl_nil, lastHandler?_concat]
    show (if k = r.1 then some r.2 else (host.register rs).handlers k) = _
    rw [ih]
    split <;> rfl

/-- A host that was new has the handlers that were registered with it. -/
theorem handlers_register_new (rs : List (ErrorKind × Handler)) :
    (register {} rs).handlers = lastHandler? rs := by
  funext k
  rw [handlers_register, Option.or_none]

end Host

/-! ## Failures -/

/-- The general response to a failure: the outermost of its texts, as the fault of the client if
bounds are violated, and otherwise as that of the server. -/
def Failure.IsGeneral (f : Failure) (r : Response) : Prop :=
  ∃ text, f.chain.head? = some text ∧
    ((∃ e, f.cause = .invalid e) ∧ r = .json 400 (.obj [("error", .str text)]) ∨
      (∀ e, f.cause ≠ .invalid e) ∧ r = .json 500 (.obj [("error", .str text)]))

/-- A failure displays the first text of its chain. -/
theorem Failure.head?_chain (f : Failure) : f.chain.head? = some f.message := by
  rw [chain, message, List.head?_append, List.head?_reverse]
  cases f.context.getLast? <;> rfl

theorem Failure.isGeneral_response (f : Failure) : f.IsGeneral f.response := by
  refine ⟨f.message, f.head?_chain, ?_⟩
  unfold response
  cases hf : f.cause with
  | invalid e => exact .inl ⟨⟨e, rfl⟩, rfl⟩
  | _ => exact .inr ⟨by simp, rfl⟩

/-- **A route that fails** is answered by the handler for the kind of its failure. -/
theorem Host.responseTo_ofFailure (host : Host) (f : Failure) :
    host.responseTo (.ofFailure f) =
      match f.kind?.bind host.handlers with
      | some h => h f
      | none => f.response := by
  rw [responseTo, handlerFor?, Answer.ofFailure, Option.bind_some]
  cases f.kind?.bind host.handlers <;> rfl

/-- **The last handler answers.** Handlers are registered with a new host in any order, for any
kinds. A route that fails is answered by what the handler makes of the failure that was registered
last for its kind, or by the general response if there is none. Registrations for different kinds
may change places, a further one replaces the handler of its kind alone, and what is no failure
passes every host unchanged. -/
theorem Host.last_handler_answers (rs : List (ErrorKind × Handler)) :
    (∀ f : Failure,
      match f.kind?.bind (lastHandler? rs) with
      | some h => (register {} rs).responseTo (.ofFailure f) = h f
      | none => f.IsGeneral ((register {} rs).responseTo (.ofFailure f))) ∧
    (∀ (k k' : ErrorKind) (h h' : Handler) (later : List (ErrorKind × Handler)), k ≠ k' →
      (register {} (rs ++ (k, h) :: (k', h') :: later)).handlers =
        (register {} (rs ++ (k', h') :: (k, h) :: later)).handlers) ∧
    (∀ (k k' : ErrorKind) (h : Handler), (register {} (rs ++ [(k, h)])).handlers k' =
      if k' = k then some h else (register {} rs).handlers k') ∧
    ∀ (host : Host) (r : Response), host.responseTo { response := r } = r := by
  refine ⟨fun f => ?_, fun k k' h h' later hk => ?_, fun k k' h => ?_, fun _ _ => rfl⟩
  · rw [responseTo_ofFailure, handlers_register_new]
    cases f.kind?.bind (lastHandler? rs) with
    | some h => rfl
    | none => exact f.isGeneral_response
  · rw [handlers_register_new, handlers_register_new, lastHandler?_swap hk]
  · rw [handlers_register_new, handlers_register_new, lastHandler?_concat]

/-- The handler for what is not there is replaced, and the one registered in between stays. -/
theorem Host.last_handler_answers_replaced :
    ErrorKind.notFound ≠ .integrityViolation ∧
    ∃ rs rs' : List (ErrorKind × Handler),
      rs = [(.notFound, taggedHandler 410 "gone"), (.integrityViolation, taggedHandler 409 "taken"),
        (.notFound, taggedHandler 404 "absent")] ∧
      rs' = [(.integrityViolation, taggedHandler 409 "taken"),
        (.notFound, taggedHandler 410 "gone"), (.notFound, taggedHandler 404 "absent")] ∧
      (register {} rs).responseTo (.ofFailure ⟨.database (.recordNotFound "user"), ["loading"]⟩) =
        .json 404 (.obj [("message", .str "loading"), ("tag", .str "absent")]) ∧
      (register {} rs).handlers = (register {} rs').handlers := by
  have hne : ErrorKind.notFound ≠ .integrityViolation := by decide
  obtain ⟨hanswer, -, -, -⟩ := last_handler_answers
    [(.notFound, taggedHandler 410 "gone"), (.integrityViolation, taggedHandler 409 "taken"),
      (.notFound, taggedHandler 404 "absent")]
  obtain ⟨-, hswap, -, -⟩ := last_handler_answers []
  exact ⟨hne, _, _, rfl, rfl, hanswer ⟨.database (.recordNotFound "user"), ["loading"]⟩,
    hswap _ _ _ _ _ hne⟩

end DbLifecycle
