import DbLifecycle.Failure

/-!
# The kinds of failures

A failure has a kind if the error under its context is of that kind: an error of the library, or a
database error that comes bare or as a failed connection or a failed schema. Nothing else is seen
through.

* `Constraint.codes`, `DbError.violated?`: the constraint that an engine reports as violated.
* `DbError.isConstraint_eq`, `DbError.kind?_eq_some_iff`: the kinds of database errors.
* `Failure.Cause.database?`: the database error that a cause stands for.
* **`Failure.kind_of_innermost`**: which failures are of which kind.
-/

namespace DbLifecycle

/-! ## Database errors -/

/-- The codes under which a violated constraint is reported: one for a column, one for the key of
the rows, and one for a reference. -/
def Constraint.codes : Constraint → List Nat
  | .unique => [2067, 1555]
  | .foreignKey => [787]

/-- The constraint that an engine reports as violated. -/
def DbCause.violated? : DbCause → Option Constraint
  | .text _ => none
  | .sqlite f => [.unique, .foreignKey].find? fun c => f.code ∈ c.codes
  | .engine _ violated => violated
  | .undecodable _ _ => none

/-- What was reported of a statement or a query. -/
def DbError.reported? : DbError → Option DbCause
  | .execution cause => some cause
  | .query cause => some cause
  | _ => none

/-- The constraint that a statement or a query violates. -/
def DbError.violated? (e : DbError) : Option Constraint := e.reported?.bind DbCause.violated?

theorem DbCause.violated?_sqlite_iff {f : SqliteFailure} :
    (sqlite f).violated?.isSome ↔ f.code ∈ [2067, 1555, 787] := by
  simp [violated?, Constraint.codes, or_assoc]

/-- A code tells whether a constraint is violated. -/
theorem DbCause.isConstraint_eq (c : DbCause) : c.isConstraint = c.violated?.isSome := by
  cases c with
  | text m => rfl
  | sqlite f => cases f <;> rfl
  | engine t violated => rfl
  | undecodable column reason => rfl

namespace DbError

theorem isConstraint_eq (e : DbError) : e.isConstraint = e.violated?.isSome := by
  cases e with
  | execution cause => exact cause.isConstraint_eq
  | query cause => exact cause.isConstraint_eq
  | _ => rfl

/-- Only statements and queries violate constraints: a missing record does not. -/
theorem recordNotFound_of_kind? {e : DbError} (h : e.kind? = some .notFound) :
    ∃ t, e = .recordNotFound t := by
  cases e with
  | recordNotFound t => exact ⟨t, rfl⟩
  | _ =>
    simp only [kind?] at h
    split at h <;> cases h

theorem kind?_eq_notFound_iff {e : DbError} :
    e.kind? = some .notFound ↔ ∃ t, e = .recordNotFound t := by
  refine ⟨recordNotFound_of_kind?, ?_⟩
  rintro ⟨t, rfl⟩
  rfl

theorem kind?_eq_integrityViolation_iff {e : DbError} :
    e.kind? = some .integrityViolation ↔ e.violated?.isSome := by
  rw [← isConstraint_eq]
  cases e with
  | recordNotFound t => simp [kind?, isConstraint]
  | _ => simp [kind?]

end DbError

/-! ## Failures -/

namespace Failure

/-- The database error that a cause stands for: a bare one, or one that the library passes on. -/
def Cause.database? : Cause → Option DbError
  | .database e => some e
  | .library (.connection e) => some e
  | .library (.schema e) => some e
  | _ => none

/-- A failure under further context. -/
def under (f : Failure) (texts : List String) : Failure := { f with context := f.context ++ texts }

/-- The causes that stand for what is not there. -/
def Cause.IsMissing (c : Cause) : Prop :=
  (∃ t, c = .library (.notFound t)) ∨ ∃ t, c.database? = some (.recordNotFound t)

/-- The causes that stand for a violated constraint. -/
def Cause.IsViolation (c : Cause) : Prop :=
  (∃ t, c = .library (.integrityViolation t)) ∨ ∃ e ∈ c.database?, e.violated?.isSome

theorem Cause.kind?_eq_notFound_iff {c : Cause} : c.kind? = some .notFound ↔ c.IsMissing := by
  cases c with
  | library e =>
    cases e <;> simp [kind?, Error.kind?, IsMissing, database?, DbError.kind?_eq_notFound_iff]
  | database e => simp [kind?, IsMissing, database?, DbError.kind?_eq_notFound_iff]
  | _ => simp [kind?, IsMissing, database?]

theorem Cause.kind?_eq_integrityViolation_iff {c : Cause} :
    c.kind? = some .integrityViolation ↔ c.IsViolation := by
  cases c with
  | library e =>
    cases e <;>
      simp [kind?, Error.kind?, IsViolation, database?, DbError.kind?_eq_integrityViolation_iff]
  | database e => simp [kind?, IsViolation, database?, DbError.kind?_eq_integrityViolation_iff]
  | _ => simp [kind?, IsViolation, database?]

theorem Cause.kind?_eq_none_iff {c : Cause} :
    c.kind? = none ↔ ¬ c.IsMissing ∧ ¬ c.IsViolation := by
  rw [← kind?_eq_notFound_iff, ← kind?_eq_integrityViolation_iff]
  cases c.kind? with
  | none => simp
  | some k => cases k <;> simp

/-- **Which failures are of which kind.** Context does not matter, however many texts there are, and
neither does it whether a database error comes bare, as a failed connection or as a failed schema.
What the library calls missing, and a record that was not found, is of the one kind; what the
library calls a violation, and a statement or query that violates a unique or a foreign key, is of
the other; SQLite has three codes for it. Every other failure has no kind, and so has an error
around another, whatever that is. -/
theorem kind_of_innermost :
    (∀ (f : Failure) (texts : List String), (f.under texts).kind? = f.kind?) ∧
    (∀ e : DbError, (ofError (.connection e)).kind? = (ofDbError e).kind? ∧
      (ofError (.schema e)).kind? = (ofDbError e).kind?) ∧
    (∀ f : Failure, f.kind? = some .notFound ↔ f.cause.IsMissing) ∧
    (∀ f : Failure, f.kind? = some .integrityViolation ↔ f.cause.IsViolation) ∧
    (∀ f : Failure, f.kind? = none ↔ ¬ f.cause.IsMissing ∧ ¬ f.cause.IsViolation) ∧
    (∀ x : SqliteFailure, x.code ∈ [2067, 1555, 787] ↔
      (ofDbError (.execution (.sqlite x))).kind? = some .integrityViolation) ∧
    (∀ c : DbCause,
      (ofDbError (.query c)).kind? = (ofDbError (.execution c)).kind? ∧
      (ofDbError (.connection c)).kind? = none) ∧
    ∀ (text : Option String) (inner : Cause) (context : List String),
      (Failure.mk (.around text inner) context).kind? = none := by
  refine ⟨fun _ _ => rfl, fun _ => ⟨rfl, rfl⟩, fun _ => Cause.kind?_eq_notFound_iff,
    fun _ => Cause.kind?_eq_integrityViolation_iff, fun _ => Cause.kind?_eq_none_iff, ?_,
    fun _ => ⟨rfl, rfl⟩, fun _ _ _ => rfl⟩
  intro x
  rw [← DbCause.violated?_sqlite_iff]
  exact (DbError.kind?_eq_integrityViolation_iff (e := .execution (.sqlite x))).symm

end Failure

end DbLifecycle
