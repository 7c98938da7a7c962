import PerArity.Error

/-!
# Journals

A run writes a journal: records with a level, the place they come from and a message. The journal is
kept whether or not the run succeeds, so a run is a list of records *and* an outcome, and a failure
ends the run without taking back what was recorded before it.

## Which failures are recorded

Naming a parameter and bounding the arities record their own failure as an error at the moment it
arises. A faulty template or an unknown name leaves no record. `Error.record?` is that rule, and
`Logged.attempt` applies it wherever a plain computation is run.
-/

namespace PerArity

/-- How much a record matters. -/
inductive Level where
  /-- Details of a run. -/
  | debug
  /-- The course of a run. -/
  | info
  /-- Something that may be wrong. -/
  | warning
  /-- A failure. -/
  | error
  deriving DecidableEq

namespace Level

/-- The name under which a level is shown. -/
def name : Level → String
  | debug => "DEBUG"
  | info => "INFO"
  | warning => "WARNING"
  | error => "ERROR"

end Level

/-- The part of the program that writes a record. -/
inductive Origin where
  /-- Names of parameters. -/
  | naming
  /-- Arities and split points. -/
  | enumeration
  /-- The choice of a family. -/
  | dispatch
  /-- Partial application. -/
  | partialApplication
  /-- Complement declarations. -/
  | complement
  /-- Test cases for complement declarations. -/
  | complementTest
  /-- The command line. -/
  | commandLine
  deriving DecidableEq

/-- One entry of a journal. -/
structure Record where
  /-- How much it matters. -/
  level : Level
  /-- Where it comes from. -/
  origin : Origin
  /-- What it says. -/
  message : String
  deriving DecidableEq

/-- The record that a failure leaves where it arises. -/
def Error.record? : Error → Option Record
  | unsupportedParameter index =>
    some ⟨.error, .naming, s!"Cannot name parameter at index {index}"⟩
  | invalidArity maxArity => some ⟨.error, .enumeration, s!"Invalid maximum arity: {maxArity}"⟩
  | _ => none

/-- A journal together with the outcome of the run that wrote it. -/
structure Logged (ε α : Type) where
  /-- The records in the order in which they were written. -/
  records : List Record
  /-- How the run ended. -/
  outcome : Except ε α

namespace Logged

variable {ε α β : Type}

/-- A run that succeeds without a record. -/
protected def pure (a : α) : Logged ε α := ⟨[], .ok a⟩

/-- A run followed by one that depends on its result. -/
protected def bind (x : Logged ε α) (f : α → Logged ε β) : Logged ε β :=
  match x.outcome with
  | .error e => ⟨x.records, .error e⟩
  | .ok a => ⟨x.records ++ (f a).records, (f a).outcome⟩

instance : Monad (Logged ε) where
  pure := Logged.pure
  bind := Logged.bind

/-- A run that only writes a record. -/
def record (r : Record) : Logged ε Unit := ⟨[r], .ok ()⟩

/-- A run that fails without a record. -/
def fail (e : ε) : Logged ε α := ⟨[], .error e⟩

/-- A plain computation as a run, which records its failure where failures of that kind are. -/
def attempt (x : Except Error α) : Logged Error α :=
  match x with
  | .error e => ⟨e.record?.toList, .error e⟩
  | .ok a => ⟨[], .ok a⟩

@[simp] theorem records_attempt_ok (a : α) : (attempt (.ok a)).records = [] := rfl

@[simp] theorem outcome_attempt (x : Except Error α) : (attempt x).outcome = x := by
  cases x <;> rfl

@[simp] theorem outcome_bind (x : Logged ε α) (f : α → Logged ε β) :
    (x >>= f).outcome = x.outcome >>= fun a ↦ (f a).outcome := by
  change (Logged.bind x f).outcome = _
  rw [Logged.bind]
  cases x.outcome <;> rfl

theorem records_bind_of_error {x : Logged ε α} {e : ε} (h : x.outcome = .error e)
    (f : α → Logged ε β) : (x >>= f).records = x.records := by
  change (Logged.bind x f).records = _
  rw [Logged.bind, h]

theorem records_bind_of_ok {x : Logged ε α} {a : α} (h : x.outcome = .ok a)
    (f : α → Logged ε β) : (x >>= f).records = x.records ++ (f a).records := by
  change (Logged.bind x f).records = _
  rw [Logged.bind, h]

end Logged

end PerArity
