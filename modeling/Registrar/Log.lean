/-!
# Log events

A computation that reports its progress returns the events it would have logged, in order.
`Logged` is a value with its events; sequencing appends them.
-/
namespace Registrar

inductive LogLevel where
  | debug
  | info
  | warn
deriving DecidableEq, Repr

def LogLevel.name : LogLevel → String
  | debug => "debug"
  | info => "info"
  | warn => "warn"

/-- One event: its message and the named values it carries, all as text. -/
structure LogEvent where
  level : LogLevel
  message : String
  fields : List (String × String)
deriving DecidableEq, Repr

abbrev Log := List LogEvent

/-- A computation that can fail and keeps the events of what it did before failing. -/
abbrev Logged (ε α : Type) := Log × Except ε α

namespace Logged
variable {ε α β : Type}

def ok (a : α) : Logged ε α := ([], .ok a)

def fail (e : ε) : Logged ε α := ([], .error e)

def ofExcept (r : Except ε α) : Logged ε α := ([], r)

def event (e : LogEvent) : Logged ε Unit := ([e], .ok ())

/-- Runs `f` on the value of `x`; the events of both are kept, those of `x` first. -/
def andThen (x : Logged ε α) (f : α → Logged ε β) : Logged ε β :=
  match x with
  | (l, .ok a) => let (m, r) := f a; (l ++ m, r)
  | (l, .error e) => (l, .error e)

theorem andThen_ok (a : α) (f : α → Logged ε β) : (ok a).andThen f = f a := by
  simp [ok, andThen]

theorem andThen_fail (e : ε) (f : α → Logged ε β) : (fail e).andThen f = fail e := rfl

/-- A sequence succeeds when both parts do. -/
theorem andThen_eq_ok_iff {x : Logged ε α} {f : α → Logged ε β} {b : β} :
    (x.andThen f).2 = .ok b ↔ ∃ a, x.2 = .ok a ∧ (f a).2 = .ok b := by
  obtain ⟨l, _ | a⟩ := x <;> simp [andThen]

/-- A sequence fails in its first part, or in its second part after the first. -/
theorem andThen_eq_error_iff {x : Logged ε α} {f : α → Logged ε β} {e : ε} :
    (x.andThen f).2 = .error e ↔ x.2 = .error e ∨ ∃ a, x.2 = .ok a ∧ (f a).2 = .error e := by
  obtain ⟨l, _ | a⟩ := x <;> simp [andThen]

end Logged
end Registrar
