import MessageRouting.Exchange

/-!
# Behaviours

What is done with an exchange is a behaviour: it takes the exchange and hands it back, changed, together with
the panic that came out, if one did. The monad says what else a behaviour may do. Patterns make behaviours
of behaviours.
-/

namespace MessageRouting

/-- An exchange that was worked on. -/
structure Outcome where
  /-- The exchange as it was left. -/
  exchange : Exchange
  /-- The panic that came out. -/
  panic : Option Panic

/-- The exchange came back without a panic. -/
def Outcome.returned (x : Exchange) : Outcome := ⟨x, none⟩

/-- A panic came out while the exchange was as given. -/
def Outcome.panicked (x : Exchange) (panic : Panic) : Outcome := ⟨x, some panic⟩

/-- The exchange with a panic turned into its pending error. -/
def Outcome.contained (o : Outcome) : Exchange :=
  match o.panic with
  | none => o.exchange
  | some panic => o.exchange.fail (.panicked panic.message)

/-- Something done with an exchange. -/
abbrev Behaviour (m : Type → Type) : Type := Exchange → m Outcome

/-- A question about an exchange, which does not change it. -/
abbrev Query (m : Type → Type) (α : Type) : Type := Exchange → m (Ending Fault α)

variable {m : Type → Type} [Monad m]

/-- Does something with an exchange and contains a panic. -/
def invoke (behaviour : Behaviour m) (x : Exchange) : m Exchange :=
  return (← behaviour x).contained

end MessageRouting
