import MessageRouting.Component.Timer
import MessageRouting.Processor

/-!
# Components, endpoints and consumers

A component makes endpoints for the URIs of its scheme. From an endpoint come consumers, which feed a route, and
producers, which take exchanges. Direct endpoints hand an exchange over to the consumer of their name; timers only
consume; all others belong to the embedding program.
-/

namespace MessageRouting

open Time

/-- A component. -/
inductive Component (κ : Type) where
  /-- Direct hand-over, by the table of consumers of the given number. -/
  | direct (table : Nat)
  /-- Timers with a default period. -/
  | timer (defaultPeriod : Duration)
  /-- A component of the embedding program. -/
  | custom (scheme : String) (code : κ)

/-- The scheme of a component. -/
def Component.scheme {κ : Type} : Component κ → String
  | .direct _ => "direct"
  | .timer _ => "timer"
  | .custom scheme _ => scheme

/-- What an endpoint does. -/
inductive EndpointRole (κ : Type) where
  /-- Direct hand-over under a name. -/
  | direct (name : String) (table : Nat)
  /-- A timer. -/
  | timer (settings : TimerSettings)
  /-- An endpoint of the embedding program. -/
  | custom (code : κ)

/-- An endpoint. -/
structure Endpoint (κ : Type) where
  /-- The identity. -/
  identity : Identity
  /-- The URI it was made for. -/
  uri : Uri
  /-- What it does. -/
  role : EndpointRole κ

/-- What a consumer works with. -/
structure ConsumerContext (κ : Type) where
  /-- The name of the route. -/
  route : String
  /-- What is done with each exchange. -/
  processor : Processor κ
  /-- The scope above the scopes of all exchanges. -/
  scope : Scope
  /-- How long each exchange may take. -/
  exchangeTimeout : Option Duration

/-- A consumer. -/
inductive Consumer (κ : Type) where
  /-- A direct one; it is active once it was started. -/
  | direct (name : String) (table : Nat) (processor : Processor κ) (active : Bool)
  /-- A timer with an identity; it is started once, and a stop lasts. -/
  | timer (identity : Identity) (settings : TimerSettings) (context : ConsumerContext κ)
      (active stopped : Bool)
  /-- One of the embedding program. -/
  | custom (code : κ)

/-- A timer that runs. -/
structure RunningTimer (κ : Type) where
  /-- The identity of its consumer. -/
  identity : Identity
  /-- Its settings. -/
  settings : TimerSettings
  /-- What its consumer works with. -/
  context : ConsumerContext κ
  /-- How often it has fired. -/
  fired : Nat
  /-- The end of its wait; `none` lies beyond the end of the clock. -/
  due : Option Instant

/-- What is asked of a component of the embedding program and of what it made. -/
inductive ComponentRequest (κ : Type) where
  /-- Make an endpoint; the answer names it. -/
  | endpoint (uri : Uri)
  /-- Make a consumer of an endpoint; the answer names it. -/
  | consumer (uri : Uri) (context : ConsumerContext κ)
  /-- Make a producer of an endpoint; the answer names the processor that takes the exchanges. -/
  | producer (uri : Uri)
  /-- Start a consumer. -/
  | start
  /-- Stop a consumer. -/
  | stop

end MessageRouting
