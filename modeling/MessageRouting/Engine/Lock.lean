import MessageRouting.Engine.State

/-!
# Locks

Who changes the phase of a runtime holds its lock alone; who relies on the phase shares the lock meanwhile. The
routes have a lock of their own, which is only ever taken under the other one.
-/

namespace MessageRouting.Engine

variable {κ η : Type}

/-- Shares the lock of the phase; blocks while somebody holds it alone. -/
def share : Work κ η Unit :=
  Program.tryAtomically
    (fun engine =>
      if engine.locks.exclusive then none
      else some ((), { engine with locks.sharing := engine.locks.sharing + 1 }))
    ()

/-- Gives a share of the lock of the phase back. -/
def unshare : Work κ η Unit :=
  Program.change fun engine => { engine with locks.sharing := engine.locks.sharing - 1 }

/-- Takes the lock of the phase alone; blocks while anybody has it. -/
def seize : Work κ η Unit :=
  Program.tryAtomically
    (fun engine =>
      if engine.locks.exclusive || 0 < engine.locks.sharing then none
      else some ((), { engine with locks.exclusive := true }))
    ()

/-- Gives the lock of the phase back. -/
def release : Work κ η Unit :=
  Program.change fun engine => { engine with locks.exclusive := false }

/-- Takes the lock of the routes; blocks while somebody holds it. -/
def lockRoutes : Work κ η Unit :=
  Program.tryAtomically
    (fun engine =>
      if engine.locks.routes then none else some ((), { engine with locks.routes := true }))
    ()

/-- Gives the lock of the routes back. -/
def unlockRoutes : Work κ η Unit :=
  Program.change fun engine => { engine with locks.routes := false }

/-- Works while sharing the lock of the phase. -/
def sharing {α : Type} (work : Work κ η α) : Work κ η α := do
  share
  let result ← work
  unshare
  return result

/-- Works while holding the lock of the phase alone. -/
def holding {α : Type} (work : Work κ η α) : Work κ η α := do
  seize
  let result ← work
  release
  return result

/-- Works while holding the lock of the routes. -/
def holdingRoutes {α : Type} (work : Work κ η α) : Work κ η α := do
  lockRoutes
  let result ← work
  unlockRoutes
  return result

end MessageRouting.Engine
