import MessageRouting.Proofs.Engine.Running
import MessageRouting.Proofs.Lifecycle.Kept

/-!
# Handing over to direct endpoints

What takes the exchanges of a direct endpoint is looked up when an exchange is handed over, not when its producer is
made. So a step that goes by a producer that it made long ago, a step that goes by a new one, and a client that sends
all have the same route work on the exchange, the one that consumes under the name now; and none, if none does now.
-/

namespace MessageRouting

variable {κ η : Type}

/-- Whether a route consumes from the direct endpoint of a name can be told from its source. -/
instance (route : Route κ) (name : String) : Decidable (route.ConsumesDirect name) :=
  match parsed : Uri.parse route.source with
  | .error _ => isFalse fun consumes => by
    obtain ⟨uri, same, -⟩ := consumes
    cases parsed.symm.trans same
  | .ok uri => decidable_of_iff (uri.component = "direct" ∧ uri.name = name) <| by
    constructor
    · exact fun direct => ⟨uri, parsed, direct⟩
    · rintro ⟨other, same, direct⟩
      cases parsed.symm.trans same
      exact direct

/-- The text is the URI of a direct endpoint, however it is spelled. Without a name there is no such endpoint. -/
structure Uri.IsDirect (uri : Uri) (text : String) : Prop where
  /-- The text reads as the URI. -/
  parsed : Uri.parse text = .ok uri
  /-- The component is the direct one. -/
  component : uri.component = "direct"
  /-- There is a name. -/
  named : uri.name ≠ ""

namespace Engine

open Pattern

variable {embedding : Embedding κ η} {answer : Processor κ × Exchange → Engine κ η → Option (Outcome × Engine κ η)}
  {engine after : Engine κ η}

/-! ## The route that takes the exchanges -/

/-- The processor of the started route that consumes from the direct endpoint of a name. -/
def directConsumer? (engine : Engine κ η) (name : String) : Option (Processor κ) :=
  if engine.phase = .started then
    (List.find? (fun entry => entry.2.ConsumesDirect name) engine.routes).map fun entry => entry.2.processor
  else none

/-- Has the started route that consumes from a direct endpoint work on an exchange; without one, sets the error that
says so. -/
def handToRoute (uri : Uri) (x : Exchange) : Work κ η Outcome := do
  match ← Program.read (·.directConsumer? uri.name) with
  | some processor => Program.ask (processor, x)
  | none => return .returned (x.fail (.noConsumer uri.raw))

/-- The table of direct consumers has the processors of the started routes. -/
theorem find?_tableAt (orderly : engine.Orderly) (name : String) :
    (engine.tableAt 0).find? name = engine.directConsumer? name := by
  have coherent := coherent_of_orderly orderly
  unfold directConsumer?
  by_cases started : engine.phase = .started
  · rw [if_pos started]
    cases found : List.find? (fun entry => entry.2.ConsumesDirect name) engine.routes with
    | none =>
      rw [Option.map_none, Option.eq_none_iff_forall_ne_some]
      intro processor there
      obtain ⟨entry, member, consumes, -⟩ := (coherent.direct started name processor).mp there
      have never := List.find?_eq_none.mp found entry member
      exact never (decide_eq_true consumes)
    | some entry =>
      have accepted := List.find?_some found
      have consumes : entry.2.ConsumesDirect name := of_decide_eq_true accepted
      exact (coherent.direct started name _).mpr ⟨entry, List.mem_of_find?_eq_some found, consumes, rfl⟩
  · rw [if_neg started, (coherent.idle started).2]
    rfl

/-- Handing an exchange to a direct consumer has the started route work on it. -/
theorem run_handOver (orderly : engine.Orderly) (uri : Uri) (fuel : Nat) (x : Exchange) :
    run embedding fuel (handOver uri.raw uri.name 0 x) engine = run embedding fuel (handToRoute uri x) engine := by
  have looked : run embedding fuel (Program.read fun engine => (engine.tableAt 0).find? uri.name) engine =
      some (engine.directConsumer? uri.name, engine) := by
    rw [run_read, find?_tableAt orderly]
  have known : run embedding fuel (Program.read (·.directConsumer? uri.name)) engine =
      some (engine.directConsumer? uri.name, engine) := run_read _ _
  refine (run_bind_of_run looked).trans (Eq.trans ?_ (run_bind_of_run known).symm)
  cases engine.directConsumer? uri.name <;> rfl

/-- The producer of a direct endpoint has the started route work on an exchange. -/
theorem run_ask_direct (orderly : engine.Orderly) (uri : Uri) (fuel : Nat) (x : Exchange) :
    run embedding (fuel + 1) (Program.ask (.direct uri.raw uri.name 0, x)) engine =
      run embedding fuel (handToRoute uri x) engine := by
  rw [← run_handOver orderly]
  exact Program.runWith_ask _ _ _

/-! ## What is kept -/

/-- What an endpoint for a direct URI does is to hand over under the name in it. -/
theorem eq_direct_of_fits {uri : Uri} {role : EndpointRole κ} (fits : role.Fits uri)
    (direct : uri.component = "direct") : role = .direct uri.name 0 := by
  cases role with
  | direct name table =>
    obtain ⟨-, rfl, rfl⟩ := fits
    rfl
  | timer settings => exact absurd direct fits
  | custom code => exact absurd direct fits

/-- Nothing has changed but what is kept for later, and how many things were made. -/
structure OnlyCached (engine after : Engine κ η) : Prop where
  /-- The engine is the same with other endpoints, producers and identities. -/
  same : after = { engine with endpoints := after.endpoints, producers := after.producers, made := after.made }

/-- Nothing has changed at all. -/
theorem OnlyCached.refl (engine : Engine κ η) : OnlyCached engine engine := ⟨rfl⟩

/-- Locks are as they were. -/
theorem OnlyCached.locks_eq (cached : OnlyCached engine after) : after.locks = engine.locks := by
  rw [cached.same]

/-- What was kept under other locks is kept when the locks are as before. -/
theorem OnlyCached.unlocked {inside : Locks} (cached : OnlyCached { engine with locks := inside } after) :
    OnlyCached engine { after with locks := engine.locks } := by
  constructor
  rw [cached.same]

/-- Keeping a producer changes nothing else. -/
theorem OnlyCached.keepProducer (cached : OnlyCached engine after) (keptAs : Identity) (text : String)
    (producer : Processor κ) : OnlyCached engine (keepProducer keptAs text producer after) := by
  have same := cached.same
  constructor
  rw [Engine.keepProducer, same]

/-- Looking for a direct endpoint finds it or makes it. -/
theorem arrives_resolve_direct (equipped : engine.Equipped) (addressed : engine.Addressed) {text : String} {uri : Uri}
    (direct : uri.IsDirect text) :
    (resolve embedding text).Arrives answer engine fun found after => OnlyCached engine after ∧
      ∃ endpoint, found = .ok endpoint ∧ endpoint.uri = uri ∧ endpoint.role = .direct uri.name 0 := by
  simp only [resolve, Program.arrives_bind, Program.arrives_read]
  cases kept : engine.endpoints.find? text with
  | some endpoint =>
    refine Program.arrives_pure.mpr ⟨.refl engine, endpoint, rfl, ?_⟩
    obtain rfl : endpoint.uri = uri := Except.ok.inj ((addressed text endpoint kept).symm.trans direct.parsed)
    obtain ⟨fitting, spelled, fits⟩ := equipped.endpoints text endpoint kept
    obtain rfl : endpoint.uri = fitting := Except.ok.inj (direct.parsed.symm.trans spelled)
    exact ⟨rfl, eq_direct_of_fits fits direct.component⟩
  | none =>
    have nonempty : uri.name.isEmpty = false := String.isEmpty_eq_false_iff.mpr direct.named
    simp only [direct.parsed, componentOf, direct.component, equipped.direct, Program.arrives_bind,
      Program.arrives_read]
    refine Program.arrives_atomically.mpr ?_
    simp only [makeKept, kept, makeEndpoint, roleFor, nonempty]
    exact ⟨⟨rfl⟩, _, rfl, rfl, rfl⟩

section Direct

variable (settled : engine.Settled) (wired : engine.Wired) (going : engine.phase ≠ .stopped) {text : String} {uri : Uri}
  (direct : uri.IsDirect text)

include settled wired going direct

/-- A step for a direct endpoint has a producer that hands over under its name, kept or made. -/
theorem arrives_producerFor_direct (keptAs : Identity) :
    (producerFor embedding keptAs text).Arrives answer engine fun found after =>
      found = .ok (.direct uri.raw uri.name 0) ∧ OnlyCached engine after ∧ after.Orderly ∧
        (after.producers.lookup (keptAs, text)).isSome ∧
          ((engine.producers.lookup (keptAs, text)).isSome → after = engine) := by
  have orderly := settled.orderly
  simp only [producerFor, Program.arrives_bind, Program.arrives_read]
  cases kept : engine.producers.lookup (keptAs, text) with
  | some producer =>
    obtain ⟨earlier, later, split, -⟩ := List.lookup_eq_some_iff.mp kept
    have member : ((keptAs, text), producer) ∈ engine.producers := by
      rw [split]
      exact List.mem_append_right earlier List.mem_cons_self
    have same := wired.producers going keptAs text producer member uri direct.parsed direct.component
    refine Program.arrives_pure.mpr ⟨congrArg Except.ok same, .refl engine, orderly, ?_, fun _ => rfl⟩
    rw [kept]
    rfl
  | none =>
    simp only [Program.arrives_bind]
    refine ((arrives_resolve embedding text engine).and
      (arrives_resolve_direct (orderly.equipped going) wired.endpoints direct)).mono ?_
    rintro found middle ⟨⟨grew, -⟩, cached, endpoint, rfl, own, role⟩
    have ordered := orderly.grew grew
    simp only [makeProducer, role, own, Program.arrives_bind, Program.arrives_pure, Program.arrives_change, true_and]
    refine ⟨cached.keepProducer _ _ _, ?_, ?_, ?_⟩
    · exact ordered.congr rfl rfl rfl rfl (fun timer running => ⟨timer, running, rfl⟩)
        fun equipped => equipped.congr rfl rfl
    · simp only [keepProducer, List.lookup_cons_self, Option.isSome_some]
    · intro never
      cases never

/-- Whoever sends to a direct endpoint finds a producer that hands over under its name. -/
theorem arrives_sharing_producerShared_direct :
    (sharing (producerShared embedding text)).Arrives answer engine fun found after =>
      found = .ok (.direct uri.raw uri.name 0) ∧ OnlyCached engine after := by
  refine arrives_sharing settled.unlocked ?_
  simp only [producerShared, Program.arrives_bind, Program.arrives_read]
  rw [if_neg going]
  have equipped : ({ engine with locks := { sharing := 1 } } : Engine κ η).Equipped :=
    (settled.orderly.equipped going).congr rfl rfl
  refine Program.arrives_bind.mpr ((arrives_resolve_direct equipped wired.endpoints direct).mono ?_)
  rintro found after ⟨cached, endpoint, rfl, own, role⟩
  simp only [makeProducer, role, own, Program.arrives_pure, true_and]
  exact ⟨cached.locks_eq, cached.unlocked⟩

/-! ## Dispatching -/

/-- A step for a direct endpoint has the started route of its name work on the exchange, and keeps its producer. -/
theorem run_to_direct (fuel : Nat) (keptAs : Identity) (patience : Nat) (x : Exchange) :
    ∃ after, OnlyCached engine after ∧ (after.producers.lookup (keptAs, text)).isSome ∧
      ((engine.producers.lookup (keptAs, text)).isSome → after = engine) ∧
        run embedding (fuel + 1) (behaviour embedding patience (.to keptAs text) x) engine =
          run embedding fuel (handToRoute uri x) after := by
  obtain ⟨_, after, ran, rfl, cached, ordered, kept, same⟩ :=
    arrives_producerFor_direct settled wired going direct keptAs
  refine ⟨after, cached, kept, same, ?_⟩
  rw [← run_ask_direct ordered]
  simp only [behaviour, handTo]
  exact run_bind_of_run ran

/-- Sending to a direct endpoint has the started route of its name work on the exchange that the client prepares, and
contains a panic. -/
theorem run_send_direct (client : embedding.IsClient) (fuel : Nat) {prepare : Exchange → Work κ η Exchange}
    (prepares : ∀ x, Client embedding (prepare x)) :
    ∃ after, OnlyCached engine after ∧
      run embedding (fuel + 1) (send embedding text prepare) engine =
        (run embedding (fuel + 1) (newRuntimeExchange >>= prepare) after).bind fun prepared =>
          (run embedding fuel (handToRoute uri prepared.1) prepared.2).map fun ended =>
            (.ok ended.1.contained, ended.2) := by
  have looked : (sharing (producerShared embedding text)).Arrives
      (Program.answerWithin (carryOut embedding) (fuel + 1)) engine _ :=
    (arrives_sharing_producerShared_direct settled wired going direct).and
      (arrives_sharing_producerShared embedding text settled.unlocked)
  obtain ⟨_, after, ran, ⟨rfl, cached⟩, grew, -⟩ := looked
  have ran : run embedding (fuel + 1) (sharing (producerShared embedding text)) engine =
      some (.ok (.direct uri.raw uri.name 0), after) := ran
  refine ⟨after, cached, ?_⟩
  rw [send, run_bind_of_run ran]
  dsimp only
  rw [← bind_assoc, run_bind]
  refine Option.bind_congr fun prepared before => ?_
  -- The client may have called the runtime meanwhile, so the routes are those of the state that it left.
  have fresh : Client embedding (newRuntimeExchange : Work κ η Exchange) :=
    .bind (.read _) fun found => .bind (.atomically (spares_scopeFor found.1 found.2)) fun made => .done _
  have keeps := (fresh.bind prepares).keeps (tasksKeep client (fuel + 1))
  have ordered : prepared.2.Orderly := (keeps after (settled.grew grew).settled _ _ before).1.settled.orderly
  rw [run_bind, dispatch, invoke, run_bind, run_ask_direct ordered]
  cases run embedding fuel (handToRoute uri prepared.1) prepared.2 <;> rfl

end Direct

/-- Whatever is kept, an exchange that is handed to a direct URI is worked on by the route that consumes under its name
when it is handed over. -/
structure ReachesRoute (embedding : Embedding κ η) (engine : Engine κ η) (text : String) (uri : Uri) (fuel : Nat) :
    Prop where
  /-- A step for the URI has the route work on the exchange, and keeps its producer. -/
  step : ∀ keptAs patience x, ∃ after, OnlyCached engine after ∧ (after.producers.lookup (keptAs, text)).isSome ∧
    run embedding (fuel + 1) (behaviour embedding patience (.to keptAs text) x) engine =
      run embedding fuel (handToRoute uri x) after
  /-- A step that kept its producer does so without changing anything before. -/
  again : ∀ keptAs patience x, (engine.producers.lookup (keptAs, text)).isSome →
    run embedding (fuel + 1) (behaviour embedding patience (.to keptAs text) x) engine =
      run embedding fuel (handToRoute uri x) engine
  /-- Sending has it work on the exchange that the client prepares, and contains a panic. -/
  send : ∀ prepare, (∀ x, Client embedding (prepare x)) → ∃ after, OnlyCached engine after ∧
    run embedding (fuel + 1) (Engine.send embedding text prepare) engine =
      (run embedding (fuel + 1) (newRuntimeExchange >>= prepare) after).bind fun prepared =>
        (run embedding fuel (handToRoute uri prepared.1) prepared.2).map fun ended =>
          (.ok ended.1.contained, ended.2)

/-- In every state that calls lead to until the runtime is stopped, and for every text that is a direct URI with a name,
sending to it, a step for it that has not made its producer yet, and one that goes by a producer made in whatever state
have the same route work on the exchange: the started one that consumes under the name then. If none does, they set the
error that says so. -/
theorem reachesRoute_of_untampered (client : embedding.IsClient) (leaves : embedding.AllCode LeavesProducers)
    (untampered : Untampered embedding engine) (going : engine.phase ≠ .stopped) {text : String} {uri : Uri}
    (direct : uri.IsDirect text) (fuel : Nat) : ReachesRoute embedding engine text uri fuel := by
  have settled := settled_of_reachable client untampered.reachable
  have wired := wired_of_untampered client leaves untampered
  constructor
  · intro keptAs patience x
    obtain ⟨after, cached, kept, -, ran⟩ := run_to_direct settled wired going direct fuel keptAs patience x
    exact ⟨after, cached, kept, ran⟩
  · intro keptAs patience x kept
    obtain ⟨after, -, -, same, ran⟩ := run_to_direct settled wired going direct fuel keptAs patience x
    rw [ran, same kept]
  · exact fun prepare prepares => run_send_direct settled wired going direct client fuel prepares

/-- An exchange to hand over. -/
def parcel : Exchange := .create (.root 7) (.root (.root 6)) [] .null

/-- A step hands an exchange to a direct endpoint before a route for it is registered and started. -/
def early : Work Nat Unit Unit := do
  let _ ← Program.ask (.to (.root 5) "direct:orders?kind=new", parcel)
  let _ ← registerRoute idle ⟨"orders", "direct:/orders", [.setBody (.constant (.bool true))]⟩
  let _ ← start idle
  return ()

/-- A client does so, and leaves alone what steps keep. -/
theorem call_early : Call idle early ∧ LeavesProducers early := by
  have sections : early.Sections Retains := by
    refine .bind (.ask _) fun _ => (retains_registerRoute idle _).bind fun _ => (retains_start idle).bind fun _ => ?_
    trivial
  refine ⟨.other (.call _ fun _ => .register _ fun _ => .start fun _ => .done _), ?_⟩
  exact sections.mono fun _ _ retains => retains.producers

/-- The code that does nothing leaves alone what steps keep. -/
theorem leavesProducers_idle : idle.AllCode LeavesProducers where
  evaluate _ _ := trivial
  function _ _ := trivial
  process _ _ := trivial
  hook _ _ _ _ := trivial
  aggregate _ _ _ := trivial
  convert _ _ _ := trivial
  marshal _ _ := trivial
  unmarshal _ _ _ := trivial

/-- The step goes by the producer that it made when there was no route, and has the route work on its exchange. -/
theorem reachesRoute_of_untampered_early : idle.IsClient ∧ idle.AllCode LeavesProducers ∧
    ∃ engine uri, Untampered idle engine ∧ engine.phase ≠ .stopped ∧ uri.IsDirect "direct:orders?kind=new" ∧
      (engine.producers.lookup (.root 5, "direct:orders?kind=new")).isSome ∧
        (run idle 9 (handToRoute uri parcel) engine).map (·.1.exchange.body.text) = some "true" ∧
          ReachesRoute idle engine "direct:orders?kind=new" uri 9 := by
  have named : (Uri.parse "direct:orders?kind=new").toOption.map (fun uri => (uri.component, uri.name)) =
      some ("direct", "orders") := by decide +kernel
  have ran : ((run idle 9 early (.standard {} 0 ())).map fun ended => (ended.2.phase,
      (ended.2.producers.lookup (.root 5, "direct:orders?kind=new")).isSome,
      (Uri.parse "direct:orders?kind=new").toOption.bind fun uri =>
        (run idle 9 (handToRoute uri parcel) ended.2).map (·.1.exchange.body.text))) =
          some (.started, true, some "true") := by decide +kernel
  obtain ⟨⟨_, engine⟩, ended, same⟩ := Option.map_eq_some_iff.mp ran
  simp only [Prod.mk.injEq] at same
  obtain ⟨phase, kept, worked⟩ := same
  have untampered : Untampered idle engine := .call (.new {} 0 ()) call_early.1 call_early.2 ended
  have going : engine.phase ≠ .stopped := by
    rw [phase]
    decide
  cases parsed : Uri.parse "direct:orders?kind=new" with
  | error fault => simp [parsed, Except.toOption] at named
  | ok uri =>
    simp only [parsed, Except.toOption, Option.map_some, Option.some.injEq, Prod.mk.injEq] at named
    simp only [parsed, Except.toOption, Option.bind_some] at worked
    have direct : uri.IsDirect "direct:orders?kind=new" := by
      refine ⟨parsed, named.1, ?_⟩
      rw [named.2]
      decide
    have reaches := reachesRoute_of_untampered isClient_idle leavesProducers_idle untampered going direct 9
    exact ⟨isClient_idle, leavesProducers_idle, engine, uri, untampered, going, direct, kept, worked, reaches⟩

end Engine

end MessageRouting
