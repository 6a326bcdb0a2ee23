import LiteVpn.Client.Lifecycle

/-!
# The routes while the tunnel runs

The log of the client's `main`, read as what its events do to the routing table.
The guard stands exactly while the tunnel starts, runs and ends; every other
effect of the client, be it an attempt to connect, a bench or the farewell to the
server, finds the table without routes of this client. The only condition is
that a route operation came out as its commands did.
-/

namespace LiteVpn.Client

open LiteVpn.Strings
open LiteVpn.Core
open LiteVpn.Semantics
open LiteVpn.Bench

/-- What the route operations of a run read. -/
structure RouteWorld where
  fates : Nat → Fate
  netstat : Printed
  routeGet : Printed
  server : IpAddr
  serverTunIp : Ipv4Addr

/-- The guard that `main` holds, if any, and the routes. -/
structure Routing where
  guard : Option RouteGuard
  routes : Routes

/-- What an event does to the routes. An event that did not come out as its
commands did is refused. -/
def Routing.after (world : RouteWorld) (routing : Routing) : Event → Option Routing
  | .staleRoutes outcome =>
      let cleaned := RouteGuard.cleanupStale world.fates world.netstat world.server routing.routes
      if outcome = cleaned.1.mapError RouteError.message then some ⟨routing.guard, cleaned.2⟩
      else none
  | .installRoutes outcome =>
      match RouteGuard.install world.fates world.routeGet world.server world.serverTunIp
          routing.routes with
      | (.error error, routes) =>
          if outcome = .error error.message then some ⟨routing.guard, routes⟩ else none
      | (.ok guard, routes) => if outcome = .ok () then some ⟨some guard, routes⟩ else none
  -- A guard that was cleaned up is disarmed; its drop adds nothing.
  | .removeRoutes => some ⟨none, dropGuard world.fates routing.guard routing.routes⟩
  | _ => some routing

/-- The log as the routing table sees it. -/
def routeReader (world : RouteWorld) : Machine Routing Event where
  Initial routing := routing.guard = none
  step := Routing.after world

/-- `main` installs routes. -/
def Options.guards (options : Options) : Bool :=
  options.macos && options.routeAll && !options.noRoutes

/-- The events from the tunnel's start up to the removal of its routes. -/
def Event.inTunnel : Event → Bool
  | .openUni _ | .acceptUni _ | .tunnel _ | .removeRoutes => true
  | _ => false

/-- The events that neither belong to the tunnel nor act on routes. -/
def Event.aside : Event → Bool
  | .staleRoutes _ | .installRoutes _ => false
  | event => !event.inTunnel

/-- Every `route` command is performed. -/
def RouteWorld.Obeyed (world : RouteWorld) : Prop := ∀ number, world.fates number = .performed

/-- The table without routes of this client: there is no guard, other routes are
as they were, and, if commands are performed, so are the three, unless they are
gone. -/
structure Unrouted (world : RouteWorld) (routes : Routes) (routing : Routing) : Prop where
  unguarded : routing.guard = none
  others : ChangesOnly (· ∈ world.server.destinations) routes.table routing.routes.table
  own : world.Obeyed → ∀ destination ∈ world.server.destinations,
    routing.routes.table destination = none ∨
      routing.routes.table destination = routes.table destination

/-- The table with the routes of the guard: other routes are as they were, and, if
commands are performed, everything goes through the tunnel except what goes to
the server. -/
structure Guarded (world : RouteWorld) (routes : Routes) (guard : RouteGuard)
    (routing : Routing) : Prop where
  holds : routing.guard = some guard
  installed : guard.installed = true
  server : world.server = .v4 guard.serverIp
  gateway : defaultGateway world.routeGet = .ok guard.gateway
  others : ChangesOnly (· ∈ world.server.destinations) routes.table routing.routes.table
  routed : world.Obeyed →
    Routed routing.routes.table guard.serverIp guard.gateway world.serverTunIp

/-- How the table stands, with or without the routes of this client. -/
def Stands (world : RouteWorld) (routes : Routes) : Bool → Routing → Prop
  | true, routing => ∃ guard, Guarded world routes guard routing
  | false, routing => Unrouted world routes routing

/-- In front of each event the routes stand exactly if they should, and behind the
log as given. -/
def RoutedAlong (world : RouteWorld) (routes : Routes) (guards armed : Bool) :
    List Event → Prop :=
  Suits (routeReader world) ⟨none, routes⟩ (Stands world routes armed)
    fun event => Stands world routes (guards && event.inTunnel)

section Table

variable {world : RouteWorld} {routes : Routes} {routing next : Routing}

theorem after_aside {event : Event} (aside : event.aside = true) :
    routing.after world event = some routing := by
  cases event <;> first | rfl | cases aside

/-- With performed commands, a cleaning leaves none of the three. -/
theorem cleanupRoutes_obeyed (obeyed : world.Obeyed) {serverIp : Ipv4Addr}
    {destination : Destination} (member : destination ∈ litevpnDestinations serverIp) :
    (cleanupRoutes world.fates serverIp routes).2.table destination = none := by
  obtain ⟨low, high, host⟩ := @cleanupRoutes_table world.fates serverIp routes
  simp only [litevpnDestinations, List.mem_cons, List.not_mem_nil, or_false] at member
  rcases member with rfl | rfl | rfl
  · rw [low, leftOver, if_pos (obeyed _)]
  · rw [high, leftOver, if_pos (obeyed _)]
  · rw [host, leftOver, if_pos (obeyed _)]

/-- With performed commands, the removal of stale routes leaves each of the three
as it was, or removes it. -/
theorem cleanupStale_obeyed (obeyed : world.Obeyed) {destination : Destination}
    (member : destination ∈ world.server.destinations) :
    (RouteGuard.cleanupStale world.fates world.netstat world.server routes).2.table destination =
        none ∨
      (RouteGuard.cleanupStale world.fates world.netstat world.server routes).2.table destination =
        routes.table destination := by
  cases server : world.server with
  | v6 => exact .inr rfl
  | v4 serverIp =>
      rw [server] at member
      have cleaned := @cleanupRoutes_obeyed world routes obeyed serverIp destination member
      simp only [RouteGuard.cleanupStale]
      split
      · exact .inr rfl
      · exact .inr rfl
      · split <;> rename_i same <;> rw [same] at cleaned <;> exact .inl cleaned

theorem Unrouted.stale (stands : Unrouted world routes routing) {outcome : Except Text Unit}
    (taken : routing.after world (.staleRoutes outcome) = some next) :
    Unrouted world routes next := by
  simp only [Routing.after] at taken
  split at taken
  · cases taken
    refine ⟨stands.unguarded, stands.others.trans (changesOnly_cleanupStale _ _), ?_⟩
    intro obeyed destination member
    rcases @cleanupStale_obeyed world routing.routes obeyed destination member with gone | kept
    · exact .inl gone
    · rw [kept]
      exact stands.own obeyed destination member
  · cases taken

theorem install_gateway {guard : RouteGuard} {installed : Routes}
    (returned : RouteGuard.install world.fates world.routeGet world.server world.serverTunIp
      routes = (.ok guard, installed)) :
    defaultGateway world.routeGet = .ok guard.gateway := by
  obtain ⟨server, _⟩ := install_guard returned
  rw [server] at returned
  cases found : defaultGateway world.routeGet with
  | error error =>
      simp only [RouteGuard.install, found] at returned
      cases returned
  | ok gateway =>
      simp only [RouteGuard.install, found] at returned
      split at returned
      · cases returned
      · obtain ⟨armed, _⟩ := Prod.mk.inj returned
        rw [← Except.ok.inj armed]

/-- With performed commands nothing is in the way of an installation. -/
theorem install_obeyed (obeyed : world.Obeyed) {guard : RouteGuard} {installed : Routes}
    (returned : RouteGuard.install world.fates world.routeGet world.server world.serverTunIp
      routes = (.ok guard, installed)) :
    Routed installed.table guard.serverIp guard.gateway world.serverTunIp := by
  obtain ⟨after, same, filled⟩ := @install_performed world.fates world.routeGet guard.serverIp
    guard.gateway world.serverTunIp routes (install_gateway returned) fun _ _ => obeyed _
  rw [(install_guard returned).1, same] at returned
  obtain ⟨_, rfl⟩ := Prod.mk.inj returned
  exact (routed_iff_unobstructed filled).mpr ⟨.inl (obeyed _), .inl (obeyed _), .inl (obeyed _)⟩

/-- With performed commands, an installation that fails leaves each of the three
as it was, or removes it. -/
theorem install_failed_obeyed (obeyed : world.Obeyed) {error : RouteError} {left : Routes}
    (returned : RouteGuard.install world.fates world.routeGet world.server world.serverTunIp
      routes = (.error error, left)) {destination : Destination}
    (member : destination ∈ world.server.destinations) :
    left.table destination = none ∨ left.table destination = routes.table destination := by
  cases server : world.server with
  | v6 =>
      rw [server] at member
      cases member
  | v4 serverIp =>
      rw [server] at returned member
      cases found : defaultGateway world.routeGet with
      | error error =>
          simp only [RouteGuard.install, found] at returned
          cases returned
          exact .inr rfl
      | ok gateway =>
          simp only [RouteGuard.install, found] at returned
          split at returned
          · cases returned
            exact .inl (cleanupRoutes_obeyed obeyed member)
          · cases returned

/-- An installation arms a guard, or fails and leaves no route behind. -/
theorem Unrouted.install (stands : Unrouted world routes routing) {outcome : Except Text Unit}
    (taken : routing.after world (.installRoutes outcome) = some next) :
    Stands world routes outcome.isOk next := by
  have installs := @changesOnly_install world.fates routing.routes world.routeGet world.server
    world.serverTunIp
  simp only [Routing.after] at taken
  split at taken <;> rename_i returned <;> rw [returned] at installs
  · split at taken
    · rename_i outcome
      cases taken
      subst outcome
      refine ⟨stands.unguarded, stands.others.trans installs, ?_⟩
      intro obeyed destination member
      rcases install_failed_obeyed obeyed returned member with gone | kept
      · exact .inl gone
      · rw [kept]
        exact stands.own obeyed destination member
    · cases taken
  · split at taken
    · rename_i guard _ outcome
      cases taken
      subst outcome
      obtain ⟨server, armed⟩ := install_guard returned
      exact ⟨guard, rfl, armed, server, install_gateway returned, stands.others.trans installs,
        fun obeyed => install_obeyed obeyed returned⟩
    · cases taken

/-- The removal takes the guard and its routes. -/
theorem Guarded.remove {guard : RouteGuard} (stands : Guarded world routes guard routing)
    (taken : routing.after world .removeRoutes = some next) : Unrouted world routes next := by
  simp only [Routing.after, stands.holds, dropGuard, cleanupGuard] at taken
  rw [cleanup_armed stands.installed] at taken
  cases taken
  have cleaned : ChangesOnly (· ∈ world.server.destinations) routing.routes.table
      (cleanupRoutes world.fates guard.serverIp routing.routes).2.table := by
    rw [stands.server]
    exact changesOnly_cleanupRoutes guard.serverIp
  refine ⟨rfl, stands.others.trans cleaned, ?_⟩
  intro obeyed destination member
  rw [stands.server] at member
  exact .inl (cleanupRoutes_obeyed obeyed member)

end Table

section Aside

variable {surroundings : Surroundings} {Inv : List Event → Prop}

/-- The invariant does not mind events that have to do with neither the tunnel nor
routes. -/
def KeptAside (Inv : List Event → Prop) : Prop :=
  ∀ log event, event.aside = true → Inv log → Inv (log ++ [event])

theorem KeptAside.emit (kept : KeptAside Inv) {event : Event} (aside : event.aside = true) :
    Keeps Inv (emit event : Part Unit) :=
  triple_emit fun log holds => kept log event aside holds

theorem KeptAside.performOrLeave (kept : KeptAside Inv) {Value : Type}
    {outcomes : Nat → Except Text Value} {event : Except Text Value → Event}
    (aside : ∀ outcome, (event outcome).aside = true) :
    Keeps Inv (do
      let outcome ← perform outcomes event
      orLeave outcome) :=
  (triple_perform fun log outcome holds => kept log _ (aside outcome) holds).bind fun _ =>
    keeps_ofExcept _

theorem KeptAside.connectAttempts (kept : KeptAside Inv) {retries : Nat} {delayMs : UInt64}
    (attempts : List Nat) :
    Keeps Inv (connectAttempts surroundings retries delayMs attempts) := by
  induction attempts with
  | nil => exact keeps_throw _
  | cons attempt rest inductionHypothesis =>
      have once : Keeps Inv (connectOnce surroundings) := kept.performOrLeave fun _ => rfl
      rw [Client.connectAttempts]
      refine once.result.bind fun ended => ?_
      cases ended with
      | ok => exact keeps_pure _
      | error failure =>
          dsimp only [Ends]
          split
          · exact keeps_throw _
          · exact (Triple.onlyIf_keeps fun _ => kept.emit rfl).bind fun _ => inductionHypothesis

theorem KeptAside.connectClient (kept : KeptAside Inv) {retries delayMs : UInt64} :
    Keeps Inv (connectClient surroundings retries delayMs) :=
  kept.connectAttempts _

theorem KeptAside.clientAuthenticate (kept : KeptAside Inv) {mode : AuthMode} :
    Keeps Inv (clientAuthenticate surroundings mode) :=
  kept.performOrLeave fun _ => rfl

theorem KeptAside.benchOnce (kept : KeptAside Inv) {mode : AuthMode} {durationSecs : UInt64}
    {run runs : Nat} : Keeps Inv (benchOnce surroundings mode durationSecs run runs) := by
  have measures : Keeps Inv (runBench surroundings mode durationSecs) :=
    (Triple.onlyIf_keeps fun _ => keeps_throw _).bind fun _ => kept.performOrLeave fun _ => rfl
  unfold Client.benchOnce
  refine (Triple.onlyIf_keeps fun _ => kept.emit rfl).bind fun _ => ?_
  refine measures.result.bind fun ended log holds => ?_
  have still : Inv log := by cases ended <;> exact holds
  exact (kept.emit rfl).bind (fun _ => (kept.emit rfl).bind fun _ => keeps_ofExcept _) log still

theorem KeptAside.benchIterations (kept : KeptAside Inv) {mode : AuthMode}
    {durationSecs gapMs retries delayMs : UInt64} {runs : Nat} (left : List Nat)
    (connected : Bool) (measurements : List BenchMeasurement) :
    Keeps Inv (benchIterations surroundings mode durationSecs runs gapMs retries delayMs left
      connected measurements) := by
  induction left generalizing connected measurements with
  | nil => exact keeps_pure _
  | cons run rest inductionHypothesis =>
      have connects : Keeps Inv (reconnect surroundings mode retries delayMs) :=
        kept.connectClient.bind fun _ => kept.clientAuthenticate
      rw [Client.benchIterations]
      refine (Triple.onlyIf_keeps fun _ => connects).bind fun _ => ?_
      refine kept.benchOnce.bind fun measurement => ?_
      refine (Triple.onlyIf_keeps fun _ => kept.emit rfl).bind fun _ => ?_
      exact inductionHypothesis false _

theorem KeptAside.runBenchIterations (kept : KeptAside Inv) {mode : AuthMode}
    {durationSecs runs gapMs retries delayMs : UInt64} :
    Keeps Inv (runBenchIterations surroundings mode durationSecs runs gapMs retries delayMs) :=
  (kept.benchIterations _ _ _).bind fun _ => kept.emit rfl

theorem KeptAside.runProbe (kept : KeptAside Inv) {holdSecs : UInt64} :
    Keeps Inv (runProbe holdSecs) :=
  (kept.emit rfl).bind fun _ => (Triple.onlyIf_keeps fun _ => kept.emit rfl).bind fun _ =>
    (kept.emit rfl).bind fun _ => kept.emit rfl

theorem keeps_chooseMode {options : Options} {config : ClientConfig}
    {direction : Option BenchDirection} {targetMbps : Option UInt64} :
    Keeps Inv (chooseMode surroundings options config direction targetMbps) := by
  cases direction with
  | none => exact keeps_pure _
  | some direction =>
      exact (currentLimit_keeps _).bind fun _ => (keeps_ofExcept _).bind fun _ => keeps_pure _

end Aside

section Run

variable {world : RouteWorld} {routes : Routes} {surroundings : Surroundings} {options : Options}
  {config : ClientConfig} {guards : Bool}

/-- An event outside of the tunnel. -/
theorem RoutedAlong.outside {log : List Event} (suits : RoutedAlong world routes guards false log)
    {event : Event} (outside : event.inTunnel = false) {armed : Bool}
    (leads : ∀ routing next, Unrouted world routes routing →
      routing.after world event = some next → Stands world routes armed next) :
    RoutedAlong world routes guards armed (log ++ [event]) := by
  refine Suits.snoc suits (fun routing stands => ?_) leads
  rw [outside, Bool.and_false]
  exact stands

theorem keptAside_routedAlong : KeptAside (RoutedAlong world routes guards false) := by
  intro log event aside suits
  have outside : event.inTunnel = false := by cases event <;> first | rfl | cases aside
  refine RoutedAlong.outside suits outside fun routing next stands taken => ?_
  cases (after_aside aside).symm.trans taken
  exact stands

/-- A step of the tunnel that leaves the routes alone. -/
theorem perform_along {Value : Type} {outcomes : Nat → Value} {event : Value → Event}
    (inside : ∀ outcome, (event outcome).inTunnel = true)
    (silent : ∀ outcome (routing : Routing), routing.after world (event outcome) = some routing) :
    Triple (RoutedAlong world routes guards guards) (perform outcomes event : Part Value)
      (fun _ => RoutedAlong world routes guards guards)
      (fun _ => RoutedAlong world routes guards false) := by
  refine triple_perform fun log outcome suits => ?_
  refine Suits.snoc suits (fun routing stands => ?_) fun routing next stands taken => ?_
  · rw [inside, Bool.and_true]
    exact stands
  · cases (silent outcome routing).symm.trans taken
    exact stands

theorem RoutedAlong.remove {log : List Event} (suits : RoutedAlong world routes true true log) :
    RoutedAlong world routes true false (log ++ [.removeRoutes]) :=
  Suits.snoc suits (fun _ stands => stands) fun _ _ ⟨_, stands⟩ taken => stands.remove taken

theorem orDrop_along (outcome : Except Text Unit) :
    Triple (RoutedAlong world routes guards guards) (orDrop guards outcome)
      (fun _ => RoutedAlong world routes guards guards)
      (fun _ => RoutedAlong world routes guards false) := by
  intro log suits
  cases outcome with
  | ok => cases guards <;> exact suits
  | error reason =>
      cases guards with
      | false => exact suits
      | true => exact suits.remove

theorem openStreams_along :
    Triple (RoutedAlong world routes guards guards) (openStreams surroundings guards)
      (fun _ => RoutedAlong world routes guards guards)
      (fun _ => RoutedAlong world routes guards false) :=
  (perform_along (fun _ => rfl) fun _ _ => rfl).bind fun opened => (orDrop_along opened).bind
    fun _ => (perform_along (fun _ => rfl) fun _ _ => rfl).bind orDrop_along

theorem tunnelUntilEnd_along {transport : VpnTransportMode} :
    Triple (RoutedAlong world routes guards guards)
      (tunnelUntilEnd surroundings transport guards)
      (fun _ => RoutedAlong world routes guards guards)
      (fun _ => RoutedAlong world routes guards false) :=
  (Triple.onlyIf_keeps fun _ => openStreams_along).bind fun _ =>
    (perform_along (fun _ => rfl) fun _ _ => rfl).bind fun _ _ suits => suits

theorem installRoutes_along :
    Triple (RoutedAlong world routes guards false) (installRoutes surroundings)
      (fun _ => RoutedAlong world routes guards true)
      (fun _ => RoutedAlong world routes guards false) := by
  have installs : Triple (RoutedAlong world routes guards false)
      (perform surroundings.installRoutes .installRoutes : Part (Except Text Unit))
      (fun outcome => RoutedAlong world routes guards outcome.isOk)
      (fun _ => RoutedAlong world routes guards false) :=
    triple_perform fun _ _ suits => RoutedAlong.outside suits rfl fun _ _ stands taken =>
      stands.install taken
  refine installs.bind fun outcome log suits => ?_
  cases outcome <;> exact suits

/-- The routes come behind the device and go before the connection. -/
theorem runVpn_along :
    Keeps (RoutedAlong world routes options.guards false) (runVpn surroundings options config) := by
  have kept := @keptAside_routedAlong world routes options.guards
  have capacity : Keeps (RoutedAlong world routes options.guards false)
      (checkCapacity surroundings config) :=
    (currentLimit_keeps _).bind fun _ => keeps_ofExcept _
  have device : Keeps (RoutedAlong world routes options.guards false)
      (createDevice surroundings) := kept.performOrLeave fun _ => rfl
  unfold runVpn
  refine (Triple.onlyIf_keeps fun _ => capacity).bind fun _ => device.bind fun _ => ?_
  change Keeps _ (do
    onlyIf (options.guards = true) (installRoutes surroundings)
    let result ← tunnelUntilEnd surroundings config.vpnTransport options.guards
    onlyIf (options.guards = true) (emit .removeRoutes)
    emit (.close "client shutdown")
    emit .waitIdle
    orLeave result)
  generalize options.guards = guards at kept
  have removes : Triple (RoutedAlong world routes guards guards)
      (onlyIf (guards = true) (emit .removeRoutes : Part Unit))
      (fun _ => RoutedAlong world routes guards false)
      (fun _ => RoutedAlong world routes guards false) := by
    apply Triple.onlyIf_clears
    rintro rfl
    exact triple_emit fun _ suits => RoutedAlong.remove suits
  exact (Triple.onlyIf_sets fun _ => installRoutes_along).bind fun _ =>
    tunnelUntilEnd_along.bind fun result => removes.bind fun _ =>
      (kept.emit rfl).bind fun _ => (kept.emit rfl).bind fun _ => keeps_ofExcept _

theorem clearStale_along :
    Keeps (RoutedAlong world routes guards false) (clearStale surroundings options) := by
  have clears : Keeps (RoutedAlong world routes guards false)
      (do
        let outcome ← perform surroundings.staleRoutes .staleRoutes
        orLeave outcome : Part Unit) := by
    refine (triple_perform fun log outcome suits => ?_).bind fun _ => keeps_ofExcept _
    exact RoutedAlong.outside suits rfl fun _ _ stands taken => stands.stale taken
  unfold clearStale
  split
  · exact (Triple.onlyIf_keeps fun _ => clears).bind fun _ => keeps_pure _
  · exact (Triple.onlyIf_keeps fun _ => keeps_throw _).bind fun _ => keeps_pure _

theorem connectAndUse_along :
    Keeps (RoutedAlong world routes options.guards false)
      (connectAndUse surroundings options config) := by
  have kept := @keptAside_routedAlong world routes options.guards
  unfold connectAndUse
  refine (keeps_ofExcept _).bind fun _ => (keeps_ofExcept _).bind fun planned =>
    (keeps_ofExcept _).bind fun _ => kept.connectClient.bind fun _ => keeps_chooseMode.bind
      fun mode => kept.clientAuthenticate.bind fun _ => ?_
  cases mode with
  | bench => exact kept.runBenchIterations
  | vpn =>
      simp only [useConnection]
      split
      · exact kept.runProbe
      · exact runVpn_along

theorem clientMain_along :
    Keeps (RoutedAlong world routes options.guards false)
      (clientMain surroundings options config) := by
  unfold clientMain
  refine (keeps_ofExcept _).bind fun _ => (keeps_ofExcept _).bind fun _ =>
    clearStale_along.bind fun finished => ?_
  cases finished with
  | true => exact keeps_pure _
  | false => exact connectAndUse_along

end Run

/-- In every run of the client whose route operations came out as their commands
did: at each of its effects, the guard is armed exactly if `main` installs routes
and the effect belongs to the tunnel; every other destination is as it was; and,
where the commands are performed, the armed guard routes everything through the
tunnel, and without it the three routes are gone or as they were. So it is at
every exit, too. -/
theorem routes_only_for_tunnel (world : RouteWorld) (routes : Routes)
    (surroundings : Surroundings) (options : Options) (config : ClientConfig) (left : Routing)
    (logged : Follows (routeReader world) ⟨none, routes⟩ left
      ((clientMain surroundings options config).runOn []).2) :
    Unrouted world routes left ∧
      ∀ before event after,
        ((clientMain surroundings options config).runOn []).2 = before ++ event :: after →
          ∃ routing, Follows (routeReader world) ⟨none, routes⟩ routing before ∧
            Stands world routes (options.guards && event.inTunnel) routing := by
  have start : Unrouted world routes ⟨none, routes⟩ :=
    ⟨rfl, .refl _ routes.table, fun _ _ _ => .inr rfl⟩
  have along := (@clientMain_along world routes surroundings options config).run (.nil start)
  refine ⟨along.now left logged, fun before event after same => ?_⟩
  rw [same] at logged
  obtain ⟨routing, reached, _⟩ := logged.split
  exact ⟨routing, reached, along.past before event after same routing reached⟩

/-- Surroundings in which everything succeeds and the user ends the tunnel. -/
def calmSurroundings : Surroundings where
  serverAddr := .ok ()
  token := .ok ()
  clientConfig := .ok ()
  maxDatagramSize _ := some 1400
  staleRoutes _ := .ok ()
  connect _ := .ok ()
  authenticate _ := .ok ()
  bench _ := .error []
  device _ := .ok ()
  installRoutes _ := .ok ()
  openUni _ := .ok ()
  acceptUni _ := .ok ()
  tunnel _ := .shutdown (.ok ())

/-- Performed commands, and no route to begin with. -/
def emptyWorld : RouteWorld where
  fates _ := .performed
  netstat := .success []
  routeGet := gatewayLine
  server := .v4 ⟨161, 33, 36, 181⟩
  serverTunIp := ⟨10, 8, 0, 1⟩

/-- The lower half goes through the tunnel while there is one, and not behind it. -/
theorem routes_only_for_tunnel_shutdown :
    ∃ before after routing left,
      ((clientMain calmSurroundings {} {}).runOn []).2 =
        before ++ .tunnel (.shutdown (.ok ())) :: after ∧
      Follows (routeReader emptyWorld) ⟨none, ⟨fun _ => none, []⟩⟩ routing before ∧
      routing.routes.table lowHalf = some ⟨10, 8, 0, 1⟩ ∧
      Follows (routeReader emptyWorld) ⟨none, ⟨fun _ => none, []⟩⟩ left
        ((clientMain calmSurroundings {} {}).runOn []).2 ∧
      left.routes.table lowHalf = none := by
  have log : ((clientMain calmSurroundings {} {}).runOn []).2 =
      [.staleRoutes (.ok ()), .attempt (.ok ()), .authenticate .vpn (.ok ()), .device (.ok ()),
        .installRoutes (.ok ())] ++ .tunnel (.shutdown (.ok ())) ::
          [.removeRoutes, .close "client shutdown", .waitIdle] := by
    rfl
  have reads : ((routeReader emptyWorld).run ⟨none, ⟨fun _ => none, []⟩⟩
      ((clientMain calmSurroundings {} {}).runOn []).2).isSome = true := by
    decide +kernel
  obtain ⟨left, logged⟩ := Option.isSome_iff_exists.mp reads
  obtain ⟨unrouted, places⟩ :=
    routes_only_for_tunnel emptyWorld ⟨fun _ => none, []⟩ calmSurroundings {} {} left logged
  obtain ⟨routing, reached, guard, guarded⟩ := places _ _ _ log
  refine ⟨_, _, routing, left, log, reached, (guarded.routed fun _ => rfl).low, logged, ?_⟩
  rcases unrouted.own (fun _ => rfl) lowHalf (by decide) with gone | kept
  · exact gone
  · exact kept

end LiteVpn.Client
