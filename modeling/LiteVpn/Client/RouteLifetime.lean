import LiteVpn.Client.RouteInstall
import LiteVpn.Core.Config
import LiteVpn.Semantics.Frame

/-!
# The routes from the client's start to its exit

The client's `main` on macOS, as far as it touches routes: it removes stale
ones, installs its own once the tunnel device is there, and removes them when
the tunnel ends. The guard is dropped on every way out, and both `cleanup` and
the drop go through the same flag. A failed installation tries to delete all it
may have added. The model starts with the server's address parsed; panics abort
the program and are no way out of `main`.
-/

namespace LiteVpn.Client

open LiteVpn.Strings
open LiteVpn.Core
open LiteVpn.Semantics

/-- Which arm of the `select!` ended the tunnel, and with what. -/
inductive TunnelEnd where
  | up (result : Except Text Unit)
  | down (result : Except Text Unit)
  | shutdown (result : Except Text Unit)

/-- `shutdown_result`. -/
def shutdownResult : Except Text Unit → Except Text Unit
  | .ok () => .ok ()
  | .error error => .error error

def TunnelEnd.result : TunnelEnd → Except Text Unit
  | .up result => result
  | .down result => result
  | .shutdown result => shutdownResult result

/-- What comes of the stages between the removal of stale routes and the
installation: loading the token, the checks, connecting, authenticating, a bench
or a probe, which end the program, and the tunnel device. -/
inductive Setup where
  | failed (reason : Text)
  | finished
  | ready

/-- The reasons for which `main` returns an error. -/
inductive MainError where
  | route (error : RouteError)
  | setup (reason : Text)
  | openStream (reason : Text)
  | acceptStream (reason : Text)
  | tunnel (reason : Text)

/-- The context that `main` itself puts on an error. -/
def MainError.context : MainError → Option String
  | .openStream _ => "failed to open client packet stream"
  | .acceptStream _ => "failed to accept server packet stream"
  | _ => none

/-- The options, the configuration and the surroundings of one run of `main`. -/
structure MainInputs where
  cleanupRoutes : Bool
  routeAll : Bool
  noRoutes : Bool
  vpnTransport : VpnTransportMode
  server : IpAddr
  serverTunIp : Ipv4Addr
  netstat : Printed
  routeGet : Printed
  setup : Setup
  opened : Except Text Unit
  accepted : Except Text Unit
  ended : TunnelEnd

/-- The tunnel: its result, or an error that leaves `main` before it began. -/
def runTunnel (inputs : MainInputs) : Except MainError (Except Text Unit) :=
  match inputs.vpnTransport with
  | .datagram => .ok inputs.ended.result
  | .stream =>
      match inputs.opened, inputs.accepted with
      | .error reason, _ => .error (.openStream reason)
      | .ok (), .error reason => .error (.acceptStream reason)
      | .ok (), .ok () => .ok inputs.ended.result

/-- `routes.cleanup()` on the guard, if there is one. -/
def cleanupGuard (fates : Nat → Fate) :
    Option RouteGuard → Routes → Option RouteGuard × Routes
  | none, routes => (none, routes)
  | some guard, routes =>
      let cleaned := guard.cleanup fates routes
      (some cleaned.1, cleaned.2)

/-- The guard goes out of scope: `Drop` calls `cleanup`. -/
def dropGuard (fates : Nat → Fate) (guard : Option RouteGuard) (routes : Routes) : Routes :=
  (cleanupGuard fates guard routes).2

/-- The rest of `main` behind the installation. -/
def serve (fates : Nat → Fate) (inputs : MainInputs) (guard : Option RouteGuard)
    (routes : Routes) : Except MainError Unit × Routes :=
  match runTunnel inputs with
  | .error error => (.error error, dropGuard fates guard routes)
  | .ok result =>
      let cleaned := cleanupGuard fates guard routes
      (result.mapError .tunnel, dropGuard fates cleaned.1 cleaned.2)

/-- The rest of `main` behind the removal of stale routes. -/
def connectAndServe (fates : Nat → Fate) (inputs : MainInputs) (routes : Routes) :
    Except MainError Unit × Routes :=
  match inputs.setup with
  | .failed reason => (.error (.setup reason), routes)
  | .finished => (.ok (), routes)
  | .ready =>
      if inputs.routeAll && !inputs.noRoutes then
        match RouteGuard.install fates inputs.routeGet inputs.server inputs.serverTunIp routes with
        | (.error error, after) => (.error (.route error), after)
        | (.ok guard, after) => serve fates inputs (some guard) after
      else serve fates inputs none routes

/-- `main`. -/
def main (fates : Nat → Fate) (inputs : MainInputs) (routes : Routes) :
    Except MainError Unit × Routes :=
  if inputs.cleanupRoutes || (inputs.routeAll && !inputs.noRoutes) then
    match RouteGuard.cleanupStale fates inputs.netstat inputs.server routes with
    | (.error error, after) => (.error (.route error), after)
    | (.ok (), after) =>
        if inputs.cleanupRoutes then (.ok (), after) else connectAndServe fates inputs after
  else connectAndServe fates inputs routes

/-- The routes as `main` finds them when it calls `install`, if it gets there. -/
def reachesInstall (fates : Nat → Fate) (inputs : MainInputs) (routes : Routes) : Option Routes :=
  match RouteGuard.cleanupStale fates inputs.netstat inputs.server routes, inputs.setup with
  | (.ok (), after), .ready =>
      if (inputs.routeAll && !inputs.noRoutes) && !inputs.cleanupRoutes then some after else none
  | _, _ => none

/-- The three destinations of a client, in the order in which they are deleted. -/
def litevpnDestinations (serverIp : Ipv4Addr) : List Destination :=
  [lowHalf, highHalf, .host serverIp]

/-- The destinations that the routes to a server concern. -/
def IpAddr.destinations : IpAddr → List Destination
  | .v4 serverIp => litevpnDestinations serverIp
  | .v6 => []

/-- Each deletion of `cleanup_routes` with its result. -/
def cleanupResults (fates : Nat → Fate) (serverIp : Ipv4Addr) (routes : Routes) :
    List (Destination × Bool) :=
  let first := deleteRoute fates lowHalf routes
  let second := deleteRoute fates highHalf first.2
  let third := deleteRoute fates (.host serverIp) second.2
  [(lowHalf, first.1), (highHalf, second.1), (.host serverIp, third.1)]

/-- An installation that fails at one of its additions has rolled back: whatever
is left of the three destinations is what the rollback failed to delete. -/
def RollsBack (fates : Nat → Fate) (printed : Printed) (server : IpAddr) (vpnGateway : Ipv4Addr)
    (routes : Routes) : Prop :=
  ∀ serverIp gateway error after, server = .v4 serverIp → defaultGateway printed = .ok gateway →
    RouteGuard.install fates printed server vpnGateway routes = (.error error, after) →
      ∃ added,
        runRoutes fates (wantedRoutes serverIp gateway vpnGateway)
          (cleanupRoutes fates serverIp routes).2 = (.error error, added) ∧
        after = (cleanupRoutes fates serverIp added).2 ∧
        ∀ destination ∈ litevpnDestinations serverIp, after.table destination ≠ none →
          (destination, false) ∈ cleanupResults fates serverIp added

/-- Behind a successful installation `main` issues the three deletions, each of
them once, and no other command. A run that gets to no installation leaves the
routes as it found them, or as the removal of stale ones left them. -/
structure CleansOnce (fates : Nat → Fate) (inputs : MainInputs) (routes : Routes) : Prop where
  once : ∀ before guard installed, reachesInstall fates inputs routes = some before →
    RouteGuard.install fates inputs.routeGet inputs.server inputs.serverTunIp before =
        (.ok guard, installed) →
      inputs.server = .v4 guard.serverIp ∧
        (main fates inputs routes).2.issued =
          installed.issued ++ (litevpnDestinations guard.serverIp).map .delete
  none : reachesInstall fates inputs routes = none →
    (main fates inputs routes).2 = routes ∨
      (main fates inputs routes).2 =
        (RouteGuard.cleanupStale fates inputs.netstat inputs.server routes).2

/-- Every other destination keeps its entry in each of the operations. -/
structure KeepsOthers (fates : Nat → Fate) (inputs : MainInputs) (routes : Routes) : Prop where
  stale : ChangesOnly (· ∈ inputs.server.destinations) routes.table
    (RouteGuard.cleanupStale fates inputs.netstat inputs.server routes).2.table
  installed : ChangesOnly (· ∈ inputs.server.destinations) routes.table
    (RouteGuard.install fates inputs.routeGet inputs.server inputs.serverTunIp routes).2.table
  cleanup : ∀ guard : RouteGuard,
    ChangesOnly (· ∈ litevpnDestinations guard.serverIp) routes.table
      (guard.cleanup fates routes).2.table
  dropped : ∀ guard : RouteGuard,
    ChangesOnly (· ∈ litevpnDestinations guard.serverIp) routes.table
      (dropGuard fates (some guard) routes).table
  whole : ChangesOnly (· ∈ inputs.server.destinations) routes.table
    (main fates inputs routes).2.table

section Rollback

variable {fates : Nat → Fate} {routes : Routes} {destination : Destination}
  {serverIp gateway vpnGateway : Ipv4Addr}

/-- A destination that is still there behind its deletion is one whose deletion
failed. -/
theorem deleteRoute_failed
    (left : (deleteRoute fates destination routes).2.table destination ≠ none) :
    (deleteRoute fates destination routes).1 = false := by
  rw [deleteRoute_self, leftOver] at left
  unfold deleteRoute Routes.issue
  cases fate : fates routes.issued.length with
  | performed => simp [fate] at left
  | notRun => rfl
  | refused error => exact decide_eq_false error.notMissing

theorem cleanupRoutes_failed (member : destination ∈ litevpnDestinations serverIp)
    (left : (cleanupRoutes fates serverIp routes).2.table destination ≠ none) :
    (destination, false) ∈ cleanupResults fates serverIp routes := by
  simp only [cleanupRoutes] at left
  simp only [cleanupResults]
  -- The other two deletions of the cleaning leave the destination as it was.
  simp only [litevpnDestinations, List.mem_cons, List.not_mem_nil, or_false] at member
  rcases member with rfl | rfl | rfl
  · rw [deleteRoute_of_ne (lowHalf_ne_host serverIp), deleteRoute_of_ne lowHalf_ne_highHalf] at left
    rw [deleteRoute_failed left]
    simp
  · rw [deleteRoute_of_ne (highHalf_ne_host serverIp)] at left
    rw [deleteRoute_failed left]
    simp
  · rw [deleteRoute_failed left]
    simp

/-- `cleanup_routes` reports whether every deletion succeeded. -/
theorem cleanupRoutes_fst :
    (cleanupRoutes fates serverIp routes).1 =
      (cleanupResults fates serverIp routes).all Prod.snd := by
  simp [cleanupRoutes, cleanupResults, Bool.and_assoc]

/-- A removal of stale routes that found some and returns no error has left none. -/
theorem cleanupStale_removes {netstat : Printed} {after : Routes}
    (present : staleRoutesPresent serverIp netstat = .ok true)
    (returned : RouteGuard.cleanupStale fates netstat (.v4 serverIp) routes = (.ok (), after))
    (member : destination ∈ litevpnDestinations serverIp) : after.table destination = none := by
  simp only [RouteGuard.cleanupStale, present] at returned
  split at returned
  · rename_i cleaned
    cases returned
    have removed := @cleanupRoutes_fst fates routes serverIp
    rw [cleaned, eq_comm, List.all_eq_true] at removed
    by_contra left
    have there : (cleanupRoutes fates serverIp routes).2.table destination ≠ none := by
      rw [cleaned]
      exact left
    cases removed _ (cleanupRoutes_failed member there)
  · cases returned

theorem rollsBack (fates : Nat → Fate) (printed : Printed) (server : IpAddr)
    (vpnGateway : Ipv4Addr) (routes : Routes) :
    RollsBack fates printed server vpnGateway routes := by
  rintro serverIp gateway error after rfl found returned
  simp only [RouteGuard.install, found] at returned
  cases additions : runRoutes fates (wantedRoutes serverIp gateway vpnGateway)
      (cleanupRoutes fates serverIp routes).2 with
  | mk result added =>
      rw [additions] at returned
      cases result with
      | ok done => cases returned
      | error failure =>
          cases returned
          exact ⟨added, rfl, rfl, fun destination member left => cleanupRoutes_failed member left⟩

end Rollback

section Once

variable {fates : Nat → Fate} {inputs : MainInputs} {routes before installed : Routes}
  {guard : RouteGuard}

/-- The guard of an installation knows its server and is armed. -/
theorem install_guard {printed : Printed} {server : IpAddr} {vpnGateway : Ipv4Addr}
    (returned : RouteGuard.install fates printed server vpnGateway routes =
      (.ok guard, installed)) :
    server = .v4 guard.serverIp ∧ guard.installed = true := by
  unfold RouteGuard.install at returned
  split at returned
  · cases returned
  · split at returned
    · cases returned
    · simp only at returned
      split at returned
      · cases returned
      · cases returned
        exact ⟨rfl, rfl⟩

/-- Cleaning up an armed guard issues the three deletions and disarms it. -/
theorem cleanup_armed (armed : guard.installed = true) :
    guard.cleanup fates routes =
      ({ guard with installed := false }, (cleanupRoutes fates guard.serverIp routes).2) := by
  rw [RouteGuard.cleanup, if_pos armed]

/-- Cleaning up a disarmed guard does nothing. -/
theorem cleanup_disarmed (disarmed : guard.installed = false) :
    guard.cleanup fates routes = (guard, routes) := by
  rw [RouteGuard.cleanup, if_neg (by simp [disarmed])]

/-- On both ways out of the tunnel an armed guard is cleaned up once: by its drop
in front of the tunnel, or by the call behind it, which leaves the drop nothing
to do. -/
theorem serve_snd (armed : guard.installed = true) :
    (serve fates inputs (some guard) routes).2 =
      (cleanupRoutes fates guard.serverIp routes).2 := by
  unfold serve
  cases runTunnel inputs with
  | error error => simp only [dropGuard, cleanupGuard, cleanup_armed armed]
  | ok result =>
      have disarmed : ({ guard with installed := false } : RouteGuard).installed = false := rfl
      simp only [dropGuard, cleanupGuard, cleanup_armed armed, cleanup_disarmed disarmed]

/-- A run that gets to the installation has passed every way out before it. -/
theorem main_of_reachesInstall (reached : reachesInstall fates inputs routes = some before) :
    main fates inputs routes =
      match RouteGuard.install fates inputs.routeGet inputs.server inputs.serverTunIp before with
      | (.error error, after) => (.error (.route error), after)
      | (.ok guard, after) => serve fates inputs (some guard) after := by
  unfold reachesInstall at reached
  split at reached
  · rename_i stale ready
    split at reached
    · rename_i wanted
      cases reached
      simp only [Bool.and_eq_true, Bool.not_eq_true'] at wanted
      obtain ⟨⟨routeAll, noRoutes⟩, cleanupRoutes⟩ := wanted
      simp only [main, routeAll, noRoutes, cleanupRoutes, stale, connectAndServe, ready]
      rfl
    · cases reached
  · cases reached

/-- Without a guard the tunnel touches no route. -/
theorem serve_none : (serve fates inputs none routes).2 = routes := by
  unfold serve
  cases runTunnel inputs <;> rfl

/-- Without an installation to make, nothing behind the removal of stale routes
touches a route. -/
theorem connectAndServe_idle
    (idle : inputs.setup = .ready → (inputs.routeAll && !inputs.noRoutes) = false) :
    (connectAndServe fates inputs routes).2 = routes := by
  unfold connectAndServe
  split
  · rfl
  · rfl
  · rename_i ready
    rw [if_neg (by simp [idle ready]), serve_none]

/-- A run that does not get to the installation ends before it, or is not to
install routes at all. -/
theorem main_of_not_reachesInstall (stopped : reachesInstall fates inputs routes = none) :
    (main fates inputs routes).2 = routes ∨
      (main fates inputs routes).2 =
        (RouteGuard.cleanupStale fates inputs.netstat inputs.server routes).2 := by
  unfold main
  split
  · right
    cases stale : RouteGuard.cleanupStale fates inputs.netstat inputs.server routes with
    | mk result after =>
        cases result with
        | error error => rfl
        | ok done =>
            cases cleaning : inputs.cleanupRoutes with
            | true => rfl
            | false =>
                apply connectAndServe_idle
                intro ready
                simp only [reachesInstall, stale, ready, cleaning] at stopped
                simpa using stopped
  · rename_i unwanted
    left
    apply connectAndServe_idle
    intro _
    simp only [Bool.or_eq_true, not_or, Bool.not_eq_true] at unwanted
    exact unwanted.2

theorem cleansOnce (fates : Nat → Fate) (inputs : MainInputs) (routes : Routes) :
    CleansOnce fates inputs routes where
  once := by
    intro before guard installed reached returned
    obtain ⟨server, armed⟩ := install_guard returned
    refine ⟨server, ?_⟩
    rw [main_of_reachesInstall reached, returned]
    simp only [serve_snd armed, cleanupRoutes_issued]
    rfl
  none := main_of_not_reachesInstall

end Once

section Frame

variable {fates : Nat → Fate} {routes : Routes} {keys : Destination → Prop}

/-- What a command is about. -/
def RouteCommand.destination : RouteCommand → Destination
  | .add destination _ => destination
  | .delete destination => destination

theorem changesOnly_perform {command : RouteCommand} (inside : keys command.destination)
    (table : RoutingTable) : ChangesOnly keys table (command.perform table).2 := by
  cases command with
  | add destination gateway =>
      cases found : table destination with
      | none =>
          simp only [RouteCommand.perform, found]
          exact changesOnly_update inside table _
      | some old =>
          simp only [RouteCommand.perform, found]
          exact .refl keys table
  | delete destination =>
      cases found : table destination with
      | none =>
          simp only [RouteCommand.perform, found]
          exact .refl keys table
      | some old =>
          simp only [RouteCommand.perform, found]
          exact changesOnly_update inside table _

/-- A command changes at most its own destination. -/
theorem changesOnly_issue {command : RouteCommand} (inside : keys command.destination) :
    ChangesOnly keys routes.table (routes.issue fates command).2.table := by
  unfold Routes.issue
  cases fates routes.issued.length with
  | performed => exact changesOnly_perform inside routes.table
  | notRun => exact .refl keys routes.table
  | refused error => exact .refl keys routes.table

theorem changesOnly_deleteRoute {destination : Destination} (inside : keys destination) :
    ChangesOnly keys routes.table (deleteRoute fates destination routes).2.table := by
  rw [deleteRoute_snd]
  exact changesOnly_issue inside

theorem changesOnly_runRoute {destination : Destination} {gateway : Ipv4Addr}
    (inside : keys destination) :
    ChangesOnly keys routes.table (runRoute fates destination gateway routes).2.table := by
  rw [runRoute_snd]
  exact changesOnly_issue inside

/-- Additions one after the other change at most their own destinations, wherever
they stop. -/
theorem changesOnly_runRoutes {wanted : List (Destination × Ipv4Addr)}
    (inside : ∀ route ∈ wanted, keys route.1) :
    ChangesOnly keys routes.table (runRoutes fates wanted routes).2.table := by
  induction wanted generalizing routes with
  | nil => exact .refl keys routes.table
  | cons route rest inductionHypothesis =>
      obtain ⟨destination, gateway⟩ := route
      rw [List.forall_mem_cons] at inside
      have first : ChangesOnly keys routes.table
          (runRoute fates destination gateway routes).2.table := changesOnly_runRoute inside.1
      simp only [runRoutes]
      split <;> rename_i same <;> rw [same] at first
      · exact first
      · exact first.trans (inductionHypothesis inside.2)

theorem changesOnly_cleanupRoutes (serverIp : Ipv4Addr) :
    ChangesOnly (· ∈ litevpnDestinations serverIp) routes.table
      (cleanupRoutes fates serverIp routes).2.table := by
  have low : lowHalf ∈ litevpnDestinations serverIp := by simp [litevpnDestinations]
  have high : highHalf ∈ litevpnDestinations serverIp := by simp [litevpnDestinations]
  have host : .host serverIp ∈ litevpnDestinations serverIp := by simp [litevpnDestinations]
  exact ((changesOnly_deleteRoute low).trans (changesOnly_deleteRoute high)).trans
    (changesOnly_deleteRoute host)

theorem changesOnly_cleanupStale (netstat : Printed) (server : IpAddr) :
    ChangesOnly (· ∈ server.destinations) routes.table
      (RouteGuard.cleanupStale fates netstat server routes).2.table := by
  cases server with
  | v6 => exact .refl _ routes.table
  | v4 serverIp =>
      have cleaned : ChangesOnly (· ∈ litevpnDestinations serverIp) routes.table
        (cleanupRoutes fates serverIp routes).2.table := changesOnly_cleanupRoutes serverIp
      simp only [RouteGuard.cleanupStale]
      split
      · exact .refl _ routes.table
      · exact .refl _ routes.table
      · split <;> rename_i same <;> rw [same] at cleaned <;> exact cleaned

/-- An installation changes at most the three destinations, whether it succeeds,
fails in front of its commands or rolls back. -/
theorem changesOnly_install (printed : Printed) (server : IpAddr) (vpnGateway : Ipv4Addr) :
    ChangesOnly (· ∈ server.destinations) routes.table
      (RouteGuard.install fates printed server vpnGateway routes).2.table := by
  cases server with
  | v6 => exact .refl _ routes.table
  | v4 serverIp =>
      cases found : defaultGateway printed with
      | error error =>
          simp only [RouteGuard.install, found]
          exact .refl _ routes.table
      | ok gateway =>
          have cleaned : ChangesOnly (· ∈ litevpnDestinations serverIp) routes.table
            (cleanupRoutes fates serverIp routes).2.table := changesOnly_cleanupRoutes serverIp
          have inside : ∀ route ∈ wantedRoutes serverIp gateway vpnGateway,
              route.1 ∈ litevpnDestinations serverIp := by
            simp [wantedRoutes, litevpnDestinations]
          have added : ChangesOnly (· ∈ litevpnDestinations serverIp) routes.table
              (runRoutes fates (wantedRoutes serverIp gateway vpnGateway)
                (cleanupRoutes fates serverIp routes).2).2.table :=
            cleaned.trans (changesOnly_runRoutes inside)
          simp only [RouteGuard.install, found]
          split <;> rename_i same <;> rw [same] at added
          · exact added.trans (changesOnly_cleanupRoutes serverIp)
          · exact added

theorem changesOnly_cleanup (guard : RouteGuard) :
    ChangesOnly (· ∈ litevpnDestinations guard.serverIp) routes.table
      (guard.cleanup fates routes).2.table := by
  cases armed : guard.installed with
  | true =>
      rw [cleanup_armed armed]
      exact changesOnly_cleanupRoutes guard.serverIp
  | false =>
      rw [cleanup_disarmed armed]
      exact .refl _ routes.table

/-- Behind the removal of stale routes too, `main` changes at most the three
destinations. -/
theorem changesOnly_connectAndServe (inputs : MainInputs) :
    ChangesOnly (· ∈ inputs.server.destinations) routes.table
      (connectAndServe fates inputs routes).2.table := by
  have installs := @changesOnly_install fates routes inputs.routeGet inputs.server
    inputs.serverTunIp
  unfold connectAndServe
  split
  · exact .refl _ routes.table
  · exact .refl _ routes.table
  · split
    · split <;> rename_i returned
      · rw [returned] at installs
        exact installs
      · obtain ⟨server, armed⟩ := install_guard returned
        rw [returned] at installs
        rw [serve_snd armed]
        refine installs.trans ?_
        rw [server]
        exact changesOnly_cleanupRoutes _
    · rw [serve_none]
      exact .refl _ routes.table

theorem changesOnly_main (inputs : MainInputs) :
    ChangesOnly (· ∈ inputs.server.destinations) routes.table
      (main fates inputs routes).2.table := by
  have stale := @changesOnly_cleanupStale fates routes inputs.netstat inputs.server
  unfold main
  split
  · split <;> rename_i same <;> rw [same] at stale
    · exact stale
    · split
      · exact stale
      · exact stale.trans (changesOnly_connectAndServe inputs)
  · exact changesOnly_connectAndServe inputs

end Frame

/-- For every initial table and every pattern of command results: a failed
addition leaves of the three destinations only what its rollback failed to
delete; every way out of `main` behind an installation issues the three deletions
exactly once; and nothing that touches routes changes any other destination. -/
theorem routes_lifetime (fates : Nat → Fate) (inputs : MainInputs) (routes : Routes) :
    RollsBack fates inputs.routeGet inputs.server inputs.serverTunIp routes ∧
      CleansOnce fates inputs routes ∧ KeepsOthers fates inputs routes :=
  ⟨rollsBack fates inputs.routeGet inputs.server inputs.serverTunIp routes,
    cleansOnce fates inputs routes,
    { stale := changesOnly_cleanupStale inputs.netstat inputs.server
      installed := changesOnly_install inputs.routeGet inputs.server inputs.serverTunIp
      cleanup := changesOnly_cleanup
      dropped := changesOnly_cleanup
      whole := changesOnly_main inputs }⟩

/-- No stale routes, an installation, and a server that opens no packet stream. -/
def acceptFails : MainInputs where
  cleanupRoutes := false
  routeAll := true
  noRoutes := false
  vpnTransport := .stream
  server := .v4 ⟨161, 33, 36, 181⟩
  serverTunIp := ⟨10, 8, 0, 1⟩
  netstat := .success []
  routeGet := gatewayLine
  setup := .ready
  opened := .ok ()
  accepted := .error "closed".toList
  ended := .up (.ok ())

/-- The dropped guard deletes what the installation added. -/
theorem routes_lifetime_acceptFails :
    ∃ installed,
      RouteGuard.install (fun _ => .performed) gatewayLine acceptFails.server
          acceptFails.serverTunIp ⟨fun _ => none, []⟩ =
        (.ok ⟨⟨161, 33, 36, 181⟩, ⟨192, 168, 35, 1⟩, true⟩, installed) ∧
      (main (fun _ => .performed) acceptFails ⟨fun _ => none, []⟩).2.issued =
        installed.issued ++
          [.delete lowHalf, .delete highHalf, .delete (.host ⟨161, 33, 36, 181⟩)] := by
  have found : defaultGateway gatewayLine = .ok ⟨192, 168, 35, 1⟩ := by decide +kernel
  obtain ⟨installed, returned, _⟩ := @install_performed (fun _ => .performed) gatewayLine
    ⟨161, 33, 36, 181⟩ ⟨192, 168, 35, 1⟩ ⟨10, 8, 0, 1⟩ ⟨fun _ => none, []⟩ found (fun _ _ => rfl)
  have once := (routes_lifetime (fun _ => .performed) acceptFails ⟨fun _ => none, []⟩).2.1.once
    ⟨fun _ => none, []⟩ _ installed rfl returned
  exact ⟨installed, returned, once.2⟩

end LiteVpn.Client
