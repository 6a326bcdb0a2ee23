import LiteVpn.Client.RouteLifetime

/-!
# Recovery of the routes after a crash

A client that is killed runs no guard: it leaves the routing table as its last
command left it. The next start finds what is left through `netstat` and removes
it. However often clients were killed, and behind whichever of their commands,
one removal of stale routes that returns `Ok` leaves none of the three routes to
its own server, and everything else as it was before the first client, except for
host routes to other servers.
-/

namespace LiteVpn.Client

open LiteVpn.Strings
open LiteVpn.Core
open LiteVpn.Semantics

/-- Issue commands in order, whatever they report. -/
def replay (fates : Nat → Fate) (commands : List RouteCommand) (routes : Routes) : Routes :=
  commands.foldl (fun routes command => (routes.issue fates command).2) routes

/-- The commands that one run of `main` issues. -/
def commandsOf (fates : Nat → Fate) (inputs : MainInputs) (routes : Routes) : List RouteCommand :=
  (main fates inputs routes).2.issued.drop routes.issued.length

/-- A client that is killed behind some of its commands. -/
structure Kill where
  fates : Nat → Fate
  inputs : MainInputs
  count : Nat

/-- The routes that a killed client leaves. -/
def Kill.leaves (kill : Kill) (routes : Routes) : Routes :=
  replay kill.fates ((commandsOf kill.fates kill.inputs routes).take kill.count) routes

/-- Clients that are started and killed one after the other. -/
def afterKills (kills : List Kill) (routes : Routes) : Routes :=
  kills.foldl (fun routes kill => kill.leaves routes) routes

/-- The ways in which `netstat` writes the three destinations. -/
def Destination.spellings (destination : Destination) : List Text :=
  if destination = lowHalf then ["0/1".toList, "0.0.0.0/1".toList]
  else if destination = highHalf then ["128.0/1".toList, "128.0.0.0/1".toList]
  else
    match destination with
    | .host addr => [addr.display, addr.display ++ "/32".toList]
    | .net _ _ => []

/-- What `netstat` prints has a line for each of the three routes that is there. -/
def Shows (serverIp : Ipv4Addr) (stdout : Text) (table : RoutingTable) : Prop :=
  ∀ destination ∈ litevpnDestinations serverIp, table destination ≠ none →
    ∃ line ∈ lines stdout, ∃ word ∈ destination.spellings,
      (splitWhitespace line).head? = some word

section Replay

variable {fates : Nat → Fate} {keys : Destination → Prop} {first second third routes : Routes}

theorem replay_append (commands further : List RouteCommand) :
    replay fates (commands ++ further) routes =
      replay fates further (replay fates commands routes) :=
  List.foldl_append

theorem replay_issued (commands : List RouteCommand) :
    (replay fates commands routes).issued = routes.issued ++ commands := by
  induction commands generalizing routes with
  | nil => simp [replay]
  | cons command rest inductionHypothesis =>
      have later := @inductionHypothesis (routes.issue fates command).2
      rw [issue_issued, List.append_assoc] at later
      exact later

/-- The second routes come from the first by commands about `keys`. -/
def Replays (fates : Nat → Fate) (keys : Destination → Prop) (first second : Routes) : Prop :=
  ∃ commands, (∀ command ∈ commands, keys command.destination) ∧
    replay fates commands first = second

theorem Replays.refl (routes : Routes) : Replays fates keys routes routes :=
  ⟨[], by simp, rfl⟩

theorem Replays.trans (before : Replays fates keys first second)
    (after : Replays fates keys second third) : Replays fates keys first third := by
  obtain ⟨commands, inside, rfl⟩ := before
  obtain ⟨further, insideToo, rfl⟩ := after
  refine ⟨commands ++ further, ?_, replay_append commands further⟩
  intro command member
  exact (List.mem_append.mp member).elim (inside command) (insideToo command)

theorem replays_deleteRoute {destination : Destination} (inside : keys destination) :
    Replays fates keys routes (deleteRoute fates destination routes).2 := by
  rw [deleteRoute_snd]
  exact ⟨[.delete destination], by simpa [RouteCommand.destination] using inside, rfl⟩

theorem replays_runRoute {destination : Destination} {gateway : Ipv4Addr}
    (inside : keys destination) :
    Replays fates keys routes (runRoute fates destination gateway routes).2 := by
  rw [runRoute_snd]
  exact ⟨[.add destination gateway], by simpa [RouteCommand.destination] using inside, rfl⟩

theorem replays_runRoutes {wanted : List (Destination × Ipv4Addr)}
    (inside : ∀ route ∈ wanted, keys route.1) :
    Replays fates keys routes (runRoutes fates wanted routes).2 := by
  induction wanted generalizing routes with
  | nil => exact .refl routes
  | cons route rest inductionHypothesis =>
      obtain ⟨destination, gateway⟩ := route
      rw [List.forall_mem_cons] at inside
      have added : Replays fates keys routes (runRoute fates destination gateway routes).2 :=
        replays_runRoute inside.1
      simp only [runRoutes]
      split <;> rename_i same <;> rw [same] at added
      · exact added
      · exact added.trans (inductionHypothesis inside.2)

theorem replays_cleanupRoutes (serverIp : Ipv4Addr) :
    Replays fates (· ∈ litevpnDestinations serverIp) routes
      (cleanupRoutes fates serverIp routes).2 := by
  have low : lowHalf ∈ litevpnDestinations serverIp := by simp [litevpnDestinations]
  have high : highHalf ∈ litevpnDestinations serverIp := by simp [litevpnDestinations]
  have host : .host serverIp ∈ litevpnDestinations serverIp := by simp [litevpnDestinations]
  exact ((replays_deleteRoute low).trans (replays_deleteRoute high)).trans
    (replays_deleteRoute host)

theorem replays_cleanupStale (netstat : Printed) (server : IpAddr) :
    Replays fates (· ∈ server.destinations) routes
      (RouteGuard.cleanupStale fates netstat server routes).2 := by
  cases server with
  | v6 => exact .refl routes
  | v4 serverIp =>
      have cleaned : Replays fates (· ∈ litevpnDestinations serverIp) routes
        (cleanupRoutes fates serverIp routes).2 := replays_cleanupRoutes serverIp
      simp only [RouteGuard.cleanupStale]
      split
      · exact .refl routes
      · exact .refl routes
      · split <;> rename_i same <;> rw [same] at cleaned <;> exact cleaned

theorem replays_install (printed : Printed) (server : IpAddr) (vpnGateway : Ipv4Addr) :
    Replays fates (· ∈ server.destinations) routes
      (RouteGuard.install fates printed server vpnGateway routes).2 := by
  cases server with
  | v6 => exact .refl routes
  | v4 serverIp =>
      cases found : defaultGateway printed with
      | error error =>
          simp only [RouteGuard.install, found]
          exact .refl routes
      | ok gateway =>
          have inside : ∀ route ∈ wantedRoutes serverIp gateway vpnGateway,
              route.1 ∈ litevpnDestinations serverIp := by
            simp [wantedRoutes, litevpnDestinations]
          have added : Replays fates (· ∈ litevpnDestinations serverIp) routes
              (runRoutes fates (wantedRoutes serverIp gateway vpnGateway)
                (cleanupRoutes fates serverIp routes).2).2 :=
            (replays_cleanupRoutes serverIp).trans (replays_runRoutes inside)
          simp only [RouteGuard.install, found]
          split <;> rename_i same <;> rw [same] at added
          · exact added.trans (replays_cleanupRoutes serverIp)
          · exact added

theorem replays_connectAndServe (inputs : MainInputs) :
    Replays fates (· ∈ inputs.server.destinations) routes
      (connectAndServe fates inputs routes).2 := by
  have installs := @replays_install fates routes inputs.routeGet inputs.server inputs.serverTunIp
  unfold connectAndServe
  split
  · exact .refl routes
  · exact .refl routes
  · split
    · split <;> rename_i returned
      · rw [returned] at installs
        exact installs
      · obtain ⟨server, armed⟩ := install_guard returned
        rw [returned] at installs
        rw [serve_snd armed]
        refine installs.trans ?_
        rw [server]
        exact replays_cleanupRoutes _
    · rw [serve_none]
      exact .refl routes

/-- Everything that `main` does to the routes, it does by commands about the
destinations of its server. -/
theorem replays_main (inputs : MainInputs) :
    Replays fates (· ∈ inputs.server.destinations) routes (main fates inputs routes).2 := by
  have stale := @replays_cleanupStale fates routes inputs.netstat inputs.server
  unfold main
  split
  · split <;> rename_i same <;> rw [same] at stale
    · exact stale
    · split
      · exact stale
      · exact stale.trans (replays_connectAndServe inputs)
  · exact replays_connectAndServe inputs

/-- The commands of a run are about the destinations of its server and lead to
its end: a client that is killed behind all of them was not killed at all. -/
theorem commandsOf_spec (fates : Nat → Fate) (inputs : MainInputs) (routes : Routes) :
    (∀ command ∈ commandsOf fates inputs routes,
      command.destination ∈ inputs.server.destinations) ∧
      replay fates (commandsOf fates inputs routes) routes = (main fates inputs routes).2 := by
  obtain ⟨commands, inside, reached⟩ := @replays_main fates routes inputs
  have issued : commandsOf fates inputs routes = commands := by
    rw [commandsOf, ← reached, replay_issued, List.drop_left]
  rw [issued]
  exact ⟨inside, reached⟩

end Replay

section Recovery

variable {serverIp : Ipv4Addr} {routes : Routes}

/-- A replay changes at most the destinations of its commands. -/
theorem changesOnly_replay {fates : Nat → Fate} {keys : Destination → Prop}
    {commands : List RouteCommand} (inside : ∀ command ∈ commands, keys command.destination) :
    ChangesOnly keys routes.table (replay fates commands routes).table := by
  induction commands generalizing routes with
  | nil => exact .refl keys routes.table
  | cons command rest inductionHypothesis =>
      rw [List.forall_mem_cons] at inside
      exact (changesOnly_issue inside.1).trans (inductionHypothesis inside.2)

theorem changesOnly_kill (kill : Kill) (routes : Routes) :
    ChangesOnly (· ∈ kill.inputs.server.destinations) routes.table (kill.leaves routes).table := by
  apply changesOnly_replay
  intro command member
  exact (commandsOf_spec kill.fates kill.inputs routes).1 command (List.mem_of_mem_take member)

/-- Killed clients together change at most the destinations of their servers. -/
theorem changesOnly_afterKills (kills : List Kill) (routes : Routes) :
    ChangesOnly (fun destination => ∃ kill ∈ kills, destination ∈ kill.inputs.server.destinations)
      routes.table (afterKills kills routes).table := by
  induction kills generalizing routes with
  | nil => exact .refl _ routes.table
  | cons kill rest inductionHypothesis =>
      intro destination outside
      have later := inductionHypothesis (kill.leaves routes) destination fun ⟨other, member, inside⟩ =>
        outside ⟨other, List.mem_cons_of_mem _ member, inside⟩
      have now := changesOnly_kill kill routes destination fun inside =>
        outside ⟨kill, List.mem_cons_self, inside⟩
      exact later.trans now

/-- A destination that the program knows by the name `netstat` gives it. -/
theorem isLitevpnRouteDestination_of_mem {destination : Destination} {word : Text}
    (member : destination ∈ litevpnDestinations serverIp)
    (spelled : word ∈ destination.spellings) :
    isLitevpnRouteDestination word serverIp = true := by
  simp only [litevpnDestinations, List.mem_cons, List.not_mem_nil, or_false] at member
  rcases member with rfl | rfl | rfl
  · simp only [Destination.spellings, if_true, List.mem_cons, List.not_mem_nil, or_false]
      at spelled
    rcases spelled with rfl | rfl <;> simp [isLitevpnRouteDestination]
  · simp only [Destination.spellings, if_neg (Ne.symm lowHalf_ne_highHalf), if_true,
      List.mem_cons, List.not_mem_nil, or_false] at spelled
    rcases spelled with rfl | rfl <;> simp [isLitevpnRouteDestination]
  · simp only [Destination.spellings, if_neg (Ne.symm (lowHalf_ne_host serverIp)),
      if_neg (Ne.symm (highHalf_ne_host serverIp)), List.mem_cons, List.not_mem_nil, or_false]
      at spelled
    rcases spelled with rfl | rfl <;> simp [isLitevpnRouteDestination]

/-- If one of the three routes is there, the program finds it in the listing. -/
theorem staleRoutesPresent_of_shows {stdout : Text} {table : RoutingTable}
    (shows : Shows serverIp stdout table) {destination : Destination}
    (member : destination ∈ litevpnDestinations serverIp) (there : table destination ≠ none) :
    staleRoutesPresent serverIp (.success stdout) = .ok true := by
  obtain ⟨line, listed, word, spelled, starts⟩ := shows destination member there
  simp only [staleRoutesPresent, Except.ok.injEq, List.any_eq_true]
  refine ⟨line, listed, ?_⟩
  rw [starts]
  exact isLitevpnRouteDestination_of_mem member spelled

/-- A removal of stale routes that returns no error has left none of the three. -/
theorem cleanupStale_leaves_none {fates : Nat → Fate} {stdout : Text} {after : Routes}
    (shows : Shows serverIp stdout routes.table)
    (returned : RouteGuard.cleanupStale fates (.success stdout) (.v4 serverIp) routes =
      (.ok (), after)) {destination : Destination}
    (member : destination ∈ litevpnDestinations serverIp) : after.table destination = none := by
  cases present : staleRoutesPresent serverIp (.success stdout) with
  | error error => cases present
  | ok some =>
      cases some with
      | true => exact cleanupStale_removes present returned member
      | false =>
          simp only [RouteGuard.cleanupStale, present] at returned
          cases returned
          by_contra there
          have found := staleRoutesPresent_of_shows shows member there
          rw [present] at found
          cases found

/-- Where every command is performed, the removal returns no error. -/
theorem cleanupStale_returns {fates : Nat → Fate} (performed : ∀ number, fates number = .performed)
    (stdout : Text) (serverIp : Ipv4Addr) (routes : Routes) :
    ∃ after, RouteGuard.cleanupStale fates (.success stdout) (.v4 serverIp) routes =
      (.ok (), after) := by
  have deletes : ∀ destination routes, (deleteRoute fates destination routes).1 = true := by
    intro destination routes
    unfold deleteRoute Routes.issue
    rw [performed]
    cases found : routes.table destination with
    | some old => simp only [RouteCommand.perform, found]
    | none =>
        simp only [RouteCommand.perform, found]
        exact decide_eq_true (List.suffix_append routingSocket notInTable).isInfix
  have cleans : (cleanupRoutes fates serverIp routes).1 = true := by
    simp only [cleanupRoutes, deletes, Bool.and_self]
  cases present : staleRoutesPresent serverIp (.success stdout) with
  | error error => cases present
  | ok some =>
      cases some with
      | false => exact ⟨routes, by simp only [RouteGuard.cleanupStale, present]⟩
      | true =>
          cases cleaned : cleanupRoutes fates serverIp routes with
          | mk clean after =>
              rw [cleaned] at cleans
              cases cleans
              exact ⟨after, by simp only [RouteGuard.cleanupStale, present, cleaned]⟩

end Recovery

/-- However many clients were killed, and behind whichever of their commands: with
a listing that shows what is there, a removal of stale routes that returns `Ok`
has left none of the three routes to its server, and what differs from the table
before the first client is a route to its server or a host route to another one.
It returns `Ok` whenever its commands are performed. -/
theorem recovers_after_kills (kills : List Kill) (routes : Routes) (fates : Nat → Fate)
    (stdout : Text) (serverIp : Ipv4Addr)
    (shows : Shows serverIp stdout (afterKills kills routes).table) :
    (∀ after, RouteGuard.cleanupStale fates (.success stdout) (.v4 serverIp)
        (afterKills kills routes) = (.ok (), after) →
      (∀ destination ∈ litevpnDestinations serverIp, after.table destination = none) ∧
      ∀ destination, after.table destination ≠ routes.table destination →
        destination ∈ litevpnDestinations serverIp ∨
          ∃ kill ∈ kills, ∃ other, kill.inputs.server = .v4 other ∧ destination = .host other) ∧
    ((∀ number, fates number = .performed) →
      ∃ after, RouteGuard.cleanupStale fates (.success stdout) (.v4 serverIp)
        (afterKills kills routes) = (.ok (), after)) := by
  refine ⟨fun after returned => ⟨fun destination member => ?_, fun destination differs => ?_⟩,
    fun performed => cleanupStale_returns performed stdout serverIp _⟩
  · exact cleanupStale_leaves_none shows returned member
  · by_contra outside
    rw [not_or] at outside
    apply differs
    have stale := @changesOnly_cleanupStale fates (afterKills kills routes) (.success stdout)
      (.v4 serverIp) destination outside.1
    rw [returned] at stale
    refine stale.trans (changesOnly_afterKills kills routes destination ?_)
    rintro ⟨kill, member, inside⟩
    cases server : kill.inputs.server with
    | v6 =>
        rw [server] at inside
        cases inside
    | v4 other =>
        rw [server] at inside
        simp only [IpAddr.destinations, litevpnDestinations, List.mem_cons, List.not_mem_nil,
          or_false] at inside
        rcases inside with rfl | rfl | rfl
        · exact outside.1 (by simp [litevpnDestinations])
        · exact outside.1 (by simp [litevpnDestinations])
        · exact outside.2 ⟨kill, member, other, server, rfl⟩

/-- A client that was killed right behind its installation. -/
def killedInTunnel : Kill where
  fates _ := .performed
  inputs := acceptFails
  count := 6

/-- The listing behind it. -/
def listedRoutes : Text :=
  ("0/1 10.8.0.1 UGSc utun4\n128.0/1 10.8.0.1 UGSc utun4\n" ++
    "161.33.36.181 192.168.35.1 UGHS en0\n").toList

/-- The next start finds the routes of the killed client and removes them. -/
theorem recovers_after_kills_tunnel :
    (afterKills [killedInTunnel] ⟨fun _ => none, []⟩).table lowHalf = some ⟨10, 8, 0, 1⟩ ∧
      ∃ after, RouteGuard.cleanupStale (fun _ => .performed) (.success listedRoutes)
          (.v4 ⟨161, 33, 36, 181⟩) (afterKills [killedInTunnel] ⟨fun _ => none, []⟩) =
        (.ok (), after) ∧ after.table lowHalf = none := by
  have shows : Shows ⟨161, 33, 36, 181⟩ listedRoutes
      (afterKills [killedInTunnel] ⟨fun _ => none, []⟩).table := by
    intro destination member _
    simp only [litevpnDestinations, List.mem_cons, List.not_mem_nil, or_false] at member
    rcases member with rfl | rfl | rfl
    · exact ⟨"0/1 10.8.0.1 UGSc utun4".toList, by decide +kernel, "0/1".toList,
        by decide +kernel, by decide +kernel⟩
    · exact ⟨"128.0/1 10.8.0.1 UGSc utun4".toList, by decide +kernel, "128.0/1".toList,
        by decide +kernel, by decide +kernel⟩
    · exact ⟨"161.33.36.181 192.168.35.1 UGHS en0".toList, by decide +kernel,
        "161.33.36.181".toList, by decide +kernel, by decide +kernel⟩
  obtain ⟨recovers, returns⟩ := recovers_after_kills [killedInTunnel] ⟨fun _ => none, []⟩
    (fun _ => .performed) listedRoutes ⟨161, 33, 36, 181⟩ shows
  obtain ⟨after, returned⟩ := returns fun _ => rfl
  exact ⟨by decide +kernel, after, returned,
    (recovers after returned).1 lowHalf (by simp [litevpnDestinations])⟩

end LiteVpn.Client
