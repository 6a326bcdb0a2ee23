import LiteVpn.Client.Routes

/-!
# When an installation routes the right way

A successful `install` leaves each of its destinations with some gateway, but not
always with its own: a route that the cleaning in front could not delete is
found by `route add`, whose refusal counts as success. This module says what the
commands do to the table, and from that exactly when the installed routes are
the wanted ones.
-/

namespace LiteVpn.Client

/-- The table behind a route that was added if it was missing. -/
def fillRoute (table : RoutingTable) (route : Destination × Ipv4Addr) : RoutingTable :=
  Function.update table route.1 (some ((table route.1).getD route.2))

/-- What the cleaning leaves of a destination whose deletion has the given fate. -/
def leftOver (fate : Fate) (gateway : Option Ipv4Addr) : Option Ipv4Addr :=
  if fate = .performed then none else gateway

/-- The destination is in the way of no route through the gateway: its deletion in
front of the installation is performed, or the table does not have it, or has it
through that gateway already. -/
def Clears (fates : Nat → Fate) (routes : Routes) (number : Nat) (destination : Destination)
    (gateway : Ipv4Addr) : Prop :=
  fates (routes.issued.length + number) = .performed ∨ routes.table destination = none ∨
    routes.table destination = some gateway

/-- No route that the cleaning leaves behind has another gateway. -/
structure Unobstructed (fates : Nat → Fate) (routes : Routes)
    (serverIp gateway vpnGateway : Ipv4Addr) : Prop where
  low : Clears fates routes 0 lowHalf vpnGateway
  high : Clears fates routes 1 highHalf vpnGateway
  host : Clears fates routes 2 (.host serverIp) gateway

/-- Everything goes through the tunnel, except what goes to the server. -/
structure Routed (table : RoutingTable) (serverIp gateway vpnGateway : Ipv4Addr) : Prop where
  low : table lowHalf = some vpnGateway
  high : table highHalf = some vpnGateway
  host : table (.host serverIp) = some gateway

/-- An installation that returns a guard has routed the right way. -/
def RoutesRight (fates : Nat → Fate) (printed : Printed) (server : IpAddr)
    (vpnGateway : Ipv4Addr) (routes : Routes) : Prop :=
  ∀ guard after, RouteGuard.install fates printed server vpnGateway routes = (.ok guard, after) →
    ∃ serverIp gateway, server = .v4 serverIp ∧ defaultGateway printed = .ok gateway ∧
      Routed after.table serverIp gateway vpnGateway

theorem lowHalf_ne_highHalf : lowHalf ≠ highHalf := by decide

theorem lowHalf_ne_host (addr : Ipv4Addr) : lowHalf ≠ .host addr := by simp [lowHalf]

theorem highHalf_ne_host (addr : Ipv4Addr) : highHalf ≠ .host addr := by simp [highHalf]

section Commands

variable {fates : Nat → Fate} {routes : Routes} {destination other : Destination}
  {gateway : Ipv4Addr}

@[simp] theorem issue_issued (command : RouteCommand) :
    (routes.issue fates command).2.issued = routes.issued ++ [command] := by
  unfold Routes.issue
  cases fates routes.issued.length <;> rfl

/-- Whatever a deletion reports, the routes behind it are those of its command. -/
theorem deleteRoute_snd :
    (deleteRoute fates destination routes).2 =
      (routes.issue fates (.delete destination)).2 := by
  unfold deleteRoute
  split <;> rename_i same <;> rw [same]

/-- Whatever an addition returns, the routes behind it are those of its command. -/
theorem runRoute_snd :
    (runRoute fates destination gateway routes).2 =
      (routes.issue fates (.add destination gateway)).2 := by
  simp only [runRoute]
  split <;> rename_i same
  · rw [same]
  · rw [same]
  · rw [same]
    split <;> rfl

@[simp] theorem deleteRoute_issued :
    (deleteRoute fates destination routes).2.issued = routes.issued ++ [.delete destination] := by
  rw [deleteRoute_snd, issue_issued]

/-- A deletion empties its destination if it is performed, and changes nothing
else. -/
theorem deleteRoute_table :
    (deleteRoute fates destination routes).2.table =
      if fates routes.issued.length = .performed then Function.update routes.table destination none
      else routes.table := by
  unfold deleteRoute Routes.issue
  cases fates routes.issued.length with
  | notRun => rfl
  | refused error => rfl
  | performed =>
      cases found : routes.table destination with
      | none =>
          -- Nothing to delete: the table is already as a deletion would leave it.
          have kept : Function.update routes.table destination none = routes.table := by
            rw [← found, Function.update_eq_self]
          simp [RouteCommand.perform, found, kept]
      | some gateway => simp [RouteCommand.perform, found]

theorem deleteRoute_self :
    (deleteRoute fates destination routes).2.table destination =
      leftOver (fates routes.issued.length) (routes.table destination) := by
  rw [deleteRoute_table, leftOver]
  split
  · exact Function.update_self ..
  · rfl

theorem deleteRoute_of_ne (different : other ≠ destination) :
    (deleteRoute fates destination routes).2.table other = routes.table other := by
  rw [deleteRoute_table]
  split
  · exact Function.update_of_ne different ..
  · rfl

/-- An addition that is performed succeeds, whatever the table has. -/
theorem runRoute_performed (performed : fates routes.issued.length = .performed) :
    runRoute fates destination gateway routes =
      (.ok (), ⟨fillRoute routes.table (destination, gateway),
        routes.issued ++ [.add destination gateway]⟩) := by
  unfold runRoute Routes.issue fillRoute
  rw [performed]
  cases found : routes.table destination with
  | none => simp [RouteCommand.perform, found]
  | some old =>
      have reported : fileExists <:+: routingSocket ++ fileExists :=
        (List.suffix_append _ _).isInfix
      have kept : Function.update routes.table destination (some old) = routes.table := by
        rw [← found, Function.update_eq_self]
      simp [RouteCommand.perform, found, reported, kept]

/-- An addition that is not performed fails and changes nothing. -/
theorem runRoute_not_performed (failed : fates routes.issued.length ≠ .performed) :
    ∃ error, runRoute fates destination gateway routes =
      (.error error, ⟨routes.table, routes.issued ++ [.add destination gateway]⟩) := by
  unfold runRoute Routes.issue
  cases fate : fates routes.issued.length with
  | performed => exact absurd fate failed
  | notRun => exact ⟨_, rfl⟩
  | refused error =>
      exact ⟨.routeFailed (.add destination gateway) error.stderr,
        by simp only [if_neg error.notExists]⟩

/-- Additions that are all performed fill the table one after the other. -/
theorem runRoutes_performed {wanted : List (Destination × Ipv4Addr)}
    (performed : ∀ number < wanted.length,
      fates (routes.issued.length + number) = .performed) :
    runRoutes fates wanted routes =
      (.ok (), ⟨wanted.foldl fillRoute routes.table,
        routes.issued ++ wanted.map fun route => .add route.1 route.2⟩) := by
  induction wanted generalizing routes with
  | nil => simp [runRoutes]
  | cons route rest inductionHypothesis =>
      obtain ⟨destination, gateway⟩ := route
      have first := performed 0 (by simp)
      have later : ∀ number < rest.length,
          fates ((routes.issued ++ [RouteCommand.add destination gateway]).length + number) =
            .performed := by
        intro number inside
        have shifted := performed (number + 1) (by simpa using inside)
        rwa [List.length_append, List.length_singleton, Nat.add_assoc, Nat.add_comm 1]
      simp only [runRoutes, runRoute_performed first]
      rw [inductionHypothesis later]
      simp

/-- One addition that is not performed ends them all with an error. -/
theorem runRoutes_not_performed {wanted : List (Destination × Ipv4Addr)}
    (failed : ∃ number < wanted.length, fates (routes.issued.length + number) ≠ .performed) :
    ∃ error after, runRoutes fates wanted routes = (.error error, after) := by
  induction wanted generalizing routes with
  | nil =>
      obtain ⟨number, inside, _⟩ := failed
      cases inside
  | cons route rest inductionHypothesis =>
      obtain ⟨destination, gateway⟩ := route
      by_cases first : fates routes.issued.length = .performed
      · simp only [runRoutes, runRoute_performed first]
        apply inductionHypothesis
        obtain ⟨number, inside, refused⟩ := failed
        cases number with
        | zero => exact absurd first refused
        | succ number =>
            refine ⟨number, by simpa using inside, ?_⟩
            rwa [List.length_append, List.length_singleton, Nat.add_assoc, Nat.add_comm 1]
      · obtain ⟨error, same⟩ :=
          @runRoute_not_performed fates routes destination gateway first
        simp only [runRoutes, same]
        exact ⟨error, _, rfl⟩

end Commands

/-- Filling other destinations keeps a destination. -/
theorem foldl_fillRoute_of_not_mem {wanted : List (Destination × Ipv4Addr)}
    {table : RoutingTable} {destination : Destination}
    (absent : destination ∉ wanted.map Prod.fst) :
    wanted.foldl fillRoute table destination = table destination := by
  induction wanted generalizing table with
  | nil => rfl
  | cons route rest inductionHypothesis =>
      rw [List.map_cons, List.mem_cons, not_or] at absent
      rw [List.foldl_cons, inductionHypothesis absent.2, fillRoute,
        Function.update_of_ne absent.1]

/-- Filling distinct destinations gives each its gateway, unless it had one. -/
theorem foldl_fillRoute_of_mem {wanted : List (Destination × Ipv4Addr)} {table : RoutingTable}
    (distinct : (wanted.map Prod.fst).Nodup) {destination : Destination} {gateway : Ipv4Addr}
    (member : (destination, gateway) ∈ wanted) :
    wanted.foldl fillRoute table destination = some ((table destination).getD gateway) := by
  induction wanted generalizing table with
  | nil => cases member
  | cons route rest inductionHypothesis =>
      rw [List.map_cons, List.nodup_cons] at distinct
      rw [List.foldl_cons]
      rcases List.mem_cons.mp member with rfl | later
      · rw [foldl_fillRoute_of_not_mem distinct.1, fillRoute, Function.update_self]
      · have different : destination ≠ route.1 := by
          intro same
          exact distinct.1 (same ▸ List.mem_map_of_mem (f := Prod.fst) later)
        rw [inductionHypothesis distinct.2 later, fillRoute, Function.update_of_ne different]

section Install

variable {fates : Nat → Fate} {printed : Printed} {serverIp gateway vpnGateway : Ipv4Addr}
  {routes : Routes}

theorem wantedRoutes_distinct :
    ((wantedRoutes serverIp gateway vpnGateway).map Prod.fst).Nodup := by
  simp [wantedRoutes, lowHalf, highHalf]

@[simp] theorem length_wantedRoutes :
    (wantedRoutes serverIp gateway vpnGateway).length = 3 := rfl

@[simp] theorem cleanupRoutes_issued :
    (cleanupRoutes fates serverIp routes).2.issued =
      routes.issued ++ [.delete lowHalf, .delete highHalf, .delete (.host serverIp)] := by
  simp [cleanupRoutes]

/-- What the cleaning leaves of each of the three destinations. -/
theorem cleanupRoutes_table :
    (cleanupRoutes fates serverIp routes).2.table lowHalf =
        leftOver (fates routes.issued.length) (routes.table lowHalf) ∧
      (cleanupRoutes fates serverIp routes).2.table highHalf =
        leftOver (fates (routes.issued.length + 1)) (routes.table highHalf) ∧
      (cleanupRoutes fates serverIp routes).2.table (.host serverIp) =
        leftOver (fates (routes.issued.length + 2)) (routes.table (.host serverIp)) := by
  refine ⟨?_, ?_, ?_⟩
  · simp only [cleanupRoutes]
    rw [deleteRoute_of_ne (lowHalf_ne_host serverIp), deleteRoute_of_ne lowHalf_ne_highHalf,
      deleteRoute_self]
  · simp only [cleanupRoutes]
    rw [deleteRoute_of_ne (highHalf_ne_host serverIp), deleteRoute_self,
      deleteRoute_of_ne lowHalf_ne_highHalf.symm, deleteRoute_issued, List.length_append,
      List.length_singleton]
  · simp only [cleanupRoutes]
    rw [deleteRoute_self, deleteRoute_of_ne (highHalf_ne_host serverIp).symm,
      deleteRoute_of_ne (lowHalf_ne_host serverIp).symm]
    simp

/-- A destination ends with its gateway exactly when it clears the way for it. -/
theorem getD_leftOver_eq_iff {number : Nat} {destination : Destination} :
    some ((leftOver (fates (routes.issued.length + number)) (routes.table destination)).getD
        gateway) = some gateway ↔ Clears fates routes number destination gateway := by
  unfold leftOver Clears
  by_cases performed : fates (routes.issued.length + number) = .performed
  · simp [performed]
  · cases routes.table destination with
    | none => simp [performed]
    | some old => simp [performed]

/-- With three additions that are performed the installation succeeds, and each
destination has the gateway it had after the cleaning or else its own. -/
theorem install_performed (found : defaultGateway printed = .ok gateway)
    (performed : ∀ number < 3, fates (routes.issued.length + 3 + number) = .performed) :
    ∃ after, RouteGuard.install fates printed (.v4 serverIp) vpnGateway routes =
        (.ok ⟨serverIp, gateway, true⟩, after) ∧
      ∀ destination own, (destination, own) ∈ wantedRoutes serverIp gateway vpnGateway →
        after.table destination =
          some (((cleanupRoutes fates serverIp routes).2.table destination).getD own) := by
  have additions := @runRoutes_performed fates (cleanupRoutes fates serverIp routes).2
    (wantedRoutes serverIp gateway vpnGateway) (by simpa using performed)
  simp only [RouteGuard.install, found, additions]
  refine ⟨_, rfl, ?_⟩
  intro destination own member
  exact foldl_fillRoute_of_mem wantedRoutes_distinct member

/-- An addition that is not performed makes the installation fail. -/
theorem install_not_performed (found : defaultGateway printed = .ok gateway)
    (failed : ∃ number < 3, fates (routes.issued.length + 3 + number) ≠ .performed) :
    ∃ error after, RouteGuard.install fates printed (.v4 serverIp) vpnGateway routes =
      (.error error, after) := by
  obtain ⟨error, after, additions⟩ := @runRoutes_not_performed fates
    (cleanupRoutes fates serverIp routes).2 (wantedRoutes serverIp gateway vpnGateway)
    (by simpa using failed)
  simp only [RouteGuard.install, found, additions]
  exact ⟨error, _, rfl⟩

/-- The routes of an installation whose additions are all performed are the wanted
ones exactly when nothing was in their way. -/
theorem routed_iff_unobstructed {after : Routes}
    (filled : ∀ destination own, (destination, own) ∈ wantedRoutes serverIp gateway vpnGateway →
      after.table destination =
        some (((cleanupRoutes fates serverIp routes).2.table destination).getD own)) :
    Routed after.table serverIp gateway vpnGateway ↔
      Unobstructed fates routes serverIp gateway vpnGateway := by
  obtain ⟨cleanedLow, cleanedHigh, cleanedHost⟩ :=
    @cleanupRoutes_table fates serverIp routes
  have low := filled lowHalf vpnGateway (by simp [wantedRoutes])
  have high := filled highHalf vpnGateway (by simp [wantedRoutes])
  have host := filled (.host serverIp) gateway (by simp [wantedRoutes])
  rw [cleanedLow] at low
  rw [cleanedHigh] at high
  rw [cleanedHost] at host
  constructor
  · intro routed
    exact ⟨getD_leftOver_eq_iff.mp (low ▸ routed.low), getD_leftOver_eq_iff.mp (high ▸ routed.high),
      getD_leftOver_eq_iff.mp (host ▸ routed.host)⟩
  · intro unobstructed
    exact ⟨low.trans (getD_leftOver_eq_iff.mpr unobstructed.low),
      high.trans (getD_leftOver_eq_iff.mpr unobstructed.high),
      host.trans (getD_leftOver_eq_iff.mpr unobstructed.host)⟩

end Install

/-- An installation that returns a guard has routed the right way if and only if,
in case its three additions are performed, each destination that its cleaning
could not delete was missing or had the wanted gateway before. -/
theorem install_routes_iff (fates : Nat → Fate) (printed : Printed) (server : IpAddr)
    (vpnGateway : Ipv4Addr) (routes : Routes) :
    RoutesRight fates printed server vpnGateway routes ↔
      ∀ serverIp gateway, server = .v4 serverIp → defaultGateway printed = .ok gateway →
        (∀ number < 3, fates (routes.issued.length + 3 + number) = .performed) →
          Unobstructed fates routes serverIp gateway vpnGateway := by
  constructor
  · rintro right serverIp gateway rfl found performed
    obtain ⟨after, installed, filled⟩ := install_performed found performed
    obtain ⟨_, _, same, found', routed⟩ := right _ _ installed
    cases same
    rw [found] at found'
    cases found'
    exact (routed_iff_unobstructed filled).mp routed
  · intro unobstructed guard after returned
    cases server with
    | v6 => cases returned
    | v4 serverIp =>
        cases found : defaultGateway printed with
        | error error =>
            simp only [RouteGuard.install, found] at returned
            cases returned
        | ok gateway =>
            by_cases performed : ∀ number < 3,
                fates (routes.issued.length + 3 + number) = .performed
            · obtain ⟨after', installed, filled⟩ := install_performed found performed
              rw [installed] at returned
              cases returned
              exact ⟨serverIp, gateway, rfl, rfl,
                (routed_iff_unobstructed filled).mpr
                  (unobstructed serverIp gateway rfl found performed)⟩
            · simp only [not_forall] at performed
              obtain ⟨number, inside, refused⟩ := performed
              obtain ⟨error, after', failed⟩ :=
                install_not_performed found ⟨number, inside, refused⟩
              rw [failed] at returned
              cases returned

/-- A lower half that an earlier run left behind, through another gateway. -/
def staleRoutes : Routes :=
  ⟨fun destination => if destination = lowHalf then some ⟨10, 9, 0, 1⟩ else none, []⟩

/-- Only the first command of the run cannot be started. -/
def firstNotRun (number : Nat) : Fate := if number = 0 then .notRun else .performed

/-- The default gateway as `route` prints it. -/
def gatewayLine : Printed := .success "    gateway: 192.168.35.1\n".toList

def staleInstall : Except RouteError RouteGuard × Routes :=
  RouteGuard.install firstNotRun gatewayLine (.v4 ⟨161, 33, 36, 181⟩) ⟨10, 8, 0, 1⟩ staleRoutes

/-- The installation returns a guard, and half of the addresses still go through
the gateway of the earlier run. -/
theorem staleRoute_survives_install :
    staleInstall.1 = .ok ⟨⟨161, 33, 36, 181⟩, ⟨192, 168, 35, 1⟩, true⟩ ∧
      staleInstall.2.table lowHalf = some ⟨10, 9, 0, 1⟩ ∧
      ¬ RoutesRight firstNotRun gatewayLine (.v4 ⟨161, 33, 36, 181⟩) ⟨10, 8, 0, 1⟩
        staleRoutes := by
  have returned : staleInstall.1 = .ok ⟨⟨161, 33, 36, 181⟩, ⟨192, 168, 35, 1⟩, true⟩ := by
    decide +kernel
  have stale : staleInstall.2.table lowHalf = some ⟨10, 9, 0, 1⟩ := by
    decide +kernel
  refine ⟨returned, stale, ?_⟩
  intro right
  have result : staleInstall =
      (.ok ⟨⟨161, 33, 36, 181⟩, ⟨192, 168, 35, 1⟩, true⟩, staleInstall.2) :=
    Prod.ext returned rfl
  obtain ⟨serverIp, gateway, _, _, routed⟩ := right _ _ result
  rw [routed.low] at stale
  cases stale

end LiteVpn.Client
