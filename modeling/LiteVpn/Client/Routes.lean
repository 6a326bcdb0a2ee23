import LiteVpn.Strings.KeyValue
import LiteVpn.Strings.Lines
import Mathlib.Logic.Function.Basic
import Mathlib.Data.List.Infix

/-!
# The client's macOS routes

`macos_routes.rs` over a routing table that maps a destination to a gateway. The
program changes the table only through the `route` command, which may fail for
reasons of its own. What each command of a run will come to is an input, given by
its number in the run; a command that is performed does what the table allows.
The texts that the commands print are read as the program decodes them.
-/

namespace LiteVpn.Client

open LiteVpn.Strings

/-- `std::net::Ipv4Addr`. -/
structure Ipv4Addr where
  first : UInt8
  second : UInt8
  third : UInt8
  fourth : UInt8
deriving DecidableEq, Repr

/-- A decimal number without a sign. -/
def displayOctet (octet : UInt8) : Text := Nat.toDigits 10 octet.toNat

/-- The dotted form of an address. -/
def Ipv4Addr.display (addr : Ipv4Addr) : Text :=
  displayOctet addr.first ++ '.' :: displayOctet addr.second ++ '.' :: displayOctet addr.third ++
    '.' :: displayOctet addr.fourth

/-- One to three digits without a leading zero, up to 255. -/
def parseOctet (text : Text) : Option UInt8 :=
  if text = [] ∨ 3 < text.length ∨ text.all Char.isDigit = false ∨
      (text.head? = some '0' ∧ 1 < text.length) then none
  else
    let value := Nat.ofDigitChars 10 text 0
    if value ≤ 255 then some (UInt8.ofNat value) else none

/-- `Ipv4Addr::from_str`. -/
def parseIpv4 (text : Text) : Option Ipv4Addr :=
  match text.splitOn '.' with
  | [first, second, third, fourth] => do
      return ⟨← parseOctet first, ← parseOctet second, ← parseOctet third, ← parseOctet fourth⟩
  | _ => none

/-- The address of the server, as far as it decides about routes. -/
inductive IpAddr where
  | v4 (addr : Ipv4Addr)
  | v6
deriving DecidableEq, Repr

/-- What a `-net` or a `-host` argument names. -/
inductive Destination where
  | net (addr : Ipv4Addr) (bits : Nat)
  | host (addr : Ipv4Addr)
deriving DecidableEq, Repr

/-- `0.0.0.0/1`. -/
def lowHalf : Destination := .net ⟨0, 0, 0, 0⟩ 1

/-- `128.0.0.0/1`. -/
def highHalf : Destination := .net ⟨128, 0, 0, 0⟩ 1

/-- The two arguments that name a destination. -/
def Destination.args : Destination → List Text
  | .net addr bits => ["-net".toList, addr.display ++ '/' :: Nat.toDigits 10 bits]
  | .host addr => ["-host".toList, addr.display]

abbrev RoutingTable := Destination → Option Ipv4Addr

/-- A `route` command that changes the table. -/
inductive RouteCommand where
  | add (destination : Destination) (gateway : Ipv4Addr)
  | delete (destination : Destination)
deriving DecidableEq, Repr

def RouteCommand.args : RouteCommand → Text
  | .add destination gateway =>
      joinSpaces (["-n".toList, "add".toList] ++ destination.args ++ [gateway.display])
  | .delete destination => joinSpaces (["-n".toList, "delete".toList] ++ destination.args)

def fileExists : Text := "File exists".toList
def notInTable : Text := "not in table".toList

/-- The text of an error that says neither that a route exists nor that it is
missing. -/
structure OtherError where
  stderr : Text
  notExists : ¬ fileExists <:+: stderr
  notMissing : ¬ notInTable <:+: stderr
deriving DecidableEq

/-- What a command will come to. -/
inductive Fate where
  | performed
  | notRun
  | refused (error : OtherError)
deriving DecidableEq

/-- What the program sees of a command. -/
inductive CommandResult where
  | notRun
  | success
  | failed (stderr : Text)
deriving DecidableEq, Repr

/-- The prefix of the messages that the table's own refusals carry. -/
def routingSocket : Text := "route: writing to routing socket: ".toList

/-- Perform a command: an existing route is not replaced and a missing one not
deleted. -/
def RouteCommand.perform (table : RoutingTable) : RouteCommand → CommandResult × RoutingTable
  | .add destination gateway =>
      match table destination with
      | some _ => (.failed (routingSocket ++ fileExists), table)
      | none => (.success, Function.update table destination (some gateway))
  | .delete destination =>
      match table destination with
      | some _ => (.success, Function.update table destination none)
      | none => (.failed (routingSocket ++ notInTable), table)

/-- The table and the commands that were issued so far. -/
structure Routes where
  table : RoutingTable
  issued : List RouteCommand

/-- Issue a command. One that is not performed changes nothing. -/
def Routes.issue (fates : Nat → Fate) (routes : Routes) (command : RouteCommand) :
    CommandResult × Routes :=
  let issued := routes.issued ++ [command]
  match fates routes.issued.length with
  | .performed =>
      let performed := command.perform routes.table
      (performed.1, ⟨performed.2, issued⟩)
  | .notRun => (.notRun, ⟨routes.table, issued⟩)
  | .refused error => (.failed error.stderr, ⟨routes.table, issued⟩)

/-- The reasons for which a route operation fails. -/
inductive RouteError where
  | requiresIpv4
  | staleRemain
  | netstatNotRun
  | netstatFailed
  | gatewayNotRun
  | gatewayFailed
  | gatewayUnparsed
  | gatewayMissing
  | routeNotRun (command : RouteCommand)
  | routeFailed (command : RouteCommand) (stderr : Text)
deriving DecidableEq, Repr

/-- The text of each failure. -/
def RouteError.message : RouteError → Text
  | .requiresIpv4 => "automatic macOS routes require an IPv4 server".toList
  | .staleRemain =>
      ("failed to remove one or more stale macOS routes; rerun with sudo or use " ++
        "--no-routes").toList
  | .netstatNotRun => "failed to run netstat -rn -f inet".toList
  | .netstatFailed => "netstat -rn -f inet failed".toList
  | .gatewayNotRun => "failed to run route -n get default".toList
  | .gatewayFailed => "route -n get default failed".toList
  | .gatewayUnparsed => "failed to parse gateway".toList
  | .gatewayMissing => "default gateway not found".toList
  | .routeNotRun command => "failed to run route ".toList ++ command.args
  | .routeFailed command stderr =>
      "route ".toList ++ command.args ++ " failed: ".toList ++ trim stderr

/-- What the program sees of a command that only prints. -/
inductive Printed where
  | notRun
  | failed
  | success (stdout : Text)
deriving DecidableEq, Repr

/-- `default_gateway`: the first line that starts with `gateway:` decides. -/
def defaultGateway : Printed → Except RouteError Ipv4Addr
  | .notRun => .error .gatewayNotRun
  | .failed => .error .gatewayFailed
  | .success stdout =>
      match (lines stdout).findSome? fun line => (trim line).dropPrefix? "gateway:".toList with
      | none => .error .gatewayMissing
      | some value =>
          match parseIpv4 (trim value) with
          | none => .error .gatewayUnparsed
          | some gateway => .ok gateway

def isLitevpnRouteDestination (destination : Text) (serverIp : Ipv4Addr) : Bool :=
  destination ∈ ["0/1".toList, "0.0.0.0/1".toList, "128.0/1".toList, "128.0.0.0/1".toList] ∨
    destination = serverIp.display ∨ destination = serverIp.display ++ "/32".toList

/-- `stale_routes_present` on what `netstat` printed. -/
def staleRoutesPresent (serverIp : Ipv4Addr) : Printed → Except RouteError Bool
  | .notRun => .error .netstatNotRun
  | .failed => .error .netstatFailed
  | .success stdout =>
      .ok ((lines stdout).any fun line =>
        match (splitWhitespace line).head? with
        | none => false
        | some destination => isLitevpnRouteDestination destination serverIp)

/-- `run_route` for a route to add; one that exists counts as added. -/
def runRoute (fates : Nat → Fate) (destination : Destination) (gateway : Ipv4Addr)
    (routes : Routes) : Except RouteError Unit × Routes :=
  let command := .add destination gateway
  match routes.issue fates command with
  | (.notRun, after) => (.error (.routeNotRun command), after)
  | (.success, after) => (.ok (), after)
  | (.failed stderr, after) =>
      if fileExists <:+: stderr then (.ok (), after)
      else (.error (.routeFailed command stderr), after)

/-- `delete_route`; a route that is missing counts as deleted. -/
def deleteRoute (fates : Nat → Fate) (destination : Destination) (routes : Routes) :
    Bool × Routes :=
  match routes.issue fates (.delete destination) with
  | (.notRun, after) => (false, after)
  | (.success, after) => (true, after)
  | (.failed stderr, after) => (notInTable <:+: stderr, after)

/-- `cleanup_routes`: all three are tried, whatever the others come to. -/
def cleanupRoutes (fates : Nat → Fate) (serverIp : Ipv4Addr) (routes : Routes) : Bool × Routes :=
  let first := deleteRoute fates lowHalf routes
  let second := deleteRoute fates highHalf first.2
  let third := deleteRoute fates (.host serverIp) second.2
  (first.1 && second.1 && third.1, third.2)

/-- One `run_route` after the other, up to the first that fails. -/
def runRoutes (fates : Nat → Fate) :
    List (Destination × Ipv4Addr) → Routes → Except RouteError Unit × Routes
  | [], routes => (.ok (), routes)
  | (destination, gateway) :: rest, routes =>
      match runRoute fates destination gateway routes with
      | (.error error, after) => (.error error, after)
      | (.ok (), after) => runRoutes fates rest after

structure RouteGuard where
  serverIp : Ipv4Addr
  gateway : Ipv4Addr
  installed : Bool
deriving DecidableEq, Repr

/-- `RouteGuard::cleanup_stale`. -/
def RouteGuard.cleanupStale (fates : Nat → Fate) (netstat : Printed) (server : IpAddr)
    (routes : Routes) : Except RouteError Unit × Routes :=
  match server with
  | .v6 => (.error .requiresIpv4, routes)
  | .v4 serverIp =>
      match staleRoutesPresent serverIp netstat with
      | .error error => (.error error, routes)
      | .ok false => (.ok (), routes)
      | .ok true =>
          match cleanupRoutes fates serverIp routes with
          | (true, after) => (.ok (), after)
          | (false, after) => (.error .staleRemain, after)

/-- The three routes of an installation, in the order in which they are added. -/
def wantedRoutes (serverIp gateway vpnGateway : Ipv4Addr) : List (Destination × Ipv4Addr) :=
  [(.host serverIp, gateway), (lowHalf, vpnGateway), (highHalf, vpnGateway)]

/-- `RouteGuard::install`. -/
def RouteGuard.install (fates : Nat → Fate) (printed : Printed) (server : IpAddr)
    (vpnGateway : Ipv4Addr) (routes : Routes) : Except RouteError RouteGuard × Routes :=
  match server with
  | .v6 => (.error .requiresIpv4, routes)
  | .v4 serverIp =>
      match defaultGateway printed with
      | .error error => (.error error, routes)
      | .ok gateway =>
          let cleaned := (cleanupRoutes fates serverIp routes).2
          match runRoutes fates (wantedRoutes serverIp gateway vpnGateway) cleaned with
          | (.error error, after) => (.error error, (cleanupRoutes fates serverIp after).2)
          | (.ok (), after) => (.ok ⟨serverIp, gateway, true⟩, after)

/-- `RouteGuard::cleanup`, which is also what dropping the guard does. -/
def RouteGuard.cleanup (fates : Nat → Fate) (guard : RouteGuard) (routes : Routes) :
    RouteGuard × Routes :=
  if guard.installed then
    ({ guard with installed := false }, (cleanupRoutes fates guard.serverIp routes).2)
  else (guard, routes)

end LiteVpn.Client
