import LiteVpn.Core.Config
import LiteVpn.Strings.Assignments

/-!
# Switching the transport

`set-vpn-transport.sh` writes the transport into the configurations of the two
sides, and with it the egress preset that was tested for it. A side is edited by
an awk program that keeps a flag for each key it has come across and adds what
is still unset at the end. The program is `assignAll` at its own keys, so that
what a switch leaves behind does not depend on the switches before it.
-/

namespace LiteVpn.Vpn

open LiteVpn.Core LiteVpn.Strings

/-- The transport as a configuration names it. -/
def modeName : VpnTransportMode → Text
  | .datagram => "datagram".toList
  | .stream => "stream".toList

/-- A value that the shell and awk hand on as it was given, in one line: it has no
line feed, no backslash and no quote. -/
structure Value where
  text : Text
  plain : (text.all fun char => char ≠ '\n' && char ≠ '\\' && char.toNat ≠ 39) = true

theorem Value.single (value : Value) : '\n' ∉ value.text := by
  intro feed
  have plain := List.all_eq_true.mp value.plain _ feed
  simp at plain

/-- The pacing of one side. -/
structure Preset where
  egressMbps : Value
  adaptive : Value

def defaultClientPreset : VpnTransportMode → Preset
  | .datagram => ⟨⟨"13".toList, by decide⟩, ⟨"false".toList, by decide⟩⟩
  | .stream => ⟨⟨"40".toList, by decide⟩, ⟨"false".toList, by decide⟩⟩

def defaultServerPreset : VpnTransportMode → Preset
  | .datagram => ⟨⟨"36".toList, by decide⟩, ⟨"true".toList, by decide⟩⟩
  | .stream => ⟨⟨"36".toList, by decide⟩, ⟨"true".toList, by decide⟩⟩

def transportKey : Text := "vpn_transport".toList
def egressKey : Text := "egress_target_mbps".toList
def adaptiveKey : Text := "adaptive_egress".toList

/-- What the awk program is given for one side. -/
structure Switch where
  mode : VpnTransportMode
  applyPresets : Bool
  preset : Preset

/-- The flags of the awk program. -/
structure Changed where
  transport : Bool := false
  egress : Bool := false
  adaptive : Bool := false

namespace Switch

variable (switch : Switch)

def transportLine : Text := "vpn_transport = \"".toList ++ modeName switch.mode ++ ['"']
def egressLine : Text := "egress_target_mbps = ".toList ++ switch.preset.egressMbps.text
def adaptiveLine : Text := "adaptive_egress = ".toList ++ switch.preset.adaptive.text

/-- The rules for one record: the first one that applies prints and goes on to the
next record. -/
def rule (changed : Changed) (line : Text) : Changed × Text :=
  if assigns transportKey line then ({ changed with transport := true }, switch.transportLine)
  else if assigns egressKey line && switch.applyPresets then
    ({ changed with egress := true }, switch.egressLine)
  else if assigns adaptiveKey line && switch.applyPresets then
    ({ changed with adaptive := true }, switch.adaptiveLine)
  else (changed, line)

/-- The records one after another. -/
def rules : Changed → List Text → Changed × List Text
  | changed, [] => (changed, [])
  | changed, line :: rest =>
      let (next, printed) := switch.rule changed line
      let (final, others) := rules next rest
      (final, printed :: others)

/-- The rule for the end. -/
def atEnd (changed : Changed) : List Text :=
  (if !changed.transport then [switch.transportLine] else []) ++
    (if switch.applyPresets && !changed.egress then [switch.egressLine] else []) ++
    (if switch.applyPresets && !changed.adaptive then [switch.adaptiveLine] else [])

/-- Edit one configuration. -/
def setMode (content : Text) : Text :=
  let (changed, printed) := switch.rules {} (records content)
  unlines (printed ++ switch.atEnd changed)

end Switch

/-- How far the remote part of a call gets: it ends before the new configuration is
installed, after that but before the server is back, or at its end. -/
inductive Reached where
  | nothing
  | installed
  | finished
deriving DecidableEq, Repr

/-- One call of the script, and how far its remote part gets if it comes to it. -/
structure Call where
  mode : VpnTransportMode
  localOnly : Bool
  remoteOnly : Bool
  applyPresets : Bool
  clientPreset : VpnTransportMode → Preset
  serverPreset : VpnTransportMode → Preset
  reached : Reached

/-- The configurations of the two sides, the client's with its path; its file can be
missing. All calls are for these two files. -/
structure Sides where
  configPath : Text
  client : Option Text
  server : Text

namespace Call

variable (call : Call)

def client : Switch := ⟨call.mode, call.applyPresets, call.clientPreset call.mode⟩
def server : Switch := ⟨call.mode, call.applyPresets, call.serverPreset call.mode⟩

/-- The local part: its end and the configurations behind it. -/
def runLocal (sides : Sides) : Except Text Unit × Sides :=
  match sides.client with
  | none => (.error ("missing local config: ".toList ++ sides.configPath), sides)
  | some content => (.ok (), { sides with client := some (call.client.setMode content) })

/-- The remote part, which fails without a text of its own. -/
def runRemote (sides : Sides) : Except Text Unit × Sides :=
  let edited := { sides with server := call.server.setMode sides.server }
  match call.reached with
  | .nothing => (.error [], sides)
  | .installed => (.error [], edited)
  | .finished => (.ok (), edited)

/-- The whole script, which stops at the part that fails. What it has edited until
then stays. -/
def run (sides : Sides) : Except Text Unit × Sides :=
  match if call.remoteOnly then (.ok (), sides) else call.runLocal sides with
  | (.error error, edited) => (.error error, edited)
  | (.ok (), edited) => if call.localOnly then (.ok (), edited) else call.runRemote edited

end Call

/-- One call after another, whether they fail or not. -/
def runCalls (calls : List Call) (sides : Sides) : Sides :=
  calls.foldl (fun sides call => (call.run sides).2) sides

namespace Switch

variable {switch : Switch}

theorem assigns_transportLine : assigns transportKey switch.transportLine = true := by
  have key : "vpn_transport = \"".toList = transportKey ++ ' ' :: '=' :: [' ', '"'] := rfl
  unfold transportLine
  rw [key, List.append_assoc, List.append_assoc]
  apply assigns_append

theorem assigns_egressLine : assigns egressKey switch.egressLine = true := by
  have key : "egress_target_mbps = ".toList = egressKey ++ ' ' :: '=' :: [' '] := rfl
  unfold egressLine
  rw [key, List.append_assoc]
  apply assigns_append

theorem assigns_adaptiveLine : assigns adaptiveKey switch.adaptiveLine = true := by
  have key : "adaptive_egress = ".toList = adaptiveKey ++ ' ' :: '=' :: [' '] := rfl
  unfold adaptiveLine
  rw [key, List.append_assoc]
  apply assigns_append

/-- The keys that are set, each with its line. -/
def settings (switch : Switch) : List Assignment :=
  ⟨transportKey, switch.transportLine, by decide, assigns_transportLine⟩ ::
    if switch.applyPresets then
      [⟨egressKey, switch.egressLine, by decide, assigns_egressLine⟩,
        ⟨adaptiveKey, switch.adaptiveLine, by decide, assigns_adaptiveLine⟩]
    else []

theorem settings_distinct : (switch.settings.map (·.key)).Nodup := by
  cases apply : switch.applyPresets with
  | false => simp [settings, apply]
  | true =>
      simp only [settings, apply, if_true, List.map_cons, List.map_nil]
      decide

/-- The first rule that applies is the one for the key of the record. -/
theorem rule_snd (changed : Changed) (line : Text) :
    (switch.rule changed line).2 = assign switch.settings line := by
  cases apply : switch.applyPresets <;>
    cases transport : assigns transportKey line <;>
    cases egress : assigns egressKey line <;>
    cases adaptive : assigns adaptiveKey line <;>
    simp [rule, assign, settings, apply, transport, egress, adaptive]

/-- The flags behind some records, of which none is set by a record whose rule does
not apply. -/
def flags (switch : Switch) (changed : Changed) (file : List Text) : Changed where
  transport := changed.transport || file.any (assigns transportKey)
  egress := changed.egress || (switch.applyPresets && file.any (assigns egressKey))
  adaptive := changed.adaptive || (switch.applyPresets && file.any (assigns adaptiveKey))

/-- The flags that a record sets. No rule hides another one: a record has one key. -/
theorem rule_fst (changed : Changed) (line : Text) :
    (switch.rule changed line).1 = switch.flags changed [line] := by
  cases transport : assigns transportKey line with
  | true =>
      have egress : assigns egressKey line = false :=
        not_assigns_of_ne (by decide) (by decide) (by decide) transport
      have adaptive : assigns adaptiveKey line = false :=
        not_assigns_of_ne (by decide) (by decide) (by decide) transport
      simp [rule, flags, transport, egress, adaptive]
  | false =>
      cases egress : assigns egressKey line with
      | true =>
          have adaptive : assigns adaptiveKey line = false :=
            not_assigns_of_ne (by decide) (by decide) (by decide) egress
          cases apply : switch.applyPresets <;>
            simp [rule, flags, transport, egress, adaptive, apply]
      | false =>
          cases apply : switch.applyPresets <;> cases adaptive : assigns adaptiveKey line <;>
            simp [rule, flags, transport, egress, adaptive, apply]

theorem flags_cons (changed : Changed) (line : Text) (rest : List Text) :
    switch.flags (switch.flags changed [line]) rest = switch.flags changed (line :: rest) := by
  simp [flags, Bool.or_assoc, Bool.and_or_distrib_left]

/-- What the records give: each one is set, and the flags tell which keys were. -/
theorem rules_eq (changed : Changed) (file : List Text) :
    switch.rules changed file = (switch.flags changed file, file.map (assign switch.settings)) := by
  induction file generalizing changed with
  | nil => simp [rules, flags]
  | cons line rest inductionHypothesis =>
      have ruled : switch.rule changed line =
          (switch.flags changed [line], assign switch.settings line) :=
        Prod.ext (rule_fst changed line) (rule_snd changed line)
      simp only [rules, ruled, inductionHypothesis, flags_cons, List.map_cons]

/-- The end adds the keys that no record has assigned. -/
theorem atEnd_flags (file : List Text) :
    switch.atEnd (switch.flags {} file) = (missing switch.settings file).map (·.line) := by
  cases apply : switch.applyPresets <;>
    cases transport : file.any (assigns transportKey) <;>
    cases egress : file.any (assigns egressKey) <;>
    cases adaptive : file.any (assigns adaptiveKey) <;>
    simp [atEnd, flags, missing, settings, apply, transport, egress, adaptive]

theorem setMode_eq (content : Text) :
    switch.setMode content = unlines (assignAll switch.settings (records content)) := by
  rw [setMode, rules_eq, assignAll, ← atEnd_flags]

theorem settings_single {setting : Assignment} (member : setting ∈ switch.settings) :
    '\n' ∉ setting.line := by
  have transport : '\n' ∉ switch.transportLine := by
    unfold transportLine
    cases switch.mode <;> decide
  have egress : '\n' ∉ switch.egressLine := by
    unfold egressLine
    rw [List.mem_append, not_or]
    exact ⟨by decide, switch.preset.egressMbps.single⟩
  have adaptive : '\n' ∉ switch.adaptiveLine := by
    unfold adaptiveLine
    rw [List.mem_append, not_or]
    exact ⟨by decide, switch.preset.adaptive.single⟩
  cases apply : switch.applyPresets with
  | false =>
      simp only [settings, apply, List.mem_cons, List.not_mem_nil, or_false, if_false,
        Bool.false_eq_true] at member
      rw [member]
      exact transport
  | true =>
      simp only [settings, apply, List.mem_cons, List.not_mem_nil, or_false, if_true] at member
      rcases member with rfl | rfl | rfl
      · exact transport
      · exact egress
      · exact adaptive

theorem records_setMode (content : Text) :
    records (switch.setMode content) = assignAll switch.settings (records content) := by
  rw [setMode_eq]
  apply records_unlines
  intro line listed
  rcases List.mem_append.mp listed with old | new
  · obtain ⟨before, there, rfl⟩ := List.mem_map.mp old
    cases set : assigned switch.settings before with
    | false =>
        rw [assign_of_not_assigned set]
        exact not_mem_of_mem_records there
    | true =>
        simp only [assigned, List.any_eq_true] at set
        obtain ⟨setting, member, found⟩ := set
        rw [assign_of_assigns settings_distinct member found]
        exact settings_single member
  · obtain ⟨setting, absent, rfl⟩ := List.mem_map.mp new
    exact settings_single (List.mem_filter.mp absent).1

/-- A switch that sets all keys of the one before it makes it as if that one had not
been. -/
theorem setMode_setMode {earlier : Switch}
    (covered : earlier.applyPresets = true → switch.applyPresets = true) (content : Text) :
    switch.setMode (earlier.setMode content) = switch.setMode content := by
  have split : ∃ same further, switch.settings = same ++ further ∧
      same.map (·.key) = earlier.settings.map (·.key) := by
    cases apply : earlier.applyPresets with
    | true => exact ⟨switch.settings, [], by simp, by simp [settings, apply, covered apply]⟩
    | false => exact ⟨[_], _, rfl, by simp [settings, apply]⟩
  obtain ⟨same, further, settings_eq, keys⟩ := split
  have distinct := @settings_distinct switch
  rw [setMode_eq, records_setMode, setMode_eq, settings_eq]
  rw [settings_eq] at distinct
  rw [assignAll_assignAll keys distinct]

end Switch

/-- What a switch is for: each key it sets is assigned by its own line alone, as often
as before but at least once, and the other lines are those of before, in their order. -/
structure Switched (switch : Switch) (before after : Text) : Prop where
  sets : ∀ setting ∈ switch.settings, ∀ line ∈ records after,
    assigns setting.key line = true → line = setting.line
  counts : ∀ setting ∈ switch.settings, (records after).countP (assigns setting.key) =
    max 1 ((records before).countP (assigns setting.key))
  others : (records after).filter (fun line => !assigned switch.settings line) =
    (records before).filter fun line => !assigned switch.settings line

theorem Switch.switched (switch : Switch) (content : Text) :
    Switched switch content (switch.setMode content) where
  sets := by
    intro setting member
    rw [records_setMode]
    exact (assignAll_sets settings_distinct member).2
  counts := by
    intro setting member
    rw [records_setMode, countP_assignAll settings_distinct member]
  others := by
    rw [records_setMode]
    exact assignAll_others settings_distinct

section Calls

variable {call last : Call} {calls : List Call} {sides final : Sides}

/-- A call leaves each configuration as it is or edits it, whatever its end. -/
theorem Call.run_cases (call : Call) (sides : Sides) :
    ((call.run sides).2.client = sides.client ∨
        (call.run sides).2.client = sides.client.map call.client.setMode) ∧
      ((call.run sides).2.server = sides.server ∨
        (call.run sides).2.server = call.server.setMode sides.server) ∧
      (call.run sides).2.configPath = sides.configPath := by
  obtain ⟨configPath, client, server⟩ := sides
  cases client <;> cases remote : call.remoteOnly <;> cases own : call.localOnly <;>
    cases reached : call.reached <;>
    simp [Call.run, Call.runLocal, Call.runRemote, remote, own, reached]

/-- When a call for both sides succeeds, and what it leaves then. -/
theorem Call.run_both (both : call.localOnly = false ∧ call.remoteOnly = false) :
    call.run sides = (.ok (), final) ↔ call.reached = .finished ∧
      final.configPath = sides.configPath ∧
      (∃ after, final.client = some after ∧
        sides.client.map call.client.setMode = some after) ∧
      final.server = call.server.setMode sides.server := by
  obtain ⟨configPath, client, server⟩ := sides
  obtain ⟨finalPath, finalClient, finalServer⟩ := final
  cases client with
  | none => simp [Call.run, Call.runLocal, both.2]
  | some content =>
      cases reached : call.reached <;>
        simp [Call.run, Call.runLocal, Call.runRemote, both, reached, eq_comm]

/-- What the last call makes of a configuration does not depend on the calls before. -/
theorem setMode_runCalls
    (covered : ∀ earlier ∈ calls, earlier.applyPresets = true → last.applyPresets = true) :
    (runCalls calls sides).client.map last.client.setMode =
        sides.client.map last.client.setMode ∧
      last.server.setMode (runCalls calls sides).server = last.server.setMode sides.server ∧
      (runCalls calls sides).configPath = sides.configPath := by
  induction calls generalizing sides with
  | nil => exact ⟨rfl, rfl, rfl⟩
  | cons first rest inductionHypothesis =>
      rw [List.forall_mem_cons] at covered
      obtain ⟨client, server, path⟩ := @inductionHypothesis (first.run sides).2 covered.2
      obtain ⟨oneClient, oneServer, onePath⟩ := first.run_cases sides
      refine ⟨?_, ?_, path.trans onePath⟩
      · refine client.trans ?_
        rcases oneClient with same | edited
        · rw [same]
        · rw [edited, Option.map_map]
          congr 1
          ext content : 1
          exact Switch.setMode_setMode covered.1 content
      · refine server.trans ?_
        rcases oneServer with same | edited
        · rw [same]
        · rw [edited]
          exact Switch.setMode_setMode covered.1 _

/-- After any calls, failed ones among them, a call for both sides that succeeds
leaves what it would have left without them. Both sides are switched. -/
theorem switch_settles
    (covered : ∀ earlier ∈ calls, earlier.applyPresets = true → last.applyPresets = true)
    (both : last.localOnly = false ∧ last.remoteOnly = false)
    (done : last.run (runCalls calls sides) = (.ok (), final)) :
    last.run sides = (.ok (), final) ∧
      ∃ before after, sides.client = some before ∧ final.client = some after ∧
        Switched last.client before after ∧ Switched last.server sides.server final.server := by
  obtain ⟨clientSame, serverSame, pathSame⟩ := @setMode_runCalls last calls sides covered
  rw [Call.run_both both, clientSame, serverSame, pathSame] at done
  refine ⟨(Call.run_both both).mpr done, ?_⟩
  obtain ⟨-, -, ⟨after, edited, kept⟩, server⟩ := done
  obtain ⟨before, was, rfl⟩ := Option.map_eq_some_iff.mp kept
  refine ⟨before, _, was, edited, last.client.switched before, ?_⟩
  rw [server]
  exact last.server.switched sides.server

end Calls

/-- A switch to streams of which the server never hears. -/
def unheardSwitch : Call where
  mode := .stream
  localOnly := false
  remoteOnly := false
  applyPresets := true
  clientPreset := defaultClientPreset
  serverPreset := defaultServerPreset
  reached := .nothing

/-- The switch back. -/
def switchBack : Call := { unheardSwitch with mode := .datagram, reached := .finished }

/-- A client that sets its transport, and a server that does not. -/
def unevenSides : Sides where
  configPath := "config/client.toml".toList
  client := some "mtu = 1300\nvpn_transport=\"datagram\"\n".toList
  server := "mtu = 1300\n".toList

theorem switch_settles_switchBack :
    (unheardSwitch.run unevenSides).1 = .error [] ∧
      ∃ final, switchBack.run unevenSides = (.ok (), final) ∧
        Switched switchBack.server unevenSides.server final.server := by
  obtain ⟨alone, _, _, _, _, _, server⟩ :=
    @switch_settles switchBack [unheardSwitch] unevenSides
      (switchBack.run (runCalls [unheardSwitch] unevenSides)).2 (fun _ _ _ => rfl) ⟨rfl, rfl⟩ rfl
  exact ⟨rfl, _, alone, server⟩

end LiteVpn.Vpn
