import LiteVpn.Server.RegistryInvariant
import LiteVpn.Core.AuthAcceptance

/-!
# Safety of the registry

`Admission` reads off the trace which checks a task has behind it. Together
with the invariants of the registry it gives `RegistrySafe` in every state of
every run: only admitted clients are registered, and apart from the peer and the
network only the admitted task that displaced a client closes it; a displaced
client that is still open has exactly one task that will close it, and a
clean-up removes nobody else's client.
-/

namespace LiteVpn.Server.Registry

open LiteVpn.Core LiteVpn.Strings LiteVpn.Semantics

/-- The connection has sent a VPN request that the server accepted. -/
def Authenticated (token : Token) (trace : List Action) (connection : Nat) : Prop :=
  ∃ request, .own connection (.authenticate request) ∈ trace ∧
    (serverAuthenticate token.text request).outcome = .ok .vpn

/-- The connection has authenticated for VPN use and, in datagram mode, passed
the capacity check. -/
def Admitted (config : ServerConfig) (token : Token) (trace : List Action)
    (connection : Nat) : Prop :=
  Authenticated token trace connection ∧
    (config.vpnTransport = .datagram →
      ∃ maxDatagramSize, .own connection (.checkCapacity maxDatagramSize) ∈ trace ∧
        ensureDatagramCapacity maxDatagramSize config.mtu "server" = .ok ())

theorem Authenticated.snoc {token : Token} {trace : List Action} {connection : Nat}
    (authenticated : Authenticated token trace connection) (action : Action) :
    Authenticated token (trace ++ [action]) connection := by
  obtain ⟨request, member, accepted⟩ := authenticated
  exact ⟨request, List.mem_append_left _ member, accepted⟩

theorem Admitted.snoc {config : ServerConfig} {token : Token} {trace : List Action}
    {connection : Nat} (admitted : Admitted config token trace connection) (action : Action) :
    Admitted config token (trace ++ [action]) connection := by
  refine ⟨admitted.1.snoc action, fun datagram => ?_⟩
  obtain ⟨maxDatagramSize, member, passed⟩ := admitted.2 datagram
  exact ⟨maxDatagramSize, List.mem_append_left _ member, passed⟩

/-- The task has passed every check that comes before its id. -/
def Phase.PastCheck : Phase → Prop
  | .checked | .drawn _ | .registered _ _ | .ready _ | .pumping _ => True
  | _ => False

/-- Only an accepted VPN request leads on to the capacity check. -/
theorem ownStep_authenticated {config : ServerConfig} {token : Token} {taken : OwnStep}
    {before : Phase} (moved : ownStep config token taken before = some .authenticated) :
    ∃ request, taken = .authenticate request ∧
      (serverAuthenticate token.text request).outcome = .ok .vpn := by
  unfold ownStep at moved
  split at moved
  · cases moved
  · cases moved
  · rename_i request
    refine ⟨request, rfl, ?_⟩
    simp only [afterAuthentication, Option.some.injEq] at moved
    split at moved
    · cases moved
    · cases moved
    · assumption
  · simp only [afterCapacityCheck, Option.some.injEq] at moved
    split at moved
    · split at moved <;> cases moved
    · cases moved
  · cases moved
  · unfold leave at moved
    split at moved <;> try cases moved
    split at moved <;> cases moved
  · cases moved

/-- A task gets past its checks by passing the capacity check. -/
theorem ownStep_pastCheck {config : ServerConfig} {token : Token} {taken : OwnStep}
    {before after : Phase} (moved : ownStep config token taken before = some after)
    (past : after.PastCheck) :
    before.PastCheck ∨ before = .authenticated ∧ ∃ maxDatagramSize,
      taken = .checkCapacity maxDatagramSize ∧ (config.vpnTransport = .datagram →
        ensureDatagramCapacity maxDatagramSize config.mtu "server" = .ok ()) := by
  unfold ownStep at moved
  split at moved
  · cases moved
    cases past
  · cases moved
    cases past
  · cases moved
    unfold afterAuthentication at past
    split at past <;> cases past
  · rename_i maxDatagramSize
    refine .inr ⟨rfl, maxDatagramSize, rfl, fun datagram => ?_⟩
    simp only [afterCapacityCheck, datagram, if_true, Option.some.injEq] at moved
    split at moved
    · cases moved
      cases past
    · assumption
  · exact .inl trivial
  · unfold leave at moved
    split at moved <;> try cases moved
    · cases past
    · cases past
    · cases past
    · split at moved <;> cases moved
      cases past
    · cases past
  · cases moved

/-- What the trace says about the tasks. -/
structure Admission (config : ServerConfig) (token : Token) (trace : List Action)
    (state : State) : Prop where
  authenticated : ∀ {connection}, state.phase connection = .authenticated →
    Authenticated token trace connection
  checked : ∀ {connection}, (state.phase connection).PastCheck →
    Admitted config token trace connection
  acted : ∀ {connection}, .register connection ∈ trace ∨ .closePrevious connection ∈ trace →
    Admitted config token trace connection
  active : ∀ {client}, state.active = some client → .register client.connection ∈ trace

/-- What one step has to respect, so that the trace keeps telling the truth. -/
theorem Admission.extend {config : ServerConfig} {token : Token} {trace : List Action}
    {state next : State} {action : Action} (admission : Admission config token trace state)
    (authenticated : ∀ connection, next.phase connection = .authenticated →
      state.phase connection = .authenticated ∨
        Authenticated token (trace ++ [action]) connection)
    (checked : ∀ connection, (next.phase connection).PastCheck →
      (state.phase connection).PastCheck ∨ Admitted config token (trace ++ [action]) connection)
    (acted : ∀ connection, action = .register connection ∨ action = .closePrevious connection →
      (state.phase connection).PastCheck)
    (active : ∀ client, next.active = some client →
      state.active = some client ∨ action = .register client.connection) :
    Admission config token (trace ++ [action]) next := by
  constructor
  · intro connection stands
    rcases authenticated connection stands with before | now
    · exact (admission.authenticated before).snoc action
    · exact now
  · intro connection past
    rcases checked connection past with before | now
    · exact (admission.checked before).snoc action
    · exact now
  · intro connection member
    simp only [List.mem_append, List.mem_singleton] at member
    rcases member with (before | now) | (before | now)
    · exact (admission.acted (.inl before)).snoc action
    · exact (admission.checked (acted connection (.inl now.symm))).snoc action
    · exact (admission.acted (.inr before)).snoc action
    · exact (admission.checked (acted connection (.inr now.symm))).snoc action
  · intro client stands
    simp only [List.mem_append, List.mem_singleton]
    exact (active client stands).imp admission.active Eq.symm

/-- A task that moves into a phase which asks for nothing new. -/
theorem goto_pastCheck {state : State} {connection : Nat} {phase : Phase}
    (past : phase.PastCheck → (state.phase connection).PastCheck) :
    ∀ other, ((state.goto connection phase).phase other).PastCheck →
      (state.phase other).PastCheck := by
  intro other stands
  rw [goto_phase] at stands
  split at stands
  · rename_i here
    rw [here]
    exact past stands
  · exact stands

theorem goto_authenticated {state : State} {connection : Nat} {phase : Phase}
    (elsewhere : phase ≠ .authenticated) :
    ∀ other, (state.goto connection phase).phase other = .authenticated →
      state.phase other = .authenticated := by
  intro other stands
  rw [goto_phase] at stands
  split at stands
  · exact absurd stands elsewhere
  · exact stands

theorem admission_start {config : ServerConfig} {token : Token} :
    Admission config token [] start := by
  refine ⟨?_, ?_, ?_, ?_⟩ <;> intros <;> simp_all [start]
  contradiction

theorem admission_own {config : ServerConfig} {token : Token} {trace : List Action}
    {state : State} {connection : Nat} {taken : OwnStep} {phase : Phase}
    (admission : Admission config token trace state)
    (moved : ownStep config token taken (state.phase connection) = some phase) :
    Admission config token (trace ++ [.own connection taken]) (state.goto connection phase) := by
  refine admission.extend ?_ ?_ (by simp) (fun _ active => .inl active)
  · intro other stands
    rw [goto_phase] at stands
    split at stands
    · rename_i here
      subst stands
      obtain ⟨request, rfl, accepted⟩ := ownStep_authenticated moved
      exact .inr ⟨request, by simp [here], accepted⟩
    · exact .inl stands
  · intro other past
    rw [goto_phase] at past
    split at past
    · rename_i here
      subst here
      rcases ownStep_pastCheck moved past with before | ⟨stands, maxDatagramSize, rfl, passed⟩
      · exact .inl before
      · refine .inr ⟨(admission.authenticated stands).snoc _, fun datagram => ?_⟩
        exact ⟨maxDatagramSize, by simp, passed datagram⟩
    · exact .inl past

theorem admission_step {config : ServerConfig} {token : Token} {trace : List Action}
    {state next : State} {action : Action} (admission : Admission config token trace state)
    (taken : step config token state action = some next) :
    Admission config token (trace ++ [action]) next := by
  cases transition_of_step taken with
  | own moved => exact admission_own admission moved
  | @drawId connection stands =>
      have past : (state.phase connection).PastCheck := by
        rw [stands]
        trivial
      exact admission.extend
        (fun other found => .inl (goto_authenticated (by simp) other found))
        (fun other found => .inl (goto_pastCheck (fun _ => past) other found))
        (by simp) (fun _ active => .inl active)
  | @register connection id stands =>
      have past : (state.phase connection).PastCheck := by
        rw [stands]
        trivial
      refine admission.extend
        (fun other found => .inl (goto_authenticated (by simp) other found))
        (fun other found => .inl (goto_pastCheck (fun _ => past) other found))
        ?_ ?_
      · rintro other (same | same) <;> cases same
        exact past
      · rintro client ⟨⟩
        exact .inr rfl
  | @closePrevious connection id previous stands =>
      have past : (state.phase connection).PastCheck := by
        rw [stands]
        trivial
      refine admission.extend ?_ ?_ ?_ (fun _ active => .inl (by simpa using active))
      · rw [closeDisplaced_phase]
        exact fun other found => .inl (goto_authenticated (by simp) other found)
      · rw [closeDisplaced_phase]
        exact fun other found => .inl (goto_pastCheck (fun _ => past) other found)
      · rintro other (same | same) <;> cases same
        exact past
  | cleanUp stands =>
      exact admission.extend
        (fun other found => .inl (goto_authenticated (by simp) other found))
        (fun other found => .inl (goto_pastCheck False.elim other found))
        (by simp) (fun _ active => .inl (clear_eq_some.mp active).1)
  | lose =>
      exact admission.extend (fun _ found => .inl found) (fun _ found => .inl found) (by simp)
        (fun _ active => .inl active)

/-- The task `holder` has displaced the client of `connection`, and the close of
that connection is its next step. -/
def AboutToClose (state : State) (holder connection : Nat) : Prop :=
  ∃ holderId previous, state.phase holder = .registered holderId (some previous) ∧
    previous.connection = connection

/-- The step closes `connection` rightfully: the peer or the network does it, or
the action is the close of a displaced client by an admitted task that has
displaced this very client. -/
def RightfulClose (config : ServerConfig) (token : Token) (trace : List Action) (state : State)
    (action : Action) (connection : Nat) : Prop :=
  action = .lose connection ∨ ∃ holder, action = .closePrevious holder ∧
    AboutToClose state holder connection ∧ Admitted config token trace holder

/-- A step that closes a connection which was open before it does so rightfully. -/
theorem rightfulClose_of_step {config : ServerConfig} {token : Token} {trace : List Action}
    {state next : State} {action : Action} {connection : Nat}
    (admission : Admission config token trace state)
    (taken : step config token state action = some next)
    (opened : state.closed connection = false) (shut : next.closed connection = true) :
    RightfulClose config token trace state action connection := by
  have unchanged (same : next.closed = state.closed) : False := by
    rw [same, opened] at shut
    cases shut
  cases transition_of_step taken with
  | own => exact (unchanged rfl).elim
  | drawId => exact (unchanged rfl).elim
  | register => exact (unchanged rfl).elim
  | cleanUp => exact (unchanged rfl).elim
  | @closePrevious holder id previous stands =>
      have past : (state.phase holder).PastCheck := by
        rw [stands]
        trivial
      cases previous with
      | none => exact (unchanged rfl).elim
      | some previous =>
          refine .inr ⟨holder, rfl, ⟨id, previous, stands, ?_⟩, admission.checked past⟩
          rw [State.closeDisplaced, close_closed, goto_closed, opened] at shut
          split at shut
          · exact Eq.symm ‹_›
          · cases shut
  | @lose lost =>
      rw [close_closed, opened] at shut
      split at shut
      · rename_i here
        exact .inl (by rw [here])
      · cases shut

/-- Some step of the run closed the connection, and rightfully. -/
def ClosedRightfully (config : ServerConfig) (token : Token) (trace : List Action)
    (connection : Nat) : Prop :=
  ∃ before action after middle, trace = before ++ action :: after ∧
    (registry config token).Reaches before middle ∧
      RightfulClose config token before middle action connection

theorem ClosedRightfully.snoc {config : ServerConfig} {token : Token} {trace : List Action}
    {connection : Nat} (closed : ClosedRightfully config token trace connection)
    (action : Action) : ClosedRightfully config token (trace ++ [action]) connection := by
  obtain ⟨before, earlier, after, middle, rfl, reached, rightful⟩ := closed
  exact ⟨before, earlier, after ++ [action], middle, by simp, reached, rightful⟩

/-- A closed connection stays accounted for: a step finds it closed, or closes it
rightfully itself. -/
theorem closedRightfully_step {config : ServerConfig} {token : Token} {trace : List Action}
    {state next : State} {action : Action} (reached : (registry config token).Reaches trace state)
    (admission : Admission config token trace state)
    (earlier : ∀ connection, state.closed connection = true →
      ClosedRightfully config token trace connection)
    (taken : step config token state action = some next) {connection : Nat}
    (shut : next.closed connection = true) :
    ClosedRightfully config token (trace ++ [action]) connection := by
  cases opened : state.closed connection with
  | true => exact (earlier connection opened).snoc action
  | false =>
      have rightful := rightfulClose_of_step admission taken opened shut
      exact ⟨trace, action, [], state, rfl, reached, rightful⟩

/-- What the registry guarantees in one state of a run. -/
structure RegistrySafe (config : ServerConfig) (token : Token) (trace : List Action)
    (state : State) : Prop where
  /-- Whoever has registered, or closed a displaced client, was admitted before. -/
  admitted : ∀ connection, .register connection ∈ trace ∨ .closePrevious connection ∈ trace →
    Admitted config token trace connection
  /-- Only registering puts a client into `active`. -/
  active_registered : ∀ client, state.active = some client → .register client.connection ∈ trace
  /-- The next step closes an open connection from outside, or because it is the
  close of the very client that an admitted task has displaced. -/
  closes : ∀ action next connection, step config token state action = some next →
    state.closed connection = false → next.closed connection = true →
      RightfulClose config token trace state action connection
  /-- Every connection that is closed was closed by such a step of the run. -/
  closed_by : ∀ connection, state.closed connection = true →
    ClosedRightfully config token trace connection
  /-- The task of the client in `active` has not cleaned up. -/
  active_uncleaned : ∀ client, state.active = some client →
    (state.phase client.connection).registeredId? = some client.id
  /-- An open client that is registered but not in `active` has exactly one task
  that is still about to close it. -/
  displaced_held : ∀ connection id, (state.phase connection).registeredId? = some id →
    state.closed connection = false →
      (∀ current, state.active = some current → current.connection ≠ connection) →
        ∃! holder, AboutToClose state holder connection
  /-- A clean-up leaves every client with another id, and every other task's
  client, in `active`. -/
  cleanUp_keeps : ∀ connection clientId next client,
    state.phase connection = .ended clientId →
      step config token state (.cleanUp connection) = some next →
        state.active = some client →
          clientId ≠ some client.id ∨ client.connection ≠ connection →
            next.active = some client
  /-- Once every task has finished, `active` is empty. -/
  idle : (∀ connection, state.phase connection = .unaccepted ∨
    state.phase connection = .finished) → state.active = none

theorem Ownership.held_unique {state : State} (ownership : Ownership state) {connection : Nat}
    {id : UInt64} (registered : (state.phase connection).registeredId? = some id)
    (opened : state.closed connection = false)
    (inactive : ∀ current, state.active = some current → current.connection ≠ connection) :
    ∃! holder, AboutToClose state holder connection := by
  obtain ⟨holder, client, holds, here⟩ := ownership.displaced_held registered opened inactive
  obtain ⟨holderId, stands⟩ := Phase.previous?_eq_some.mp holds
  refine ⟨holder, ⟨holderId, client, stands, here⟩, ?_⟩
  rintro other ⟨otherId, previous, otherStands, otherHere⟩
  have otherHolds := Phase.previous?_eq_some.mpr ⟨otherId, otherStands⟩
  exact ownership.held_once otherHolds holds (otherHere.trans here.symm)

theorem cleanUp_keeps {config : ServerConfig} {token : Token} {trace : List Action}
    {state next : State} {connection : Nat} {clientId : Option UInt64} {client : ActiveClient}
    (numbering : Numbering trace state) (ownership : Ownership state)
    (stands : state.phase connection = .ended clientId)
    (taken : step config token state (.cleanUp connection) = some next)
    (active : state.active = some client)
    (other : clientId ≠ some client.id ∨ client.connection ≠ connection) :
    next.active = some client := by
  have differ : clientId ≠ some client.id := by
    rcases other with differ | elsewhere
    · exact differ
    · intro same
      have mine : (state.phase connection).clientId? = some client.id := by
        rw [stands]
        exact same
      have theirs := Phase.clientId?_of_registeredId? (ownership.active_registered active)
      exact elsewhere (numbering.distinct theirs mine)
  simp only [step, stands, Option.some.injEq] at taken
  subst taken
  exact clear_eq_some.mpr ⟨active, differ⟩

/-- For any number of connections and any interleaving of their tasks, every
state of a run that draws fewer than 2^64 ids is safe. -/
theorem registry_safe {config : ServerConfig} {token : Token} {trace : List Action}
    {state : State} (reached : (registry config token).Reaches trace state)
    (few : draws trace < 2 ^ 64) : RegistrySafe config token trace state := by
  have invariant : Machine.InvariantUnder (registry config token) Machine.Unrestricted
      fun trace state => Sound trace state ∧ Admission config token trace state ∧
        (registry config token).Reaches trace state ∧ ∀ connection,
          state.closed connection = true → ClosedRightfully config token trace connection := by
    constructor
    · rintro _ rfl
      exact ⟨sound_start, admission_start, ⟨start, rfl, .refl⟩, fun _ shut => nomatch shut⟩
    · rintro trace state action next ⟨sound, admission, reached, closed⟩ _ taken
      refine ⟨sound_step sound taken, admission_step admission taken,
        reached.step trivial taken, fun connection shut => ?_⟩
      exact closedRightfully_step reached admission closed taken shut
  obtain ⟨sound, admission, _, closed⟩ := invariant.holds reached
  obtain ⟨numbering, ownership⟩ := sound few
  refine ⟨fun _ => admission.acted, fun _ => admission.active, ?_, closed,
    fun _ => ownership.active_registered, fun _ _ => ownership.held_unique, ?_, ?_⟩
  · intro action next connection taken opened shut
    exact rightfulClose_of_step admission taken opened shut
  · intro connection clientId next client stands taken active other
    exact cleanUp_keeps numbering ownership stands taken active other
  · intro idle
    cases active : state.active with
    | none => rfl
    | some client =>
        have registered := ownership.active_registered active
        rcases idle client.connection with fresh | finished
        · rw [fresh] at registered
          cases registered
        · rw [finished] at registered
          cases registered

/-- A connection that authenticates with the token of the server and offers room
for 1350 bytes in a datagram. -/
def arrive (token : Token) (connection : Nat) : List Action :=
  [.own connection .accept, .own connection .connect,
    .own connection (.authenticate (clientRequest token.text .vpn)),
    .own connection (.checkCapacity (some 1350)), .drawId connection]

/-- A client that comes in, displaces whoever is active and starts its pumps. -/
def join (token : Token) (connection : Nat) : List Action :=
  arrive token connection ++
    [.register connection, .closePrevious connection, .own connection .startPumps]

/-- Three clients in a row. The second is registered, but its task rests before
it closes the first; meanwhile the third registers, closes the second, and
starts its pumps. -/
def overlap (token : Token) : List Action :=
  join token 0 ++ arrive token 1 ++ [.register 1] ++ join token 2

theorem overlap_reaches : ∃ state, (registry {} sampleToken).Reaches (overlap sampleToken) state ∧
    state.phase 0 = .pumping 1 ∧ state.closed 0 = false ∧
      state.phase 2 = .pumping 3 ∧ state.closed 2 = false := by
  have executed : ((registry {} sampleToken).run start (overlap sampleToken)).map
      (fun state => (state.phase 0, state.closed 0, state.phase 2, state.closed 2)) =
        some (.pumping 1, false, .pumping 3, false) := by
    decide +kernel
  obtain ⟨state, run, observed⟩ := Option.map_eq_some_iff.mp executed
  simp only [Prod.mk.injEq] at observed
  exact ⟨state, ⟨start, rfl, Machine.runs_of_run run⟩, observed⟩

/-- The registry is safe at the end of the overlapping run of three clients. -/
theorem registry_safe_overlap :
    ∃ state, (registry {} sampleToken).Reaches (overlap sampleToken) state ∧
      draws (overlap sampleToken) < 2 ^ 64 ∧
        RegistrySafe {} sampleToken (overlap sampleToken) state := by
  obtain ⟨state, reached, _⟩ := overlap_reaches
  have few : draws (overlap sampleToken) < 2 ^ 64 := by decide
  exact ⟨state, reached, few, registry_safe reached few⟩

end LiteVpn.Server.Registry
