import CompactHttp.Proofs.Recording
import CompactHttp.Simulation

/-! # Keys that are published and keys that are not

Whether the text records of a host hold a key, and whatever else they hold, a client that connects
to the host ends as it would without them: over a transport to which keys make no difference
(`Transport.KeyBlind`) two clients that know the same hosts and other records dial the same
address, and then hold the same link or fail with the same error (`Client.key_discovery_unseen`).
The network within one process is such a transport: it only writes down what it was dialed with
(`Simulation.keyBlind`).
-/

namespace CompactHttp

variable {World Link Stream : Type}

/-- A transport to which it makes no difference with which keys links are dialed, in worlds that
are alike but for what those keys have left behind. -/
structure Transport.KeyBlind (transport : Transport World Link Stream)
    (Alike : World → World → Prop) : Prop where
  dial : ∀ {world other : World}, Alike world other → ∀ address key given,
    (transport.dial address key world).1 = (transport.dial address given other).1 ∧
      Alike (transport.dial address key world).2 (transport.dial address given other).2
  closeLink : ∀ {world other : World}, Alike world other → ∀ link,
    Alike (transport.closeLink link world) (transport.closeLink link other)

/-! ## The network within one process -/

namespace Simulation

/-- Simulations that differ at most in what has been dialed. -/
def Alike (simulation other : Simulation) : Prop :=
  { simulation.network with dials := [] } = { other.network with dials := [] } ∧
    simulation.sites = other.sites

theorem Alike.refl (simulation : Simulation) : simulation.Alike simulation := ⟨rfl, rfl⟩

/-- Keys make no difference to the network within one process, which only remembers them. -/
theorem keyBlind : transport.KeyBlind Alike where
  dial := by
    rintro ⟨network, sites⟩ ⟨other, sitesToo⟩ ⟨same, rfl⟩ address key given
    obtain ⟨size, listeners, links, streams, dials⟩ := network
    obtain ⟨sizeToo, listenersToo, linksToo, streamsToo, dialsToo⟩ := other
    cases same
    simp only [transport, lift, LocalNetwork.dial, LocalNetwork.boundTo?]
    cases listeners.findIdx? fun listener => listener.isLive && listener.address == address with
    | none => exact ⟨rfl, rfl, rfl⟩
    | some listener => exact ⟨rfl, rfl, rfl⟩
  closeLink := by
    rintro ⟨network, sites⟩ ⟨other, sitesToo⟩ ⟨same, rfl⟩ link
    obtain ⟨size, listeners, links, streams, dials⟩ := network
    obtain ⟨sizeToo, listenersToo, linksToo, streamsToo, dialsToo⟩ := other
    cases same
    exact ⟨rfl, rfl⟩

end Simulation

/-! ## Connecting -/

namespace HostTable

variable {table : HostTable} {host : String} {key : PeerKey}

/-- The first text record of a name. -/
def firstRecord? (records : List (String × String)) (name : String) : Option String :=
  (records.find? fun record => record.1 == name).map Prod.snd

/-- The first record that a table has at a name. -/
theorem head?_recordsAt (table : HostTable) (name : String) :
    (table.recordsAt name).head? = firstRecord? table.records name := by
  rw [recordsAt, List.head?_map, List.head?_filter]
  rfl

/-- A host has the key that its first record holds, if it holds one. -/
theorem key?_eq_some_iff : table.key? host = some key ↔
    ∃ record, firstRecord? table.records (KeyRecord.nameOf host) = some record ∧
      KeyRecord.parse record KeyRecord.transportVersion = .ok key := by
  have accepted (record : String) :
      (KeyRecord.parse record KeyRecord.transportVersion).toOption = some key ↔
        KeyRecord.parse record KeyRecord.transportVersion = .ok key := by
    cases KeyRecord.parse record KeyRecord.transportVersion <;> simp [Except.toOption]
  simp only [key?, KeyRecord.key?, head?_recordsAt, Option.bind_eq_bind, Option.bind_eq_some_iff,
    accepted]

/-- Text records make no difference to the address of a host. -/
theorem address_congr (hosts : List (String × IpAddress)) (records others : List (String × String))
    (host : String) : address ⟨hosts, records⟩ host = address ⟨hosts, others⟩ host := rfl

end HostTable

namespace Client

/-- A client that finds hosts in another way. -/
def resolving (client : Client World Link Stream) (resolver : Resolver World) :
    Client World Link Stream :=
  { client with resolver := resolver }

/-- Situations that are the same, in worlds that are alike. -/
structure Situation.Matches (Alike : World → World → Prop)
    (situation other : Situation World Link) : Prop where
  world : Alike situation.world other.world
  link : situation.link = other.link
  remote : situation.remote = other.remote
  nextStream : situation.nextStream = other.nextStream

/-- Actions that end alike: with the same result or the same error. -/
inductive EndsMatch {Result : Type} (Alike : World → World → Prop) :
    EStateM.Result ClientError (Situation World Link) Result →
      EStateM.Result ClientError (Situation World Link) Result → Prop where
  | ok {result : Result} {after other : Situation World Link} :
      after.Matches Alike other → EndsMatch Alike (.ok result after) (.ok result other)
  | error {error : ClientError} {after other : Situation World Link} :
      after.Matches Alike other → EndsMatch Alike (.error error after) (.error error other)

variable {client : Client World Link Stream} {Alike : World → World → Prop}
  {situation other : Situation World Link}

/-- Situations that match do so without their links. -/
theorem Situation.Matches.unlinked (blind : client.transport.KeyBlind Alike)
    (same : situation.Matches Alike other) :
    (client.unlinked situation).Matches Alike (client.unlinked other) := by
  unfold Client.unlinked
  rw [← same.link]
  cases situation.link with
  | none => exact same
  | some link => exact ⟨blind.closeLink same.world link, rfl, same.remote, same.nextStream⟩

/-- Clients that know the same hosts connect alike. -/
theorem endsMatch_connect (blind : client.transport.KeyBlind Alike)
    (same : situation.Matches Alike other) (hosts : List (String × IpAddress))
    (records others : List (String × String)) (address : String) :
    EndsMatch Alike ((client.resolving (.ofTable ⟨hosts, records⟩)).connect address situation)
      ((client.resolving (.ofTable ⟨hosts, others⟩)).connect address other) := by
  rw [connect_eq, connect_eq]
  cases splitAddress address with
  | none => exact .error same
  | some parts =>
    obtain ⟨host, port⟩ := parts
    dsimp only [resolving]
    rw [Resolver.find_ofTable, Resolver.find_ofTable,
      HostTable.address_congr hosts records others host]
    cases HostTable.address ⟨hosts, others⟩ host with
    | error fault => exact .error ⟨same.world, same.link, same.remote, same.nextStream⟩
    | ok ip =>
      have dials := blind.dial same.world (.new ip port)
        (HostTable.key? ⟨hosts, records⟩ host) (HostTable.key? ⟨hosts, others⟩ host)
      dsimp only
      revert dials
      generalize client.transport.dial (.new ip port) (HostTable.key? ⟨hosts, records⟩ host)
        situation.world = dialed
      generalize client.transport.dial (.new ip port) (HostTable.key? ⟨hosts, others⟩ host)
        other.world = dialedToo
      obtain ⟨outcome, world⟩ := dialed
      obtain ⟨outcomeToo, worldToo⟩ := dialedToo
      rintro ⟨rfl, alike⟩
      cases outcome with
      | error fault => exact .error ⟨alike, same.link, same.remote, same.nextStream⟩
      | ok link =>
        have there : ({ situation with world := world } : Situation World Link).Matches Alike
            { other with world := worldToo } :=
          ⟨alike, same.link, same.remote, same.nextStream⟩
        have closed := there.unlinked blind
        exact .ok ⟨closed.world, rfl, rfl, closed.nextStream⟩

/-- What is dialed to connect to an address. -/
theorem dialed_connecting_eq (client : Client World Link Stream) (address : String)
    (situation : Situation World Link) :
    Operation.dialed (client.connecting address situation) =
      match splitAddress address with
      | none => []
      | some (host, port) =>
        match client.resolver.find host situation.world with
        | ((.error _, _), _) => []
        | ((.ok ip, key), _) => [(.new ip port, key)] := by
  unfold connecting
  cases splitAddress address with
  | none => rfl
  | some parts =>
    obtain ⟨host, port⟩ := parts
    dsimp only
    rw [Operation.dialed_find]
    match client.resolver.find host situation.world with
    | ((.error fault, key), found) => rfl
    | ((.ok ip, key), found) =>
      dsimp only
      rw [Operation.dialed_dial]
      split
      · rfl
      · rw [dialed_closing]

/-- Whether the first text record of the host of an address holds a key. -/
def Publishes (records : List (String × String)) (address : String) (key : PeerKey) : Prop :=
  ∃ host port record, splitAddress address = some (host, port) ∧
    HostTable.firstRecord? records (KeyRecord.nameOf host) = some record ∧
    KeyRecord.parse record KeyRecord.transportVersion = .ok key

/-- A link is dialed once at most, and with the key that the host publishes. -/
theorem dialed_connecting_cases (client : Client World Link Stream)
    (hosts : List (String × IpAddress)) (records : List (String × String)) (address : String)
    (situation : Situation World Link) :
    let caller := client.resolving (.ofTable ⟨hosts, records⟩)
    (Operation.dialed (caller.connecting address situation)).length ≤ 1 ∧
      ∀ dial ∈ Operation.dialed (caller.connecting address situation), ∀ key,
        dial.2 = some key ↔ Publishes records address key := by
  intro caller
  rw [dialed_connecting_eq]
  match split : splitAddress address with
  | none => simp
  | some (host, port) =>
    dsimp only [caller, resolving]
    rw [Resolver.find_ofTable]
    cases HostTable.address ⟨hosts, records⟩ host with
    | error fault => simp
    | ok ip =>
      refine ⟨Nat.le_refl 1, fun dial member key => ?_⟩
      rw [List.mem_singleton.mp member, HostTable.key?_eq_some_iff]
      constructor
      · rintro ⟨record, first, parses⟩
        exact ⟨host, port, record, split, first, parses⟩
      · rintro ⟨host, port, record, here, first, parses⟩
        cases split.symm.trans here
        exact ⟨record, first, parses⟩

/-- Two clients that know the same hosts, but not the same text records, connect to any address
with the same end: the same error, or a link to the same address in the same place. On the way
they dial the same addresses. Only the keys that they dial with may differ: each dials with
the key that the first record of the host holds, if it can be used, and else without one. -/
theorem key_discovery_unseen (blind : client.transport.KeyBlind Alike)
    (same : situation.Matches Alike other) (hosts : List (String × IpAddress))
    (records others : List (String × String)) (address : String) :
    let first := client.resolving (.ofTable ⟨hosts, records⟩)
    let second := client.resolving (.ofTable ⟨hosts, others⟩)
    EndsMatch Alike (first.connect address situation) (second.connect address other) ∧
    ∃ done doneToo : List (Operation Link Stream),
      first.recorded.connect address (situation.record []) =
        withRecord done (first.connect address situation) ∧
      second.recorded.connect address (other.record []) =
        withRecord doneToo (second.connect address other) ∧
      (Operation.dialed done).map Prod.fst = (Operation.dialed doneToo).map Prod.fst ∧
      (Operation.dialed done).length ≤ 1 ∧
      (∀ dial ∈ Operation.dialed done, ∀ key,
        dial.2 = some key ↔ Publishes records address key) ∧
      ∀ dial ∈ Operation.dialed doneToo, ∀ key,
        dial.2 = some key ↔ Publishes others address key := by
  intro first second
  obtain ⟨once, keys⟩ := client.dialed_connecting_cases hosts records address situation
  obtain ⟨-, keysToo⟩ := client.dialed_connecting_cases hosts others address other
  refine ⟨endsMatch_connect blind same hosts records others address,
    first.connecting address situation, second.connecting address other,
    first.connect_recorded address situation [], second.connect_recorded address other [],
    ?_, once, keys, keysToo⟩
  rw [dialed_connecting_eq, dialed_connecting_eq]
  cases splitAddress address with
  | none => rfl
  | some parts =>
    dsimp only [first, second, resolving]
    rw [Resolver.find_ofTable, Resolver.find_ofTable,
      HostTable.address_congr hosts records others]
    cases HostTable.address ⟨hosts, others⟩ parts.1 <;> rfl

/-- Two records in different order, of which only the first counts: one client dials with the key,
the other without, and both get the same. -/
theorem key_discovery_unseen_sample :
    let client : Client Simulation LinkId StreamEnd :=
      { transport := Simulation.transport, resolver := .literal }
    let address := SocketAddress.new (.v4 (.ofNat 0x0A000001)) 80
    let situation : Situation Simulation LinkId :=
      { world := ⟨{ fragmentSize := 1200, listeners := [{ address := address }] }, []⟩ }
    let hosts := [("a.test", IpAddress.v4 (.ofNat 0x0A000001))]
    let good := ("_qotp.a.test", "k=AAAAAAAAAAAAAAAAAAAAAAAAAAAAAAAAAAAAAAAAAAA=; v=0")
    let bad := ("_qotp.a.test", "v=7;k=AAAAAAAAAAAAAAAAAAAAAAAAAAAAAAAAAAAAAAAAAAA=")
    let first := client.resolving (.ofTable ⟨hosts, [good, bad]⟩)
    let second := client.resolving (.ofTable ⟨hosts, [bad, good]⟩)
    Simulation.transport.KeyBlind Simulation.Alike ∧
      situation.Matches Simulation.Alike situation ∧
      HostTable.key? ⟨hosts, [good, bad]⟩ "a.test" = some ⟨List.replicate 32 0, rfl⟩ ∧
      HostTable.key? ⟨hosts, [bad, good]⟩ "a.test" = none ∧
      EndsMatch Simulation.Alike (first.connect "a.test:80" situation)
        (second.connect "a.test:80" situation) := by
  intro client address situation hosts good bad first second
  have same : situation.Matches Simulation.Alike situation := ⟨.refl _, rfl, rfl, rfl⟩
  exact ⟨Simulation.keyBlind, same, by decide +kernel, by decide +kernel,
    (key_discovery_unseen Simulation.keyBlind same hosts [good, bad] [bad, good] "a.test:80").1⟩

end Client


end CompactHttp
