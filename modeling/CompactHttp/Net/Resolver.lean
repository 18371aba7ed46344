import CompactHttp.Net.Address
import CompactHttp.Net.KeyRecord

/-! # Finding hosts

A resolver is asked for the address of a host, and for the text records at a name. It is given by
what its operations do to a world, so it may fail, and may answer one thing now and another later.
The key of a host is that of the first record at its record name; whatever is wrong with it, or with
the lookup, the host is then used without a key.

There are two resolvers here. One answers from a table (`HostTable`), always the same. The other
asks the system (`Resolver.system`).
-/

namespace CompactHttp

/-- What the system says of something that failed: to a reader, and in full. -/
structure SystemFault where
  message : String
  detail : String
deriving DecidableEq, Repr

/-- Why a host has no address. -/
inductive ResolveError where
  | noAddresses (host : String)
  /-- Whoever was asked for the host could not answer. -/
  | lookup (host : String) (cause : SystemFault)
deriving DecidableEq, Repr

/-- What an error says. -/
def ResolveError.message : ResolveError → String
  | noAddresses host => "no addresses found for host: " ++ host
  | lookup host cause => "failed to resolve hostname " ++ host ++ ": " ++ cause.message

/-- A resolver in a world. -/
structure Resolver (World : Type) where
  /-- Finds the address of a host. -/
  lookup : String → World → Except ResolveError IpAddress × World
  /-- Finds the text records at a name, in their order. There may be none. -/
  texts : String → World → Except ResolveError (List String) × World

namespace Resolver

variable {World : Type}

/-- The key that is in what a lookup of text records has come to. -/
def keyIn (texts : Except ResolveError (List String)) : Option PeerKey :=
  texts.toOption.bind KeyRecord.key?

/-- The address of a host, and the key that it publishes. Both are looked up, whatever comes of
the first one. -/
def find (resolver : Resolver World) (host : String) (world : World) :
    (Except ResolveError IpAddress × Option PeerKey) × World :=
  let (address, world) := resolver.lookup host world
  let (texts, world) := resolver.texts (KeyRecord.nameOf host) world
  ((address, keyIn texts), world)

/-- The resolver that asks the system, which gives the addresses of a host in some order. A host
that is written as an address is its own address. The system has no text records. -/
def system (ask : String → World → Except SystemFault (List IpAddress) × World) :
    Resolver World where
  lookup host world :=
    match IpAddress.parse? host with
    | some address => (.ok address, world)
    | none =>
      match ask host world with
      | (.error cause, world) => (.error (.lookup host cause), world)
      | (.ok [], world) => (.error (.noAddresses host), world)
      | (.ok (address :: _), world) => (.ok address, world)
  texts _ world := (.ok [], world)

end Resolver

/-- Known addresses and text records. Of two addresses of one host the last one counts; text
records of one name stand in their order. -/
structure HostTable where
  hosts : List (String × IpAddress)
  records : List (String × String)

namespace HostTable

/-- The address of a host. One that is not in the table may be written as an address. -/
def address (table : HostTable) (host : String) : Except ResolveError IpAddress :=
  match table.hosts.reverse.lookup host with
  | some address => .ok address
  | none =>
    match IpAddress.parse? host with
    | some address => .ok address
    | none => .error (.noAddresses host)

/-- The text records at a name. -/
def recordsAt (table : HostTable) (name : String) : List String :=
  (table.records.filter fun record => record.1 == name).map Prod.snd

/-- The key that the first text record of a host publishes. -/
def key? (table : HostTable) (host : String) : Option PeerKey :=
  KeyRecord.key? (table.recordsAt (KeyRecord.nameOf host))

end HostTable

namespace Resolver

variable {World : Type}

/-- The resolver that answers from a table. -/
def ofTable (table : HostTable) : Resolver World where
  lookup host world := (table.address host, world)
  texts name world := (.ok (table.recordsAt name), world)

/-- A resolver that only knows hosts that are written as an address. -/
def literal : Resolver World := ofTable ⟨[], []⟩

/-- A table answers always the same, and changes nothing in the world. -/
@[simp]
theorem find_ofTable (table : HostTable) (host : String) (world : World) :
    (ofTable table).find host world = ((table.address host, table.key? host), world) := rfl

end Resolver

end CompactHttp
