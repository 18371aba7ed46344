import CompactHttp.Proofs.ConnectionState
import CompactHttp.Proofs.Decimals

/-! # Redirects to other hosts

The address text that a client makes of a host and a port is taken apart into the same host and
port again (`Client.splitAddress_addressText`), whatever colons the host has in it. So a redirect
to another host closes the link that is held, finds out the address of that very host, and dials
it once, at the port of the link before and with the key that the host publishes
(`Client.cross_host_redirect`). Where the link leads is known whenever there is one
(`Client.Situation.Known`), in the course of a call as well as between calls.
-/

namespace CompactHttp

/-- A text is cut at the last separator. -/
theorem splitAtLast_append {separator : Char} {front back : List Char}
    (apart : separator ∉ back) :
    splitAtLast separator (front ++ separator :: back) = some (front, back) := by
  have kept : (front ++ separator :: back).reverse.takeWhile (· ≠ separator) = back.reverse := by
    rw [List.reverse_append, List.reverse_cons, List.append_assoc, List.takeWhile_append_of_pos,
      List.singleton_append, List.takeWhile_cons_of_neg (by simp), List.append_nil]
    intro char member
    have other : char ≠ separator := by
      rintro rfl
      exact apart (List.mem_reverse.mp member)
    simpa using other
  have longer : (front ++ separator :: back).length = front.length + 1 + back.length := by
    rw [List.length_append, List.length_cons]
    omega
  unfold splitAtLast
  rw [kept, List.reverse_reverse, longer, if_neg (by omega),
    show front.length + 1 + back.length - back.length - 1 = front.length by omega, List.take_left]

namespace Client

/-! ## Address texts -/

/-- A host that can stand in an address text: it is not empty, and has no brackets in it. -/
structure Reachable (host : String) : Prop where
  named : host ≠ ""
  noOpening : '[' ∉ host.toList
  noClosing : ']' ∉ host.toList

variable {host : String} {port : UInt16}

/-- The part of an address text that stands before the port. -/
def hostChars (host : String) : List Char :=
  if ':' ∈ host.toList then '[' :: (host.toList ++ [']']) else host.toList

/-- An address is its host, a colon, and its port in digits. -/
theorem toList_addressText (host : String) (port : UInt16) :
    (addressText host port).toList = hostChars host ++ ':' :: (toString port.toNat).toList := by
  unfold addressText hostChars
  rw [String.contains_char_eq]
  by_cases colons : ':' ∈ host.toList
  · simp [colons]
  · simp [colons]

/-- What stands between brackets, or the whole where there are none. -/
def unwrapped (front : List Char) : List Char :=
  match front with
  | '[' :: inner => if inner.getLast? = some ']' then inner.dropLast else front
  | _ => front

/-- An address is taken apart at its last colon, and refused if its host is empty or has brackets
left in it. -/
theorem splitAddress_of_splitAtLast {text : String} {front back : List Char}
    (split : splitAtLast ':' text.toList = some (front, back)) : splitAddress text =
      if (unwrapped front).isEmpty ∨ (unwrapped front).contains '[' ∨
          (unwrapped front).contains ']' then none
      else
        (Number.unsignedBelow? (Nat.pow 2 16) (String.ofList back)).map fun number =>
          (String.ofList (unwrapped front), UInt16.ofNat number) := by
  unfold splitAddress
  rw [split]
  change (if (unwrapped front).isEmpty ∨ (unwrapped front).contains '[' ∨
    (unwrapped front).contains ']' then _ else _) = _
  cases Number.unsignedBelow? (Nat.pow 2 16) (String.ofList back) <;> rfl

/-- Brackets that were put around a host come off again. -/
theorem unwrapped_hostChars (noOpening : '[' ∉ host.toList) :
    unwrapped (hostChars host) = host.toList := by
  unfold hostChars
  by_cases colons : ':' ∈ host.toList
  · rw [if_pos colons, unwrapped, List.getLast?_concat, if_pos rfl, List.dropLast_concat]
  · rw [if_neg colons]
    unfold unwrapped
    split
    · next inner wrapped =>
      rw [wrapped] at noOpening
      exact absurd List.mem_cons_self noOpening
    · rfl

/-- An address text is taken apart into what it was made of. -/
theorem splitAddress_addressText (reachable : Reachable host) (port : UInt16) :
    splitAddress (addressText host port) = some (host, port) := by
  obtain ⟨named, noOpening, noClosing⟩ := reachable
  have digits : ':' ∉ (toString port.toNat).toList := fun member =>
    absurd (Number.isDigit_of_mem_toString member) (by decide)
  have split : splitAtLast ':' (addressText host port).toList =
      some (hostChars host, (toString port.toNat).toList) := by
    rw [toList_addressText, splitAtLast_append digits]
  have whole : ¬(host.toList.isEmpty = true ∨ host.toList.contains '[' = true ∨
      host.toList.contains ']' = true) := by
    simp [noOpening, noClosing, named]
  rw [splitAddress_of_splitAtLast split, unwrapped_hostChars noOpening, if_neg whole,
    String.ofList_toList, String.ofList_toList, Number.unsignedBelow?_toString port.toNat_lt,
    Option.map_some, UInt16.ofNat_toNat]

/-! ## Where links lead -/

variable {World Link Stream : Type} {client : Client World Link Stream}
  {situation : Situation World Link}

/-- A situation in which it is known where the link leads, if there is one. -/
def Situation.Known (situation : Situation World Link) : Prop :=
  ∀ link, situation.link = some link → ∃ remote, situation.remote = some remote

/-- To send a request and to take in the answer changes nothing about the link. -/
theorem link_answerTo (client : Client World Link Stream) (request : Request)
    (situation : Situation World Link) :
    (client.answerTo request situation).2.link = situation.link ∧
      (client.answerTo request situation).2.remote = situation.remote := by
  unfold answerTo
  cases linked : situation.link with
  | none => exact ⟨linked, rfl⟩
  | some link =>
    dsimp only
    match client.transport.openStream link situation.nextStream situation.world with
    | (.error fault, world) => exact ⟨linked, rfl⟩
    | (.ok stream, world) =>
      dsimp only
      match client.transport.write stream request.encode world with
      | (.error fault, later) => exact ⟨linked, rfl⟩
      | (.ok (), later) => exact ⟨linked, rfl⟩

/-- A round trip keeps a client that has a link knowing its remote end. -/
theorem Situation.Known.roundTrip (known : situation.Known) (request : Request) :
    (ending (client.roundTrip request situation)).Known := by
  obtain ⟨link, remote⟩ := client.link_answerTo request situation
  rw [ending_roundTrip, Known, link, remote]
  exact known

/-- A client that connects knows what it is connected to. -/
theorem Situation.Known.connect (known : situation.Known) (address : String) :
    (ending (client.connect address situation)).Known := by
  rw [connect_eq]
  cases splitAddress address with
  | none => exact known
  | some parts =>
    obtain ⟨host, port⟩ := parts
    dsimp only
    match client.resolver.find host situation.world with
    | ((.error fault, key), found) => exact known
    | ((.ok ip, key), found) =>
      dsimp only
      match client.transport.dial (.new ip port) key found with
      | (.error fault, world) => exact known
      | (.ok link, world) => exact fun _ _ => ⟨_, rfl⟩

theorem unlinked_of_none (none : situation.link = none) : client.unlinked situation = situation := by
  rw [unlinked, none]

/-- A client without its link need not know anything. -/
theorem known_unlinked (client : Client World Link Stream) (situation : Situation World Link) :
    (client.unlinked situation).Known := by
  intro link held
  rw [link_unlinked] at held
  cases held

/-- A client that follows a redirect knows where it has come to. -/
theorem Situation.Known.moveOn (known : situation.Known) (current host : String) :
    (ending (client.moveOn current host situation)).Known := by
  unfold Client.moveOn
  by_cases same : host = current
  · rw [if_pos same]
    exact known
  · rw [if_neg same, reconnect_eq]
    cases situation.remote with
    | none => exact known
    | some remote => exact (client.known_unlinked situation).connect _

/-- A client knows its remote end after every command. -/
theorem Situation.Known.perform (known : situation.Known) (command : Command) :
    (client.perform situation command).Known := by
  cases command with
  | connect address => exact known.connect address
  | close =>
    rw [Client.perform, close_eq]
    exact client.known_unlinked situation
  | request request =>
    exact ending_follow_of_kept (fun request _ here => here.roundTrip request)
      (fun current host _ here => here.moveOn current host) _ _ known

/-- A client that has a link knows its remote end after any commands. -/
theorem Situation.Known.run (known : situation.Known) (commands : List Command) :
    (client.run situation commands).Known := by
  induction commands generalizing situation with
  | nil => exact known
  | cons command rest ih => exact ih (known.perform command)

/-! ## What has been done when a call comes to a hop -/

section Hops

variable {hop reached : Hop World Link Stream} {left index : Nat}

/-- When a call comes to a hop it has done what is done for those before it, and what is done to
get to this one. -/
theorem follow_recorded_of_hops (here : (client.hops left hop)[index]? = some reached)
    (before : List (Operation Link Stream)) :
    client.recorded.follow left hop.request (hop.before.record (before ++ hop.arrival)) =
      client.recorded.follow (left - index) reached.request (reached.before.record
        (before ++ ((client.hops left hop).take index).flatMap client.operations ++
          reached.arrival)) := by
  induction left generalizing hop index before with
  | zero =>
    cases index with
    | zero =>
      cases here
      rw [List.take_zero, List.flatMap_nil, List.append_nil]
    | succ index => cases here
  | succ left ih =>
    cases index with
    | zero =>
      rw [hops_zero] at here
      cases here
      rw [List.take_zero, List.flatMap_nil, List.append_nil]
      rfl
    | succ index =>
      cases follows : client.next? hop with
      | none =>
        rw [hops_succ_of_last follows] at here
        cases here
      | some next =>
        rw [hops_succ_of_next? follows] at here ⊢
        rw [follow_recorded_of_next? follows, ih here, List.take_succ_cons, List.flatMap_cons,
          Nat.add_sub_add_right, operations]
        simp only [List.append_assoc]

end Hops

/-! ## Redirects -/

/-- A hop of a call is answered with a redirect to another host, which may be followed. -/
structure LeadsAway (client : Client World Link Stream) (request : Request)
    (situation : Situation World Link) (index : Nat) (hop : Hop World Link Stream)
    (answer : Response) (there : Situation World Link) (target : RedirectTarget) : Prop where
  here : (client.chain request situation)[index]? = some hop
  within : index < client.config.maxRedirects
  answered : client.roundTrip hop.request hop.before = .ok answer there
  redirects : answer.isRedirect = true
  led : Redirect.target answer hop.request.host = .ok target
  apart : target.host ≠ hop.request.host

section LeadsAway

variable {request : Request} {index : Nat} {hop : Hop World Link Stream} {answer : Response}
  {there : Situation World Link} {target : RedirectTarget} {link : Link} {remote : SocketAddress}

/-- What a client over a recorded transport has done by the time it moves to another host. -/
theorem LeadsAway.follow_recorded
    (leads : LeadsAway client request situation index hop answer there target)
    (before : List (Operation Link Stream)) :
    client.recorded.request request (situation.record before) =
      (client.recorded.reconnect target.host >>= fun _ =>
        client.recorded.follow (client.config.maxRedirects - (index + 1))
          (Redirect.followUp hop.request answer.status target))
        (there.record (before ++
          ((client.chain request situation).take (index + 1)).flatMap client.operations)) := by
  obtain ⟨here, within, answered, redirects, led, apart⟩ := leads
  have comes := follow_recorded_of_hops here before
  have start : before ++ ([] : List (Operation Link Stream)) = before := List.append_nil before
  rw [start] at comes
  have trip := client.roundTrip_recorded hop.request hop.before
    (before ++ ((client.chain request situation).take index).flatMap client.operations ++
      hop.arrival)
  rw [answered] at trip
  have done : before ++ ((client.chain request situation).take index).flatMap client.operations ++
      hop.arrival ++ client.sending hop.request hop.before =
        before ++ ((client.chain request situation).take (index + 1)).flatMap
          client.operations := by
    rw [List.take_add_one, here, Option.toList_some, List.flatMap_append, List.flatMap_singleton,
      operations]
    simp only [List.append_assoc]
  rw [done] at trip
  refine comes.trans ?_
  rw [show client.config.maxRedirects - index = client.config.maxRedirects - (index + 1) + 1 by
    omega]
  refine (follow_of_target trip redirects led _).trans ?_
  rw [moveOn, if_neg apart]

/-- A redirect to another host closes the link and makes one to that very host. -/
theorem reconnect_of_reachable {host : String} (reachable : Reachable host)
    (known : situation.remote = some remote) : client.reconnect host situation =
      match client.resolver.find host (client.unlinked situation).world with
      | ((.error fault, _), world) =>
        .error (.unresolved fault) { client.unlinked situation with world := world }
      | ((.ok ip, key), world) =>
        match client.transport.dial (.new ip remote.port) key world with
        | (.error fault, world) =>
          .error (.transport fault) { client.unlinked situation with world := world }
        | (.ok fresh, world) =>
          .ok () { client.unlinked situation with
            world := world, link := some fresh, remote := some (.new ip remote.port) } := by
  rw [reconnect_eq, known]
  dsimp only
  rw [connect_eq, splitAddress_addressText reachable]
  dsimp only
  match client.resolver.find host (client.unlinked situation).world with
  | ((.error fault, key), found) => rfl
  | ((.ok ip, key), found) =>
    dsimp only
    match client.transport.dial (.new ip remote.port) key found with
    | (.error fault, world) => rfl
    | (.ok fresh, world) =>
      have nothing : ({ client.unlinked situation with world := world } :
          Situation World Link).link = none := client.link_unlinked situation
      dsimp only
      rw [unlinked_of_none nothing]

/-- Moving to a host closes the link, asks the resolver for that host, and dials at most once: at
the port that the client had, with the key that was found. -/
theorem reconnecting_of_reachable {host : String} (reachable : Reachable host)
    (linked : situation.link = some link) (known : situation.remote = some remote) :
    client.reconnecting host situation =
      .closeLink link :: .lookup host :: .texts (KeyRecord.nameOf host) ::
        match client.resolver.find host (client.unlinked situation).world with
        | ((.error _, _), _) => []
        | ((.ok ip, key), _) => [.dial (.new ip remote.port) key] := by
  have nothing : closing (client.unlinked situation) = ([] : List (Operation Link Stream)) := by
    rw [closing, link_unlinked]
  rw [reconnecting, known]
  dsimp only
  rw [connecting, splitAddress_addressText reachable, closing, linked, nothing]
  dsimp only
  rcases client.resolver.find host (client.unlinked situation).world with ⟨⟨fault | ip, key⟩, world⟩
  · rfl
  · dsimp only
    split <;> rfl

/-- A redirect to another host is followed over a link to that host. -/
theorem LeadsAway.request_recorded
    (leads : LeadsAway client request situation index hop answer there target)
    (reachable : Reachable target.host) (linked : there.link = some link)
    (known : there.remote = some remote) (before : List (Operation Link Stream)) :
    let done := before ++
      ((client.chain request situation).take (index + 1)).flatMap client.operations ++
      [.closeLink link, .lookup target.host, .texts (KeyRecord.nameOf target.host)]
    let call := client.recorded.request request (situation.record before)
    match client.resolver.find target.host (client.unlinked there).world with
    | ((.error fault, _), world) =>
      call = .error (.unresolved fault) ({ client.unlinked there with world := world }.record done)
    | ((.ok ip, key), world) =>
      let dialed := done ++ [.dial (.new ip remote.port) key]
      match client.transport.dial (.new ip remote.port) key world with
      | (.error fault, world) =>
        call = .error (.transport fault) ({ client.unlinked there with world := world }.record dialed)
      | (.ok fresh, world) =>
        call = client.recorded.follow (client.config.maxRedirects - (index + 1))
          (Redirect.followUp hop.request answer.status target)
          ({ client.unlinked there with
            world := world, link := some fresh, remote := some (.new ip remote.port) }.record
              dialed) := by
  intro done call
  have comes := leads.follow_recorded before
  have move := client.reconnect_recorded target.host there (before ++
    ((client.chain request situation).take (index + 1)).flatMap client.operations)
  rw [reconnecting_of_reachable reachable linked known,
    reconnect_of_reachable reachable known] at move
  match found : client.resolver.find target.host (client.unlinked there).world with
  | ((.error fault, key), world) =>
    rw [found] at move
    exact comes.trans (bind_of_error move _)
  | ((.ok ip, key), later) =>
    rw [found] at move
    have dialing : done ++ [.dial (.new ip remote.port) key] = before ++
        ((client.chain request situation).take (index + 1)).flatMap client.operations ++
        [.closeLink link, .lookup target.host, .texts (KeyRecord.nameOf target.host),
          .dial (.new ip remote.port) key] := List.append_assoc _ [_, _, _] _
    dsimp only at move ⊢
    rw [← dialing] at move
    match dials : client.transport.dial (.new ip remote.port) key later with
    | (.error fault, world) =>
      rw [dials] at move
      exact comes.trans (bind_of_error move _)
    | (.ok fresh, world) =>
      rw [dials] at move
      exact comes.trans (bind_of_ok move _)

end LeadsAway

/-- The rest of a call begins with the request that comes next. -/
theorem follow_recorded_begins (client : Client World Link Stream) (left : Nat)
    (request : Request) (situation : Situation World Link)
    (operations : List (Operation Link Stream)) :
    ∃ later, client.recorded.follow left request (situation.record operations) =
      withRecord (operations ++ client.sending request situation ++ later)
        (client.follow left request situation) := by
  obtain ⟨trail, -, same⟩ := client.follow_recorded left ⟨[], request, situation⟩ operations
  obtain ⟨others, split⟩ : ∃ others, client.hops left ⟨[], request, situation⟩ =
      ⟨[], request, situation⟩ :: others := by
    cases left <;> exact ⟨_, rfl⟩
  rw [List.append_nil, split, List.flatMap_cons, Client.operations, List.nil_append] at same
  refine ⟨others.flatMap client.operations ++ trail, same.trans ?_⟩
  simp only [List.append_assoc]

/-- The address text of a host without brackets and a port is taken apart into them. So whatever
has been asked of a client before, and wherever its calls are redirected: when a call may follow a
redirect to another such host, it closes the link that the request went out on and finds out the
address of that host, and if it has one dials it once, at the port that the link before was dialed
to and with the key of that host; the next request goes out on the link that comes of it. Without
an address or a link the call ends there, and nothing more is done. -/
theorem cross_host_redirect (client : Client World Link Stream) (world : World)
    (commands : List Command) :
    (∀ host port, Reachable host → splitAddress (addressText host port) = some (host, port)) ∧
    let situation := client.run { world := world } commands
    ∀ request index hop answer there target before,
      LeadsAway client request situation index hop answer there target → Reachable target.host →
      ∃ link remote, hop.before.link = some link ∧ hop.before.remote = some remote ∧
        let call := client.recorded.request request (situation.record before)
        let done := before ++
          ((client.chain request situation).take (index + 1)).flatMap client.operations ++
          [.closeLink link, .lookup target.host, .texts (KeyRecord.nameOf target.host)]
        match client.resolver.find target.host (client.unlinked there).world with
        | ((.error fault, _), world) => call =
          .error (.unresolved fault) ({ client.unlinked there with world := world }.record done)
        | ((.ok ip, key), world) =>
          let dialed := done ++ [.dial (.new ip remote.port) key]
          match client.transport.dial (.new ip remote.port) key world with
          | (.error fault, world) => call =
            .error (.transport fault) ({ client.unlinked there with world := world }.record dialed)
          | (.ok fresh, world) =>
            let next := Redirect.followUp hop.request answer.status target
            let linked := { client.unlinked there with
              world := world, link := some fresh, remote := some (.new ip remote.port) }
            ∃ later, call = withRecord (dialed ++ client.sending next linked ++ later)
              (client.follow (client.config.maxRedirects - (index + 1)) next linked) := by
  refine ⟨fun host port reachable => splitAddress_addressText reachable port, ?_⟩
  intro situation request index hop answer there target before leads reachable
  have start : situation.Known := Situation.Known.run nofun commands
  have known : hop.before.Known :=
    before_of_kept (fun request _ here => here.roundTrip request)
      (fun current host _ here => here.moveOn current host) start leads.here
  obtain ⟨link, linked⟩ := linked_of_roundTrip leads.answered
  obtain ⟨remote, remembered⟩ := known link linked
  have kept := client.link_answerTo hop.request hop.before
  have ends := client.ending_roundTrip hop.request hop.before
  rw [leads.answered] at ends
  rw [← ends] at kept
  have comes := leads.request_recorded reachable (kept.1.trans linked)
    (kept.2.trans remembered) before
  refine ⟨link, remote, linked, remembered, ?_⟩
  intro call done
  match found : client.resolver.find target.host (client.unlinked there).world with
  | ((.error fault, key), world) =>
    rw [found] at comes
    exact comes
  | ((.ok ip, key), world) =>
    rw [found] at comes
    dsimp only at comes ⊢
    match dials : client.transport.dial (.new ip remote.port) key world with
    | (.error fault, world) =>
      rw [dials] at comes
      exact comes
    | (.ok fresh, world) =>
      rw [dials] at comes
      obtain ⟨later, same⟩ := client.follow_recorded_begins _ _ _ _
      exact ⟨later, comes.trans same⟩

/-- A client connects to a host, and a call is redirected from there to an address of eight
groups, which has colons in it. -/
theorem cross_host_redirect_sample :
    let client := scripted.resolving (.ofTable ⟨[("a.test", .v4 (.ofNat 1))], []⟩)
    let moved := Response.new 302 [] (.ofList [("host", "::1"), ("path", "/far")])
    let replies := [moved, .new 200 [1] .empty]
    let situation := client.run { world := replies } [.connect "a.test:80"]
    let request := Request.plain .get "a.test" "/"
    let hop : Hop (List Response) SocketAddress Unit :=
      ⟨[], client.withEncodings request, situation⟩
    let link := SocketAddress.new (.v4 (.ofNat 1)) 80
    let there : Situation (List Response) SocketAddress :=
      { world := [.new 200 [1] .empty], link := some link, remote := some link, nextStream := 1 }
    let address := SocketAddress.new (.v6 ⟨#v[0, 0, 0, 0, 0, 0, 0, 1]⟩) 80
    LeadsAway client request situation 0 hop moved there ⟨"::1", "/far"⟩ ∧ Reachable "::1" ∧
      ∃ later outcome, client.recorded.request request (situation.record []) =
        withRecord (client.operations hop ++
          [.closeLink link, .lookup "::1", .texts "_qotp.::1", .dial address none] ++ later)
          outcome := by
  intro client moved replies situation request hop link there address
  have answered : client.roundTrip hop.request hop.before = .ok moved there :=
    roundTrip_eq_ok_iff.mpr ⟨⟨[moved.encode], none⟩, rfl, by decide +kernel⟩
  have leads : LeadsAway client request situation 0 hop moved there ⟨"::1", "/far"⟩ :=
    ⟨hops_zero _ _ _, by decide, answered, by decide, by decide +kernel, by decide⟩
  have reachable : Reachable "::1" := ⟨by decide, by decide, by decide⟩
  obtain ⟨held, remote, linked, remembered, comes⟩ :=
    (cross_host_redirect client replies [.connect "a.test:80"]).2 request 0 hop moved there _ []
      leads reachable
  cases linked
  cases remembered
  have found : client.resolver.find "::1" (client.unlinked there).world =
      ((.ok address.ip, none), (client.unlinked there).world) := by
    rw [show client.resolver = .ofTable ⟨[("a.test", .v4 (.ofNat 1))], []⟩ from rfl,
      Resolver.find_ofTable]
    exact congrArg (·, _) (by decide +kernel)
  rw [found] at comes
  obtain ⟨later, same⟩ := comes
  exact ⟨leads, reachable, _, _, same⟩

end Client

end CompactHttp
