import CompactHttp.Proofs.Receiving
import CompactHttp.Proofs.Redirection
import CompactHttp.Proofs.SmallNames
import CompactHttp.Proofs.Unpacking

/-! # The ceiling of a client

No peer makes a client hold, decode or return more than its limit allows, neither with what it
sends nor with what that becomes when it is unpacked (`Client.response_ceiling`). A peer that
tries gets the call to fail with an error that says so. Only a client whose limit is the largest
number of sixty-four bits is stopped by whatever comes packed
(`Client.response_ceiling_crashes`).
-/

namespace CompactHttp.Client

variable {World Link Stream : Type} {client : Client World Link Stream}
  {hop : Hop World Link Stream} {left : Nat}

/-- What a round trip returns was decoded from no more bytes than the limit allows. -/
theorem exists_message_of_roundTrip {request : Request} {response : Response}
    {situation after : Situation World Link}
    (answered : client.roundTrip request situation = .ok response after) :
    response.body.length ≤ client.config.maxResponseSize ∧ response.headers.SmallNames := by
  obtain ⟨incoming, -, takes⟩ := roundTrip_eq_ok_iff.mp answered
  obtain ⟨message, short, decoded⟩ := takeResponseFrom_eq_ok (Nat.zero_le _) takes
  exact ⟨Nat.le_trans (Response.exists_of_decode decoded).1 short,
    Response.smallNames_of_decode decoded⟩

/-- What is unpacked is within the limit, is not said to be packed any more, and is as long as it
says. -/
theorem sound_of_unpackWith {codec : Codec} {limit : Nat} {answer response : Response}
    (short : answer.body.length ≤ limit) (small : answer.headers.SmallNames)
    (unpacks : unpackWith codec limit answer = .ok response) :
    response.body.length ≤ limit ∧
      (∀ entry ∈ response.headers.entries,
        Headers.sameName entry.1 "content-encoding" = true → entry.2 = "") ∧
      ((answer.headers.get? "content-encoding").getD "" ≠ "" →
        response.headers.get? "content-length" = some (toString response.body.length)) := by
  have coding : lowercase "content-encoding" = "content-encoding" :=
    lowercase_of_plain (by decide)
  have length : lowercase "content-length" = "content-length" := lowercase_of_plain (by decide)
  obtain ⟨plain, rfl⟩ | ⟨word, encoding, body, -, -, -, decompresses, rfl⟩ :=
    unpackWith_eq_ok_iff.mp unpacks
  · refine ⟨short, ?_, fun packed => absurd plain packed⟩
    intro entry member same
    have named := small.eq_of_sameName (List.mem_map_of_mem member) coding same
    have found := (Headers.get?_eq_some_iff response.headers entry.1 entry.2).mpr member
    rw [named] at found
    rwa [found] at plain
  · refine ⟨Codec.length_le_of_decompress decompresses, ?_, ?_⟩
    · intro entry member same
      have still : (unpacked answer body).headers.SmallNames := (small.keep _).insert length
      have named := still.eq_of_sameName (List.mem_map_of_mem member) coding same
      have found := (Headers.get?_eq_some_iff _ entry.1 entry.2).mpr member
      rw [named] at found
      simp [unpacked] at found
    · intro packed
      simp [unpacked]

section Packed

variable {request : Request} {situation there : Situation World Link} {answer : Response}
  {word : String} {encoding : Encoding}

/-- A call whose last answer is packed ends as the body of that answer is unpacked. -/
theorem request_of_packed (member : hop ∈ client.chain request situation)
    (answered : client.roundTrip hop.request hop.before = .ok answer there)
    (final : answer.isRedirect = false)
    (named : answer.headers.get? "content-encoding" = some word)
    (names : Encoding.parse word = .ok encoding) : client.request request situation =
      match client.codec.decompress encoding client.config.maxResponseSize answer.body with
      | .error fault => .error (.undecodable fault) there
      | .ok body => .ok (unpacked answer body) there := by
  obtain ⟨rest, comes⟩ := request_of_mem member
  rw [comes, follow_of_final answered final, unpackWith_of_word named names]
  cases client.codec.decompress encoding client.config.maxResponseSize answer.body <;> rfl

end Packed

/-- A client holds and decodes no more than its limit while it reads a response, however the
response comes. It fails when it would have to hold more of what makes no response yet, and
when a body becomes more as it is unpacked, as long as there is one byte more than its limit; if
there is not, any body that is packed stops it. What it returns is within the limit, is not packed,
and is as long as it says if it has been unpacked. -/
theorem response_ceiling (client : Client World Link Stream) (request : Request)
    (situation : Situation World Link) :
    let limit := client.config.maxResponseSize
    (∀ hop ∈ client.chain request situation, ∀ incoming there,
      client.answerTo hop.request hop.before = (.ok incoming, there) →
      (∀ front fragment rest buffer, incoming.fragments = front ++ fragment :: rest →
        Holds (.start .response limit) front buffer →
        takeResponse limit incoming = takeResponseFrom buffer incoming.fault (fragment :: rest) ∧
        buffer.held.length ≤ limit ∧ (buffer.push fragment).2.held.length ≤ limit ∧
        (buffer.push fragment).2.next.2.held.length ≤ limit ∧
        ∀ message, (buffer.push fragment).2.next.1 = .ok (some message) →
          message.length ≤ limit) ∧
      (limit < incoming.fragments.flatten.length →
        Response.length? (incoming.fragments.flatten.take limit) = .ok none →
        client.request request situation = .error (.responseTooLarge limit) there)) ∧
    (∀ hop ∈ client.chain request situation, ∀ answer there word encoding,
      client.roundTrip hop.request hop.before = .ok answer there →
      answer.isRedirect = false →
      answer.headers.get? "content-encoding" = some word → Encoding.parse word = .ok encoding →
      answer.body ≠ [] →
      (limit + 1 < Nat.pow 2 64 →
        limit < (client.codec.decode encoding answer.body).bytes.length →
        client.request request situation = .error (.undecodable (.tooLarge limit)) there) ∧
      (limit + 1 = Nat.pow 2 64 →
        client.request request situation = .error (.undecodable (.crashed .overflow)) there)) ∧
    (∀ response after, client.request request situation = .ok response after →
      response.body.length ≤ limit ∧
      (∀ entry ∈ response.headers.entries,
        Headers.sameName entry.1 "content-encoding" = true → entry.2 = "") ∧
      ∃ hop ∈ client.chain request situation, ∃ answer,
        client.roundTrip hop.request hop.before = .ok answer after ∧
        unpackWith client.codec limit answer = .ok response ∧
        ((answer.headers.get? "content-encoding").getD "" ≠ "" →
          response.headers.get? "content-length" = some (toString response.body.length))) ∧
    (ClientError.responseTooLarge limit).isPolicy = true ∧
    (ClientError.undecodable (.tooLarge limit)).isPolicy = true := by
  intro limit
  refine ⟨?_, ?_, ?_, rfl, rfl⟩
  · intro hop member incoming there answered
    refine ⟨?_, ?_⟩
    · intro front fragment rest buffer arrives holds
      have comes : takeResponse limit incoming =
          takeResponseFrom buffer incoming.fault (fragment :: rest) := by
        rw [takeResponse, arrives]
        exact takeResponseFrom_of_holds holds incoming.fault (fragment :: rest)
      refine ⟨comes, ?_⟩
      -- A push that is refused leaves the buffer within the limit, and taking shortens it.
      obtain ⟨rfl, within⟩ := holds.eq rfl (Nat.zero_le limit)
      have held : Reassembly.Reached .response limit ⟨.response, limit, [] ++ front.flatten⟩ :=
        Reassembly.Reached.start.push
          (Reassembly.push_of_le (by simpa [Reassembly.start] using within))
      generalize (⟨.response, limit, [] ++ front.flatten⟩ : Reassembly) = buffer at held ⊢
      have pushed : Reassembly.Reached .response limit (buffer.push fragment).2 := held.push rfl
      have asked : Reassembly.Reached .response limit (buffer.push fragment).2.next.2 :=
        pushed.next rfl
      refine ⟨held.held_le.2, pushed.held_le.2, asked.held_le.2, ?_⟩
      intro message taken
      exact Nat.le_trans (Reassembly.length_le_of_next taken) pushed.held_le.2
    · intro long unknown
      obtain ⟨rest, comes⟩ := request_of_mem member
      have failed : client.roundTrip hop.request hop.before =
          .error (.responseTooLarge limit) there := by
        rw [roundTrip_eq, answered]
        exact finish_eq_error_iff.mpr
          ⟨takeResponseFrom_of_overflow _ (Nat.zero_le limit) long unknown, rfl⟩
      exact comes.trans (follow_of_unanswered failed rest)
  · intro hop member answer there word encoding answered final named names something
    have comes := request_of_packed member answered final named names
    refine ⟨fun counted large => ?_, fun last => ?_⟩
    · rw [comes, Codec.decompress_eq encoding something counted, if_pos large]
    · rw [comes, Codec.decompress_of_uncounted _ encoding something
        (Nat.not_lt.mpr (Nat.le_of_eq last.symm))]
  · intro response after returns
    obtain ⟨hop, member, answer, answered, unpacks⟩ := exists_hop_of_request returns
    obtain ⟨short, small⟩ := exists_message_of_roundTrip answered
    obtain ⟨within, plain, counted⟩ := sound_of_unpackWith short small unpacks
    exact ⟨within, plain, hop, member, answer, answered, unpacks, counted⟩

/-- A response of twenty bytes and more passes a limit of eight. -/
example :
    (match { scripted with config := { maxResponseSize := 8 } }.request (.plain .get "a" "/")
        (.scripted [.new 200 (List.replicate 20 7) .empty]) with
      | .ok _ _ => none
      | .error error _ => some error) = some (.responseTooLarge 8) := by
  decide +kernel

/-- A client whose limit is the largest number of sixty-four bits, and whose programs make more
bytes than that of any body. -/
def unlimited : Client (List Response) SocketAddress Unit :=
  { scripted with
    config := { maxResponseSize := 18446744073709551615 }
    codec :=
      { encode := fun _ _ => none
        decode := fun _ _ => .emit (.replicate 18446744073709551616 0) fun _ => .finished } }

/-- Under the largest limit a body that would become larger stops the client instead of making its
call fail, and so does one that stays far below the limit: it stands for one byte. -/
theorem response_ceiling_crashes :
    let packed := Response.new 200 [0x28, 0xB5, 0x2F, 0xFD, 0x20, 1, 9, 0, 0, 97]
      (.ofList [("content-encoding", "zstd")])
    let situation := Situation.scripted [packed]
    let request := Request.plain .get "a" "/"
    let there := { situation with world := [], nextStream := 1 }
    (∃ hop ∈ unlimited.chain request situation, ∃ answer,
      unlimited.roundTrip hop.request hop.before = .ok answer there ∧
      answer.headers.get? "content-encoding" = some "zstd" ∧ answer.body = packed.body ∧
      unlimited.config.maxResponseSize <
        (unlimited.codec.decode .zstd answer.body).bytes.length) ∧
    unlimited.request request situation = .error (.undecodable (.crashed .overflow)) there ∧
    (Codec.standard.decode .zstd packed.body).bytes = [97] ∧
    { unlimited with codec := .standard }.request request situation =
      .error (.undecodable (.crashed .overflow)) there := by
  intro packed situation request there
  have decoded : takeResponse 18446744073709551615 ⟨[packed.encode], none⟩ = .ok packed := by
    decide +kernel
  have named : packed.headers.get? "content-encoding" = some "zstd" := by decide +kernel
  have something : packed.body ≠ [] := List.cons_ne_nil _ _
  -- However bodies are unpacked, this one stops the client.
  have stops (codec : Codec) : ∃ hop ∈ { unlimited with codec := codec }.chain request situation,
      { unlimited with codec := codec }.roundTrip hop.request hop.before = .ok packed there ∧
        { unlimited with codec := codec }.request request situation =
          .error (.undecodable (.crashed .overflow)) there := by
    let client := { unlimited with codec := codec }
    have member : (⟨[], client.withEncodings request, situation⟩ : Hop _ _ Unit) ∈
        client.chain request situation := List.mem_of_getElem? (hops_zero _ _ _)
    have answered : client.roundTrip (client.withEncodings request) situation =
        .ok packed there := roundTrip_eq_ok_iff.mpr ⟨_, rfl, decoded⟩
    refine ⟨_, member, answered, ?_⟩
    have uncounted : ¬client.config.maxResponseSize + 1 < Nat.pow 2 64 :=
      Nat.lt_irrefl 18446744073709551616
    rw [request_of_packed member answered rfl named (Encoding.parse_token .zstd),
      Codec.decompress_of_uncounted _ _ something uncounted]
  obtain ⟨hop, member, answered, stopped⟩ := stops unlimited.codec
  obtain ⟨-, -, -, stoppedToo⟩ := stops .standard
  refine ⟨⟨hop, member, packed, answered, named, rfl, ?_⟩, stopped, by decide +kernel, stoppedToo⟩
  rw [show (unlimited.codec.decode .zstd packed.body).bytes =
    List.replicate 18446744073709551616 0 ++ [] from rfl, List.append_nil, List.length_replicate]
  decide

end CompactHttp.Client
