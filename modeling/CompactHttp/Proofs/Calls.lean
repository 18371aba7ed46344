import CompactHttp.Proofs.ClientActions
import CompactHttp.Traffic

/-! # What calls and services keep to

A call acts at the stream it holds, and holds no other afterwards. It waits on a stream for
the response only as long as it has waited there before, and when it has left the stream it
goes on without one. What it makes of fragments and of a response is what a client does with
them that is alone (`Call.takeResponse_of_reads`, `Client.follow_eq_goOn`). A service stays at
the stream that was accepted.
-/

namespace CompactHttp

namespace Call

variable {call after : Call} {stream held : StreamEnd} {deed : Deed} {received : Bytes}

/-- A call goes on without a stream. -/
theorem goOn_eq (call : Call) (request : Request) (outcome : Except ClientError Response) :
    ∃ left stage, call.goOn request outcome = { call with left := left, stage := stage } ∧
      stage.stream? = none := by
  unfold goOn
  cases outcome with
  | error error => exact ⟨_, _, rfl, rfl⟩
  | ok response =>
    dsimp only
    split
    · exact ⟨_, _, rfl, rfl⟩
    · split
      · exact ⟨_, _, rfl, rfl⟩
      · split
        · exact ⟨_, _, rfl, rfl⟩
        · split <;> exact ⟨_, _, rfl, rfl⟩

/-- A call that waits for an answer holds the stream that it waits on. -/
theorem stream?_of_awaits? {stage : Stage} (waits : stage.awaits? = some (stream, received)) :
    stage.stream? = some stream := by
  cases stage <;> cases waits <;> rfl

/-- What a call does on its stream leaves its settings alone. -/
theorem Acts.config (acts : call.Acts stream deed after) : after.config = call.config := by
  cases acts with
  | leaves staged =>
    obtain ⟨left, stage, goesOn, -⟩ := goOn_eq call _ _
    rw [goesOn]
  | _ => rfl

/-- What a call does by itself leaves its settings alone. -/
theorem Proceeds.config (proceeds : call.Proceeds after) : after.config = call.config := by
  cases proceeds <;> rfl

/-- At its own stream a call only goes on waiting. -/
theorem Acts.awaits? (acts : call.Acts stream deed after)
    (waits : after.stage.awaits? = some (held, received)) :
    ∃ before, call.stage.awaits? = some (held, before) := by
  cases acts with
  | sends staged =>
    cases waits
    exact ⟨[], staged ▸ rfl⟩
  | receives staged =>
    rename_i request buffer data
    refine ⟨buffer.held, ?_⟩
    match outcome : Client.takeFragment buffer data with
    | .ok (.inr more) =>
      rw [outcome] at waits
      cases waits
      exact staged ▸ rfl
    | .ok (.inl response) =>
      rw [outcome] at waits
      cases waits
    | .error error =>
      rw [outcome] at waits
      cases waits
  | leaves staged =>
    obtain ⟨left, stage, goesOn, nowhere⟩ := goOn_eq call _ _
    rw [goesOn] at waits
    cases nowhere.symm.trans (stream?_of_awaits? waits)
  | fails staged | ends staged | finishes staged => cases waits

/-- A call that waits after a step of its own waited before it. -/
theorem Proceeds.awaits? (proceeds : call.Proceeds after)
    (waits : after.stage.awaits? = some (held, received)) :
    ∃ before, call.stage.awaits? = some (held, before) := by
  cases proceeds with
  | sent staged =>
    cases waits
    exact ⟨[], staged ▸ rfl⟩
  | moved staged | lost error staged => cases waits

/-- A call acts on the stream that it holds. -/
theorem Acts.stream? (acts : call.Acts stream deed after) :
    call.stage.stream? = some stream := by
  cases acts with
  | sends staged | fails staged | receives staged | ends staged | finishes staged
  | leaves staged => rw [staged]; rfl

/-- A call that still holds a stream after an act holds the same one. -/
theorem Acts.stream?_after (acts : call.Acts stream deed after)
    (holds : after.stage.stream? = some held) : held = stream := by
  cases acts with
  | sends staged | fails staged | ends staged | finishes staged =>
    cases holds
    rfl
  | receives staged =>
    rename_i request buffer data
    unfold Stage.received at holds
    split at holds <;> cases holds <;> rfl
  | leaves staged =>
    obtain ⟨left, stage, goesOn, nowhere⟩ := goOn_eq call _ _
    rw [goesOn] at holds
    cases nowhere.symm.trans holds

/-- A step of its own gives a call no stream. -/
theorem Proceeds.stream? (proceeds : call.Proceeds after)
    (holds : after.stage.stream? = some held) : call.stage.stream? = some held := by
  cases proceeds with
  | sent staged =>
    cases holds
    exact staged ▸ rfl
  | moved staged | lost error staged => cases holds

/-- A call that reads fragments comes to what a client makes of them that has them all. -/
theorem takeResponse_of_reads {request : Request} {buffer : Reassembly} (fragments : List Bytes)
    (staged : call.stage = .receiving stream request buffer) :
    ∃ deeds, deeds <+: fragments.map .read ++ [.sawEnd] ∧
      Trace (fun call deed after => Call.Acts call stream deed after) call deeds { call with
        stage := .closing stream request (Client.takeResponseFrom buffer none fragments) } := by
  induction fragments generalizing call buffer with
  | nil => exact ⟨[.sawEnd], List.prefix_refl _, .cons (.ends staged) (.nil _)⟩
  | cons data rest ih =>
    have reads := @Acts.receives call stream request buffer data staged
    match outcome : Client.takeFragment buffer data with
    | .error error =>
      rw [outcome] at reads
      refine ⟨[.read data], ⟨_, rfl⟩, ?_⟩
      rw [Client.takeResponseFrom, outcome]
      exact .cons reads (.nil _)
    | .ok (.inl response) =>
      rw [outcome] at reads
      refine ⟨[.read data], ⟨_, rfl⟩, ?_⟩
      rw [Client.takeResponseFrom, outcome]
      exact .cons reads (.nil _)
    | .ok (.inr more) =>
      rw [outcome] at reads
      obtain ⟨deeds, front, onward⟩ :=
        @ih { call with stage := .receiving stream request more } more rfl
      refine ⟨.read data :: deeds, List.cons_prefix_cons.mpr ⟨rfl, front⟩, ?_⟩
      rw [Client.takeResponseFrom, outcome]
      exact .cons reads onward

end Call

namespace Client

variable {World Link Stream : Type} {client : Client World Link Stream}
  {situation after : Situation World Link} {request : Request} {response : Response}
  {call goesOn : Call}

/-- What a call makes of a response is what a client does with it. -/
theorem follow_eq_goOn (answered : client.roundTrip request situation = .ok response after)
    (codec : client.codec = .standard) (config : call.config = client.config)
    (onward : call.goOn request (.ok response) = goesOn) :
    (∀ result, goesOn.stage = .returned result →
      client.follow call.left request situation = finish result after) ∧
    (∀ next, goesOn.stage = .starting next →
      client.follow call.left request situation = client.follow goesOn.left next after) ∧
    ∀ next, goesOn.stage = .moving next → client.follow call.left request situation =
      (client.reconnect next.host >>= fun _ => client.follow goesOn.left next) after := by
  obtain ⟨party, conf, left, stage⟩ := call
  obtain rfl : conf = client.config := config
  subst onward
  unfold Call.goOn
  dsimp only
  split
  · next final =>
    rw [Bool.not_eq_true'] at final
    refine ⟨fun result same => ?_, nofun, nofun⟩
    cases same
    rw [follow_of_final answered final left, codec]
    rfl
  · next redirects =>
    rw [Bool.not_eq_true', Bool.not_eq_false] at redirects
    cases left with
    | zero =>
      refine ⟨fun result same => ?_, nofun, nofun⟩
      cases same
      exact follow_of_exhausted answered redirects
    | succ left =>
      dsimp only
      cases led : Redirect.target response request.host with
      | error fault =>
        refine ⟨fun result same => ?_, nofun, nofun⟩
        cases same
        exact follow_of_misled answered redirects led left
      | ok target =>
        rw [follow_of_target answered redirects led]
        dsimp only
        split
        · next same =>
          refine ⟨nofun, fun next goes => ?_, nofun⟩
          cases goes
          rw [moveOn, if_pos same]
          rfl
        · next apart =>
          refine ⟨nofun, nofun, fun next goes => ?_⟩
          cases goes
          rw [moveOn, if_neg apart, Redirect.host_followUp]

end Client

namespace Attendance

variable {size : Nat} {attendance after : Attendance} {deed : Deed}

/-- An attendance stays on its stream while it acts. -/
theorem Acts.stream (acts : attendance.Acts size deed after) :
    after.stream = attendance.stream := by
  cases acts <;> rfl

/-- An attendance stays on its stream while it proceeds by itself. -/
theorem Proceeds.stream (proceeds : attendance.Proceeds size after) :
    after.stream = attendance.stream := by
  cases proceeds
  rfl

end Attendance

end CompactHttp
