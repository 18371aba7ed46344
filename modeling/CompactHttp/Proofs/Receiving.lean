import CompactHttp.Client.Response
import CompactHttp.Proofs.Reassembly

/-! # Taking in a response

What a client makes of a fragment depends on the bytes that it holds already: they make a
message, or more are waited for, or they are too many. On its way through the fragments a client
comes to hold buffers (`Client.Holds`), each of them within the limit. It never decodes more bytes
than the limit allows, and gives up when it would have to hold more without knowing that they make
a message (`Client.takeResponseFrom_of_overflow`).
-/

namespace CompactHttp.Client

variable {limit : Nat} {received data : Bytes}

/-- A fragment that fits is put behind the others, and a response is taken once it is all there. -/
theorem takeFragment_of_le (fits : received.length + data.length ≤ limit) :
    takeFragment ⟨.response, limit, received⟩ data =
      match MessageKind.response.length? (received ++ data) with
      | .error fault => .error (.malformed fault)
      | .ok none => .ok (.inr ⟨.response, limit, received ++ data⟩)
      | .ok (some size) =>
        match Response.decode ((received ++ data).take size) with
        | .ok response => .ok (.inl response)
        | .error fault => .error (.malformed fault) := by
  unfold takeFragment Reassembly.next
  rw [@Reassembly.push_of_le ⟨.response, limit, received⟩ _ fits]
  dsimp only
  match MessageKind.response.length? (received ++ data) with
  | .error fault => rfl
  | .ok none => rfl
  | .ok (some size) => rfl

/-- More is asked for while the length of the response is not known. -/
theorem takeFragment_eq_more {buffer : Reassembly}
    (more : takeFragment ⟨.response, limit, received⟩ data = .ok (.inr buffer)) :
    buffer = ⟨.response, limit, received ++ data⟩ ∧
      MessageKind.response.length? (received ++ data) = .ok none := by
  by_cases fits : received.length + data.length ≤ limit
  · rw [takeFragment_of_le fits] at more
    split at more
    · cases more
    · next waits =>
      cases more
      exact ⟨rfl, waits⟩
    · split at more <;> cases more
  · unfold takeFragment at more
    rw [@Reassembly.push_of_lt ⟨.response, limit, received⟩ _ (Nat.lt_of_not_le fits)] at more
    cases more

/-- From the beginning of a response a client takes the response, or it waits for more. -/
theorem takeFragment_of_prefix {reply : Bytes} {response : Response}
    (begins : received ++ data <+: reply) (short : reply.length ≤ limit)
    (known : MessageKind.response.length? reply = .ok (some reply.length))
    (decoded : Response.decode reply = .ok response) :
    takeFragment ⟨.response, limit, received⟩ data = .ok (.inl response) ∨
      ∃ more, takeFragment ⟨.response, limit, received⟩ data = .ok (.inr more) := by
  have long := begins.length_le
  rw [List.length_append] at long
  rw [takeFragment_of_le (Nat.le_trans long short)]
  by_cases part : (received ++ data).length < reply.length
  · right
    rw [MessageKind.length?_prefix_of_lt known begins part]
    exact ⟨_, rfl⟩
  · left
    obtain rfl := begins.eq_of_length_le (Nat.le_of_not_lt part)
    simp only [known, List.take_length, decoded]

/-- A fragment that does not fit ends the receiving. -/
theorem takeFragment_of_lt (passes : limit < received.length + data.length) :
    takeFragment ⟨.response, limit, received⟩ data = .error (.responseTooLarge limit) := by
  unfold takeFragment
  rw [@Reassembly.push_of_lt ⟨.response, limit, received⟩ _ passes]
  rfl

/-- A message is decoded only if it is within the limit. -/
theorem takeFragment_eq_response {response : Response}
    (takes : takeFragment ⟨.response, limit, received⟩ data = .ok (.inl response)) :
    ∃ message, message.length ≤ limit ∧ Response.decode message = .ok response := by
  by_cases fits : received.length + data.length ≤ limit
  · rw [takeFragment_of_le fits] at takes
    split at takes
    · cases takes
    · cases takes
    · next size known =>
      split at takes
      · next decoded =>
        cases takes
        refine ⟨_, ?_, decoded⟩
        rw [List.length_take, List.length_append]
        omega
      · cases takes
  · rw [takeFragment_of_lt (Nat.lt_of_not_le fits)] at takes
    cases takes

/-! ## Fragment after fragment -/

/-- The buffer that a client holds when it has taken in some fragments and waits for more. -/
inductive Holds : Reassembly → List Bytes → Reassembly → Prop where
  | nothing (buffer : Reassembly) : Holds buffer [] buffer
  | more {buffer between after : Reassembly} {fragment : Bytes} {rest : List Bytes} :
      takeFragment buffer fragment = .ok (.inr between) → Holds between rest after →
      Holds buffer (fragment :: rest) after

/-- A client that waits for more goes on from the buffer that it holds. -/
theorem takeResponseFrom_of_holds {buffer after : Reassembly} {front : List Bytes}
    (holds : Holds buffer front after) (fault : Option TransportError) (rest : List Bytes) :
    takeResponseFrom buffer fault (front ++ rest) = takeResponseFrom after fault rest := by
  induction holds with
  | nothing buffer => rfl
  | more takes _ ih =>
    rw [List.cons_append, takeResponseFrom, takes]
    exact ih

/-- A client that waits for more holds all that has come, and no more than the limit allows. -/
theorem Holds.eq {buffer after : Reassembly} {front : List Bytes}
    (holds : Holds buffer front after) (start : buffer = ⟨.response, limit, received⟩)
    (short : received.length ≤ limit) :
    after = ⟨.response, limit, received ++ front.flatten⟩ ∧
      (received ++ front.flatten).length ≤ limit := by
  induction holds generalizing received with
  | nothing buffer =>
    rw [List.flatten_nil, List.append_nil]
    exact ⟨start, short⟩
  | @more buffer between after fragment rest takes _ ih =>
    subst start
    have fits : received.length + fragment.length ≤ limit := by
      by_contra passes
      rw [takeFragment_of_lt (Nat.lt_of_not_le passes)] at takes
      cases takes
    rw [List.flatten_cons, ← List.append_assoc]
    refine ih (takeFragment_eq_more takes).1 ?_
    rw [List.length_append]
    exact fits

/-- A response that is taken is read from a message within the limit. -/
theorem takeResponseFrom_eq_ok {response : Response} {fragments : List Bytes}
    {fault : Option TransportError} (short : received.length ≤ limit)
    (takes : takeResponseFrom ⟨.response, limit, received⟩ fault fragments = .ok response) :
    ∃ message, message.length ≤ limit ∧ Response.decode message = .ok response := by
  induction fragments generalizing received with
  | nil => cases fault <;> cases takes
  | cons fragment rest ih =>
    rw [takeResponseFrom] at takes
    split at takes
    · cases takes
    · next taken =>
      cases takes
      exact takeFragment_eq_response taken
    · next more taken =>
      have waits := Holds.more taken (.nothing more)
      obtain ⟨rfl, within⟩ := waits.eq rfl short
      exact ih within takes

/-- Bytes that pass the limit are too many as long as those within it make no message. -/
theorem takeResponseFrom_of_overflow {fragments : List Bytes} (fault : Option TransportError)
    (short : received.length ≤ limit) (long : limit < (received ++ fragments.flatten).length)
    (unknown : MessageKind.response.length? ((received ++ fragments.flatten).take limit) =
      .ok none) :
    takeResponseFrom ⟨.response, limit, received⟩ fault fragments =
      .error (.responseTooLarge limit) := by
  induction fragments generalizing received with
  | nil =>
    rw [List.flatten_nil, List.append_nil] at long
    omega
  | cons fragment rest ih =>
    rw [takeResponseFrom]
    by_cases fits : received.length + fragment.length ≤ limit
    · rw [List.flatten_cons, ← List.append_assoc] at long unknown
      have inside : (received ++ fragment).length ≤ limit := by
        rw [List.length_append]
        exact fits
      -- The beginning of bytes that make no message makes none either.
      have begins : received ++ fragment <+: (received ++ fragment ++ rest.flatten).take limit :=
        List.prefix_take_iff.mpr ⟨List.prefix_append .., inside⟩
      rw [takeFragment_of_le fits, MessageKind.length?_prefix_of_none unknown begins]
      exact ih inside long unknown
    · rw [takeFragment_of_lt (Nat.lt_of_not_le fits)]

end CompactHttp.Client
