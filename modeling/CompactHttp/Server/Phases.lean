import CompactHttp.Server.Serving

/-! # Serving a stream step by step

`Server.serve` says what comes of a whole stream. Here the service is taken apart into the
steps in which it meets its stream: it waits for a fragment, writes the answer to a message
or a last word, and closes the stream (`Server.Phase`). What it does is an event, and which
events can come in which order is a relation on its phases (`Server.Phase.Step`), whatever
there is at the other end. With a script of what comes on the stream and of how many writes
succeed the events are determined (`Server.log`).
-/

namespace CompactHttp

/-- One step after the other, each with its event. -/
inductive Trace {State Event : Type} (Step : State → Event → State → Prop) :
    State → List Event → State → Prop where
  | nil (state : State) : Trace Step state [] state
  | cons {first second last : State} {event : Event} {events : List Event} :
      Step first event second → Trace Step second events last →
      Trace Step first (event :: events) last

namespace Trace

variable {State Event : Type} {Step : State → Event → State → Prop} {first second last : State}

/-- Runs that meet are one run. -/
theorem append {events more : List Event} (front : Trace Step first events second)
    (back : Trace Step second more last) : Trace Step first (events ++ more) last := by
  induction front with
  | nil state => exact back
  | cons step _ ih => exact .cons step (ih back)

/-- A run may be followed by one more step. -/
theorem snoc {event : Event} {events : List Event} (front : Trace Step first events second)
    (step : Step second event last) : Trace Step first (events ++ [event]) last :=
  front.append (.cons step (.nil last))

/-- A run of events in two parts is two runs that meet. -/
theorem of_append {events more : List Event} (trace : Trace Step first (events ++ more) last) :
    ∃ middle, Trace Step first events middle ∧ Trace Step middle more last := by
  induction events generalizing first with
  | nil => exact ⟨first, .nil first, trace⟩
  | cons event events ih =>
    obtain _ | ⟨step, onward⟩ := trace
    obtain ⟨middle, front, back⟩ := ih onward
    exact ⟨middle, .cons step front, back⟩

/-- What holds at the start, and is kept by every step, holds at the end. -/
theorem invariant {events : List Event} (trace : Trace Step first events last)
    (Holds : List Event → State → Prop) (start : Holds [] first)
    (kept : ∀ done event before after, Holds done before → Step before event after →
      Holds (done ++ [event]) after) : Holds events last := by
  have onward : ∀ done, Holds done first → Holds (done ++ events) last := by
    clear start
    induction trace with
    | nil state =>
      intro done soFar
      rwa [List.append_nil]
    | cons step _ ih =>
      intro done soFar
      have next := ih (done ++ [_]) (kept _ _ _ _ soFar step)
      rwa [List.append_assoc, List.singleton_append] at next
  exact onward [] start

end Trace

namespace Server

/-- Where the service of a stream stands. -/
inductive Phase where
  /-- Waits for what comes next. -/
  | reading (buffer : Reassembly)
  /-- Has a whole message to answer. -/
  | answering (buffer : Reassembly) (message : Bytes)
  /-- Has one last thing to write. -/
  | parting (farewell : Bytes)
  | closing
  | ended
deriving DecidableEq, Repr

/-- What a service does on its stream, and whether a write succeeds. -/
inductive Event where
  | fragment (data : Bytes)
  /-- Nothing more comes, as the stream has ended or is broken. -/
  | silence
  | answer (message : Bytes) (succeeded : Bool)
  | farewell (data : Bytes) (succeeded : Bool)
  | close
deriving DecidableEq, Repr

namespace Phase

/-- Nothing has come on the stream yet. -/
def idle (limit : Nat) : Phase := reading (.start .request limit)

/-- Goes on with what is held. -/
def settle (buffer : Reassembly) : Phase :=
  match buffer.next with
  | (.ok (some message), buffer) => answering buffer message
  | (.ok none, buffer) => reading buffer
  | (.error _, _) => parting badRequest.encode

/-- Goes on with a fragment. -/
def take (buffer : Reassembly) (data : Bytes) : Phase :=
  match buffer.push data with
  | (.ok (), buffer) => settle buffer
  | (.error _, _) => parting payloadTooLarge.encode

/-- A service moves on. Only a message that could not be answered ends it at once. -/
inductive Step : Phase → Event → Phase → Prop where
  | fragment (buffer : Reassembly) (data : Bytes) :
      Step (reading buffer) (.fragment data) (take buffer data)
  | silence (buffer : Reassembly) : Step (reading buffer) .silence closing
  | answered (buffer : Reassembly) (message : Bytes) :
      Step (answering buffer message) (.answer message true) (settle buffer)
  | unanswered (buffer : Reassembly) (message : Bytes) :
      Step (answering buffer message) (.answer message false) ended
  | parted (data : Bytes) (succeeded : Bool) :
      Step (parting data) (.farewell data succeeded) closing
  | closed : Step closing .close ended

end Phase

/-- What will come on a stream, and how many writes will succeed, all if there is no limit. -/
structure Script where
  arrivals : List Arrival
  allowance : Option Nat
deriving DecidableEq, Repr

namespace Script

/-- Whether the next write succeeds. -/
def mayWrite (script : Script) : Bool := script.allowance != some 0

def afterWrite (script : Script) : Script :=
  { script with allowance := script.allowance.map (· - 1) }

/-- The events that a script lets happen next. -/
inductive Gives : Script → Event → Script → Prop where
  | fragment (data : Bytes) (rest : List Arrival) (allowance : Option Nat) :
      Gives ⟨.fragment data :: rest, allowance⟩ (.fragment data) ⟨rest, allowance⟩
  | broken (rest : List Arrival) (allowance : Option Nat) :
      Gives ⟨.broken :: rest, allowance⟩ .silence ⟨rest, allowance⟩
  | ended (allowance : Option Nat) : Gives ⟨[], allowance⟩ .silence ⟨[], allowance⟩
  | answer (script : Script) (message : Bytes) :
      Gives script (.answer message script.mayWrite) script.afterWrite
  | farewell (script : Script) (data : Bytes) :
      Gives script (.farewell data script.mayWrite) script.afterWrite
  | close (script : Script) : Gives script .close script

/-- A measure of what is left to be read. -/
def weightOf : List Arrival → Nat
  | [] => 0
  | .fragment data :: rest => 5 * data.length + 3 + weightOf rest
  | .broken :: rest => weightOf rest

end Script

namespace Phase

/-- A measure of what is left to be done with what has been read. -/
def weight : Phase → Nat
  | reading buffer => 5 * buffer.held.length + 3
  | answering buffer _ => 5 * buffer.held.length + 5
  | parting _ => 2
  | closing => 1
  | ended => 0

/-- The next step by a script. -/
def step : Phase → Script → Option (Event × Phase × Script)
  | reading buffer, ⟨.fragment data :: rest, allowance⟩ =>
    some (.fragment data, take buffer data, ⟨rest, allowance⟩)
  | reading _, ⟨.broken :: rest, allowance⟩ => some (.silence, closing, ⟨rest, allowance⟩)
  | reading _, ⟨[], allowance⟩ => some (.silence, closing, ⟨[], allowance⟩)
  | answering buffer message, script =>
    some (.answer message script.mayWrite, if script.mayWrite then settle buffer else ended,
      script.afterWrite)
  | parting data, script => some (.farewell data script.mayWrite, closing, script.afterWrite)
  | closing, script => some (.close, ended, script)
  | ended, _ => none

/-- Settling a buffer leaves no more to do than its bytes allow. -/
theorem weight_settle_le (buffer : Reassembly) :
    (settle buffer).weight ≤ 5 * buffer.held.length + 3 := by
  unfold settle
  split
  · next taken =>
    have := Reassembly.next_shortens taken
    simp only [weight]
    omega
  · next buffer' waits =>
    unfold Reassembly.next at waits
    split at waits <;> cases waits
    exact Nat.le_refl _
  · simp only [weight]
    omega

theorem weight_take_le (buffer : Reassembly) (data : Bytes) :
    (take buffer data).weight ≤ 5 * (buffer.held.length + data.length) + 3 := by
  unfold take Reassembly.push
  split
  · next pushed =>
    split at pushed <;> cases pushed
    have := weight_settle_le { buffer with held := buffer.held ++ data }
    rwa [List.length_append] at this
  · simp only [weight]
    omega

/-- Every step leaves less to be done. -/
theorem weight_step_lt {phase after : Phase} {script rest : Script} {event : Event}
    (taken : phase.step script = some (event, after, rest)) :
    after.weight + Script.weightOf rest.arrivals <
      phase.weight + Script.weightOf script.arrivals := by
  match phase, script with
  | reading buffer, ⟨.fragment data :: arrivals, allowance⟩ =>
    cases taken
    have := weight_take_le buffer data
    change (take buffer data).weight + Script.weightOf arrivals <
      5 * buffer.held.length + 3 + (5 * data.length + 3 + Script.weightOf arrivals)
    omega
  | reading buffer, ⟨.broken :: arrivals, allowance⟩ =>
    cases taken
    simp only [Script.weightOf, weight]
    omega
  | reading buffer, ⟨[], allowance⟩ =>
    cases taken
    simp only [weight]
    omega
  | answering buffer message, script =>
    cases taken
    have := weight_settle_le buffer
    change weight (if _ then _ else _) + Script.weightOf script.arrivals <
      5 * buffer.held.length + 5 + Script.weightOf script.arrivals
    split
    · omega
    · rw [weight]
      omega
  | parting data, script =>
    cases taken
    simp only [weight, Script.afterWrite]
    omega
  | closing, script =>
    cases taken
    simp only [weight]
    omega

/-- All steps to the end by a script, and what is left of it. -/
def log (phase : Phase) (script : Script) : List Event × Script :=
  match taken : phase.step script with
  | some (event, after, rest) =>
    have := weight_step_lt taken
    ((event :: (after.log rest).1), (after.log rest).2)
  | none => ([], script)
termination_by phase.weight + Script.weightOf script.arrivals

end Phase

/-- All that the service of a stream does by a script, and what is left of the script. -/
def log (server : Server) (script : Script) : List Event × Script :=
  (Phase.idle server.config.maxRequestSize).log script

namespace Event

/-- The fragment that was taken in. -/
def taken? : Event → Option Bytes
  | fragment data => some data
  | _ => none

/-- The message that was handled. -/
def handled? : Event → Option Bytes
  | answer message _ => some message
  | _ => none

/-- What was written. -/
def written? (server : Server) : Event → Option Bytes
  | answer message true => some (server.reply message)
  | farewell data true => some data
  | _ => none

/-- Whether something was to be written. -/
def isWrite : Event → Bool
  | answer _ _ | farewell _ _ => true
  | _ => false

/-- Whether nothing went wrong. -/
def succeeded : Event → Bool
  | answer _ succeeded | farewell _ succeeded => succeeded
  | _ => true

/-- The same, but for a write that fails. -/
def failed : Event → Event
  | answer message _ => answer message false
  | farewell data _ => farewell data false
  | event => event

end Event

end Server

end CompactHttp
