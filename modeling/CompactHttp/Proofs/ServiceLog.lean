import CompactHttp.Proofs.ServiceSteps

/-! # Services by a script

The log of a service by a script is a run of both: of the phases of a service, and of what
the script lets happen (`Server.Phase.trace_log`). So it reads what comes on the stream in
order (`Server.Script.leading_of_trace`). If writes fail from some point on, the log is the
same up to there, and nothing more is read or handled (`Server.Phase.log_cutAt`). What is
said of a whole stream by `Server.serve` is a summary of the log (`Server.serve_eq_log`).
-/

namespace CompactHttp

/-- The fragments that come before the stream ends or breaks. -/
def Arrival.leading : List Arrival → List Bytes
  | .fragment data :: rest => data :: leading rest
  | .broken :: _ | [] => []

namespace Server

namespace Script

variable {script rest : Script} {events : List Event}

/-- Without a limit on the writes all of them succeed. -/
theorem succeeded_of_trace (trace : Trace Gives script events rest)
    (free : script.allowance = none) : ∀ event ∈ events, event.succeeded = true := by
  induction trace with
  | nil script => nofun
  | cons given _ ih =>
    cases given with
    | fragment data arrivals allowance => exact List.forall_mem_cons.mpr ⟨rfl, ih free⟩
    | broken arrivals allowance => exact List.forall_mem_cons.mpr ⟨rfl, ih free⟩
    | ended allowance => exact List.forall_mem_cons.mpr ⟨rfl, ih free⟩
    | answer script message =>
      refine List.forall_mem_cons.mpr ⟨?_, ih ?_⟩
      · rw [Event.succeeded, mayWrite, free]
        rfl
      · rw [afterWrite, free]
        rfl
    | farewell script data =>
      refine List.forall_mem_cons.mpr ⟨?_, ih ?_⟩
      · rw [Event.succeeded, mayWrite, free]
        rfl
      · rw [afterWrite, free]
        rfl
    | close script => exact List.forall_mem_cons.mpr ⟨rfl, ih free⟩

/-- Until the stream is at its end its fragments are taken in as they come. -/
theorem leading_of_trace (trace : Trace Gives script events rest)
    (going : .silence ∉ events) :
    Arrival.leading script.arrivals = taken events ++ Arrival.leading rest.arrivals := by
  induction trace with
  | nil script => rfl
  | cons given _ ih =>
    obtain ⟨next, later⟩ := not_or.mp (List.mem_cons.not.mp going)
    have onward := ih later
    cases given with
    | fragment data arrivals allowance => exact congrArg (data :: ·) onward
    | broken arrivals allowance => exact absurd rfl next
    | ended allowance => exact absurd rfl next
    | answer script message => exact onward
    | farewell script data => exact onward
    | close script => exact onward

/-- Where nothing comes any more no fragments are left. -/
theorem leading_of_silence (given : Gives script .silence rest) :
    Arrival.leading script.arrivals = [] := by
  cases given <;> rfl

end Script

namespace Phase

variable {phase after : Phase} {script rest : Script} {event : Event} {events : List Event}

/-- A step by a script is one that the service can take and the script lets happen. -/
theorem step_eq_some_iff : phase.step script = some (event, after, rest) ↔
    Step phase event after ∧ script.Gives event rest := by
  constructor
  · intro taken
    match phase, script with
    | reading buffer, ⟨.fragment data :: arrivals, allowance⟩ =>
      cases taken
      exact ⟨.fragment buffer data, .fragment data arrivals allowance⟩
    | reading buffer, ⟨.broken :: arrivals, allowance⟩ =>
      cases taken
      exact ⟨.silence buffer, .broken arrivals allowance⟩
    | reading buffer, ⟨[], allowance⟩ =>
      cases taken
      exact ⟨.silence buffer, .ended allowance⟩
    | answering buffer message, script =>
      cases taken
      refine ⟨?_, .answer script message⟩
      cases script.mayWrite with
      | true => exact .answered buffer message
      | false => exact .unanswered buffer message
    | parting data, script =>
      cases taken
      exact ⟨.parted data _, .farewell script data⟩
    | closing, script =>
      cases taken
      exact ⟨.closed, .close _⟩
  · rintro ⟨step, given⟩
    generalize named : event = happened at given
    cases given with
    | fragment data arrivals allowance =>
      subst named
      cases step
      rfl
    | broken arrivals allowance =>
      subst named
      cases step
      rfl
    | ended allowance =>
      subst named
      cases step
      rfl
    | answer script message =>
      generalize written : script.mayWrite = succeeded at named
      subst named
      cases step <;> simp only [Phase.step, written, ↓reduceIte, Bool.false_eq_true]
    | farewell script data =>
      subst named
      cases step
      rfl
    | close script =>
      subst named
      cases step
      rfl

/-- The log goes on with what happens next. -/
theorem log_of_step (taken : phase.step script = some (event, after, rest)) :
    phase.log script = (event :: (after.log rest).1, (after.log rest).2) := by
  rw [log]
  split
  · next found =>
    rw [taken] at found
    cases found
    rfl
  · next found =>
    rw [taken] at found
    cases found

theorem log_ended (script : Script) : ended.log script = ([], script) := by
  rw [log]
  rfl

/-- The log is a run of the service to its end, and of the script. -/
theorem trace_log (phase : Phase) (script : Script) :
    Trace Step phase (phase.log script).1 ended ∧
      Trace Script.Gives script (phase.log script).1 (phase.log script).2 := by
  fun_induction log phase script with
  | case1 phase script event after rest taken _ ih =>
    obtain ⟨step, given⟩ := step_eq_some_iff.mp taken
    exact ⟨.cons step ih.1, .cons given ih.2⟩
  | case2 phase script stuck =>
    match phase, script with
    | ended, script => exact ⟨.nil ended, .nil script⟩
    | reading _, ⟨.fragment _ :: _, _⟩ | reading _, ⟨.broken :: _, _⟩ | reading _, ⟨[], _⟩ =>
      cases stuck
    | answering _ _, _ | parting _, _ | closing, _ => cases stuck

/-- What a service has done by a script is the beginning of its log. -/
theorem log_of_trace (steps : Trace Step phase events after)
    (given : Trace Script.Gives script events rest) :
    (phase.log script).1 = events ++ (after.log rest).1 := by
  induction steps generalizing script with
  | nil phase =>
    cases given
    rfl
  | cons step _ ih =>
    obtain _ | ⟨first, others⟩ := given
    rw [log_of_step (step_eq_some_iff.mpr ⟨step, first⟩), ih others]
    rfl

end Phase

namespace Event

/-- What is still done after a write that failed: a last word that cannot be said does not keep
the stream from being closed. -/
def afterFailure : Event → List Event
  | farewell _ _ => [close]
  | _ => []

end Event

/-- The events of a service of which the write with a number fails. -/
def cutAt : List Event → Nat → List Event
  | [], _ => []
  | event :: rest, count =>
    if event.isWrite then
      match count with
      | 0 => event.failed :: event.afterFailure
      | count + 1 => event :: cutAt rest count
    else event :: cutAt rest count

/-- How many writes there are among events. -/
def writes (events : List Event) : Nat := events.countP Event.isWrite

section CutAt

variable {event : Event} {rest : List Event}

theorem cutAt_of_not_isWrite (other : event.isWrite = false) (count : Nat) :
    cutAt (event :: rest) count = event :: cutAt rest count := by
  conv_lhs => unfold cutAt
  rw [if_neg (Bool.eq_false_iff.mp other)]

theorem cutAt_zero (isWrite : event.isWrite = true) :
    cutAt (event :: rest) 0 = event.failed :: event.afterFailure := by
  unfold cutAt
  rw [if_pos isWrite]

theorem cutAt_succ (isWrite : event.isWrite = true) (count : Nat) :
    cutAt (event :: rest) (count + 1) = event :: cutAt rest count := by
  conv_lhs => unfold cutAt
  rw [if_pos isWrite]

theorem writes_cons_of_isWrite (isWrite : event.isWrite = true) :
    writes (event :: rest) = writes rest + 1 :=
  List.countP_cons_of_pos isWrite

theorem writes_cons_of_not_isWrite (other : event.isWrite = false) :
    writes (event :: rest) = writes rest :=
  List.countP_cons_of_neg (Bool.eq_false_iff.mp other)

/-- If all writes are allowed nothing is cut off. -/
theorem cutAt_of_le {events : List Event} {count : Nat} (enough : writes events ≤ count) :
    cutAt events count = events := by
  induction events generalizing count with
  | nil => rfl
  | cons event rest ih =>
    cases isWrite : event.isWrite with
    | true =>
      rw [writes_cons_of_isWrite isWrite] at enough
      obtain ⟨fewer, rfl⟩ := Nat.exists_eq_add_one_of_ne_zero (Nat.ne_zero_of_lt enough)
      rw [cutAt_succ isWrite, ih (Nat.le_of_succ_le_succ enough)]
    | false =>
      rw [writes_cons_of_not_isWrite isWrite] at enough
      rw [cutAt_of_not_isWrite isWrite, ih enough]

/-- Events are cut off at the first write that is not allowed. -/
theorem cutAt_append (before : List Event) (isWrite : event.isWrite = true) :
    cutAt (before ++ event :: rest) (writes before) =
      before ++ event.failed :: event.afterFailure := by
  induction before with
  | nil => exact cutAt_zero isWrite
  | cons first before ih =>
    cases firstWrites : first.isWrite with
    | true => rw [writes_cons_of_isWrite firstWrites, List.cons_append, cutAt_succ firstWrites, ih,
        List.cons_append]
    | false => rw [writes_cons_of_not_isWrite firstWrites, List.cons_append,
        cutAt_of_not_isWrite firstWrites, ih, List.cons_append]

end CutAt

namespace Phase

/-- A service answers its message and moves on, or ends if it may not write. -/
theorem step_answering (buffer : Reassembly) (message : Bytes) (script : Script) :
    (answering buffer message).step script = some (.answer message script.mayWrite,
      if script.mayWrite then settle buffer else ended, script.afterWrite) :=
  rfl

/-- If only some writes succeed, the log is the same up to the first write that does not. -/
theorem log_cutAt (phase : Phase) (arrivals : List Arrival) (count : Nat) :
    (phase.log ⟨arrivals, some count⟩).1 = cutAt (phase.log ⟨arrivals, none⟩).1 count := by
  generalize named : (⟨arrivals, none⟩ : Script) = free
  fun_induction log phase free generalizing arrivals count with
  | case2 phase free stuck =>
    subst named
    match phase, arrivals with
    | ended, arrivals =>
      rw [log_ended]
      rfl
    | reading _, .fragment _ :: _ | reading _, .broken :: _ | reading _, [] => cases stuck
    | answering _ _, _ | parting _, _ | closing, _ => cases stuck
  | case1 phase free event after rest taken _ ih =>
    subst named
    obtain ⟨step, given⟩ := step_eq_some_iff.mp taken
    -- The limit makes a difference only for the write that comes when it is exhausted.
    have same (other : event.isWrite = false) (free : rest.allowance = none)
        (still : phase.step ⟨arrivals, some count⟩ =
          some (event, after, ⟨rest.arrivals, some count⟩)) :
        (phase.log ⟨arrivals, some count⟩).1 = cutAt (event :: (after.log rest).1) count := by
      rw [log_of_step still, cutAt_of_not_isWrite other,
        ih rest.arrivals count (by rw [← free])]
    have fewer (isWrite : event.isWrite = true) (free : rest = ⟨arrivals, none⟩)
        (still : ∀ left, phase.step ⟨arrivals, some (left + 1)⟩ =
          some (event, after, ⟨arrivals, some left⟩))
        (last : (phase.log ⟨arrivals, some 0⟩).1 = event.failed :: event.afterFailure) :
        (phase.log ⟨arrivals, some count⟩).1 = cutAt (event :: (after.log rest).1) count := by
      match count with
      | 0 => rw [last, cutAt_zero isWrite]
      | left + 1 => rw [log_of_step (still left), cutAt_succ isWrite, ih arrivals left free.symm]
    cases given with
    | fragment data arrivals allowance =>
      exact same rfl rfl (step_eq_some_iff.mpr ⟨step, .fragment data arrivals _⟩)
    | broken arrivals allowance =>
      exact same rfl rfl (step_eq_some_iff.mpr ⟨step, .broken arrivals _⟩)
    | ended allowance => exact same rfl rfl (step_eq_some_iff.mpr ⟨step, .ended _⟩)
    | close script => exact same rfl rfl (step_eq_some_iff.mpr ⟨step, .close _⟩)
    | answer script message =>
      obtain ⟨buffer, rfl⟩ : ∃ buffer, phase = .answering buffer message := by
        cases step
        exact ⟨_, rfl⟩
      cases taken
      refine fewer rfl rfl (fun left => rfl) ?_
      have failed : (answering buffer message).step ⟨arrivals, some 0⟩ =
          some (.answer message false, ended, ⟨arrivals, some 0⟩) := rfl
      rw [log_of_step failed, log_ended]
      rfl
    | farewell script data =>
      obtain rfl : phase = .parting data := by
        cases step
        rfl
      cases taken
      refine fewer rfl rfl (fun left => rfl) ?_
      have failed : (parting data).step ⟨arrivals, some 0⟩ =
          some (.farewell data false, closing, ⟨arrivals, some 0⟩) := rfl
      have closed : closing.step ⟨arrivals, some 0⟩ = some (.close, ended, ⟨arrivals, some 0⟩) := rfl
      rw [log_of_step failed, log_of_step closed, log_ended]
      rfl

end Phase

/-- What is told of a service: what was written, whether the stream was closed, and what was
never read. -/
def summary (server : Server) (log : List Event × Script) : Service :=
  ⟨server.written log.1, decide (.close ∈ log.1), log.2.arrivals⟩

/-- How a service goes on from what it does about a fragment. -/
def proceed (reaction : Reaction) (allowance : Option Nat) (rest : List Arrival)
    (onward : Reassembly → Option Nat → Service) : Service :=
  let written := writable allowance reaction.replies
  let allowance := allowance.map (· - written.length)
  if written.length < reaction.replies.length then ⟨written, false, rest⟩
  else
    match reaction.farewell with
    | some farewell => ⟨written ++ writable allowance [farewell], true, rest⟩
    | none =>
      let service := onward reaction.buffer allowance
      { service with written := written ++ service.written }

section Summary

variable {server : Server} {allowance : Option Nat} {rest : List Arrival}
  {onward : Reassembly → Option Nat → Service}

theorem proceed_nil (buffer : Reassembly) :
    proceed ⟨[], none, buffer⟩ allowance rest onward = onward buffer allowance := by
  cases allowance <;> simp [proceed, writable]

/-- With a last word to write a service comes to its end. -/
theorem proceed_farewell (farewell : Bytes) (buffer : Reassembly) :
    proceed ⟨[], some farewell, buffer⟩ allowance rest onward =
      ⟨writable allowance [farewell], true, rest⟩ := by
  cases allowance <;> simp [proceed, writable]

/-- A reply is written if writes succeed, and the service goes on with the others. -/
theorem proceed_cons (reply : Bytes) (replies : List Bytes) (farewell : Option Bytes)
    (buffer : Reassembly) :
    proceed ⟨reply :: replies, farewell, buffer⟩ allowance rest onward =
      if Script.mayWrite ⟨rest, allowance⟩ then
        let service := proceed ⟨replies, farewell, buffer⟩ (allowance.map (· - 1)) rest onward
        { service with written := reply :: service.written }
      else ⟨[], false, rest⟩ := by
  match allowance with
  | none =>
    cases farewell <;> simp [proceed, writable, Script.mayWrite]
  | some 0 => rfl
  | some (count + 1) =>
    by_cases enough : min count replies.length < replies.length
    · simp [proceed, writable, Script.mayWrite, enough]
    · cases farewell <;>
        simp [proceed, writable, Script.mayWrite, enough, Nat.add_sub_add_right]

/-- A fragment adds nothing to the summary. -/
theorem summary_fragment (data : Bytes) (log : List Event × Script) :
    server.summary (.fragment data :: log.1, log.2) = server.summary log := by
  have unwritten : Event.written? server (.fragment data) = none := rfl
  simp [summary, written, List.filterMap_cons_none unwritten]

/-- An answer adds what has been written. -/
theorem summary_answer (message : Bytes) (log : List Event × Script) :
    server.summary (.answer message true :: log.1, log.2) =
      { server.summary log with
        written := server.reply message :: (server.summary log).written } := by
  simp [summary, written, Event.written?]

/-- A last word is written if it may be, and the stream is closed. -/
theorem summary_parting (farewell : Bytes) (script : Script) :
    server.summary ((Phase.parting farewell).log script) =
      ⟨writable script.allowance [farewell], true, script.arrivals⟩ := by
  have said : (Phase.parting farewell).step script =
      some (.farewell farewell script.mayWrite, .closing, script.afterWrite) := rfl
  have closed : Phase.closing.step script.afterWrite =
      some (.close, .ended, script.afterWrite) := rfl
  rw [Phase.log_of_step said, Phase.log_of_step closed, Phase.log_ended]
  match script with
  | ⟨arrivals, none⟩ | ⟨arrivals, some 0⟩ => rfl
  | ⟨arrivals, some (count + 1)⟩ =>
    have may : (some (count + 1) != some 0) = true := bne_iff_ne.mpr nofun
    simp [summary, written, Event.written?, Script.mayWrite,
      Script.afterWrite, writable, may]

/-- The summary of a service that settles is that of what it has to write, and of what comes then.
-/
theorem summary_settle (buffer : Reassembly) (allowance : Option Nat) (rest : List Arrival) :
    server.summary ((Phase.settle buffer).log ⟨rest, allowance⟩) =
      proceed ⟨buffer.drain.1.1.map server.reply,
        buffer.drain.1.2.map fun _ => badRequest.encode, buffer.drain.2⟩ allowance rest
        fun buffer allowance => server.summary ((Phase.reading buffer).log ⟨rest, allowance⟩) := by
  -- Message by message, as draining takes them off what is held.
  induction size : buffer.held.length using Nat.strongRecOn generalizing buffer allowance with
  | ind _ ih =>
    match known : buffer.kind.length? buffer.held with
    | .error fault =>
      rw [Phase.settle, Reassembly.next_of_error known, Reassembly.drain_of_error known]
      exact (summary_parting _ _).trans (proceed_farewell _ _).symm
    | .ok none =>
      rw [Phase.settle, Reassembly.next_of_none known, Reassembly.drain_of_none known]
      change server.summary ((Phase.reading buffer).log _) =
        proceed ⟨[], none, buffer⟩ allowance rest _
      rw [proceed_nil]
    | .ok (some length) =>
      have taken := Reassembly.next_of_length? known
      have onward := ih _ (size ▸ Reassembly.next_shortens taken) _ (allowance.map (· - 1)) rfl
      have step := Phase.step_answering { buffer with held := buffer.held.drop length }
        (buffer.held.take length) ⟨rest, allowance⟩
      rw [Phase.settle, taken, Reassembly.drain_of_next taken, List.map_cons, proceed_cons,
        ← onward, Phase.log_of_step step]
      cases may : Script.mayWrite ⟨rest, allowance⟩ with
      | true =>
        rw [if_pos rfl, if_pos rfl]
        exact summary_answer _ _
      | false =>
        rw [if_neg Bool.false_ne_true, if_neg Bool.false_ne_true, Phase.log_ended]
        rfl

/-- What is said of the service of a whole stream is what its steps come to. -/
theorem serveFrom_eq_log (buffer : Reassembly) (allowance : Option Nat) (arrivals : List Arrival) :
    server.serveFrom buffer allowance arrivals =
      server.summary ((Phase.reading buffer).log ⟨arrivals, allowance⟩) := by
  have closed (script : Script) :
      Phase.closing.log script = ([.close], script) := by
    have step : Phase.closing.step script = some (.close, .ended, script) := rfl
    rw [Phase.log_of_step step, Phase.log_ended]
  induction arrivals generalizing buffer allowance with
  | nil =>
    have step : (Phase.reading buffer).step ⟨[], allowance⟩ =
        some (.silence, .closing, ⟨[], allowance⟩) := rfl
    rw [Phase.log_of_step step, closed]
    rfl
  | cons arrival rest ih =>
    cases arrival with
    | broken =>
      have step : (Phase.reading buffer).step ⟨.broken :: rest, allowance⟩ =
          some (.silence, .closing, ⟨rest, allowance⟩) := rfl
      rw [Phase.log_of_step step, closed]
      rfl
    | fragment data =>
      have step : (Phase.reading buffer).step ⟨.fragment data :: rest, allowance⟩ =
          some (.fragment data, Phase.take buffer data, ⟨rest, allowance⟩) := rfl
      have unfolded : server.serveFrom buffer allowance (.fragment data :: rest) =
          proceed (server.receive buffer data) allowance rest fun buffer allowance =>
            server.serveFrom buffer allowance rest := by
        rw [serveFrom]
        rfl
      rw [unfolded, Phase.log_of_step step, summary_fragment, Phase.take, receive]
      simp only [ih]
      by_cases fits : buffer.held.length + data.length ≤ buffer.limit
      · rw [Reassembly.push_of_le fits]
        exact (summary_settle _ _ _).symm
      · rw [Reassembly.push_of_lt (Nat.lt_of_not_le fits)]
        exact (proceed_farewell _ _).trans (summary_parting _ ⟨rest, allowance⟩).symm

/-- Serving is summing up the log. -/
theorem serve_eq_log (allowance : Option Nat) (arrivals : List Arrival) :
    server.serve allowance arrivals = server.summary (server.log ⟨arrivals, allowance⟩) :=
  serveFrom_eq_log server.idle allowance arrivals

end Summary

end Server

end CompactHttp
