import PowerLink.Proofs.PollingPasses

/-!
# What an endpoint puts on its line

An endpoint is used by one operation after the other, on a line of which nothing is known.
Whatever the operations are and however the line behaves, only whole frames of the endpoint
are ever written, each of them is flushed at once, and an answer that cannot be put into a
frame leaves the line alone. What keeps it so is a discipline that every exchange has, and
that two exchanges in a row have if both of them do.
-/

namespace PowerLink

open LinkT

/-! ## Writes and flushes -/

namespace Event

/-- The event is neither a write nor a flush. -/
def IsQuiet : Event → Prop
  | .called (.write _) _ | .called .flush _ => False
  | _ => True

/-- Only permitted bytes are written, a write that has worked is flushed at once, and
nothing else is flushed. -/
inductive Orderly (permitted : Bytes → Prop) : List Event → Prop
  | nil : Orderly permitted []
  | quiet {event : Event} {rest : List Event} (hquiet : event.IsQuiet)
      (hrest : Orderly permitted rest) : Orderly permitted (event :: rest)
  | refused {bytes : Bytes} {e : TransportError} {rest : List Event}
      (hbytes : permitted bytes) (hrest : Orderly permitted rest) :
      Orderly permitted (.called (.write bytes) (some e) :: rest)
  | sent {bytes : Bytes} {failure : Option TransportError} {rest : List Event}
      (hbytes : permitted bytes) (hrest : Orderly permitted rest) :
      Orderly permitted (.called (.write bytes) none :: .called .flush failure :: rest)

namespace Orderly

variable {permitted : Bytes → Prop} {events later : List Event}

theorem of_quiet (hquiet : ∀ event ∈ events, event.IsQuiet) : Orderly permitted events := by
  induction events with
  | nil => exact nil
  | cons event rest ih =>
      have hfirst : event.IsQuiet := hquiet event (by simp)
      have hrest : ∀ other ∈ rest, other.IsQuiet :=
        fun other hother => hquiet other (by simp [hother])
      exact quiet hfirst (ih hrest)

theorem append (hevents : Orderly permitted events) (hlater : Orderly permitted later) :
    Orderly permitted (events ++ later) := by
  induction hevents with
  | nil => exact hlater
  | quiet hquiet _ ih => exact quiet hquiet ih
  | refused hbytes _ ih => exact refused hbytes ih
  | sent hbytes _ ih => exact sent hbytes ih

theorem mono {allowed : Bytes → Prop} (hevents : Orderly permitted events)
    (hallowed : ∀ bytes, permitted bytes → allowed bytes) : Orderly allowed events := by
  induction hevents with
  | nil => exact nil
  | quiet hquiet _ ih => exact quiet hquiet ih
  | refused hbytes _ ih => exact refused (hallowed _ hbytes) ih
  | sent hbytes _ ih => exact sent (hallowed _ hbytes) ih

theorem permitted_of_mem (hevents : Orderly permitted events) {bytes : Bytes}
    {failure : Option TransportError}
    (hmem : .called (.write bytes) failure ∈ events) : permitted bytes := by
  induction hevents with
  | nil => cases hmem
  | quiet hquiet _ ih =>
      rcases List.mem_cons.mp hmem with rfl | hmem
      · exact hquiet.elim
      · exact ih hmem
  | refused hbytes _ ih =>
      rcases List.mem_cons.mp hmem with hsame | hmem
      · cases hsame
        exact hbytes
      · exact ih hmem
  | sent hbytes _ ih =>
      rcases List.mem_cons.mp hmem with hsame | hmem
      · cases hsame
        exact hbytes
      · rcases List.mem_cons.mp hmem with hsame | hmem
        · cases hsame
        · exact ih hmem

/-- Events that are cut in two are orderly from there on, unless the cut is behind a write
that has worked. -/
theorem of_append {before after : List Event} (hevents : Orderly permitted (before ++ after)) :
    Orderly permitted after ∨
      ∃ earlier bytes failure rest, before = earlier ++ [.called (.write bytes) none] ∧
        after = .called .flush failure :: rest := by
  generalize htrace : before ++ after = trace at hevents
  have hcons (event : Event) {cut : List Event} (hcut : Orderly permitted after ∨
      ∃ earlier bytes failure rest, cut = earlier ++ [.called (.write bytes) none] ∧
        after = .called .flush failure :: rest) :
      Orderly permitted after ∨
        ∃ earlier bytes failure rest,
          event :: cut = earlier ++ [.called (.write bytes) none] ∧
          after = .called .flush failure :: rest := by
    rcases hcut with hafter | ⟨earlier, bytes, failure, rest, rfl, hafter⟩
    · exact .inl hafter
    · exact .inr ⟨event :: earlier, bytes, failure, rest, rfl, hafter⟩
  induction hevents generalizing before with
  | nil =>
      obtain ⟨_, rfl⟩ := List.append_eq_nil_iff.mp htrace
      exact .inl nil
  | quiet hquiet hrest ih =>
      rcases List.append_eq_cons_iff.mp htrace with ⟨_, rfl⟩ | ⟨cut, rfl, hcut⟩
      · exact .inl (quiet hquiet hrest)
      · exact hcons _ (ih hcut.symm)
  | refused hbytes hrest ih =>
      rcases List.append_eq_cons_iff.mp htrace with ⟨_, rfl⟩ | ⟨cut, rfl, hcut⟩
      · exact .inl (refused hbytes hrest)
      · exact hcons _ (ih hcut.symm)
  | sent hbytes hrest ih =>
      rcases List.append_eq_cons_iff.mp htrace with ⟨_, rfl⟩ | ⟨cut, rfl, hcut⟩
      · exact .inl (sent hbytes hrest)
      · rcases List.append_eq_cons_iff.mp hcut.symm with ⟨rfl, rfl⟩ | ⟨rest, rfl, hrest⟩
        · exact .inr ⟨[], _, _, _, rfl, rfl⟩
        · exact hcons _ (hcons _ (ih hrest.symm))

theorem flushed {before after : List Event} {bytes : Bytes}
    (hevents : Orderly permitted (before ++ .called (.write bytes) none :: after)) :
    ∃ failure rest, after = .called .flush failure :: rest := by
  rcases hevents.of_append with hafter | ⟨_, _, _, _, _, hflush⟩
  · cases hafter with
    | quiet hquiet => exact hquiet.elim
    | sent => exact ⟨_, _, rfl⟩
  · cases hflush

theorem written {before after : List Event} {failure : Option TransportError}
    (hevents : Orderly permitted (before ++ .called .flush failure :: after)) :
    ∃ earlier bytes, before = earlier ++ [.called (.write bytes) none] := by
  rcases hevents.of_append with hafter | ⟨earlier, bytes, _, _, hbefore, _⟩
  · cases hafter with
    | quiet hquiet => exact hquiet.elim
  · exact ⟨earlier, bytes, hbefore⟩

end Orderly

end Event

open Event

/-! ## Exchanges that keep to the discipline -/

/-- On every line the exchange comes to an end and is orderly. -/
def LinkT.Writes {σ α : Type} (permitted : Bytes → Prop)
    (exchange : LinkT (StateM (Transcript σ)) α) : Prop :=
  ∀ line, ∃ events result after, Runs exchange line events result after ∧
    Orderly permitted events

namespace LinkT.Writes

variable {σ α β : Type} {permitted : Bytes → Prop}
  {exchange : LinkT (StateM (Transcript σ)) α}
  {next : α → LinkT (StateM (Transcript σ)) β}

theorem pure (value : α) :
    Writes permitted (pure value : LinkT (StateM (Transcript σ)) α) := by
  intro line
  exact ⟨_, _, _, Runs.pure, .nil⟩

theorem throw (e : LinkError) :
    Writes permitted (throw e : LinkT (StateM (Transcript σ)) α) := by
  intro line
  exact ⟨_, _, _, Runs.throw, .nil⟩

theorem note (notice : Notice) :
    Writes permitted (note notice : LinkT (StateM (Transcript σ)) Unit) := by
  intro line
  exact ⟨_, _, _, Runs.note notice, .quiet trivial .nil⟩

theorem bind (hfirst : Writes permitted exchange)
    (hnext : ∀ value, Writes permitted (next value)) :
    Writes permitted (exchange >>= next) := by
  intro line
  obtain ⟨events, result, middle, hrun, hevents⟩ := hfirst line
  cases result with
  | error e => exact ⟨events, _, middle, Runs.bind_error hrun, hevents⟩
  | ok value =>
      obtain ⟨later, result, after, hlast, hlater⟩ := hnext value middle
      exact ⟨events ++ later, result, after, Runs.bind hrun hlast, hevents.append hlater⟩

theorem attempt (hexchange : Writes permitted exchange) :
    Writes permitted (attempt exchange) := by
  intro line
  obtain ⟨events, result, after, hrun, hevents⟩ := hexchange line
  exact ⟨events, _, after, hrun.attempt, hevents⟩

theorem mono {allowed : Bytes → Prop} (hexchange : Writes permitted exchange)
    (hallowed : ∀ bytes, permitted bytes → allowed bytes) : Writes allowed exchange := by
  intro line
  obtain ⟨events, result, after, hrun, hevents⟩ := hexchange line
  exact ⟨events, result, after, hrun, hevents.mono hallowed⟩

/-- An exchange that neither writes nor flushes is orderly. -/
theorem of_quiet {returns : α → Prop}
    (hexchange : (Contract.onlyCauses IsQuiet).Keeps exchange returns) :
    Writes permitted exchange := by
  intro line
  obtain ⟨events, result, after, hrun, _, hevents, _⟩ := hexchange line trivial
  exact ⟨events, result, after, hrun, .of_quiet hevents⟩

theorem sendFrame [Transport (StateM σ)] {frame : Bytes} (hframe : permitted frame) :
    Writes permitted (sendFrame frame : LinkT (StateM (Transcript σ)) Unit) := by
  intro line
  obtain ⟨events, result, after, hrun, hevents⟩ := Endpoint.exists_runs_sendFrame frame line
  refine ⟨events, result, after, hrun, ?_⟩
  rcases hevents with ⟨e, rfl⟩ | ⟨failure, rfl⟩
  · exact .refused hframe .nil
  · exact .sent hframe .nil

end LinkT.Writes

/-! ## Operations -/

inductive Operation
  | send (key : String) (data : Record)
  | respond (command : Command) (code : ReturnCode) (data : Record)
  | respondCode (id1 : UInt8) (code : ReturnCode)
  | receive
  | tryReceive
  | poll

namespace Operation

/-- What the operation hands out. -/
def Result : Operation → Type
  | .send .. => Outcome
  | .respond .. | .respondCode .. => Unit
  | .receive => Command × Record
  | .tryReceive => Option (Command × Record)
  | .poll => PollReport

/-- The operation is an answer that cannot be put into a frame. A bare return code always
can. -/
inductive Unsendable : Operation → Prop
  | misfit {command : Command} {code : ReturnCode} {data : Record} {e : CodecError}
      (hencode : Payload.encode .omit data command.values = .error e) :
      Unsendable (.respond command code data)
  | oversized {command : Command} {code : ReturnCode} {data : Record} {info : Bytes}
      (hencode : Payload.encode .omit data command.values = .ok info)
      (hlong : LengthField.maxInfo < info.length) :
      Unsendable (.respond command code data)

end Operation

namespace Endpoint

def perform {m : Type → Type} [Monad m] [Transport m] [Journal m] (endpoint : Endpoint) :
    (operation : Operation) → LinkT m operation.Result
  | .send key data => endpoint.send key data
  | .respond command code data => endpoint.respond command code data
  | .respondCode id1 code => endpoint.respondCode id1 code
  | .receive => endpoint.receive
  | .tryReceive => endpoint.tryReceive
  | .poll => endpoint.poll

/-- The operation writes this frame, if it writes one. -/
inductive Sends (endpoint : Endpoint) : Operation → Frame → Prop
  | request {key : String} {data : Record} {command : Command} {info : Bytes}
      (hkey : endpoint.registry.byKey? key = some command)
      (hencode : Payload.encode .reject data command.params = .ok info) :
      Sends endpoint (.send key data)
        ⟨endpoint.address, command.id1, command.id2, info⟩
  | answer {command : Command} {code : ReturnCode} {data : Record} {info : Bytes}
      (hencode : Payload.encode .omit data command.values = .ok info) :
      Sends endpoint (.respond command code data)
        ⟨endpoint.address, command.id1, code.toByte, info⟩
  | code {id1 : UInt8} {code : ReturnCode} :
      Sends endpoint (.respondCode id1 code) ⟨endpoint.address, id1, code.toByte, []⟩
  | poll {command : Command}
      (hmem : command ∈ endpoint.polled .attributes ++ endpoint.polled .timeseries) :
      Sends endpoint .poll (endpoint.bareRequest command)

theorem Sends.address_eq {endpoint : Endpoint} {operation : Operation} {frame : Frame}
    (hsends : endpoint.Sends operation frame) : frame.address = endpoint.address := by
  cases hsends <;> rfl

/-- The bytes are a whole frame that the operation writes. -/
def Permits (endpoint : Endpoint) (operation : Operation) (bytes : Bytes) : Prop :=
  ∃ frame, Frame.decode bytes = .ok frame ∧ endpoint.Sends operation frame

variable {σ : Type} [Transport (StateM σ)] {endpoint : Endpoint}

theorem writes_send (endpoint : Endpoint) (key : String) (data : Record) :
    Writes (endpoint.Permits (.send key data))
      (endpoint.send key data : LinkT (StateM (Transcript σ)) Outcome) := by
  cases hkey : endpoint.registry.byKey? key with
  | none =>
      intro line
      exact ⟨_, _, _, runs_send_unknown hkey line, .quiet trivial .nil⟩
  | some command =>
      cases hframe : endpoint.requestFrame command data with
      | error e =>
          intro line
          exact ⟨_, _, _, runs_send_unbuilt hkey hframe line, .quiet trivial .nil⟩
      | ok bytes =>
          obtain ⟨info, hencode, hfits, rfl⟩ := requestFrame_eq_ok_iff.mp hframe
          rw [send_eq_of_built hkey hframe]
          apply Writes.bind
          · apply Writes.sendFrame
            exact ⟨_, Frame.decode_toBytes hfits, .request hkey hencode⟩
          · intro _ line
            obtain ⟨events, result, after, hrun, hevents⟩ :=
              exists_runs_concludeSend IsQuiet (fun _ _ => trivial) (fun _ => trivial)
                command line
            exact ⟨events, result, after, hrun, .of_quiet hevents⟩

theorem writes_respond (endpoint : Endpoint) (command : Command) (code : ReturnCode)
    (data : Record) :
    Writes (endpoint.Permits (.respond command code data))
      (endpoint.respond command code data : LinkT (StateM (Transcript σ)) Unit) := by
  rw [respond_eq]
  cases hframe : endpoint.replyFrame command code data with
  | error e => exact Writes.throw e
  | ok bytes =>
      obtain ⟨info, hencode, hfits, rfl⟩ := replyFrame_eq_ok_iff.mp hframe
      exact Writes.sendFrame ⟨_, Frame.decode_toBytes hfits, .answer hencode⟩

theorem writes_respondCode (endpoint : Endpoint) (id1 : UInt8) (code : ReturnCode) :
    Writes (endpoint.Permits (.respondCode id1 code))
      (endpoint.respondCode id1 code : LinkT (StateM (Transcript σ)) Unit) := by
  rw [respondCode_eq]
  exact Writes.sendFrame ⟨_, Frame.decode_toBytes (Nat.zero_le _), .code⟩

theorem receives_quietly : (Contract.onlyCauses IsQuiet : Contract σ).Receives :=
  Contract.receives_onlyCauses (fun _ _ => trivial) fun _ => trivial

theorem writes_receive (permitted : Bytes → Prop) (endpoint : Endpoint) :
    Writes permitted
      (endpoint.receive : LinkT (StateM (Transcript σ)) (Command × Record)) := by
  apply Writes.of_quiet
  apply Contract.Keeps.bind receives_quietly.keeps_receiveFrame
  intro bytes _
  exact receives_quietly.keeps_resolve (fun _ _ => trivial) (fun _ _ _ => trivial) endpoint
    bytes

theorem writes_tryReceive (permitted : Bytes → Prop) (endpoint : Endpoint) :
    Writes permitted
      (endpoint.tryReceive : LinkT (StateM (Transcript σ)) (Option (Command × Record))) :=
  .of_quiet (receives_quietly.keeps_tryReceive (fun _ _ => trivial) (fun _ _ _ => trivial)
    endpoint)

/-! ## Polling passes -/

/-- What a pass sends for a command of a polled section asks for it without params. -/
theorem permits_poll_of_send {group : Group} {command : Command}
    (hmem : command ∈ endpoint.registry.group group)
    (hpolled : group = .attributes ∨ group = .timeseries) {bytes : Bytes}
    (hsent : endpoint.Permits (.send command.key .empty) bytes) :
    endpoint.Permits .poll bytes := by
  obtain ⟨hknown, hgroup⟩ := List.mem_filter.mp hmem
  obtain ⟨frame, hdecode, hsends⟩ := hsent
  cases hsends with
  | @request _ _ other info hkey hencode =>
      have hsame : endpoint.registry.byKey? command.key = some command :=
        Registry.byKey?_eq_some_iff.mpr ⟨hknown, rfl⟩
      obtain rfl : command = other := Option.some.inj (hsame.symm.trans hkey)
      have hbuilt : endpoint.requestFrame command .empty = .ok _ :=
        requestFrame_eq_ok_iff.mpr ⟨info, hencode, Frame.decode_eq_ok_iff.mp hdecode⟩
      have hparams : command.params = [] := by
        by_contra hparams
        obtain ⟨e, hunbuilt⟩ := exists_requestFrame_error hparams
        rw [hunbuilt] at hbuilt
        cases hbuilt
      have hasked : command ∈ endpoint.polled group := by
        simpa [polled, hparams] using hmem
      have hinfo : info = [] := by
        rw [hparams] at hencode
        exact (Except.ok.inj hencode).symm
      subst hinfo
      refine ⟨_, hdecode, .poll ?_⟩
      rcases hpolled with rfl | rfl
      · exact List.mem_append_left _ hasked
      · exact List.mem_append_right _ hasked

theorem writes_pollCommand {group : Group} {command : Command}
    (hmem : command ∈ endpoint.registry.group group)
    (hpolled : group = .attributes ∨ group = .timeseries) (merged : Record) :
    Writes (endpoint.Permits .poll)
      (endpoint.pollCommand merged command : LinkT (StateM (Transcript σ)) Record) := by
  have hsend : Writes (endpoint.Permits .poll)
      (endpoint.send command.key .empty : LinkT (StateM (Transcript σ)) Outcome) :=
    (endpoint.writes_send command.key .empty).mono fun _ =>
      permits_poll_of_send hmem hpolled
  apply Writes.bind hsend.attempt
  intro result
  cases result with
  | ok outcome =>
      cases outcome with
      | reply record => exact Writes.pure _
      | _ => exact Writes.pure _
  | error e =>
      by_cases hends : e.endsPass = true
      · simp only [hends, if_true]
        exact Writes.throw e
      · simp only [hends]
        exact Writes.bind (Writes.note _) fun _ => Writes.pure merged

theorem writes_pollCommands {group : Group}
    (hpolled : group = .attributes ∨ group = .timeseries) {commands : List Command}
    (hmem : ∀ command ∈ commands, command ∈ endpoint.registry.group group)
    (merged : Record) :
    Writes (endpoint.Permits .poll)
      (endpoint.pollCommands merged commands : LinkT (StateM (Transcript σ)) Record) := by
  induction commands generalizing merged with
  | nil => exact Writes.pure merged
  | cons command rest ih =>
      have hfirst := hmem command (by simp)
      have hrest : ∀ other ∈ rest, other ∈ endpoint.registry.group group :=
        fun other hother => hmem other (by simp [hother])
      apply Writes.bind (writes_pollCommand hfirst hpolled merged)
      intro next
      exact ih hrest next

theorem writes_poll (endpoint : Endpoint) :
    Writes (endpoint.Permits .poll)
      (endpoint.poll : LinkT (StateM (Transcript σ)) PollReport) := by
  apply Writes.bind (writes_pollCommands (.inl rfl) (fun _ hmem => hmem) .empty)
  intro attributes
  apply Writes.bind (writes_pollCommands (.inr rfl) (fun _ hmem => hmem) .empty)
  intro telemetry
  exact Writes.pure _

/-! ## Sessions -/

theorem writes_perform (endpoint : Endpoint) (operation : Operation) :
    Writes (endpoint.Permits operation)
      (endpoint.perform operation : LinkT (StateM (Transcript σ)) operation.Result) := by
  cases operation with
  | send key data => exact endpoint.writes_send key data
  | respond command code data => exact endpoint.writes_respond command code data
  | respondCode id1 code => exact endpoint.writes_respondCode id1 code
  | receive => exact endpoint.writes_receive _
  | tryReceive => exact endpoint.writes_tryReceive _
  | poll => exact endpoint.writes_poll

theorem runs_perform_unsendable (endpoint : Endpoint) {operation : Operation}
    (hunsendable : operation.Unsendable) (line : σ) :
    ∃ e, Runs (endpoint.perform operation) line [] (.error e) line := by
  have hthrow {command : Command} {code : ReturnCode} {data : Record} {e : LinkError}
      (hreply : endpoint.replyFrame command code data = .error e) :
      Runs (endpoint.perform (.respond command code data)) line [] (.error e) line := by
    change Runs (endpoint.respond command code data) line [] (.error e) line
    rw [respond_eq, hreply]
    exact Runs.throw
  cases hunsendable with
  | misfit hencode =>
      exact ⟨_, hthrow (replyFrame_eq_error_iff.mpr (.inl ⟨_, hencode, rfl⟩))⟩
  | oversized hencode hlong =>
      exact ⟨_, hthrow (replyFrame_eq_error_iff.mpr (.inr ⟨_, hencode, hlong, rfl⟩))⟩

/-- An operation whose one frame fits writes it once, and nothing else. -/
theorem exists_runs_perform_of_sends {operation : Operation} {frame : Frame}
    (hsends : endpoint.Sends operation frame)
    (hfits : frame.info.length ≤ LengthField.maxInfo) (hsingle : operation ≠ .poll)
    (line : σ) :
    ∃ events result after, Runs (endpoint.perform operation) line events result after ∧
      (events.filterMap Event.call?).filterMap Call.written? = [frame.toBytes] := by
  cases hsends with
  | @request key data command info hkey hencode =>
      have hframe : endpoint.requestFrame command data = .ok _ :=
        requestFrame_eq_ok_iff.mpr ⟨info, hencode, hfits, rfl⟩
      exact exists_runs_send_of_built hkey hframe line
  | @answer command code data info hencode =>
      have hframe : endpoint.replyFrame command code data = .ok _ :=
        replyFrame_eq_ok_iff.mpr ⟨info, hencode, hfits, rfl⟩
      change ∃ events result after,
        Runs (endpoint.respond command code data) line events result after ∧ _
      rw [respond_eq, hframe]
      exact exists_runs_sendFrame_once _ line
  | @code id1 code =>
      change ∃ events result after,
        Runs (endpoint.respondCode id1 code) line events result after ∧ _
      rw [respondCode_eq]
      exact exists_runs_sendFrame_once _ line
  | poll => exact absurd rfl hsingle

/-- The operations, one after the other, whether they fail or not. -/
def session {m : Type → Type} [Monad m] [Transport m] [Journal m] (endpoint : Endpoint) :
    List Operation →
      LinkT m (List ((operation : Operation) × Except LinkError operation.Result))
  | [] => return []
  | operation :: rest => do
    let result ← attempt (endpoint.perform operation)
    return ⟨operation, result⟩ :: (← endpoint.session rest)

end Endpoint

/-- An operation that has been performed, with what has happened on the line meanwhile. -/
structure Step (σ : Type) where
  operation : Operation
  result : Except LinkError operation.Result
  transcript : Transcript σ

def Step.outcome {σ : Type} (step : Step σ) :
    (operation : Operation) × Except LinkError operation.Result :=
  ⟨step.operation, step.result⟩

namespace Endpoint

variable {σ : Type} [Transport (StateM σ)] {endpoint : Endpoint}

def act (endpoint : Endpoint) (operation : Operation) (line : σ) : Step σ :=
  let outcome := (endpoint.perform operation).on (Transcript.start line)
  ⟨operation, outcome.1, outcome.2⟩

/-- The steps of a session, each on the line as the one before it has left it. -/
def actEach (endpoint : Endpoint) : List Operation → σ → List (Step σ)
  | [], _ => []
  | operation :: rest, line =>
    let step := endpoint.act operation line
    step :: endpoint.actEach rest step.transcript.line

theorem act_of_runs {operation : Operation} {line after : σ} {events : List Event}
    {result : Except LinkError operation.Result}
    (hrun : Runs (endpoint.perform operation) line events result after) :
    endpoint.act operation line = ⟨operation, result, ⟨after, events⟩⟩ := by
  unfold act
  rw [Transcript.start, hrun []]
  rfl

theorem orderly_act (endpoint : Endpoint) (operation : Operation) (line : σ) :
    Orderly (endpoint.Permits operation) (endpoint.act operation line).transcript.events := by
  obtain ⟨events, result, after, hrun, hevents⟩ := endpoint.writes_perform operation line
  rw [act_of_runs hrun]
  exact hevents

theorem runs_session (endpoint : Endpoint) (operations : List Operation) (line : σ) :
    ∃ after, Runs (endpoint.session operations) line
      ((endpoint.actEach operations line).flatMap fun step => step.transcript.events)
      (.ok ((endpoint.actEach operations line).map Step.outcome)) after := by
  induction operations generalizing line with
  | nil => exact ⟨line, Runs.pure⟩
  | cons operation rest ih =>
      obtain ⟨events, result, middle, hrun, _⟩ := endpoint.writes_perform operation line
      obtain ⟨after, hrest⟩ := ih middle
      have hsteps : Runs (do return ⟨operation, result⟩ :: (← endpoint.session rest)) middle
          (_ ++ []) (.ok (_ :: _)) after := Runs.bind hrest Runs.pure
      rw [List.append_nil] at hsteps
      rw [actEach, act_of_runs hrun]
      exact ⟨after, Runs.bind hrun.attempt hsteps⟩

theorem operation_actEach (endpoint : Endpoint) (operations : List Operation) (line : σ) :
    (endpoint.actEach operations line).map Step.operation = operations := by
  induction operations generalizing line with
  | nil => rfl
  | cons operation rest ih => exact congrArg (operation :: ·) (ih _)

theorem exists_act_of_mem {operations : List Operation} {line : σ} {step : Step σ}
    (hmem : step ∈ endpoint.actEach operations line) :
    ∃ operation earlier, step = endpoint.act operation earlier := by
  induction operations generalizing line with
  | nil => cases hmem
  | cons operation rest ih =>
      rcases List.mem_cons.mp hmem with hstep | hmem
      · exact ⟨operation, line, hstep⟩
      · exact ih hmem

theorem orderly_actEach (endpoint : Endpoint) (operations : List Operation) (line : σ) :
    Orderly (fun _ => True)
      ((endpoint.actEach operations line).flatMap fun step => step.transcript.events) := by
  induction operations generalizing line with
  | nil => exact .nil
  | cons operation rest ih =>
      have hfirst := (endpoint.orderly_act operation line).mono fun _ _ => trivial
      exact hfirst.append (ih _)

/-- In a session on any line, every byte string that is written or that is tried to be
written is a whole frame with the address of the endpoint, and is a frame of the operation
that is under way. A request or an answer that fits into a frame is tried to be written, once
and nothing else with it. A frame that has been written is flushed at once, and nothing else ever
is. An answer that cannot be put into a frame fails and does nothing on the line. -/
theorem session_writes_frames (endpoint : Endpoint) (operations : List Operation)
    (line : σ) :
    let steps := endpoint.actEach operations line
    let events := steps.flatMap fun step => step.transcript.events
    (∃ after, (endpoint.session operations).on (Transcript.start line) =
      (.ok (steps.map Step.outcome), ⟨after, events⟩)) ∧
    steps.map Step.operation = operations ∧
    (∀ step ∈ steps, ∀ bytes failure,
      .called (.write bytes) failure ∈ step.transcript.events →
        ∃ frame, Frame.decode bytes = .ok frame ∧ frame.address = endpoint.address ∧
          endpoint.Sends step.operation frame) ∧
    (∀ step ∈ steps, step.operation ≠ .poll → ∀ frame,
      endpoint.Sends step.operation frame → frame.info.length ≤ LengthField.maxInfo →
        step.transcript.calls.filterMap Call.written? = [frame.toBytes]) ∧
    (∀ before bytes after, events = before ++ .called (.write bytes) none :: after →
      ∃ failure rest, after = .called .flush failure :: rest) ∧
    (∀ before failure after, events = before ++ .called .flush failure :: after →
      ∃ earlier bytes, before = earlier ++ [.called (.write bytes) none]) ∧
    ∀ step ∈ steps, step.operation.Unsendable →
      step.transcript.events = [] ∧ ∃ e, step.result = .error e := by
  intro steps events
  have horderly : Orderly (fun _ => True) events := endpoint.orderly_actEach operations line
  refine ⟨?_, ?_, ?_, ?_, ?_, ?_, ?_⟩
  · obtain ⟨after, hrun⟩ := endpoint.runs_session operations line
    exact ⟨after, hrun []⟩
  · exact endpoint.operation_actEach operations line
  · intro step hmem bytes failure hwrite
    obtain ⟨operation, earlier, rfl⟩ := exists_act_of_mem hmem
    obtain ⟨frame, hdecode, hsends⟩ :=
      (endpoint.orderly_act operation earlier).permitted_of_mem hwrite
    exact ⟨frame, hdecode, hsends.address_eq, hsends⟩
  · intro step hmem hsingle frame hsends hfits
    obtain ⟨operation, earlier, rfl⟩ := exists_act_of_mem hmem
    obtain ⟨events, result, after, hrun, hwritten⟩ :=
      exists_runs_perform_of_sends hsends hfits hsingle earlier
    have hact : endpoint.act operation earlier = _ := act_of_runs hrun
    rw [hact]
    exact hwritten
  · intro before bytes after hevents
    rw [hevents] at horderly
    exact horderly.flushed
  · intro before failure after hevents
    rw [hevents] at horderly
    exact horderly.written
  · intro step hmem hunsendable
    obtain ⟨operation, earlier, rfl⟩ := exists_act_of_mem hmem
    have hoperation : operation.Unsendable := hunsendable
    obtain ⟨e, hrun⟩ := endpoint.runs_perform_unsendable hoperation earlier
    rw [act_of_runs hrun]
    exact ⟨rfl, e, rfl⟩

/-- A request for a total of nothing, and an answer with a total that is no 16-bit
number. -/
def meterOperations : List Operation :=
  [.send "sum" Registry.noReadings,
    .respond Registry.meterCommand .ok (KeyMap.ofList [("total", .scalar (.uint 70000))])]

theorem session_writes_frames_meter :
    let steps := actEach ⟨.meter, 2⟩ meterOperations (⟨[], true, false⟩ : Wire)
    let bytes := Frame.toBytes ⟨2, 0x40, 0x81, [0]⟩
    ∃ first second, steps = [first, second] ∧
      .called (.write bytes) none ∈ first.transcript.events ∧
      (∃ frame, Frame.decode bytes = .ok frame ∧ frame.address = 2) ∧
      first.transcript.calls.filterMap Call.written? = [bytes] ∧
      second.operation.Unsendable ∧ second.transcript.events = [] := by
  intro steps bytes
  obtain ⟨_, _, hframes, honce, _, _, hunsendable⟩ :=
    session_writes_frames ⟨.meter, 2⟩ meterOperations (⟨[], true, false⟩ : Wire)
  obtain ⟨first, second, hsteps⟩ : ∃ first second, steps = [first, second] := ⟨_, _, rfl⟩
  have hfirst : first ∈ steps := by simp [hsteps]
  have hsecond : second ∈ steps := by simp [hsteps]
  obtain ⟨hone, htwo⟩ : steps.head? = some first ∧ steps.getLast? = some second := by
    simp [hsteps]
  have hwritten : .called (.write bytes) none ∈ first.transcript.events := by
    cases hone
    exact List.Mem.head _
  have hsends : Sends ⟨.meter, 2⟩ first.operation ⟨2, 0x40, 0x81, [0]⟩ := by
    cases hone
    have hkey : Registry.byKey? .meter "sum" = some Registry.meterCommand := rfl
    have hencode : Payload.encode .reject Registry.noReadings Registry.meterCommand.params =
        .ok [0] := rfl
    exact .request hkey hencode
  have hsingle : first.operation ≠ .poll := by
    cases hone
    intro hpoll
    cases hpoll
  have hmisfit : second.operation.Unsendable := by
    cases htwo
    exact .misfit rfl
  obtain ⟨frame, hdecode, haddress, _⟩ := hframes first hfirst bytes none hwritten
  exact ⟨first, second, hsteps, hwritten, ⟨frame, hdecode, haddress⟩,
    honce first hfirst hsingle _ hsends (by decide), hmisfit,
    (hunsendable second hsecond hmisfit).1⟩

end Endpoint

end PowerLink
