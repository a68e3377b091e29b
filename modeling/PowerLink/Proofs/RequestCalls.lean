import PowerLink.Proofs.PollingPasses

/-!
# The calls that a request makes

A client that sends a command makes calls of the line in a fixed order, and each of them
only if the one before it has worked and has brought what can stand at its place. What
the line answers is not restricted in any way. The calls are in the transcript, and what
the line has answered to them is found by making them again.
-/

namespace PowerLink

open LinkT

/-! ## Calls and their answers -/

/-- A call of the line, with the bytes that it brings or the way it fails. -/
structure Answered where
  call : Call
  answer : Except TransportError Bytes
  deriving DecidableEq

namespace Call

variable {σ : Type} [Transport (StateM σ)]

/-- Makes the call. Only a read brings any bytes. -/
def make : Call → StateM σ (Except TransportError Bytes)
  | .openLine => Except.map (fun _ => []) <$> Transport.openLine
  | .read size => Except.map Chunk.bytes <$> Transport.read size
  | .write bytes => Except.map (fun _ => []) <$> Transport.write bytes
  | .flush => Except.map (fun _ => []) <$> Transport.flush
  | .closeLine => Except.map (fun _ => []) <$> Transport.closeLine

/-- Makes the calls, one after the other. -/
def replay : List Call → σ → List Answered × σ
  | [], line => ([], line)
  | call :: calls, line =>
    let made := call.make line
    let later := replay calls made.2
    (⟨call, made.1⟩ :: later.1, later.2)

theorem map_call_replay (calls : List Call) (line : σ) :
    (replay calls line).1.map Answered.call = calls := by
  induction calls generalizing line with
  | nil => rfl
  | cons call calls ih => simp [replay, ih]

end Call

/-- The calls of the line that are in the transcript, each with its answer, where the
transcript begins at the line. -/
def Transcript.answers {σ : Type} [Transport (StateM σ)] (transcript : Transcript σ)
    (line : σ) : List Answered :=
  (Call.replay transcript.calls line).1

/-! ## Planned calls -/

/-- A call that is to be made, and the check on the bytes that it brings. -/
structure PlannedCall where
  call : Call
  passes : Bytes → Prop

/-- The planned calls are made, up to the first that fails or that brings bytes which do
not pass their check. -/
inductive Follows : List PlannedCall → List Answered → Prop
  | done : Follows [] []
  | failed {first : PlannedCall} {plan : List PlannedCall} {e : TransportError} :
      Follows (first :: plan) [⟨first.call, .error e⟩]
  | cut {first : PlannedCall} {plan : List PlannedCall} {bytes : Bytes}
      (hcut : ¬ first.passes bytes) :
      Follows (first :: plan) [⟨first.call, .ok bytes⟩]
  | next {first : PlannedCall} {plan : List PlannedCall} {bytes : Bytes}
      {later : List Answered} (hpass : first.passes bytes) (hlater : Follows plan later) :
      Follows (first :: plan) (⟨first.call, .ok bytes⟩ :: later)

theorem Follows.calls_prefix {plan : List PlannedCall} {answers : List Answered}
    (hfollows : Follows plan answers) :
    answers.map Answered.call <+: plan.map PlannedCall.call := by
  induction hfollows with
  | done => exact List.prefix_rfl
  | failed => simp
  | cut => simp
  | next _ _ ih => simpa using ih

/-- The bytes are a length field with this length. -/
def LengthField.Announces (field : Bytes) (size : Nat) : Prop :=
  ∃ first second, field = [first, second] ∧ decode first second = .ok size

theorem LengthField.Announces.unique {field : Bytes} {size other : Nat}
    (hsize : Announces field size) (hother : Announces field other) : other = size := by
  rcases hsize with ⟨first, second, rfl, hdecode⟩
  rcases hother with ⟨_, _, hfield, hother⟩
  cases hfield
  rw [hdecode] at hother
  cases hother
  rfl

/-- The plan depends on a length. If the call at the given place brings a length field,
the length is the one that the field announces. -/
def FollowsAnnounced (plan : Nat → List PlannedCall) (place : Nat)
    (answers : List Answered) : Prop :=
  ∃ size, Follows (plan size) answers ∧
    ∀ field announced, answers[place]? = some ⟨.read 2, .ok field⟩ →
      LengthField.Announces field announced → announced = size

/-- The planned call may come first, and `rest` says what may come after it once it has
brought these bytes. -/
structure PlannedCall.Permits (first : PlannedCall) (rest : Bytes → List Answered → Prop)
    (allowed : List Answered → Prop) : Prop where
  failed (e : TransportError) : allowed [⟨first.call, .error e⟩]
  cut {bytes : Bytes} (hcut : ¬ first.passes bytes) : allowed [⟨first.call, .ok bytes⟩]
  next {bytes : Bytes} {later : List Answered} (hpass : first.passes bytes)
    (hlater : rest bytes later) : allowed (⟨first.call, .ok bytes⟩ :: later)

section

variable (first : PlannedCall) (plan : Nat → List PlannedCall)

theorem Follows.permits (plan : List PlannedCall) :
    first.Permits (fun _ => Follows plan) (Follows (first :: plan)) where
  failed _ := .failed
  cut := .cut
  next := .next

theorem FollowsAnnounced.permits (place : Nat) :
    first.Permits (fun _ => FollowsAnnounced plan place)
      (FollowsAnnounced (fun size => first :: plan size) (place + 1)) where
  failed e := ⟨0, .failed, by simp⟩
  cut hcut := ⟨0, .cut hcut, by simp⟩
  next hpass hlater := by
    rcases hlater with ⟨size, hfollows, hsize⟩
    exact ⟨size, .next hpass hfollows, hsize⟩

/-- The read of a length field. -/
def readLength : PlannedCall :=
  ⟨.read 2, fun field => ∃ announced, LengthField.Announces field announced⟩

theorem FollowsAnnounced.permits_readLength :
    readLength.Permits
      (fun field later => ∃ size, LengthField.Announces field size ∧ Follows (plan size) later)
      (FollowsAnnounced (fun size => readLength :: plan size) 0) where
  failed e := ⟨0, .failed, by simp⟩
  cut {field} hcut := by
    refine ⟨0, .cut hcut, ?_⟩
    intro other announced hfield hannounced
    cases hfield
    exact absurd ⟨announced, hannounced⟩ hcut
  next {field later} hpass hlater := by
    rcases hlater with ⟨size, hsize, hfollows⟩
    refine ⟨size, .next hpass hfollows, ?_⟩
    intro other announced hfield hannounced
    cases hfield
    exact hsize.unique hannounced

end

/-- The reads that take a frame with a payload of this size off the line. -/
def frameReads (size : Nat) : List PlannedCall :=
  [⟨.read 1, fun start => start = [Frame.startMarker]⟩, ⟨.read 4, fun _ => True⟩,
    readLength, ⟨.read size, fun _ => True⟩, ⟨.read 2, fun _ => True⟩,
    ⟨.read 1, fun last => last = [Frame.endMarker]⟩]

/-- The calls for a request with this frame. Only for a command with value fields is
anything read, and the size is that of the payload of its reply. -/
def Command.requestCalls (command : Command) (frame : Bytes) (size : Nat) :
    List PlannedCall :=
  ⟨.write frame, fun _ => True⟩ :: ⟨.flush, fun _ => True⟩ ::
    if command.values = [] then [] else frameReads size

theorem FollowsAnnounced.not_mem_of_valueless {command : Command} {frame : Bytes}
    {answers : List Answered} (hfollows : FollowsAnnounced (command.requestCalls frame) 4 answers)
    (hvalues : command.values = []) (size : Nat) :
    .read size ∉ answers.map Answered.call := by
  rcases hfollows with ⟨_, hfollows, _⟩
  intro hmem
  have hplanned := hfollows.calls_prefix.subset hmem
  simp [Command.requestCalls, hvalues] at hplanned

/-! ## Exchanges that make such calls -/

theorem Chunk.bytes_eq_singleton_iff {byte : UInt8} :
    ∀ chunk : Chunk 1, chunk.bytes = [byte] ↔ chunk.byte = byte
  | ⟨[_], _⟩ => by simp [Chunk.byte]

theorem Chunk.announces_iff {size : Nat} : ∀ chunk : Chunk 2,
    LengthField.Announces chunk.bytes size ↔
      LengthField.decode chunk.pair.1 chunk.pair.2 = .ok size
  | ⟨[_, _], _⟩ => by simp [Chunk.pair, LengthField.Announces]

namespace LinkT

section

variable {σ α β : Type}

/-- The line is not used, and does not fail. -/
def Contract.silent (line : σ) : Contract σ where
  line := (· = line)
  event event := event.call? = none
  failure e := ∀ cause, e ≠ .transport cause

/-- Whatever line it finds, the exchange leaves it alone. -/
def Silent (exchange : LinkT (StateM (Transcript σ)) α) : Prop :=
  ∀ line, (Contract.silent line).Keeps exchange fun _ => True

/-- An exchange whose line has failed passes this failure on, and no other exchange has a
failure of the line for its result. -/
def Reports (answers : List Answered) (result : Except LinkError α) : Prop :=
  ∀ e, result = .error (.transport e) ↔ ∃ call, ⟨call, .error e⟩ ∈ answers

variable [Transport (StateM σ)]

/-- Whatever the line answers, the calls of the exchange are allowed. -/
def Performs (exchange : LinkT (StateM (Transcript σ)) α)
    (allowed : List Answered → Prop) : Prop :=
  ∀ line, ∃ events result after answers, Runs exchange line events result after ∧
    Call.replay (events.filterMap Event.call?) line = (answers, after) ∧
    Reports answers result ∧ allowed answers

namespace Performs

variable {exchange : LinkT (StateM (Transcript σ)) α}
  {next : α → LinkT (StateM (Transcript σ)) β} {allowed : List Answered → Prop}

theorem mono {wider : List Answered → Prop} (hperforms : Performs exchange allowed)
    (hwider : ∀ answers, allowed answers → wider answers) : Performs exchange wider := by
  intro line
  obtain ⟨events, result, after, answers, hrun, hreplay, hreports, hallowed⟩ :=
    hperforms line
  exact ⟨events, result, after, answers, hrun, hreplay, hreports, hwider _ hallowed⟩

theorem bind_silent (hfirst : Performs exchange allowed)
    (hnext : ∀ value, Silent (next value)) :
    Performs (exchange >>= next) allowed := by
  intro line
  obtain ⟨events, result, middle, answers, hrun, hreplay, hreports, hallowed⟩ := hfirst line
  cases result with
  | error e =>
      refine ⟨events, .error e, middle, answers, Runs.bind_error hrun, hreplay, ?_, hallowed⟩
      intro cause
      rw [← hreports cause]
      simp
  | ok value =>
      obtain ⟨later, result, after, hlater, rfl, hsilent, hfailure⟩ :=
        hnext value middle middle rfl
      have hnothing : later.filterMap Event.call? = [] :=
        List.filterMap_eq_nil_iff.mpr hsilent
      refine ⟨events ++ later, result, after, answers, Runs.bind hrun hlater, ?_, ?_,
        hallowed⟩
      · rw [List.filterMap_append, hnothing, List.append_nil, hreplay]
      · intro cause
        rw [← hreports cause]
        cases result with
        | ok value => simp
        | error e => simpa using hfailure cause

theorem of_silent (hsilent : Silent exchange) (hallowed : allowed []) :
    Performs exchange allowed := by
  have hpure : Performs (pure () : LinkT (StateM (Transcript σ)) Unit) allowed := by
    intro line
    exact ⟨[], .ok (), line, [], Runs.pure, rfl, by simp [Reports], hallowed⟩
  exact hpure.bind_silent fun _ => hsilent

theorem call {made : Call} {act : StateM σ (Except TransportError α)} {content : α → Bytes}
    (hmade : made.make = Except.map content <$> act)
    (hfailed : ∀ e, allowed [⟨made, .error e⟩])
    (hnext : ∀ value, Performs (next value) fun later =>
      allowed (⟨made, .ok (content value)⟩ :: later)) :
    Performs (LinkT.call (Transcript.observe made act) >>= next) allowed := by
  intro line
  have hmake : made.make line = ((act line).1.map content, (act line).2) := by
    rw [hmade]
    rfl
  rcases hact : act line with ⟨result, middle⟩
  rw [hact] at hmake
  cases result with
  | error e =>
      refine ⟨_, _, middle, [⟨made, .error e⟩], Runs.bind_error (Runs.call_error hact), ?_,
        ?_, hfailed e⟩
      · simp [Event.call?, Call.replay, hmake, Except.map]
      · intro cause
        simp [eq_comm]
  | ok value =>
      obtain ⟨events, result, after, answers, hrun, hreplay, hreports, hallowed⟩ :=
        hnext value middle
      refine ⟨_, result, after, ⟨made, .ok (content value)⟩ :: answers,
        Runs.bind (Runs.call_ok hact) hrun, ?_, ?_, hallowed⟩
      · simp [Event.call?, Call.replay, hmake, hreplay, Except.map]
      · intro cause
        rw [hreports cause]
        simp

theorem on_start (hperforms : Performs exchange allowed) (line : σ) :
    let run := exchange.on (Transcript.start line)
    (Call.replay run.2.calls line).2 = run.2.line ∧
      Reports (run.2.answers line) run.1 ∧ allowed (run.2.answers line) := by
  obtain ⟨events, result, after, answers, hrun, hreplay, hreports, hallowed⟩ :=
    hperforms line
  have hon : exchange.on (Transcript.start line) = (result, ⟨after, events⟩) := hrun []
  rw [hon]
  simp only [Transcript.answers, Transcript.calls, hreplay]
  exact ⟨trivial, hreports, hallowed⟩

theorem checked {first : PlannedCall} {rest : Bytes → List Answered → Prop}
    {act : StateM σ (Except TransportError α)} {content : α → Bytes}
    (hpermits : first.Permits rest allowed)
    (hmade : first.call.make = Except.map content <$> act)
    (hcut : ∀ value, ¬ first.passes (content value) → Silent (next value))
    (hpass : ∀ value, first.passes (content value) →
      Performs (next value) (rest (content value))) :
    Performs (LinkT.call (Transcript.observe first.call act) >>= next) allowed := by
  refine Performs.call hmade hpermits.failed fun value => ?_
  by_cases hcheck : first.passes (content value)
  · exact (hpass value hcheck).mono fun later hlater => hpermits.next hcheck hlater
  · exact of_silent (hcut value hcheck) (hpermits.cut hcheck)

theorem read {size : Nat} {passes : Bytes → Prop} {rest : Bytes → List Answered → Prop}
    {next : Chunk size → LinkT (StateM (Transcript σ)) β}
    (hpermits : PlannedCall.Permits ⟨.read size, passes⟩ rest allowed)
    (hcut : ∀ chunk : Chunk size, ¬ passes chunk.bytes → Silent (next chunk))
    (hpass : ∀ chunk : Chunk size, passes chunk.bytes →
      Performs (next chunk) (rest chunk.bytes)) :
    Performs (LinkT.read size >>= next) allowed :=
  checked hpermits rfl hcut hpass

end Performs

end

/-! ## Frames that are received -/

section

variable {σ α β : Type}

theorem Silent.pure (value : α) :
    Silent (pure value : LinkT (StateM (Transcript σ)) α) := by
  intro line
  exact Contract.Keeps.pure trivial

theorem Silent.throw_frame (e : FrameError) {next : β → LinkT (StateM (Transcript σ)) α} :
    Silent (throw (.frame e) >>= next) := by
  intro line
  apply Contract.Keeps.throw
  intro cause hcause
  cases hcause

theorem Silent.openReply (command : Command) (bytes : Bytes) :
    Silent (Endpoint.openReply command bytes : LinkT (StateM (Transcript σ)) Record) := by
  intro line
  -- Nothing that can be wrong with a reply is a failure of the line.
  apply Contract.Keeps.openReply
  case hnote => exact fun _ => rfl
  all_goals
    intros
    intro cause hcause
    cases hcause

end

variable {σ : Type} [Transport (StateM σ)]

theorem performs_receiveFrame :
    Performs (receiveFrame : LinkT (StateM (Transcript σ)) Bytes)
      (FollowsAnnounced frameReads 2) := by
  unfold receiveFrame receiveAfter
  refine Performs.read (FollowsAnnounced.permits _ _ 1) (fun start hcut => ?_)
    fun start hpass => ?_
  · have hstart : start.byte ≠ Frame.startMarker :=
      mt start.bytes_eq_singleton_iff.mpr hcut
    simp only [hstart, ne_eq, not_false_eq_true, if_true]
    exact Silent.throw_frame _
  have hstart : start.byte = Frame.startMarker := start.bytes_eq_singleton_iff.mp hpass
  simp only [hstart, ne_eq, not_true_eq_false, if_false]
  refine Performs.read (FollowsAnnounced.permits _ _ 0)
    (fun header hcut => absurd trivial hcut) fun header _ => ?_
  refine Performs.read (FollowsAnnounced.permits_readLength _) (fun length hcut => ?_)
    fun length hpass => ?_
  · cases hlength : LengthField.decode length.pair.1 length.pair.2 with
    | ok size => exact absurd ⟨size, length.announces_iff.mpr hlength⟩ hcut
    | error e => exact Silent.throw_frame e
  rcases hpass with ⟨size, hsize⟩
  simp only [length.announces_iff.mp hsize, pure_bind]
  refine (Performs.read (Follows.permits _ _) (fun info hcut => absurd trivial hcut)
    fun info _ => ?_).mono fun later hlater => ⟨size, hsize, hlater⟩
  refine Performs.read (Follows.permits _ _) (fun check hcut => absurd trivial hcut)
    fun check _ => ?_
  refine Performs.read (Follows.permits _ _) (fun last hcut => ?_) fun last hpass => ?_
  · have hlast : last.byte ≠ Frame.endMarker := mt last.bytes_eq_singleton_iff.mpr hcut
    simp only [hlast, not_false_eq_true, if_true]
    exact Silent.throw_frame _
  · have hlast : last.byte = Frame.endMarker := last.bytes_eq_singleton_iff.mp hpass
    simp only [hlast, not_true_eq_false, if_false]
    exact Performs.of_silent (Silent.pure _) .done

end LinkT

namespace Endpoint

variable {σ : Type} [Transport (StateM σ)] {endpoint : Endpoint} {command : Command}
  {data : Record}

theorem performs_awaitReply (command : Command) :
    Performs (awaitReply command : LinkT (StateM (Transcript σ)) Record)
      (FollowsAnnounced frameReads 2) := by
  rw [awaitReply_eq]
  exact performs_receiveFrame.bind_silent (Silent.openReply command)

theorem performs_concludeSend (command : Command) :
    Performs (concludeSend command : LinkT (StateM (Transcript σ)) Outcome)
      (FollowsAnnounced
        (fun size => if command.values = [] then [] else frameReads size) 2) := by
  unfold concludeSend
  by_cases hvalues : command.values = []
  · simp only [Command.isUnidirectional, hvalues, List.isEmpty_nil, if_true]
    exact Performs.of_silent (Silent.pure _) ⟨0, .done, by simp⟩
  · have hawaited : command.values.isEmpty = false := by
      simpa using hvalues
    simp only [Command.isUnidirectional, hvalues, hawaited, if_false]
    exact (performs_awaitReply command).bind_silent fun record => Silent.pure _

theorem performs_send {key : String} {frame : Bytes}
    (hkey : endpoint.registry.byKey? key = some command)
    (hframe : endpoint.requestFrame command data = .ok frame) :
    Performs (endpoint.send key data : LinkT (StateM (Transcript σ)) Outcome)
      (FollowsAnnounced (command.requestCalls frame) 4) := by
  rw [send_eq_of_built hkey hframe]
  unfold sendFrame
  rw [bind_assoc]
  refine Performs.checked (FollowsAnnounced.permits ⟨.write frame, fun _ => True⟩ _ 3) rfl
    (fun _ hcut => absurd trivial hcut) fun _ _ => ?_
  refine Performs.checked (FollowsAnnounced.permits ⟨.flush, fun _ => True⟩ _ 2) rfl
    (fun _ hcut => absurd trivial hcut) fun _ _ => ?_
  exact performs_concludeSend command

theorem silent_send_of_unknown {key : String}
    (hkey : endpoint.registry.byKey? key = none) :
    Silent (endpoint.send key data : LinkT (StateM (Transcript σ)) Outcome) := by
  intro line _ hline
  exact ⟨_, _, _, runs_send_unknown hkey _, hline, by simp [Contract.silent, Event.call?],
    trivial⟩

theorem silent_send_of_unbuilt {key : String} {e : CodecError}
    (hkey : endpoint.registry.byKey? key = some command)
    (hframe : endpoint.requestFrame command data = .error e) :
    Silent (endpoint.send key data : LinkT (StateM (Transcript σ)) Outcome) := by
  intro line _ hline
  exact ⟨_, _, _, runs_send_unbuilt hkey hframe _, hline,
    by simp [Contract.silent, Event.call?], trivial⟩

theorem performs_send_anything (endpoint : Endpoint) (key : String) (data : Record) :
    Performs (endpoint.send key data : LinkT (StateM (Transcript σ)) Outcome)
      fun _ => True := by
  cases hkey : endpoint.registry.byKey? key with
  | none => exact Performs.of_silent (silent_send_of_unknown hkey) trivial
  | some command =>
      cases hframe : endpoint.requestFrame command data with
      | error e => exact Performs.of_silent (silent_send_of_unbuilt hkey hframe) trivial
      | ok frame => exact (performs_send hkey hframe).mono fun _ _ => trivial

/-- On a line that may answer anything, a request for an unknown command and one that
does not fit into a frame make no call. Any other writes its frame, flushes, and for a
command with value fields reads the parts of a frame, up to the first call that fails or
the first check that does. The failure of a call is what the request results in. -/
theorem send_calls_in_steps (endpoint : Endpoint) (key : String) (data : Record)
    (line : σ) :
    let sent := (endpoint.send key data).on (Transcript.start line)
    ((∀ command ∈ endpoint.registry.commands, command.key ≠ key) →
      sent.1 = .ok .unknownCommand ∧ sent.2.calls = []) ∧
    (∀ command ∈ endpoint.registry.commands, command.key = key →
      ((∀ info, Payload.encode .reject data command.params = .ok info →
          4095 < info.length) →
        sent.1 = .ok .frameNotBuilt ∧ sent.2.calls = []) ∧
      (∀ info frame, Payload.encode .reject data command.params = .ok info →
        Frame.encode ⟨endpoint.address, command.id1, command.id2, info⟩ = .ok frame →
          FollowsAnnounced (command.requestCalls frame) 4 (sent.2.answers line)) ∧
      (command.values = [] → ∀ size, .read size ∉ sent.2.calls)) ∧
    (∀ e, sent.1 = .error (.transport e) ↔
      ∃ call, ⟨call, .error e⟩ ∈ sent.2.answers line) ∧
    (Call.replay sent.2.calls line).2 = sent.2.line := by
  intro sent
  obtain ⟨hreplayed, hreports, _⟩ := (performs_send_anything endpoint key data).on_start line
  refine ⟨fun hunknown => ?_, fun command hmem hkey => ?_, hreports, hreplayed⟩
  · have hkey := Registry.byKey?_eq_none_iff.mpr hunknown
    have hsent : sent = (.ok .unknownCommand, ⟨line, [.noted (.unknownCommand key)]⟩) :=
      runs_send_unknown hkey line []
    rw [hsent]
    exact ⟨rfl, rfl⟩
  have hknown := Registry.byKey?_eq_some_iff.mpr ⟨hmem, hkey⟩
  cases hframe : endpoint.requestFrame command data with
  | error e =>
      have hsent : sent = (.ok .frameNotBuilt, ⟨line, [.noted (.frameNotBuilt key e)]⟩) :=
        runs_send_unbuilt hknown hframe line []
      have hcalls : sent.2.calls = [] := by
        rw [hsent]
        rfl
      refine ⟨fun _ => ⟨congrArg Prod.fst hsent, hcalls⟩, fun info frame hencode hfits => ?_,
        fun _ size => by simp [hcalls]⟩
      have hlong := oversized_of_requestFrame hframe hencode
      exact absurd (Frame.encode_eq_ok_iff.mp hfits).1 (Nat.not_le.mpr hlong)
  | ok built =>
      obtain ⟨_, _, hfollows⟩ := (performs_send hknown hframe).on_start line
      obtain ⟨info, hencode, hfits, hbuilt⟩ := requestFrame_eq_ok_iff.mp hframe
      refine ⟨fun hunbuilt => ?_, fun other frame hother hwhole => ?_, fun hvalues => ?_⟩
      · exact absurd hfits (Nat.not_le.mpr (hunbuilt info hencode))
      · rw [hencode] at hother
        cases hother
        have hframe := (Frame.encode_eq_ok_iff.mp hwhole).2
        rw [← hframe, hbuilt]
        exact hfollows
      · rw [← Call.map_call_replay sent.2.calls line]
        exact hfollows.not_mem_of_valueless hvalues

/-- The reply breaks off behind its payload. -/
theorem send_calls_in_steps_broken :
    let inbound := [0x7E, 0x21, 0x02, 0x40, 0x00, 0xC0, 0x02, 0x01, 0x2C, 0xFE]
    let line : Wire := ⟨inbound, true, false⟩
    let frame := Frame.toBytes ⟨1, 0x40, 0x81, [0]⟩
    let sent := (send ⟨Registry.meter, 1⟩ "sum" Registry.noReadings).on (Transcript.start line)
    FollowsAnnounced (Registry.meterCommand.requestCalls frame) 4 (sent.2.answers line) ∧
      sent.1 = .error (.transport (.shortRead 2 1)) ∧
      sent.2.calls =
        [.write frame, .flush, .read 1, .read 4, .read 2, .read 2, .read 2] := by
  intro inbound line frame sent
  obtain ⟨_, hknown, hreports, _⟩ :=
    send_calls_in_steps ⟨Registry.meter, 1⟩ "sum" Registry.noReadings line
  have hmem : Registry.meterCommand ∈ Registry.meter.commands := by
    simp [Registry.meter]
  obtain ⟨_, hsteps, _⟩ := hknown Registry.meterCommand hmem rfl
  refine ⟨hsteps [0] frame rfl rfl, (hreports _).mpr ⟨.read 2, ?_⟩, ?_⟩
  · decide +kernel
  · decide +kernel

end Endpoint

end PowerLink
