import PowerLink.Proofs.Contracts
import PowerLink.Proofs.Packets
import PowerLink.Proofs.Results

/-!
# What the ends of the line do

For every operation of a client and of a device: the calls of the line that it makes,
in their order, and its result.
-/

namespace PowerLink

open LinkT Results

/-- What a client makes of a frame that it reads as the reply to the command. -/
def Command.verdict (command : Command) (frame : Frame) : Except LinkError Record :=
  let code := ReturnCode.ofByte frame.id2
  if code.isOk then (Payload.decode command.values frame.info).mapError .invalidData
  else .error (.rejected code)

theorem Command.verdict_of_ok {command : Command} {frame : Frame} {record : Record}
    (hcode : frame.id2 = 0) (hvalues : Payload.decode command.values frame.info = .ok record) :
    command.verdict frame = .ok record := by
  have hok : (ReturnCode.ofByte frame.id2).isOk = true := by
    rw [hcode]
    rfl
  simp only [verdict, hok, if_true, hvalues]
  rfl

namespace Endpoint

variable {σ : Type}
  {endpoint : Endpoint} {command : Command} {data : Record}

/-! ## Requests as they are understood -/

section

variable {bytes : Bytes} {frame : Frame} {line : σ}

theorem runs_resolve {record : Record} (hframe : Frame.decode bytes = .ok frame)
    (hids : endpoint.registry.byIds? frame.id1 frame.id2 = some command)
    (hparams : Payload.decode command.params frame.info = .ok record) :
    Runs (endpoint.resolve bytes) line [] (.ok (command, record)) line := by
  refine Runs.bind (Runs.openFrame_ok hframe) ?_
  simp only [hids, hparams]
  exact Runs.pure

theorem runs_resolve_refused {e : FrameError} (hframe : Frame.decode bytes = .error e) :
    Runs (endpoint.resolve bytes) line
      (if e.warning?.isSome then [.noted (.frameRefused e)] else [])
      (.error (.frame e)) line :=
  Runs.bind_error (Runs.openFrame_error hframe)

theorem runs_resolve_unknown (hframe : Frame.decode bytes = .ok frame)
    (hids : endpoint.registry.byIds? frame.id1 frame.id2 = none) :
    Runs (endpoint.resolve bytes) line []
      (.error (.unknownId frame.id1 frame.id2)) line := by
  refine Runs.bind (Runs.openFrame_ok hframe) ?_
  simp only [hids]
  exact Runs.throw

theorem runs_resolve_misfit {e : CodecError} (hframe : Frame.decode bytes = .ok frame)
    (hids : endpoint.registry.byIds? frame.id1 frame.id2 = some command)
    (hparams : Payload.decode command.params frame.info = .error e) :
    Runs (endpoint.resolve bytes) line []
      (.error (.invalidParams frame.id1 frame.id2 e)) line := by
  refine Runs.bind (Runs.openFrame_ok hframe) ?_
  simp only [hids, hparams]
  exact Runs.throw

end

variable [Transport (StateM σ)]

/-! ## Requests as they are received -/

/-- To await a request for a while is to receive it, unless no byte comes at all. -/
theorem on_tryReceive [Journal (StateM σ)] (endpoint : Endpoint) (line : σ) :
    endpoint.tryReceive.on line =
      match (Transport.read 1 : StateM σ _) line with
      | (.error (.shortRead _ 0), after) => (.ok none, after)
      | _ => ((endpoint.receive.on line).1.map some, (endpoint.receive.on line).2) := by
  unfold tryReceive receive receiveFrame
  rw [on_bind, on_liftM, bind_assoc, on_bind, on_read]
  rcases (Transport.read 1 : StateM σ _) line with ⟨result, after⟩
  cases result with
  | ok start =>
      simp only [Except.mapError]
      rw [← on_some, bind_assoc]
  | error e =>
      cases e with
      | shortRead expected received =>
          cases received with
          | zero => rfl
          | succ received => rfl
      | _ => rfl

section

variable {inLine : Wire → σ} {packet : Packet} {tail : Bytes} {drained : Bool}
  {events : List Event} {result : Except LinkError (Command × Record)} {after : σ}

theorem runs_receive (hline : Wire.IsReadOf inLine)
    (hresolve : Runs (endpoint.resolve packet.toBytes)
      (inLine ⟨tail, true, drained⟩) events result after) :
    Runs endpoint.receive (inLine ⟨packet.toBytes ++ tail, true, drained⟩)
      (Event.reads [1, 4, 2, packet.info.length, 2, 1] ++ events) result after :=
  Runs.bind (Runs.receiveFrame hline drained packet tail) hresolve

theorem exists_runs_tryReceive {waits : Bytes → σ → Prop} (hreads : ReadsInOrder waits)
    {line : σ} (hline : waits (packet.toBytes ++ tail) line)
    (hresolve : ∀ middle : σ,
      Runs (endpoint.resolve packet.toBytes) middle events result middle) :
    ∃ after, Runs endpoint.tryReceive line (Event.reads packet.readSizes ++ events)
      (result.map some) after ∧ waits tail after := by
  obtain ⟨after, hframe, hafter⟩ := Runs.exists_receiveFrame hreads hline
  have hreceive : Runs endpoint.receive line _ result after :=
    Runs.bind hframe (hresolve after)
  refine ⟨after, fun before => ?_, hafter⟩
  obtain ⟨middle, hread⟩ : ∃ middle, (Transport.read 1 : StateM (Transcript σ) _)
      ⟨line, before⟩ = (.ok ⟨[Frame.startMarker], rfl⟩, middle) := by
    rw [packet.toBytes_append] at hline
    obtain ⟨middle, hread, _⟩ := hreads 1 _ _ rfl line (by simp) hline
    exact ⟨_, Runs.observe_ok hread before⟩
  rw [on_tryReceive, hread, hreceive before]

end

/-! ## Requests as they are sent -/

theorem requestFrame_eq_ok_iff {bytes : Bytes} :
    endpoint.requestFrame command data = .ok bytes ↔
      ∃ info, Payload.encode .reject data command.params = .ok info ∧
        info.length ≤ LengthField.maxInfo ∧
        Frame.toBytes ⟨endpoint.address, command.id1, command.id2, info⟩ = bytes := by
  simp only [requestFrame, bind_eq_ok_iff, mapError_eq_ok_iff, Frame.encode_eq_ok_iff]

theorem oversized_of_requestFrame {e : CodecError} {info : Bytes}
    (hframe : endpoint.requestFrame command data = .error e)
    (hencode : Payload.encode .reject data command.params = .ok info) :
    LengthField.maxInfo < info.length := by
  by_contra hfits
  have hbuilt : endpoint.requestFrame command data = .ok _ :=
    requestFrame_eq_ok_iff.mpr ⟨info, hencode, Nat.le_of_not_lt hfits, rfl⟩
  rw [hframe] at hbuilt
  simp at hbuilt

theorem runs_send_unknown {key : String} (hkey : endpoint.registry.byKey? key = none)
    (line : σ) :
    Runs (endpoint.send key data) line [.noted (.unknownCommand key)]
      (.ok .unknownCommand) line := by
  unfold send
  rw [hkey]
  exact Runs.bind (Runs.note _) Runs.pure

theorem runs_send_unbuilt {key : String} {e : CodecError}
    (hkey : endpoint.registry.byKey? key = some command)
    (hframe : endpoint.requestFrame command data = .error e) (line : σ) :
    Runs (endpoint.send key data) line [.noted (.frameNotBuilt key e)]
      (.ok .frameNotBuilt) line := by
  unfold send
  rw [hkey]
  simp only [hframe]
  exact Runs.bind (Runs.note _) Runs.pure

/-- What is left to do once a request has been written. -/
def concludeSend (command : Command) : LinkT (StateM (Transcript σ)) Outcome :=
  if command.isUnidirectional then return .sent
  else return .reply (← awaitReply command)

theorem send_eq_of_built {key : String} {frame : Bytes}
    (hkey : endpoint.registry.byKey? key = some command)
    (hframe : endpoint.requestFrame command data = .ok frame) :
    (endpoint.send key data : LinkT (StateM (Transcript σ)) Outcome) =
      (do sendFrame frame; concludeSend command) := by
  unfold send concludeSend
  rw [hkey]
  simp only [hframe]

/-! ## Replies -/

/-- The frame of a reply. -/
def replyFrame (endpoint : Endpoint) (command : Command) (code : ReturnCode)
    (data : Record) : Except LinkError Bytes := do
  let info ← (Payload.encode .omit data command.values).mapError .badReply
  let frame : Frame := ⟨endpoint.address, command.id1, code.toByte, info⟩
  frame.encode.mapError .frame

theorem respond_eq {m : Type → Type} [Monad m] [Transport m] [Journal m]
    (endpoint : Endpoint) (command : Command) (code : ReturnCode) (data : Record) :
    (endpoint.respond command code data : LinkT m Unit) =
      match endpoint.replyFrame command code data with
      | .ok bytes => sendFrame bytes
      | .error e => throw e := by
  unfold respond replyFrame
  cases Payload.encode .omit data command.values with
  | error e => rfl
  | ok info =>
      cases hframe : Frame.encode ⟨endpoint.address, command.id1, code.toByte, info⟩ with
      | error e => simp [hframe, bind, Except.bind, Except.mapError]
      | ok bytes => simp [hframe, bind, Except.bind, Except.mapError]

theorem replyFrame_eq_ok_iff {code : ReturnCode} {bytes : Bytes} :
    endpoint.replyFrame command code data = .ok bytes ↔
      ∃ info, Payload.encode .omit data command.values = .ok info ∧
        info.length ≤ LengthField.maxInfo ∧
        Frame.toBytes ⟨endpoint.address, command.id1, code.toByte, info⟩ = bytes := by
  simp only [replyFrame, bind_eq_ok_iff, mapError_eq_ok_iff, Frame.encode_eq_ok_iff]

theorem replyFrame_eq_error_iff {code : ReturnCode} {e : LinkError} :
    endpoint.replyFrame command code data = .error e ↔
      (∃ cause, Payload.encode .omit data command.values = .error cause ∧
        e = .badReply cause) ∨
      ∃ info, Payload.encode .omit data command.values = .ok info ∧
        LengthField.maxInfo < info.length ∧ e = .frame (.oversized info.length) := by
  simp only [replyFrame, bind_eq_error_iff, mapError_eq_error_iff, mapError_eq_ok_iff,
    Frame.encode_eq_error_iff]
  constructor
  · rintro (⟨cause, hencode, rfl⟩ | ⟨info, hencode, _, ⟨hlong, rfl⟩, rfl⟩)
    · exact .inl ⟨cause, hencode, rfl⟩
    · exact .inr ⟨info, hencode, hlong, rfl⟩
  · rintro (⟨cause, hencode, rfl⟩ | ⟨info, hencode, hlong, rfl⟩)
    · exact .inl ⟨cause, hencode, rfl⟩
    · exact .inr ⟨info, hencode, _, ⟨hlong, rfl⟩, rfl⟩

theorem replyFrame_of_empty {code : ReturnCode}
    (hencode : Payload.encode .omit data command.values = .ok []) :
    endpoint.replyFrame command code data =
      .ok (Frame.toBytes ⟨endpoint.address, command.id1, code.toByte, []⟩) :=
  replyFrame_eq_ok_iff.mpr ⟨[], hencode, Nat.zero_le _, rfl⟩

theorem runs_respond {code : ReturnCode} {bytes : Bytes} {line middle after : σ}
    (hframe : endpoint.replyFrame command code data = .ok bytes)
    (hwrite : (Transport.write bytes : StateM σ _) line = (.ok (), middle))
    (hflush : (Transport.flush : StateM σ _) middle = (.ok (), after)) :
    Runs (endpoint.respond command code data) line
      [.called (.write bytes) none, .called .flush none] (.ok ()) after := by
  rw [respond_eq, hframe]
  exact Runs.sendFrame hwrite hflush

/-- A bare return code always fits into a frame. -/
theorem respondCode_eq {m : Type → Type} [Monad m] [Transport m] [Journal m]
    (endpoint : Endpoint) (id1 : UInt8) (code : ReturnCode) :
    (endpoint.respondCode id1 code : LinkT m Unit) =
      sendFrame (Frame.toBytes ⟨endpoint.address, id1, code.toByte, []⟩) := by
  have hencode : Frame.encode ⟨endpoint.address, id1, code.toByte, []⟩ = .ok _ :=
    Frame.encode_eq_ok_iff.mpr ⟨Nat.zero_le _, rfl⟩
  unfold respondCode
  simp only [hencode]

theorem runs_respondCode {id1 : UInt8} {code : ReturnCode} {line middle after : σ}
    {bytes : Bytes}
    (hbytes : Frame.toBytes ⟨endpoint.address, id1, code.toByte, []⟩ = bytes)
    (hwrite : (Transport.write bytes : StateM σ _) line = (.ok (), middle))
    (hflush : (Transport.flush : StateM σ _) middle = (.ok (), after)) :
    Runs (endpoint.respondCode id1 code) line
      [.called (.write bytes) none, .called .flush none] (.ok ()) after := by
  rw [respondCode_eq, hbytes]
  exact Runs.sendFrame hwrite hflush

/-- Exactly one packet is read, whether or not it was written for this command. -/
theorem runs_awaitReply {inLine : Wire → σ} (hline : Wire.IsReadOf inLine)
    (command : Command) (drained : Bool) (tail : Bytes) {packet : Packet} {frame : Frame}
    (hframe : Frame.decode packet.toBytes = .ok frame) :
    Runs (awaitReply command) (inLine ⟨packet.toBytes ++ tail, true, drained⟩)
      (Event.reads [1, 4, 2, packet.info.length, 2, 1] ++
        if (ReturnCode.ofByte frame.id2).isOk then []
        else [.noted (.rejectedByDevice command.key (.ofByte frame.id2))])
      (command.verdict frame) (inLine ⟨tail, true, drained⟩) := by
  unfold Command.verdict
  by_cases hcode : (ReturnCode.ofByte frame.id2).isOk = true
  · simp only [hcode, if_true]
    refine Runs.bind (Runs.receiveFrame hline drained packet tail) ?_
    refine Runs.bind (Runs.openFrame_ok hframe) ?_
    simp only [hcode, not_true_eq_false, if_false]
    cases Payload.decode command.values frame.info with
    | ok record => exact Runs.pure
    | error e => exact Runs.throw
  · simp only [hcode]
    refine Runs.bind (Runs.receiveFrame hline drained packet tail) ?_
    refine Runs.bind (Runs.openFrame_ok hframe) ?_
    simp only [hcode]
    exact Runs.bind (Runs.note _) Runs.throw

/-- A client that awaits a reply takes the first frame it has not read yet for it. -/
theorem runs_concludeSend {inLine : Wire → σ} (hline : Wire.IsReadOf inLine)
    (hvalues : command.values ≠ []) (drained : Bool) (tail : Bytes) {bytes : Bytes}
    {frame : Frame} (hframe : Frame.decode bytes = .ok frame) :
    ∃ events, Runs (concludeSend command) (inLine ⟨bytes ++ tail, true, drained⟩) events
      ((command.verdict frame).map .reply) (inLine ⟨tail, true, drained⟩) := by
  have hawaited : command.isUnidirectional = false := by
    simpa [Command.isUnidirectional] using hvalues
  rcases Frame.toBytes_of_decode hframe with ⟨hfits, rfl⟩
  rw [← Packet.toBytes_ofFrame frame hfits] at hframe ⊢
  have hawait := runs_awaitReply hline command drained tail hframe
  unfold concludeSend
  simp only [hawaited]
  cases hverdict : command.verdict frame with
  | ok reply =>
      rw [hverdict] at hawait
      exact ⟨_, Runs.bind hawait Runs.pure⟩
  | error e =>
      rw [hverdict] at hawait
      exact ⟨_, Runs.bind_error hawait⟩

/-- Once its request has been written, a client only reads and logs. -/
theorem exists_runs_concludeSend (allowed : Event → Prop)
    (hread : ∀ size failure, allowed (.called (.read size) failure))
    (hnote : ∀ notice, allowed (.noted notice)) (command : Command) (line : σ) :
    ∃ events result after, Runs (concludeSend command) line events result after ∧
      ∀ event ∈ events, allowed event := by
  have hawait : (Contract.onlyCauses allowed).Keeps
      (awaitReply command : LinkT (StateM (Transcript σ)) Record) fun _ => True :=
    (Contract.receives_onlyCauses hread hnote).keeps_awaitReply (fun _ => trivial)
      (fun _ => trivial) command
  unfold concludeSend
  by_cases hsilent : command.isUnidirectional = true
  · simp only [hsilent, if_true]
    exact ⟨[], _, line, Runs.pure, by simp⟩
  · simp only [hsilent]
    have hreply : (Contract.onlyCauses allowed).Keeps
        (do return Outcome.reply (← awaitReply command)) fun _ => True :=
      hawait.bind fun record _ => Contract.Keeps.pure trivial
    obtain ⟨events, result, after, hrun, _, hevents, _⟩ := hreply line trivial
    exact ⟨events, result, after, hrun, hevents⟩

end Endpoint

end PowerLink
