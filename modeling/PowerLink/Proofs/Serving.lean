import PowerLink.Proofs.Endpoints
import PowerLink.Proofs.Payloads
import PowerLink.Proofs.Registries

/-!
# What a responder does in one turn

On a line that loses nothing and takes what is written, every turn of a responder takes
exactly one packet and puts exactly one frame on the line, and what the frame says
depends on the packet and on the canned values alone. A turn on a line that brings
nothing is one read in vain.
-/

namespace PowerLink

open LinkT

/-- The frame that has been put on the line by the event. -/
def Event.sentFrame? : Event → Option Bytes
  | .called (.write bytes) none => some bytes
  | _ => none

/-- The frames put on the line, in the order in which they were written. -/
def Transcript.framesSent {σ : Type} (transcript : Transcript σ) : List Bytes :=
  transcript.events.filterMap Event.sentFrame?

theorem Event.written_eq_getD (event : Event) :
    event.written = event.sentFrame?.getD [] := by
  cases event with
  | called call failure => cases call <;> cases failure <;> rfl
  | noted notice => rfl
  | printed text => rfl
  | complained text => rfl

theorem Transcript.written_eq_flatten {σ : Type} (transcript : Transcript σ) :
    transcript.written = transcript.framesSent.flatten := by
  unfold written framesSent
  induction transcript.events with
  | nil => rfl
  | cons event events ih =>
      rw [List.flatMap_cons, ih, List.filterMap_cons, event.written_eq_getD]
      cases event.sentFrame? with
      | none => rfl
      | some bytes => rfl

@[simp] theorem Event.filterMap_reads (sizes : List Nat) :
    (Event.reads sizes).filterMap Event.sentFrame? = [] := by
  simp [Event.reads, Event.sentFrame?]

theorem Event.filterMap_noted {α : Type} {read? : Event → Option α}
    (hread : ∀ notice, read? (.noted notice) = none) {events : List Event}
    (hnoted : ∀ event ∈ events, ∃ notice, event = .noted notice) :
    events.filterMap read? = [] := by
  rw [List.filterMap_eq_nil_iff]
  intro event hmem
  obtain ⟨notice, rfl⟩ := hnoted event hmem
  exact hread notice

/-! ## Lines that lose nothing -/

/-- Whatever waits on the line can be read, and is left alone by what is sent. -/
structure Faultless {σ : Type} [Transport (StateM σ)] (waits : Bytes → σ → Prop) :
    Prop where
  read : ReadsInOrder waits
  send : ∀ (sent waiting : Bytes) (line : σ), waits waiting line → ∃ middle after,
    (Transport.write sent : StateM σ _) line = (.ok (), middle) ∧
      (Transport.flush : StateM σ _) middle = (.ok (), after) ∧ waits waiting after

theorem Wire.faultless (drained : Bool) :
    Faultless fun bytes wire => wire = (⟨bytes, true, drained⟩ : Wire) where
  read := Wire.isReadOf_self.readsInOrder drained
  send := by
    rintro sent waiting _ rfl
    exact ⟨_, _, Wire.write_of_open _ rfl sent, rfl, rfl⟩

/-! ## Canned values -/

namespace Responder

/-- Canned values that are taken for a command's values can be sent in one frame. -/
def CannedFit (responder : Responder) : Prop :=
  ∀ command ∈ responder.endpoint.registry.commands, ∀ json record,
    responder.canned.get? command.key = some json →
      command.valuesOfJson json = .ok record →
        ∃ info, Payload.encode .omit record command.values = .ok info ∧
          info.length ≤ 4095

end Responder

/-- For every command with value fields, values are canned that fill all of them and
can be sent in one frame. -/
def Registry.IsCanned (registry : Registry) (canned : KeyMap Json) : Prop :=
  ∀ command ∈ registry.commands, command.values ≠ [] →
    ∃ json record info, canned.get? command.key = some json ∧
      command.valuesOfJson json = .ok record ∧
      (∀ field ∈ command.values, field.key ∈ record.keys) ∧
      Payload.encode .omit record command.values = .ok info ∧ info.length ≤ 4095

theorem Registry.IsCanned.cannedFit {registry : Registry} {canned : KeyMap Json}
    (hcanned : registry.IsCanned canned) (address : UInt8) :
    Responder.CannedFit ⟨⟨registry, address⟩, canned⟩ := by
  intro command hmem json record hjson hrecord
  by_cases hvalues : command.values = []
  · refine ⟨[], ?_, Nat.zero_le _⟩
    rw [hvalues]
    rfl
  · obtain ⟨json', record', info, hjson', hrecord', _, hencode, hfits⟩ :=
      hcanned command hmem hvalues
    obtain rfl : json' = json := Option.some.inj (hjson'.symm.trans hjson)
    obtain rfl : record' = record := Except.ok.inj (hrecord'.symm.trans hrecord)
    exact ⟨info, hencode, hfits⟩

namespace Registry

def meterCanned : KeyMap Json :=
  KeyMap.ofList [("sum", .object [("total", .nat 307)])]

theorem isCanned_meter : meter.IsCanned meterCanned := by
  intro command hmem _
  obtain rfl : command = meterCommand := List.mem_singleton.mp hmem
  refine ⟨.object [("total", .nat 307)],
    KeyMap.ofList [("total", .scalar (.uint 307))], [0x01, 0x33], rfl, rfl, ?_, rfl,
    by decide⟩
  intro field hfield
  obtain rfl := List.mem_singleton.mp hfield
  decide

end Registry

/-! ## What a packet is answered with -/

namespace Responder

variable {responder : Responder} {request : Packet} {command : Command}

/-- The command that a sound packet asks for. -/
def AskedFor (responder : Responder) (request : Packet) (command : Command) : Prop :=
  request.IsSound ∧ command ∈ responder.endpoint.registry.commands ∧
    command.ids = (request.id1, request.id2)

/-- The identifier, the return code and the payload that a packet is answered with. -/
inductive Answers (responder : Responder) (request : Packet) :
    UInt8 → UInt8 → Bytes → Prop
  | badVersion (hver : request.ver ≠ 0x21) : Answers responder request 0x00 0x05 []
  | badChecksum (hver : request.ver = 0x21)
      (hcheck : request.checkWord ≠ Frame.checksum request.payload) :
      Answers responder request 0x00 0x02 []
  | unknown (hsound : request.IsSound)
      (hids : ∀ command ∈ responder.endpoint.registry.commands,
        command.ids ≠ (request.id1, request.id2)) :
      Answers responder request request.id1 0x04 []
  | badParams {command : Command} {e : CodecError}
      (hasked : responder.AskedFor request command)
      (hparams : Payload.decode command.params request.info = .error e) :
      Answers responder request request.id1 0x06 []
  | misfit {command : Command} {params : Record} {json : Json} {e : CodecError}
      (hasked : responder.AskedFor request command)
      (hparams : Payload.decode command.params request.info = .ok params)
      (hcanned : responder.canned.get? command.key = some json)
      (hvalues : command.valuesOfJson json = .error e) :
      Answers responder request request.id1 0x06 []
  | nothingCanned {command : Command} {params : Record}
      (hasked : responder.AskedFor request command)
      (hparams : Payload.decode command.params request.info = .ok params)
      (hcanned : responder.canned.get? command.key = none) :
      Answers responder request request.id1 0x00 []
  | values {command : Command} {params reply : Record} {json : Json} {info : Bytes}
      (hasked : responder.AskedFor request command)
      (hparams : Payload.decode command.params request.info = .ok params)
      (hcanned : responder.canned.get? command.key = some json)
      (hvalues : command.valuesOfJson json = .ok reply)
      (hencode : Payload.encode .omit reply command.values = .ok info) :
      Answers responder request request.id1 0x00 info

theorem AskedFor.unique {other : Command} (hasked : responder.AskedFor request command)
    (hother : responder.AskedFor request other) : other = command := by
  have hfirst := Registry.byIds?_eq_some_iff.mpr hasked.2
  have hsecond := Registry.byIds?_eq_some_iff.mpr hother.2
  exact Option.some.inj (hsecond.symm.trans hfirst)

/-- A packet that is understood, and for which there are canned values, is answered with
these values and with nothing else. -/
theorem Answers.eq_values {params reply : Record} {json : Json} {info sent : Bytes}
    {id1 code : UInt8} (hanswers : responder.Answers request id1 code sent)
    (hasked : responder.AskedFor request command)
    (hparams : Payload.decode command.params request.info = .ok params)
    (hcanned : responder.canned.get? command.key = some json)
    (hvalues : command.valuesOfJson json = .ok reply)
    (hencode : Payload.encode .omit reply command.values = .ok info) :
    code = 0x00 ∧ sent = info := by
  cases hanswers with
  | badVersion hver => exact absurd hasked.1.1 hver
  | badChecksum _ hcheck => exact absurd hasked.1.2 hcheck
  | unknown _ hids => exact absurd hasked.2.2 (hids command hasked.2.1)
  | badParams hother hfailed =>
      rw [hasked.unique hother, hparams] at hfailed
      simp at hfailed
  | misfit hother _ hjson hfailed =>
      rw [hasked.unique hother] at hjson hfailed
      rw [hcanned, Option.some.injEq] at hjson
      rw [← hjson, hvalues] at hfailed
      simp at hfailed
  | nothingCanned hother _ hnone =>
      rw [hasked.unique hother, hcanned] at hnone
      simp at hnone
  | values hother _ hjson hrecord hinfo =>
      rw [hasked.unique hother] at hjson hrecord hinfo
      rw [hcanned, Option.some.injEq] at hjson
      rw [← hjson, hvalues, Except.ok.injEq] at hrecord
      rw [← hrecord, hencode, Except.ok.injEq] at hinfo
      exact ⟨rfl, hinfo.symm⟩

/-! ## Answering -/

/-- The frame that a request for the command is answered with. -/
def reply (responder : Responder) (command : Command) : Except LinkError Bytes :=
  match responder.values command with
  | .ok record => responder.endpoint.replyFrame command .ok record
  | .error _ => responder.endpoint.replyFrame command .invalidData .empty

theorem reply_of_values {record : Record} (hvalues : responder.values command = .ok record) :
    responder.reply command = responder.endpoint.replyFrame command .ok record := by
  simp only [reply, hvalues]

theorem reply_of_misfit {e : CodecError} (hvalues : responder.values command = .error e) :
    responder.reply command =
      .ok (Frame.toBytes ⟨responder.endpoint.address, command.id1, 0x06, []⟩) := by
  simp only [reply, hvalues]
  exact Endpoint.replyFrame_of_empty (Payload.encode_omit_empty _)

section

variable {σ : Type} [Transport (StateM σ)] {line middle after : σ} {bytes : Bytes}
  (hwrite : (Transport.write bytes : StateM σ _) line = (.ok (), middle))
  (hflush : (Transport.flush : StateM σ _) middle = (.ok (), after))

include hwrite hflush

theorem exists_runs_answer (hreply : responder.reply command = .ok bytes) :
    ∃ events, Runs (responder.answer command) line events (.ok ()) after ∧
      events.filterMap Event.sentFrame? = [bytes] ∧
      events.filterMap Event.readSize? = [] := by
  unfold reply at hreply
  unfold answer
  cases hvalues : responder.values command with
  | ok record =>
      rw [hvalues] at hreply
      exact ⟨_, Endpoint.runs_respond hreply hwrite hflush, rfl, rfl⟩
  | error e =>
      rw [hvalues] at hreply
      have hrespond := Endpoint.runs_respond hreply hwrite hflush
      exact ⟨_, Runs.bind (Runs.note (.cannedMisfit command.key e)) hrespond, rfl, rfl⟩

theorem runs_refuse {e : LinkError} {code : ReturnCode}
    (hcode : e.returnCode? = some code)
    (hbytes : Frame.toBytes
      ⟨responder.endpoint.address, e.requestId1?.getD 0, code.toByte, []⟩ = bytes) :
    Runs (responder.refuse e) line
      [.noted (.requestRejected e), .called (.write bytes) none, .called .flush none]
      (.ok ()) after := by
  have hrefuse : (responder.refuse e : LinkT (StateM (Transcript σ)) Unit) =
      (do
        note (.requestRejected e)
        responder.endpoint.respondCode (e.requestId1?.getD 0) code) := by
    cases e with
    | transport cause => simp [LinkError.returnCode?] at hcode
    | _ => simp only [refuse, hcode]
  rw [hrefuse]
  exact Runs.bind (Runs.note _) (Endpoint.runs_respondCode hbytes hwrite hflush)

end

/-! ## One turn -/

/-- In one turn, and with whatever behind it, the packet is taken off the line and the
bytes are put on it as one frame. -/
def Handles (responder : Responder) (request : Packet) (bytes : Bytes) : Prop :=
  ∀ (drained : Bool) (tail : Bytes), ∃ events,
    Runs responder.turn (⟨request.toBytes ++ tail, true, drained⟩ : Wire) events (.ok ())
        ⟨tail, true, drained⟩ ∧
      events.filterMap Event.sentFrame? = [bytes]

/-- The responder handles the packet on every line that loses nothing, and reads no more
than the packet. -/
def Takes (responder : Responder) (request : Packet) (bytes : Bytes) : Prop :=
  ∀ (σ : Type) [Transport (StateM σ)] (waits : Bytes → σ → Prop), Faultless waits →
    ∀ (tail : Bytes) (line : σ), waits (request.toBytes ++ tail) line → ∃ events after,
      Runs responder.turn line events (.ok ()) after ∧ waits tail after ∧
        events.filterMap Event.sentFrame? = [bytes] ∧
        events.filterMap Event.readSize? = request.readSizes

theorem Takes.handles {bytes : Bytes} (htakes : responder.Takes request bytes) :
    responder.Handles request bytes := by
  intro drained tail
  obtain ⟨events, _, hturn, rfl, hsent, _⟩ := htakes Wire _ (Wire.faultless drained) tail _ rfl
  exact ⟨events, hturn, hsent⟩

theorem takes_of_refused {e : LinkError} {code : ReturnCode} {noted : List Event}
    (hresolve : ∀ {σ : Type} (line : σ),
      Runs (responder.endpoint.resolve request.toBytes) line noted (.error e) line)
    (hnoted : ∀ event ∈ noted, ∃ notice, event = .noted notice)
    (hcode : e.returnCode? = some code) :
    responder.Takes request (Frame.toBytes
      ⟨responder.endpoint.address, e.requestId1?.getD 0, code.toByte, []⟩) := by
  intro σ _ waits hline tail line hwaits
  obtain ⟨middle, htry, hmiddle⟩ :=
    Endpoint.exists_runs_tryReceive hline.read hwaits hresolve
  obtain ⟨written, after, hwrite, hflush, hafter⟩ := hline.send _ tail middle hmiddle
  have hrefuse := responder.runs_refuse hwrite hflush hcode rfl
  have hunsent : noted.filterMap Event.sentFrame? = [] :=
    Event.filterMap_noted (fun _ => rfl) hnoted
  have hunread : noted.filterMap Event.readSize? = [] :=
    Event.filterMap_noted (fun _ => rfl) hnoted
  refine ⟨_, after, Runs.bind htry.attempt hrefuse, hafter, ?_, ?_⟩
  · simp only [List.filterMap_append, Event.filterMap_reads, hunsent, List.nil_append]
    rfl
  · simp only [List.filterMap_append, Event.readSizes_reads, hunread, List.append_nil]
    exact List.append_nil _

theorem takes_of_understood (hasked : responder.AskedFor request command)
    {params : Record} (hparams : Payload.decode command.params request.info = .ok params)
    {bytes : Bytes} (hreply : responder.reply command = .ok bytes) :
    responder.Takes request bytes := by
  intro σ _ waits hline tail line hwaits
  have hresolve (line : σ) : Runs (responder.endpoint.resolve request.toBytes) line []
      (.ok (command, params)) line :=
    Endpoint.runs_resolve (Packet.isSound_iff.mp hasked.1)
      (Registry.byIds?_eq_some_iff.mpr hasked.2) hparams
  obtain ⟨middle, htry, hmiddle⟩ :=
    Endpoint.exists_runs_tryReceive hline.read hwaits hresolve
  obtain ⟨written, after, hwrite, hflush, hafter⟩ := hline.send bytes tail middle hmiddle
  obtain ⟨later, hanswer, hsent, hunread⟩ := exists_runs_answer hwrite hflush hreply
  refine ⟨_, after, Runs.bind htry.attempt hanswer, hafter, ?_, ?_⟩
  · simp [hsent]
  · simp [Event.readSizes_reads, hunread]

theorem takes_of_unopened {e : FrameError} {code : ReturnCode}
    (hframe : Frame.decode request.toBytes = .error e)
    (hcode : (LinkError.frame e).returnCode? = some code) :
    responder.Takes request
      (Frame.toBytes ⟨responder.endpoint.address, 0, code.toByte, []⟩) := by
  refine takes_of_refused (fun _ => Endpoint.runs_resolve_refused hframe) ?_ hcode
  split
  · simp
  · simp

theorem exists_answer_of_understood (hcanned : responder.CannedFit)
    (hasked : responder.AskedFor request command) {params : Record}
    (hparams : Payload.decode command.params request.info = .ok params) :
    ∃ code info, responder.Answers request request.id1 code info ∧
      info.length ≤ LengthField.maxInfo ∧
      responder.Takes request
        (Frame.toBytes ⟨responder.endpoint.address, request.id1, code, info⟩) := by
  have hid1 : command.id1 = request.id1 := congrArg Prod.fst hasked.2.2
  have htakes {bytes : Bytes} : responder.reply command = .ok bytes →
      responder.Takes request bytes := takes_of_understood hasked hparams
  cases hjson : responder.canned.get? command.key with
  | none =>
      have hvalues : responder.values command = .ok .empty := by
        simp only [values, hjson]
      refine ⟨_, _, .nothingCanned hasked hparams hjson, Nat.zero_le _, htakes ?_⟩
      rw [reply_of_values hvalues, ← hid1]
      exact Endpoint.replyFrame_of_empty (Payload.encode_omit_empty _)
  | some json =>
      cases hreply : command.valuesOfJson json with
      | error e =>
          have hvalues : responder.values command = .error e := by
            simp only [values, hjson, hreply]
          refine ⟨_, _, .misfit hasked hparams hjson hreply, Nat.zero_le _, htakes ?_⟩
          rw [reply_of_misfit hvalues, hid1]
      | ok reply =>
          have hvalues : responder.values command = .ok reply := by
            simp only [values, hjson, hreply]
          obtain ⟨info, hencode, hfits⟩ := hcanned command hasked.2.1 json reply hjson hreply
          refine ⟨_, _, .values hasked hparams hjson hreply hencode, hfits, htakes ?_⟩
          rw [reply_of_values hvalues, ← hid1]
          exact Endpoint.replyFrame_eq_ok_iff.mpr ⟨info, hencode, hfits, rfl⟩

theorem exists_answer (hcanned : responder.CannedFit) (request : Packet) :
    ∃ id1 code info, responder.Answers request id1 code info ∧
      info.length ≤ LengthField.maxInfo ∧
      responder.Takes request
        (Frame.toBytes ⟨responder.endpoint.address, id1, code, info⟩) := by
  by_cases hver : request.ver = 0x21
  · by_cases hcheck : request.checkWord = Frame.checksum request.payload
    · have hsound : request.IsSound := ⟨hver, hcheck⟩
      have hframe := Packet.isSound_iff.mp hsound
      cases hids : responder.endpoint.registry.byIds? request.id1 request.id2 with
      | none =>
          refine ⟨_, _, _, .unknown hsound (Registry.byIds?_eq_none_iff.mp hids),
            Nat.zero_le _, ?_⟩
          exact takes_of_refused
            (fun _ => Endpoint.runs_resolve_unknown hframe hids) (by simp) rfl
      | some command =>
          have hasked : responder.AskedFor request command :=
            ⟨hsound, Registry.byIds?_eq_some_iff.mp hids⟩
          cases hparams : Payload.decode command.params request.info with
          | error e =>
              refine ⟨_, _, _, .badParams hasked hparams, Nat.zero_le _, ?_⟩
              exact takes_of_refused
                (fun _ => Endpoint.runs_resolve_misfit hframe hids hparams) (by simp) rfl
          | ok params =>
              exact ⟨request.id1,
                exists_answer_of_understood hcanned hasked hparams⟩
    · have hframe : Frame.decode request.toBytes =
          .error (.checksum request.checkWord (Frame.checksum request.payload)) := by
        rw [request.decode_toBytes]
        simp [hver, hcheck, Frame.version]
      refine ⟨_, _, _, .badChecksum hver hcheck, Nat.zero_le _, ?_⟩
      exact takes_of_unopened hframe rfl
  · have hframe : Frame.decode request.toBytes = .error (.badVersion request.ver) := by
      rw [request.decode_toBytes]
      simp [hver, Frame.version]
    refine ⟨_, _, _, .badVersion hver, Nat.zero_le _, ?_⟩
    exact takes_of_unopened hframe rfl

/-! ## Turns one after the other -/

section

variable {σ : Type} [Transport (StateM σ)] {line middle after : σ}

/-- A turn on a line that brings nothing. -/
theorem runs_turn_idle (hread : (Transport.read 1 : StateM σ _) line =
      (.error (.shortRead 1 0), after)) :
    Runs responder.turn line [.called (.read 1) (some (.shortRead 1 0))] (.ok ()) after := by
  have htry : Runs responder.endpoint.tryReceive line
      [.called (.read 1) (some (.shortRead 1 0))] (.ok none) after :=
    Runs.bind (Runs.tryRead_error hread) Runs.pure
  exact Runs.bind htry.attempt Runs.pure

theorem runs_serve_succ {events later : List Event}
    {result : Except LinkError Unit} {turns : Nat}
    (hturn : Runs responder.turn line events (.ok ()) middle)
    (hserve : Runs (responder.serve (pure true) turns) middle later result after) :
    Runs (responder.serve (pure true) (turns + 1)) line (events ++ later) result
      after := by
  have hrunning : Runs (liftM (pure true : StateM (Transcript σ) Bool)) line []
      (.ok true) line :=
    Runs.lift fun before => by rw [List.append_nil]; rfl
  rw [← List.nil_append (events ++ later)]
  exact Runs.bind hrunning (Runs.bind hturn hserve)

/-- On a line that brings nothing any more, every turn is taken, and is one read in
vain. -/
theorem runs_serve_idle {isIdle : σ → Prop}
    (hidle : ∀ line, isIdle line → ∃ after, (Transport.read 1 : StateM σ _) line =
      (.error (.shortRead 1 0), after) ∧ isIdle after)
    (turns : Nat) (hline : isIdle line) :
    ∃ events after, Runs (responder.serve (pure true) turns) line events (.ok ()) after ∧
      isIdle after ∧ events.filterMap Event.sentFrame? = [] ∧
      events.filterMap Event.readSize? = List.replicate turns 1 := by
  induction turns generalizing line with
  | zero => exact ⟨[], line, Runs.pure, hline, rfl, rfl⟩
  | succ turns ih =>
      obtain ⟨middle, hread, hmiddle⟩ := hidle line hline
      obtain ⟨events, after, hserve, hafter, hsilent, hreads⟩ := ih hmiddle
      refine ⟨_, after, runs_serve_succ (runs_turn_idle hread) hserve, hafter, ?_, ?_⟩
      · rw [List.filterMap_append, hsilent]
        rfl
      · rw [List.filterMap_append, hreads]
        rfl

end

end Responder

end PowerLink
