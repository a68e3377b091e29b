import PowerLink.Proofs.Couplings
import PowerLink.Proofs.RequestAgreement

/-!
# A client and a responder agree over any number of calls

A client and a responder that know the same commands are on one line, and the client
makes one call after the other. No call is ever answered with what belongs to another,
because each finds the line idle and leaves it idle again. This is what is proved of
one call; that it holds of all of them is an induction on the list of calls.
-/

namespace PowerLink

open LinkT

/-! ## Calls -/

/-- One call of a client, with the line before it, and what has come of it. -/
structure Round where
  key : String
  data : Record
  before : Coupling
  result : Except LinkError Outcome
  after : Transcript Coupling

def Endpoint.round (client : Endpoint) (key : String) (data : Record)
    (line : Coupling) : Round :=
  let (result, after) := (client.send key data).on (Transcript.start line)
  ⟨key, data, line, result, after⟩

/-- The calls of a client, one after the other. -/
def Endpoint.converse (client : Endpoint) :
    List (String × Record) → Coupling → List Round
  | [], _ => []
  | (key, data) :: calls, line =>
    let round := client.round key data line
    round :: client.converse calls round.after.line

namespace Round

/-- The line was not made use of at all. -/
def IsUnsent (round : Round) : Prop :=
  round.after.line = round.before ∧
    ∀ event ∈ round.after.events, ∃ notice, event = .noted notice

/-- What is to come of a call. -/
inductive Agrees (registry : Registry) (canned : KeyMap Json) (round : Round) : Prop
  | unknown (hkey : ∀ command ∈ registry.commands, command.key ≠ round.key)
      (hresult : round.result = .ok .unknownCommand) (hunsent : round.IsUnsent)
  | unbuilt {command : Command} (hmem : command ∈ registry.commands)
      (hkey : command.key = round.key)
      (hencode : ∀ info,
        Payload.encode .reject round.data command.params = .ok info →
          4095 < info.length)
      (hresult : round.result = .ok .frameNotBuilt) (hunsent : round.IsUnsent)
  | replied {command : Command} (hmem : command ∈ registry.commands)
      (hkey : command.key = round.key) {sent info : Bytes} {json : Json}
      {values reply : Record}
      (hencode : Payload.encode .reject round.data command.params = .ok sent)
      (hfits : sent.length ≤ 4095)
      (hjson : canned.get? command.key = some json)
      (hvalues : command.valuesOfJson json = .ok values)
      (hinfo : Payload.encode .omit values command.values = .ok info)
      (hreply : Payload.decode command.values info = .ok reply)
      (hresult : round.result = .ok (.reply reply))

end Round

/-! ## One call -/

/-- A request that could be built is answered with what is canned for its command, and
leaves the line idle. -/
theorem Endpoint.runs_send_replied {registry : Registry} {client device : UInt8}
    {canned : KeyMap Json} (hcanned : registry.IsCanned canned) {line : Coupling}
    (hline : line.IsIdle) (hresponder : line.responder = ⟨⟨registry, device⟩, canned⟩)
    {idle : Nat} (hturns : line.turns = idle + 1) {command : Command}
    (hmem : command ∈ registry.commands) (hwell : command.WellFormed)
    (hsome : command.values ≠ []) {data : Record} {frame : Bytes}
    (hframe : requestFrame ⟨registry, client⟩ command data = .ok frame) :
    ∃ json values info reply events drained,
      canned.get? command.key = some json ∧ command.valuesOfJson json = .ok values ∧
      Payload.encode .omit values command.values = .ok info ∧
      Payload.decode command.values info = .ok reply ∧
      Runs (send ⟨registry, client⟩ command.key data) line events (.ok (.reply reply))
        { line with device := ⟨[], true, drained⟩ } := by
  have hkey : registry.byKey? command.key = some command :=
    Registry.byKey?_eq_some_iff.mpr ⟨hmem, rfl⟩
  obtain ⟨json, values, info, hjson, hvalues, hfull, hinfo, _⟩ :=
    hcanned command hmem hsome
  obtain ⟨reply, hreply, _⟩ := Payload.decode_of_encode hwell.values
    ((Payload.encode_omit_eq_reject hfull).symm.trans hinfo)
  obtain ⟨packet, params, rfl, hsound, hids, hparams, _⟩ :=
    exists_packet_of_request hwell.params hframe
  have hfit : line.responder.CannedFit := by
    rw [hresponder]
    exact hcanned.cannedFit device
  obtain ⟨id1, code, sent, hanswers, hfits, htakes⟩ :=
    line.responder.exists_answer hfit packet
  rw [hresponder] at hanswers
  obtain ⟨rfl, rfl⟩ :=
    hanswers.eq_values ⟨hsound, hmem, hids⟩ hparams hjson hvalues hinfo
  obtain ⟨events, drained, hsend⟩ := exists_runs_send_handled hline hturns hkey hsome hframe
    htakes.handles (Frame.decode_toBytes hfits)
  rw [Command.verdict_of_ok rfl hreply] at hsend
  exact ⟨json, values, sent, reply, events, drained, hjson, hvalues, hinfo, hreply, hsend⟩

theorem Endpoint.round_of_runs {client : Endpoint} {key : String} {data : Record}
    {line after : Coupling} {events : List Event} {result : Except LinkError Outcome}
    (hsend : Runs (client.send key data) line events result after) :
    client.round key data line = ⟨key, data, line, result, ⟨after, events⟩⟩ := by
  unfold round
  rw [Transcript.start, hsend []]
  rfl

/-- An idle line with the given responder, which takes turns. -/
structure Coupling.IsReady (line : Coupling) (responder : Responder) : Prop
    extends line.IsIdle where
  responder_eq : line.responder = responder
  turns_pos : 0 < line.turns

section

variable {registry : Registry} {device : UInt8} {canned : KeyMap Json}

theorem Endpoint.round_agrees (client : UInt8) (hcanned : registry.IsCanned canned)
    (hwell : ∀ command ∈ registry.commands, command.WellFormed) {line : Coupling}
    (hready : line.IsReady ⟨⟨registry, device⟩, canned⟩) {key : String}
    (hcall : ∀ command ∈ registry.commands, command.key = key → command.values ≠ [])
    (data : Record) :
    (round ⟨registry, client⟩ key data line).Agrees registry canned ∧
      (round ⟨registry, client⟩ key data line).after.line.IsReady
        ⟨⟨registry, device⟩, canned⟩ := by
  cases hkey : registry.byKey? key with
  | none =>
      have hsend : Runs (send ⟨registry, client⟩ key data) line
          [.noted (.unknownCommand key)] (.ok .unknownCommand) line :=
        runs_send_unknown hkey line
      rw [round_of_runs hsend]
      refine ⟨.unknown (Registry.byKey?_eq_none_iff.mp hkey) rfl ⟨rfl, ?_⟩, hready⟩
      simp
  | some command =>
      rcases Registry.byKey?_eq_some_iff.mp hkey with ⟨hmem, rfl⟩
      cases hframe : requestFrame ⟨registry, client⟩ command data with
      | error e =>
          rw [round_of_runs (runs_send_unbuilt hkey hframe line)]
          refine ⟨.unbuilt hmem rfl ?_ rfl ⟨rfl, by simp⟩, hready⟩
          exact fun info hencode => oversized_of_requestFrame hframe hencode
      | ok frame =>
          rcases requestFrame_eq_ok_iff.mp hframe with ⟨sent, hencode, hfits, _⟩
          rcases Nat.exists_eq_succ_of_ne_zero hready.turns_pos.ne' with ⟨idle, hturns⟩
          obtain ⟨json, values, info, reply, events, drained, hjson, hvalues, hinfo,
            hreply, hsend⟩ := runs_send_replied hcanned hready.toIsIdle
              hready.responder_eq hturns hmem (hwell command hmem)
              (hcall command hmem rfl) hframe
          rw [round_of_runs hsend]
          refine ⟨.replied hmem rfl hencode hfits hjson hvalues hinfo hreply rfl, ?_⟩
          exact ⟨⟨⟨hready.client_open, rfl, rfl, hready.running⟩, hready.client_empty⟩,
            hready.responder_eq, hready.turns_pos⟩

/-! ## All calls -/

theorem Endpoint.converse_agrees (client : UInt8) (hcanned : registry.IsCanned canned)
    (hwell : ∀ command ∈ registry.commands, command.WellFormed) {line : Coupling}
    (hready : line.IsReady ⟨⟨registry, device⟩, canned⟩)
    {calls : List (String × Record)}
    (hcalls : ∀ call ∈ calls, ∀ command ∈ registry.commands,
      command.key = call.1 → command.values ≠ []) :
    (converse ⟨registry, client⟩ calls line).map (fun round => (round.key, round.data)) =
        calls ∧
      ∀ round ∈ converse ⟨registry, client⟩ calls line,
        round.Agrees registry canned ∧
          round.after.line.IsReady ⟨⟨registry, device⟩, canned⟩ := by
  induction calls generalizing line with
  | nil => simp [converse]
  | cons call calls ih =>
      rcases call with ⟨key, data⟩
      obtain ⟨hagrees, hafter⟩ := round_agrees client hcanned hwell hready
        (hcalls (key, data) (by simp)) data
      obtain ⟨hothers, hlater⟩ := ih hafter fun call hmem => hcalls call (by simp [hmem])
      constructor
      · rw [converse, List.map_cons, hothers]
        rfl
      · intro round hmem
        rcases List.mem_cons.mp hmem with rfl | hmem
        · exact ⟨hagrees, hafter⟩
        · exact hlater round hmem

end

/-- Whatever calls a client makes, as long as none of them is for a command without
value fields, each comes to what is said by `Round.Agrees`: it is not sent at all if
its key is unknown or its data cannot be encoded, and otherwise brings back what is
canned for its own command. After every call both directions of the line are empty. -/
theorem conversation_agreement {document : SchemaDocument} {registry : Registry}
    (hdocument : Registry.ofDocument document = .ok registry) {canned : KeyMap Json}
    (hcanned : registry.IsCanned canned) (client device : UInt8) (idle : Nat)
    {calls : List (String × Record)}
    (hcalls : ∀ call ∈ calls, ∀ command ∈ registry.commands,
      command.key = call.1 → command.values ≠ []) :
    let rounds := Endpoint.converse ⟨registry, client⟩ calls
      (Coupling.start ⟨⟨registry, device⟩, canned⟩ (1 + idle))
    rounds.map (fun round => (round.key, round.data)) = calls ∧
      ∀ round ∈ rounds, round.Agrees registry canned ∧
        round.after.line.client.inbound = [] ∧
        round.after.line.device.inbound = [] := by
  have hready : (Coupling.start ⟨⟨registry, device⟩, canned⟩ (1 + idle)).IsReady
      ⟨⟨registry, device⟩, canned⟩ :=
    ⟨Coupling.isIdle_start _ _, rfl, Nat.add_pos_left Nat.one_pos idle⟩
  obtain ⟨hrounds, hagree⟩ := Endpoint.converse_agrees client hcanned
    (fun command hmem => Registry.wellFormed_of_ofDocument hdocument hmem) hready hcalls
  refine ⟨hrounds, fun round hmem => ?_⟩
  rcases hagree round hmem with ⟨hround, hafter⟩
  exact ⟨hround, hafter.client_empty, hafter.device_empty⟩

/-- A call that is answered, one for no command, and one that lacks its params. -/
def meterCalls : List (String × Record) :=
  [("sum", Endpoint.meterRequest), ("product", .empty), ("sum", .empty)]

theorem conversation_agreement_meter :
    let rounds := Endpoint.converse ⟨Registry.meter, 1⟩ meterCalls
      (Coupling.start ⟨⟨Registry.meter, 2⟩, Registry.meterCanned⟩ (1 + 2))
    rounds.map (fun round => (round.key, round.data)) = meterCalls ∧
      ∀ round ∈ rounds, round.Agrees Registry.meter Registry.meterCanned ∧
        round.after.line.client.inbound = [] ∧
        round.after.line.device.inbound = [] := by
  have hdocument : Registry.ofDocument Registry.meterDocument = .ok Registry.meter := by
    rfl
  have hcalls : ∀ call ∈ meterCalls, ∀ command ∈ Registry.meter.commands,
      command.key = call.1 → command.values ≠ [] := by
    intro call _ command hmem _
    obtain rfl : command = Registry.meterCommand := List.mem_singleton.mp hmem
    simp [Registry.meterCommand]
  exact conversation_agreement hdocument Registry.isCanned_meter 1 2 2 hcalls

end PowerLink
