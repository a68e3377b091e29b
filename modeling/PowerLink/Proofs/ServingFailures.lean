import PowerLink.Proofs.Contracts
import PowerLink.Proofs.Serving

/-!
# When a responder gives up

On a line that always takes what is written, and on which nothing goes wrong but reads
that come short, a responder deals with every request that is not understood, and with
every one whose canned values are refused as JSON. Canned values that are taken as JSON
are not checked any further before they are sent. Those that no frame can carry end the
run, so a run fails exactly if it gets as far as a request for such values.
-/

namespace PowerLink

open LinkT

variable {σ : Type} [Transport (StateM σ)] {works : σ → Prop}

/-- As long as the line works it takes what is written, and goes on working. Its reads
fail only by coming short. -/
structure Steady (works : σ → Prop) : Prop where
  write : ∀ bytes line, works line → ∃ after,
    (Transport.write bytes : StateM σ _) line = (.ok (), after) ∧ works after
  flush : ∀ line, works line → ∃ after,
    (Transport.flush : StateM σ _) line = (.ok (), after) ∧ works after
  read : ∀ size line, works line → works ((Transport.read size : StateM σ _) line).2
  short : ∀ size line e, works line →
    ((Transport.read size : StateM σ _) line).1 = .error e →
      ∃ expected received, e = .shortRead expected received

theorem Wire.steady : Steady fun wire : Wire => wire.isOpen = true where
  write bytes wire hopen := ⟨wire, wire.write_of_open hopen bytes, hopen⟩
  flush wire hopen := ⟨wire, rfl, hopen⟩
  read size wire hopen := by
    change (Wire.read size wire).2.isOpen = true
    unfold Wire.read
    split
    · exact hopen
    · split
      · exact hopen
      · exact hopen
  short size wire e hopen hread := by
    change (Wire.read size wire).1 = .error e at hread
    simp only [Wire.read, hopen, not_true_eq_false, if_false] at hread
    split at hread
    · cases hread
    · cases hread
      exact ⟨_, _, rfl⟩

/-- On a steady line nothing but the line's own short reads goes wrong with the line. -/
def Steady.contract (works : σ → Prop) : Contract σ where
  line := works
  event event := event.sentFrame? = none
  failure e := ∀ cause, e = .transport cause → cause.isFatal = false

theorem Steady.receives (hsteady : Steady works) : (Steady.contract works).Receives where
  line := hsteady.read
  transport size line e hline hread := by
    rintro cause ⟨⟩
    obtain ⟨expected, received, rfl⟩ := hsteady.short size line e hline hread
    rfl
  called _ _ := rfl
  noted _ := rfl
  frame := by simp [contract]

theorem Steady.keeps_tryReceive (hsteady : Steady works) (endpoint : Endpoint) :
    (Steady.contract works).Keeps endpoint.tryReceive fun request? =>
      ∀ request ∈ request?, request.1 ∈ endpoint.registry.commands :=
  hsteady.receives.keeps_tryReceive (by simp [contract]) (by simp [contract]) endpoint

namespace Responder

variable {responder : Responder} {command : Command} {line : σ}

/-- Values are canned for the command that are taken as JSON and cannot be sent. -/
inductive Unsendable (responder : Responder) (command : Command) : LinkError → Prop
  | misfit {json : Json} {record : Record} {cause : CodecError}
      (hcanned : responder.canned.get? command.key = some json)
      (hvalues : command.valuesOfJson json = .ok record)
      (hencode : Payload.encode .omit record command.values = .error cause) :
      Unsendable responder command (.badReply cause)
  | oversized {json : Json} {record : Record} {info : Bytes}
      (hcanned : responder.canned.get? command.key = some json)
      (hvalues : command.valuesOfJson json = .ok record)
      (hencode : Payload.encode .omit record command.values = .ok info)
      (hlong : 4095 < info.length) :
      Unsendable responder command (.frame (.oversized info.length))

theorem CannedFit.not_unsendable (hcanned : responder.CannedFit)
    (hmem : command ∈ responder.endpoint.registry.commands) (e : LinkError) :
    ¬ responder.Unsendable command e := by
  intro hunsendable
  cases hunsendable with
  | misfit hjson hvalues hfailed =>
      obtain ⟨info, hencode, _⟩ := hcanned command hmem _ _ hjson hvalues
      rw [hfailed] at hencode
      cases hencode
  | oversized hjson hvalues hsent hlong =>
      obtain ⟨info, hencode, hfits⟩ := hcanned command hmem _ _ hjson hvalues
      rw [hsent] at hencode
      obtain rfl := Except.ok.inj hencode
      exact absurd hlong (Nat.not_lt.mpr hfits)

theorem values_eq_ok_iff {record : Record} :
    responder.values command = .ok record ↔
      (∃ json, responder.canned.get? command.key = some json ∧
        command.valuesOfJson json = .ok record) ∨
      responder.canned.get? command.key = none ∧ record = .empty := by
  unfold values
  cases responder.canned.get? command.key with
  | none => simp [eq_comm]
  | some json => simp

theorem reply_eq_error_iff {e : LinkError} :
    responder.reply command = .error e ↔ responder.Unsendable command e := by
  constructor
  · intro hfailed
    cases hvalues : responder.values command with
    | error cause =>
        rw [reply_of_misfit hvalues] at hfailed
        cases hfailed
    | ok record =>
        rw [reply_of_values hvalues] at hfailed
        rcases values_eq_ok_iff.mp hvalues with ⟨json, hjson, hrecord⟩ | ⟨_, rfl⟩
        · rcases Endpoint.replyFrame_eq_error_iff.mp hfailed with
            ⟨cause, hencode, rfl⟩ | ⟨info, hencode, hlong, rfl⟩
          · exact .misfit hjson hrecord hencode
          · exact .oversized hjson hrecord hencode hlong
        · rw [Endpoint.replyFrame_of_empty (Payload.encode_omit_empty _)] at hfailed
          cases hfailed
  · intro hunsendable
    cases hunsendable with
    | misfit hjson hrecord hencode =>
        rw [reply_of_values (values_eq_ok_iff.mpr (.inl ⟨_, hjson, hrecord⟩))]
        exact Endpoint.replyFrame_eq_error_iff.mpr (.inl ⟨_, hencode, rfl⟩)
    | oversized hjson hrecord hencode hlong =>
        rw [reply_of_values (values_eq_ok_iff.mpr (.inl ⟨_, hjson, hrecord⟩))]
        exact Endpoint.replyFrame_eq_error_iff.mpr (.inr ⟨_, hencode, hlong, rfl⟩)

/-! ## One turn -/

theorem runs_answer_unsendable {e : LinkError} (hreply : responder.reply command = .error e)
    (line : σ) : Runs (responder.answer command) line [] (.error e) line := by
  cases hvalues : responder.values command with
  | error cause =>
      rw [reply_of_misfit hvalues] at hreply
      cases hreply
  | ok record =>
      rw [reply_of_values hvalues] at hreply
      -- The failure comes before the write, so the line is left as it was.
      unfold answer
      simp only [hvalues, Endpoint.respond_eq, hreply]
      exact Runs.throw

/-- On a steady line an answer fails exactly if there is no frame for it. -/
theorem exists_runs_answer_steady (responder : Responder) (command : Command)
    (hsteady : Steady works) (hline : works line) :
    ∃ events after, Runs (responder.answer command) line events
      ((responder.reply command).map fun _ => ()) after ∧ works after := by
  cases hreply : responder.reply command with
  | error e => exact ⟨[], line, runs_answer_unsendable hreply line, hline⟩
  | ok bytes =>
      obtain ⟨sent, hwrite, hsent⟩ := hsteady.write bytes line hline
      obtain ⟨after, hflush, hafter⟩ := hsteady.flush sent hsent
      obtain ⟨events, hanswer, _⟩ := exists_runs_answer hwrite hflush hreply
      exact ⟨events, after, hanswer, hafter⟩

theorem exists_runs_refuse (hsteady : Steady works) (hline : works line) {e : LinkError}
    (hshort : ∀ cause, e = .transport cause → cause.isFatal = false) :
    ∃ events after, Runs (responder.refuse e) line events (.ok ()) after ∧ works after := by
  cases hcode : e.returnCode? with
  | some code =>
      obtain ⟨sent, hwrite, hsent⟩ := hsteady.write _ line hline
      obtain ⟨after, hflush, hafter⟩ := hsteady.flush sent hsent
      exact ⟨_, after, responder.runs_refuse hwrite hflush hcode rfl, hafter⟩
  | none =>
      by_cases htransport : ∃ cause, e = .transport cause
      · obtain ⟨cause, rfl⟩ := htransport
        have hmild : cause.isFatal = false := hshort cause rfl
        refine ⟨[.noted (.partialFrame cause)], line, ?_, hline⟩
        simp only [refuse, hmild]
        exact Runs.note _
      · refine ⟨[.noted (.requestDropped e)], line, ?_, hline⟩
        have hrefuse : (responder.refuse e : LinkT (StateM (Transcript σ)) Unit) =
            note (.requestDropped e) := by
          cases e with
          | transport cause => exact absurd ⟨cause, rfl⟩ htransport
          | _ => simp only [refuse, hcode]
        rw [hrefuse]
        exact Runs.note _

/-- What a turn comes to, by what has been received in it. -/
def turnResult (responder : Responder) :
    Except LinkError (Option (Command × Record)) → Except LinkError Unit
  | .ok (some (command, _)) => (responder.reply command).map fun _ => ()
  | _ => .ok ()

theorem exists_runs_turn (hsteady : Steady works) (responder : Responder)
    (hline : works line) :
    ∃ events received middle, Runs responder.endpoint.tryReceive line events received middle ∧
      works middle ∧ events.filterMap Event.sentFrame? = [] ∧
      ∃ later after, Runs responder.turn line (events ++ later)
        (responder.turnResult received) after ∧ works after := by
  obtain ⟨events, received, middle, htry, hmiddle, hsilent, hreceived⟩ :=
    hsteady.keeps_tryReceive responder.endpoint line hline
  refine ⟨events, received, middle, htry, hmiddle, ?_, ?_⟩
  · exact List.filterMap_eq_nil_iff.mpr hsilent
  cases received with
  | error e =>
      obtain ⟨later, after, hrefuse, hafter⟩ :=
        responder.exists_runs_refuse hsteady hmiddle hreceived
      exact ⟨later, after, Runs.bind htry.attempt hrefuse, hafter⟩
  | ok request? =>
      cases request? with
      | none => exact ⟨[], middle, Runs.bind htry.attempt Runs.pure, hmiddle⟩
      | some request =>
          obtain ⟨later, after, hanswer, hafter⟩ :=
            responder.exists_runs_answer_steady request.1 hsteady hmiddle
          exact ⟨later, after, Runs.bind htry.attempt hanswer, hafter⟩

section

variable {transcript after : Transcript σ} {params : Record}

theorem turn_eq_error_iff (hsteady : Steady works) (hline : works transcript.line)
    {e : LinkError} :
    (responder.turn.on transcript).1 = .error e ↔
      ∃ command params after,
        responder.endpoint.tryReceive.on transcript =
          (.ok (some (command, params)), after) ∧
        responder.Unsendable command e := by
  obtain ⟨events, received, middle, htry, _, _, later, last, hturn, _⟩ :=
    exists_runs_turn hsteady responder hline
  have hreceived := htry transcript.events
  rw [hturn transcript.events]
  constructor
  · intro hfailed
    cases received with
    | error cause => cases hfailed
    | ok request? =>
        cases request? with
        | none => cases hfailed
        | some request =>
            refine ⟨request.1, request.2, _, hreceived, reply_eq_error_iff.mp ?_⟩
            exact Results.map_eq_error_iff.mp hfailed
  · rintro ⟨command, params, after, hrequest, hunsendable⟩
    obtain ⟨rfl, _⟩ := htry.eq_of_on hrequest
    exact Results.map_eq_error_iff.mpr (reply_eq_error_iff.mpr hunsendable)

theorem mem_of_tryReceive (hsteady : Steady works) (hline : works transcript.line)
    (hrequest : responder.endpoint.tryReceive.on transcript =
      (.ok (some (command, params)), after)) :
    command ∈ responder.endpoint.registry.commands := by
  obtain ⟨events, received, middle, htry, _, _, hreceived⟩ :=
    hsteady.keeps_tryReceive responder.endpoint transcript.line hline
  obtain ⟨rfl, _⟩ := htry.eq_of_on hrequest
  exact hreceived (command, params) rfl

/-- A request whose canned values are refused as JSON is answered with the return code
for invalid data. -/
theorem exists_turn_of_misfit (hsteady : Steady works) (hline : works transcript.line)
    (hrequest : responder.endpoint.tryReceive.on transcript =
      (.ok (some (command, params)), after))
    {json : Json} (hcanned : responder.canned.get? command.key = some json)
    {cause : CodecError} (hvalues : command.valuesOfJson json = .error cause) :
    ∃ last, responder.turn.on transcript = (.ok (), last) ∧
      last.framesSent = transcript.framesSent ++
        [Frame.toBytes ⟨responder.endpoint.address, command.id1, 0x06, []⟩] := by
  obtain ⟨events, received, middle, htry, hmiddle, hsilent, _⟩ :=
    exists_runs_turn hsteady responder hline
  obtain ⟨rfl, _⟩ := htry.eq_of_on hrequest
  obtain ⟨sent, hwrite, hsent⟩ := hsteady.write _ middle hmiddle
  obtain ⟨flushed, hflush, _⟩ := hsteady.flush sent hsent
  have hmisfit : responder.values command = .error cause := by
    simp only [values, hcanned, hvalues]
  obtain ⟨later, hanswer, hframe, _⟩ :=
    exists_runs_answer hwrite hflush (reply_of_misfit hmisfit)
  refine ⟨_, Runs.bind htry.attempt hanswer transcript.events, ?_⟩
  simp only [Transcript.framesSent, List.filterMap_append, hsilent, hframe, List.nil_append]

end

/-! ## Whole runs -/

theorem on_serve_succ (responder : Responder) (turns : Nat) (transcript : Transcript σ) :
    (responder.serve (pure true) (turns + 1)).on transcript =
      match responder.turn.on transcript with
      | (.ok (), after) => (responder.serve (pure true) turns).on after
      | (.error e, after) => (.error e, after) := by
  have hserve : (responder.serve (pure true) (turns + 1)).on transcript =
      (responder.turn >>= fun _ => responder.serve (pure true) turns).on transcript := rfl
  rw [hserve, on_bind]
  rcases responder.turn.on transcript with ⟨result, after⟩
  cases result with
  | ok value => rfl
  | error e => rfl

/-- A run fails as one of its turns does. -/
theorem serve_eq_error_iff {turns : Nat} {transcript : Transcript σ} {e : LinkError} :
    ((responder.serve (pure true) turns).on transcript).1 = .error e ↔
      ∃ earlier < turns, ∃ middle,
        (responder.serve (pure true) earlier).on transcript = (.ok (), middle) ∧
        (responder.turn.on middle).1 = .error e := by
  -- The failing turn is the first one, or one of the shorter run behind it.
  induction turns generalizing transcript with
  | zero =>
      constructor
      · intro hfailed
        cases hfailed
      · rintro ⟨earlier, hearlier, _⟩
        exact absurd hearlier (Nat.not_lt_zero earlier)
  | succ turns ih =>
      constructor
      · intro hfailed
        rw [on_serve_succ] at hfailed
        rcases hturn : responder.turn.on transcript with ⟨result, after⟩
        rw [hturn] at hfailed
        cases result with
        | error e' =>
            refine ⟨0, Nat.succ_pos turns, transcript, rfl, ?_⟩
            rw [hturn]
            exact hfailed
        | ok value =>
            obtain ⟨earlier, hearlier, middle, hserve, hlast⟩ := ih.mp hfailed
            refine ⟨earlier + 1, Nat.succ_lt_succ hearlier, middle, ?_, hlast⟩
            rw [on_serve_succ, hturn]
            exact hserve
      · rintro ⟨earlier, hearlier, middle, hserve, hlast⟩
        rw [on_serve_succ]
        cases earlier with
        | zero =>
            obtain rfl : transcript = middle := congrArg Prod.snd hserve
            rcases hturn : responder.turn.on transcript with ⟨result, after⟩
            rw [hturn] at hlast
            obtain rfl : result = .error e := hlast
            rfl
        | succ earlier =>
            rw [on_serve_succ] at hserve
            rcases hturn : responder.turn.on transcript with ⟨result, after⟩
            rw [hturn] at hserve
            cases result with
            | error e' => cases congrArg Prod.fst hserve
            | ok value =>
                exact ih.mpr ⟨earlier, Nat.lt_of_succ_lt_succ hearlier, middle, hserve, hlast⟩

theorem works_of_serve (hsteady : Steady works) {turns : Nat}
    {transcript middle : Transcript σ} (hline : works transcript.line)
    (hserve : (responder.serve (pure true) turns).on transcript = (.ok (), middle)) :
    works middle.line := by
  induction turns generalizing transcript with
  | zero =>
      obtain rfl : transcript = middle := congrArg Prod.snd hserve
      exact hline
  | succ turns ih =>
      obtain ⟨_, received, _, _, _, _, _, after, hturn, hafter⟩ :=
        exists_runs_turn hsteady responder hline
      rw [on_serve_succ, hturn transcript.events] at hserve
      cases hresult : responder.turnResult received with
      | error e =>
          rw [hresult] at hserve
          cases congrArg Prod.fst hserve
      | ok value =>
          rw [hresult] at hserve
          exact ih hafter hserve

/-- If all canned values that are taken as JSON can be sent, no run on a steady line
fails. -/
theorem serve_ok_of_cannedFit (hsteady : Steady works) (hcanned : responder.CannedFit)
    (hline : works line) (turns : Nat) :
    ((responder.serve (pure true) turns).on (Transcript.start line)).1 = .ok () := by
  cases hresult : ((responder.serve (pure true) turns).on (Transcript.start line)).1 with
  | ok value => rfl
  | error e =>
      obtain ⟨earlier, _, middle, hserve, hturn⟩ := serve_eq_error_iff.mp hresult
      have hmiddle : works middle.line := works_of_serve hsteady hline hserve
      obtain ⟨command, params, after, hrequest, hunsendable⟩ :=
        (turn_eq_error_iff hsteady hmiddle).mp hturn
      have hmem := mem_of_tryReceive hsteady hmiddle hrequest
      exact absurd hunsendable (hcanned.not_unsendable hmem e)

/-- On a steady line a run fails exactly if it comes to a request for a command whose
canned values are taken as JSON but cannot be sent, and it fails for that reason. A request
for a command whose canned values are refused as JSON is answered with the return code for
invalid data, and does not end the run. -/
theorem serve_fails_on_unsendable (hsteady : Steady works) (responder : Responder)
    (hline : works line) :
    (∀ turns e,
      ((responder.serve (pure true) turns).on (Transcript.start line)).1 = .error e ↔
        ∃ earlier < turns, ∃ middle,
          (responder.serve (pure true) earlier).on (Transcript.start line) =
            (.ok (), middle) ∧
          ∃ command params after,
            responder.endpoint.tryReceive.on middle =
              (.ok (some (command, params)), after) ∧
            responder.Unsendable command e) ∧
    ∀ earlier middle,
      (responder.serve (pure true) earlier).on (Transcript.start line) = (.ok (), middle) →
      ∀ command params after,
        responder.endpoint.tryReceive.on middle = (.ok (some (command, params)), after) →
        ∀ json cause, responder.canned.get? command.key = some json →
          command.valuesOfJson json = .error cause →
          ∃ last, responder.turn.on middle = (.ok (), last) ∧
            last.framesSent = middle.framesSent ++
              [Frame.toBytes ⟨responder.endpoint.address, command.id1, 0x06, []⟩] := by
  have hworks {turns : Nat} {middle : Transcript σ}
      (hserve : (responder.serve (pure true) turns).on (Transcript.start line) =
        (.ok (), middle)) : works middle.line :=
    works_of_serve hsteady hline hserve
  constructor
  · intro turns e
    rw [serve_eq_error_iff]
    constructor
    · rintro ⟨earlier, hearlier, middle, hserve, hturn⟩
      exact ⟨earlier, hearlier, middle, hserve,
        (turn_eq_error_iff hsteady (hworks hserve)).mp hturn⟩
    · rintro ⟨earlier, hearlier, middle, hserve, hrequest⟩
      exact ⟨earlier, hearlier, middle, hserve,
        (turn_eq_error_iff hsteady (hworks hserve)).mpr hrequest⟩
  · intro earlier middle hserve command params after hrequest json cause hcanned hvalues
    exact exists_turn_of_misfit hsteady (hworks hserve) hrequest hcanned hvalues

/-- A responder of the meter with a total that is no 16-bit number. -/
def overfull : Responder where
  endpoint := ⟨Registry.meter, 2⟩
  canned := KeyMap.ofList [("sum", .object [("total", .nat 70000)])]

/-- A request for the total, and the same one again. -/
def overfullLine : Wire :=
  let request := Frame.toBytes ⟨1, 0x40, 0x81, [0]⟩
  ⟨request ++ request, true, false⟩

theorem serve_fails_on_unsendable_overfull :
    let e := LinkError.badReply (.outOfRange .uint16 (.value (.uint 70000)))
    overfullLine.isOpen = true ∧
      ∃ earlier < 2, ∃ middle,
        (overfull.serve (pure true) earlier).on (Transcript.start overfullLine) =
          (.ok (), middle) ∧
        ∃ command params after,
          overfull.endpoint.tryReceive.on middle =
            (.ok (some (command, params)), after) ∧
          overfull.Unsendable command e :=
  ⟨rfl, ((serve_fails_on_unsendable Wire.steady overfull rfl).1 2 _).mp rfl⟩

/-- The run ends with the first of the two requests. Nothing is sent, and the second one
stays on the line. -/
theorem overfull_gives_up :
    let run := (overfull.serve (pure true) 2).on (Transcript.start overfullLine)
    run.1 = .error (.badReply (.outOfRange .uint16 (.value (.uint 70000)))) ∧
      run.2.framesSent = [] ∧
      run.2.line.inbound ++ run.2.line.inbound = overfullLine.inbound := by
  refine ⟨rfl, rfl, ?_⟩
  decide +kernel

end Responder

end PowerLink
