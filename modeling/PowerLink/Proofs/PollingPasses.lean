import PowerLink.Link.Poll
import PowerLink.Proofs.Contracts
import PowerLink.Proofs.Endpoints
import PowerLink.Proofs.Payloads
import PowerLink.Proofs.Registries

/-!
# What a polling pass does

A pass is a list of exchanges, one for each command without params of the two polled
sections, on a line of which nothing is known. Each exchange is a call of its own that
starts where the one before it has left the line, and a lost line ends the pass. The
commands that have params cost no call of the line, because no frame can be built for
them from an empty record.
-/

namespace PowerLink

open LinkT

/-- The line does not work any more. -/
def LinkError.IsLoss : LinkError → Prop
  | .transport .notOpen | .transport (.serial _) | .transport (.io _) => True
  | _ => False

theorem LinkError.endsPass_iff {e : LinkError} : e.endsPass = true ↔ e.IsLoss := by
  cases e with
  | transport cause => cases cause <;> simp [endsPass, TransportError.isFatal, IsLoss]
  | _ => simp [endsPass, IsLoss]

instance : DecidablePred LinkError.IsLoss := fun _ =>
  decidable_of_iff _ LinkError.endsPass_iff

/-! ## Calls of the line -/

/-- The call of the line that the event is, whether it has failed or not. -/
def Event.call? : Event → Option Call
  | .called call _ => some call
  | _ => none

def Transcript.calls {σ : Type} (transcript : Transcript σ) : List Call :=
  transcript.events.filterMap Event.call?

/-- The bytes that the call tries to write. -/
def Call.written? : Call → Option Bytes
  | .write bytes => some bytes
  | _ => none

namespace Endpoint

variable {σ : Type} [Transport (StateM σ)]
  {endpoint : Endpoint} {command : Command} {data : Record}

/-! ## One exchange -/

/-- A frame that has been written is flushed, whether this works or not. -/
theorem exists_runs_sendFrame (frame : Bytes) (line : σ) :
    ∃ events result after, Runs (sendFrame frame) line events result after ∧
      ((∃ e, events = [.called (.write frame) (some e)]) ∨
        ∃ failure, events = [.called (.write frame) none, .called .flush failure]) := by
  rcases hwrite : (Transport.write frame : StateM σ _) line with ⟨written, sent⟩
  cases written with
  | error e =>
      exact ⟨_, _, _, Runs.bind_error (Runs.call_error hwrite), .inl ⟨e, rfl⟩⟩
  | ok value =>
      rcases hflush : (Transport.flush : StateM σ _) sent with ⟨flushed, after⟩
      cases flushed with
      | error e =>
          exact ⟨_, _, _, Runs.bind (Runs.call_ok hwrite) (Runs.call_error hflush),
            .inr ⟨some e, rfl⟩⟩
      | ok value => exact ⟨_, _, _, Runs.sendFrame hwrite hflush, .inr ⟨none, rfl⟩⟩

theorem exists_runs_sendFrame_once (frame : Bytes) (line : σ) :
    ∃ events result after, Runs (sendFrame frame) line events result after ∧
      (events.filterMap Event.call?).filterMap Call.written? = [frame] := by
  obtain ⟨events, result, after, hsend, hevents⟩ := exists_runs_sendFrame frame line
  refine ⟨events, result, after, hsend, ?_⟩
  rcases hevents with ⟨e, rfl⟩ | ⟨failure, rfl⟩
  · rfl
  · rfl

/-- A request that could be built is written once, and nothing else is. -/
theorem exists_runs_send_of_built {key : String} {frame : Bytes}
    (hkey : endpoint.registry.byKey? key = some command)
    (hframe : endpoint.requestFrame command data = .ok frame) (line : σ) :
    ∃ events result after, Runs (endpoint.send key data) line events result after ∧
      (events.filterMap Event.call?).filterMap Call.written? = [frame] := by
  obtain ⟨events, result, middle, hsend, hwritten⟩ := exists_runs_sendFrame_once frame line
  rw [send_eq_of_built hkey hframe]
  cases result with
  | error e => exact ⟨events, .error e, middle, Runs.bind_error hsend, hwritten⟩
  | ok value =>
      obtain ⟨later, result, after, hconclude, hlater⟩ :=
        exists_runs_concludeSend (fun event => event.call?.bind Call.written? = none)
          (fun _ _ => rfl) (fun _ => rfl) command middle
      have hsilent : (later.filterMap Event.call?).filterMap Call.written? = [] := by
        rw [List.filterMap_filterMap]
        exact List.filterMap_eq_nil_iff.mpr hlater
      refine ⟨events ++ later, result, after, Runs.bind hsend hconclude, ?_⟩
      rw [List.filterMap_append, List.filterMap_append, hwritten, hsilent, List.append_nil]

end Endpoint

/-- A call of a client, with the transcript of what it has done, from an empty one. -/
structure Exchange (σ : Type) where
  command : Command
  result : Except LinkError Outcome
  transcript : Transcript σ

namespace Exchange

variable {σ : Type}

/-- What the line was lost for in the exchange. -/
def loss? (exchange : Exchange σ) : Option LinkError :=
  match exchange.result with
  | .error e => if e.IsLoss then some e else none
  | .ok _ => none

def reply? (exchange : Exchange σ) : Option Record :=
  match exchange.result with
  | .ok (.reply record) => some record
  | _ => none

theorem loss?_eq_some_iff {exchange : Exchange σ} {e : LinkError} :
    exchange.loss? = some e ↔ exchange.result = .error e ∧ e.IsLoss := by
  unfold loss?
  cases exchange.result with
  | ok outcome => simp
  | error cause =>
      by_cases hloss : cause.IsLoss
      · simp only [hloss, if_true, Option.some.injEq, Except.error.injEq]
        constructor
        · rintro rfl
          exact ⟨rfl, hloss⟩
        · exact And.left
      · simp only [hloss, if_false, Except.error.injEq]
        constructor
        · intro hnone
          cases hnone
        · rintro ⟨rfl, hcause⟩
          exact absurd hcause hloss

/-- The record that a pass goes on with. -/
def mergeInto (merged : Record) (exchange : Exchange σ) : Except LinkError Record :=
  match exchange.loss? with
  | some e => .error e
  | none => .ok ((exchange.reply?.map merged.merge).getD merged)

/-- The line behind the exchanges. -/
def lineAfter (line : σ) : List (Exchange σ) → σ
  | [] => line
  | exchange :: rest => lineAfter exchange.transcript.line rest

theorem lineAfter_append (line : σ) (first second : List (Exchange σ)) :
    lineAfter line (first ++ second) = lineAfter (lineAfter line first) second := by
  induction first generalizing line with
  | nil => rfl
  | cons exchange rest ih => exact ih exchange.transcript.line

/-- The value that the key has in the last of the replies that contain it. -/
def lastValue? (exchanges : List (Exchange σ)) (key : String) : Option FieldValue :=
  exchanges.reverse.findSome? fun exchange =>
    exchange.reply?.bind fun record => record.get? key

theorem lastValue?_eq_some_iff {exchanges : List (Exchange σ)} {key : String}
    {value : FieldValue} :
    lastValue? exchanges key = some value ↔
      ∃ before exchange later record, exchanges = before ++ exchange :: later ∧
        exchange.reply? = some record ∧ record.get? key = some value ∧
        ∀ other ∈ later, ∀ reply, other.reply? = some reply → reply.get? key = none := by
  unfold lastValue?
  rw [List.findSome?_eq_some_iff]
  constructor
  · rintro ⟨later, exchange, before, hsplit, hvalue, hnone⟩
    obtain ⟨record, hreply, hrecord⟩ := Option.bind_eq_some_iff.mp hvalue
    refine ⟨before.reverse, exchange, later.reverse, record, ?_, hreply, hrecord, ?_⟩
    · rw [← List.reverse_reverse exchanges, hsplit]
      simp
    · intro other hother reply hother'
      have hnothing := hnone other (List.mem_reverse.mp hother)
      rw [hother'] at hnothing
      exact hnothing
  · rintro ⟨before, exchange, later, record, rfl, hreply, hrecord, hnone⟩
    refine ⟨later.reverse, exchange, before.reverse, by simp, by simp [hreply, hrecord], ?_⟩
    intro other hother
    cases hother' : other.reply? with
    | none => rfl
    | some reply => exact hnone other (List.mem_reverse.mp hother) reply hother'

/-- Exchanges in which the line is not lost make up a record, where a later reply wins. -/
theorem exists_merged {exchanges : List (Exchange σ)}
    (hkept : ∀ exchange ∈ exchanges, exchange.loss? = none) (merged : Record) :
    ∃ record, exchanges.foldlM mergeInto merged = .ok record ∧
      ∀ key, record.get? key = (lastValue? exchanges key).or (merged.get? key) := by
  induction exchanges generalizing merged with
  | nil => exact ⟨merged, rfl, fun key => rfl⟩
  | cons exchange rest ih =>
      have hfirst : exchange.loss? = none := hkept exchange (by simp)
      have hrest : ∀ other ∈ rest, other.loss? = none :=
        fun other hother => hkept other (by simp [hother])
      have hmerge : exchange.mergeInto merged =
          .ok ((exchange.reply?.map merged.merge).getD merged) := by
        simp only [mergeInto, hfirst]
      have hget (key : String) :
          ((exchange.reply?.map merged.merge).getD merged).get? key =
            (exchange.reply?.bind fun record => record.get? key).or (merged.get? key) := by
        cases exchange.reply? with
        | none => rfl
        | some record => exact KeyMap.get?_merge merged record key
      obtain ⟨record, hrecord, hvalues⟩ :=
        ih hrest ((exchange.reply?.map merged.merge).getD merged)
      refine ⟨record, ?_, ?_⟩
      · rw [List.foldlM_cons, hmerge]
        exact hrecord
      · intro key
        have hlast : lastValue? (exchange :: rest) key =
            (lastValue? rest key).or
              (exchange.reply?.bind fun record => record.get? key) := by
          unfold lastValue?
          rw [List.reverse_cons, List.findSome?_append]
          simp
        rw [hvalues, hget, hlast, Option.or_assoc]

theorem foldlM_mergeInto_of_lost {before : List (Exchange σ)} {last : Exchange σ}
    {e : LinkError} (hkept : ∀ exchange ∈ before, exchange.loss? = none)
    (hlast : last.loss? = some e) (merged : Record) :
    (before ++ [last]).foldlM mergeInto merged = .error e := by
  obtain ⟨record, hrecord, _⟩ := exists_merged hkept merged
  have hmerge : last.mergeInto record = .error e := by
    simp only [mergeInto, hlast]
  rw [List.foldlM_append, hrecord]
  change [last].foldlM mergeInto record = .error e
  rw [List.foldlM_cons, hmerge]
  rfl

end Exchange

namespace Endpoint

variable {endpoint : Endpoint} {command : Command}

/-! ## What is asked for -/

/-- The commands of the section that can be sent without params. -/
def polled (endpoint : Endpoint) (group : Group) : List Command :=
  (endpoint.registry.group group).filter fun command => command.params = []

theorem mem_of_mem_polled {group : Group} (hmem : command ∈ endpoint.polled group) :
    command ∈ endpoint.registry.commands ∧ command.params = [] ∧ command.group = group := by
  simpa [polled, Registry.group] using hmem

theorem filter_group_of_covered {σ : Type} {group : Group} {exchanges : List (Exchange σ)}
    (hcommands : exchanges.map Exchange.command = endpoint.polled group) (other : Group) :
    exchanges.filter (fun exchange => exchange.command.group = other) =
      if group = other then exchanges else [] := by
  apply filter_of_forall_key_eq
  intro exchange hmem
  have hpolled : exchange.command ∈ endpoint.polled group := by
    rw [← hcommands]
    exact List.mem_map.mpr ⟨exchange, hmem, rfl⟩
  exact (mem_of_mem_polled hpolled).2.2

/-- The frame that asks for the command without params. -/
def bareRequest (endpoint : Endpoint) (command : Command) : Frame :=
  ⟨endpoint.address, command.id1, command.id2, []⟩

theorem requestFrame_of_paramless (hparams : command.params = []) :
    endpoint.requestFrame command .empty = .ok (endpoint.bareRequest command).toBytes := by
  have hencode : Payload.encode .reject .empty command.params = .ok [] := by
    rw [hparams]
    rfl
  exact requestFrame_eq_ok_iff.mpr ⟨[], hencode, Nat.zero_le _, rfl⟩

theorem exists_requestFrame_error (hparams : command.params ≠ []) :
    ∃ e, endpoint.requestFrame command .empty = .error e := by
  obtain ⟨field, rest, hfields⟩ := List.exists_cons_of_ne_nil hparams
  have hencode : Payload.encode .reject .empty command.params =
      .error (.missingField field.key) := by
    rw [hfields]
    rfl
  refine ⟨.missingField field.key, ?_⟩
  unfold requestFrame
  rw [hencode]
  rfl

variable {σ : Type} [Transport (StateM σ)]

def ask (endpoint : Endpoint) (command : Command) (line : σ) : Exchange σ :=
  let (result, transcript) :=
    (endpoint.send command.key .empty).on (Transcript.start line)
  ⟨command, result, transcript⟩

/-- The exchanges for the commands, one after the other. A lost line ends them. -/
def askEach (endpoint : Endpoint) : List Command → σ → List (Exchange σ)
  | [], _ => []
  | command :: rest, line =>
    let exchange := endpoint.ask command line
    match exchange.loss? with
    | some _ => [exchange]
    | none => exchange :: endpoint.askEach rest exchange.transcript.line

/-- The exchanges of a polling pass. -/
def pass (endpoint : Endpoint) (line : σ) : List (Exchange σ) :=
  endpoint.askEach (endpoint.polled .attributes ++ endpoint.polled .timeseries) line

/-- The exchanges of the pass in the section. -/
def passOf (endpoint : Endpoint) (group : Group) (line : σ) : List (Exchange σ) :=
  (endpoint.pass line).filter fun exchange => exchange.command.group = group

/-- An exchange for a command without params tries to write one frame. -/
theorem runs_ask (hmem : command ∈ endpoint.registry.commands)
    (hparams : command.params = []) (line : σ) :
    Runs (endpoint.send command.key .empty) line
        (endpoint.ask command line).transcript.events (endpoint.ask command line).result
        (endpoint.ask command line).transcript.line ∧
      (endpoint.ask command line).transcript.calls.filterMap Call.written? =
        [(endpoint.bareRequest command).toBytes] := by
  have hkey : endpoint.registry.byKey? command.key = some command :=
    Registry.byKey?_eq_some_iff.mpr ⟨hmem, rfl⟩
  obtain ⟨events, result, after, hsend, hwritten⟩ :=
    exists_runs_send_of_built hkey (requestFrame_of_paramless hparams) line
  have hask : endpoint.ask command line = ⟨command, result, ⟨after, events⟩⟩ := by
    unfold ask
    rw [Transcript.start, hsend []]
    rfl
  rw [hask]
  exact ⟨hsend, hwritten⟩

/-! ## One command of a pass -/

theorem exists_runs_pollCommand (hmem : command ∈ endpoint.registry.commands)
    (hparams : command.params = []) (merged : Record) (line : σ) :
    ∃ events, Runs (endpoint.pollCommand merged command) line events
        ((endpoint.ask command line).mergeInto merged)
        (endpoint.ask command line).transcript.line ∧
      events.filterMap Event.call? = (endpoint.ask command line).transcript.calls := by
  obtain ⟨hsend, _⟩ := runs_ask hmem hparams line
  generalize endpoint.ask command line = exchange at hsend ⊢
  obtain ⟨_, result, after, events⟩ := exchange
  have hcalls (noted : List Event) (hnoted : noted.filterMap Event.call? = []) :
      (events ++ noted).filterMap Event.call? = events.filterMap Event.call? := by
    rw [List.filterMap_append, hnoted, List.append_nil]
  cases result with
  | ok outcome =>
      cases outcome with
      | reply record =>
          exact ⟨events ++ [], Runs.bind hsend.attempt Runs.pure, hcalls [] rfl⟩
      | _ => exact ⟨events ++ [], Runs.bind hsend.attempt Runs.pure, hcalls [] rfl⟩
  | error e =>
      by_cases hloss : e.IsLoss
      · have hends : e.endsPass = true := LinkError.endsPass_iff.mpr hloss
        refine ⟨events ++ [], Runs.bind hsend.attempt ?_, hcalls [] rfl⟩
        simp only [hends, if_true, Exchange.mergeInto, Exchange.loss?, hloss]
        exact Runs.throw
      · have hgoes : e.endsPass = false :=
          Bool.eq_false_iff.mpr fun hends => hloss (LinkError.endsPass_iff.mp hends)
        refine ⟨events ++ [.noted (.pollFailed command.key e)],
          Runs.bind hsend.attempt ?_, hcalls _ rfl⟩
        simp only [hgoes, Exchange.mergeInto, Exchange.loss?, hloss, if_false]
        exact Runs.bind (Runs.note _) Runs.pure

theorem runs_pollCommand_skipped (hmem : command ∈ endpoint.registry.commands)
    (hparams : command.params ≠ []) (merged : Record) (line : σ) :
    ∃ events, Runs (endpoint.pollCommand merged command) line events (.ok merged) line ∧
      events.filterMap Event.call? = [] := by
  have hkey : endpoint.registry.byKey? command.key = some command :=
    Registry.byKey?_eq_some_iff.mpr ⟨hmem, rfl⟩
  obtain ⟨e, hframe⟩ := exists_requestFrame_error hparams
  have hsend := runs_send_unbuilt hkey hframe line
  exact ⟨_, Runs.bind hsend.attempt Runs.pure, rfl⟩

/-! ## The commands of a section -/

theorem askEach_cons_of_loss {line : σ} {e : LinkError}
    (hloss : (endpoint.ask command line).loss? = some e) (rest : List Command) :
    endpoint.askEach (command :: rest) line = [endpoint.ask command line] := by
  simp only [askEach, hloss]

theorem askEach_cons_of_unlost {line : σ}
    (hloss : (endpoint.ask command line).loss? = none) (rest : List Command) :
    endpoint.askEach (command :: rest) line =
      endpoint.ask command line ::
        endpoint.askEach rest (endpoint.ask command line).transcript.line := by
  simp only [askEach, hloss]

theorem exists_runs_pollCommands {commands : List Command}
    (hmem : ∀ command ∈ commands, command ∈ endpoint.registry.commands)
    (merged : Record) (line : σ) :
    let exchanges :=
      endpoint.askEach (commands.filter fun command => command.params = []) line
    ∃ events, Runs (endpoint.pollCommands merged commands) line events
        (exchanges.foldlM Exchange.mergeInto merged) (Exchange.lineAfter line exchanges) ∧
      events.filterMap Event.call? =
        exchanges.flatMap fun exchange => exchange.transcript.calls := by
  -- A skipped command leaves the line as it is, any other one hands its own line on.
  induction commands generalizing merged line with
  | nil => exact ⟨[], Runs.pure, rfl⟩
  | cons command rest ih =>
      have hfirst : command ∈ endpoint.registry.commands := hmem command (by simp)
      have hrest : ∀ command ∈ rest, command ∈ endpoint.registry.commands :=
        fun command hcommand => hmem command (by simp [hcommand])
      by_cases hparams : command.params = []
      · obtain ⟨events, hpoll, hcalls⟩ :=
          exists_runs_pollCommand hfirst hparams merged line
        simp only [List.filter_cons, hparams, decide_true, if_true]
        cases hloss : (endpoint.ask command line).loss? with
        | some e =>
            have hmerge : (endpoint.ask command line).mergeInto merged = .error e := by
              simp only [Exchange.mergeInto, hloss]
            rw [hmerge] at hpoll
            rw [askEach_cons_of_loss hloss, List.foldlM_cons, hmerge]
            refine ⟨events, Runs.bind_error hpoll, ?_⟩
            simpa using hcalls
        | none =>
            obtain ⟨next, hmerge⟩ :
                ∃ next, (endpoint.ask command line).mergeInto merged = .ok next := by
              simp only [Exchange.mergeInto, hloss]
              exact ⟨_, rfl⟩
            rw [hmerge] at hpoll
            rw [askEach_cons_of_unlost hloss, List.foldlM_cons, hmerge]
            obtain ⟨later, hothers, hmore⟩ :=
              ih hrest next (endpoint.ask command line).transcript.line
            refine ⟨events ++ later, Runs.bind hpoll hothers, ?_⟩
            rw [List.filterMap_append, hcalls, hmore, List.flatMap_cons]
      · obtain ⟨events, hskip, hcalls⟩ :=
          runs_pollCommand_skipped hfirst hparams merged line
        simp only [List.filter_cons, hparams, decide_false, Bool.false_eq_true, if_false]
        obtain ⟨later, hothers, hmore⟩ := ih hrest merged line
        refine ⟨events ++ later, Runs.bind hskip hothers, ?_⟩
        rw [List.filterMap_append, hcalls, hmore, List.nil_append]

/-- Either all commands have been asked for and the line has not been lost, or it has been
lost in the last exchange. -/
theorem askEach_covers_or_loses (endpoint : Endpoint) (commands : List Command) (line : σ) :
    (endpoint.askEach commands line).map Exchange.command = commands ∧
        (∀ exchange ∈ endpoint.askEach commands line, exchange.loss? = none) ∨
      ∃ before last e, endpoint.askEach commands line = before ++ [last] ∧
        (∀ exchange ∈ before, exchange.loss? = none) ∧ last.loss? = some e ∧
        (endpoint.askEach commands line).map Exchange.command <+: commands := by
  induction commands generalizing line with
  | nil => exact .inl ⟨rfl, by simp [askEach]⟩
  | cons command rest ih =>
      cases hloss : (endpoint.ask command line).loss? with
      | some e =>
          right
          rw [askEach_cons_of_loss hloss]
          exact ⟨[], _, e, rfl, by simp, hloss, rest, rfl⟩
      | none =>
          rw [askEach_cons_of_unlost hloss, List.map_cons]
          rcases ih (endpoint.ask command line).transcript.line with
            ⟨hcommands, hkept⟩ | ⟨before, last, e, hsplit, hkept, hlast, hcommands⟩
          · left
            refine ⟨by rw [hcommands]; rfl, ?_⟩
            simpa [hloss] using hkept
          · right
            refine ⟨endpoint.ask command line :: before, last, e, by rw [hsplit]; rfl, ?_,
              hlast, List.cons_prefix_cons.mpr ⟨rfl, hcommands⟩⟩
            simpa [hloss] using hkept

theorem askEach_append_of_lost {commands : List Command} {line : σ}
    {exchange : Exchange σ} (hmem : exchange ∈ endpoint.askEach commands line)
    {e : LinkError} (hloss : exchange.loss? = some e) (others : List Command) :
    endpoint.askEach (commands ++ others) line = endpoint.askEach commands line := by
  induction commands generalizing line with
  | nil => simp [askEach] at hmem
  | cons command rest ih =>
      rw [List.cons_append]
      cases hfirst : (endpoint.ask command line).loss? with
      | some e' => rw [askEach_cons_of_loss hfirst, askEach_cons_of_loss hfirst]
      | none =>
          rw [askEach_cons_of_unlost hfirst, askEach_cons_of_unlost hfirst]
          rw [askEach_cons_of_unlost hfirst] at hmem
          rcases List.mem_cons.mp hmem with rfl | hmem
          · rw [hfirst] at hloss
            cases hloss
          · rw [ih hmem]

theorem askEach_append_of_unlost {commands : List Command} {line : σ}
    (hkept : ∀ exchange ∈ endpoint.askEach commands line, exchange.loss? = none)
    (others : List Command) :
    endpoint.askEach (commands ++ others) line =
      endpoint.askEach commands line ++ endpoint.askEach others
        (Exchange.lineAfter line (endpoint.askEach commands line)) := by
  induction commands generalizing line with
  | nil => rfl
  | cons command rest ih =>
      rw [List.cons_append]
      cases hfirst : (endpoint.ask command line).loss? with
      | some e =>
          rw [askEach_cons_of_loss hfirst] at hkept
          rw [hkept _ (List.mem_singleton_self _)] at hfirst
          cases hfirst
      | none =>
          rw [askEach_cons_of_unlost hfirst] at hkept
          rw [askEach_cons_of_unlost hfirst, askEach_cons_of_unlost hfirst,
            ih fun exchange hmem => hkept exchange (by simp [hmem])]
          rfl

/-! ## Both sections -/

theorem exists_runs_pollGroup (endpoint : Endpoint) (group : Group) (line : σ) :
    ∃ events, Runs (endpoint.pollCommands .empty (endpoint.registry.group group)) line events
        ((endpoint.askEach (endpoint.polled group) line).foldlM Exchange.mergeInto .empty)
        (Exchange.lineAfter line (endpoint.askEach (endpoint.polled group) line)) ∧
      events.filterMap Event.call? =
        (endpoint.askEach (endpoint.polled group) line).flatMap
          fun exchange => exchange.transcript.calls :=
  exists_runs_pollCommands (fun _ hmem => (List.mem_filter.mp hmem).1) .empty line

/-- A pass fails if the line is lost in its last exchange, and otherwise merges the
replies of each section. -/
theorem exists_runs_poll (endpoint : Endpoint) (line : σ) :
    ∃ events result, Runs endpoint.poll line events result
        (Exchange.lineAfter line (endpoint.pass line)) ∧
      events.filterMap Event.call? =
        (endpoint.pass line).flatMap (fun exchange => exchange.transcript.calls) ∧
      ((∃ before last e, endpoint.pass line = before ++ [last] ∧
          (∀ exchange ∈ before, exchange.loss? = none) ∧ last.loss? = some e ∧
          result = .error e) ∨
        (∀ exchange ∈ endpoint.pass line, exchange.loss? = none) ∧
          ∃ report, result = .ok report ∧ ∀ key,
            report.attributes.get? key =
              Exchange.lastValue? (endpoint.passOf .attributes line) key ∧
            report.telemetry.get? key =
              Exchange.lastValue? (endpoint.passOf .timeseries line) key) := by
  obtain ⟨events, hfirst, hcalls⟩ := endpoint.exists_runs_pollGroup .attributes line
  rcases endpoint.askEach_covers_or_loses (endpoint.polled .attributes) line with
    ⟨hattributes, hkept⟩ | ⟨before, last, e, hsplit, hkept, hlast, _⟩
  · have hpass : endpoint.pass line = _ := askEach_append_of_unlost hkept _
    obtain ⟨attributes, hmerged, hget⟩ := Exchange.exists_merged hkept .empty
    rw [hmerged] at hfirst
    generalize endpoint.askEach (endpoint.polled .attributes) line = first at *
    -- The second section starts from an empty record, on the line as it is by then.
    obtain ⟨later, hsecond, hmore⟩ :=
      endpoint.exists_runs_pollGroup .timeseries (Exchange.lineAfter line first)
    rw [hpass, Exchange.lineAfter_append, List.flatMap_append]
    rcases endpoint.askEach_covers_or_loses (endpoint.polled .timeseries)
        (Exchange.lineAfter line first) with
      ⟨htimeseries, hothers⟩ | ⟨before, last, e, hsplit, hothers, hlast, _⟩
    · obtain ⟨telemetry, hmerged', hget'⟩ := Exchange.exists_merged hothers .empty
      rw [hmerged'] at hsecond
      generalize endpoint.askEach (endpoint.polled .timeseries)
        (Exchange.lineAfter line first) = second at *
      have hpassOf (group : Group) : endpoint.passOf group line =
          first.filter (fun exchange => exchange.command.group = group) ++
            second.filter (fun exchange => exchange.command.group = group) := by
        rw [passOf, hpass, List.filter_append]
      refine ⟨events ++ (later ++ []), .ok ⟨attributes, telemetry⟩,
        Runs.bind hfirst (Runs.bind hsecond Runs.pure), ?_, .inr ⟨?_, _, rfl, ?_⟩⟩
      · rw [List.append_nil, List.filterMap_append, hcalls, hmore]
      · intro exchange hmem
        rcases List.mem_append.mp hmem with hmem | hmem
        · exact hkept exchange hmem
        · exact hothers exchange hmem
      · intro key
        rw [hpassOf, hpassOf]
        simp only [filter_group_of_covered hattributes, filter_group_of_covered htimeseries]
        simp [hget, hget']
    · rw [hsplit, Exchange.foldlM_mergeInto_of_lost hothers hlast, ← hsplit] at hsecond
      refine ⟨events ++ later, .error e, Runs.bind hfirst (Runs.bind_error hsecond), ?_,
        .inl ⟨first ++ before, last, e, ?_, ?_, hlast, rfl⟩⟩
      · rw [List.filterMap_append, hcalls, hmore]
      · rw [hsplit, List.append_assoc]
      · intro exchange hmem
        rcases List.mem_append.mp hmem with hmem | hmem
        · exact hkept exchange hmem
        · exact hothers exchange hmem
  · have hmem : last ∈ endpoint.askEach (endpoint.polled .attributes) line := by
      simp [hsplit]
    have hpass : endpoint.pass line = endpoint.askEach (endpoint.polled .attributes) line :=
      askEach_append_of_lost hmem hlast _
    rw [hsplit, Exchange.foldlM_mergeInto_of_lost hkept hlast, ← hsplit, ← hpass] at hfirst
    rw [← hpass] at hcalls
    exact ⟨events, .error e, Runs.bind_error hfirst, hcalls,
      .inl ⟨before, last, e, hpass.trans hsplit, hkept, hlast, rfl⟩⟩

theorem written_of_mem_askEach {commands : List Command}
    (hcommands : ∀ command ∈ commands,
      command ∈ endpoint.registry.commands ∧ command.params = [])
    {line : σ} {exchange : Exchange σ} (hmem : exchange ∈ endpoint.askEach commands line) :
    exchange.transcript.calls.filterMap Call.written? =
      [(endpoint.bareRequest exchange.command).toBytes] := by
  induction commands generalizing line with
  | nil => simp [askEach] at hmem
  | cons command rest ih =>
      obtain ⟨hregistered, hparams⟩ := hcommands command (by simp)
      obtain ⟨_, hwritten⟩ := runs_ask hregistered hparams line
      cases hloss : (endpoint.ask command line).loss? with
      | some e =>
          rw [askEach_cons_of_loss hloss] at hmem
          rw [List.mem_singleton.mp hmem]
          exact hwritten
      | none =>
          rw [askEach_cons_of_unlost hloss] at hmem
          rcases List.mem_cons.mp hmem with rfl | hmem
          · exact hwritten
          · exact ih (fun command hcommand => hcommands command (by simp [hcommand])) hmem

theorem written_of_mem_pass {line : σ} {exchange : Exchange σ}
    (hmem : exchange ∈ endpoint.pass line) :
    exchange.transcript.calls.filterMap Call.written? =
      [(endpoint.bareRequest exchange.command).toBytes] := by
  refine written_of_mem_askEach (fun command hcommand => ?_) hmem
  rcases List.mem_append.mp hcommand with hcommand | hcommand
  · exact ⟨(mem_of_mem_polled hcommand).1, (mem_of_mem_polled hcommand).2.1⟩
  · exact ⟨(mem_of_mem_polled hcommand).1, (mem_of_mem_polled hcommand).2.1⟩

theorem pass_covers_or_loses (endpoint : Endpoint) (line : σ) :
    (endpoint.pass line).map Exchange.command =
          endpoint.polled .attributes ++ endpoint.polled .timeseries ∧
        (∀ exchange ∈ endpoint.pass line, exchange.loss? = none) ∨
      ∃ before last e, endpoint.pass line = before ++ [last] ∧
        (∀ exchange ∈ before, exchange.loss? = none) ∧ last.loss? = some e ∧
        (endpoint.pass line).map Exchange.command <+:
          endpoint.polled .attributes ++ endpoint.polled .timeseries :=
  endpoint.askEach_covers_or_loses _ line

/-- No exchange follows one in which the line has been lost. -/
theorem eq_nil_of_loss {line : σ} {before later : List (Exchange σ)}
    {exchange : Exchange σ} {e : LinkError}
    (hsplit : endpoint.pass line = before ++ exchange :: later)
    (hloss : exchange.loss? = some e) : later = [] := by
  have hlost (others : List (Exchange σ)) (hmem : exchange ∈ others)
      (hkept : ∀ other ∈ others, other.loss? = none) : False := by
    rw [hkept exchange hmem] at hloss
    cases hloss
  rcases endpoint.pass_covers_or_loses line with
    ⟨_, hkept⟩ | ⟨others, last, _, hlast, hkept, _, _⟩
  · exact (hlost _ (by rw [hsplit]; simp) hkept).elim
  · rcases List.eq_nil_or_concat later with hnil | ⟨init, other, rfl⟩
    · exact hnil
    · have hsame : before ++ exchange :: init ++ [other] = others ++ [last] := by
        rw [← hlast, hsplit]
        simp
      obtain ⟨rfl, _⟩ := List.append_inj' hsame rfl
      exact (hlost _ (by simp) hkept).elim

/-- On any line, a polling pass makes the calls of its exchanges and no others, and tries
to write one frame in each of them. They are for the commands without params of the
attributes section and then of the timeseries section, in the order of the document, up
to the first one that loses the line. With it the pass fails, for the same reason. If
none loses the line the pass brings a report, in which every key has the value of the last
reply of its section that contains the key. -/
theorem poll_covers_and_merges (endpoint : Endpoint) (line : σ) :
    let pass := endpoint.pass line
    let run := endpoint.poll.on (Transcript.start line)
    let commands := endpoint.polled .attributes ++ endpoint.polled .timeseries
    run.2.line = Exchange.lineAfter line pass ∧
      run.2.calls = pass.flatMap (fun exchange => exchange.transcript.calls) ∧
      run.2.calls.filterMap Call.written? =
        pass.map (fun exchange => (endpoint.bareRequest exchange.command).toBytes) ∧
      pass.map Exchange.command <+: commands ∧
      (∀ e, run.1 = .error e ↔
        ∃ exchange ∈ pass, exchange.result = .error e ∧ e.IsLoss) ∧
      (∀ before exchange later e, pass = before ++ exchange :: later →
        exchange.result = .error e → e.IsLoss → later = []) ∧
      ((∀ exchange ∈ pass, ∀ e, exchange.result = .error e → ¬ e.IsLoss) →
        pass.map Exchange.command = commands ∧
          ∃ report, run.1 = .ok report ∧ ∀ key,
            report.attributes.get? key =
              Exchange.lastValue? (endpoint.passOf .attributes line) key ∧
            report.telemetry.get? key =
              Exchange.lastValue? (endpoint.passOf .timeseries line) key) := by
  obtain ⟨events, result, hpoll, hcalls, hresult⟩ := endpoint.exists_runs_poll line
  have hrun : endpoint.poll.on (Transcript.start line) =
      (result, ⟨Exchange.lineAfter line (endpoint.pass line), events⟩) := hpoll []
  have hcover := endpoint.pass_covers_or_loses line
  simp only [hrun, true_and]
  refine ⟨hcalls, ?_, ?_, ?_, ?_, ?_⟩
  · rw [Transcript.calls, hcalls, List.filterMap_flatMap, List.map_eq_flatMap]
    exact List.flatMap_congr fun exchange hmem => written_of_mem_pass hmem
  · rcases hcover with ⟨hcommands, _⟩ | ⟨_, _, _, _, _, _, hcommands⟩
    · rw [hcommands]
    · exact hcommands
  · intro e
    simp only [← Exchange.loss?_eq_some_iff]
    rcases hresult with ⟨before, last, cause, hsplit, hkept, hlast, rfl⟩ |
      ⟨hkept, report, rfl, _⟩
    · constructor
      · rintro ⟨⟩
        exact ⟨last, by rw [hsplit]; simp, hlast⟩
      · rintro ⟨exchange, hmem, hloss⟩
        rw [hsplit] at hmem
        rcases List.mem_append.mp hmem with hmem | hmem
        · rw [hkept exchange hmem] at hloss
          cases hloss
        · rw [List.mem_singleton.mp hmem, hlast] at hloss
          rw [Option.some.inj hloss]
    · constructor
      · rintro ⟨⟩
      · rintro ⟨exchange, hmem, hloss⟩
        rw [hkept exchange hmem] at hloss
        cases hloss
  · intro before exchange later e hsplit herror hloss
    exact eq_nil_of_loss hsplit (Exchange.loss?_eq_some_iff.mpr ⟨herror, hloss⟩)
  · intro hnone
    have hunlost (exchange : Exchange σ) (hmem : exchange ∈ endpoint.pass line)
        {e : LinkError} (hloss : exchange.loss? = some e) : False := by
      obtain ⟨herror, hcause⟩ := Exchange.loss?_eq_some_iff.mp hloss
      exact hnone exchange hmem e herror hcause
    constructor
    · rcases hcover with ⟨hcommands, _⟩ | ⟨before, last, e, hsplit, _, hlast, _⟩
      · exact hcommands
      · exact (hunlost last (by rw [hsplit]; simp) hlast).elim
    · rcases hresult with ⟨before, last, e, hsplit, _, hlast, _⟩ | ⟨_, hreport⟩
      · exact (hunlost last (by rw [hsplit]; simp) hlast).elim
      · exact hreport

end Endpoint

end PowerLink
