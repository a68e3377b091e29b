import PowerLink.Proofs.Exchanges

/-!
# What exchanges keep to

A contract says what holds of a line before and after an exchange, which events the
exchange may cause, and for which reasons it may fail. An exchange that keeps to a
contract comes to an end on every line that is covered, and what it does there is
settled by the line alone. Most contracts hold of an exchange because they hold of its
reads.
-/

namespace PowerLink

/-- What a client does with the bytes that it has received as the reply. -/
def Endpoint.openReply {σ : Type} (command : Command) (bytes : Bytes) :
    LinkT (StateM (Transcript σ)) Record := do
  let frame ← LinkT.openFrame bytes
  let code := ReturnCode.ofByte frame.id2
  if ¬ code.isOk then
    LinkT.note (.rejectedByDevice command.key code)
    throw (.rejected code)
  match Payload.decode command.values frame.info with
  | .ok record => return record
  | .error e => throw (.invalidData e)

theorem Endpoint.awaitReply_eq {σ : Type} [Transport (StateM σ)] (command : Command) :
    (awaitReply command : LinkT (StateM (Transcript σ)) Record) =
      LinkT.receiveFrame >>= openReply command :=
  rfl

namespace LinkT

structure Contract (σ : Type) where
  line : σ → Prop
  event : Event → Prop
  failure : LinkError → Prop

namespace Contract

variable {σ α β : Type} {contract : Contract σ}

def Admits (contract : Contract σ) (returns : α → Prop) : Except LinkError α → Prop
  | .ok value => returns value
  | .error e => contract.failure e

def Keeps (contract : Contract σ) (exchange : LinkT (StateM (Transcript σ)) α)
    (returns : α → Prop) : Prop :=
  ∀ line, contract.line line → ∃ events result after,
    Runs exchange line events result after ∧ contract.line after ∧
      (∀ event ∈ events, contract.event event) ∧ contract.Admits returns result

namespace Keeps

variable {exchange : LinkT (StateM (Transcript σ)) α}
  {next : α → LinkT (StateM (Transcript σ)) β} {returns : α → Prop} {later : β → Prop}

theorem pure {value : α} (hvalue : returns value) :
    contract.Keeps (pure value) returns := by
  intro line hline
  exact ⟨[], .ok value, line, Runs.pure, hline, by simp, hvalue⟩

theorem throw {e : LinkError} (hfailure : contract.failure e) :
    contract.Keeps (throw e) returns := by
  intro line hline
  exact ⟨[], .error e, line, Runs.throw, hline, by simp, hfailure⟩

theorem bind (hfirst : contract.Keeps exchange returns)
    (hnext : ∀ value, returns value → contract.Keeps (next value) later) :
    contract.Keeps (exchange >>= next) later := by
  intro line hline
  obtain ⟨events, result, middle, hrun, hmiddle, hevents, hresult⟩ := hfirst line hline
  cases result with
  | error e =>
      exact ⟨events, .error e, middle, Runs.bind_error hrun, hmiddle, hevents, hresult⟩
  | ok value =>
      obtain ⟨others, result, after, hothers, hafter, hmore, hlast⟩ :=
        hnext value hresult middle hmiddle
      refine ⟨events ++ others, result, after, Runs.bind hrun hothers, hafter, ?_, hlast⟩
      intro event hmem
      rcases List.mem_append.mp hmem with hmem | hmem
      · exact hevents event hmem
      · exact hmore event hmem

theorem note {notice : Notice} (hnote : contract.event (.noted notice)) :
    contract.Keeps (note notice) fun _ => True := by
  intro line hline
  exact ⟨[.noted notice], .ok (), line, Runs.note notice, hline, by simpa using hnote,
    trivial⟩

theorem openFrame (hnote : ∀ notice, contract.event (.noted notice))
    (hframe : ∀ e, contract.failure (.frame e)) (bytes : Bytes) :
    contract.Keeps (openFrame bytes) fun _ => True := by
  unfold LinkT.openFrame
  cases Frame.decode bytes with
  | ok frame => exact pure trivial
  | error e =>
      by_cases hwarning : e.warning?.isSome = true
      · simp only [hwarning, if_true]
        exact bind (note (hnote _)) fun _ _ => throw (hframe e)
      · simp only [hwarning]
        exact throw (hframe e)

theorem openReply (hnote : ∀ notice, contract.event (.noted notice))
    (hframe : ∀ e, contract.failure (.frame e))
    (hrejected : ∀ code, contract.failure (.rejected code))
    (hdata : ∀ e, contract.failure (.invalidData e)) (command : Command) (bytes : Bytes) :
    contract.Keeps (Endpoint.openReply command bytes) fun _ => True := by
  refine Keeps.bind (Keeps.openFrame hnote hframe bytes) fun frame _ => ?_
  by_cases hcode : (ReturnCode.ofByte frame.id2).isOk = true
  · simp only [hcode, not_true_eq_false, if_false]
    cases Payload.decode command.values frame.info with
    | ok record => exact pure trivial
    | error e => exact throw (hdata e)
  · simp only [hcode]
    exact Keeps.bind (note (hnote _)) fun _ _ => throw (hrejected _)

end Keeps

/-! ## Contracts that allow to receive -/

variable [Transport (StateM σ)]

/-- The contract covers reads, and everything that can be wrong with a frame. -/
structure Receives (contract : Contract σ) : Prop where
  line : ∀ size line, contract.line line →
    contract.line ((Transport.read size : StateM σ _) line).2
  transport : ∀ size line e, contract.line line →
    ((Transport.read size : StateM σ _) line).1 = .error e → contract.failure (.transport e)
  called : ∀ size failure, contract.event (.called (.read size) failure)
  noted : ∀ notice, contract.event (.noted notice)
  frame : ∀ e, contract.failure (.frame e)

/-- A contract about events alone. -/
def onlyCauses (allowed : Event → Prop) : Contract σ where
  line _ := True
  event := allowed
  failure _ := True

theorem receives_onlyCauses {allowed : Event → Prop}
    (hread : ∀ size failure, allowed (.called (.read size) failure))
    (hnote : ∀ notice, allowed (.noted notice)) :
    (onlyCauses allowed : Contract σ).Receives where
  line _ _ _ := trivial
  transport _ _ _ _ _ := trivial
  called := hread
  noted := hnote
  frame _ := trivial

namespace Receives

variable (hreceives : contract.Receives)

include hreceives

theorem keeps_tryRead (size : Nat) :
    contract.Keeps (liftM (Transport.read size : StateM (Transcript σ) _))
      (fun result : Except TransportError (Chunk size) =>
        ∀ e, result = .error e → contract.failure (.transport e)) := by
  intro line hline
  have hafter := hreceives.line size line hline
  have hfailure := hreceives.transport size line
  rcases hread : (Transport.read size : StateM σ _) line with ⟨result, after⟩
  rw [hread] at hafter hfailure
  cases result with
  | ok chunk =>
      refine ⟨_, _, after, Runs.lift (Runs.observe_ok hread), hafter, ?_, ?_⟩
      · simpa using hreceives.called size none
      · intro e he
        cases he
  | error e =>
      refine ⟨_, _, after, Runs.tryRead_error hread, hafter, ?_, ?_⟩
      · simpa using hreceives.called size (some e)
      · intro e' he
        cases he
        exact hfailure e hline rfl

theorem keeps_read (size : Nat) :
    contract.Keeps (LinkT.read size) fun _ => True := by
  intro line hline
  have hafter := hreceives.line size line hline
  have hfailure := hreceives.transport size line
  rcases hread : (Transport.read size : StateM σ _) line with ⟨result, after⟩
  rw [hread] at hafter hfailure
  cases result with
  | ok chunk =>
      refine ⟨_, _, after, Runs.read hread, hafter, ?_, trivial⟩
      simpa using hreceives.called size none
  | error e =>
      refine ⟨_, _, after, Runs.read_error hread, hafter, ?_, hfailure e hline rfl⟩
      simpa using hreceives.called size (some e)

theorem keeps_receiveAfter (start : UInt8) :
    contract.Keeps (receiveAfter start) fun _ => True := by
  have hthrow (e : FrameError) {next : Unit → LinkT (StateM (Transcript σ)) Bytes} :
      contract.Keeps (MonadExcept.throw (.frame e) >>= next) fun _ => True :=
    Keeps.throw (hreceives.frame e)
  have hread := hreceives.keeps_read
  unfold receiveAfter
  by_cases hstart : start = Frame.startMarker
  · simp only [hstart, ne_eq, not_true_eq_false, if_false]
    refine Keeps.bind (hread 4) fun header _ => ?_
    refine Keeps.bind (hread 2) fun length _ => ?_
    cases LengthField.decode length.pair.1 length.pair.2 with
    | error e => exact Keeps.throw (hreceives.frame e)
    | ok size =>
        simp only [pure_bind]
        refine Keeps.bind (hread size) fun info _ => ?_
        refine Keeps.bind (hread 2) fun check _ => ?_
        refine Keeps.bind (hread 1) fun last _ => ?_
        by_cases hlast : last.byte = Frame.endMarker
        · simp only [hlast, not_true_eq_false, if_false]
          exact Keeps.pure trivial
        · simp only [hlast, not_false_eq_true, if_true]
          exact hthrow _
  · simp only [hstart, ne_eq, not_false_eq_true, if_true]
    exact hthrow _

theorem keeps_receiveFrame : contract.Keeps receiveFrame fun _ => True :=
  Keeps.bind (hreceives.keeps_read 1) fun first _ =>
    hreceives.keeps_receiveAfter first.byte

/-! ## Requests and replies -/

theorem keeps_awaitReply (hrejected : ∀ code, contract.failure (.rejected code))
    (hdata : ∀ e, contract.failure (.invalidData e)) (command : Command) :
    contract.Keeps (Endpoint.awaitReply command) fun _ => True := by
  rw [Endpoint.awaitReply_eq]
  refine Keeps.bind hreceives.keeps_receiveFrame fun bytes _ => ?_
  exact Keeps.openReply hreceives.noted hreceives.frame hrejected hdata command bytes

variable (hunknown : ∀ id1 id2, contract.failure (.unknownId id1 id2))
  (hparams : ∀ id1 id2 e, contract.failure (.invalidParams id1 id2 e))

include hunknown hparams

theorem keeps_resolve (endpoint : Endpoint) (bytes : Bytes) :
    contract.Keeps (endpoint.resolve bytes) fun request =>
      request.1 ∈ endpoint.registry.commands := by
  refine Keeps.bind (Keeps.openFrame hreceives.noted hreceives.frame bytes) fun frame _ => ?_
  cases hids : endpoint.registry.byIds? frame.id1 frame.id2 with
  | none => exact Keeps.throw (hunknown _ _)
  | some command =>
      have hmem : command ∈ endpoint.registry.commands := List.mem_of_find?_eq_some hids
      cases hdecode : Payload.decode command.params frame.info with
      | ok record =>
          simp only [hdecode]
          exact Keeps.pure hmem
      | error e =>
          simp only [hdecode]
          exact Keeps.throw (hparams _ _ e)

theorem keeps_tryReceive (endpoint : Endpoint) :
    contract.Keeps endpoint.tryReceive fun request? =>
      ∀ request ∈ request?, request.1 ∈ endpoint.registry.commands := by
  refine Keeps.bind (hreceives.keeps_tryRead 1) fun first hfirst => ?_
  have hresolve (start : Chunk 1) :
      contract.Keeps (do return some (← endpoint.resolve (← receiveAfter start.byte)))
        fun request? => ∀ request ∈ request?, request.1 ∈ endpoint.registry.commands := by
    refine Keeps.bind (hreceives.keeps_receiveAfter start.byte) fun bytes _ => ?_
    refine Keeps.bind (hreceives.keeps_resolve hunknown hparams endpoint bytes) ?_
    intro request hrequest
    exact Keeps.pure (by simpa using hrequest)
  cases first with
  | ok start => exact hresolve start
  | error e =>
      cases e with
      | shortRead expected received =>
          cases received with
          | zero => exact Keeps.pure (by simp)
          | succ received => exact Keeps.throw (hfirst _ rfl)
      | _ => exact Keeps.throw (hfirst _ rfl)

end Receives

end Contract

end LinkT

end PowerLink
