import PowerLink.Bench.Transcript
import PowerLink.Link.Responder
import Mathlib.Tactic

/-!
# Exchanges on a line under observation

What an exchange does on a line is told by four things: the line before, the events on
it, the result, and the line after. `Runs` relates them, for every transcript that the
events are appended to. There is a rule for each way in which exchanges are put
together, so that what a longer exchange does is found by following its text.
-/

namespace PowerLink.LinkT

variable {σ α β : Type}

/-- The result of an exchange, and the line after it. -/
def on (exchange : LinkT (StateM σ) α) (line : σ) : Except LinkError α × σ :=
  exchange.run line

theorem on_bind (exchange : LinkT (StateM σ) α) (next : α → LinkT (StateM σ) β)
    (line : σ) :
    (exchange >>= next).on line =
      match exchange.on line with
      | (.ok value, after) => (next value).on after
      | (.error e, after) => (.error e, after) := by
  change ExceptT.bindCont next (exchange.on line).1 (exchange.on line).2 = _
  rcases exchange.on line with ⟨result, after⟩
  cases result with
  | ok value => rfl
  | error e => rfl

theorem on_bind_eq_ok_iff {exchange : LinkT (StateM σ) α} {next : α → LinkT (StateM σ) β}
    {line after : σ} {result : β} :
    (exchange >>= next).on line = (.ok result, after) ↔
      ∃ value middle, exchange.on line = (.ok value, middle) ∧
        (next value).on middle = (.ok result, after) := by
  rw [on_bind]
  rcases exchange.on line with ⟨outcome, middle⟩
  cases outcome with
  | ok value => simp
  | error e => simp

theorem on_throw (e : LinkError) (line : σ) :
    (throw e : LinkT (StateM σ) α).on line = (.error e, line) :=
  rfl

theorem on_liftM (act : StateM σ α) (line : σ) :
    (liftM act : LinkT (StateM σ) α).on line = (.ok (act line).1, (act line).2) :=
  rfl

theorem on_read [Transport (StateM σ)] (size : Nat) (line : σ) :
    (read size : LinkT (StateM σ) (Chunk size)).on line =
      (((Transport.read size : StateM σ _) line).1.mapError .transport,
        ((Transport.read size : StateM σ _) line).2) :=
  rfl

theorem on_some (exchange : LinkT (StateM σ) α) (line : σ) :
    (do return some (← exchange)).on line =
      ((exchange.on line).1.map some, (exchange.on line).2) := by
  rw [on_bind]
  rcases exchange.on line with ⟨result, after⟩
  cases result with
  | ok value => rfl
  | error e => rfl

/-- On the given line the exchange causes the events, ends with the result and leaves
the line like the last one, whatever has happened before. -/
def Runs (exchange : LinkT (StateM (Transcript σ)) α) (line : σ)
    (events : List Event) (result : Except LinkError α) (after : σ) : Prop :=
  ∀ before, exchange.on ⟨line, before⟩ = (result, ⟨after, before ++ events⟩)

namespace Runs

variable {exchange : LinkT (StateM (Transcript σ)) α}
  {next : α → LinkT (StateM (Transcript σ)) β}
  {line middle after : σ} {events later : List Event}
  {value : α} {result : Except LinkError β} {e : LinkError}

theorem pure : Runs (pure value) line [] (.ok value) line := by
  intro before
  rw [List.append_nil]
  rfl

theorem throw : Runs (throw e : LinkT (StateM (Transcript σ)) α) line [] (.error e)
    line := by
  intro before
  rw [List.append_nil]
  rfl

theorem bind (hfirst : Runs exchange line events (.ok value) middle)
    (hnext : Runs (next value) middle later result after) :
    Runs (exchange >>= next) line (events ++ later) result after := by
  intro before
  rw [on_bind, hfirst before]
  simp only
  rw [hnext, List.append_assoc]

theorem bind_error (hfirst : Runs exchange line events (.error e) middle) :
    Runs (exchange >>= next) line events (.error e) middle := by
  intro before
  rw [on_bind, hfirst before]

/-- What an exchange does on a line is settled by the line. -/
theorem eq_of_on {result other : Except LinkError α} {before : List Event}
    {last : Transcript σ} (hrun : Runs exchange line events result after)
    (hother : exchange.on ⟨line, before⟩ = (other, last)) :
    other = result ∧ last = ⟨after, before ++ events⟩ := by
  rw [hrun before] at hother
  exact ⟨(congrArg Prod.fst hother).symm, (congrArg Prod.snd hother).symm⟩

theorem attempt {result : Except LinkError α}
    (hrun : Runs exchange line events result after) :
    Runs (attempt exchange) line events (.ok result) after := by
  intro before
  change (Except.ok (exchange.on ⟨line, before⟩).1, (exchange.on ⟨line, before⟩).2) = _
  rw [hrun before]

theorem lift {act : StateM (Transcript σ) α}
    (hact : ∀ before, act ⟨line, before⟩ = (value, ⟨after, before ++ events⟩)) :
    Runs (liftM act) line events (.ok value) after := by
  intro before
  change (Except.ok (act ⟨line, before⟩).1, (act ⟨line, before⟩).2) = _
  rw [hact before]

theorem note (notice : Notice) :
    Runs (note notice) line [.noted notice] (.ok ()) line :=
  lift fun _ => rfl

theorem openFrame_ok {bytes : Bytes} {frame : Frame}
    (hdecode : Frame.decode bytes = .ok frame) :
    Runs (LinkT.openFrame bytes) line [] (.ok frame) line := by
  unfold LinkT.openFrame
  rw [hdecode]
  exact pure

theorem openFrame_error {bytes : Bytes} {e : FrameError}
    (hdecode : Frame.decode bytes = .error e) :
    Runs (LinkT.openFrame bytes) line
      (if e.warning?.isSome then [.noted (.frameRefused e)] else [])
      (.error (.frame e)) line := by
  unfold LinkT.openFrame
  rw [hdecode]
  by_cases hwarning : e.warning?.isSome = true
  · simp only [hwarning, if_true]
    exact bind (note _) throw
  · simp only [hwarning]
    exact throw

/-! ## Calls of the line -/

theorem observe_ok {made : Call} {act : StateM σ (Except TransportError α)}
    (hact : act line = (.ok value, after)) (before : List Event) :
    Transcript.observe made act ⟨line, before⟩ =
      (.ok value, ⟨after, before ++ [.called made none]⟩) := by
  simp only [Transcript.observe, hact]
  rfl

theorem observe_error {made : Call} {act : StateM σ (Except TransportError α)}
    {e : TransportError} (hact : act line = (.error e, after))
    (before : List Event) :
    Transcript.observe made act ⟨line, before⟩ =
      (.error e, ⟨after, before ++ [.called made (some e)]⟩) := by
  simp only [Transcript.observe, hact]
  rfl

theorem call_ok {made : Call} {act : StateM σ (Except TransportError α)}
    (hact : act line = (.ok value, after)) :
    Runs (call (Transcript.observe made act)) line [.called made none] (.ok value)
      after := by
  intro before
  change ((Transcript.observe made act ⟨line, before⟩).1.mapError LinkError.transport,
    (Transcript.observe made act ⟨line, before⟩).2) = _
  rw [observe_ok hact]
  rfl

theorem call_error {made : Call} {act : StateM σ (Except TransportError α)}
    {e : TransportError} (hact : act line = (.error e, after)) :
    Runs (call (Transcript.observe made act)) line [.called made (some e)]
      (.error (.transport e)) after := by
  intro before
  change ((Transcript.observe made act ⟨line, before⟩).1.mapError LinkError.transport,
    (Transcript.observe made act ⟨line, before⟩).2) = _
  rw [observe_error hact]
  rfl

variable [Transport (StateM σ)]

theorem read {size : Nat} {chunk : Chunk size}
    (hread : (Transport.read size : StateM σ _) line = (.ok chunk, after)) :
    Runs (read size) line [.called (.read size) none] (.ok chunk) after :=
  call_ok hread

theorem read_error {size : Nat} {e : TransportError}
    (hread : (Transport.read size : StateM σ _) line = (.error e, after)) :
    Runs (LinkT.read size) line [.called (.read size) (some e)] (.error (.transport e))
      after :=
  call_error hread

theorem sendFrame {frame : Bytes}
    (hwrite : (Transport.write frame : StateM σ _) line = (.ok (), middle))
    (hflush : (Transport.flush : StateM σ _) middle = (.ok (), after)) :
    Runs (sendFrame frame) line
      [.called (.write frame) none, .called .flush none] (.ok ()) after :=
  bind (call_ok hwrite) (call_ok hflush)

theorem tryRead_error {size : Nat} {e : TransportError}
    (hread : (Transport.read size : StateM σ _) line = (.error e, after)) :
    Runs (liftM (Transport.read size : StateM (Transcript σ) _)) line
      [.called (.read size) (some e)] (.ok (.error e)) after :=
  lift (observe_error hread)

end Runs

end PowerLink.LinkT
