import PowerLink.Proofs.StreamFraming

/-!
# Requests that come one after the other

A device makes one call for each packet on the line, and goes on whatever comes of a
call. A packet is taken off the line whole before anything about it is checked, so what
a call comes to is settled by its own packet, whatever stands before or behind it.
-/

namespace PowerLink

open LinkT

namespace Endpoint

/-- The results of so many calls for a request, made one after the other. -/
def receiveEach {m : Type → Type} [Monad m] [Transport m] [Journal m]
    (endpoint : Endpoint) : Nat → LinkT m (List (Except LinkError (Command × Record)))
  | 0 => return []
  | calls + 1 => do
    let result ← attempt endpoint.receive
    return result :: (← endpoint.receiveEach calls)

variable {endpoint : Endpoint}

/-! ## One packet -/

theorem exists_runs_resolve (endpoint : Endpoint) (bytes : Bytes) :
    ∃ events result, ∀ wire : Wire,
      Runs (endpoint.resolve bytes) wire events result wire := by
  cases hframe : Frame.decode bytes with
  | error e => exact ⟨_, _, fun _ => runs_resolve_refused hframe⟩
  | ok frame =>
      cases hids : endpoint.registry.byIds? frame.id1 frame.id2 with
      | none => exact ⟨_, _, fun _ => runs_resolve_unknown hframe hids⟩
      | some command =>
          cases hparams : Payload.decode command.params frame.info with
          | error e => exact ⟨_, _, fun _ => runs_resolve_misfit hframe hids hparams⟩
          | ok record => exact ⟨_, _, fun _ => runs_resolve hframe hids hparams⟩

/-- A call comes to the same in front of any tail as it does on the packet alone. -/
theorem runs_receive_alone (endpoint : Endpoint) (packet : Packet) (alone drained : Bool)
    (tail : Bytes) :
    Runs endpoint.receive (⟨packet.toBytes ++ tail, true, drained⟩ : Wire)
      (endpoint.receiveFrom packet.toBytes alone).2.events
      (endpoint.receiveFrom packet.toBytes alone).1 ⟨tail, true, drained⟩ := by
  obtain ⟨events, result, hresolve⟩ := exists_runs_resolve endpoint packet.toBytes
  have hreceive (tail : Bytes) (drained : Bool) :
      Runs endpoint.receive (⟨packet.toBytes ++ tail, true, drained⟩ : Wire)
        (Event.reads [1, 4, 2, packet.info.length, 2, 1] ++ events) result
        ⟨tail, true, drained⟩ :=
    runs_receive Wire.isReadOf_self (hresolve ⟨tail, true, drained⟩)
  have halone := hreceive [] alone []
  rw [List.append_nil] at halone
  have hevents : (endpoint.receiveFrom packet.toBytes alone).2.events =
      Event.reads [1, 4, 2, packet.info.length, 2, 1] ++ events :=
    congrArg (fun run => run.2.events) halone
  have hresult : (endpoint.receiveFrom packet.toBytes alone).1 = result :=
    congrArg Prod.fst halone
  rw [hevents, hresult]
  exact hreceive tail drained

/-! ## All packets -/

theorem runs_receiveEach_succ {wire middle after : Wire} {events later : List Event}
    {result : Except LinkError (Command × Record)} {calls : Nat}
    {results : List (Except LinkError (Command × Record))}
    (hfirst : Runs endpoint.receive wire events result middle)
    (hothers : Runs (endpoint.receiveEach calls) middle later (.ok results) after) :
    Runs (endpoint.receiveEach (calls + 1)) wire (events ++ later)
      (.ok (result :: results)) after := by
  have hcons : Runs (do return result :: (← endpoint.receiveEach calls)) middle
      (later ++ []) (.ok (result :: results)) after :=
    Runs.bind hothers Runs.pure
  rw [List.append_nil] at hcons
  exact Runs.bind hfirst.attempt hcons

theorem runs_receiveEach (endpoint : Endpoint) (packets : List Packet)
    (alone drained : Bool) (tail : Bytes) :
    Runs (endpoint.receiveEach packets.length)
      (⟨packets.flatMap Packet.toBytes ++ tail, true, drained⟩ : Wire)
      (packets.flatMap fun packet =>
        (endpoint.receiveFrom packet.toBytes alone).2.events)
      (.ok (packets.map fun packet => (endpoint.receiveFrom packet.toBytes alone).1))
      ⟨tail, true, drained⟩ := by
  induction packets with
  | nil => exact Runs.pure
  | cons packet packets ih =>
      have hfirst := runs_receive_alone endpoint packet alone drained
        (packets.flatMap Packet.toBytes ++ tail)
      rw [← List.append_assoc] at hfirst
      exact runs_receiveEach_succ hfirst ih

/-- Of packets that stand on an open wire one after the other, in front of whatever tail,
each comes to what it comes to as the only thing on a wire: the same command and params or
the same failure, found with the same reads. The tail is left as it was. -/
theorem receiveEach_undisturbed (endpoint : Endpoint) (packets : List Packet)
    (tail : Bytes) (alone drained : Bool) :
    (endpoint.receiveEach packets.length).on (Transcript.start
        (⟨packets.flatMap Packet.toBytes ++ tail, true, drained⟩ : Wire)) =
      (.ok (packets.map fun packet => (endpoint.receiveFrom packet.toBytes alone).1),
        ⟨⟨tail, true, drained⟩, packets.flatMap fun packet =>
          (endpoint.receiveFrom packet.toBytes alone).2.events⟩) :=
  runs_receiveEach endpoint packets alone drained tail []

end Endpoint

end PowerLink
