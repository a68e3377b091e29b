import PowerLink.Codec.Error
import PowerLink.Frame.ReturnCode
import PowerLink.Line.Transport

/-!
# Failed exchanges

Every reason why a request is not sent, received or answered. A device reports the
reasons that lie with a request by a return code; what lies with the line or with the
other end has none.
-/

namespace PowerLink

inductive LinkError
  | frame (e : FrameError)
  /-- The values of a reply do not fit their fields. -/
  | badReply (e : CodecError)
  | unknownId (id1 id2 : UInt8)
  /-- The values of a received reply cannot be decoded. -/
  | invalidData (e : CodecError)
  /-- The request is known, but its params cannot be decoded. -/
  | invalidParams (id1 id2 : UInt8) (e : CodecError)
  /-- The device answered with a return code other than success. -/
  | rejected (code : ReturnCode)
  | transport (e : TransportError)

namespace LinkError

def message : LinkError → String
  | .frame e => e.message
  | .badReply e => s!"Format error: {e.message}"
  | .unknownId id1 id2 =>
    "Invalid id: cid1 = " ++ Text.hexByte id1 ++ ", cid2 = " ++ Text.hexByte id2
  | .invalidData e => s!"Invalid data: {e.message}"
  | .invalidParams id1 id2 e =>
    "Invalid params for cid1 = " ++ Text.hexByte id1 ++ ", cid2 = " ++
      Text.hexByte id2 ++ s!": {e.message}"
  | .rejected code => s!"Device returned {code.name}"
  | .transport e => s!"Transport error: {e.message}"

/-- The messages of the error and of the errors that caused it, outermost first. -/
def chain (e : LinkError) : List String :=
  e.message ::
    match e with
    | .invalidData cause | .invalidParams _ _ cause => [cause.message]
    | .transport cause => cause.message :: cause.cause?.toList
    | _ => []

/-- The return code with which a device reports the failure. -/
def returnCode? : LinkError → Option ReturnCode
  | .frame e =>
    match e.classOf with
    | .format => some .formatError
    | .checksum => some .checksumError
    | .lengthChecksum => some .lengthChecksumError
  | .badReply _ => some .formatError
  | .unknownId .. => some .invalidId
  | .invalidData _ | .invalidParams .. => some .invalidData
  | .rejected _ | .transport _ => none

/-- The first identifier of the failed request, where the frame was good enough to
tell it. -/
def requestId1? : LinkError → Option UInt8
  | .unknownId id1 _ | .invalidParams id1 _ _ => some id1
  | _ => none

end LinkError

end PowerLink
