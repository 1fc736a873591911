import ClassMesh.Capture.FrameNumbers
import ClassMesh.Network.FrameSender
import ClassMesh.Network.Reassembly

namespace ClassMesh

open Foundation

/-- The GPU conversion and encoding of one pipeline. `none` is a presentation error. -/
structure PresentationPipeline (P F : Type) where
  fromFirstFrame : F → Option P
  processFrame : P → CapturedFrameMeta → F → Option (P × List SharedEncodedFrame)

/-- What comes out has the ids of frames that went in, in their order. A frame may be dropped, and it may stay inside
for a while; `held` are the ids of those that are inside. -/
structure PresentationPipeline.InOrder {P F : Type} (pipeline : PresentationPipeline P F) (held : P → List UInt64) :
    Prop where
  fresh {frame state} : pipeline.fromFirstFrame frame = some state → held state = []
  step {state info frame state' outputs} : pipeline.processFrame state info frame = some (state', outputs) →
    (outputs.map (·.info.frameId) ++ held state').Sublist (held state ++ [info.frameId])

inductive FocusedUdpStreamError
  | presentation
  | send (error : UdpSendError)
deriving DecidableEq

/-- Receiver feedback, and with it the queue of requested keyframes, plays no part here. -/
structure FocusedUdpStream (P : Type) where
  sender : SequencedSender
  pipeline : Option P := none

namespace FocusedUdpStream

variable {P F : Type}

def resetPipeline (stream : FocusedUdpStream P) : FocusedUdpStream P := { stream with pipeline := none }

def processFrame (pipeline : PresentationPipeline P F) (stream : FocusedUdpStream P) (info : CapturedFrameMeta)
    (frame : F) : Except FocusedUdpStreamError (FocusedUdpStream P × List SentFrame) :=
  match stream.pipeline.or (pipeline.fromFirstFrame frame) with
  | none => .error .presentation
  | some state =>
    match pipeline.processFrame state info frame with
    | none => .error .presentation
    | some (state, outputs) =>
      match stream.sender.sendFrames outputs with
      | .error error => .error (.send error)
      | .ok (sender, sent) => .ok ({ sender := sender, pipeline := some state }, sent)

end FocusedUdpStream

/-- A capture and the stream that its frames go to. -/
structure LiveStream (P F : Type) where
  capture : DxgiCapture F
  stream : FocusedUdpStream P

/-- One round of the worker loop. The loop gives up a stream that fails to send; `none` stands for that. -/
def LiveStream.step {P F : Type} (pipeline : PresentationPipeline P F) (live : LiveStream P F)
    (input : CaptureInput F) : Option (LiveStream P F × CaptureReply F × List SentFrame) :=
  let (capture, reply) := DxgiCapture.step live.capture input
  match reply with
  | .started _ => some (⟨capture, live.stream⟩, reply, [])
  | .polled .noFrame => some (⟨capture, live.stream⟩, reply, [])
  | .polled (.frame info frame) =>
    match live.stream.processFrame pipeline info frame with
    | .error _ => none
    | .ok (stream, sent) => some (⟨capture, stream⟩, reply, sent)
  | .polled _ => some (⟨capture, live.stream.resetPipeline⟩, reply, [])

end ClassMesh
