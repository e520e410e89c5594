import MirrorGate.Journal.Wedge
import MirrorGate.Recovery.Issue
import MirrorGate.Recovery.Protection
import MirrorGate.Control.Finality
import MirrorGate.Worker.Crossing
import MirrorGate.Sdk.Registration
import MirrorGate.Control.Dispatch
import MirrorGate.Worker.Teardown
import MirrorGate.Backend.Reports
import MirrorGate.Codec.ControlNumber
import MirrorGate.Codec.WorkerNumber
import MirrorGate.Codec.ValueAgreement
import MirrorGate.Worker.Frames
import MirrorGate.Service.Closing
import MirrorGate.Backend.Broker
import MirrorGate.Backend.Frozen
import MirrorGate.Control.Tasks
