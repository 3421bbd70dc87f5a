import RoverLink.Cnc.Wait
import RoverLink.Link.Ports
import RoverLink.Link.Serial
import RoverLink.Proofs.Checksum.Detection
import RoverLink.Proofs.Cnc.Controller
import RoverLink.Proofs.Cnc.Limits
import RoverLink.Proofs.Cnc.Motion
import RoverLink.Proofs.Cnc.Overflow
import RoverLink.Proofs.Codec.Agreement
import RoverLink.Proofs.Codec.Bursts
import RoverLink.Proofs.Codec.Corruption
import RoverLink.Proofs.Codec.Offsets
import RoverLink.Proofs.Codec.Requests
import RoverLink.Proofs.Command.Grammar
import RoverLink.Proofs.Device.Outputs
import RoverLink.Proofs.Device.Refusal
import RoverLink.Proofs.Motor.Resolution
import RoverLink.Proofs.Motor.Signals
import RoverLink.Proofs.Reply.Grammar
import RoverLink.Proofs.Reply.Integers
import RoverLink.Proofs.Reply.Truncation
import RoverLink.Proofs.Session.History
import RoverLink.Proofs.Session.Noise
import RoverLink.Proofs.Session.Numbered
import RoverLink.Proofs.Session.Outcome
import RoverLink.Proofs.Session.Provenance
import RoverLink.Proofs.Session.Reception
import RoverLink.Proofs.Session.Record
import RoverLink.Proofs.Session.Recurrence
import RoverLink.Proofs.Settings.Saved
import RoverLink.Proofs.Stream.Conservation
import RoverLink.Proofs.Stream.Lines
import RoverLink.Proofs.Stream.Solicited
import RoverLink.Proofs.Time.Sharing
import RoverLink.Settings.File
import RoverLink.Stream.Scripted
