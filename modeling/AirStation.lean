import AirStation.Board.Transcript
import AirStation.Main
import AirStation.Record.Outline
import AirStation.Rig.Chip
import AirStation.Rig.Trial
import AirStation.Rig.World
import AirStation.Proofs.Connectivity.Events
import AirStation.Proofs.Activity
import AirStation.Proofs.Publisher.Cycle
import AirStation.Proofs.Publisher.Diary
import AirStation.Proofs.Publisher.Requests
import AirStation.Proofs.Publisher.Teardown
import AirStation.Proofs.Publisher.Run
import AirStation.Proofs.Uplink.Dispatch
import AirStation.Proofs.Uplink.System
import AirStation.Proofs.Uplink.Truthful
import AirStation.Proofs.Serial.FrameRead
import AirStation.Proofs.Acquisition.Exchange
import AirStation.Proofs.Acquisition.Provenance
import AirStation.Proofs.Attempts
import AirStation.Proofs.Connectivity.Reconnects
import AirStation.Proofs.Connectivity.Waiting
import AirStation.Proofs.Acquisition.Lockstep
import AirStation.Proofs.Acquisition.Cycles
import AirStation.Proofs.Entries
import AirStation.Proofs.Uplink.Chronicle
import AirStation.Proofs.Uplink.Steps
import AirStation.Proofs.Uplink.Messages
import AirStation.Proofs.Uplink.Stops
import AirStation.Proofs.Publisher.Ghost
import AirStation.Proofs.Uplink.Erasure
import AirStation.Proofs.Uplink.Timeline
import AirStation.Proofs.Uplink.Joining
import AirStation.Proofs.Uplink.Cooldown
import AirStation.Proofs.Connectivity.Independence
import AirStation.Proofs.Serial.Scan
import AirStation.Proofs.Serial.ReceiveBuffer
import AirStation.Proofs.Telemetry.Calls
import AirStation.Proofs.Telemetry.Atomic
import AirStation.Proofs.Telemetry.Updates
import AirStation.Proofs.Telemetry.Fields
import AirStation.Proofs.Frame.Sealed
import AirStation.Proofs.Timed.Runs
import AirStation.Proofs.Simulation.Line
import AirStation.Proofs.Simulation.Cycle
import AirStation.Proofs.Simulation.Schedule
import AirStation.Proofs.Publisher.Outbox
import AirStation.Proofs.Uplink.Queueing
import AirStation.Proofs.Publisher.Reports
import AirStation.Proofs.Sensor.Conversion
import AirStation.Proofs.Frame.Checks
import AirStation.Proofs.Serial.Command
import AirStation.Proofs.Sensor.BringUp
import AirStation.Proofs.Barometer.Words
import AirStation.Proofs.Board.Discard
