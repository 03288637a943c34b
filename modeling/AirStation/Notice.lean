import AirStation.Fault
import AirStation.Publisher.Decision
import AirStation.Publisher.Metric
import AirStation.Text.Hex

/-! Everything the station logs: what happened, how severe it is, and its wording. -/

namespace AirStation

inductive Level where
  | error | warn | info | debug | trace
  deriving DecidableEq

namespace Level

/-- Smaller is more severe. -/
def rank : Level → Nat
  | .error => 1
  | .warn => 2
  | .info => 3
  | .debug => 4
  | .trace => 5

def name : Level → String
  | .error => "ERROR"
  | .warn => "WARN"
  | .info => "INFO"
  | .debug => "DEBUG"
  | .trace => "TRACE"

end Level

/-- The longest topic in bytes. -/
def topicCapacity : Nat := 64

/-- The longest payload in bytes. -/
def payloadCapacity : Nat := 16

inductive Notice where
  -- the serial line
  | bytesRead (count filled capacity : Nat)
  | nothingRead
  | readFault (fault : PortFault)
  | readExpired
  | staleBytesDropped (count : Nat)
  -- sensors on a serial line
  | exchangeFailed (part : String) (cause : TransportError)
  | startupSent (part : String)
  | frameReceived (part : String) (bytes : Bytes)
  | frameShort (part : String) (received expected : Nat)
  -- the barometer
  | chipIdUnread (fault : BusFault)
  | chipIdForeign (id : UInt8)
  | resetFailed (fault : BusFault)
  | calibrationUnread (fault : BusFault)
  | configured (ctrlMeas config : UInt8)
  | triggerFailed (fault : BusFault)
  | statusUnread (fault : BusFault)
  | conversionEndless
  | dataUnread (fault : BusFault)
  | dataRead (bytes : Bytes)
  -- acquisition
  | bringUpFailed (part : String) (cause : SensorError)
  | acquisitionStarted (part : String)
  | measured (part : String) (reading : Reading)
  | degraded (cause : SensorError)
  | lockBusy (failures : UInt8)
  | slotLost (part : String) (cause : LockExhausted)
  | acquisitionStopped (quantity : Quantity) (cause : AcquisitionError)
  -- connectivity
  | linkConnecting
  | linkReconnecting (retries : UInt8)
  | linkGivenUp
  | linkRearmed
  | addressAcquired
  | addressLost
  | brokerConnected
  | brokerDisconnected
  | brokerFailed
  | brokerPublished (id : UInt16)
  -- the publisher
  | publisherStarted
  | decided (flags : Flags) (action : Publisher.Action)
  | sessionStopping
  | sessionStarting
  | slotBusy (metric : Metric)
  | payloadTooLong (metric : Metric)
  | topicTooLong (metric : Metric)
  | rejected (cause : BrokerError) (topic : String)
  | published (topic payload : String)
  | readingsStale (quantity : Quantity) (cycles : UInt8)
  | readingsResumed (quantity : Quantity)
  -- simulated devices and network
  | simulatedSilence (device : String) (request : UInt32)
  | simulatedCorruption (device : String) (request : UInt32)
  | simulatedCommand (device : String) (bytes : Bytes)
  | simulatedReset
  | simulatedDrop (sample : UInt32)
  | simulatedOutage
  | simulatedPublish (topic payload : String)
  | simulatorStarted (path deviceId : String)
  -- the uplink
  | startUnqueued (cause : BrokerError)
  | sessionOpening (host : String) (port : UInt16)
  | sessionEnded (cause : SessionError)
  | sessionMissing (topic : String)
  | sessionStands
  | disconnectFault (cause : ApiFault)
  | radioLost (reason : Nat)
  | radioUnconfigured (cause : ApiFault)
  | radioUnstarted (cause : ApiFault)
  | radioStarted (ssid : String)
  | connectFault (cause : ApiFault)
  | cooldownOver
  | addressAssigned (address : String)

namespace Notice

def level : Notice → Level
  | .bytesRead .. | .nothingRead | .readExpired | .staleBytesDropped .. | .frameReceived ..
  | .dataRead .. => .trace
  | .readFault .. | .exchangeFailed .. | .measured .. | .brokerPublished .. | .decided ..
  | .published .. | .simulatedCommand .. | .sessionMissing .. | .sessionStands
  | .disconnectFault .. | .radioLost .. | .connectFault .. => .debug
  | .startupSent .. | .configured .. | .acquisitionStarted .. | .linkConnecting
  | .linkRearmed | .addressAcquired | .brokerConnected | .brokerDisconnected
  | .publisherStarted | .sessionStopping | .sessionStarting | .readingsResumed ..
  | .simulatedSilence .. | .simulatedCorruption .. | .simulatedReset | .simulatedDrop ..
  | .simulatedPublish .. | .simulatorStarted .. | .sessionOpening .. | .radioStarted ..
  | .addressAssigned .. => .info
  | .frameShort .. | .degraded .. | .lockBusy .. | .linkReconnecting .. | .addressLost
  | .slotBusy .. | .payloadTooLong .. | .topicTooLong .. | .rejected .. | .readingsStale ..
  | .simulatedOutage | .startUnqueued .. | .sessionEnded .. | .cooldownOver => .warn
  | .chipIdUnread .. | .chipIdForeign .. | .resetFailed .. | .calibrationUnread ..
  | .triggerFailed .. | .statusUnread .. | .conversionEndless | .dataUnread ..
  | .bringUpFailed .. | .slotLost .. | .acquisitionStopped .. | .linkGivenUp
  | .brokerFailed | .radioUnconfigured .. | .radioUnstarted .. => .error

def text : Notice → String
  | .bytesRead count filled capacity => s!"read {count} bytes, {filled}/{capacity}"
  | .nothingRead => "read returned no data"
  | .readFault fault => s!"read failed: {fault.name}"
  | .readExpired => "read timed out"
  | .staleBytesDropped count => s!"discarded {count} stale bytes"
  | .exchangeFailed part cause => s!"{part}: {cause.message}"
  | .startupSent part => s!"{part}: startup command sent"
  | .frameReceived part bytes => s!"{part}: frame {Hex.list bytes}"
  | .frameShort part received expected =>
    s!"{part}: unable to read a full frame ({received}/{expected} bytes)"
  | .chipIdUnread fault => s!"BMP280 chip id read failed: {fault.name}"
  | .chipIdForeign id => s!"BMP280: unexpected chip id {Hex.marked 2 id.toNat}"
  | .resetFailed fault => s!"BMP280 soft reset failed: {fault.name}"
  | .calibrationUnread fault => s!"BMP280 calibration read failed: {fault.name}"
  | .configured ctrlMeas config =>
    s!"BMP280: configured (ctrl_meas={Hex.marked 2 ctrlMeas.toNat}, " ++
      s!"config={Hex.marked 2 config.toNat})"
  | .triggerFailed fault => s!"BMP280 forced measurement trigger failed: {fault.name}"
  | .statusUnread fault => s!"BMP280 status read failed: {fault.name}"
  | .conversionEndless => "BMP280: forced conversion did not finish"
  | .dataUnread fault => s!"BMP280 data read failed: {fault.name}"
  | .dataRead bytes => s!"BMP280: data {Hex.list bytes}"
  | .bringUpFailed part cause => s!"{part}: {cause.message}"
  | .acquisitionStarted part => s!"{part}: acquisition started"
  | .measured part reading => s!"{part}: {reading.describe}"
  | .degraded cause => s!"{cause.message}; storing zero reading"
  | .lockBusy failures => s!"slot lock busy ({failures} failed attempts)"
  | .slotLost part cause => s!"{part}: {cause.message}, stopping acquisition"
  | .acquisitionStopped quantity cause =>
    s!"{quantity.name} acquisition stopped: {cause.message}"
  | .linkConnecting => "link: connecting to access point"
  | .linkReconnecting retries => s!"link: disconnected, reconnecting ({retries})"
  | .linkGivenUp => "link: reconnect budget exhausted, giving up"
  | .linkRearmed => "link: retry budget re-armed"
  | .addressAcquired => "link: address acquired"
  | .addressLost => "link: address lost"
  | .brokerConnected => "broker: connected"
  | .brokerDisconnected => "broker: disconnected"
  | .brokerFailed => "broker: session error"
  | .brokerPublished id => s!"broker: published, msg_id={id}"
  | .publisherStarted => "publisher started"
  | .decided flags action => s!"publisher: {flags.describe} -> {action.name}"
  | .sessionStopping => "publisher: stopping broker session"
  | .sessionStarting => "publisher: starting broker session"
  | .slotBusy metric => s!"publisher: {metric.source.name} slot busy, skipping {metric.name}"
  | .payloadTooLong metric => s!"publisher: {metric.name} payload does not fit"
  | .topicTooLong metric =>
    s!"publisher: topic for {metric.name} exceeds {topicCapacity} bytes"
  | .rejected cause topic =>
    s!"publisher: {cause.message} on {topic}, dropping remaining messages"
  | .published topic payload => s!"publisher: {topic} = {payload}"
  | .readingsStale quantity cycles =>
    s!"publisher: {quantity.name} readings have not changed for {cycles} cycles"
  | .readingsResumed quantity => s!"publisher: {quantity.name} readings resumed"
  | .simulatedSilence device request => s!"{device}: staying silent for request {request}"
  | .simulatedCorruption device request => s!"{device}: corrupting response {request}"
  | .simulatedCommand device bytes => s!"{device}: command {Hex.listUpper bytes}"
  | .simulatedReset => "sim BMP280: reset"
  | .simulatedDrop sample => s!"sim BMP280: dropping sample {sample}"
  | .simulatedOutage => "sim link: access point went away"
  | .simulatedPublish topic payload => s!"PUBLISH {topic} = {payload}"
  | .simulatorStarted path deviceId =>
    s!"airwatch simulator: publishing under {path}{deviceId}"
  | .startUnqueued cause => s!"broker: start not queued: {cause.message}"
  | .sessionOpening host port => s!"broker: connecting to {host}:{port}"
  | .sessionEnded cause => s!"broker: {cause.message}"
  | .sessionMissing topic => s!"broker: no session, dropping {topic}"
  | .sessionStands => "broker: session already up"
  | .disconnectFault cause => s!"broker: disconnect: {cause.name}"
  | .radioLost reason => s!"link: disconnect reason {reason}"
  | .radioUnconfigured cause => s!"link: wifi set_config failed: {cause.name}"
  | .radioUnstarted cause => s!"link: wifi start failed: {cause.name}"
  | .radioStarted ssid => s!"link: station started, ssid {ssid}"
  | .connectFault cause => s!"link: connect attempt failed: {cause.name}"
  | .cooldownOver => "link: still failed after cooldown, starting over"
  | .addressAssigned address => s!"link: address {address}"

end Notice

end AirStation
