import AirStation.Barometer.Registers
import AirStation.Notice
import AirStation.Record.Shape

/-! The whole configuration as one record, with the limits that are built in. -/

namespace AirStation

open Stored

def Pace.outline (p : Pace) : Datum :=
  .record [("interval_ms", .int p.interval), ("lock_ms", .int p.lockLimit),
    ("lock_budget", .int p.lockRetries.toNat)]

def PublisherConfig.outline (c : PublisherConfig) : Datum :=
  .record [("poll_ms", .int c.pollInterval), ("lock_ms", .int c.lockLimit),
    ("prefix", .text c.topics.path), ("device_id", .text c.topics.deviceId),
    ("unit", save c.unit), ("stale_after", .int c.staleAfter.toNat)]

def Config.outline (c : Config) : Datum :=
  .record [("retry_budget", .int defaultRetries.toNat),
    ("link_max_retries", .int defaultLinkRetries.toNat),
    ("internet", save c.internet), ("broker", save c.broker),
    ("link", .record [("max_retries", .int c.link.maxRetries.toNat),
      ("failure_cooldown_ms", .int c.link.cooldown)]),
    ("publisher", c.publisher.outline),
    ("co2", c.co2.outline), ("dust", c.dust.outline), ("pressure", c.pressure.outline),
    ("serial", .record [("timeout_ms", .int c.serial.limit),
      ("budget", .int c.serial.retries.toNat)]),
    ("correction", save c.correction), ("topic_capacity", .int topicCapacity),
    ("payload_capacity", .int payloadCapacity),
    ("bmp280_address", .int Barometer.busAddress.toNat)]

end AirStation
