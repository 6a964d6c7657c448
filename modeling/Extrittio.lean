import Extrittio.RuleEngine.Index
import Extrittio.Outbox.Replay
import Extrittio.Delivery.Redelivery
import Extrittio.Cooldowns
import Extrittio.Zones
import Extrittio.Delivery.Resolution
import Extrittio.Delivery.Sends
import Extrittio.Delivery.LastValue
import Extrittio.Contract.Bounds
import Extrittio.Contract.Commands
import Extrittio.Contract.Client
import Extrittio.Blueprints.Publication
import Extrittio.Presence.Spelling
import Extrittio.Firmware.Deletion
import Extrittio.Firmware.Resets
import Extrittio.NativeOta.EmbeddedId
import Extrittio.NativeOta.Watchdog
import Extrittio.Accounts.Sessions
import Extrittio.Maintenance.Atomicity
import Extrittio.Devices.Agreement
import Extrittio.RuleEngine.Number
import Extrittio.Analytics.Window
import Extrittio.Contract.Selectors
import Extrittio.Events.Freshness
import Extrittio.Contract.Revisions
import Extrittio.Analytics.Budget
import Extrittio.Contract.Hash
import Extrittio.Firmware.Manifest
import Extrittio.Contract.Digest
import Extrittio.RuleEngine.Polygon
import Extrittio.OpenThread.Networks
import Extrittio.OpenThread.Controller
import Extrittio.NativeOta.Esp32
import Extrittio.RateLimiter
