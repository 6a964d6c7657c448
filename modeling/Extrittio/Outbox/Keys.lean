import Extrittio.Events.Ingress
import Extrittio.Library.Template

/-!
What the idempotency key of a delivered action tells about the action. The parts of a key
are joined by colons; digests and rule ids have none, device ids and command names may.
-/
namespace Extrittio

open Template String

namespace PendingAction

/-- Two actions address one target. -/
def SameTarget : PendingAction → PendingAction → Prop
  | .createAlert _ ruleId deviceId .., .createAlert _ ruleId' deviceId' .. =>
    ruleId = ruleId' ∧ deviceId = deviceId'
  | .updateAlertValue _ alertId _, .updateAlertValue _ alertId' _
  | .resolveAlert _ alertId, .resolveAlert _ alertId' => alertId = alertId'
  | .sendWebhook _ url headers payload, .sendWebhook _ url' headers' payload' =>
    url = url' ∧ headers = headers' ∧ payload = payload'
  | .sendCommand _ deviceId command params, .sendCommand _ deviceId' command' params' =>
    deviceId = deviceId' ∧ command = command' ∧ params = params'
  | _, _ => False

/-- Rule ids are UUIDs, written without a colon. -/
def PlainRule : PendingAction → Prop
  | .createAlert _ ruleId .. => ':' ∉ ruleId.toList
  | _ => True

/-- The values of which the key carries a digest. -/
def digested : PendingAction → List Json
  | .sendWebhook _ _ headers payload => [headersJson headers, payload]
  | .sendCommand _ _ _ params => [params]
  | _ => []

/-- No two different values of the actions have one digest. -/
def DigestsApart (p : Platform) (a b : PendingAction) : Prop :=
  ∀ v ∈ a.digested, ∀ w ∈ b.digested, stableJsonHash p v = stableJsonHash p w → v = w

/-- The device id of the second command goes on where the first one ends with a part of
the first command's name. -/
def Straddles (deviceId command deviceId' command' : String) : Prop :=
  ∃ part, deviceId' = deviceId ++ ":" ++ part ∧ command = part ++ ":" ++ command'

/-- Two commands with the same parameters that split one text at different colons. -/
def Ambiguous : PendingAction → PendingAction → Prop
  | .sendCommand _ deviceId command params, .sendCommand _ deviceId' command' params' =>
    params = params' ∧
      (Straddles deviceId command deviceId' command' ∨ Straddles deviceId' command' deviceId command)
  | _, _ => False

variable {deviceId command deviceId' command' : String}

theorem Straddles.ne
    (h : Straddles deviceId command deviceId' command') : deviceId ≠ deviceId' := by
  obtain ⟨part, rfl, -⟩ := h
  intro heq
  have hlength := congrArg (fun text => text.toList.length) heq
  simp [toList_append] at hlength

theorem Straddles.joined (h : Straddles deviceId command deviceId' command') :
    deviceId ++ ":" ++ command = deviceId' ++ ":" ++ command' := by
  obtain ⟨part, rfl, rfl⟩ := h
  simp [append_assoc]

theorem eq_joined {text : String} {before after : List Char}
    (h : text.toList = before ++ ':' :: after) :
    text = ofList before ++ ":" ++ ofList after := by
  rw [← toList_inj, h]
  simp [toList_append]

/-- A device id joined with a command name can be read in one way, or straddles. -/
theorem joined_eq_iff :
    deviceId ++ ":" ++ command = deviceId' ++ ":" ++ command' ↔
      (deviceId = deviceId' ∧ command = command') ∨
        Straddles deviceId command deviceId' command' ∨
        Straddles deviceId' command' deviceId command := by
  constructor
  · intro h
    have hlist : deviceId.toList ++ ':' :: command.toList =
        deviceId'.toList ++ ':' :: command'.toList := by
      simpa [toList_append] using congrArg toList h
    rcases append_separator_eq_iff.mp hlist with ⟨hd, hc⟩ | ⟨m, hd, hc⟩ | ⟨m, hd, hc⟩
    · exact .inl ⟨toList_inj.mp hd, toList_inj.mp hc⟩
    · exact .inr (.inl ⟨ofList m, by simpa using eq_joined hd, by simpa using eq_joined hc⟩)
    · exact .inr (.inr ⟨ofList m, by simpa using eq_joined hd, by simpa using eq_joined hc⟩)
  · rintro (⟨rfl, rfl⟩ | h | h)
    · rfl
    · exact h.joined
    · exact h.joined.symm

end PendingAction

section

open PendingAction

variable {p : Platform} {a b : PendingAction}

theorem colon_toList : ":".toList = [':'] := rfl

variable {device device' command command' : String}

theorem createAlert_key_inj {rule rule' : String} (hrule : ':' ∉ rule.toList)
    (hrule' : ':' ∉ rule'.toList)
    (h : "create-alert:" ++ rule ++ ":" ++ device = "create-alert:" ++ rule' ++ ":" ++ device') :
    rule = rule' ∧ device = device' := by
  simp only [append_assoc, append_right_inj] at h
  simp only [← append_assoc] at h
  exact separator_text_inj colon_toList hrule hrule' h

theorem updateAlertValue_key_inj {alert alert' value value' : String} (hvalue : ':' ∉ value.toList)
    (hvalue' : ':' ∉ value'.toList)
    (h : "update-alert-value:" ++ alert ++ ":" ++ value =
      "update-alert-value:" ++ alert' ++ ":" ++ value') : alert = alert' :=
  (append_right_inj _).mp (text_separator_inj colon_toList hvalue hvalue' h).1

theorem sendWebhook_key_inj {url url' headers headers' payload payload' : String}
    (hheaders : ':' ∉ headers.toList) (hheaders' : ':' ∉ headers'.toList)
    (hpayload : ':' ∉ payload.toList) (hpayload' : ':' ∉ payload'.toList)
    (h : "webhook:" ++ url ++ ":" ++ headers ++ ":" ++ payload =
      "webhook:" ++ url' ++ ":" ++ headers' ++ ":" ++ payload') :
    url = url' ∧ headers = headers' ∧ payload = payload' := by
  obtain ⟨hfront, rfl⟩ := text_separator_inj colon_toList hpayload hpayload' h
  obtain ⟨hurl, rfl⟩ := text_separator_inj colon_toList hheaders hheaders' hfront
  exact ⟨(append_right_inj _).mp hurl, rfl, rfl⟩

theorem sendCommand_key_iff {params params' : String}
    (hparams : ':' ∉ params.toList) (hparams' : ':' ∉ params'.toList) :
    "send-command:" ++ device ++ ":" ++ command ++ ":" ++ params =
        "send-command:" ++ device' ++ ":" ++ command' ++ ":" ++ params' ↔
      device ++ ":" ++ command = device' ++ ":" ++ command' ∧ params = params' := by
  have hassoc : ∀ device command : String, "send-command:" ++ device ++ ":" ++ command =
      "send-command:" ++ (device ++ ":" ++ command) := fun _ _ => by simp only [append_assoc]
  rw [hassoc device, hassoc device']
  constructor
  · intro h
    obtain ⟨hfront, rfl⟩ := text_separator_inj colon_toList hparams hparams' h
    exact ⟨(append_right_inj _).mp hfront, rfl⟩
  · rintro ⟨hjoined, rfl⟩
    rw [hjoined]

theorem headersJson_inj {headers headers' : List (String × String)}
    (h : headersJson headers = headersJson headers') : headers = headers' := by
  have hmap := congrArg Json.textMap h
  rw [textMap_headersJson, textMap_headersJson] at hmap
  exact Option.some.inj hmap

theorem sendCommand_target_iff (hdigest : ∀ text, ':' ∉ (p.sha256Hex text).toList)
    {tenant tenant' : String} {params params' : Json}
    (hapart : stableJsonHash p params = stableJsonHash p params' → params = params') :
    (idempotencyKeyForAction p (.sendCommand tenant device command params) =
        idempotencyKeyForAction p (.sendCommand tenant' device' command' params') →
      device = device' ∧ command = command' ∧ params = params') ↔
    ¬(params = params' ∧
      (Straddles device command device' command' ∨ Straddles device' command' device command)) := by
  have hkey : idempotencyKeyForAction p (.sendCommand tenant device command params) =
      idempotencyKeyForAction p (.sendCommand tenant' device' command' params') ↔
        device ++ ":" ++ command = device' ++ ":" ++ command' ∧
          stableJsonHash p params = stableJsonHash p params' :=
    sendCommand_key_iff (hdigest _) (hdigest _)
  rw [hkey, joined_eq_iff]
  constructor
  · rintro htarget ⟨rfl, hstraddles⟩
    obtain ⟨hdevice, -⟩ := htarget ⟨.inr hstraddles, rfl⟩
    rcases hstraddles with h | h
    · exact h.ne hdevice
    · exact h.ne hdevice.symm
  · rintro hclear ⟨hsame | hstraddles, hparams⟩
    · exact ⟨hsame.1, hsame.2, hapart hparams⟩
    · exact absurd ⟨hapart hparams, hstraddles⟩ hclear

/-- Equal keys of two delivered actions of one kind address one target, unless the actions
are commands that split one text at different colons. -/
theorem target_of_key_iff (hdigest : ∀ text, ':' ∉ (p.sha256Hex text).toList)
    (hdelivery : a.isDelivery = true) (hkind : eventTypeForAction a = eventTypeForAction b)
    (hrule : a.PlainRule) (hrule' : b.PlainRule) (hapart : DigestsApart p a b) :
    (idempotencyKeyForAction p a = idempotencyKeyForAction p b → a.SameTarget b) ↔
      ¬a.Ambiguous b := by
  cases a with
  | updateCooldown | updateZoneEntry => simp [PendingAction.isDelivery] at hdelivery
  | createAlert =>
    cases b with
    | createAlert => exact iff_of_true (createAlert_key_inj hrule hrule') id
    | updateAlertValue | resolveAlert | sendWebhook | sendCommand | updateCooldown
    | updateZoneEntry => simp [eventTypeForAction] at hkind
  | updateAlertValue =>
    cases b with
    | updateAlertValue => exact iff_of_true (updateAlertValue_key_inj (hdigest _) (hdigest _)) id
    | createAlert | resolveAlert | sendWebhook | sendCommand | updateCooldown
    | updateZoneEntry => simp [eventTypeForAction] at hkind
  | resolveAlert =>
    cases b with
    | resolveAlert => exact iff_of_true (String.append_right_inj _).mp id
    | createAlert | updateAlertValue | sendWebhook | sendCommand | updateCooldown
    | updateZoneEntry => simp [eventTypeForAction] at hkind
  | sendWebhook =>
    cases b with
    | sendWebhook =>
      refine iff_of_true (fun h => ?_) id
      obtain ⟨hurl, hheaders, hpayload⟩ :=
        sendWebhook_key_inj (hdigest _) (hdigest _) (hdigest _) (hdigest _) h
      have hmap := hapart _ (.head _) _ (.head _) hheaders
      exact ⟨hurl, headersJson_inj hmap, hapart _ (.tail _ (.head _)) _ (.tail _ (.head _)) hpayload⟩
    | createAlert | updateAlertValue | resolveAlert | sendCommand | updateCooldown
    | updateZoneEntry => simp [eventTypeForAction] at hkind
  | sendCommand =>
    cases b with
    | sendCommand => exact sendCommand_target_iff hdigest (hapart _ (.head _) _ (.head _))
    | createAlert | updateAlertValue | resolveAlert | sendWebhook | updateCooldown
    | updateZoneEntry => simp [eventTypeForAction] at hkind

end

def digesting : Platform :=
  { (default : Platform) with sha256Hex := fun text => String.ofList (text.toList.filter (· ≠ ':')) }

theorem digesting_colon (text : String) : ':' ∉ (digesting.sha256Hex text).toList := by
  simp [digesting]

def commandTo (deviceId command : String) : PendingAction :=
  .sendCommand "tenant" deviceId command .null

/-- Commands of one name for two devices, neither id a continuation of the other. -/
theorem target_of_key_pumps :
    idempotencyKeyForAction digesting (commandTo "pump:1" "stop") ≠
      idempotencyKeyForAction digesting (commandTo "pump:2" "stop") := by
  have hclear : ¬(commandTo "pump:1" "stop").Ambiguous (commandTo "pump:2" "stop") := by
    rintro ⟨-, ⟨part, hdevice, -⟩ | ⟨part, hdevice, -⟩⟩ <;>
      simpa [String.toList_append] using congrArg String.toList hdevice
  have hapart : PendingAction.DigestsApart digesting (commandTo "pump:1" "stop")
      (commandTo "pump:2" "stop") := by
    intro v hv w hw _
    rw [List.mem_singleton.mp hv, List.mem_singleton.mp hw]
  intro hkey
  have hsame := (target_of_key_iff (a := commandTo "pump:1" "stop") (b := commandTo "pump:2" "stop")
    digesting_colon rfl rfl trivial trivial hapart).mpr hclear hkey
  exact absurd hsame.1 (by decide)

/-- The device `pump` is sent `1:stop`, the device `pump:1` is sent `stop`: both ids are accepted,
the keys are one, and the outbox keeps the first command only. -/
theorem straddling_commands_collide :
    deviceIdentity "tenant" "pump" = .ok () ∧ deviceIdentity "tenant" "pump:1" = .ok () ∧
    idempotencyKeyForAction digesting (commandTo "pump" "1:stop") =
      idempotencyKeyForAction digesting (commandTo "pump:1" "stop") ∧
    ¬(commandTo "pump" "1:stop").SameTarget (commandTo "pump:1" "stop") ∧
    ((Outbox.enqueueActionsInTransaction digesting (fun n => toString n) 0
      [commandTo "pump" "1:stop", commandTo "pump:1" "stop"] Outbox.empty).toOption.map
        fun enqueued => (enqueued.1.table.rows.map (·.aggregateId), enqueued.2)) =
      some (["pump:1:stop"], 1) := by
  refine ⟨by decide, by decide, by decide, fun h => absurd h.1 (by decide), by decide⟩

end Extrittio
