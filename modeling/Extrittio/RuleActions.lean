import Extrittio.RuleSnapshots

/-!
Rule actions as outbox events: their metadata, the versioned payload envelope
and its decoder. Enums are externally tagged; objects are in key order.
-/
namespace Extrittio

structure NewOutboxEventRecord where
  id : String
  tenantId : String
  eventType : String
  aggregateType : String
  aggregateId : String
  idempotencyKey : Option String
  payload : Json
  deriving DecidableEq

def tenantIdForAction : PendingAction → String
  | .createAlert tenantId .. | .updateAlertValue tenantId .. | .resolveAlert tenantId ..
  | .sendWebhook tenantId .. | .sendCommand tenantId .. | .updateCooldown tenantId ..
  | .updateZoneEntry tenantId .. => tenantId

def eventTypeForAction : PendingAction → String
  | .createAlert .. => "rule.create_alert"
  | .updateAlertValue .. => "rule.update_alert_value"
  | .resolveAlert .. => "rule.resolve_alert"
  | .sendWebhook .. => "rule.send_webhook"
  | .sendCommand .. => "rule.send_command"
  | .updateCooldown .. => "rule.update_cooldown"
  | .updateZoneEntry .. => "rule.update_zone_entry"

def aggregateTypeForAction : PendingAction → String
  | .createAlert .. | .updateAlertValue .. | .resolveAlert .. => "alert"
  | .sendWebhook .. => "webhook"
  | .sendCommand .. => "command"
  | .updateCooldown .. => "rule_cooldown"
  | .updateZoneEntry .. => "zone_entry"

def aggregateIdForAction : PendingAction → String
  | .createAlert _ ruleId deviceId .. | .updateCooldown _ ruleId deviceId ..
  | .updateZoneEntry _ ruleId deviceId .. => ruleId ++ ":" ++ deviceId
  | .updateAlertValue _ alertId _ | .resolveAlert _ alertId => alertId
  | .sendWebhook _ url .. => url
  | .sendCommand _ deviceId command _ => deviceId ++ ":" ++ command

def headersJson (headers : List (String × String)) : Json :=
  .object (headers.map fun h => (h.1, .string h.2))

def stableHash (p : Platform) (text : String) : String := p.sha256Hex text

def stableJsonHash (p : Platform) (value : Json) : String := stableHash p (p.jsonText value)

def idempotencyKeyForAction (p : Platform) : PendingAction → String
  | .createAlert _ ruleId deviceId .. => "create-alert:" ++ ruleId ++ ":" ++ deviceId
  | .updateAlertValue _ alertId triggeredValue =>
    "update-alert-value:" ++ alertId ++ ":" ++ stableHash p triggeredValue
  | .resolveAlert _ alertId => "resolve-alert:" ++ alertId
  | .sendWebhook _ url headers payload =>
    "webhook:" ++ url ++ ":" ++ stableJsonHash p (headersJson headers) ++ ":" ++
      stableJsonHash p payload
  | .sendCommand _ deviceId command params =>
    "send-command:" ++ deviceId ++ ":" ++ command ++ ":" ++ stableJsonHash p params
  | .updateCooldown _ ruleId deviceId _ => "update-cooldown:" ++ ruleId ++ ":" ++ deviceId
  | .updateZoneEntry _ ruleId deviceId _ => "update-zone-entry:" ++ ruleId ++ ":" ++ deviceId

def actionToValue (p : Platform) : PendingAction → Json
  | .createAlert tenantId ruleId deviceId severity message triggeredValue =>
    .object [("CreateAlert", .object [("device_id", .string deviceId), ("message", .string message),
      ("rule_id", .string ruleId), ("severity", .string severity), ("tenant_id", .string tenantId),
      ("triggered_value", Json.ofOption triggeredValue)])]
  | .updateAlertValue tenantId alertId triggeredValue =>
    .object [("UpdateAlertValue", .object [("alert_id", .string alertId),
      ("tenant_id", .string tenantId), ("triggered_value", .string triggeredValue)])]
  | .resolveAlert tenantId alertId =>
    .object [("ResolveAlert", .object [("alert_id", .string alertId),
      ("tenant_id", .string tenantId)])]
  | .sendWebhook tenantId url headers payload =>
    .object [("SendWebhook", .object [("headers", headersJson headers), ("payload", payload),
      ("tenant_id", .string tenantId), ("url", .string url)])]
  | .sendCommand tenantId deviceId command params =>
    .object [("SendCommand", .object [("command", .string command), ("device_id", .string deviceId),
      ("params", params), ("tenant_id", .string tenantId)])]
  | .updateCooldown tenantId ruleId deviceId firedAt =>
    .object [("UpdateCooldown", .object [("device_id", .string deviceId),
      ("fired_at", .string (p.naiveText firedAt)), ("rule_id", .string ruleId),
      ("tenant_id", .string tenantId)])]
  | .updateZoneEntry tenantId ruleId deviceId enteredAt =>
    .object [("UpdateZoneEntry", .object [("device_id", .string deviceId),
      ("entered_at", Json.ofOption (enteredAt.map p.naiveText)), ("rule_id", .string ruleId),
      ("tenant_id", .string tenantId)])]

/-- The event of an action under a fresh id. -/
def eventForAction (p : Platform) (uuid : String) (action : PendingAction) :
    NewOutboxEventRecord where
  id := uuid
  tenantId := tenantIdForAction action
  eventType := eventTypeForAction action
  aggregateType := aggregateTypeForAction action
  aggregateId := aggregateIdForAction action
  idempotencyKey := some (idempotencyKeyForAction p action)
  payload := .object [("action", actionToValue p action), ("version", .integer 1)]

/-- Runtime state is not delivered. -/
def outboxEventForAction (p : Platform) (uuid : String) (action : PendingAction) :
    Except String NewOutboxEventRecord :=
  if action.isDelivery then .ok (eventForAction p uuid action)
  else .error "runtime state is not a deliverable action"

namespace Json

def textField (fields : Json) (name : String) : Option String := (fields.get name).bind asStr

def optionField (fields : Json) (name : String) : Option (Option String) :=
  match fields.get name with
  | none | some .null => some none
  | some (.string value) => some (some value)
  | some _ => none

def textMap : Json → Option (List (String × String))
  | .object fields => fields.mapM fun f => f.2.asStr.map fun value => (f.1, value)
  | _ => none

end Json

/-- The fields of one variant, each read by name. -/
def variantFromFields (p : Platform) (variant : String) (fields : Json) : Option PendingAction := do
  let tenantId ← fields.textField "tenant_id"
  match variant with
  | "CreateAlert" =>
    return .createAlert tenantId (← fields.textField "rule_id") (← fields.textField "device_id")
      (← fields.textField "severity") (← fields.textField "message")
      (← fields.optionField "triggered_value")
  | "UpdateAlertValue" =>
    return .updateAlertValue tenantId (← fields.textField "alert_id")
      (← fields.textField "triggered_value")
  | "ResolveAlert" => return .resolveAlert tenantId (← fields.textField "alert_id")
  | "SendWebhook" =>
    return .sendWebhook tenantId (← fields.textField "url")
      (← (fields.get "headers").bind Json.textMap) (← fields.get "payload")
  | "SendCommand" =>
    return .sendCommand tenantId (← fields.textField "device_id") (← fields.textField "command")
      (← fields.get "params")
  | "UpdateCooldown" =>
    return .updateCooldown tenantId (← fields.textField "rule_id") (← fields.textField "device_id")
      (← (fields.textField "fired_at").bind p.parseNaive)
  | "UpdateZoneEntry" =>
    let enteredAt ← match ← fields.optionField "entered_at" with
      | none => some none
      | some text => (p.parseNaive text).map some
    return .updateZoneEntry tenantId (← fields.textField "rule_id") (← fields.textField "device_id")
      enteredAt
  | _ => none

def actionFromValue (p : Platform) : Json → Option PendingAction
  | .object [(variant, .object fields)] => variantFromFields p variant (.object fields)
  | _ => none

/-- Decodes the versioned envelope of a delivered event. -/
def decodeEvent (p : Platform) (tenantId eventType : String) (payload : Json) :
    Except ApplicationError PendingAction :=
  if (payload.get "version").bind Json.asU64 ≠ some 1 then
    .error (.invalidOperation "rule-action envelope requires version 1")
  else match payload.get "action" with
    | none => .error (.invalidOperation "rule-action envelope has no action")
    | some value =>
      match actionFromValue p value with
      | none => .error (.invalidOperation ("invalid persisted rule action: " ++ p.serdeError value))
      | some action =>
        if !action.isDelivery then
          .error (.invalidOperation "runtime state is not a deliverable action")
        else if tenantIdForAction action ≠ tenantId ∨ eventTypeForAction action ≠ eventType then
          .error (.invalidOperation "persisted rule-action metadata does not match its payload")
        else .ok action

theorem textMap_headersJson (headers : List (String × String)) :
    (headersJson headers).textMap = some headers := by
  simp only [headersJson, Json.textMap]
  induction headers with
  | nil => rfl
  | cons h hs ih =>
    rw [List.map_cons, List.mapM_cons, ih]
    rfl

/-- Every delivered action is read back as it was written. -/
theorem actionFromValue_actionToValue (p : Platform) {action : PendingAction}
    (h : action.isDelivery) : actionFromValue p (actionToValue p action) = some action := by
  cases action with
  | createAlert _ _ _ _ _ triggeredValue => cases triggeredValue <;> rfl
  | updateAlertValue | resolveAlert | sendCommand => rfl
  | sendWebhook tenantId url headers payload =>
    change (do
      let read ← (headersJson headers).textMap
      pure (PendingAction.sendWebhook tenantId url read payload)) = _
    rw [textMap_headersJson]
    rfl
  | updateCooldown | updateZoneEntry => simp [PendingAction.isDelivery] at h

theorem decodeEvent_eventForAction (p : Platform) (uuid : String) {action : PendingAction}
    (h : action.isDelivery) :
    decodeEvent p (eventForAction p uuid action).tenantId (eventForAction p uuid action).eventType
      (eventForAction p uuid action).payload = .ok action := by
  simp [eventForAction, decodeEvent, Json.get, List.lookup, Json.asU64,
    actionFromValue_actionToValue p h, h]

/-- Only a deliverable action under its own tenant and event type is decoded. -/
theorem of_decodeEvent {p : Platform} {tenantId eventType : String} {payload : Json}
    {action : PendingAction} (h : decodeEvent p tenantId eventType payload = .ok action) :
    (payload.get "version").bind Json.asU64 = some 1 ∧
    (payload.get "action").bind (actionFromValue p) = some action ∧ action.isDelivery ∧
    tenantIdForAction action = tenantId ∧ eventTypeForAction action = eventType := by
  unfold decodeEvent at h
  split_ifs at h with hversion
  split at h
  · cases h
  next value hvalue =>
    split at h
    · cases h
    next read hread =>
      split_ifs at h with hruntime hmetadata
      cases h
      rw [hvalue]
      exact ⟨not_not.mp hversion, hread, by simpa using hruntime, by tauto, by tauto⟩

end Extrittio
