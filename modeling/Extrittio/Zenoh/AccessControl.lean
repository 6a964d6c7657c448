import Extrittio.Contract.Addresses
import Extrittio.Library.KeyExpr
import Extrittio.Library.OrderBy

/-!
The access control that the backend generates for its Zenoh router. A certificate
is bound to the topics of its own device by rules that are named after the
device's place in the list; everything else is denied.
-/
namespace Extrittio

open Relational List BlueprintCompiler

namespace Topics

def ofDevice (deviceId tail : String) : String := s!"extrittio/devices/{deviceId}/{tail}"

def telemetry (deviceId : String) : String := ofDevice deviceId "telemetry"

def heartbeat (deviceId : String) : String := ofDevice deviceId "heartbeat"

def shadowGet (deviceId : String) : String := ofDevice deviceId "shadow/get"

def shadowDelta (deviceId : String) : String := ofDevice deviceId "shadow/delta"

def shadowReport (deviceId : String) : String := ofDevice deviceId "shadow/report"

def logs (deviceId : String) : String := ofDevice deviceId "logs"

def commands (deviceId : String) : String := ofDevice deviceId "commands"

def commandsResponse (deviceId : String) : String := ofDevice deviceId "commands/response"

/-- Identifiers of up to 128 bytes of a compact set: no slash, no wildcard. -/
def isValidDeviceId (deviceId : String) : Bool :=
  decide (1 ≤ deviceId.utf8ByteSize ∧ deviceId.utf8ByteSize ≤ 128) &&
    deviceId.toList.all BlueprintCompiler.safeInRoute

end Topics

/-- The topics of all devices that the backend subscribes to. -/
def Topics.patterns : List String :=
  [ofDevice "*" "telemetry", ofDevice "*" "heartbeat", ofDevice "*" "shadow/report",
    ofDevice "*" "shadow/get", ofDevice "*" "logs", ofDevice "*" "commands/response"]

namespace Zenoh

inductive Permission where
  | allow
  | deny
  deriving DecidableEq

/-- Towards the router or from it. -/
inductive Flow where
  | ingress
  | egress
  deriving DecidableEq

inductive MessageKind where
  | put
  | delete
  | declareSubscriber
  | query
  | reply
  | declareQueryable
  deriving DecidableEq

structure AclRule where
  id : String
  permission : Permission
  flows : List Flow
  messages : List MessageKind
  keyExprs : List String
  deriving DecidableEq

structure AclSubject where
  id : String
  certCommonNames : List String
  deriving DecidableEq

structure AclPolicy where
  id : String
  rules : List String
  subjects : List String
  deriving DecidableEq

structure AccessControl where
  enabled : Bool
  defaultPermission : Permission
  rules : List AclRule
  subjects : List AclSubject
  policies : List AclPolicy
  deriving DecidableEq

namespace AclRule

def covers (rule : AclRule) (flow : Flow) (message : MessageKind) (key : String) : Bool :=
  flow ∈ rule.flows && message ∈ rule.messages && rule.keyExprs.any (KeyExpr.includes · key)

end AclRule

namespace AccessControl

variable (control : AccessControl)

def binds (commonName : String) (policy : AclPolicy) : Bool :=
  control.subjects.any fun subject =>
    subject.id ∈ policy.subjects && commonName ∈ subject.certCommonNames

def rulesFor (commonName : String) : List AclRule :=
  control.rules.filter fun rule => control.policies.any fun policy =>
    rule.id ∈ policy.rules && control.binds commonName policy

/-- Rules that deny go before those that allow, and both before the default. -/
def permits (commonName : String) (flow : Flow) (message : MessageKind) (key : String) : Bool :=
  let rules := (control.rulesFor commonName).filter (·.covers flow message key)
  !control.enabled ||
    !rules.any (·.permission = .deny) &&
      (rules.any (·.permission = .allow) || control.defaultPermission = .allow)

end AccessControl

/-- The valid identifiers in order, each once, and the number of the others. -/
def normalizeAclDeviceIds (deviceIds : List String) : List String × ℕ :=
  (orderBy id (deviceIds.filter Topics.isValidDeviceId).dedup,
    deviceIds.countP fun deviceId => !Topics.isValidDeviceId deviceId)

def deviceIngressPutKeyexprs (deviceId : String) : List String :=
  [Topics.telemetry deviceId, Topics.heartbeat deviceId, Topics.shadowReport deviceId,
    Topics.shadowGet deviceId, Topics.logs deviceId, Topics.commandsResponse deviceId]

def deviceDownstreamKeyexprs (deviceId : String) : List String :=
  [Topics.commands deviceId, Topics.shadowDelta deviceId]

def backendDeviceSubscriptions : AclRule :=
  ⟨"backend-device-subscriptions", .allow, [.egress], [.declareSubscriber], Topics.patterns⟩

def subjectId (index : ℕ) : String := s!"device-{index}"

def ruleId (index : ℕ) (purpose : String) : String := s!"{subjectId index}-{purpose}"

def deviceSubject (index : ℕ) (deviceId : String) : AclSubject := ⟨subjectId index, [deviceId]⟩

def deviceRules (index : ℕ) (deviceId : String) : List AclRule :=
  [⟨ruleId index "ingress-put", .allow, [.ingress], [.put], deviceIngressPutKeyexprs deviceId⟩,
    ⟨ruleId index "ingress-subscribe", .allow, [.ingress], [.declareSubscriber],
      deviceDownstreamKeyexprs deviceId⟩,
    ⟨ruleId index "egress-put", .allow, [.egress], [.put], deviceDownstreamKeyexprs deviceId⟩]

def devicePolicy (index : ℕ) : AclPolicy :=
  ⟨ruleId index "policy", ["backend-device-subscriptions", ruleId index "ingress-put",
    ruleId index "ingress-subscribe", ruleId index "egress-put"], [subjectId index]⟩

/-- Denies everything to the holder of a certificate that no authority issues. -/
def denyAll : AccessControl where
  enabled := true
  defaultPermission := .deny
  rules := [⟨"deny-all-no-active-device-certificates", .deny, [.ingress, .egress],
    [.put, .delete, .declareSubscriber, .query, .reply, .declareQueryable], ["**"]⟩]
  subjects := [⟨"no-active-device-certificates",
    ["extrittio-no-active-device-certificates.invalid"]⟩]
  policies := [⟨"no-active-device-certificates", ["deny-all-no-active-device-certificates"],
    ["no-active-device-certificates"]⟩]

def buildZenohDeviceAcl (deviceIds : List String) : AccessControl :=
  if deviceIds.isEmpty then denyAll
  else
    { enabled := true
      defaultPermission := .deny
      rules := backendDeviceSubscriptions ::
        deviceIds.zipIdx.flatMap fun entry => deviceRules entry.2 entry.1
      subjects := deviceIds.zipIdx.map fun entry => deviceSubject entry.2 entry.1
      policies := deviceIds.zipIdx.map fun entry => devicePolicy entry.2 }

/-- The access control for a list of certificates. -/
def deviceAcl (certificateIds : List String) : AccessControl :=
  buildZenohDeviceAcl (normalizeAclDeviceIds certificateIds).1

section

theorem toList_subjectId (index : ℕ) :
    (subjectId index).toList = "device-".toList ++ Nat.toDigits 10 index := by
  show ("device-" ++ index.repr).toList = _
  rw [String.toList_append, Nat.toList_repr]

theorem toList_ruleId (index : ℕ) (purpose : String) :
    (ruleId index purpose).toList =
      "device-".toList ++ (Nat.toDigits 10 index ++ '-' :: purpose.toList) := by
  show (subjectId index ++ "-" ++ purpose).toList = _
  rw [String.toList_append, String.toList_append, toList_subjectId, append_assoc,
    append_assoc]
  rfl

theorem toDigits_injective {i j : ℕ} (h : Nat.toDigits 10 i = Nat.toDigits 10 j) : i = j := by
  rw [← Nat.ofDigitChars_ten_toDigits (n := i), h, Nat.ofDigitChars_ten_toDigits]

theorem subjectId_injective : Function.Injective subjectId := by
  intro i j h
  have hlists := congrArg String.toList h
  rw [toList_subjectId, toList_subjectId, append_cancel_left_eq] at hlists
  exact toDigits_injective hlists

theorem ruleId_inj {i j : ℕ} {a b : String} : ruleId i a = ruleId j b ↔ i = j ∧ a = b := by
  have hdash (n : ℕ) : '-' ∉ Nat.toDigits 10 n := by
    intro hmem
    have hdigit := Nat.isDigit_of_mem_toDigits (by norm_num) le_rfl hmem
    revert hdigit
    decide
  constructor
  · intro h
    have hlists := congrArg String.toList h
    rw [toList_ruleId, toList_ruleId, append_cancel_left_eq] at hlists
    have hdigits := Template.eq_of_append_separator (hdash i) (hdash j) hlists
    rw [hdigits, append_cancel_left_eq, List.cons.injEq] at hlists
    exact ⟨toDigits_injective hdigits, String.toList_inj.mp hlists.2⟩
  · rintro ⟨rfl, rfl⟩
    rfl

theorem backend_ne_ruleId (index : ℕ) (purpose : String) :
    "backend-device-subscriptions" ≠ ruleId index purpose := by
  intro h
  have hhead := congrArg (fun id : String => id.toList.head?) h
  rw [toList_ruleId] at hhead
  revert hhead
  simp

end

section

variable {deviceIds : List String} {commonName : String} {rule : AclRule}

theorem binds_devicePolicy_iff (h : deviceIds ≠ []) {index : ℕ} :
    (buildZenohDeviceAcl deviceIds).binds commonName (devicePolicy index) ↔
      deviceIds[index]? = some commonName := by
  have hempty : deviceIds.isEmpty = false := by simpa using h
  simp only [AccessControl.binds, buildZenohDeviceAcl, hempty, Bool.false_eq_true, if_false,
    any_eq_true, mem_map, Bool.and_eq_true, decide_eq_true_eq, devicePolicy,
    mem_singleton]
  constructor
  · rintro ⟨_, ⟨⟨deviceId, place⟩, hentry, rfl⟩, hsubject, hname⟩
    obtain rfl := subjectId_injective hsubject
    obtain rfl := mem_singleton.mp hname
    exact mem_zipIdx_iff_getElem?.mp hentry
  · intro hget
    exact ⟨_, ⟨(commonName, index), mem_zipIdx_iff_getElem?.mpr hget, rfl⟩, rfl,
      mem_singleton.mpr rfl⟩

theorem mem_rulesFor_iff (h : deviceIds ≠ []) :
    rule ∈ (buildZenohDeviceAcl deviceIds).rulesFor commonName ↔
      ∃ index, deviceIds[index]? = some commonName ∧
        rule ∈ backendDeviceSubscriptions :: deviceRules index commonName := by
  have hempty : deviceIds.isEmpty = false := by simpa using h
  have hrules : (buildZenohDeviceAcl deviceIds).rules = backendDeviceSubscriptions ::
      deviceIds.zipIdx.flatMap fun entry => deviceRules entry.2 entry.1 := by
    simp only [buildZenohDeviceAcl, hempty, Bool.false_eq_true, if_false]
  have hpolicies : (buildZenohDeviceAcl deviceIds).policies =
      deviceIds.zipIdx.map fun entry => devicePolicy entry.2 := by
    simp only [buildZenohDeviceAcl, hempty, Bool.false_eq_true, if_false]
  rw [AccessControl.rulesFor, List.mem_filter, hrules, hpolicies, any_eq_true]
  constructor
  · rintro ⟨hrule, policy, hpolicy, happlies⟩
    obtain ⟨⟨deviceId, index⟩, hentry, rfl⟩ := mem_map.mp hpolicy
    obtain ⟨hid, hbinds⟩ := Bool.and_eq_true_iff.mp happlies
    have hname := (binds_devicePolicy_iff h).mp hbinds
    refine ⟨index, hname, ?_⟩
    rcases mem_cons.mp hrule with rfl | hrule
    · exact mem_cons_self
    · obtain ⟨⟨other, place⟩, hother, hrule⟩ := mem_flatMap.mp hrule
      have hplace : place = index ∧ rule ∈ deviceRules place other := by
        simp only [deviceRules, mem_cons, not_mem_nil, or_false] at hrule
        simp only [devicePolicy, mem_cons, not_mem_nil, or_false, decide_eq_true_eq] at hid
        rcases hrule with rfl | rfl | rfl <;>
          simp [(backend_ne_ruleId _ _).symm, ruleId_inj] at hid <;>
            simp [hid, deviceRules]
      obtain ⟨rfl, hrule⟩ := hplace
      have hget := mem_zipIdx_iff_getElem?.mp hother
      obtain rfl := Option.some.inj (hget.symm.trans hname)
      exact mem_cons_of_mem _ hrule
  · rintro ⟨index, hname, hrule⟩
    have hentry : (commonName, index) ∈ deviceIds.zipIdx := mem_zipIdx_iff_getElem?.mpr hname
    refine ⟨?_, devicePolicy index, mem_map.mpr ⟨_, hentry, rfl⟩, ?_⟩
    · rcases mem_cons.mp hrule with rfl | hrule
      · exact mem_cons_self
      · exact mem_cons_of_mem _ (mem_flatMap.mpr ⟨_, hentry, hrule⟩)
    · rw [(binds_devicePolicy_iff h).mpr hname, Bool.and_true, decide_eq_true_eq]
      simp only [deviceRules, mem_cons, not_mem_nil, or_false] at hrule
      rcases hrule with rfl | rfl | rfl | rfl <;> simp [devicePolicy, backendDeviceSubscriptions]

end

section

variable {certificateIds : List String} {commonName key : String} {flow : Flow}
  {message : MessageKind}

variable {deviceId tail : String}

theorem mem_normalizeAclDeviceIds :
    deviceId ∈ (normalizeAclDeviceIds certificateIds).1 ↔
      deviceId ∈ certificateIds ∧ Topics.isValidDeviceId deviceId := by
  rw [normalizeAclDeviceIds, mem_orderBy, mem_dedup, List.mem_filter]

theorem permits_iff {control : AccessControl} (henabled : control.enabled)
    (hdefault : control.defaultPermission = .deny) :
    control.permits commonName flow message key ↔
      (∀ rule ∈ control.rulesFor commonName, rule.covers flow message key →
        rule.permission ≠ .deny) ∧
      ∃ rule ∈ control.rulesFor commonName, rule.covers flow message key ∧
        rule.permission = .allow := by
  simp [AccessControl.permits, henabled, hdefault]

theorem permits_buildZenohDeviceAcl_iff {deviceIds : List String} :
    (buildZenohDeviceAcl deviceIds).permits commonName flow message key ↔
      ∃ index, deviceIds[index]? = some commonName ∧
        ∃ rule ∈ backendDeviceSubscriptions :: deviceRules index commonName,
          rule.covers flow message key := by
  by_cases h : deviceIds = []
  · subst h
    have hnone : ¬(buildZenohDeviceAcl []).permits commonName flow message key := by
      rw [permits_iff rfl rfl]
      rintro ⟨-, rule, hrule, -, hallow⟩
      obtain rfl := mem_singleton.mp (mem_of_mem_filter hrule)
      cases hallow
    simp [hnone]
  · have hempty : deviceIds.isEmpty = false := by simpa using h
    have hallow : ∀ index, ∀ rule ∈ backendDeviceSubscriptions :: deviceRules index commonName,
        rule.permission = .allow := by
      intro index rule hrule
      simp only [deviceRules, mem_cons, not_mem_nil, or_false] at hrule
      rcases hrule with rfl | rfl | rfl | rfl <;> rfl
    rw [permits_iff (by simp [buildZenohDeviceAcl, hempty]) (by simp [buildZenohDeviceAcl, hempty])]
    constructor
    · rintro ⟨-, rule, hrule, hcovers, -⟩
      obtain ⟨index, hname, hrule⟩ := (mem_rulesFor_iff h).mp hrule
      exact ⟨index, hname, rule, hrule, hcovers⟩
    · rintro ⟨index, hname, rule, hrule, hcovers⟩
      refine ⟨fun other hother _ => ?_, rule, (mem_rulesFor_iff h).mpr ⟨index, hname, hrule⟩, hcovers,
        hallow index rule hrule⟩
      obtain ⟨place, -, hother⟩ := (mem_rulesFor_iff h).mp hother
      rw [hallow place other hother]
      decide

/-- The keys that a device is granted, apart from the backend's own subscriptions. -/
def grantedKeys (deviceId : String) : Flow → MessageKind → List String
  | .ingress, .put => deviceIngressPutKeyexprs deviceId
  | .ingress, .declareSubscriber | .egress, .put => deviceDownstreamKeyexprs deviceId
  | _, _ => []

theorem safe_of_isValidDeviceId (h : Topics.isValidDeviceId deviceId) :
    ∀ c ∈ deviceId.toList, safeInRoute c = true :=
  all_eq_true.mp (Bool.and_eq_true_iff.mp h).2

theorem toList_ofDevice (deviceId tail : String) : (Topics.ofDevice deviceId tail).toList =
    deviceSpace deviceId ++ tail.toList := by
  show ("extrittio/devices/" ++ deviceId ++ "/" ++ tail).toList = _
  rw [String.toList_append, String.toList_append, String.toList_append]
  rfl

theorem mem_ofDevice {c : Char} (h : c ∈ (Topics.ofDevice deviceId tail).toList) :
    c ∈ "extrittio/devices/".toList ∨ c ∈ deviceId.toList ∨ c = '/' ∨ c ∈ tail.toList := by
  rw [toList_ofDevice] at h
  unfold deviceSpace at h
  rw [mem_append, mem_append, mem_append, mem_singleton, or_assoc,
    or_assoc] at h
  exact h

theorem not_wildcard_ofDevice
    (h : Topics.isValidDeviceId deviceId) (htail : '*' ∉ tail.toList) :
    '*' ∉ (Topics.ofDevice deviceId tail).toList := by
  have hroot : '*' ∉ "extrittio/devices/".toList := by decide
  have hstar : safeInRoute '*' = false := by decide
  intro hmem
  rcases mem_ofDevice hmem with hmem | hmem | hslash | hmem
  · exact hroot hmem
  · rw [safe_of_isValidDeviceId h _ hmem] at hstar
    cases hstar
  · cases hslash
  · exact htail hmem

theorem covers_iff_mem {rule : AclRule} (h : ∀ expression ∈ rule.keyExprs, '*' ∉ expression.toList) :
    rule.covers flow message key ↔
      flow ∈ rule.flows ∧ message ∈ rule.messages ∧ key ∈ rule.keyExprs := by
  simp only [AclRule.covers, Bool.and_eq_true, decide_eq_true_eq, any_eq_true, and_assoc]
  refine and_congr_right fun _ => and_congr_right fun _ => ?_
  constructor
  · rintro ⟨expression, hmem, hincludes⟩
    obtain rfl := (KeyExpr.includes_iff_eq (h expression hmem)).mp hincludes
    exact hmem
  · intro hmem
    exact ⟨key, hmem, (KeyExpr.includes_iff_eq (h key hmem)).mpr rfl⟩

theorem not_wildcard_granted (h : Topics.isValidDeviceId deviceId) :
    (∀ expression ∈ deviceIngressPutKeyexprs deviceId, '*' ∉ expression.toList) ∧
      ∀ expression ∈ deviceDownstreamKeyexprs deviceId, '*' ∉ expression.toList := by
  constructor
  · intro expression hmem
    simp only [deviceIngressPutKeyexprs, mem_cons, not_mem_nil, or_false] at hmem
    rcases hmem with rfl | rfl | rfl | rfl | rfl | rfl <;> exact not_wildcard_ofDevice h (by decide)
  · intro expression hmem
    simp only [deviceDownstreamKeyexprs, mem_cons, not_mem_nil, or_false] at hmem
    rcases hmem with rfl | rfl <;> exact not_wildcard_ofDevice h (by decide)

/-- What the holder of a certificate may do: the messages on the granted keys of its
own device, if the certificate is listed with a valid identifier. -/
theorem permits_deviceAcl_iff (hflow : (flow, message) ≠ (.egress, .declareSubscriber)) :
    (deviceAcl certificateIds).permits commonName flow message key ↔
      (commonName ∈ certificateIds ∧ Topics.isValidDeviceId commonName) ∧
        key ∈ grantedKeys commonName flow message := by
  have hbackend : backendDeviceSubscriptions.covers flow message key = false := by
    cases flow <;> cases message <;> simp [backendDeviceSubscriptions, AclRule.covers] at hflow ⊢
  rw [deviceAcl, permits_buildZenohDeviceAcl_iff, ← mem_normalizeAclDeviceIds]
  constructor
  · rintro ⟨index, hname, rule, hrule, hcovers⟩
    have hmem := mem_of_getElem? hname
    refine ⟨hmem, ?_⟩
    obtain ⟨hput, hdownstream⟩ := not_wildcard_granted (mem_normalizeAclDeviceIds.mp hmem).2
    rcases mem_cons.mp hrule with rfl | hrule
    · rw [hbackend] at hcovers
      cases hcovers
    · simp only [deviceRules, mem_cons, not_mem_nil, or_false] at hrule
      rcases hrule with rfl | rfl | rfl
      · obtain ⟨hflow, hmessage, hkey⟩ := (covers_iff_mem hput).mp hcovers
        rw [mem_singleton.mp hflow, mem_singleton.mp hmessage]
        exact hkey
      · obtain ⟨hflow, hmessage, hkey⟩ := (covers_iff_mem hdownstream).mp hcovers
        rw [mem_singleton.mp hflow, mem_singleton.mp hmessage]
        exact hkey
      · obtain ⟨hflow, hmessage, hkey⟩ := (covers_iff_mem hdownstream).mp hcovers
        rw [mem_singleton.mp hflow, mem_singleton.mp hmessage]
        exact hkey
  · rintro ⟨hmem, hkey⟩
    obtain ⟨hput, hdownstream⟩ := not_wildcard_granted (mem_normalizeAclDeviceIds.mp hmem).2
    obtain ⟨index, hname⟩ := mem_iff_getElem?.mp hmem
    have hrules (rule : AclRule) (hrule : rule ∈ deviceRules index commonName) :=
      mem_cons_of_mem backendDeviceSubscriptions hrule
    refine ⟨index, hname, ?_⟩
    cases flow with
    | ingress =>
      cases message with
      | put =>
        exact ⟨_, hrules _ (.head _), (covers_iff_mem hput).mpr ⟨.head _, .head _, hkey⟩⟩
      | declareSubscriber =>
        exact ⟨_, hrules _ (.tail _ (.head _)),
          (covers_iff_mem hdownstream).mpr ⟨.head _, .head _, hkey⟩⟩
      | delete | query | reply | declareQueryable => cases hkey
    | egress =>
      cases message with
      | put =>
        exact ⟨_, hrules _ (.tail _ (.tail _ (.head _))),
          (covers_iff_mem hdownstream).mpr ⟨.head _, .head _, hkey⟩⟩
      | delete | declareSubscriber | query | reply | declareQueryable => cases hkey

end

end Zenoh

end Extrittio
