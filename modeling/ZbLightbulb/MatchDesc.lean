/-
What the search of the switch can find among the devices of this repository: the
simple descriptors their endpoints are registered with, the match request, and
what a switch knows that has been answered.  How a device answers a match
request is the stack's; of it only what the request asks for is assumed.
-/
import ZbLightbulb.DongleEndpoints
import ZbLightbulb.LightSwitch

namespace ZbLightbulb

def zbAfHaProfileId : UInt16 := 0x0104
def zbNwkBroadcastRxOnWhenIdle : UInt16 := 0xFFFD

/-- `zb_af_simple_desc_<in>_<out>_t`, less the device identifier and the
version, which nothing here reads.  The two counts split the cluster list. -/
structure AfSimpleDesc where
  endpoint : UInt8
  appProfileId : UInt16
  appInputClusterCount : Nat
  appOutputClusterCount : Nat
  appClusterList : List UInt16
  length_eq : appClusterList.length =
    appInputClusterCount + appOutputClusterCount
deriving DecidableEq

namespace AfSimpleDesc

def inputClusters (desc : AfSimpleDesc) : List UInt16 :=
  desc.appClusterList.take desc.appInputClusterCount

def outputClusters (desc : AfSimpleDesc) : List UInt16 :=
  desc.appClusterList.drop desc.appInputClusterCount

end AfSimpleDesc

/-! ### The declaration macros -/

/-- `ZB_ZCL_DECLARE_HA_DIMMABLE_LIGHT_SIMPLE_DESC`. -/
def zbZclDeclareHaDimmableLightSimpleDesc (epId : UInt8) : AfSimpleDesc where
  endpoint := epId
  appProfileId := zbAfHaProfileId
  appInputClusterCount := 6
  appOutputClusterCount := 0
  appClusterList :=
    [zbZclClusterIdBasic, zbZclClusterIdIdentify, zbZclClusterIdScenes,
      zbZclClusterIdGroups, zbZclClusterIdOnOff, zbZclClusterIdLevelControl]
  length_eq := rfl

/-- `ZB_ZCL_DECLARE_ON_OFF_SWITCH_SIMPLE_DESC`. -/
def zbZclDeclareOnOffSwitchSimpleDesc (epId : UInt8) : AfSimpleDesc where
  endpoint := epId
  appProfileId := zbAfHaProfileId
  appInputClusterCount := 3
  appOutputClusterCount := 4
  appClusterList :=
    [zbZclClusterIdBasic, zbZclClusterIdIdentify,
      zbZclClusterIdOnOffSwitchConfig, zbZclClusterIdOnOff,
      zbZclClusterIdScenes, zbZclClusterIdGroups, zbZclClusterIdIdentify]
  length_eq := rfl

/-- `ZB_ZCL_DECLARE_DIMMER_SWITCH_SIMPLE_DESC`. -/
def zbZclDeclareDimmerSwitchSimpleDesc (epId : UInt8) : AfSimpleDesc where
  endpoint := epId
  appProfileId := zbAfHaProfileId
  appInputClusterCount := 2
  appOutputClusterCount := 5
  appClusterList :=
    [zbZclClusterIdBasic, zbZclClusterIdIdentify, zbZclClusterIdIdentify,
      zbZclClusterIdScenes, zbZclClusterIdGroups, zbZclClusterIdOnOff,
      zbZclClusterIdLevelControl]
  length_eq := rfl

def lightSwitchEndpoint : UInt8 := 1

/-- The endpoints of the dongle: the cluster list and the simple descriptor of
each. -/
def dongleEndpoints : List (AfEndpointDesc × AfSimpleDesc) :=
  [(dimmableLightEp,
      zbZclDeclareHaDimmableLightSimpleDesc haDimmableLightEndpoint),
    (onOffSwitchEp1,
      zbZclDeclareOnOffSwitchSimpleDesc haOnOffSwitchEndpoint1.toUInt8),
    (onOffSwitchEp2,
      zbZclDeclareOnOffSwitchSimpleDesc haOnOffSwitchEndpoint2.toUInt8),
    (onOffSwitchEp3,
      zbZclDeclareOnOffSwitchSimpleDesc haOnOffSwitchEndpoint3.toUInt8),
    (onOffSwitchEp4,
      zbZclDeclareOnOffSwitchSimpleDesc haOnOffSwitchEndpoint4.toUInt8)]

def dongleSimpleDescs : List AfSimpleDesc :=
  dongleEndpoints.map Prod.snd

/-- The switch, built without `CONFIG_ZIGBEE_FOTA`. -/
def lightSwitchSimpleDescs : List AfSimpleDesc :=
  [zbZclDeclareDimmerSwitchSimpleDesc lightSwitchEndpoint]

def ZclClusterDesc.ofRole (role : ZclClusterRole)
    (descs : List ZclClusterDesc) : List UInt16 :=
  (descs.filter fun desc => desc.role == role).map ZclClusterDesc.clusterId

/-- The device context registers these endpoints, and each endpoint says of
itself what its cluster list has: the input clusters are those it serves. -/
theorem dongleEndpoints_described :
    dongleEndpoints.map Prod.fst = dimmableLightCtx ∧
      ∀ ep ∈ dongleEndpoints, ep.1.epId = ep.2.endpoint ∧
        (ZclClusterDesc.ofRole .server ep.1.clusterDescList).Perm
          ep.2.inputClusters ∧
        (ZclClusterDesc.ofRole .client ep.1.clusterDescList).Perm
          ep.2.outputClusters := by
  decide

/-! ### The request -/

/-- `zb_zdo_match_desc_param_t`, with its cluster list in two parts. -/
structure ZdoMatchDescParam where
  nwkAddr : UInt16
  addrOfInterest : UInt16
  profileId : UInt16
  inClusters : List UInt16
  outClusters : List UInt16
deriving DecidableEq, Repr

/-- What `find_light_bulb` asks for. -/
def findLightBulbParam : ZdoMatchDescParam where
  nwkAddr := zbNwkBroadcastRxOnWhenIdle
  addrOfInterest := zbNwkBroadcastRxOnWhenIdle
  profileId := zbAfHaProfileId
  inClusters := [zbZclClusterIdOnOff, zbZclClusterIdLevelControl]
  outClusters := []

/-- When the stack of a device names an endpoint in its response: only if the
profile is the one asked for and the endpoint has one of the clusters on the
side it is asked for on. -/
structure MatchRule where
  answers : AfSimpleDesc → ZdoMatchDescParam → Prop
  profile : ∀ desc param, answers desc param →
    desc.appProfileId = param.profileId
  cluster : ∀ desc param, answers desc param →
    (∃ c ∈ param.inClusters, c ∈ desc.inputClusters) ∨
      ∃ c ∈ param.outClusters, c ∈ desc.outputClusters

namespace MatchRule

/-- Whatever the request allows answers it. -/
def whenever : MatchRule where
  answers desc param := desc.appProfileId = param.profileId ∧
    ((∃ c ∈ param.inClusters, c ∈ desc.inputClusters) ∨
      ∃ c ∈ param.outClusters, c ∈ desc.outputClusters)
  profile _ _ h := h.1
  cluster _ _ h := h.2

variable (rule : MatchRule)

/-- Of the dongle, endpoint 10 is the only one that can answer. -/
theorem endpoint_of_dongle {desc : AfSimpleDesc}
    (hmem : desc ∈ dongleSimpleDescs)
    (h : rule.answers desc findLightBulbParam) :
    desc = zbZclDeclareHaDimmableLightSimpleDesc haDimmableLightEndpoint := by
  have hcluster := rule.cluster desc findLightBulbParam h
  simp only [dongleSimpleDescs, dongleEndpoints, List.map_cons, List.map_nil,
    List.mem_cons, List.not_mem_nil, or_false] at hmem
  rcases hmem with rfl | rfl | rfl | rfl | rfl
  · rfl
  all_goals exact absurd hcluster (by decide)

/-- A switch has the two clusters on the other side. -/
theorem not_answers_lightSwitch {desc : AfSimpleDesc}
    (hmem : desc ∈ lightSwitchSimpleDescs) :
    ¬ rule.answers desc findLightBulbParam := by
  intro h
  have hcluster := rule.cluster desc findLightBulbParam h
  rw [lightSwitchSimpleDescs, List.mem_singleton] at hmem
  subst hmem
  exact absurd hcluster (by decide)

end MatchRule

/-! ### What a switch can know -/

/-- The firmware a device of the network runs. -/
inductive ZigbeeDevice where
  | lightBulbDongle
  | lightSwitch2
deriving DecidableEq, Repr

def ZigbeeDevice.simpleDescs : ZigbeeDevice → List AfSimpleDesc
  | .lightBulbDongle => dongleSimpleDescs
  | .lightSwitch2 => lightSwitchSimpleDescs

/-- The devices by their short addresses. -/
abbrev ZigbeeNetwork := UInt16 → Option ZigbeeDevice

/-- A response that reports a match comes from a device that has the endpoint it
names. -/
def SwitchEvent.FromNetwork (rule : MatchRule) (network : ZigbeeNetwork) :
    SwitchEvent → Prop
  | .matchDescResp resp => resp.status = zbZdpStatusSuccess →
      0 < resp.matchLen → ∃ device, network resp.srcAddr = some device ∧
        ∃ desc ∈ device.simpleDescs, desc.endpoint = resp.matchEp ∧
          rule.answers desc findLightBulbParam
  | _ => True

/-- A match that is reported is the light of a dongle. -/
theorem SwitchEvent.FromNetwork.light {rule : MatchRule}
    {network : ZigbeeNetwork} {resp : MatchDescResp}
    (h : (SwitchEvent.matchDescResp resp).FromNetwork rule network)
    (hstatus : resp.status = zbZdpStatusSuccess) (hlen : 0 < resp.matchLen) :
    network resp.srcAddr = some .lightBulbDongle ∧
      resp.matchEp = haDimmableLightEndpoint := by
  obtain ⟨device, hdevice, desc, hmem, hendpoint, hanswers⟩ := h hstatus hlen
  cases device with
  | lightBulbDongle =>
      rw [rule.endpoint_of_dongle hmem hanswers] at hendpoint
      exact ⟨hdevice, hendpoint.symm⟩
  | lightSwitch2 => exact absurd hanswers (rule.not_answers_lightSwitch hmem)

/-- The cluster of a command. -/
def ZclCommand.clusterId : ZclCommand → UInt16
  | .onOff _ => zbZclClusterIdOnOff
  | .levelControlStep _ _ _ => zbZclClusterIdLevelControl

/-- The light endpoint serves the clusters of both commands. -/
theorem dimmableLightEp_serves (c : ZclCommand) :
    ∃ desc ∈ dimmableLightEp.clusterDescList,
      desc.clusterId = c.clusterId ∧ desc.role = .server := by
  cases c with
  | onOff cmdId =>
      exact ⟨⟨zbZclClusterIdOnOff, onOffAttrList, .server⟩, by decide, rfl, rfl⟩
  | levelControlStep stepMode stepSize transitionTime =>
      exact ⟨⟨zbZclClusterIdLevelControl, levelControlAttrList, .server⟩,
        by decide, rfl, rfl⟩

namespace LightSwitch

variable {rule : MatchRule} {network : ZigbeeNetwork}

/-- A known bulb is the light endpoint of a dongle. -/
def KnowsLight (network : ZigbeeNetwork) (ctx : BulbContext) : Prop :=
  ctx.shortAddr ≠ noBulb →
    network ctx.shortAddr = some .lightBulbDongle ∧
      ctx.endpoint = haDimmableLightEndpoint

theorem AcceptsResp.knowsLight {s : LightSwitch} {e : SwitchEvent}
    {resp : MatchDescResp} (h : s.AcceptsResp e resp)
    (hfrom : e.FromNetwork rule network) :
    KnowsLight network ⟨resp.matchEp, resp.srcAddr, false⟩ := by
  obtain ⟨rfl, -, hstatus, hlen, -⟩ := h
  exact fun _ => hfrom.light hstatus hlen

theorem KnowsLight.step {s : LightSwitch} (h : KnowsLight network s.bulbCtx)
    {e : SwitchEvent} (hfrom : e.FromNetwork rule network) :
    KnowsLight network (s.step e).bulbCtx := by
  intro hknown
  rcases (s.step_bulbCtx e).known_after hknown with
    ⟨resp, haccept, hctx⟩ | ⟨-, -, hctx⟩
  · rw [hctx] at hknown ⊢
    exact haccept.knowsLight hfrom hknown
  · rw [hctx] at hknown ⊢
    exact h hknown

theorem KnowsLight.foldl {s : LightSwitch} (h : KnowsLight network s.bulbCtx)
    {events : List SwitchEvent}
    (hfrom : ∀ e ∈ events, e.FromNetwork rule network) :
    KnowsLight network (events.foldl LightSwitch.step s).bulbCtx := by
  induction events generalizing s with
  | nil => exact h
  | cons e events ih =>
      obtain ⟨hfirst, hrest⟩ := List.forall_mem_cons.mp hfrom
      exact ih (h.step hfirst) hrest

theorem start_knowsLight : KnowsLight network start.bulbCtx :=
  fun hknown => absurd rfl hknown

end LightSwitch

end ZbLightbulb
