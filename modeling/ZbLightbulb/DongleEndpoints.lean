/-
The attributes of the dongle's five endpoints: the attribute lists over
`dev_ctx`, the cluster lists the declaration macros expand to, and where an
attribute access ends up.  The global cluster revision, which every list also
carries and which lives outside `dev_ctx`, is left out.
-/
import ZbLightbulb.DongleMain

namespace ZbLightbulb

/-- The fields of `dev_ctx` that an attribute list points at. -/
inductive DevCtxField where
  | basicZclVersion
  | basicAppVersion
  | basicStackVersion
  | basicHwVersion
  | basicMfName
  | basicModelId
  | basicDateCode
  | basicPowerSource
  | basicLocationId
  | basicPhEnv
  | basicSwVer
  | identifyTime
  | groupsNameSupport
  | scenesSceneCount
  | scenesCurrentScene
  | scenesCurrentGroup
  | scenesSceneValid
  | scenesNameSupport
  | onOffOnOff
  | levelControlCurrentLevel
  | levelControlRemainingTime
  | switchConfSwitchType (number : Nat)
  | switchConfSwitchActions (number : Nat)
deriving DecidableEq, Repr

/-- What the attribute descriptors of the stack say about the fields: the
attribute identifier and the number of bytes. -/
structure ZclAttributes where
  attrId : DevCtxField → UInt16
  size : DevCtxField → Nat
  size_pos : ∀ f, 0 < size f

/-- `bulb_device_ctx_t`, as the bytes of each field. -/
abbrev DevCtx (zcl : ZclAttributes) : Type :=
  (f : DevCtxField) → Fin (zcl.size f) → UInt8

/-! ### The lists of `main.c` -/

/-- An attribute list, by the fields its descriptors point at. -/
abbrev ZclAttrList := List DevCtxField

def identifyAttrList : ZclAttrList := [.identifyTime]

def groupsAttrList : ZclAttrList := [.groupsNameSupport]

def scenesAttrList : ZclAttrList :=
  [.scenesSceneCount, .scenesCurrentScene, .scenesCurrentGroup,
    .scenesSceneValid, .scenesNameSupport]

def basicAttrList : ZclAttrList :=
  [.basicZclVersion, .basicAppVersion, .basicStackVersion, .basicHwVersion,
    .basicMfName, .basicModelId, .basicDateCode, .basicPowerSource,
    .basicLocationId, .basicPhEnv, .basicSwVer]

def switchOnOffSwitchConfAttrList1 : ZclAttrList :=
  [.switchConfSwitchType 1, .switchConfSwitchActions 1]

def switchOnOffSwitchConfAttrList2 : ZclAttrList :=
  [.switchConfSwitchType 2, .switchConfSwitchActions 2]

def switchOnOffSwitchConfAttrList3 : ZclAttrList :=
  [.switchConfSwitchType 3, .switchConfSwitchActions 3]

def switchOnOffSwitchConfAttrList4 : ZclAttrList :=
  [.switchConfSwitchType 4, .switchConfSwitchActions 4]

def onOffAttrList : ZclAttrList := [.onOffOnOff]

def levelControlAttrList : ZclAttrList :=
  [.levelControlCurrentLevel, .levelControlRemainingTime]

inductive ZclClusterRole where
  | server
  | client
deriving DecidableEq, Repr

structure ZclClusterDesc where
  clusterId : UInt16
  attrDescList : ZclAttrList
  role : ZclClusterRole
deriving DecidableEq, Repr

/-- `ZB_HA_DECLARE_ON_OFF_SWITCH_CLUSTER_LIST`. -/
def zbHaDeclareOnOffSwitchClusterList
    (onOffSwitchConfigAttrList basicAttrList identifyAttrList : ZclAttrList) :
    List ZclClusterDesc :=
  [⟨zbZclClusterIdOnOffSwitchConfig, onOffSwitchConfigAttrList, .server⟩,
    ⟨zbZclClusterIdIdentify, identifyAttrList, .server⟩,
    ⟨zbZclClusterIdBasic, basicAttrList, .server⟩,
    ⟨zbZclClusterIdOnOff, [], .client⟩,
    ⟨zbZclClusterIdScenes, [], .client⟩,
    ⟨zbZclClusterIdIdentify, [], .client⟩,
    ⟨zbZclClusterIdGroups, [], .client⟩]

/-- `ZB_DECLARE_DIMMABLE_LIGHT_CLUSTER_LIST`. -/
def zbDeclareDimmableLightClusterList
    (basicAttrList identifyAttrList groupsAttrList scenesAttrList onOffAttrList
      levelControlAttrList : ZclAttrList) : List ZclClusterDesc :=
  [⟨zbZclClusterIdIdentify, identifyAttrList, .server⟩,
    ⟨zbZclClusterIdBasic, basicAttrList, .server⟩,
    ⟨zbZclClusterIdScenes, scenesAttrList, .server⟩,
    ⟨zbZclClusterIdGroups, groupsAttrList, .server⟩,
    ⟨zbZclClusterIdOnOff, onOffAttrList, .server⟩,
    ⟨zbZclClusterIdLevelControl, levelControlAttrList, .server⟩]

def dimmableLightClusters : List ZclClusterDesc :=
  zbDeclareDimmableLightClusterList basicAttrList identifyAttrList
    groupsAttrList scenesAttrList onOffAttrList levelControlAttrList

/-! The macro takes the Basic list second and the Identify list third; these
four pass them the other way round. -/

def onOffSwitchClusters1 : List ZclClusterDesc :=
  zbHaDeclareOnOffSwitchClusterList switchOnOffSwitchConfAttrList1
    identifyAttrList basicAttrList

def onOffSwitchClusters2 : List ZclClusterDesc :=
  zbHaDeclareOnOffSwitchClusterList switchOnOffSwitchConfAttrList2
    identifyAttrList basicAttrList

def onOffSwitchClusters3 : List ZclClusterDesc :=
  zbHaDeclareOnOffSwitchClusterList switchOnOffSwitchConfAttrList3
    identifyAttrList basicAttrList

def onOffSwitchClusters4 : List ZclClusterDesc :=
  zbHaDeclareOnOffSwitchClusterList switchOnOffSwitchConfAttrList4
    identifyAttrList basicAttrList

structure AfEndpointDesc where
  epId : UInt8
  clusterDescList : List ZclClusterDesc
deriving DecidableEq, Repr

def haDimmableLightEndpoint : UInt8 := 10

def dimmableLightEp : AfEndpointDesc :=
  ⟨haDimmableLightEndpoint, dimmableLightClusters⟩

def onOffSwitchEp1 : AfEndpointDesc :=
  ⟨haOnOffSwitchEndpoint1.toUInt8, onOffSwitchClusters1⟩
def onOffSwitchEp2 : AfEndpointDesc :=
  ⟨haOnOffSwitchEndpoint2.toUInt8, onOffSwitchClusters2⟩
def onOffSwitchEp3 : AfEndpointDesc :=
  ⟨haOnOffSwitchEndpoint3.toUInt8, onOffSwitchClusters3⟩
def onOffSwitchEp4 : AfEndpointDesc :=
  ⟨haOnOffSwitchEndpoint4.toUInt8, onOffSwitchClusters4⟩

def dimmableLightCtx : List AfEndpointDesc :=
  [dimmableLightEp, onOffSwitchEp1, onOffSwitchEp2, onOffSwitchEp3,
    onOffSwitchEp4]

/-! ### Attribute access -/

namespace ZclAttributes

variable (zcl : ZclAttributes)

/-- The first attribute with the identifier in the list of the server cluster. -/
def resolveIn (clusters : List ZclClusterDesc) (clusterId attrId : UInt16) :
    Option DevCtxField :=
  (clusters.find? fun desc =>
      desc.clusterId == clusterId && desc.role == .server).bind fun desc =>
    desc.attrDescList.find? fun f => zcl.attrId f == attrId

/-- The field an access to a server attribute goes to. -/
def resolve (endpoint : UInt8) (clusterId attrId : UInt16) :
    Option DevCtxField :=
  (dimmableLightCtx.find? fun ep => ep.epId == endpoint).bind fun ep =>
    zcl.resolveIn ep.clusterDescList clusterId attrId

variable {zcl}

/-- The bytes of an attribute. -/
def readAttr (endpoint : UInt8) (clusterId attrId : UInt16)
    (devCtx : DevCtx zcl) : Option (List UInt8) :=
  (zcl.resolve endpoint clusterId attrId).map fun f => List.ofFn (devCtx f)

/-- A write takes as many bytes of the value as the attribute has. -/
def writeAttr (endpoint : UInt8) (clusterId attrId : UInt16)
    (value : Nat → UInt8) (devCtx : DevCtx zcl) : DevCtx zcl :=
  match zcl.resolve endpoint clusterId attrId with
  | none => devCtx
  | some f => Function.update devCtx f fun i => value i

/-! ### Where the accesses go -/

theorem resolve_dimmableLight_identify (attrId : UInt16) :
    zcl.resolve haDimmableLightEndpoint zbZclClusterIdIdentify attrId =
      identifyAttrList.find? fun f => zcl.attrId f == attrId := rfl

theorem resolve_dimmableLight_basic (attrId : UInt16) :
    zcl.resolve haDimmableLightEndpoint zbZclClusterIdBasic attrId =
      basicAttrList.find? fun f => zcl.attrId f == attrId := rfl

/-- Through a switch endpoint the Identify cluster leads to the Basic fields. -/
theorem resolveIn_onOffSwitch_identify (conf : ZclAttrList) (attrId : UInt16) :
    zcl.resolveIn (zbHaDeclareOnOffSwitchClusterList conf identifyAttrList
        basicAttrList) zbZclClusterIdIdentify attrId =
      basicAttrList.find? fun f => zcl.attrId f == attrId := rfl

/-- On the four switch endpoints the two clusters have exchanged their lists. -/
theorem resolve_extBtnEndpoint (bpIi : Fin 4) (attrId : UInt16) :
    zcl.resolve (DongleState.extBtnEndpoint bpIi).toUInt8
        zbZclClusterIdIdentify attrId =
        (basicAttrList.find? fun f => zcl.attrId f == attrId) ∧
      zcl.resolve (DongleState.extBtnEndpoint bpIi).toUInt8
        zbZclClusterIdBasic attrId =
        (identifyAttrList.find? fun f => zcl.attrId f == attrId) := by
  match bpIi with
  | 0 | 1 | 2 | 3 => exact ⟨rfl, rfl⟩

/-- An Identify access that reaches the identify time came through the light
endpoint. -/
theorem resolve_identify_eq {endpoint : UInt8} {attrId : UInt16}
    (h : zcl.resolve endpoint zbZclClusterIdIdentify attrId =
      some .identifyTime) : endpoint = haDimmableLightEndpoint := by
  have hbasic : ∀ conf, zcl.resolveIn (zbHaDeclareOnOffSwitchClusterList conf
      identifyAttrList basicAttrList) zbZclClusterIdIdentify attrId ≠
        some .identifyTime := by
    intro conf hfind
    rw [resolveIn_onOffSwitch_identify] at hfind
    exact absurd (List.mem_of_find?_eq_some hfind) (by decide)
  by_contra hne
  rw [resolve, Option.bind_eq_some_iff] at h
  rcases h with ⟨ep, hep, hresolve⟩
  have hid : ep.epId = endpoint := by simpa using List.find?_some hep
  have hmem := List.mem_of_find?_eq_some hep
  simp only [dimmableLightCtx, List.mem_cons, List.not_mem_nil, or_false] at hmem
  rcases hmem with rfl | rfl | rfl | rfl | rfl
  · exact hne hid.symm
  · exact hbasic _ hresolve
  · exact hbasic _ hresolve
  · exact hbasic _ hresolve
  · exact hbasic _ hresolve

end ZclAttributes

/-- The fields of `dev_ctx.basic_attr`. -/
def DevCtxField.InBasicAttr : DevCtxField → Prop
  | .basicZclVersion | .basicAppVersion | .basicStackVersion | .basicHwVersion
  | .basicMfName | .basicModelId | .basicDateCode | .basicPowerSource
  | .basicLocationId | .basicPhEnv | .basicSwVer => True
  | _ => False

theorem mem_basicAttrList {f : DevCtxField} :
    f ∈ basicAttrList ↔ f.InBasicAttr := by
  cases f <;> simp [basicAttrList, DevCtxField.InBasicAttr]

open ZclAttributes

/-- Through this endpoint the Basic cluster leads to the Basic fields and the
Identify cluster to the identify time. -/
structure AttributesRouted (zcl : ZclAttributes) (endpoint : UInt8) : Prop where
  basic : ∀ attrId f,
    zcl.resolve endpoint zbZclClusterIdBasic attrId = some f → f.InBasicAttr
  identify : ∀ attrId f,
    zcl.resolve endpoint zbZclClusterIdIdentify attrId = some f →
      f = .identifyTime
  write_sets : ∀ (value : Nat → UInt8) (devCtx : DevCtx zcl) i,
    writeAttr endpoint zbZclClusterIdIdentify (zcl.attrId .identifyTime) value
      devCtx .identifyTime i = value i
  write_frame : ∀ (value : Nat → UInt8) (devCtx : DevCtx zcl) f, f.InBasicAttr →
    writeAttr endpoint zbZclClusterIdIdentify (zcl.attrId .identifyTime) value
      devCtx f = devCtx f
  read_eq : ∀ (devCtx : DevCtx zcl) f, f.InBasicAttr →
    readAttr endpoint zbZclClusterIdBasic (zcl.attrId f) devCtx =
      readAttr haDimmableLightEndpoint zbZclClusterIdBasic (zcl.attrId f) devCtx

theorem attributesRouted_dimmableLight (zcl : ZclAttributes) :
    AttributesRouted zcl haDimmableLightEndpoint := by
  have hself : zcl.resolve haDimmableLightEndpoint zbZclClusterIdIdentify
      (zcl.attrId .identifyTime) = some .identifyTime := by
    simp [resolve_dimmableLight_identify, identifyAttrList]
  refine ⟨?_, ?_, ?_, ?_, fun _ _ _ => rfl⟩
  · intro attrId f h
    rw [resolve_dimmableLight_basic] at h
    exact mem_basicAttrList.mp (List.mem_of_find?_eq_some h)
  · intro attrId f h
    rw [resolve_dimmableLight_identify] at h
    exact List.mem_singleton.mp (List.mem_of_find?_eq_some h)
  · intro value devCtx i
    simp only [writeAttr, hself, Function.update_self]
  · intro value devCtx f hf
    have hne : f ≠ .identifyTime := by
      rintro rfl
      exact hf
    simp only [writeAttr, hself, Function.update_of_ne hne]

/-- Only the light endpoint routes its attributes: the four switch endpoints
have the Basic and the Identify list exchanged. -/
theorem attributesRouted_iff (zcl : ZclAttributes) (endpoint : UInt8) :
    AttributesRouted zcl endpoint ↔ endpoint = haDimmableLightEndpoint := by
  constructor
  · intro h
    by_contra hne
    -- a write of ones to zeros, which the identify time does not see
    have hkept : writeAttr endpoint zbZclClusterIdIdentify
        (zcl.attrId .identifyTime) (fun _ => 1)
        (fun _ _ => 0 : DevCtx zcl) .identifyTime = fun _ => 0 := by
      cases hresolve : zcl.resolve endpoint zbZclClusterIdIdentify
          (zcl.attrId .identifyTime) with
      | none => simp only [writeAttr, hresolve]
      | some f =>
          simp only [writeAttr, hresolve]
          apply Function.update_of_ne
          rintro rfl
          exact hne (resolve_identify_eq hresolve)
    have hset := h.write_sets (fun _ => 1) (fun _ _ => 0)
      ⟨0, zcl.size_pos _⟩
    rw [hkept] at hset
    exact absurd hset (show ¬ (0 : UInt8) = 1 by decide)
  · rintro rfl
    exact attributesRouted_dimmableLight zcl

/-- The identifiers and sizes of the cluster library. -/
def ZclAttributes.library : ZclAttributes where
  attrId
    | .basicZclVersion | .identifyTime | .groupsNameSupport
    | .scenesSceneCount | .onOffOnOff | .levelControlCurrentLevel
    | .switchConfSwitchType _ => 0x0000
    | .basicAppVersion | .scenesCurrentScene
    | .levelControlRemainingTime => 0x0001
    | .basicStackVersion | .scenesCurrentGroup => 0x0002
    | .basicHwVersion | .scenesSceneValid => 0x0003
    | .basicMfName | .scenesNameSupport => 0x0004
    | .basicModelId => 0x0005
    | .basicDateCode => 0x0006
    | .basicPowerSource => 0x0007
    | .basicLocationId | .switchConfSwitchActions _ => 0x0010
    | .basicPhEnv => 0x0011
    | .basicSwVer => 0x4000
  size
    | .basicMfName | .basicModelId => 33
    | .basicDateCode | .basicLocationId | .basicSwVer => 17
    | .identifyTime | .scenesCurrentGroup | .levelControlRemainingTime => 2
    | _ => 1
  size_pos f := by cases f <;> exact Nat.succ_pos _

/-- An identify time of 5, written through endpoint 12, lands in the version of
the cluster library. -/
theorem not_attributesRouted_switch :
    ¬ ∀ zcl, ∀ ep ∈ dimmableLightCtx, AttributesRouted zcl ep.epId := by
  intro h
  have hframe := (h .library onOffSwitchEp1 (by decide)).write_frame
    (fun i => if i = 0 then 5 else 0) (fun _ _ => 3) .basicZclVersion trivial
  exact absurd (congrFun hframe ⟨0, by decide⟩) (by decide)

end ZbLightbulb
