import Preflight.ControlPlane.Snapshot
import Preflight.PlanSummary
import Preflight.Proofs.Edits

/-!
# The forms of what is kept

Configurations, machines, volumes, snapshots, requests for releases and summaries are kept as JSON.
Each type is described once, by its fields with the defaults of those that may be left out; then
every edit that the description allows leaves the value as it was (`formsReadBack`), down to the
records inside of records.

Two types need something of the value.  The counts of a group summary have to be counts of 64 bits.
The definition in a request is a document of any kind, which has to be readable and must not name a
member twice; the form of a configuration is such a document, so that the request for a release
keeps the configuration that it was made of.
-/

namespace Preflight

open Codec RecordField RecordType

/-! ## Names -/

instance : Editable CpuKind := .ofPlain CpuKind

instance : Editable RolloutStrategy := .ofPlain RolloutStrategy

instance : Editable ImageSource := .ofPlain ImageSource

@[simp] theorem roundTrips_cpuKind (kind : CpuKind) : RoundTrips kind := by
  cases kind <;> rfl

@[simp] theorem roundTrips_rolloutStrategy (strategy : RolloutStrategy) : RoundTrips strategy := by
  cases strategy <;> rfl

@[simp] theorem roundTrips_imageSource (source : ImageSource) : RoundTrips source := by
  cases source <;> rfl

/-! ## Configurations -/

instance : RecordType MountSpec where
  fields := [.needed "source" (·.source), .needed "destination" (·.destination),
    .defaulted "processes" (·.processes) []]

@[simp] theorem roundTrips_mountSpec (m : MountSpec) : RoundTrips m :=
  roundTrips_of_fields (by simp [fields])

instance : RecordType DeploySection where
  fields := [.defaulted "strategy" (·.strategy) none,
    .defaulted "release_command" (·.releaseCommand) none]

@[simp] theorem roundTrips_deploySection (d : DeploySection) : RoundTrips d :=
  roundTrips_of_fields (by simp [fields])

instance : RecordType AppConfig where
  fields := [.defaulted "app_name" (·.appName) "",
    .defaulted "primary_region" (·.primaryRegion) "", .defaulted "env" (·.env) ∅,
    .defaulted "processes" (·.processes) ∅, .defaulted "mounts" (·.mounts) [],
    .defaulted "deploy" (·.deploy) none]

theorem roundTrips_appConfig (c : AppConfig) : RoundTrips c :=
  roundTrips_of_fields (by simp [fields])

instance : RecordType AppHandle where
  fields := [.needed "name" (·.name), .defaulted "deployed" (·.deployed) false]

@[simp] theorem roundTrips_appHandle (a : AppHandle) : RoundTrips a :=
  roundTrips_of_fields (by simp [fields])

/-! ## What the platform reports -/

instance : RecordType MachineMount where
  fields := [.needed "volume" (·.volume), .defaulted "name" (·.name) "",
    .defaulted "path" (·.path) ""]

@[simp] theorem roundTrips_machineMount (m : MachineMount) : RoundTrips m :=
  roundTrips_of_fields (by simp [fields])

instance : RecordType Machine where
  fields := [.needed "id" (·.id), .defaulted "name" (·.name) "", .defaulted "region" (·.region) "",
    .defaulted "state" (·.state) "", .needed "image" (·.image),
    .defaulted "metadata" (·.metadata) ∅, .defaulted "mounts" (·.mounts) []]

@[simp] theorem roundTrips_machine (m : Machine) : RoundTrips m :=
  roundTrips_of_fields (by simp [fields])

instance : RecordType Volume where
  fields := [.needed "id" (·.id), .needed "name" (·.name), .defaulted "region" (·.region) "",
    .defaulted "size_gb" (·.sizeGb) 0, .defaulted "attached_machine" (·.attachedMachine) none,
    .defaulted "attached_allocation" (·.attachedAllocation) none]

@[simp] theorem roundTrips_volume (v : Volume) : RoundTrips v :=
  roundTrips_of_fields (by simp [fields])

instance : RecordType Snapshot where
  fields := [.defaulted "app" (·.app) none, .defaulted "machines" (·.machines) [],
    .defaulted "volumes" (·.volumes) [], .defaulted "current_image" (·.currentImage) none]

theorem roundTrips_snapshot (s : Snapshot) : RoundTrips s :=
  roundTrips_of_fields (by simp [fields])

/-! ## What a preparation decides -/

instance : RecordType GuestSpec where
  fields := [.needed "cpu_kind" (·.cpuKind), .needed "cpus" (·.cpus),
    .needed "memory_mb" (·.memory)]

@[simp] theorem roundTrips_guestSpec (g : GuestSpec) : RoundTrips g :=
  roundTrips_of_fields (by simp [fields])

instance : RecordType ResolvedImage where
  fields := [.needed "reference" (·.reference), .needed "source" (·.source)]

theorem roundTrips_resolvedImage (i : ResolvedImage) : RoundTrips i :=
  roundTrips_of_fields (by simp [fields])

instance : RecordType GroupSummary where
  fields := [.needed "name" (·.name), .needed "machines" (·.machines),
    .defaulted "mount" (·.mount) none, .needed "reservable" (·.reservable)]

/-- The counts are counts of 64 bits. -/
structure GroupSummary.HasCounts (g : GroupSummary) : Prop where
  machines : g.machines < UInt64.size
  reservable : g.reservable < UInt64.size

theorem roundTrips_groupSummary {g : GroupSummary} (h : g.HasCounts) : RoundTrips g :=
  roundTrips_of_fields (by simp [fields, roundTrips_nat h.machines, roundTrips_nat h.reservable])

instance : RecordType PlanSummary where
  fields := [.needed "app" (·.app), .needed "release_id" (·.releaseId),
    .needed "release_version" (·.releaseVersion), .needed "image" (·.image),
    .needed "image_source" (·.imageSource), .needed "strategy" (·.strategy),
    .defaulted "guest" (·.guest) none, .needed "wait_timeout" (·.waitTimeout),
    .needed "lease_timeout" (·.leaseTimeout),
    .needed "lease_delay_between" (·.leaseDelayBetween), .needed "first_deploy" (·.firstDeploy),
    .needed "skip_health_checks" (·.skipHealthChecks),
    .needed "restart_only" (·.restartOnly), .needed "groups" (·.groups),
    .defaulted "release_command_machine" (·.releaseCommandMachine) none]

theorem roundTrips_planSummary {s : PlanSummary} (h : ∀ g ∈ s.groups, g.HasCounts) :
    RoundTrips s := by
  have hgroups : RoundTrips s.groups := roundTrips_list fun g hg => roundTrips_groupSummary (h g hg)
  exact roundTrips_of_fields (by simp [fields, hgroups])

/-! ## Requests for releases -/

instance : RecordType ReleaseInput where
  fields := [.needed "app_id" (·.appId), .needed "platform_version" (·.platformVersion),
    .needed "strategy" (·.strategy), .needed "definition" (·.definition),
    .needed "image" (·.image)]

theorem roundTrips_releaseInput {i : ReleaseInput} (h : i.definition.IsDocument) :
    RoundTrips i := by
  have hdefinition : RoundTrips i.definition := roundTrips_of_isDocument h
  exact roundTrips_of_fields (by simp [fields, hdefinition])

@[simp] theorem isDocument_mountSpec (m : MountSpec) : (encode m).IsDocument :=
  isDocument_of_fields (by simp [fields, needed, defaulted])

@[simp] theorem isDocument_deploySection (d : DeploySection) : (encode d).IsDocument :=
  isDocument_of_fields (by simp [fields, defaulted])

/-- A configuration is written as a document. -/
theorem isDocument_appConfig (c : AppConfig) : (encode c).IsDocument :=
  isDocument_of_fields (by simp [fields, defaulted])

/-! ## Every form -/

/-- Each edited form of the value is read as the value. -/
def ReadsBack {α : Type} [Codec α] [Editable α] (a : α) : Prop :=
  ∀ j, EditedForm a j → decode j = some a

/-- Whatever is kept is read back from each of its edited forms, the unedited one among them. -/
structure FormsReadBack : Prop where
  appConfig : ∀ c : AppConfig, ReadsBack c
  mountSpec : ∀ m : MountSpec, ReadsBack m
  deploySection : ∀ d : DeploySection, ReadsBack d
  appHandle : ∀ a : AppHandle, ReadsBack a
  machine : ∀ m : Machine, ReadsBack m
  machineMount : ∀ m : MachineMount, ReadsBack m
  volume : ∀ v : Volume, ReadsBack v
  snapshot : ∀ s : Snapshot, ReadsBack s
  guestSpec : ∀ g : GuestSpec, ReadsBack g
  resolvedImage : ∀ i : ResolvedImage, ReadsBack i
  groupSummary : ∀ g : GroupSummary, g.HasCounts → ReadsBack g
  planSummary : ∀ s : PlanSummary, (∀ g ∈ s.groups, g.HasCounts) → ReadsBack s
  releaseInput : ∀ i : ReleaseInput, i.definition.IsDocument → ReadsBack i
  /-- The definition in a request for a release is read as the configuration of the plan. -/
  definition : ∀ session config strategy image j,
    EditedForm (ReleaseRecorder.request session config strategy image) j →
    ∃ input : ReleaseInput, decode j = some input ∧ decode input.definition = some config

theorem formsReadBack : FormsReadBack where
  appConfig c _ := decode_of_editedForm (roundTrips_appConfig c)
  mountSpec m _ := decode_of_editedForm (roundTrips_mountSpec m)
  deploySection d _ := decode_of_editedForm (roundTrips_deploySection d)
  appHandle a _ := decode_of_editedForm (roundTrips_appHandle a)
  machine m _ := decode_of_editedForm (roundTrips_machine m)
  machineMount m _ := decode_of_editedForm (roundTrips_machineMount m)
  volume v _ := decode_of_editedForm (roundTrips_volume v)
  snapshot s _ := decode_of_editedForm (roundTrips_snapshot s)
  guestSpec g _ := decode_of_editedForm (roundTrips_guestSpec g)
  resolvedImage i _ := decode_of_editedForm (roundTrips_resolvedImage i)
  groupSummary _ h _ := decode_of_editedForm (roundTrips_groupSummary h)
  planSummary _ h _ := decode_of_editedForm (roundTrips_planSummary h)
  releaseInput _ h _ := decode_of_editedForm (roundTrips_releaseInput h)
  definition := by
    intro session config strategy image j hj
    have hround : RoundTrips (ReleaseRecorder.request session config strategy image) :=
      roundTrips_releaseInput (isDocument_appConfig config)
    exact ⟨_, decode_of_editedForm hround hj, roundTrips_appConfig config⟩

/-- A snapshot from which the lists and the image are left out, with a member that nobody knows, and
with a handle from which the flag is left out; and a group whose members are turned round. -/
theorem newShop_readsBack :
    let s : Snapshot := { app := some ⟨"shop", false⟩ }
    let j : Json :=
      .record [("note", .list [.unreadable]), ("app", .record [("name", .text "shop")])]
    let g : GroupSummary := { name := "web", machines := 2, mount := none, reservable := 0 }
    let k : Json := .record [("reservable", .int 0), ("machines", .int 2), ("name", .text "web")]
    (EditedForm s j ∧ decode j = some s) ∧ g.HasCounts ∧ EditedForm g k ∧ decode k = some g := by
  intro s j g k
  have hs : EditedForm s j := by
    have hflag : Edits (Editable.shape (Option AppHandle))
        (.record ([("name", .text "shop")] ++ ("deployed", .bool false) :: []))
        (.record ([("name", .text "shop")] ++ [])) :=
      Edits.drop (.tail _ (.head _))
    have hmachines : Edits (Editable.shape Snapshot)
        (.record ([("app", encode s.app)] ++
          ("machines", .list []) :: [("volumes", .list []), ("current_image", .null)]))
        (.record ([("app", encode s.app)] ++
          [("volumes", .list []), ("current_image", .null)])) :=
      Edits.drop (.tail _ (.head _))
    have hvolumes : Edits (Editable.shape Snapshot)
        (.record ([("app", encode s.app)] ++ ("volumes", .list []) :: [("current_image", .null)]))
        (.record ([("app", encode s.app)] ++ [("current_image", .null)])) :=
      Edits.drop (.tail _ (.tail _ (.head _)))
    have himage : Edits (Editable.shape Snapshot)
        (.record ([("app", encode s.app)] ++ ("current_image", .null) :: []))
        (.record ([("app", encode s.app)] ++ [])) :=
      Edits.drop (.tail _ (.tail _ (.tail _ (.head _))))
    have happ : Edits (Editable.shape Snapshot)
        (.record ([] ++ ("app", encode s.app) :: []))
        (.record ([] ++ ("app", .record [("name", .text "shop")]) :: [])) :=
      Edits.field (.head _) hflag
    have hnote : Edits (Editable.shape Snapshot)
        (.record ([] ++ [("app", .record [("name", .text "shop")])])) j :=
      Edits.add (by decide)
    exact hmachines.trans (hvolumes.trans (himage.trans (happ.trans hnote)))
  have hcounts : g.HasCounts := ⟨by decide, by decide⟩
  have hg : EditedForm g k := by
    have hmount : Edits (Editable.shape GroupSummary)
        (.record ([("name", .text "web"), ("machines", .int 2)] ++
          ("mount", .null) :: [("reservable", .int 0)]))
        (.record ([("name", .text "web"), ("machines", .int 2)] ++ [("reservable", .int 0)])) :=
      Edits.drop (.tail _ (.tail _ (.head _)))
    exact hmount.tail (.reorder (List.reverse_perm _).symm)
  exact ⟨⟨hs, formsReadBack.snapshot s j hs⟩, hcounts, hg,
    formsReadBack.groupSummary g hcounts k hg⟩

end Preflight
