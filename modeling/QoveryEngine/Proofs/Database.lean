import QoveryEngine.Database

/-!
# Proofs: databases

`Database::new` builds a database exactly when its instance type belongs to its cloud provider,
the workspace directory is created, and, for a container database, CPU and memory are requested
within their limits; every database it builds keeps these facts, and every error it returns is
that of the first check that fails, naming what it checks. The storage check reports a larger
disk with the claim to resize, refuses a smaller one, and lets an equal one pass; it needs
exactly one volume, and panics on a volume whose requests have no `storage` entry. Scaleway's
instance types are read back from their own format, whatever the case and the white space around
it.
-/

namespace QoveryEngine

open Json

/-! ## `Database::new` -/

theorem bind_eq_error {ε α β : Type} {x : Except ε α} {f : α → Except ε β} {e : ε} :
    x.bind f = .error e ↔ x = .error e ∨ ∃ a, x = .ok a ∧ f a = .error e := by
  cases x <;> simp only [Except.bind, Except.error.injEq, Except.ok.injEq, reduceCtorEq, false_and,
    exists_false, or_false, exists_eq_left', false_or]

theorem mapError_eq_ok {ε ε' α : Type} {x : Except ε α} {f : ε → ε'} {a : α} :
    x.mapError f = .ok a ↔ x = .ok a := by
  cases x <;> simp [Except.mapError]

theorem mapError_eq_error {ε ε' α : Type} {x : Except ε α} {f : ε → ε'} {e : ε'} :
    x.mapError f = .error e ↔ ∃ e₀, x = .error e₀ ∧ f e₀ = e := by
  cases x <;> simp only [Except.mapError, Except.error.injEq, reduceCtorEq, false_and, exists_false,
    exists_eq_left']

/-- A resource's request passes both checks exactly when it is positive and within its limit. -/
theorem checkResourceRequest_eq_ok_iff (requestField limitField : String) (request limit : Nat) :
    checkResourceRequest requestField limitField request limit = .ok () ↔ 0 < request ∧ request ≤ limit := by
  unfold checkResourceRequest
  split_ifs <;> simp <;> omega

/-- A refused request is one outside its bounds, and the message names the request. -/
theorem checkResourceRequest_eq_error {requestField limitField : String} {request limit : Nat}
    {e : DatabaseError} (h : checkResourceRequest requestField limitField request limit = .error e) :
    ¬ (0 < request ∧ request ≤ limit) ∧ ∃ rest, e = .invalidConfig (requestField ++ rest) := by
  unfold checkResourceRequest at h
  split_ifs at h with hgt hzero <;> cases h
  · exact ⟨by omega, _, by rw [String.append_assoc]⟩
  · exact ⟨by omega, _, rfl⟩

section New

variable (cloudProvider : Kind) (mode : DatabaseMode) (args : NewDatabase)

theorem instanceTypeCheck_eq_ok_iff :
    (args.databaseInstanceType.elim (.ok ()) fun i => checkInstanceTypeValidity i cloudProvider) =
      .ok () ↔ ∀ i ∈ args.databaseInstanceType, i.cloudProvider = cloudProvider := by
  rcases args.databaseInstanceType with _ | i
  · simp
  · by_cases h : i.cloudProvider = cloudProvider <;> simp [checkInstanceTypeValidity, h]

theorem resourceChecks_eq_ok_iff :
    (if mode.isContainer then
      (checkResourceRequest "cpu_request_in_milli" "cpu_limit_in_milli" args.cpuRequestInMilli
        args.cpuLimitInMilli).bind fun () =>
      checkResourceRequest "ram_request_in_mib" "ram_limit_in_mib" args.ramRequestInMib
        args.ramLimitInMib
    else .ok ()) = .ok () ↔
      (mode.isContainer → 0 < args.cpuRequestInMilli ∧ args.cpuRequestInMilli ≤ args.cpuLimitInMilli ∧
        0 < args.ramRequestInMib ∧ args.ramRequestInMib ≤ args.ramLimitInMib) := by
  split_ifs with h
  · simp only [bind_eq_ok, Unique.exists_iff, PUnit.default_eq_unit, checkResourceRequest_eq_ok_iff,
      h, true_implies, and_assoc]
  · simp [h]

end New

/-- What `Database::new` guarantees of every database it builds. -/
structure Database.Valid (database : Database) : Prop where
  /-- The instance type, if any, belongs to the database's cloud provider. -/
  instanceTypeOfCloudProvider :
    ∀ i ∈ database.databaseInstanceType, i.cloudProvider = database.cloudProvider
  /-- A container database requests some CPU, no more than its limit. -/
  cpuWithinLimit : database.mode.isContainer →
    0 < database.cpuRequestInMilli ∧ database.cpuRequestInMilli ≤ database.cpuLimitInMilli
  /-- A container database requests some memory, no more than its limit. -/
  ramWithinLimit : database.mode.isContainer →
    0 < database.ramRequestInMib ∧ database.ramRequestInMib ≤ database.ramLimitInMib

/-- `Database::new` builds a database exactly when the instance type, if any, belongs to the cloud
provider, the workspace directory is created, and a container database requests some CPU and some
memory, each within its limit. -/
theorem Database.new_ok_iff (cloudProvider : Kind) (mode : DatabaseMode) (dbType : DatabaseType)
    (args : NewDatabase) (shortId : String) (workspaceDirectory : Except String String) :
    (∃ database, Database.new cloudProvider mode dbType args shortId workspaceDirectory = .ok database) ↔
      (∀ i ∈ args.databaseInstanceType, i.cloudProvider = cloudProvider) ∧
      (∃ dir, workspaceDirectory = .ok dir) ∧
      (mode.isContainer → 0 < args.cpuRequestInMilli ∧ args.cpuRequestInMilli ≤ args.cpuLimitInMilli ∧
        0 < args.ramRequestInMib ∧ args.ramRequestInMib ≤ args.ramLimitInMib) := by
  simp only [Database.new, bind_eq_ok, Unique.exists_iff, PUnit.default_eq_unit, mapError_eq_ok,
    instanceTypeCheck_eq_ok_iff, resourceChecks_eq_ok_iff]
  constructor
  · rintro ⟨-, hinstance, dir, hdir, hresources, -⟩
    exact ⟨hinstance, ⟨dir, hdir⟩, hresources⟩
  · rintro ⟨hinstance, ⟨dir, hdir⟩, hresources⟩
    exact ⟨_, hinstance, dir, hdir, hresources, rfl⟩

/-- Every database `Database::new` builds is valid. -/
theorem Database.new_valid {cloudProvider : Kind} {mode : DatabaseMode} {dbType : DatabaseType}
    {args : NewDatabase} {shortId : String} {workspaceDirectory : Except String String}
    {database : Database}
    (h : Database.new cloudProvider mode dbType args shortId workspaceDirectory = .ok database) :
    database.Valid := by
  simp only [Database.new, bind_eq_ok, Unique.exists_iff, PUnit.default_eq_unit, mapError_eq_ok,
    instanceTypeCheck_eq_ok_iff, resourceChecks_eq_ok_iff, Except.ok.injEq] at h
  obtain ⟨hinstance, dir, -, hresources, rfl⟩ := h
  exact ⟨hinstance, fun hc => ⟨(hresources hc).1, (hresources hc).2.1⟩, fun hc => (hresources hc).2.2⟩

/-- An error of `Database::new` is that of the first check that fails: an instance type of another
cloud provider, named by its format; then the workspace directory; then, for a container database,
the CPU request and then the memory request, each error naming the request it refuses. -/
theorem Database.new_error {cloudProvider : Kind} {mode : DatabaseMode} {dbType : DatabaseType}
    {args : NewDatabase} {shortId : String} {workspaceDirectory : Except String String}
    {e : DatabaseError}
    (h : Database.new cloudProvider mode dbType args shortId workspaceDirectory = .error e) :
    (∃ i, args.databaseInstanceType = some i ∧ i.cloudProvider ≠ cloudProvider ∧
        e = .databaseInstanceTypeMismatchCloudProvider i.toCloudProviderFormat cloudProvider) ∨
      (∀ i ∈ args.databaseInstanceType, i.cloudProvider = cloudProvider) ∧
        ((∃ error, workspaceDirectory = .error error) ∧ e = .invalidConfig "Can't create workspace directory" ∨
          (∃ dir, workspaceDirectory = .ok dir) ∧ mode.isContainer ∧
            ((¬ (0 < args.cpuRequestInMilli ∧ args.cpuRequestInMilli ≤ args.cpuLimitInMilli) ∧
                ∃ rest, e = .invalidConfig ("cpu_request_in_milli" ++ rest)) ∨
              (0 < args.cpuRequestInMilli ∧ args.cpuRequestInMilli ≤ args.cpuLimitInMilli ∧
                ¬ (0 < args.ramRequestInMib ∧ args.ramRequestInMib ≤ args.ramLimitInMib) ∧
                ∃ rest, e = .invalidConfig ("ram_request_in_mib" ++ rest)))) := by
  simp only [Database.new, bind_eq_error, Unique.exists_iff, PUnit.default_eq_unit,
    instanceTypeCheck_eq_ok_iff, mapError_eq_ok, mapError_eq_error] at h
  rcases h with hinstance | ⟨hinstance, h⟩
  · -- the instance type belongs to another cloud provider
    left
    rcases hi : args.databaseInstanceType with _ | i
    · simp [hi] at hinstance
    · simp only [hi, Option.elim, checkInstanceTypeValidity] at hinstance
      split_ifs at hinstance with hne
      cases hinstance
      exact ⟨i, rfl, hne, rfl⟩
  right
  refine ⟨hinstance, ?_⟩
  rcases h with ⟨error, hdir, rfl⟩ | ⟨dir, hdir, h⟩
  · exact .inl ⟨⟨error, hdir⟩, rfl⟩
  right
  refine ⟨⟨dir, hdir⟩, ?_⟩
  -- the resource checks of a container database; the record built is never an error
  rcases h with h | ⟨_, -, h⟩
  split_ifs at h with hc
  rcases bind_eq_error.mp h with hcpu | ⟨_, hcpu, hram⟩
  · exact ⟨hc, .inl (checkResourceRequest_eq_error hcpu)⟩
  · exact ⟨hc, .inr ⟨((checkResourceRequest_eq_ok_iff _ _ _ _).mp hcpu).1,
      ((checkResourceRequest_eq_ok_iff _ _ _ _).mp hcpu).2, checkResourceRequest_eq_error hram⟩⟩

/-! ## The size of the disk -/

/-- The quantities a claim asks for: its `spec.resources.requests`, when all three are set. -/
def PersistentVolumeClaim.requests (volume : PersistentVolumeClaim) : Option (BTreeMap String) :=
  (volume.spec.bind PersistentVolumeClaimSpec.resources).bind VolumeResourceRequirements.requests

section Storage

variable (database : Database) (kubeNamespace statefulsetName : String)
  (extractVolumeSize : String → Except String Nat) (pvcs : Except String (List PersistentVolumeClaim))

/-- With one volume, the check reads its requests. -/
theorem getDatabaseWithInvalidStorageSize_single (volume : PersistentVolumeClaim) :
    getDatabaseWithInvalidStorageSize database kubeNamespace (.ok (statefulsetName, some [volume]))
        extractVolumeSize pvcs =
      match volume.requests with
      | none => some (.ok none)
      | some requests =>
        (requests.get "storage").map fun storage =>
          match extractVolumeSize storage with
          | .error e => .error (.cannotParseString storage e)
          | .ok size => compareStorageSize database kubeNamespace statefulsetName size pvcs := by
  rcases volume with ⟨name, _ | ⟨_ | ⟨_ | requests⟩⟩⟩ <;> rfl

/-- The comparison never reports a missing volume. -/
theorem compareStorageSize_ne_serviceMissingStorage (size : Nat) (serviceId : String) :
    compareStorageSize database kubeNamespace statefulsetName size pvcs ≠
      .error (.serviceMissingStorage serviceId) := by
  unfold compareStorageSize
  split_ifs <;> (try rcases pvcs with e | (_ | ⟨⟨_ | pvcName, spec⟩, pvcs⟩)) <;> simp

/-- The disk size asked for, against the volume's: when the StatefulSet has one volume whose
requests hold a `storage` quantity that `extract_volume_size` reads as `size` GiB, a larger disk
asked for is reported with the first claim listed and the size asked for, once that claim has a
name, and passes unreported otherwise; a smaller one is refused with a message giving both sizes; an
equal one passes. -/
theorem getDatabaseWithInvalidStorageSize_of_storage (volume : PersistentVolumeClaim) {requests : BTreeMap String}
    {storage : String} {size : Nat} (hrequests : volume.requests = some requests)
    (hstorage : requests.get "storage" = some storage) (hsize : extractVolumeSize storage = .ok size) :
    getDatabaseWithInvalidStorageSize database kubeNamespace (.ok (statefulsetName, some [volume]))
        extractVolumeSize pvcs =
      some (if size < database.totalDiskSizeInGb then
        match pvcs with
        | .error e => .error (.k8sCannotGetPvcs kubeNamespace e)
        | .ok pvcs => .ok ((pvcs.head?.bind PersistentVolumeClaim.name).map fun pvcName =>
          { serviceType := database.dbType
            serviceId := database.longId
            statefulsetSelector := database.kubeLabelSelector
            statefulsetName
            invalidPvcs := [⟨pvcName, database.totalDiskSizeInGb⟩] })
      else if database.totalDiskSizeInGb < size then
        .error (.invalidEnginePayload ("new storage size (" ++ toString database.totalDiskSizeInGb ++
          ") should be equal or greater than actual size (" ++ toString size ++ ")"))
      else .ok none) := by
  rw [getDatabaseWithInvalidStorageSize_single, hrequests]
  simp only [hstorage, hsize, Option.map_some', compareStorageSize, gt_iff_lt]
  split_ifs with hlarger hsmaller
  · omega
  · rcases pvcs with e | (_ | ⟨⟨_ | pvcName, spec⟩, pvcs⟩) <;> rfl
  · rfl
  · rfl

/-- Without exactly one volume, the storage is missing. -/
theorem getDatabaseWithInvalidStorageSize_of_not_single {volumes : Option (List PersistentVolumeClaim)}
    (h : ∀ volume, volumes ≠ some [volume]) :
    getDatabaseWithInvalidStorageSize database kubeNamespace (.ok (statefulsetName, volumes))
      extractVolumeSize pvcs = some (.error (.serviceMissingStorage database.longId)) := by
  rcases volumes with _ | (_ | ⟨volume, _ | ⟨other, volumes⟩⟩)
  · rfl
  · rfl
  · exact absurd rfl (h volume)
  · exact if_pos (Nat.succ_lt_succ (Nat.succ_pos _))

/-- The storage check fails with `service_missing_storage` exactly when the StatefulSet does not
have exactly one volume, and panics exactly when that volume asks for quantities without a `storage`
entry. -/
theorem getDatabaseWithInvalidStorageSize_failures (volumes : Option (List PersistentVolumeClaim)) :
    (getDatabaseWithInvalidStorageSize database kubeNamespace (.ok (statefulsetName, volumes))
        extractVolumeSize pvcs = some (.error (.serviceMissingStorage database.longId)) ↔
      ∀ volume, volumes ≠ some [volume]) ∧
    (getDatabaseWithInvalidStorageSize database kubeNamespace (.ok (statefulsetName, volumes))
        extractVolumeSize pvcs = none ↔
      ∃ volume requests, volumes = some [volume] ∧ volume.requests = some requests ∧
        requests.get "storage" = none) := by
  by_cases hsingle : ∃ volume, volumes = some [volume]
  · -- one volume: the check reads its requests
    obtain ⟨volume, rfl⟩ := hsingle
    simp only [getDatabaseWithInvalidStorageSize_single, ne_eq, Option.some.injEq, List.singleton_inj,
      exists_and_left, exists_eq_left', forall_eq', not_true_eq_false, iff_false]
    cases volume.requests with
    | none => simp only [Option.some.injEq, reduceCtorEq, not_false_eq_true, false_and, exists_false,
        and_self]
    | some requests =>
      cases hstorage : requests.get "storage" with
      | none => simp only [hstorage, Option.map_none', reduceCtorEq, not_false_eq_true, Option.some.injEq,
          exists_eq_left', and_self]
      | some storage =>
        cases hsize : extractVolumeSize storage <;>
          simp only [hstorage, hsize, Option.map_some', Option.some.injEq, Except.error.injEq, reduceCtorEq,
            compareStorageSize_ne_serviceMissingStorage, not_false_eq_true, exists_eq_left', and_self]
  · -- no volume, or several
    push_neg at hsingle
    rw [getDatabaseWithInvalidStorageSize_of_not_single database kubeNamespace statefulsetName
      extractVolumeSize pvcs hsingle]
    exact ⟨iff_of_true rfl hsingle, iff_of_false (Option.some_ne_none _) fun ⟨v, _, hv, _⟩ => hsingle v hv⟩

end Storage

/-! ## Scaleway's instance types -/

theorem scwDatabaseInstanceTypeFromStr_ok_or_error (s : String) :
    (∃ t, scwDatabaseInstanceTypeFromStr s = .ok t) ∨
      scwDatabaseInstanceTypeFromStr s = .error (.invalidDatabaseInstance s .aws) := by
  unfold scwDatabaseInstanceTypeFromStr
  split <;> simp only [Except.ok.injEq, exists_eq', true_or, or_true]

theorem scwDatabaseInstanceTypeFromStr_eq_ok_iff (s : String) (t : ScwDatabaseInstanceType) :
    scwDatabaseInstanceTypeFromStr s = .ok t ↔ toLowercase (strTrim s) = t.toCloudProviderFormat := by
  unfold scwDatabaseInstanceTypeFromStr
  generalize toLowercase (strTrim s) = x
  constructor
  · split <;> rintro ⟨⟩ <;> rfl
  · rintro rfl
    cases t <;> rfl

/-- `from_str` reads a text as the instance type whose format is the text trimmed and in lower case,
and fails, on any other text, with the text as given and the cloud provider `Aws`. -/
theorem scwDatabaseInstanceTypeFromStr_spec (s : String) :
    (∀ t, scwDatabaseInstanceTypeFromStr s = .ok t ↔
      toLowercase (strTrim s) = t.toCloudProviderFormat) ∧
    (∀ e, scwDatabaseInstanceTypeFromStr s = .error e ↔ e = .invalidDatabaseInstance s .aws ∧
        ∀ t : ScwDatabaseInstanceType, toLowercase (strTrim s) ≠ t.toCloudProviderFormat) := by
  refine ⟨scwDatabaseInstanceTypeFromStr_eq_ok_iff s, fun e => ?_⟩
  simp only [ne_eq, ← scwDatabaseInstanceTypeFromStr_eq_ok_iff]
  rcases scwDatabaseInstanceTypeFromStr_ok_or_error s with ⟨t, ht⟩ | h
  · simp [ht]
  · simp [h, eq_comm]

/-- Each Scaleway instance type is read back from its own format. Each is compatible with Redis
exactly when it is `red1-micro`, and with the other engines exactly when it is not. Each passes the
instance-type check of `Database::new` exactly for a Scaleway database. -/
theorem ScwDatabaseInstanceType.fromStr_toCloudProviderFormat (t : ScwDatabaseInstanceType) :
    scwDatabaseInstanceTypeFromStr t.toCloudProviderFormat = .ok t ∧
    (∀ databaseType, t.isInstanceCompatibleWith databaseType = true ↔
      (t = .RED1_MICRO ↔ databaseType = .redis)) ∧
    (∀ cloudProvider, checkInstanceTypeValidity t.toDatabaseInstanceType cloudProvider = .ok () ↔
      cloudProvider = .scw) := by
  refine ⟨(scwDatabaseInstanceTypeFromStr_eq_ok_iff _ _).mpr (by cases t <;> rfl),
    fun databaseType => ?_, fun cloudProvider => ?_⟩
  · cases t <;> cases databaseType <;> decide
  · cases cloudProvider <;> simp [checkInstanceTypeValidity, ScwDatabaseInstanceType.toDatabaseInstanceType,
      ScwDatabaseInstanceType.cloudProvider]

end QoveryEngine
