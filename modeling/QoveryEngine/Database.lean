import QoveryEngine.PodSelector
import QoveryEngine.SshKeys

/-!
# Databases

`Database::new` checks a database's settings before it builds the database. An instance type must
belong to the database's cloud provider, and the workspace directory must be created. A container
database (a managed one runs on an instance type) must request some CPU and some memory, each no
more than its limit. `get_database_with_invalid_storage_size` compares the disk size the database
asks for with the size of the one volume of its StatefulSet: a larger request is reported with the
PVC to resize, a smaller one is refused.

Scaleway's instance types (`cloud_provider/scaleway/database_instance_type.rs`) are printed in the
provider's format and parsed back from text, whatever its case and surrounding white space.

The calls to the cluster and the helpers that are not part of the sources (`to_short_id`,
`fs::workspace_directory`, `extract_volume_size`) are inputs of the model.
-/

namespace QoveryEngine

open Json

/-- `cloud_provider::Kind`, with the variants the sources name. -/
inductive Kind
  | aws
  | scw
  deriving DecidableEq, Repr

/-- `service::DatabaseType`. -/
inductive DatabaseType
  | postgreSQL
  | mongoDB
  | mySQL
  | redis
  deriving DecidableEq, Repr

/-- The `DatabaseMode` a database is built with. -/
inductive DatabaseMode
  /-- `Managed`: the cloud provider runs the database on one of its instance types. -/
  | managed
  /-- `Container`: the database runs in the cluster. -/
  | container
  deriving DecidableEq, Repr

/-- `DatabaseMode::is_managed`. -/
def DatabaseMode.isManaged : DatabaseMode → Bool
  | .managed => true
  | .container => false

/-- `DatabaseMode::is_container`. -/
def DatabaseMode.isContainer (mode : DatabaseMode) : Bool := !mode.isManaged

/-- A `dyn DatabaseInstanceType`, by the two methods `Database` calls. -/
structure DatabaseInstanceType where
  /-- `cloud_provider()`: the cloud provider the instance type belongs to. -/
  cloudProvider : Kind
  /-- `to_cloud_provider_format()`: the type's name as its provider writes it, such as
  `db-dev-s`. -/
  toCloudProviderFormat : String
  deriving DecidableEq, Repr

/-- The `DatabaseError`s of the modelled functions. -/
inductive DatabaseError
  /-- `InvalidConfig`, with its message. -/
  | invalidConfig (message : String)
  /-- `InvalidDatabaseInstance`: a text that names no instance type of the cloud provider. -/
  | invalidDatabaseInstance (requestedDatabaseInstanceType : String) (databaseCloudProvider : Kind)
  /-- `DatabaseInstanceTypeMismatchCloudProvider`: the instance type belongs to another cloud
  provider than the database. -/
  | databaseInstanceTypeMismatchCloudProvider (databaseInstanceTypeStr : String)
      (databaseCloudProvider : Kind)
  deriving DecidableEq, Repr

/-! ## `Database::new` -/

/-- The arguments of `Database::new` that it checks or keeps. -/
structure NewDatabase where
  /-- `long_id`: the service's identifier, which its Kubernetes labels carry. -/
  longId : String
  /-- `name`: the name the user gave the database. -/
  name : String
  /-- `kube_name`: the name of the database's Kubernetes objects. -/
  kubeName : String
  /-- `fqdn`: the domain name the database is reached at. -/
  fqdn : String
  /-- `fqdn_id`: the identifier of that domain name. -/
  fqdnId : String
  /-- `cpu_request_in_milli`: the CPU the database's pod requests, in millicores. -/
  cpuRequestInMilli : Nat
  /-- `cpu_limit_in_milli`: the CPU the pod may use at most, in millicores. -/
  cpuLimitInMilli : Nat
  /-- `ram_request_in_mib`: the memory the pod requests, in MiB. -/
  ramRequestInMib : Nat
  /-- `ram_limit_in_mib`: the memory the pod may use at most, in MiB. -/
  ramLimitInMib : Nat
  /-- `total_disk_size_in_gb`: the size of the database's disk, in GiB. -/
  totalDiskSizeInGb : Nat
  /-- `database_instance_type`: the cloud provider's instance type that runs a managed
  database, if one is given. -/
  databaseInstanceType : Option DatabaseInstanceType
  /-- `publicly_accessible`: whether the database can be reached from outside the cluster. -/
  publiclyAccessible : Bool
  /-- `private_port`: the port the database listens on inside the cluster. -/
  privatePort : Nat
  deriving DecidableEq, Repr

/-- `Database<C, M, T>`: its cloud provider `C`, mode `M` and type `T`, and the fields the modelled
functions set or read. CPU is in millicores (`KubernetesCpuResourceUnit::MilliCpu`), memory in MiB
(`KubernetesMemoryResourceUnit::MebiByte`). -/
structure Database where
  /-- `C::cloud_provider()`: the cloud provider of the type parameter `C`. -/
  cloudProvider : Kind
  /-- The type parameter `M`: whether the cloud provider manages the database or it runs in
  a container. -/
  mode : DatabaseMode
  /-- `T::db_type()`: the engine of the type parameter `T`. -/
  dbType : DatabaseType
  /-- `id`: `to_short_id(&long_id)`. -/
  id : String
  /-- `long_id`: the service's identifier, which its Kubernetes labels carry. -/
  longId : String
  /-- `name`: the name the user gave the database. -/
  name : String
  /-- `kube_name`: the name of the database's Kubernetes objects. -/
  kubeName : String
  /-- `fqdn`: the domain name the database is reached at. -/
  fqdn : String
  /-- `fqdn_id`: the identifier of that domain name. -/
  fqdnId : String
  /-- `cpu_request_in_milli`: the CPU the database's pod requests, in millicores. -/
  cpuRequestInMilli : Nat
  /-- `cpu_limit_in_milli`: the CPU the pod may use at most, in millicores. -/
  cpuLimitInMilli : Nat
  /-- `ram_request_in_mib`: the memory the pod requests, in MiB. -/
  ramRequestInMib : Nat
  /-- `ram_limit_in_mib`: the memory the pod may use at most, in MiB. -/
  ramLimitInMib : Nat
  /-- `total_disk_size_in_gb`: the size of the database's disk, in GiB. -/
  totalDiskSizeInGb : Nat
  /-- `database_instance_type`: the cloud provider's instance type that runs a managed
  database, if one is given. -/
  databaseInstanceType : Option DatabaseInstanceType
  /-- `publicly_accessible`: whether the database can be reached from outside the cluster. -/
  publiclyAccessible : Bool
  /-- `private_port`: the port the database listens on inside the cluster. -/
  privatePort : Nat
  /-- `workspace_directory`: the directory made for the database's files. -/
  workspaceDirectory : String
  deriving DecidableEq, Repr

/-- `Database::check_instance_type_validity`: the instance type belongs to the database's cloud
provider. -/
def checkInstanceTypeValidity (databaseInstanceType : DatabaseInstanceType)
    (databaseCloudProviderKind : Kind) : Except DatabaseError Unit :=
  if databaseInstanceType.cloudProvider ≠ databaseCloudProviderKind then
    .error (.databaseInstanceTypeMismatchCloudProvider databaseInstanceType.toCloudProviderFormat
      databaseCloudProviderKind)
  else .ok ()

/-- The two checks `Database::new` makes, in this order, on the request of a resource of a
container database: it is at most the limit, and it is not zero. -/
def checkResourceRequest (requestField limitField : String) (request limit : Nat) :
    Except DatabaseError Unit :=
  if request > limit then
    .error (.invalidConfig (requestField ++ " must be less or equal to " ++ limitField))
  else if request = 0 then .error (.invalidConfig (requestField ++ " must be greater than 0"))
  else .ok ()

/-- `Database::new` for a database of cloud provider `cloudProvider`, mode `mode` and type
`dbType`, with `shortId` the result of `to_short_id(&long_id)` and `workspaceDirectory` that of
`crate::fs::workspace_directory`. Each `?` is a `bind`. -/
def Database.new (cloudProvider : Kind) (mode : DatabaseMode) (dbType : DatabaseType)
    (args : NewDatabase) (shortId : String) (workspaceDirectory : Except String String) :
    Except DatabaseError Database :=
  (args.databaseInstanceType.elim (.ok ()) fun i => checkInstanceTypeValidity i cloudProvider).bind
    fun () =>
  (workspaceDirectory.mapError fun _ => .invalidConfig "Can't create workspace directory").bind
    fun workspaceDirectory =>
  (if mode.isContainer then
    (checkResourceRequest "cpu_request_in_milli" "cpu_limit_in_milli" args.cpuRequestInMilli
      args.cpuLimitInMilli).bind fun () =>
    checkResourceRequest "ram_request_in_mib" "ram_limit_in_mib" args.ramRequestInMib
      args.ramLimitInMib
  else .ok ()).bind fun () =>
  .ok
    { cloudProvider, mode, dbType
      id := shortId
      longId := args.longId
      name := args.name
      kubeName := args.kubeName
      fqdn := args.fqdn
      fqdnId := args.fqdnId
      cpuRequestInMilli := args.cpuRequestInMilli
      cpuLimitInMilli := args.cpuLimitInMilli
      ramRequestInMib := args.ramRequestInMib
      ramLimitInMib := args.ramLimitInMib
      totalDiskSizeInGb := args.totalDiskSizeInGb
      databaseInstanceType := args.databaseInstanceType
      publiclyAccessible := args.publiclyAccessible
      privatePort := args.privatePort
      workspaceDirectory }

/-- `Database::kube_label_selector`. -/
def Database.kubeLabelSelector (database : Database) : String :=
  "qovery.com/service-id=" ++ database.longId

/-! ## The size of the disk -/

/-- `VolumeResourceRequirements`: the quantity of each resource asked for, as text. -/
structure VolumeResourceRequirements where
  /-- `requests`: the quantity asked for each resource, by the resource's name. -/
  requests : Option (BTreeMap String)

/-- `PersistentVolumeClaimSpec`. -/
structure PersistentVolumeClaimSpec where
  /-- `resources`: the resources the claim asks for. -/
  resources : Option VolumeResourceRequirements

/-- A `PersistentVolumeClaim`, as a volume of a StatefulSet or as a listed claim. -/
structure PersistentVolumeClaim where
  /-- `metadata.name`: the claim's name. -/
  name : Option String
  /-- `spec`: what the claim asks for. -/
  spec : Option PersistentVolumeClaimSpec

/-- `InvalidPVCStorage`. -/
structure InvalidPVCStorage where
  /-- `pvc_name`: the name of the claim whose disk is too small. -/
  pvcName : String
  /-- `required_disk_size_in_gib`: the size the database asks for, in GiB. -/
  requiredDiskSizeInGib : Nat
  deriving DecidableEq, Repr

/-- `InvalidStatefulsetStorage`. -/
structure InvalidStatefulsetStorage where
  /-- `service_type`: `ServiceType::Database` of the database's type. -/
  serviceType : DatabaseType
  /-- `service_id`: the database's `long_id`. -/
  serviceId : String
  /-- `statefulset_selector`: the label selector the StatefulSet was found by. -/
  statefulsetSelector : String
  /-- `statefulset_name`: the StatefulSet's name. -/
  statefulsetName : String
  /-- `invalid_pvcs`: the claims whose disk is smaller than the size asked for. -/
  invalidPvcs : List InvalidPVCStorage
  deriving DecidableEq, Repr

/-- The `EngineError`s of `get_database_with_invalid_storage_size`. -/
inductive DatabaseStorageError
  /-- The error of `get_service_statefulset_name_and_volumes`, by its text. -/
  | statefulsetError (message : String)
  /-- `EngineError::new_service_missing_storage`, for the database's `long_id`. -/
  | serviceMissingStorage (serviceId : String)
  /-- `EngineError::new_cannot_parse_string`, with the text and the error of
  `extract_volume_size`. -/
  | cannotParseString (raw error : String)
  /-- `EngineError::new_k8s_cannot_get_pvcs`, with the namespace and the call's error. -/
  | k8sCannotGetPvcs (kubeNamespace error : String)
  /-- `EngineError::new_invalid_engine_payload`, with its message. -/
  | invalidEnginePayload (message : String)
  deriving DecidableEq, Repr

/-- The end of `get_database_with_invalid_storage_size` once the volume's storage is known to
hold `size` GiB. A larger disk asked for is reported with the first claim listed, when it has a
name; otherwise the check goes on, and refuses a smaller disk. `pvcs` is the result of
`kube_get_resources_by_selector` with the selector `app=<kube_name>`, made only when the disk
asked for is larger. -/
def compareStorageSize (database : Database) (kubeNamespace statefulsetName : String) (size : Nat)
    (pvcs : Except String (List PersistentVolumeClaim)) :
    Except DatabaseStorageError (Option InvalidStatefulsetStorage) :=
  let resized : Option (Except DatabaseStorageError (Option InvalidStatefulsetStorage)) :=
    if database.totalDiskSizeInGb > size then
      match pvcs with
      | .error e => some (.error (.k8sCannotGetPvcs kubeNamespace e))
      | .ok pvcs =>
        match pvcs.head? with
        | some pvc =>
          match pvc.name with
          | some pvcName =>
            some (.ok (some
              { serviceType := database.dbType
                serviceId := database.longId
                statefulsetSelector := database.kubeLabelSelector
                statefulsetName
                invalidPvcs := [⟨pvcName, database.totalDiskSizeInGb⟩] }))
          | none => none
        | none => none
    else none
  match resized with
  | some result => result
  | none =>
    if database.totalDiskSizeInGb < size then
      .error (.invalidEnginePayload ("new storage size (" ++ toString database.totalDiskSizeInGb ++
        ") should be equal or greater than actual size (" ++ toString size ++ ")"))
    else .ok none

/-- `get_database_with_invalid_storage_size` in the namespace `kubeNamespace`, with `statefulset` the
result of `get_service_statefulset_name_and_volumes`, `extractVolumeSize` that of
`unit_conversion::extract_volume_size`, and `pvcs` the claims listed. `none` is the panic of
`requests["storage"]` on requests without a `storage` entry. -/
def getDatabaseWithInvalidStorageSize (database : Database) (kubeNamespace : String)
    (statefulset : Except String (String × Option (List PersistentVolumeClaim)))
    (extractVolumeSize : String → Except String Nat)
    (pvcs : Except String (List PersistentVolumeClaim)) :
    Option (Except DatabaseStorageError (Option InvalidStatefulsetStorage)) :=
  match statefulset with
  | .error e => some (.error (.statefulsetError e))
  | .ok (statefulsetName, statefulsetVolumes) =>
    let storageErr := DatabaseStorageError.serviceMissingStorage database.longId
    match statefulsetVolumes with
    | none => some (.error storageErr)
    | some volumes =>
      if volumes.length > 1 then some (.error storageErr)
      else
        match volumes.head? with
        | none => some (.error storageErr)
        | some volume =>
          match volume.spec with
          | none => some (.ok none)
          | some spec =>
            match spec.resources with
            | none => some (.ok none)
            | some resources =>
              match resources.requests with
              | none => some (.ok none)
              | some requests =>
                (requests.get "storage").map fun storage =>
                  match extractVolumeSize storage with
                  | .error e => .error (.cannotParseString storage e)
                  | .ok size => compareStorageSize database kubeNamespace statefulsetName size pvcs

/-! ## Scaleway's instance types -/

/-- `ScwDatabaseInstanceType`. -/
inductive ScwDatabaseInstanceType
  | DB_DEV_S
  | DB_DEV_M
  | DB_GP_XS
  | DB_GP_S
  | DB_GP_M
  | RED1_MICRO
  deriving DecidableEq, Repr

namespace ScwDatabaseInstanceType

/-- `cloud_provider`. -/
def cloudProvider (_ : ScwDatabaseInstanceType) : Kind := .scw

/-- `to_cloud_provider_format`, which `Display` prints too. -/
def toCloudProviderFormat : ScwDatabaseInstanceType → String
  | DB_DEV_S => "db-dev-s"
  | DB_DEV_M => "db-dev-m"
  | DB_GP_XS => "db-gp-xs"
  | DB_GP_S => "db-gp-s"
  | DB_GP_M => "db-gp-m"
  | RED1_MICRO => "red1-micro"

/-- `is_instance_compatible_with`. -/
def isInstanceCompatibleWith : ScwDatabaseInstanceType → DatabaseType → Bool
  | DB_DEV_S, databaseType | DB_DEV_M, databaseType | DB_GP_XS, databaseType
  | DB_GP_S, databaseType | DB_GP_M, databaseType =>
    match databaseType with
    | .postgreSQL => true
    | .mongoDB => true
    | .mySQL => true
    | .redis => false
  | RED1_MICRO, databaseType =>
    match databaseType with
    | .postgreSQL => false
    | .mongoDB => false
    | .mySQL => false
    | .redis => true

/-- The instance type as the `dyn DatabaseInstanceType` a `Database` holds. -/
def toDatabaseInstanceType (t : ScwDatabaseInstanceType) : DatabaseInstanceType :=
  ⟨t.cloudProvider, t.toCloudProviderFormat⟩

end ScwDatabaseInstanceType

/-- `char::is_whitespace`: the characters of Unicode's `White_Space` property. -/
def charIsWhitespace (c : Char) : Bool :=
  (0x09 ≤ c.toNat && c.toNat ≤ 0x0D) || c.toNat == 0x20 || c.toNat == 0x85 || c.toNat == 0xA0 ||
    c.toNat == 0x1680 || (0x2000 ≤ c.toNat && c.toNat ≤ 0x200A) || c.toNat == 0x2028 ||
    c.toNat == 0x2029 || c.toNat == 0x202F || c.toNat == 0x205F || c.toNat == 0x3000

/-- `str::trim`: the text without its leading and trailing white space. -/
def strTrim (s : String) : String :=
  ⟨((s.data.dropWhile charIsWhitespace).reverse.dropWhile charIsWhitespace).reverse⟩

/-- `ScwDatabaseInstanceType::from_str`: the instance type whose name is the text, trimmed and in
lower case. `toLowercase` maps the ASCII letters only; the lower case of any other character is not
ASCII text, except that of `U+212A`, which is `k`, a letter none of the names has: the texts
accepted are those `str::to_lowercase` accepts. The error names the cloud provider `Aws`. -/
def scwDatabaseInstanceTypeFromStr (s : String) : Except DatabaseError ScwDatabaseInstanceType :=
  match toLowercase (strTrim s) with
  | "db-dev-s" => .ok .DB_DEV_S
  | "db-dev-m" => .ok .DB_DEV_M
  | "db-gp-xs" => .ok .DB_GP_XS
  | "db-gp-s" => .ok .DB_GP_S
  | "db-gp-m" => .ok .DB_GP_M
  | "red1-micro" => .ok .RED1_MICRO
  | _ => .error (.invalidDatabaseInstance s .aws)

end QoveryEngine
