import QoveryEngine.BuildPaths

/-!
# `write_kubeconfig_on_disk`

The cluster's kubeconfig is written to `kubeconfig_path`: the parent directory is created, the
file is created (or truncated) with `File::create` and the kubeconfig's bytes written into it.
Only then does the function read the file's metadata, refuse a kubeconfig of more than 16 KiB,
and set the file's mode to `0600`. Each of these file-system calls may fail; its result is an
input of the model, and the model follows the file left at each path.

`File::create` opens with `O_CREAT | O_TRUNC` and the mode `0666`: a new file gets that mode less
the process's umask, an existing file keeps its mode. Paths are compared as strings. The
directories that `fs::create_dir_all` creates are not followed: only its result is.
-/

namespace QoveryEngine

/-- A file: its bytes and its permission bits. -/
structure FileEntry where
  /-- The bytes. -/
  contents : List UInt8
  /-- The permission bits, such as `0o600`. -/
  mode : Nat
  deriving DecidableEq, Repr

/-- The files at each path, and the umask of the process. -/
structure FileSystem where
  /-- The file at a path, if any. -/
  files : String → Option FileEntry
  /-- The umask. -/
  umask : Nat

/-- The file system with `entry` at `path`. -/
def FileSystem.setFile (fs : FileSystem) (path : String) (entry : FileEntry) : FileSystem :=
  { fs with files := fun p => if p = path then some entry else fs.files p }

@[simp] theorem FileSystem.setFile_files (fs : FileSystem) (path : String) (entry : FileEntry)
    (p : String) : (fs.setFile path entry).files p = if p = path then some entry else fs.files p :=
  rfl

/-- The mode a file has once `File::create` opened it at `path`: its own when it exists, `0666`
less the umask otherwise. -/
def createdMode (fs : FileSystem) (path : String) : Nat :=
  match fs.files path with
  | some entry => entry.mode
  | none => 0o666 - (0o666 &&& fs.umask)

/-- What the file-system calls of `write_kubeconfig_on_disk` return. A failed `write_all` has
written some of the bytes first. -/
structure KubeconfigIo where
  /-- `fs::create_dir_all` of the parent: the error's text on failure. -/
  createDirAll : Except String Unit
  /-- `File::create`: the error's text on failure. -/
  create : Except String Unit
  /-- `write_all`: on failure, the number of bytes written and the error's text. -/
  writeAll : Except (Nat × String) Unit
  /-- `file.metadata()`: the error's text on failure. -/
  metadata : Except String Unit
  /-- `file.set_permissions`: the error's text on failure. -/
  setPermissions : Except String Unit

/-- The `EngineError`s `write_kubeconfig_on_disk` returns. -/
inductive KubeconfigError
  /-- `EngineError::new_cannot_create_file`, with the I/O error's text. -/
  | cannotCreateFile (error : String)
  /-- `EngineError::new_cannot_write_file`, with the I/O error's text. -/
  | cannotWriteFile (error : String)
  /-- `EngineError::new_cannot_retrieve_cluster_config_file`, with its `CommandError`'s message
  and details. -/
  | cannotRetrieveClusterConfigFile (message : String) (fullDetails : Option String)
  /-- `EngineError::new_kubeconfig_size_security_check_error`, with the size and the limit. -/
  | kubeconfigSizeSecurityCheckError (size maxSize : Nat)
  deriving DecidableEq, Repr

/-- `write_kubeconfig_on_disk(kubeconfig_path, kubeconfig, _)`, with `kubeconfig` as the bytes
`kubeconfig.as_bytes()` gives: the result and the file system left. `none` is the panic of
`.expect("Couldn't create kubeconfig folder parent path")` on a path without a parent. -/
def writeKubeconfigOnDisk (fs : FileSystem) (io : KubeconfigIo) (kubeconfigPath : String)
    (kubeconfig : List UInt8) : Option (Except KubeconfigError Unit × FileSystem) :=
  match parentPath kubeconfigPath with
  | none => none
  | some _ =>
    some <| match io.createDirAll with
    | .error err => (.error (.cannotCreateFile err), fs)
    | .ok () =>
      match io.create with
      | .error err => (.error (.cannotCreateFile err), fs)
      | .ok () =>
        let mode := createdMode fs kubeconfigPath
        match io.writeAll with
        | .error (written, err) =>
          (.error (.cannotWriteFile err), fs.setFile kubeconfigPath ⟨kubeconfig.take written, mode⟩)
        | .ok () =>
          let file := fs.setFile kubeconfigPath ⟨kubeconfig, mode⟩
          match io.metadata with
          | .error err =>
            (.error (.cannotRetrieveClusterConfigFile "Error getting file metadata." (some err)), file)
          | .ok () =>
            let maxSize := 16 * 1024
            if kubeconfig.length > maxSize then
              (.error (.kubeconfigSizeSecurityCheckError kubeconfig.length maxSize), file)
            else
              match io.setPermissions with
              | .error err =>
                (.error (.cannotRetrieveClusterConfigFile "Error getting file permissions." (some err)),
                  file)
              | .ok () => (.ok (), fs.setFile kubeconfigPath ⟨kubeconfig, 0o600⟩)

/-- A run whose calls succeed up to the size check, on a kubeconfig of more than 16 KiB, returns
the size error and leaves the file written, with the mode `File::create` gave it. -/
theorem writeKubeconfigOnDisk_oversized {fs : FileSystem} {io : KubeconfigIo} {kubeconfigPath : String}
    {kubeconfig : List UInt8} {parent : String} (hparent : parentPath kubeconfigPath = some parent)
    (hdir : io.createDirAll = .ok ()) (hcreate : io.create = .ok ()) (hwrite : io.writeAll = .ok ())
    (hmetadata : io.metadata = .ok ()) (hsize : 16384 < kubeconfig.length) :
    writeKubeconfigOnDisk fs io kubeconfigPath kubeconfig =
      some (.error (.kubeconfigSizeSecurityCheckError kubeconfig.length 16384),
        fs.setFile kubeconfigPath ⟨kubeconfig, createdMode fs kubeconfigPath⟩) := by
  rw [writeKubeconfigOnDisk, hparent]
  simp only [hdir, hcreate, hwrite, hmetadata]
  rw [if_pos hsize]

/-- A file system without files, with the usual umask `022`. -/
def emptyFileSystem : FileSystem := ⟨fun _ => none, 0o022⟩

/-- Every call succeeds. -/
def allCallsSucceed : KubeconfigIo := ⟨.ok (), .ok (), .ok (), .ok (), .ok ()⟩

/-- A kubeconfig of 16385 bytes. -/
def oversizedKubeconfig : List UInt8 := List.replicate 16385 0x61

/-- A kubeconfig of 16385 bytes, written to a new file while every call succeeds: the function
returns the size error, and leaves the kubeconfig on disk with the mode `0644`. -/
theorem oversized_kubeconfig_left_on_disk :
    writeKubeconfigOnDisk emptyFileSystem allCallsSucceed "/root/.kube/config" oversizedKubeconfig =
      some (.error (.kubeconfigSizeSecurityCheckError 16385 16384),
        emptyFileSystem.setFile "/root/.kube/config" ⟨oversizedKubeconfig, 0o644⟩) := by
  have hlen : oversizedKubeconfig.length = 16385 := List.length_replicate _ _
  rw [@writeKubeconfigOnDisk_oversized emptyFileSystem allCallsSucceed "/root/.kube/config"
    oversizedKubeconfig "/root/.kube" rfl rfl rfl rfl rfl (by omega), hlen]
  rfl

end QoveryEngine
