import QoveryEngine.GitClone

/-!
# `LocalDocker::build`

`LocalDocker::build` (lines 494-755 of `build_platform/local_docker.rs`) builds an image from a
git repository, in stages that each return at once on failure: the abort check, the build
workspace, the removal of a repository left there by an earlier build, the clone, a second abort
check, the git-lfs files, the checks of the build context and of the Dockerfile, and last the
build itself, with Docker when a Dockerfile path is given and with Buildpacks otherwise. Once the
clone has succeeded, a scope guard removes the repository's directory whenever `build` returns.

`build_image_with_buildpacks` runs `pack` with each builder of `BUILDPACKS_BUILDERS` in turn,
until one succeeds. `build_image_with_docker` keeps the environment variables the Dockerfile
declares, skips the build when the image already exists in the registry, logs in to the
registries that have a password, each login retried with Fibonacci delays, provisions a builder
and runs the build. `provision_builder` spawns builders, named after the execution and a counter,
until one starts, the task is aborted, or ten minutes have passed.

The external calls (file system, git, git-lfs, Docker, `pack`) are inputs: their results at each
call. Beside its result, the model returns the calls the build makes, in order. Time enters only
through `provision_builder`'s deadline: each spawn attempt takes a given time, and each failed
one is followed by a sleep of one second.
-/

namespace QoveryEngine

/-! ## Strings -/

/-- `str::split` on a character, on characters, with `acc` the current piece reversed. -/
def splitCharAux (sep : Char) : List Char → List Char → List (List Char)
  | [], acc => [acc.reverse]
  | c :: cs, acc =>
    if c = sep then acc.reverse :: splitCharAux sep cs [] else splitCharAux sep cs (c :: acc)

/-- `str::split(sep)`: the pieces between the separators, empty ones included. -/
def strSplit (sep : Char) (s : String) : List String := (splitCharAux sep s.data []).map String.mk

/-- `str::rsplit_once(sep)`: the text before the last separator and the text after it. -/
def strRsplitOnce (sep : Char) (s : String) : Option (String × String) :=
  match s.data.reverse.span (· ≠ sep) with
  | (_, []) => none
  | (after, _ :: before) => some (⟨before.reverse⟩, ⟨after.reverse⟩)

/-- The calls `LocalDocker::build` makes, in order. -/
inductive BuildCall
  /-- `fs::remove_dir_all` of a directory. -/
  | removeDirAll (path : String)
  /-- An attempt or a sleep of the clone's retry loop. -/
  | gitClone (event : RetryEvent)
  /-- `GitLfs::checkout_files_for_commit`: the download of the repository's LFS files. -/
  | gitLfsCheckout
  /-- `fs::write` of a file. -/
  | write (path : String)
  /-- An attempt or a sleep of the login to the registry with this host. -/
  | dockerLogin (host : String) (event : RetryEvent)
  /-- `docker.spawn_builder`, with the builder's name. -/
  | spawnBuilder (name : String)
  /-- `thread::sleep`, in milliseconds. -/
  | sleep (ms : Nat)
  /-- `docker.build` of the Dockerfile in the build context, with the image's tags and the
  environment variables. -/
  | dockerBuild (dockerfile buildContext : String) (tags : List String)
      (envVars : List (String × String))
  /-- `docker.login_without_config_file`: a login to a registry. -/
  | loginWithoutConfigFile
  /-- `pack`, with its arguments. -/
  | pack (args : List String)
  deriving DecidableEq, Repr

/-- `cmd::command::CommandError`: how a command the build runs failed. -/
inductive CommandError
  | executionError (message : String)
  | exitStatusError (code : Option Int)
  | killed (message : String)
  | timeoutError (message : String)
  deriving DecidableEq, Repr

/-! ## `build_image_with_buildpacks` -/

/-- The fields of the build that `build_image_with_buildpacks` reads. -/
structure BuildpacksBuild where
  /-- `build.image.full_image_name()`: the image's name, without its tag. -/
  fullImageName : String
  /-- `build.image.full_image_name_with_tag()`: the image's name with its tag. -/
  fullImageNameWithTag : String
  /-- The platforms of `build.architectures`, as `Architecture::to_platform` writes them. -/
  platforms : List String
  /-- `build.environment_variables`, in iteration order. -/
  environmentVariables : List (String × String)
  /-- `build.git_repository.buildpack_language`: the language the user chose, if any. -/
  buildpackLanguage : Option String
  deriving DecidableEq, Repr

/-- What the calls of `build_image_with_buildpacks` return at the builder numbered `i`, from 0. -/
structure BuildpacksIo where
  /-- `fs::read_to_string` of the build context's `Procfile`. -/
  procfile : Nat → Except String String
  /-- `docker.login_without_config_file` at the login numbered `k`, from 0. -/
  login : Nat → Except String Unit
  /-- `exec_with_abort` of `pack`. -/
  pack : Nat → Except CommandError Unit

/-- The arguments of `pack` before the builder (lines 360-384). -/
def packArgs (b : BuildpacksBuild) (intoDirDockerStyle : String) (useBuildCache : Bool) :
    List String :=
  ["build", b.fullImageName ++ ":" ++ "latest", "--publish", "--tag", b.fullImageNameWithTag] ++
    (if !useBuildCache then ["--clear-cache"] else []) ++
    (if !b.platforms.isEmpty then ["--platform", ",".intercalate b.platforms] else []) ++
    ["--path", intoDirDockerStyle] ++
    b.environmentVariables.flatMap fun (key, value) => ["--env", key ++ "=" ++ value]

/-- Lines 388-413: `-b` and the language's builder, the text before its `@`; a language with more
than one `@` is refused. -/
def buildpackLanguageArgs : Option String → Except BuildError (List String)
  | none => .ok []
  | some language =>
    match strSplit '@' language with
    | [builder] => .ok ["-b", builder]
    | [builder, _version] => .ok ["-b", builder]
    | _ => .error (.invalidConfig
        ("Invalid buildpacks language format: expected `builder[@version]` got " ++ language))

/-- Lines 415-423: `--default-process worker` when the `Procfile` can be read and mentions
`worker`. -/
def procfileArgs : Except String String → List String
  | .ok content =>
    if containsChars "worker".data content.data then ["--default-process", "worker"] else []
  | .error _ => []

/-- The arguments of `pack` with the builder numbered `i`, named `builderName`, once the language
gave `languageArgs` (lines 360-423). -/
def packBuilderArgs (b : BuildpacksBuild) (intoDirDockerStyle : String) (useBuildCache : Bool)
    (io : BuildpacksIo) (languageArgs : List String) (i : Nat) (builderName : String) :
    List String :=
  packArgs b intoDirDockerStyle useBuildCache ++ ["-B", builderName] ++ languageArgs ++
    procfileArgs (io.procfile i)

/-- The `for` loop of `build_image_with_buildpacks` (lines 358-449) from the builder numbered `i`,
with `exitStatus` the last result of `pack`: an error that ends the function, or the exit status
the loop ends with; and the calls. -/
def buildpacksLoop (b : BuildpacksBuild) (intoDirDockerStyle : String) (useBuildCache : Bool)
    (io : BuildpacksIo) : Nat → List String → Except CommandError Unit →
    Except BuildError (Except CommandError Unit) × List BuildCall
  | _, [], exitStatus => (.ok exitStatus, [])
  | i, builderName :: rest, _ =>
    match buildpackLanguageArgs b.buildpackLanguage with
    | .error e => (.error e, [])
    | .ok languageArgs =>
      let args := packBuilderArgs b intoDirDockerStyle useBuildCache io languageArgs i builderName
      match io.login i with
      | .error _ => (.error .dockerError, [.loginWithoutConfigFile])
      | .ok () =>
        match io.pack i with
        | .ok () => (.ok (.ok ()), [.loginWithoutConfigFile, .pack args])
        | .error err =>
          let next := buildpacksLoop b intoDirDockerStyle useBuildCache io (i + 1) rest (.error err)
          (next.1, .loginWithoutConfigFile :: .pack args :: next.2)

/-- `build_image_with_buildpacks`: the loop over `BUILDPACKS_BUILDERS` from the exit status
"No builder names", then the mapping of the exit status (lines 451-460). -/
def buildImageWithBuildpacks (buildpacksBuilders : List String) (b : BuildpacksBuild)
    (intoDirDockerStyle : String) (useBuildCache : Bool) (io : BuildpacksIo) :
    Except BuildError Unit × List BuildCall :=
  match buildpacksLoop b intoDirDockerStyle useBuildCache io 0 buildpacksBuilders
      (.error (.executionError "No builder names")) with
  | (.error e, calls) => (.error e, calls)
  | (.ok (.ok ()), calls) => (.ok (), calls)
  | (.ok (.error (.killed _)), calls) => (.error .aborted, calls)
  | (.ok (.error _), calls) => (.error .buildpackError, calls)

/-! ## `provision_builder` -/

/-- The ten minutes `provision_builder` keeps trying, in milliseconds. -/
def provisionBuilderDeadline : Nat := 60 * 10 * 1000

/-- The error of `docker.spawn_builder`, with what `is_aborted` returns. -/
structure SpawnBuilderError where
  /-- `err.is_aborted()`: whether the build was cancelled while it waited. -/
  isAborted : Bool
  deriving DecidableEq, Repr

/-- What happens at the spawn attempt numbered `k`, from 0. -/
structure ProvisionIo where
  /-- `docker.spawn_builder` at the attempt numbered `k`, from 0. -/
  spawnBuilder : Nat → Except SpawnBuilderError Unit
  /-- The milliseconds from the end of the previous sleep (or from the deadline's setting) until
  `Instant::now()` is read after the attempt. -/
  attemptTime : Nat → Nat
  /-- `should_abort.should_abort().is_some()` once the attempt failed. -/
  shouldAbort : Nat → Bool

/-- `exec_id` (lines 281-286): the execution id up to its last `-`, or the whole id. -/
def builderExecId (executionId : String) : String :=
  ((strRsplitOnce '-' executionId).getD (executionId, "")).1

/-- The loop of `provision_builder` (lines 287-330) at its attempt `k`, with `counter` the value
`builder_counter.fetch_add(1)` returns and `elapsed` the milliseconds since the deadline was set.
It ends because each failed attempt that goes on sleeps for a second before the deadline. -/
def provisionBuilderLoop (execId : String) (io : ProvisionIo) (k counter elapsed : Nat) :
    Except BuildError Unit × List BuildCall :=
  let now := elapsed + io.attemptTime k
  let call := BuildCall.spawnBuilder (execId ++ "-" ++ toString counter)
  match io.spawnBuilder k with
  | .ok () => (.ok (), [call])
  | .error err =>
    if io.shouldAbort k then (.error .aborted, [call])
    else if h : err.isAborted || decide (provisionBuilderDeadline ≤ now) then
      (.error .dockerError, [call])
    else
      let next := provisionBuilderLoop execId io (k + 1) (counter + 1) (now + 1000)
      (next.1, call :: .sleep 1000 :: next.2)
termination_by provisionBuilderDeadline - elapsed
decreasing_by
  simp only [Bool.or_eq_true, decide_eq_true_eq, not_or, not_le] at h
  omega

/-- `provision_builder`: its loop from the first attempt, with `counter` the value of
`builder_counter`. -/
def provisionBuilder (executionId : String) (counter : Nat) (io : ProvisionIo) :
    Except BuildError Unit × List BuildCall :=
  provisionBuilderLoop (builderExecId executionId) io 0 counter 0

/-! ## `build_image_with_docker` -/

/-- A registry's URL with its credentials: its host and its password. -/
structure RegistryUrl where
  /-- `url.host_str()`: the registry's host. -/
  host : String
  /-- `url.password()`: the password, when the URL has one. -/
  password : Option String
  deriving DecidableEq, Repr

/-- A registry of `build.registries`. -/
structure Registry where
  /-- The registry is a `Registry::GcpArtifactRegistry`. -/
  isGcpArtifactRegistry : Bool
  /-- `registry.get_url_with_credentials()`: the registry's URL with its credentials, or
  the error's text. -/
  urlWithCredentials : Except String RegistryUrl

/-- `retry::delay::Fibonacci` from the delays `curr` and `next`, in milliseconds: its first `n`
delays, with `u64::checked_add` saturating at `u64::MAX`. -/
def fibonacciDelays (curr next : Nat) : Nat → List Nat
  | 0 => []
  | n + 1 => curr ::
    if curr + next < 2 ^ 64 then fibonacciDelays next (curr + next) n
    else fibonacciDelays next (2 ^ 64 - 1) n

/-- The delays of a registry login: `Fibonacci::from(Duration::from_secs(1)).take(4)`. -/
def dockerLoginDelays : List Nat := fibonacciDelays 1000 1000 4

/-- What the calls of `build_image_with_docker` return. -/
structure DockerIo where
  /-- `fs::read` of the Dockerfile. -/
  dockerfileContent : Except String String
  /-- `extract_dockerfile_args` of a Dockerfile's content: the names of its `ARG`s. -/
  extractDockerfileArgs : String → Except String (List String)
  /-- `build.compute_image_tag()`, from the environment variables the build keeps. -/
  computeImageTag : List (String × String) → String
  /-- `docker.does_image_exist_remotely` of the image to build. -/
  imageExistsRemotely : Except String Bool
  /-- `docker.login` to the registry numbered `i` (from 0), at the attempt numbered `n` (from 1). -/
  login : Nat → Nat → Except String Unit
  /-- `docker.build`, with its error as `to_build_error` maps it. -/
  dockerBuild : Except BuildError Unit

/-- The closure retried by the login loop of `build_image_with_docker`: the login to the
`i`-th registry at attempt `n`, every failure being retried. -/
def dockerLoginAttempt (io : DockerIo) (i n : Nat) : OperationResult Unit String :=
  match io.login i n with
  | .ok () => .ok ()
  | .error e => .retry e

/-- The registry logins of lines 146-190, from the registry numbered `i`. -/
def dockerLogins (io : DockerIo) : Nat → List Registry → Except BuildError Unit × List BuildCall
  | _, [] => (.ok (), [])
  | i, registry :: rest =>
    if registry.isGcpArtifactRegistry then dockerLogins io (i + 1) rest
    else
      match registry.urlWithCredentials with
      | .error _ => (.error .cannotGetCredentials, [])
      | .ok url =>
        if url.password.isNone then dockerLogins io (i + 1) rest
        else
          let login := retry dockerLoginDelays (dockerLoginAttempt io i)
          let calls := login.2.map (BuildCall.dockerLogin url.host)
          match login.1 with
          | .error _ => (.error .dockerError, calls)
          | .ok () =>
            let next := dockerLogins io (i + 1) rest
            (next.1, calls ++ next.2)

/-- Lines 146-229 of `build_image_with_docker`, once the image was not found in the registry:
the registries' logins, the builder's provisioning (`provision`), and `docker build` with the
image's two tags and the environment variables the Dockerfile declares. -/
def loginsAndBuild (registries : List Registry) (dockerfile buildContext tag : String)
    (envVars : List (String × String)) (io : DockerIo)
    (provision : Except BuildError Unit × List BuildCall) :
    Except BuildError Unit × List BuildCall :=
  match dockerLogins io 0 registries with
  | (.error e, calls) => (.error e, calls)
  | (.ok (), calls) =>
    match provision with
    | (.error e, provisionCalls) => (.error e, calls ++ provisionCalls)
    | (.ok (), provisionCalls) =>
      (io.dockerBuild,
        calls ++ provisionCalls ++ [.dockerBuild dockerfile buildContext [tag, "latest"] envVars])

/-- `build_image_with_docker` (lines 90-230) of the Dockerfile `dockerfile` in the build context
`buildContext`, with `provision` what `provision_builder` returns. -/
def buildImageWithDocker (environmentVariables : List (String × String))
    (registries : List Registry) (dockerfile buildContext : String) (io : DockerIo)
    (provision : Except BuildError Unit × List BuildCall) :
    Except BuildError Unit × List BuildCall :=
  match io.dockerfileContent with
  | .error _ => (.error (.ioError "reading dockerfile content"), [])
  | .ok content =>
    match io.extractDockerfileArgs content with
    | .error err =>
      (.error (.invalidConfig ("Cannot extract env vars from your dockerfile " ++ err)), [])
    | .ok dockerfileArgs =>
      let envVars := environmentVariables.filter fun (key, _) => dockerfileArgs.contains key
      let tag := io.computeImageTag envVars
      match io.imageExistsRemotely with
      | .ok true => (.ok (), [])
      | _ => loginsAndBuild registries dockerfile buildContext tag envVars io provision

/-! ## `LocalDocker::build` -/

/-- `MAX_GIT_LFS_SIZE_GB`. -/
def maxGitLfsSizeGb : Nat := 5

/-- `MAX_GIT_LFS_SIZE_KB`. -/
def maxGitLfsSizeKb : Nat := maxGitLfsSizeGb * 1024 * 1024

/-- `GitLfsError`. -/
inductive GitLfsError
  | aborted
  | timeout
  | executionError
  | exitStatusError
  deriving DecidableEq, Repr

/-- The fields of the build that `LocalDocker::build` reads. -/
structure LocalDockerBuild where
  /-- `build.image.service_id`: the identifier of the service the image is built for. -/
  serviceId : String
  /-- `build.git_repository`: the root path, the Dockerfile path and content. -/
  gitRepository : GitRepository
  /-- What the Buildpacks build reads: the image's names, the platforms, the environment
  variables, the language. -/
  image : BuildpacksBuild
  /-- `build.registries`: the registries to log in to before a Docker build. -/
  registries : List Registry
  /-- `build.disable_cache`: whether the build is made without Docker's cache. -/
  disableCache : Bool

/-- The `LocalDocker` the build runs on, and `BUILDPACKS_BUILDERS`. -/
structure LocalDockerConfig where
  /-- `context.execution_id()`: the identifier of the deployment the build belongs to. -/
  executionId : String
  /-- The value of `builder_counter`. -/
  builderCounter : Nat
  /-- `BUILDPACKS_BUILDERS`: the builder images, tried in order. -/
  buildpacksBuilders : List String

/-- What the calls of `LocalDocker::build` return. -/
structure LocalDockerIo where
  /-- `abort.status().should_cancel()` at the start. -/
  abortAtStart : Bool
  /-- `workspace_directory` of the build: the repository's directory. -/
  repositoryRootPath : Except String String
  /-- `repository_root_path.exists()`: whether the directory is there before the clone. -/
  repositoryExists : Bool
  /-- `fs::remove_dir_all` of the repository left by an earlier build. -/
  removeOldRepository : Except String Unit
  /-- `git::clone_at_commit` at each attempt, from 1. -/
  cloneAtCommit : Nat → Except BuildError Unit
  /-- `abort.status().should_cancel()` after the clone. -/
  abortAfterClone : Bool
  /-- `git_lfs.files_size_estimate_in_kb`: the size of the LFS files, or the error's text. -/
  lfsSizeEstimateKb : Except String Nat
  /-- `git_lfs.checkout_files_for_commit`: the result of downloading the LFS files. -/
  lfsCheckout : Except GitLfsError Unit
  /-- The file system once the repository is cloned. -/
  fs : BuildFs
  /-- The calls of `build_image_with_docker`. -/
  docker : DockerIo
  /-- The calls of `provision_builder`. -/
  provision : ProvisionIo
  /-- The calls of `build_image_with_buildpacks`. -/
  buildpacks : BuildpacksIo

/-- Lines 620-663: the git-lfs files, fetched when the size estimate (0 when it fails) is positive
and within `MAX_GIT_LFS_SIZE_KB`. -/
def gitLfsStage (sizeEstimate : Except String Nat) (checkout : Except GitLfsError Unit) :
    Except BuildError Unit × List BuildCall :=
  let sizeEstimateKb := sizeEstimate.toOption.getD 0
  if sizeEstimateKb > 0 then
    if sizeEstimateKb > maxGitLfsSizeKb then
      (.error (.invalidConfig
        ("GIT LFS files size are too big and are over the max allowed size of " ++
          toString maxGitLfsSizeGb ++ " GB")), [])
    else
      match checkout with
      | .ok () => (.ok (), [.gitLfsCheckout])
      | .error .aborted => (.error .aborted, [.gitLfsCheckout])
      | .error .timeout => (.error .aborted, [.gitLfsCheckout])
      | .error .executionError => (.error (.ioError "git lfs checkout"), [.gitLfsCheckout])
      | .error .exitStatusError => (.error (.ioError "git lfs checkout"), [.gitLfsCheckout])
  else (.ok (), [])

/-- The stages after the clone (lines 607-755), in the repository `root`: the result and the
calls, before the scope guard removes the repository. -/
def afterClone (cfg : LocalDockerConfig) (b : LocalDockerBuild) (io : LocalDockerIo)
    (root : String) :
    Except BuildError Unit × List BuildCall :=
  if io.abortAfterClone then (.error .aborted, [])
  else
    match gitLfsStage io.lfsSizeEstimateKb io.lfsCheckout with
    | (.error e, lfsCalls) => (.error e, lfsCalls)
    | (.ok (), lfsCalls) =>
      match localDockerBuildFiles io.fs root b.gitRepository with
      | (written, .error e) => (.error e, lfsCalls ++ written.map .write)
      | (written, .ok kind) =>
        let image := match kind with
          | .docker dockerfile buildContext =>
            buildImageWithDocker b.image.environmentVariables b.registries dockerfile buildContext
              io.docker (provisionBuilder cfg.executionId cfg.builderCounter io.provision)
          | .buildpacks =>
            buildImageWithBuildpacks cfg.buildpacksBuilders b.image
              (pathJoin root b.gitRepository.rootPath) (!b.disableCache) io.buildpacks
        (image.1, lfsCalls ++ written.map .write ++ image.2)

/-- Lines 544-553: the repository an earlier build left in the workspace `root` is removed. -/
def cleanupOldRepository (io : LocalDockerIo) (root : String) :
    Except BuildError Unit × List BuildCall :=
  if io.repositoryExists then
    (io.removeOldRepository.mapError fun _ => .ioError "cleaning old repository",
      [.removeDirAll root])
  else (.ok (), [])

/-- `LocalDocker::build`: the result and the calls. -/
def localDockerBuild (cfg : LocalDockerConfig) (b : LocalDockerBuild) (io : LocalDockerIo) :
    Except BuildError Unit × List BuildCall :=
  if io.abortAtStart then (.error .aborted, [])
  else
    match io.repositoryRootPath with
    | .error _ => (.error (.ioError "when creating build workspace"), [])
    | .ok root =>
      match cleanupOldRepository io root with
      | (.error e, calls) => (.error e, calls)
      | (.ok (), cleanupCalls) =>
        match gitCloneStage b.serviceId io.cloneAtCommit with
        | (.error e, events) => (.error e, cleanupCalls ++ events.map .gitClone)
        | (.ok (), events) =>
          -- from here on, the scope guard of line 608 removes the repository on every return
          let rest := afterClone cfg b io root
          (rest.1, cleanupCalls ++ events.map .gitClone ++ rest.2 ++ [.removeDirAll root])

/-! ## `sanitized_git_url` -/

/-- Lines 274-282 of `io_models/mod.rs`, the `-+` of the regular expression: each run of `-`
replaced by one. -/
def collapseDashes : List Char → List Char
  | [] => []
  | c :: cs => if c = '-' ∧ cs.head? = some '-' then collapseDashes cs else c :: collapseDashes cs

/-- Lines 275-277 of `io_models/mod.rs`, at one character: `to_ascii_lowercase`, then `-` in
place of a character that is not an ASCII letter or digit. -/
def sanitizedChar (c : Char) : Char := if c.toLower.isAlphanum then c.toLower else '-'

/-- `sanitized_git_url`: the URL in ASCII lower case, each character that is not an ASCII letter
or digit replaced by `-`, then each run of `-` replaced by one. -/
def sanitizedGitUrl (gitUrl : String) : String :=
  ⟨collapseDashes (gitUrl.data.map sanitizedChar)⟩

end QoveryEngine
