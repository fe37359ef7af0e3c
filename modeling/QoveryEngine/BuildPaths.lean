import Mathlib

/-!
# The paths of `LocalDocker::build`

`normalize_root_and_dockerfile_path` turns the user's root path into a relative path and joins
the Dockerfile path onto it. `LocalDocker::build` then checks the build context (the root path
joined onto the repository's directory): it must be a directory, and once canonical it must lie
under the repository's directory. When the build carries the Dockerfile's content, it writes the
Dockerfile at the repository's directory joined with the Dockerfile path, and a `.dockerignore`
next to it. No check guards these two writes.

Paths are Unix paths: `Path::join` appends with a separator, and an absolute path replaces what
it is joined onto. Containment is decided on the components once `.` and `..` are resolved,
with `..` at the top of an absolute path staying there. `canonicalize` is that resolution on a
path that exists, which is what it computes when no symbolic link is involved.
-/

namespace QoveryEngine

/-! ## Paths -/

/-- `Path::is_absolute` on Unix: the path starts with `/`. -/
def isAbsolutePath (p : String) : Bool := p.data.head? == some '/'

/-- `str::trim_start_matches('/')`. -/
def trimStartSlashes (s : String) : String := ⟨s.data.dropWhile (· = '/')⟩

/-- `Path::join`: an absolute path replaces the base; otherwise it is appended, after a
separator unless the base is empty or already ends with one. -/
def pathJoin (base p : String) : String :=
  if isAbsolutePath p then p
  else if base.data.getLast?.all (· = '/') then base ++ p
  else base ++ "/" ++ p

/-- The pieces of a path between its separators. -/
def splitPath : List Char → List Char → List String
  | [], cur => [String.mk cur.reverse]
  | c :: cs, cur => if c = '/' then String.mk cur.reverse :: splitPath cs [] else splitPath cs (c :: cur)

/-- `Path::components` without the root: the pieces that are neither empty nor `.`. -/
def pathComponents (p : String) : List String :=
  (splitPath p.data []).filter fun c => c ≠ "" ∧ c ≠ "."

/-- The components once `..` is resolved against what precedes it. -/
def resolvePath (p : String) : List String :=
  (pathComponents p).foldl (fun acc c => if c = ".." then acc.dropLast else acc ++ [c]) []

/-- `Path::parent`, component-wise: the path without its last component; none for a path
without components. -/
def parentPath (p : String) : Option String :=
  match pathComponents p with
  | [] => none
  | cs => some ((if isAbsolutePath p then "/" else "") ++ "/".intercalate cs.dropLast)

/-- `p` lies inside `root` once `.` and `..` are resolved. -/
def isWithin (root p : String) : Bool := (resolvePath root).isPrefixOf (resolvePath p)

/-! ## `normalize_root_and_dockerfile_path` -/

/-- `normalize_root_and_dockerfile_path`: the root path without its leading separators, and the
Dockerfile path (without its leading separators) joined onto it. `none` is the panic of its
`assert!(root_path.is_relative())`. -/
def normalizeRootAndDockerfilePath (rootPath : String) (dockerfilePath : Option String) :
    Option (String × Option String) :=
  let rootPath := if isAbsolutePath rootPath then trimStartSlashes rootPath else rootPath
  if isAbsolutePath rootPath then none
  else
    some (rootPath, dockerfilePath.map fun path =>
      if isAbsolutePath path then pathJoin rootPath (trimStartSlashes path)
      else pathJoin rootPath path)

theorem isAbsolutePath_trimStartSlashes (s : String) : isAbsolutePath (trimStartSlashes s) = false := by
  simp only [isAbsolutePath, trimStartSlashes]
  cases h : s.data.dropWhile (· = '/') with
  | nil => rfl
  | cons c cs =>
    have := List.head_dropWhile_not (· = '/') s.data (by simp [h])
    simp_all

/-- The assertion of `normalize_root_and_dockerfile_path` always holds. -/
theorem normalizeRootAndDockerfilePath_isSome (rootPath : String) (dockerfilePath : Option String) :
    (normalizeRootAndDockerfilePath rootPath dockerfilePath).isSome := by
  unfold normalizeRootAndDockerfilePath
  by_cases h : isAbsolutePath rootPath <;> simp [h, isAbsolutePath_trimStartSlashes]

/-! ## The end of `LocalDocker::build` -/

/-- The fields of `build.git_repository` the end of the build reads. -/
structure GitRepository where
  /-- `root_path`: the build context, relative to the repository. -/
  rootPath : String
  /-- `dockerfile_path`, as `normalize_root_and_dockerfile_path` produced it. -/
  dockerfilePath : Option String
  /-- `dockerfile_content`: a Dockerfile to write before the build. -/
  dockerfileContent : Option String
  deriving DecidableEq, Repr

/-- What the file system answers: which paths are directories, which are files, and where a file
can be written. -/
structure BuildFs where
  /-- `Path::is_dir`: whether a path names a directory. -/
  isDir : String → Bool
  /-- `Path::is_file`, before the build writes anything. -/
  isFile : String → Bool
  /-- `fs::write` succeeds. -/
  writable : String → Bool

/-- `git2::ErrorClass`. -/
inductive ErrorClass
  | none | noMemory | os | invalid | reference | zlib | repository | config | regex | odb | index
  | object | net | tag | tree | indexer | ssl | submodule | thread | stash | checkout | fetchHead
  | merge | ssh | filter | revert | callback | cherryPick | describe | rebase | filesystem | patch
  | worktree | sha1 | http
  deriving DecidableEq, Repr

/-- `git2::Error`, with what `class()` and `message()` return. -/
structure Git2Error where
  /-- `class()`: the class of the error, such as `Net` or `Http`. -/
  errorClass : ErrorClass
  /-- `message()`: the error's text. -/
  message : String
  deriving DecidableEq, Repr

/-- The `BuildError`s of `LocalDocker::build`, with the fields the modelled code reads. -/
inductive BuildError
  /-- `BuildError::InvalidConfig` with its message. -/
  | invalidConfig (rawErrorMessage : String)
  /-- `BuildError::IoError` with its action description. -/
  | ioError (actionDescription : String)
  /-- `BuildError::GitError` with its application, git command, context and `git2` error. -/
  | gitError (application gitCmd context : String) (rawError : Git2Error)
  /-- `BuildError::Aborted`: the build was cancelled. -/
  | aborted
  /-- `BuildError::DockerError`: a Docker login, build or builder failed. -/
  | dockerError
  /-- `BuildError::BuildpackError`: a Buildpacks build failed. -/
  | buildpackError
  /-- `BuildError::CannotGetCredentials`: a registry's URL with its credentials
  could not be made. -/
  | cannotGetCredentials
  deriving DecidableEq, Repr

/-- How the image is built. -/
inductive BuildKind
  /-- `build_image_with_docker` with the Dockerfile and the build context. -/
  | docker (dockerfile buildContext : String)
  /-- Buildpacks, when no Dockerfile path is given. -/
  | buildpacks
  deriving DecidableEq, Repr

/-- `{:?}` of a path, without the escapes of special characters. -/
def debugPath (p : String) : String := "\"" ++ p ++ "\""

/-- `canonicalize().unwrap_or_default()`, as components: the resolved path when it exists, the
empty path otherwise. -/
def canonicalComponents (fs : BuildFs) (p : String) : List String :=
  if fs.isDir p || fs.isFile p then resolvePath p else []

/-- Lines 698-716: with the Dockerfile's content, write the Dockerfile, then a `.dockerignore`
in its directory. The paths written, in order, and whether a write failed. -/
def writeDockerfile (fs : BuildFs) (dockerfileAbsolutePath : String) :
    Option String → List String × Except BuildError Unit
  | none => ([], .ok ())
  | some _ =>
    if !fs.writable dockerfileAbsolutePath then ([], .error (.ioError "writing dockerfile content"))
    else
      match parentPath dockerfileAbsolutePath with
      | none => ([dockerfileAbsolutePath], .ok ())
      | some dockerfileDirectory =>
        let dockerIgnorePath := pathJoin dockerfileDirectory ".dockerignore"
        if !fs.writable dockerIgnorePath then
          ([dockerfileAbsolutePath], .error (.ioError "writing .dockerignore content"))
        else ([dockerfileAbsolutePath, dockerIgnorePath], .ok ())

/-- Lines 665-727: the checks of the build context, the files written (in order), and the build
started. -/
def localDockerBuildFiles (fs : BuildFs) (repositoryRootPath : String) (git : GitRepository) :
    List String × Except BuildError BuildKind :=
  let buildContextPath := pathJoin repositoryRootPath git.rootPath
  if !fs.isDir buildContextPath then
    ([], .error (.invalidConfig ("Specified build context path " ++ debugPath git.rootPath ++
      " does not exist within the repository")))
  else if !(canonicalComponents fs repositoryRootPath).isPrefixOf
      (canonicalComponents fs buildContextPath) then
    ([], .error (.invalidConfig ("Specified build context path " ++ debugPath git.rootPath ++
      " tries to access directory outside of his git repository")))
  else
    match git.dockerfilePath with
    | none => ([], .ok .buildpacks)
    | some dockerfilePath =>
      let dockerfileAbsolutePath := pathJoin repositoryRootPath dockerfilePath
      match writeDockerfile fs dockerfileAbsolutePath git.dockerfileContent with
      | (written, .error e) => (written, .error e)
      | (written, .ok ()) =>
        if !(fs.isFile dockerfileAbsolutePath || written.contains dockerfileAbsolutePath) then
          (written, .error (.invalidConfig ("Specified dockerfile path " ++
            debugPath dockerfilePath ++ " does not exist within the repository")))
        else (written, .ok (.docker dockerfileAbsolutePath buildContextPath))

/-- The build context of a started Docker build lies under the repository's directory, once
both are canonical. -/
theorem buildContext_within {fs : BuildFs} {repositoryRootPath : String} {git : GitRepository}
    {dockerfile buildContext : String}
    (h : (localDockerBuildFiles fs repositoryRootPath git).2 = .ok (.docker dockerfile buildContext)) :
    buildContext = pathJoin repositoryRootPath git.rootPath ∧
      (canonicalComponents fs repositoryRootPath).isPrefixOf (canonicalComponents fs buildContext) := by
  unfold localDockerBuildFiles at h
  dsimp only at h
  split_ifs at h with hdir hprefix
  split at h
  · cases h
  · split at h
    · cases h
    · split_ifs at h
      cases h
      simp_all

/-- A repository cloned in a build workspace. -/
def sampleRepositoryRoot : String := "/workspace/execution-1/build/app-image"

/-- A file system where the repository and its directory `app` exist, with nothing in them. -/
def appDirectoryFs : BuildFs where
  isDir p := resolvePath p = resolvePath sampleRepositoryRoot ∨
    resolvePath p = resolvePath sampleRepositoryRoot ++ ["app"]
  isFile _ := false
  writable _ := true

/-- With the root path `app` and the Dockerfile path `../../x`, both checks of the build context
pass, and the build writes the Dockerfile and the `.dockerignore` outside the repository, in the
directory that holds it. -/
theorem dockerfile_written_outside_repository :
    normalizeRootAndDockerfilePath "app" (some "../../x") = some ("app", some "app/../../x") ∧
    localDockerBuildFiles appDirectoryFs sampleRepositoryRoot
        ⟨"app", some "app/../../x", some "FROM scratch"⟩ =
      ([sampleRepositoryRoot ++ "/app/../../x", sampleRepositoryRoot ++ "/app/../../.dockerignore"],
        .ok (.docker (sampleRepositoryRoot ++ "/app/../../x") (sampleRepositoryRoot ++ "/app"))) ∧
    isWithin sampleRepositoryRoot (sampleRepositoryRoot ++ "/app/../../x") = false ∧
    isWithin sampleRepositoryRoot (sampleRepositoryRoot ++ "/app/../../.dockerignore") = false :=
  ⟨rfl, rfl, rfl, rfl⟩

end QoveryEngine
