import QoveryEngine.LocalDocker

/-!
# Proofs: `LocalDocker::build`

The stages of a build, each for every sequence of results of the calls it makes:

* `build_image_with_buildpacks` tries the builders in order, each at most once, and stops at the
  first `pack` that succeeds; it fails with the last run's error when none does;
* `provision_builder` ends after at most 601 attempts, a second apart, within its ten minutes;
* `build_image_with_docker` succeeds exactly when the image is in the registry, or every registry
  that needs a login logs in at one of its five attempts and the builder and `docker build` succeed.

Over the whole build: once the repository is cloned its directory is removed by the build's last
call, and nothing else removes a directory; and a build that succeeds cloned the repository and
produced the image the repository's files select. Last, `sanitized_git_url` gives a normal form.
-/

namespace QoveryEngine

/-! ## `build_image_with_buildpacks` -/

section Buildpacks

variable (b : BuildpacksBuild) (intoDirDockerStyle : String) (useBuildCache : Bool)
  (io : BuildpacksIo) (languageArgs : List String)

/-- The calls for the builders `builders`, numbered from `i`: a login and a run of `pack` each. -/
def packRuns : Nat → List String → List BuildCall
  | _, [] => []
  | i, builderName :: rest => .loginWithoutConfigFile ::
      .pack (packBuilderArgs b intoDirDockerStyle useBuildCache io languageArgs i builderName) ::
      packRuns (i + 1) rest

variable {b intoDirDockerStyle useBuildCache io languageArgs}

/-- The loop over the builders, from the builder numbered `i`: the builders before the `k`-th
were logged in and failed, and the `k`-th is the last, failed to log in, or succeeded. -/
theorem buildpacksLoop_run (hlang : buildpackLanguageArgs b.buildpackLanguage = .ok languageArgs) :
    ∀ (builders : List String) (i : Nat) (exitStatus : Except CommandError Unit), builders ≠ [] →
    ∃ k < builders.length, (∀ j < k, io.login (i + j) = .ok () ∧ io.pack (i + j) ≠ .ok ()) ∧
      (k + 1 = builders.length ∨ io.login (i + k) ≠ .ok () ∨ io.pack (i + k) = .ok ()) ∧
      buildpacksLoop b intoDirDockerStyle useBuildCache io i builders exitStatus =
        match io.login (i + k) with
        | .error _ => (.error .dockerError,
            packRuns b intoDirDockerStyle useBuildCache io languageArgs i (builders.take k) ++
              [.loginWithoutConfigFile])
        | .ok () => (.ok (io.pack (i + k)),
            packRuns b intoDirDockerStyle useBuildCache io languageArgs i (builders.take (k + 1)))
  | [], _, _, h => absurd rfl h
  | builderName :: rest, i, _, _ => by
    cases hlogin : io.login i with
    | error e =>
      exact ⟨0, by simp, nofun, .inr (.inl (by simp [hlogin])),
        by simp [buildpacksLoop, hlang, hlogin, packRuns]⟩
    | ok u =>
      cases hpack : io.pack i with
      | ok u' =>
        exact ⟨0, by simp, nofun, .inr (.inr (by simp [hpack])),
          by simp [buildpacksLoop, hlang, hlogin, hpack, packRuns]⟩
      | error err =>
        rcases rest with _ | ⟨next, rest⟩
        · exact ⟨0, by simp, nofun, .inl rfl,
            by simp [buildpacksLoop, hlang, hlogin, hpack, packRuns]⟩
        · obtain ⟨k, hk, hbefore, hstop, heq⟩ :=
            buildpacksLoop_run hlang (next :: rest) (i + 1) (.error err) (List.cons_ne_nil _ _)
          refine ⟨k + 1, by simpa using hk, fun j hj => ?_, ?_, ?_⟩
          · rcases j with _ | j
            · simp [hlogin, hpack]
            · simpa [Nat.add_right_comm, Nat.add_assoc] using hbefore j (by omega)
          · simpa [Nat.add_right_comm, Nat.add_assoc] using hstop
          · rw [buildpacksLoop]
            simp only [hlang, hlogin, hpack]
            rw [heq, show i + (k + 1) = i + 1 + k by omega]
            cases io.login (i + 1 + k) <;> simp [packRuns]

end Buildpacks

/-- **The Buildpacks build, for every sequence of results.** Without builders, the build fails
with the error of its initial exit status "No builder names". With builders and a language with
more than one `@`, it fails with that language's error before any call. Otherwise it tries the
builders in order, each logged in before its `pack` runs: builders `0` to `k - 1` logged in and
failed, and the `k`-th is the last, fails to log in, or succeeds. The build succeeds exactly when
that `pack` succeeded; a failed login gives `DockerError`, a `pack` killed by the abort `Aborted`,
and any other failure of the last `pack` `BuildpackError`. -/
theorem build_image_with_buildpacks_outcome (buildpacksBuilders : List String) (b : BuildpacksBuild)
    (intoDirDockerStyle : String) (useBuildCache : Bool) (io : BuildpacksIo) :
    let run := buildImageWithBuildpacks buildpacksBuilders b intoDirDockerStyle useBuildCache io
    (buildpacksBuilders = [] ∧ run = (.error .buildpackError, [])) ∨
    (buildpacksBuilders ≠ [] ∧ ∃ e, buildpackLanguageArgs b.buildpackLanguage = .error e ∧
      run = (.error e, [])) ∨
    ∃ languageArgs, buildpackLanguageArgs b.buildpackLanguage = .ok languageArgs ∧
      ∃ k < buildpacksBuilders.length, (∀ j < k, io.login j = .ok () ∧ io.pack j ≠ .ok ()) ∧
        (k + 1 = buildpacksBuilders.length ∨ io.login k ≠ .ok () ∨ io.pack k = .ok ()) ∧
        let tried := packRuns b intoDirDockerStyle useBuildCache io languageArgs 0
          (buildpacksBuilders.take (k + 1))
        run = match io.login k, io.pack k with
          | .error _, _ => (.error .dockerError, packRuns b intoDirDockerStyle useBuildCache io
              languageArgs 0 (buildpacksBuilders.take k) ++ [.loginWithoutConfigFile])
          | .ok (), .ok () => (.ok (), tried)
          | .ok (), .error (.killed _) => (.error .aborted, tried)
          | .ok (), .error _ => (.error .buildpackError, tried) := by
  dsimp only
  rcases buildpacksBuilders with _ | ⟨builderName, rest⟩
  · exact .inl ⟨rfl, rfl⟩
  cases hlang : buildpackLanguageArgs b.buildpackLanguage with
  | error e =>
    exact .inr (.inl ⟨List.cons_ne_nil _ _, e, rfl,
      by simp [buildImageWithBuildpacks, buildpacksLoop, hlang]⟩)
  | ok languageArgs =>
    obtain ⟨k, hk, hbefore, hstop, heq⟩ := @buildpacksLoop_run b intoDirDockerStyle useBuildCache io
      languageArgs hlang (builderName :: rest) 0 (.error (.executionError "No builder names"))
      (List.cons_ne_nil _ _)
    simp only [Nat.zero_add] at hbefore hstop heq
    refine .inr (.inr ⟨languageArgs, rfl, k, hk, hbefore, hstop, ?_⟩)
    rw [buildImageWithBuildpacks, heq]
    rcases io.login k with _ | ⟨⟩ <;> rcases io.pack k with (_ | _ | _ | _) | ⟨⟩ <;> rfl

/-! ## `provision_builder` -/

section Provision

variable (io : ProvisionIo)

/-- The time of the attempt `k + j`, since the deadline was set, when the attempt `k` started
`elapsed` milliseconds after it and each failed attempt was followed by a second of sleep. -/
def spawnClock : Nat → Nat → Nat → Nat
  | k, elapsed, 0 => elapsed + io.attemptTime k
  | k, elapsed, j + 1 => spawnClock (k + 1) (elapsed + io.attemptTime k + 1000) j

/-- The attempt `k`, read at the time `now`, failed, and the loop goes on: the task is not
aborted, the error is not an abort, and the deadline has not passed. -/
def SpawnGoesOn (k now : Nat) : Prop :=
  ∃ err, io.spawnBuilder k = .error err ∧ io.shouldAbort k = false ∧ err.isAborted = false ∧
    now < provisionBuilderDeadline

/-- The calls of `n + 1` spawn attempts from the counter value `counter`, a second apart. -/
def builderSpawns (execId : String) : Nat → Nat → List BuildCall
  | counter, 0 => [.spawnBuilder (execId ++ "-" ++ toString counter)]
  | counter, n + 1 => .spawnBuilder (execId ++ "-" ++ toString counter) :: .sleep 1000 ::
      builderSpawns execId (counter + 1) n

/-- Each attempt after the first comes at least a second after the previous one. -/
theorem elapsed_le_spawnClock :
    ∀ (j k elapsed : Nat), elapsed + 1000 * j ≤ spawnClock io k elapsed j
  | 0, k, elapsed => by simp [spawnClock]
  | j + 1, k, elapsed => by
    have := elapsed_le_spawnClock j (k + 1) (elapsed + io.attemptTime k + 1000)
    simp only [spawnClock]
    omega

/-- The loop from the attempt `k`: the attempts `k` to `k + n - 1` failed and went on, and the
attempt `k + n` ends it. -/
theorem provisionBuilderLoop_run (execId : String) (k counter elapsed : Nat) :
    ∃ n, (∀ j < n, SpawnGoesOn io (k + j) (spawnClock io k elapsed j)) ∧
      ¬ SpawnGoesOn io (k + n) (spawnClock io k elapsed n) ∧
      provisionBuilderLoop execId io k counter elapsed =
        (match io.spawnBuilder (k + n) with
          | .ok () => .ok ()
          | .error _ => if io.shouldAbort (k + n) then .error .aborted else .error .dockerError,
         builderSpawns execId counter n) := by
  obtain ⟨m, hm⟩ : ∃ m, provisionBuilderDeadline - elapsed = m := ⟨_, rfl⟩
  induction m using Nat.strong_induction_on generalizing k counter elapsed with
  | _ m ih =>
    rw [provisionBuilderLoop]
    cases hspawn : io.spawnBuilder k with
    | ok u =>
      exact ⟨0, nofun, fun ⟨_, h, _⟩ => by simp [hspawn] at h, by simp [hspawn, builderSpawns]⟩
    | error err =>
      cases habort : io.shouldAbort k
      case true =>
        exact ⟨0, nofun, fun ⟨_, _, h, _⟩ => by simp [habort] at h,
          by simp [hspawn, habort, builderSpawns]⟩
      case false =>
        by_cases hstop :
            err.isAborted || decide (provisionBuilderDeadline ≤ elapsed + io.attemptTime k)
        · refine ⟨0, nofun, fun ⟨err', h, _, haborted, hnow⟩ => ?_, ?_⟩
          · simp only [Nat.add_zero, hspawn, Except.error.injEq] at h
            subst h
            simp only [haborted, Bool.false_or, decide_eq_true_eq] at hstop
            exact absurd hnow (not_lt.mpr hstop)
          · simp [hspawn, habort, hstop, builderSpawns]
        · have hgo : err.isAborted = false ∧
              elapsed + io.attemptTime k < provisionBuilderDeadline := by
            simpa using hstop
          obtain ⟨n, hbefore, hlast, heq⟩ := ih _ (by omega) (k + 1) (counter + 1)
            (elapsed + io.attemptTime k + 1000) rfl
          refine ⟨n + 1, fun j hj => ?_, ?_, ?_⟩
          · rcases j with _ | j
            · exact ⟨err, hspawn, habort, hgo⟩
            · simpa [spawnClock, Nat.add_right_comm, Nat.add_assoc] using hbefore j (by omega)
          · simpa [spawnClock, Nat.add_right_comm, Nat.add_assoc] using hlast
          · simp only [hspawn, habort, hstop, dite_false, heq, builderSpawns,
              Nat.add_right_comm k 1 n, Nat.add_assoc k n 1]
            rfl

end Provision

/-- **`provision_builder` ends after at most 601 attempts.** Whatever `spawn_builder` returns and
however long each attempt takes, the loop makes `n + 1` attempts for some `n ≤ 600`, the builders
named `exec_id-counter`, `exec_id-(counter + 1)`, and so on, a second apart. The first `n`
attempts failed before the deadline, with neither the task nor their error aborted. The last one
ends the loop: it started a builder, or the task was aborted (`Aborted`), or its error was an
abort or the deadline had passed (`DockerError`). -/
theorem provision_builder_outcome (executionId : String) (counter : Nat) (io : ProvisionIo) :
    ∃ n ≤ 600, (∀ j < n, SpawnGoesOn io j (spawnClock io 0 0 j)) ∧
      ¬ SpawnGoesOn io n (spawnClock io 0 0 n) ∧
      provisionBuilder executionId counter io =
        (match io.spawnBuilder n with
          | .ok () => .ok ()
          | .error _ => if io.shouldAbort n then .error .aborted else .error .dockerError,
         builderSpawns (builderExecId executionId) counter n) := by
  obtain ⟨n, hbefore, hlast, heq⟩ :=
    provisionBuilderLoop_run io (builderExecId executionId) 0 counter 0
  simp only [Nat.zero_add] at hbefore hlast heq
  refine ⟨n, ?_, hbefore, hlast, heq⟩
  -- the attempt before the last went on, so it came before the deadline, a second after the others
  rcases n with _ | n
  · exact Nat.zero_le _
  obtain ⟨_, _, _, _, hnow⟩ := hbefore n (Nat.lt_succ_self n)
  have := elapsed_le_spawnClock io n 0 0
  simp only [provisionBuilderDeadline] at hnow
  omega

/-! ## `build_image_with_docker` -/

/-- A retry loop whose attempts never stop it with `Err` succeeds exactly when one of its attempts
succeeds, among the first `delays.length + 1`. -/
theorem retryWithIndex_ok_iff_of_no_err {ε : Type} {operation : Nat → OperationResult Unit ε}
    (hno : ∀ n e, operation n ≠ .err e) :
    ∀ (delays : List Nat) (c t : Nat),
      (retryWithIndex operation delays c t).1 = .ok () ↔
        ∃ n ≤ delays.length, operation (c + n) = .ok ()
  | [], c, t => by
    rw [retryWithIndex]
    cases h : operation c with
    | ok u => simp [h]
    | err e => exact absurd h (hno c e)
    | retry e => simp [h]
  | d :: ds, c, t => by
    rw [retryWithIndex]
    cases h : operation c with
    | ok u => exact iff_of_true rfl ⟨0, Nat.zero_le _, h⟩
    | err e => exact absurd h (hno c e)
    | retry e =>
      simp only [retryWithIndex_ok_iff_of_no_err hno ds (c + 1) (t + d), List.length_cons]
      constructor
      · rintro ⟨n, hn, hok⟩
        exact ⟨n + 1, by omega, by rwa [Nat.add_right_comm, Nat.add_assoc] at hok⟩
      · rintro ⟨_ | n, hn, hok⟩
        · simp [h] at hok
        · exact ⟨n, by omega, by rw [Nat.add_right_comm]; exact hok⟩

/-- A statement about each element of `a :: l` and its index is one about `a` and one about each
element of `l`. -/
theorem forall_getElem?_cons {α : Type} {P : Nat → α → Prop} {a : α} {l : List α} :
    (∀ j x, (a :: l)[j]? = some x → P j x) ↔ P 0 a ∧ ∀ j x, l[j]? = some x → P (j + 1) x :=
  ⟨fun h => ⟨h 0 a List.getElem?_cons_zero,
      fun j x hx => h (j + 1) x (by rwa [List.getElem?_cons_succ])⟩,
    fun ⟨h0, h⟩ j x hx => by
      rcases j with _ | j
      · rw [List.getElem?_cons_zero, Option.some.injEq] at hx
        exact hx ▸ h0
      · exact h j x (by rwa [List.getElem?_cons_succ] at hx)⟩

theorem dockerLoginDelays_eq : dockerLoginDelays = [1000, 1000, 2000, 3000] := by decide

/-- A login attempt is never a hard error: every failure is retried. -/
theorem dockerLoginAttempt_ne_err (io : DockerIo) (i n : Nat) (e : String) :
    dockerLoginAttempt io i n ≠ .err e := by
  unfold dockerLoginAttempt; split <;> simp

@[simp]
theorem dockerLoginAttempt_eq_ok_iff (io : DockerIo) (i n : Nat) :
    dockerLoginAttempt io i n = .ok () ↔ io.login i n = .ok () := by
  unfold dockerLoginAttempt; cases io.login i n <;> simp

/-- The login to one registry succeeds exactly when one of its five attempts does. -/
theorem retry_dockerLoginAttempt_ok_iff (io : DockerIo) (i : Nat) :
    (retry dockerLoginDelays (dockerLoginAttempt io i)).1 = .ok () ↔
      ∃ n ≤ 4, io.login i (n + 1) = .ok () := by
  rw [retry, retryWithIndex_ok_iff_of_no_err (dockerLoginAttempt_ne_err io i), dockerLoginDelays_eq]
  simp only [dockerLoginAttempt_eq_ok_iff, Nat.add_comm 1, List.length_cons, List.length_nil]

/-- The registries' logins succeed exactly when each registry other than a GCP Artifact Registry
has its URL with credentials, and each such URL with a password logs in at one of its five
attempts. -/
theorem dockerLogins_ok_iff (io : DockerIo) :
    ∀ (registries : List Registry) (i : Nat), (dockerLogins io i registries).1 = .ok () ↔
      ∀ j registry, registries[j]? = some registry → registry.isGcpArtifactRegistry = false →
        ∃ url, registry.urlWithCredentials = .ok url ∧
          (url.password.isSome → ∃ n ≤ 4, io.login (i + j) (n + 1) = .ok ())
  | [], _ => by simp [dockerLogins]
  | registry :: rest, i => by
    rw [forall_getElem?_cons]
    simp only [Nat.add_zero, ← Nat.add_assoc, ← Nat.add_right_comm i 1]
    rw [← dockerLogins_ok_iff io rest (i + 1), ← retry_dockerLoginAttempt_ok_iff]
    by_cases hgcp : registry.isGcpArtifactRegistry
    · simp [dockerLogins, hgcp]
    cases hurl : registry.urlWithCredentials with
    | error e => simp [dockerLogins, hgcp, hurl]
    | ok url =>
      cases hpw : url.password with
      | none => simp [dockerLogins, hgcp, hurl, hpw]
      | some password =>
        simp only [dockerLogins, hgcp, hurl, hpw, Option.isNone_some, Option.isSome_some,
          Bool.false_eq_true, if_false, true_implies]
        cases (retry dockerLoginDelays (dockerLoginAttempt io i)).1 <;> simp [hpw]

/-- The stage after the registry check succeeds exactly when the logins, the provisioning and
`docker build` do. -/
theorem loginsAndBuild_ok_iff (registries : List Registry) (dockerfile buildContext tag : String)
    (envVars : List (String × String)) (io : DockerIo)
    (provision : Except BuildError Unit × List BuildCall) :
    (loginsAndBuild registries dockerfile buildContext tag envVars io provision).1 = .ok () ↔
      (dockerLogins io 0 registries).1 = .ok () ∧ provision.1 = .ok () ∧
        io.dockerBuild = .ok () := by
  unfold loginsAndBuild
  cases dockerLogins io 0 registries with
  | mk login calls =>
    rcases login with _ | ⟨⟩ <;> rcases provision with ⟨_ | ⟨⟩, provisionCalls⟩ <;> simp

/-- **When `build_image_with_docker` succeeds.** It reads the Dockerfile and its `ARG`s, and then
either finds the image already in the registry, or logs in to every registry that needs it (each
registry other than a GCP Artifact Registry has its URL with credentials, and each such URL with a
password logs in at one of its five attempts), provisions a builder and builds the image. -/
theorem build_image_with_docker_ok_iff (environmentVariables : List (String × String))
    (registries : List Registry) (dockerfile buildContext : String) (io : DockerIo)
    (provision : Except BuildError Unit × List BuildCall) :
    (buildImageWithDocker environmentVariables registries dockerfile buildContext io provision).1 =
        .ok () ↔
      ∃ content, io.dockerfileContent = .ok content ∧
        ∃ args, io.extractDockerfileArgs content = .ok args ∧
          (io.imageExistsRemotely = .ok true ∨
            (∀ j registry, registries[j]? = some registry → registry.isGcpArtifactRegistry = false →
              ∃ url, registry.urlWithCredentials = .ok url ∧
                (url.password.isSome → ∃ n ≤ 4, io.login j (n + 1) = .ok ())) ∧
            provision.1 = .ok () ∧ io.dockerBuild = .ok ()) := by
  have hlogins := dockerLogins_ok_iff io registries 0
  simp only [Nat.zero_add] at hlogins
  unfold buildImageWithDocker
  cases io.dockerfileContent with
  | error => simp
  | ok content =>
    simp only [Except.ok.injEq, exists_eq_left']
    cases io.extractDockerfileArgs content with
    | error => simp
    | ok args =>
      simp only [Except.ok.injEq, exists_eq_left']
      -- the registry check, then the logins, the provisioning and the build
      cases io.imageExistsRemotely with
      | error => simp [loginsAndBuild_ok_iff, hlogins]
      | ok found => cases found <;> simp [loginsAndBuild_ok_iff, hlogins]

/-! ## `LocalDocker::build` -/

section Calls

/-- None of the calls removes a directory. -/
def RemovesNoDir (calls : List BuildCall) : Prop := ∀ path, BuildCall.removeDirAll path ∉ calls

@[simp]
theorem removesNoDir_cons {c : BuildCall} {calls : List BuildCall} :
    RemovesNoDir (c :: calls) ↔ (∀ path, BuildCall.removeDirAll path ≠ c) ∧ RemovesNoDir calls := by
  simp only [RemovesNoDir, List.mem_cons, not_or, forall_and, ne_eq]

@[simp]
theorem removesNoDir_append {calls calls' : List BuildCall} :
    RemovesNoDir (calls ++ calls') ↔ RemovesNoDir calls ∧ RemovesNoDir calls' := by
  simp only [RemovesNoDir, List.mem_append, not_or, forall_and]

@[simp]
theorem removesNoDir_map {α : Type} {f : α → BuildCall} {l : List α} :
    RemovesNoDir (l.map f) ↔ ∀ a ∈ l, ∀ path, BuildCall.removeDirAll path ≠ f a := by
  simp only [RemovesNoDir, List.mem_map, not_exists, not_and, ne_eq]
  exact ⟨fun h a ha path hf => h path a ha hf.symm, fun h path a ha hf => h a ha path hf.symm⟩

/-- The Buildpacks build makes the calls of its loop over the builders. -/
theorem buildImageWithBuildpacks_calls (buildpacksBuilders : List String) (b : BuildpacksBuild)
    (intoDirDockerStyle : String) (useBuildCache : Bool) (io : BuildpacksIo) :
    (buildImageWithBuildpacks buildpacksBuilders b intoDirDockerStyle useBuildCache io).2 =
      (buildpacksLoop b intoDirDockerStyle useBuildCache io 0 buildpacksBuilders
        (.error (.executionError "No builder names"))).2 := by
  unfold buildImageWithBuildpacks
  split <;> simp_all

end Calls

/-! ## A sample build -/

/-- An execution with two Buildpacks builders. -/
def sampleLocalDockerConfig : LocalDockerConfig :=
  ⟨"b1a2c3-d4e5", 0, ["heroku/builder:22", "heroku/buildpacks:20"]⟩

/-- A service built with Buildpacks from the root of its repository, pushed to one registry with a
password. -/
def sampleLocalDockerBuild : LocalDockerBuild where
  serviceId := "app-z1"
  gitRepository := ⟨".", none, none⟩
  image := ⟨"registry/app", "registry/app:v1", [], [], none⟩
  registries := [⟨false, .ok ⟨"registry", some "secret"⟩⟩]
  disableCache := false

/-- The workspace holds the repository of an earlier build, the clone succeeds at once, and the
first builder's `pack` fails before the second one's succeeds. -/
def sampleLocalDockerIo : LocalDockerIo where
  abortAtStart := false
  repositoryRootPath := .ok "/workspace/app-z1"
  repositoryExists := true
  removeOldRepository := .ok ()
  cloneAtCommit := fun _ => .ok ()
  abortAfterClone := false
  lfsSizeEstimateKb := .ok 0
  lfsCheckout := .ok ()
  fs := ⟨fun _ => true, fun _ => true, fun _ => true⟩
  docker :=
    ⟨.ok "FROM alpine", fun _ => .ok [], fun _ => "v1", .ok false, fun _ _ => .ok (), .ok ()⟩
  provision := ⟨fun _ => .ok (), fun _ => 0, fun _ => false⟩
  buildpacks := ⟨fun _ => .error "no Procfile", fun _ => .ok (),
    fun k => if k = 0 then .error (.exitStatusError (some 1)) else .ok ()⟩

/-! ## What a successful build did -/

/-- The stage after the registry check succeeds only after a `docker build` call that
succeeded. -/
theorem loginsAndBuild_ok {registries : List Registry} {dockerfile buildContext tag : String}
    {envVars : List (String × String)} {io : DockerIo}
    {provision : Except BuildError Unit × List BuildCall}
    (hok : (loginsAndBuild registries dockerfile buildContext tag envVars io provision).1 = .ok ()) :
    io.dockerBuild = .ok () ∧ BuildCall.dockerBuild dockerfile buildContext [tag, "latest"] envVars ∈
      (loginsAndBuild registries dockerfile buildContext tag envVars io provision).2 := by
  obtain ⟨hlogins, hprovision, hbuild⟩ := (loginsAndBuild_ok_iff _ _ _ _ _ _ _).mp hok
  refine ⟨hbuild, ?_⟩
  unfold loginsAndBuild
  cases hl : dockerLogins io 0 registries with
  | mk login calls =>
    rw [hl] at hlogins
    cases hlogins
    rcases provision with ⟨_ | ⟨⟩, provisionCalls⟩
    · cases hprovision
    · simp

/-- A Docker build that succeeds found the image in the registry, or called `docker build` of its
Dockerfile, which succeeded. -/
theorem buildImageWithDocker_ok {environmentVariables : List (String × String)}
    {registries : List Registry} {dockerfile buildContext : String} {io : DockerIo}
    {provision : Except BuildError Unit × List BuildCall}
    (hok : (buildImageWithDocker environmentVariables registries dockerfile buildContext io
      provision).1 = .ok ()) :
    io.imageExistsRemotely = .ok true ∨ io.dockerBuild = .ok () ∧ ∃ tags envVars,
      BuildCall.dockerBuild dockerfile buildContext tags envVars ∈
        (buildImageWithDocker environmentVariables registries dockerfile buildContext io
          provision).2 := by
  revert hok
  unfold buildImageWithDocker
  cases io.dockerfileContent with
  | error => simp
  | ok content =>
    dsimp only
    cases io.extractDockerfileArgs content with
    | error => simp
    | ok args =>
      dsimp only
      split
      · -- the image is in the registry
        next hfound => exact fun _ => .inl hfound
      · intro hok
        obtain ⟨hbuild, hmem⟩ := loginsAndBuild_ok hok
        exact .inr ⟨hbuild, _, _, hmem⟩

/-- The loop over the builders succeeds only with no builder left and a successful exit status,
or after a `pack` run that succeeded. -/
theorem buildpacksLoop_ok {b : BuildpacksBuild} {intoDirDockerStyle : String} {useBuildCache : Bool}
    {io : BuildpacksIo} :
    ∀ {builders : List String} {i : Nat} {exitStatus : Except CommandError Unit},
      (buildpacksLoop b intoDirDockerStyle useBuildCache io i builders exitStatus).1 =
        .ok (.ok ()) →
      builders = [] ∧ exitStatus = .ok () ∨ ∃ k languageArgs builderName, io.pack k = .ok () ∧
        BuildCall.pack
            (packBuilderArgs b intoDirDockerStyle useBuildCache io languageArgs k builderName) ∈
          (buildpacksLoop b intoDirDockerStyle useBuildCache io i builders exitStatus).2
  | [], _, _, hok => .inl ⟨rfl, by simpa [buildpacksLoop] using hok⟩
  | builderName :: rest, i, _, hok => by
    rw [buildpacksLoop] at hok ⊢
    cases hlang : buildpackLanguageArgs b.buildpackLanguage with
    | error => simp [hlang] at hok
    | ok languageArgs =>
      cases hlogin : io.login i with
      | error => simp [hlang, hlogin] at hok
      | ok =>
        cases hpack : io.pack i with
        | ok => exact .inr ⟨i, languageArgs, builderName, hpack, by simp [hlang, hlogin, hpack]⟩
        | error err =>
          simp only [hlang, hlogin, hpack] at hok ⊢
          rcases buildpacksLoop_ok hok with ⟨-, h⟩ | ⟨k, languageArgs', builderName', hk, hmem⟩
          · cases h
          · exact .inr ⟨k, languageArgs', builderName', hk, by simp [hmem]⟩

/-- A Buildpacks build that succeeds called a `pack` run that succeeded. -/
theorem buildImageWithBuildpacks_ok {buildpacksBuilders : List String} {b : BuildpacksBuild}
    {intoDirDockerStyle : String} {useBuildCache : Bool} {io : BuildpacksIo}
    (hok : (buildImageWithBuildpacks buildpacksBuilders b intoDirDockerStyle useBuildCache
      io).1 = .ok ()) :
    ∃ k languageArgs builderName, io.pack k = .ok () ∧
      BuildCall.pack
          (packBuilderArgs b intoDirDockerStyle useBuildCache io languageArgs k builderName) ∈
        (buildImageWithBuildpacks buildpacksBuilders b intoDirDockerStyle useBuildCache io).2 := by
  rw [buildImageWithBuildpacks_calls]
  have hloop : (buildpacksLoop b intoDirDockerStyle useBuildCache io 0 buildpacksBuilders
      (.error (.executionError "No builder names"))).1 = .ok (.ok ()) := by
    revert hok
    unfold buildImageWithBuildpacks
    split <;> simp_all
  rcases buildpacksLoop_ok hloop with ⟨-, h⟩ | h
  · cases h
  · exact h

/-- The stages after the clone succeed only once the image is built as the repository's files
select: with a Dockerfile, it was in the registry or `docker build` of it succeeded; without one, a
`pack` run of the build context succeeded. -/
theorem afterClone_ok {cfg : LocalDockerConfig} {b : LocalDockerBuild} {io : LocalDockerIo}
    {root : String} (hok : (afterClone cfg b io root).1 = .ok ()) :
    match (localDockerBuildFiles io.fs root b.gitRepository).2 with
    | .ok (.docker dockerfile buildContext) => io.docker.imageExistsRemotely = .ok true ∨
        io.docker.dockerBuild = .ok () ∧ ∃ tags envVars,
          BuildCall.dockerBuild dockerfile buildContext tags envVars ∈ (afterClone cfg b io root).2
    | .ok .buildpacks => ∃ k languageArgs builderName, io.buildpacks.pack k = .ok () ∧
        BuildCall.pack (packBuilderArgs b.image (pathJoin root b.gitRepository.rootPath)
          (!b.disableCache) io.buildpacks languageArgs k builderName) ∈ (afterClone cfg b io root).2
    | .error _ => False := by
  revert hok
  unfold afterClone
  split
  · simp
  split
  · simp
  cases localDockerBuildFiles io.fs root b.gitRepository with
  | mk written files =>
    rcases files with e | (⟨dockerfile, buildContext⟩ | _)
    · simp
    · intro hok
      rcases buildImageWithDocker_ok hok with h | ⟨h, tags, envVars, hmem⟩
      · exact .inl h
      · exact .inr ⟨h, tags, envVars, by simp [hmem]⟩
    · intro hok
      obtain ⟨k, languageArgs, builderName, h, hmem⟩ := buildImageWithBuildpacks_ok hok
      exact ⟨k, languageArgs, builderName, h, by simp [hmem]⟩

/-- A build that succeeds cloned the repository, and the stages after the clone succeeded, their
calls being the build's. -/
theorem localDockerBuild_ok {cfg : LocalDockerConfig} {b : LocalDockerBuild} {io : LocalDockerIo}
    (hok : (localDockerBuild cfg b io).1 = .ok ()) :
    ∃ root, io.repositoryRootPath = .ok root ∧ (gitCloneStage b.serviceId io.cloneAtCommit).1 = .ok () ∧
      (afterClone cfg b io root).1 = .ok () ∧
      ∀ call ∈ (afterClone cfg b io root).2, call ∈ (localDockerBuild cfg b io).2 := by
  revert hok
  unfold localDockerBuild
  split
  · simp
  split
  · simp
  rename_i root hroot
  cases cleanupOldRepository io root with
  | mk cleanup cleanupCalls =>
    rcases cleanup with _ | ⟨⟩
    · simp
    cases hclone : gitCloneStage b.serviceId io.cloneAtCommit with
    | mk clone events =>
      rcases clone with _ | ⟨⟩
      · simp
      exact fun hok => ⟨root, hroot, rfl, hok, fun call hcall => by simp [hcall]⟩

/-- **A successful build produced its image.** When the build succeeds, it found its workspace,
and the image was built as the repository's files select: with a Dockerfile, the image was
already in the registry, or `docker build` of that Dockerfile was called and succeeded; without
one, a `pack` run of the build context was called and succeeded. -/
theorem local_docker_build_ok_only_with_image (cfg : LocalDockerConfig) (b : LocalDockerBuild)
    (io : LocalDockerIo) (hok : (localDockerBuild cfg b io).1 = .ok ()) :
    ∃ root, io.repositoryRootPath = .ok root ∧
      match (localDockerBuildFiles io.fs root b.gitRepository).2 with
      | .ok (.docker dockerfile buildContext) => io.docker.imageExistsRemotely = .ok true ∨
          io.docker.dockerBuild = .ok () ∧ ∃ tags envVars,
            BuildCall.dockerBuild dockerfile buildContext tags envVars ∈ (localDockerBuild cfg b io).2
      | .ok .buildpacks => ∃ k languageArgs builderName, io.buildpacks.pack k = .ok () ∧
          BuildCall.pack (packBuilderArgs b.image (pathJoin root b.gitRepository.rootPath)
            (!b.disableCache) io.buildpacks languageArgs k builderName) ∈ (localDockerBuild cfg b io).2
      | .error _ => False := by
  obtain ⟨root, hroot, -, hafter, hcalls⟩ := localDockerBuild_ok hok
  refine ⟨root, hroot, ?_⟩
  have himage := afterClone_ok hafter
  revert himage
  cases (localDockerBuildFiles io.fs root b.gitRepository).2 with
  | error => exact id
  | ok kind =>
    cases kind with
    | docker dockerfile buildContext =>
      rintro (h | ⟨h, tags, envVars, hmem⟩)
      · exact .inl h
      · exact .inr ⟨h, tags, envVars, hcalls _ hmem⟩
    | buildpacks =>
      rintro ⟨k, languageArgs, builderName, h, hmem⟩
      exact ⟨k, languageArgs, builderName, h, hcalls _ hmem⟩

theorem local_docker_build_ok_only_with_image_sample :
    (localDockerBuild sampleLocalDockerConfig sampleLocalDockerBuild sampleLocalDockerIo).1 =
      .ok () ∧
    ∃ root, sampleLocalDockerIo.repositoryRootPath = .ok root ∧
      match (localDockerBuildFiles sampleLocalDockerIo.fs root
          sampleLocalDockerBuild.gitRepository).2 with
      | .ok (.docker dockerfile buildContext) =>
          sampleLocalDockerIo.docker.imageExistsRemotely = .ok true ∨
          sampleLocalDockerIo.docker.dockerBuild = .ok () ∧ ∃ tags envVars,
            BuildCall.dockerBuild dockerfile buildContext tags envVars ∈
              (localDockerBuild sampleLocalDockerConfig sampleLocalDockerBuild sampleLocalDockerIo).2
      | .ok .buildpacks => ∃ k languageArgs builderName,
          sampleLocalDockerIo.buildpacks.pack k = .ok () ∧
          BuildCall.pack (packBuilderArgs sampleLocalDockerBuild.image
            (pathJoin root sampleLocalDockerBuild.gitRepository.rootPath)
            (!sampleLocalDockerBuild.disableCache) sampleLocalDockerIo.buildpacks languageArgs k
              builderName) ∈
              (localDockerBuild sampleLocalDockerConfig sampleLocalDockerBuild sampleLocalDockerIo).2
      | .error _ => False :=
  have hok : (localDockerBuild sampleLocalDockerConfig sampleLocalDockerBuild sampleLocalDockerIo).1 =
      .ok () := rfl
  ⟨hok, local_docker_build_ok_only_with_image _ _ _ hok⟩

section SanitizedGitUrl

/-- A character `sanitized_git_url` can put: an ASCII lower-case letter, a digit, or `-`. -/
def isSanitizedChar (c : Char) : Bool := c.isLower || c.isDigit || c == '-'

/-- No `-` follows a `-`. -/
def NoDoubleDash (cs : List Char) : Prop := cs.Chain' fun a b => ¬ (a = '-' ∧ b = '-')

/-! The ASCII classes of a character, by its code. -/

theorem Char.isUpper_iff_toNat (c : Char) : c.isUpper ↔ 65 ≤ c.toNat ∧ c.toNat ≤ 90 := by
  simp [Char.isUpper, UInt32.le_def, BitVec.le_def, Char.toNat, UInt32.toNat]

theorem Char.isLower_iff_toNat (c : Char) : c.isLower ↔ 97 ≤ c.toNat ∧ c.toNat ≤ 122 := by
  simp [Char.isLower, UInt32.le_def, BitVec.le_def, Char.toNat, UInt32.toNat]

theorem Char.isDigit_iff_toNat (c : Char) : c.isDigit ↔ 48 ≤ c.toNat ∧ c.toNat ≤ 57 := by
  simp [Char.isDigit, UInt32.le_def, BitVec.le_def, Char.toNat, UInt32.toNat]

theorem Char.toLower_of_not_isUpper {c : Char} (h : c.isUpper = false) : c.toLower = c := by
  have hn : ¬ (65 ≤ c.toNat ∧ c.toNat ≤ 90) := fun hn => by
    simp [(Char.isUpper_iff_toNat c).mpr hn] at h
  unfold Char.toLower
  simp only [ge_iff_le]
  rw [if_neg hn]

/-- An upper-case letter is lowered to a lower-case one, and any other character kept or replaced by
`-`. -/
theorem isSanitizedChar_sanitizedChar (c : Char) : isSanitizedChar (sanitizedChar c) := by
  cases hup : c.isUpper
  · unfold sanitizedChar isSanitizedChar
    rw [Char.toLower_of_not_isUpper hup]
    split
    · rename_i h
      simp only [Char.isAlphanum, Char.isAlpha, hup, Bool.false_or] at h
      simp [h]
    · simp
  · rw [← Char.ofNat_toNat c]
    obtain ⟨h1, h2⟩ := (Char.isUpper_iff_toNat c).mp hup
    generalize c.toNat = n at *
    interval_cases n <;> decide

/-- A character `sanitized_git_url` can put is left as it is. -/
theorem sanitizedChar_of_isSanitizedChar {c : Char} (h : isSanitizedChar c) :
    sanitizedChar c = c := by
  unfold isSanitizedChar at h
  rcases Bool.or_eq_true _ _ ▸ h with h | h
  · have hup : c.isUpper = false := Bool.eq_false_iff.mpr fun hu => by
      have := (Char.isUpper_iff_toNat c).mp hu
      rcases Bool.or_eq_true _ _ ▸ h with h | h
      · have := (Char.isLower_iff_toNat c).mp h
        omega
      · have := (Char.isDigit_iff_toNat c).mp h
        omega
    unfold sanitizedChar
    rw [Char.toLower_of_not_isUpper hup, if_pos]
    simp only [Char.isAlphanum, Char.isAlpha, hup, Bool.false_or]
    simpa using h
  · rw [beq_iff_eq.mp h]
    decide

/-- `collapseDashes` keeps the first character: a run of `-` is replaced by its last `-`. -/
theorem head?_collapseDashes : ∀ cs : List Char, (collapseDashes cs).head? = cs.head?
  | [] => rfl
  | c :: cs => by
    unfold collapseDashes
    split
    · rename_i h
      rw [head?_collapseDashes cs, h.2, h.1]
      rfl
    · rfl

theorem mem_of_mem_collapseDashes {c : Char} : ∀ {cs : List Char}, c ∈ collapseDashes cs → c ∈ cs
  | [], h => h
  | d :: cs, h => by
    unfold collapseDashes at h
    split at h
    · exact List.mem_cons_of_mem _ (mem_of_mem_collapseDashes h)
    · rcases List.mem_cons.mp h with h | h
      · exact h ▸ List.mem_cons_self _ _
      · exact List.mem_cons_of_mem _ (mem_of_mem_collapseDashes h)

theorem noDoubleDash_collapseDashes : ∀ cs : List Char, NoDoubleDash (collapseDashes cs)
  | [] => List.chain'_nil
  | c :: cs => by
    have ih := noDoubleDash_collapseDashes cs
    unfold collapseDashes
    split
    · exact ih
    · rename_i h
      refine List.Chain'.cons' ih fun d hd hdash => h ⟨hdash.1, ?_⟩
      rw [← head?_collapseDashes, hd, hdash.2]

theorem collapseDashes_of_noDoubleDash :
    ∀ {cs : List Char}, NoDoubleDash cs → collapseDashes cs = cs
  | [], _ => rfl
  | c :: cs, h => by
    have htail : collapseDashes cs = cs := collapseDashes_of_noDoubleDash h.tail
    unfold collapseDashes
    rw [if_neg, htail]
    rintro ⟨hc, hd⟩
    cases cs with
    | nil => cases hd
    | cons d cs =>
      cases Option.some.inj hd
      exact (List.chain'_cons.mp h).1 ⟨hc, rfl⟩

/-- Collapsing the runs of `-` keeps every other character. -/
theorem filter_collapseDashes {p : Char → Bool} (hp : p '-' = false) :
    ∀ cs : List Char, (collapseDashes cs).filter p = cs.filter p
  | [] => rfl
  | c :: cs => by
    unfold collapseDashes
    split
    · rename_i h
      rw [filter_collapseDashes hp cs, List.filter_cons_of_neg (by simp [h.1, hp])]
    · rw [List.filter_cons, List.filter_cons, filter_collapseDashes hp cs]

/-- **`sanitized_git_url` gives a normal form.** Every character it returns is an ASCII lower-case
letter, a digit or `-`, and no `-` follows another; its letters and digits are those of the URL in
lower case, in order; and sanitizing its result again changes nothing. -/
theorem sanitized_git_url_normal_form (gitUrl : String) :
    (∀ c ∈ (sanitizedGitUrl gitUrl).data, isSanitizedChar c) ∧
    NoDoubleDash (sanitizedGitUrl gitUrl).data ∧
    (sanitizedGitUrl gitUrl).data.filter Char.isAlphanum =
      (gitUrl.data.map Char.toLower).filter Char.isAlphanum ∧
    sanitizedGitUrl (sanitizedGitUrl gitUrl) = sanitizedGitUrl gitUrl := by
  have hchars : ∀ c ∈ (sanitizedGitUrl gitUrl).data, isSanitizedChar c := fun c hc => by
    obtain ⟨d, -, rfl⟩ := List.mem_map.mp (mem_of_mem_collapseDashes hc)
    exact isSanitizedChar_sanitizedChar d
  have hdash := noDoubleDash_collapseDashes (gitUrl.data.map sanitizedChar)
  refine ⟨hchars, hdash, ?_, ?_⟩
  · have hpred : Char.isAlphanum ∘ sanitizedChar = Char.isAlphanum ∘ Char.toLower :=
      funext fun c => by
        simp only [Function.comp, sanitizedChar]
        split <;> simp_all
    rw [sanitizedGitUrl, filter_collapseDashes (by decide), List.filter_map, List.filter_map, hpred]
    refine List.map_congr_left fun c hc => ?_
    rw [sanitizedChar, if_pos (by simpa using (List.mem_filter.mp hc).2)]
  · conv_lhs => rw [sanitizedGitUrl]
    rw [List.map_congr_left fun c hc => sanitizedChar_of_isSanitizedChar (hchars c hc), List.map_id',
      sanitizedGitUrl, collapseDashes_of_noDoubleDash hdash]

end SanitizedGitUrl

end QoveryEngine
