import QoveryEngine.SshKeys

/-!
# Proofs: the SSH keys of the environment

Read as "one key per variable `GIT_SSH_KEY` followed by a suffix `x`, with the passphrase
`GIT_SSH_PASSPHRASE` followed by `x` and the public key `GIT_SSH_PUBLIC_KEY` followed by `x`",
`ssh_keys_from_env_vars` is right exactly as long as no suffix itself contains `GIT_SSH_KEY`:
`str::replace` rewrites every occurrence of the pattern, not only the prefix. With a suffix such
as `_GIT_SSH_KEY`, the passphrase and the public key are looked up under names where the suffix
is rewritten too.
-/

namespace QoveryEngine

open Json

/-! ## `str::replace` -/

section Replace

variable {pat rep : List Char}

theorem replaceFrom_skip (l s : List Char) :
    replaceFrom pat rep l.length (l ++ s) = replaceFrom pat rep 0 s := by
  induction l with
  | nil => rfl
  | cons c l ih => exact ih

/-- A match at the start is replaced, and the search goes on after it. -/
theorem replaceFrom_match_start (hpat : pat ≠ []) (s : List Char) :
    replaceFrom pat rep 0 (pat ++ s) = rep ++ replaceFrom pat rep 0 s := by
  obtain ⟨p, ps, rfl⟩ := List.exists_cons_of_ne_nil hpat
  have hmatch : (p :: ps).isPrefixOf (p :: (ps ++ s)) = true :=
    Iff.mpr List.isPrefixOf_iff_prefix (List.prefix_append (p :: ps) s)
  rw [List.cons_append, replaceFrom, if_neg (by simp), if_pos hmatch, List.length_cons,
    Nat.add_sub_cancel, replaceFrom_skip]

/-- Without a match, nothing is replaced. -/
theorem replaceFrom_of_no_match (hpat : pat ≠ []) :
    ∀ {s : List Char}, ¬ pat <:+: s → replaceFrom pat rep 0 s = s
  | [], _ => by cases pat <;> simp_all [replaceFrom]
  | c :: cs, h => by
    have hnotPre : pat.isPrefixOf (c :: cs) = false :=
      Bool.eq_false_iff.mpr fun hp => h (List.IsPrefix.isInfix (Iff.mp List.isPrefixOf_iff_prefix hp))
    rw [replaceFrom, if_neg (by cases pat <;> simp_all), if_neg (by simp [hnotPre]),
      replaceFrom_of_no_match hpat fun hi => h (List.infix_cons hi)]

end Replace

/-- The name of a key's passphrase or public key: the prefix rewritten, and the suffix kept when
it does not contain the prefix. -/
theorem strReplace_envGitPrefix {x : String} (hx : ¬ envGitPrefix.data <:+: x.data)
    (replacement : String) :
    strReplace (envGitPrefix ++ x) envGitPrefix replacement = replacement ++ x := by
  simp only [strReplace, String.data_append, replaceFrom_match_start (by decide : envGitPrefix.data ≠ []),
    replaceFrom_of_no_match (by decide : envGitPrefix.data ≠ []) hx]
  rfl

/-! ## The keys -/

/-- A loop whose body pushes onto a vector what `g` reads from each element, if anything, pushes
the elements read, in order. -/
theorem foldl_push_eq_filterMap {α β : Type} (f : List β → α → List β) (g : α → Option β)
    (hf : ∀ acc a, f acc a = acc ++ (g a).toList) (l : List α) (acc : List β) :
    l.foldl f acc = acc ++ l.filterMap g := by
  induction l generalizing acc with
  | nil => simp
  | cons a l ih =>
    rw [List.foldl_cons, ih, hf, List.filterMap_cons]
    cases g a <;> simp

/-- The SSH keys as the names of the variables pair them: for each variable, in key order, named
`GIT_SSH_KEY` followed by a suffix `x`, whose value is base64 of UTF-8, the decoded key, with the
decoded values of `GIT_SSH_PASSPHRASE` followed by `x` and of `GIT_SSH_PUBLIC_KEY` followed by
`x`, each `none` when absent or not base64 of UTF-8. -/
def sshKeysBySuffix (environmentVars : BTreeMap VariableInfo) : List SshKey :=
  environmentVars.entries.filterMap fun (name, variableInfos) =>
    if startsWith name envGitPrefix then
      let x : String := ⟨name.data.drop envGitPrefix.length⟩
      (decodeBase64Text variableInfos.value).map fun privateKey =>
        ⟨privateKey,
          (environmentVars.get ("GIT_SSH_PASSPHRASE" ++ x)).bind fun v => decodeBase64Text v.value,
          (environmentVars.get ("GIT_SSH_PUBLIC_KEY" ++ x)).bind fun v => decodeBase64Text v.value⟩
    else none

/-- **The keys when no suffix repeats the prefix.** When no variable named `GIT_SSH_KEY` followed
by a suffix has `GIT_SSH_KEY` again in its suffix, `ssh_keys_from_env_vars` returns the keys the
variables' names pair, in key order. -/
theorem ssh_keys_from_env_vars_by_suffix (environmentVars : BTreeMap VariableInfo)
    (h : ∀ name ∈ environmentVars.entries.map Prod.fst, startsWith name envGitPrefix = true →
      ¬ envGitPrefix.data <:+: name.data.drop envGitPrefix.length) :
    sshKeysFromEnvVars environmentVars = sshKeysBySuffix environmentVars := by
  rw [sshKeysFromEnvVars, foldl_push_eq_filterMap _
      (fun p => (decodeBase64Text p.2).map fun privateKey =>
        ⟨privateKey, companionVariable environmentVars p.1 "GIT_SSH_PASSPHRASE",
          companionVariable environmentVars p.1 "GIT_SSH_PUBLIC_KEY"⟩)
      (fun acc ⟨name, value⟩ => by dsimp only; cases decodeBase64Text value <;> simp),
    List.nil_append, List.filterMap_filterMap, sshKeysBySuffix]
  refine List.filterMap_congr fun ⟨name, variableInfos⟩ hmem => ?_
  by_cases hs : startsWith name envGitPrefix = true
  · -- the name is the prefix followed by its suffix
    have hname : name = envGitPrefix ++ ⟨name.data.drop envGitPrefix.length⟩ :=
      congrArg String.mk (List.prefix_iff_eq_append.mp (Iff.mp List.isPrefixOf_iff_prefix hs)).symm
    have hx := h name (List.mem_map_of_mem _ hmem) hs
    simp only [hs, if_true, Option.some_bind, companionVariable]
    rw [hname, strReplace_envGitPrefix hx, strReplace_envGitPrefix hx, ← hname]
  · simp [hs]

/-- An environment where every key has a suffix without the prefix, and a public key but no
passphrase for the second one. -/
def twoKeysEnv : BTreeMap VariableInfo where
  entries := [("GIT_SSH_KEY", ⟨"aw=="⟩), ("GIT_SSH_KEY_2", ⟨"bQ=="⟩),
    ("GIT_SSH_PASSPHRASE", ⟨"cA=="⟩), ("GIT_SSH_PUBLIC_KEY_2", ⟨"cQ=="⟩)]
  sorted := by decide

theorem ssh_keys_from_env_vars_by_suffix_two_keys :
    (∀ name ∈ twoKeysEnv.entries.map Prod.fst, startsWith name envGitPrefix = true →
      ¬ envGitPrefix.data <:+: name.data.drop envGitPrefix.length) ∧
    sshKeysFromEnvVars twoKeysEnv = [⟨"k", some "p", none⟩, ⟨"m", none, some "q"⟩] :=
  have h : ∀ name ∈ twoKeysEnv.entries.map Prod.fst, startsWith name envGitPrefix = true →
      ¬ envGitPrefix.data <:+: name.data.drop envGitPrefix.length := by decide
  ⟨h, (ssh_keys_from_env_vars_by_suffix twoKeysEnv h).trans (by decide)⟩

/-- A key whose suffix `_GIT_SSH_KEY` repeats the prefix, and the passphrase named after that
suffix. -/
def repeatedPrefixEnv : BTreeMap VariableInfo where
  entries := [("GIT_SSH_KEY_GIT_SSH_KEY", ⟨"aw=="⟩), ("GIT_SSH_PASSPHRASE_GIT_SSH_KEY", ⟨"cA=="⟩)]
  sorted := by decide

/-- The key named `GIT_SSH_KEY_GIT_SSH_KEY` gets no passphrase: the passphrase is looked up as
`GIT_SSH_PASSPHRASE_GIT_SSH_PASSPHRASE`, and `GIT_SSH_PASSPHRASE_GIT_SSH_KEY` is ignored. -/
theorem ssh_key_suffix_loses_passphrase :
    strReplace "GIT_SSH_KEY_GIT_SSH_KEY" envGitPrefix "GIT_SSH_PASSPHRASE" =
      "GIT_SSH_PASSPHRASE_GIT_SSH_PASSPHRASE" ∧
    sshKeysBySuffix repeatedPrefixEnv = [⟨"k", some "p", none⟩] ∧
    sshKeysFromEnvVars repeatedPrefixEnv = [⟨"k", none, none⟩] := by
  decide

end QoveryEngine
