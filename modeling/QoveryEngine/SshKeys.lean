import QoveryEngine.Json

/-!
# `ssh_keys_from_env_vars`

The SSH keys of a build come from its environment variables: every variable whose name starts
with `GIT_SSH_KEY` holds a private key in base64. The passphrase and the public key of the key
named `n` are looked up under the names `n.replace("GIT_SSH_KEY", "GIT_SSH_PASSPHRASE")` and
`n.replace("GIT_SSH_KEY", "GIT_SSH_PUBLIC_KEY")`. Every value is decoded with the `base64`
crate's standard engine, then read as UTF-8 by `String::from_utf8`; a private key that fails
either step is skipped, a passphrase or public key that fails is `None`.

The environment is a `BTreeMap`, whose entries are iterated in the order of their keys: the model
carries that order as a field. Strings are compared, replaced and decoded on their characters,
which is what the byte-level code computes on valid UTF-8.
-/

namespace QoveryEngine

open Json

/-! ## Strings -/

/-- `str::replace`, from a point of the input where `skip` characters of the last match are still
to be passed over: matches are taken from left to right, without overlapping; the empty pattern
matches before every character and at the end. -/
def replaceFrom (pat rep : List Char) : Nat → List Char → List Char
  | _, [] => if pat.isEmpty then rep else []
  | skip + 1, _ :: cs => replaceFrom pat rep skip cs
  | 0, c :: cs =>
    if pat.isEmpty then rep ++ c :: replaceFrom pat rep 0 cs
    else if pat.isPrefixOf (c :: cs) then rep ++ replaceFrom pat rep (pat.length - 1) cs
    else c :: replaceFrom pat rep 0 cs

/-- `str::replace(from, to)`. -/
def strReplace (s pattern replacement : String) : String :=
  ⟨replaceFrom pattern.data replacement.data 0 s.data⟩

/-- `str::starts_with`. -/
def startsWith (s pre : String) : Bool := pre.data.isPrefixOf s.data

/-! ## `base64` and UTF-8 -/

/-- The value of a character of the standard alphabet: `A`-`Z`, `a`-`z`, `0`-`9`, `+`, `/`. -/
def base64Value (c : Char) : Option Nat :=
  if 'A' ≤ c ∧ c ≤ 'Z' then some (c.toNat - 'A'.toNat)
  else if 'a' ≤ c ∧ c ≤ 'z' then some (c.toNat - 'a'.toNat + 26)
  else if '0' ≤ c ∧ c ≤ '9' then some (c.toNat - '0'.toNat + 52)
  else if c = '+' then some 62
  else if c = '/' then some 63
  else none

/-- `general_purpose::STANDARD.decode`: each group of four characters gives three bytes. Padding
is required and must be canonical: the last group may end in `==` (one byte) or `=` (two bytes),
nothing may follow it, and the bits it leaves over must be zero. -/
def decodeBase64 : List Char → Option (List UInt8)
  | [] => some []
  | a :: b :: c :: d :: rest => do
    let va ← base64Value a
    let vb ← base64Value b
    if c = '=' then
      if d = '=' ∧ rest = [] ∧ vb % 16 = 0 then some [UInt8.ofNat (va * 4 + vb / 16)] else none
    else
      let vc ← base64Value c
      if d = '=' then
        if rest = [] ∧ vc % 4 = 0 then
          some [UInt8.ofNat (va * 4 + vb / 16), UInt8.ofNat (vb % 16 * 16 + vc / 4)]
        else none
      else
        let vd ← base64Value d
        let bytes ← decodeBase64 rest
        some (UInt8.ofNat (va * 4 + vb / 16) :: UInt8.ofNat (vb % 16 * 16 + vc / 4) ::
          UInt8.ofNat (vc % 4 * 64 + vd) :: bytes)
  | _ => none

/-- The octets a UTF-8 sequence may continue with after the leading octet `a` (RFC 3629 §4):
the range of the second octet and the length of the sequence, or none when `a` cannot lead a
sequence of two octets or more. -/
def utf8Lead (a : Nat) : Option (Nat × Nat × Nat) :=
  if 0xC2 ≤ a ∧ a ≤ 0xDF then some (0x80, 0xBF, 2)
  else if a = 0xE0 then some (0xA0, 0xBF, 3)
  else if 0xE1 ≤ a ∧ a ≤ 0xEC then some (0x80, 0xBF, 3)
  else if a = 0xED then some (0x80, 0x9F, 3)
  else if 0xEE ≤ a ∧ a ≤ 0xEF then some (0x80, 0xBF, 3)
  else if a = 0xF0 then some (0x90, 0xBF, 4)
  else if 0xF1 ≤ a ∧ a ≤ 0xF3 then some (0x80, 0xBF, 4)
  else if a = 0xF4 then some (0x80, 0x8F, 4)
  else none

/-- `UTF8-tail = %x80-BF`. -/
def isUtf8Tail (b : UInt8) : Bool := 0x80 ≤ b.toNat ∧ b.toNat ≤ 0xBF

/-- `String::from_utf8`: the characters of well-formed UTF-8 (RFC 3629 §4), or none. -/
def decodeUtf8 : List UInt8 → Option (List Char)
  | [] => some []
  | a :: rest =>
    if a.toNat < 0x80 then (Char.ofNat a.toNat :: ·) <$> decodeUtf8 rest
    else
      match utf8Lead a.toNat, rest with
      | some (lo, hi, 2), b :: rest =>
        if lo ≤ b.toNat ∧ b.toNat ≤ hi then
          (Char.ofNat (a.toNat % 0x20 * 0x40 + b.toNat % 0x40) :: ·) <$> decodeUtf8 rest
        else none
      | some (lo, hi, 3), b :: c :: rest =>
        if lo ≤ b.toNat ∧ b.toNat ≤ hi ∧ isUtf8Tail c then
          (Char.ofNat (a.toNat % 0x10 * 0x1000 + b.toNat % 0x40 * 0x40 + c.toNat % 0x40) :: ·) <$>
            decodeUtf8 rest
        else none
      | some (lo, hi, 4), b :: c :: d :: rest =>
        if lo ≤ b.toNat ∧ b.toNat ≤ hi ∧ isUtf8Tail c ∧ isUtf8Tail d then
          (Char.ofNat (a.toNat % 0x08 * 0x40000 + b.toNat % 0x40 * 0x1000 + c.toNat % 0x40 * 0x40 +
            d.toNat % 0x40) :: ·) <$> decodeUtf8 rest
        else none
      | _, _ => none

/-- `general_purpose::STANDARD.decode(v)` followed by `String::from_utf8`: the text `v` encodes,
when it is base64 of UTF-8. -/
def decodeBase64Text (v : String) : Option String :=
  (decodeBase64 v.data).bind fun bytes => (decodeUtf8 bytes).map String.mk

/-! ## The environment -/

/-- A `BTreeMap` with string keys: its entries in the order of their keys, which `Ord for String`
compares byte by byte (`keyLt`), and no key twice. -/
structure BTreeMap (α : Type) where
  /-- The entries, in the order the map iterates them. -/
  entries : List (String × α)
  /-- Each key is less than every key after it. -/
  sorted : entries.Pairwise fun a b => keyLt a.1.data b.1.data = true

/-- `BTreeMap::get`. -/
def BTreeMap.get {α : Type} (m : BTreeMap α) (key : String) : Option α := lookup m.entries key

/-- `VariableInfo`, with the one field `ssh_keys_from_env_vars` reads. -/
structure VariableInfo where
  /-- `value`: the variable's value, base64-encoded. -/
  value : String
  deriving DecidableEq, Repr

/-- `SshKey`. -/
structure SshKey where
  /-- `private_key`: the private key, in OpenSSH format. -/
  privateKey : String
  /-- `passphrase`: the passphrase of the private key, if it has one. -/
  passphrase : Option String
  /-- `public_key`: the public key, if one is given. -/
  publicKey : Option String
  deriving DecidableEq, Repr

/-- `ENV_GIT_PREFIX`. -/
def envGitPrefix : String := "GIT_SSH_KEY"

/-- The passphrase or public key that goes with the key named `sshKeyName`: the variable named
`sshKeyName.replace(ENV_GIT_PREFIX, replacement)`, decoded. -/
def companionVariable (environmentVars : BTreeMap VariableInfo) (sshKeyName replacement : String) :
    Option String :=
  (environmentVars.get (strReplace sshKeyName envGitPrefix replacement)).bind fun variableInfos =>
    decodeBase64Text variableInfos.value

/-- `ssh_keys_from_env_vars`: the variables whose name starts with `ENV_GIT_PREFIX`, in key order;
for each whose value decodes, an `SshKey` with its passphrase and public key. -/
def sshKeysFromEnvVars (environmentVars : BTreeMap VariableInfo) : List SshKey :=
  let envSshKeys := environmentVars.entries.filterMap fun (name, variableInfos) =>
    if startsWith name envGitPrefix then some (name, variableInfos.value) else none
  envSshKeys.foldl (fun sshKeys (sshKeyName, privateKey) =>
    match decodeBase64Text privateKey with
    | none => sshKeys
    | some privateKey =>
      sshKeys ++ [⟨privateKey, companionVariable environmentVars sshKeyName "GIT_SSH_PASSPHRASE",
        companionVariable environmentVars sshKeyName "GIT_SSH_PUBLIC_KEY"⟩]) []

end QoveryEngine
