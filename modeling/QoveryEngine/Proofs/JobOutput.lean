import QoveryEngine.Proofs.JsonText
import QoveryEngine.JobOutput

/-!
# Proofs: the job output and its upper-cased keys

`serialize_job_output` reads the document into a `HashMap<&str, Value>`. It succeeds exactly
when serde_json reads the document as an object whose keys are all spelled without escape
sequences. Every document it accepts is a JSON object text, but not every JSON object text is
accepted: a key such as `"a\nb"` makes the whole document fail, and so do documents nested
deeper than serde_json's recursion limit or holding a number beyond the range of `f64`.

`run_job` then upper-cases the keys by collecting the map's entries, in the order its iteration
visits them, into a new `HashMap`. Under each upper-case key the new map holds the value of the
last entry visited whose key has that upper-case form, so two keys that differ only in case
collapse into one, with a value that depends on the iteration order.
-/

namespace QoveryEngine

open Json

/-! ## Which documents are accepted -/

theorem serializeJobOutput_ok_iff_borrowed (json : String) :
    (∃ m, serializeJobOutput json = .ok m) ↔ ∃ entries, fromStrMapEntries true json = .ok entries := by
  simp only [serializeJobOutput, fromStrBorrowedMap, map_eq_ok]
  constructor
  · rintro ⟨_, _, ⟨entries, h, -⟩, -⟩
    exact ⟨entries, h⟩
  · rintro ⟨entries, h⟩
    exact ⟨_, _, ⟨entries, h, rfl⟩, rfl⟩

/-- **What `serialize_job_output` accepts.** It returns `Ok` exactly when `from_str::<Value>` reads
the document as an object (a JSON object text within serde_json's nesting limit and the range
of `f64`) and none of the object's own keys is spelled with an escape sequence. -/
theorem serialize_job_output_ok_iff (json : String) :
    (∃ m, serializeJobOutput json = .ok m) ↔
      (∃ m, fromStrValue json = .ok (.object m)) ∧
      ∀ entries, fromStrMapEntries false json = .ok entries → ∀ e ∈ entries, e.2.1 = false := by
  rw [serializeJobOutput_ok_iff_borrowed, fromStrValue_object_iff]
  constructor
  · rintro ⟨entries, h⟩
    obtain ⟨h', hunescaped⟩ := fromStrMapEntries_true_eq_ok.mp h
    refine ⟨⟨entries, h'⟩, fun entries' h'' => ?_⟩
    rw [h', Except.ok.injEq] at h''
    exact h'' ▸ hunescaped
  · rintro ⟨⟨entries, h⟩, hunescaped⟩
    exact ⟨entries, fromStrMapEntries_true_eq_ok.mpr ⟨h, hunescaped entries h⟩⟩

/-- **`serialize_job_output` reads only JSON object texts.** Every document it accepts is a JSON
text whose value is an object. -/
theorem serialize_job_output_reads_json_objects (json : String)
    (m : List (String × JobOutputVariable)) (h : serializeJobOutput json = .ok m) :
    JsonText.isJsonObjectText json = true := by
  obtain ⟨es, hes⟩ := (serializeJobOutput_ok_iff_borrowed json).mp ⟨m, h⟩
  obtain ⟨obj, hobj⟩ :=
    (fromStrValue_object_iff json).mpr ⟨es, (fromStrMapEntries_true_eq_ok.mp hes).1⟩
  have htext := isJsonText_of_fromStrValue hobj
  obtain ⟨⟨v, r⟩, hv, hend⟩ := bind_eq_ok.mp hobj
  obtain ⟨-, rfl⟩ := parseEnd_eq_ok.mp hend
  obtain ⟨cs, hws⟩ := parseValue_eq_object hv
  rw [JsonText.isJsonObjectText, htext, ← parseWhitespace_eq_ws, hws]
  rfl

/-- An output with the two variables `a` and `b`. -/
def twoVariablesOutput : String :=
  "\x7b\"a\":\x7b\"value\":\"1\"\x7d,\"b\":\x7b\"value\":\"2\"\x7d\x7d"

theorem serialize_job_output_reads_json_objects_two_variables :
    (∃ m, serializeJobOutput twoVariablesOutput = .ok m) ∧
      JsonText.isJsonObjectText twoVariablesOutput = true :=
  have h : serializeJobOutput twoVariablesOutput = .ok _ := rfl
  ⟨⟨_, h⟩, serialize_job_output_reads_json_objects _ _ h⟩

/-- An object whose key is spelled with an escaped line feed. -/
def escapedKeyOutput : String := "\x7b\"a\\nb\":\x7b\"value\":\"x\"\x7d\x7d"

/-- An object holding 127 nested arrays: 128 levels with the object. -/
def deeplyNestedOutput : String :=
  "\x7b\"a\":" ++ String.mk (List.replicate 127 '[' ++ List.replicate 127 ']') ++ "\x7d"

/-- An object holding a number beyond the range of `f64`. -/
def hugeNumberOutput : String := "\x7b\"a\":\x7b\"value\":1e400\x7d\x7d"

set_option maxRecDepth 20000 in
/-- Three JSON object texts that `serialize_job_output` rejects: one for a key with an escape,
one for its nesting, one for a number. -/
theorem serialize_job_output_rejects_json_objects :
    JsonText.isJsonObjectText escapedKeyOutput = true ∧
      serializeJobOutput escapedKeyOutput = .error .invalidType ∧
    JsonText.isJsonObjectText deeplyNestedOutput = true ∧
      serializeJobOutput deeplyNestedOutput = .error .recursionLimitExceeded ∧
    JsonText.isJsonObjectText hugeNumberOutput = true ∧
      serializeJobOutput hugeNumberOutput = .error .numberOutOfRange := by
  decide

/-! ## The variables read -/

/-- The keys of the map `serialize_job_output` returns are distinct. -/
theorem serializeJobOutput_nodup {json : String} {m : List (String × JobOutputVariable)}
    (h : serializeJobOutput json = .ok m) : (m.map Prod.fst).Nodup := by
  obtain ⟨serdeHashMap, -, rfl⟩ := map_eq_ok.mp h
  suffices ∀ (l : List (String × Value)) (acc : List (String × JobOutputVariable)),
      (acc.map Prod.fst).Nodup → ((l.foldl (fun acc kv =>
        match kv.2.asObject with
        | none => acc
        | some m => hashInsert acc (kv.1, jobOutputVariable m)) acc).map Prod.fst).Nodup from
    this _ [] List.nodup_nil
  intro l
  induction l with
  | nil => exact fun _ h => h
  | cons kv l ih =>
    intro acc hacc
    apply ih
    dsimp only
    split
    · exact hacc
    · exact nodup_keys_hashInsert hacc _ _

/-- **The variables of the output.** For a document that `serialize_job_output` accepts, with
top-level entries `entries` in document order, the map returned has distinct keys, and holds
under a key `k` exactly when the last entry of `k` is an object `o`: a variable whose value is
`o`'s `"value"` when that is a string and its JSON text otherwise (`null` when absent), whose
`sensitive` is `o`'s `"sensitive"` when that is a boolean and `false` otherwise, and whose
description is `o`'s `"description"` when that is a string and empty otherwise. An entry whose
value is not an object is dropped, and no other key depends on it. -/
theorem serialize_job_output_variables (json : String) (M : List (String × JobOutputVariable))
    (h : serializeJobOutput json = .ok M) :
    (M.map Prod.fst).Nodup ∧ ∃ entries, fromStrMapEntries false json = .ok entries ∧
      ∀ k, lookup M k =
        match lookup (entries.map fun e => (e.1, e.2.2)).reverse k with
        | some (.object o) => some
          { value := match lookup o "value" with
              | some (.string s) => s
              | some v => v.text
              | none => "null"
            sensitive := match lookup o "sensitive" with
              | some (.bool b) => b
              | _ => false
            description := match lookup o "description" with
              | some (.string s) => s
              | _ => "" }
        | _ => none := by
  refine ⟨serializeJobOutput_nodup h, ?_⟩
  obtain ⟨serdeHashMap, hmap, rfl⟩ := map_eq_ok.mp h
  obtain ⟨entries, hentries, rfl⟩ := map_eq_ok.mp hmap
  refine ⟨entries, (fromStrMapEntries_true_eq_ok.mp hentries).1, fun k => ?_⟩
  -- the serde map holds the last entry of each key, and its keys are distinct
  have hlast : lookup (entries.foldl (fun m e => hashInsert m (e.1, e.2.2)) []) k =
      lookup (entries.map fun e => (e.1, e.2.2)).reverse k := by
    rw [← List.foldl_map (fun e : String × Bool × Value => (e.1, e.2.2)) hashInsert,
      lookup_foldl_hashInsert, lookup_nil, Option.or_none]
  have hnodup : ((entries.foldl (fun m e => hashInsert m (e.1, e.2.2)) []).map Prod.fst).Nodup := by
    rw [← List.foldl_map (fun e : String × Bool × Value => (e.1, e.2.2)) hashInsert]
    exact nodup_keys_foldl_hashInsert _ List.nodup_nil
  rw [lookup_foldl_of_step (fun v : Value => v.asObject.map jobOutputVariable) ?step hnodup,
    hlast, lookup_nil, Option.or_none]
  case step =>
    intro acc kv key
    dsimp only
    cases kv.2.asObject with
    | none => split_ifs <;> rfl
    | some o => rw [lookup_hashInsert]; split_ifs <;> rfl
  cases lookup (entries.map fun e => (e.1, e.2.2)).reverse k with
  | none => rfl
  | some v =>
    cases v with
    | object o =>
      simp only [Option.some_bind, Value.asObject, Option.map_some', jobOutputVariable]
      congr 2
      all_goals cases lookup o _ with
        | none => rfl
        | some v => cases v <;> rfl
    | _ => rfl

/-- An output whose key `a` appears twice, with the entry `b` between, whose value is not an
object. -/
def repeatedKeyOutput : String :=
  "\x7b\"a\":\x7b\"value\":\"1\"\x7d,\"b\":2,\"a\":\x7b\"value\":3,\"sensitive\":true\x7d\x7d"

theorem serialize_job_output_variables_repeated_key :
    ∃ M, serializeJobOutput repeatedKeyOutput = .ok M ∧ (M.map Prod.fst).Nodup ∧
      M = [("a", ⟨"3", true, ""⟩)] :=
  have h : serializeJobOutput repeatedKeyOutput = .ok [("a", ⟨"3", true, ""⟩)] := by decide
  ⟨_, h, (serialize_job_output_variables _ _ h).1, rfl⟩

/-! ## Upper-cased keys -/

theorem lookup_upperCaseKeys (upper : String → String) (visit : List (String × JobOutputVariable))
    (key : String) :
    lookup (upperCaseKeys upper visit) key =
      (visit.reverse.find? fun kv => upper kv.1 = key).map Prod.snd := by
  obtain ⟨l, rfl⟩ : ∃ l, visit = l.reverse := ⟨visit.reverse, (List.reverse_reverse _).symm⟩
  rw [upperCaseKeys, List.foldl_reverse, List.reverse_reverse]
  induction l with
  | nil => rfl
  | cons kv l ih =>
    simp only [List.foldr_cons, lookup_hashInsert, ih, List.find?_cons]
    by_cases h : upper kv.1 = key <;> simp [h]

/-- When no two entries visited share an upper-case key, the new map lists the upper-case keys
in the order visited. -/
theorem keys_upperCaseKeys (upper : String → String) (visit : List (String × JobOutputVariable))
    (h : (visit.map fun kv => upper kv.1).Nodup) :
    (upperCaseKeys upper visit).map Prod.fst = visit.map fun kv => upper kv.1 := by
  obtain ⟨l, rfl⟩ : ∃ l, visit = l.reverse := ⟨visit.reverse, (List.reverse_reverse _).symm⟩
  rw [upperCaseKeys, List.foldl_reverse, List.map_reverse]
  rw [List.map_reverse, List.nodup_reverse] at h
  induction l with
  | nil => rfl
  | cons kv l ih =>
    rw [List.map_cons, List.nodup_cons] at h
    simp only [List.foldr_cons, keys_hashInsert, ih h.2, List.mem_reverse, h.1, if_false,
      List.map_cons, List.reverse_cons]

/-- **The upper-cased map** (lines 298-302). For a map `m` that `serialize_job_output` returns,
any case mapping `upper` and any order `visit` of `m`'s entries, the collected map holds under
each key the value of the last entry visited whose key maps to it. When `upper` maps no two keys
of `m` to the same key, it holds `m[k]` under `upper k` for every key `k`, and has as many entries
as `m`, whatever the order. -/
theorem upper_case_keys_keep_last_visited (json : String) (m : List (String × JobOutputVariable))
    (hm : serializeJobOutput json = .ok m) (upper : String → String)
    (visit : List (String × JobOutputVariable)) (hvisit : visit.Perm m) :
    (∀ key, lookup (upperCaseKeys upper visit) key =
      (visit.reverse.find? fun kv => upper kv.1 = key).map Prod.snd) ∧
    ((∀ k₁ ∈ m.map Prod.fst, ∀ k₂ ∈ m.map Prod.fst, upper k₁ = upper k₂ → k₁ = k₂) →
      (∀ k v, lookup m k = some v → lookup (upperCaseKeys upper visit) (upper k) = some v) ∧
      (upperCaseKeys upper visit).length = m.length) := by
  have hnodup := serializeJobOutput_nodup hm
  refine ⟨lookup_upperCaseKeys upper visit, fun hinj => ⟨fun k v hkv => ?_, ?_⟩⟩
  · have hmem := mem_of_lookup_eq_some hkv
    rw [lookup_upperCaseKeys]
    cases hf : visit.reverse.find? fun kv => upper kv.1 = upper k with
    | none =>
      exact absurd (List.find?_eq_none.mp hf _ (List.mem_reverse.mpr (hvisit.mem_iff.mpr hmem)))
        (by simp)
    | some e =>
      have he : e ∈ m := hvisit.mem_iff.mp (List.mem_reverse.mp (List.mem_of_find?_eq_some hf))
      have hup : upper e.1 = upper k := by simpa using List.find?_some hf
      have hk : e.1 = k := hinj _ (List.mem_map_of_mem _ he) _ (List.mem_map_of_mem _ hmem) hup
      simp [List.inj_on_of_nodup_map hnodup he hmem hk]
  · have hm' : (m.map fun kv => upper kv.1).Nodup := by
      rw [show (fun kv : String × JobOutputVariable => upper kv.1) = upper ∘ Prod.fst from rfl,
        ← List.map_map]
      exact hnodup.map_on fun a ha b hb => hinj a ha b hb
    rw [← List.length_map _ Prod.fst,
      keys_upperCaseKeys upper visit ((hvisit.map _).nodup_iff.mpr hm'), List.length_map,
      hvisit.length_eq]

theorem upper_case_keys_keep_last_visited_two_variables :
    ∃ m, serializeJobOutput twoVariablesOutput = .ok m ∧
      lookup (upperCaseKeys toUppercase m.reverse) "A" = some ⟨"1", false, ""⟩ ∧
      (upperCaseKeys toUppercase m.reverse).length = m.length :=
  have h : serializeJobOutput twoVariablesOutput = .ok _ := rfl
  have hkeys := (upper_case_keys_keep_last_visited _ _ h toUppercase _ (List.reverse_perm _)).2
    (by decide)
  ⟨_, h, hkeys.1 "a" _ (by decide), hkeys.2⟩

/-- An output with the variables `foo` and `FOO`. -/
def caseCollidingOutput : String :=
  "\x7b\"foo\":\x7b\"value\":\"1\"\x7d,\"FOO\":\x7b\"value\":\"2\"\x7d\x7d"

/-- The two variables of `caseCollidingOutput` collapse into one upper-cased variable, whose value
depends on the order the map is visited in. -/
theorem upper_case_keys_merge_colliding_keys :
    ∃ m, serializeJobOutput caseCollidingOutput = .ok m ∧ m.length = 2 ∧
      (upperCaseKeys toUppercase m).length = 1 ∧
      lookup (upperCaseKeys toUppercase m) "FOO" ≠
        lookup (upperCaseKeys toUppercase m.reverse) "FOO" :=
  ⟨_, rfl, by decide, by decide, by decide⟩

end QoveryEngine
