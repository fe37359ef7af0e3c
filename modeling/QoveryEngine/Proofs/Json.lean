import QoveryEngine.Json

/-!
# Proofs: serde_json

Two facts about the parser that `serialize_job_output` relies on. A map read with `&str` keys
accepts exactly the documents a map read with `String` keys accepts, minus those where a key of
the map is spelled with an escape sequence; and `from_str` into a map with `String` keys accepts
exactly the documents `from_str::<Value>` reads as an object. Then the map lemmas: what `get`
returns after `HashMap::insert`, and that insertion keeps the keys distinct.
-/

namespace QoveryEngine.Json

/-! ## Borrowed and owned keys -/

variable {value : List Char → Except ErrorCode (Value × List Char)}

/-- A `&str` key refuses a key spelled with an escape before anything else is read; any other
entry is read as with a `String` key. -/
theorem parseMapEntry_true (input : List Char) :
    parseMapEntry true value input =
      match parseStrChars input.length input [] false with
      | .ok (_, true, _) => .error .invalidType
      | _ => parseMapEntry false value input := by
  unfold parseMapEntry
  rcases parseStrChars input.length input [] false with _ | ⟨_, _ | _, _⟩ <;> rfl

/-- An entry read records whether its key's spelling used an escape. -/
theorem parseMapEntry_escaped {b : Bool} {input rest : List Char} {e : String × Bool × Value}
    (h : parseMapEntry b value input = .ok (e, rest)) :
    ∃ rest₁, parseStrChars input.length input [] false = .ok (e.1, e.2.1, rest₁) := by
  obtain ⟨⟨key, escaped, rest₁⟩, h₁, h⟩ := bind_eq_ok.mp h
  refine ⟨rest₁, h₁.trans ?_⟩
  dsimp only at h
  split_ifs at h
  split at h
  · obtain ⟨⟨v, r⟩, -, h⟩ := map_eq_ok.mp h
    simp only [Prod.mk.injEq] at h
    obtain ⟨rfl, -⟩ := h
    rfl
  all_goals cases h

theorem parseMapEntry_true_eq_ok {input rest : List Char} {e : String × Bool × Value} :
    parseMapEntry true value input = .ok (e, rest) ↔
      parseMapEntry false value input = .ok (e, rest) ∧ e.2.1 = false := by
  rw [parseMapEntry_true]
  constructor
  · intro h
    split at h
    · cases h
    · obtain ⟨r₁, h₁⟩ := parseMapEntry_escaped h
      refine ⟨h, ?_⟩
      cases he : e.2.1
      · rfl
      · rename_i hne; exact (hne _ _ (he ▸ h₁)).elim
  · rintro ⟨h, he⟩
    obtain ⟨r₁, h₁⟩ := parseMapEntry_escaped h
    rw [h₁, he]
    exact h

/-- The entry loop with `&str` keys reads exactly what the loop with `String` keys reads when no key
it reads is spelled with an escape. -/
theorem parseMapEntries_true_eq_ok :
    ∀ (fuel : Nat) (first : Bool) (cs : List Char) (es : List (String × Bool × Value))
      (rest : List Char),
      parseMapEntries true value fuel first cs = .ok (es, rest) ↔
        parseMapEntries false value fuel first cs = .ok (es, rest) ∧ ∀ e ∈ es, e.2.1 = false
  | 0, _, _, _, _ => by simp [parseMapEntries]
  | fuel + 1, first, cs, es, rest => by
    simp only [parseMapEntries]
    rcases hasNextKey first cs with _ | ⟨_ | _, input⟩
    · simp
    · simp only [Except.ok.injEq, Prod.mk.injEq]
      constructor
      · rintro ⟨rfl, rfl⟩; simp
      · rintro ⟨⟨rfl, rfl⟩, -⟩; simp
    · simp only [bind_eq_ok, map_eq_ok]
      constructor
      · rintro ⟨⟨e, r₁⟩, h₁, ⟨es', r⟩, h₂, he⟩
        obtain ⟨h₁', he₁⟩ := parseMapEntry_true_eq_ok.mp h₁
        obtain ⟨h₂', hes⟩ := (parseMapEntries_true_eq_ok fuel false r₁ es' r).mp h₂
        simp only [Prod.mk.injEq] at he
        obtain ⟨rfl, rfl⟩ := he
        refine ⟨⟨(e, r₁), h₁', (es', r), h₂', rfl⟩, fun x hx => ?_⟩
        rcases List.mem_cons.mp hx with rfl | hx
        exacts [he₁, hes x hx]
      · rintro ⟨⟨⟨e, r₁⟩, h₁, ⟨es', r⟩, h₂, he⟩, hall⟩
        simp only [Prod.mk.injEq] at he
        obtain ⟨rfl, rfl⟩ := he
        refine ⟨(e, r₁), parseMapEntry_true_eq_ok.mpr ⟨h₁, hall e (by simp)⟩, (es', r),
          (parseMapEntries_true_eq_ok fuel false r₁ es' r).mpr ⟨h₂, fun x hx => hall x (by simp [hx])⟩, rfl⟩

/-! ## Maps and values -/

@[simp] theorem parseEnd_eq_ok {α : Type} {v w : α} {rest : List Char} :
    parseEnd v rest = .ok w ↔ parseWhitespace rest = [] ∧ v = w := by
  unfold parseEnd; split_ifs <;> simp_all

/-- `from_str` into a map with `&str` keys succeeds exactly when it does with `String` keys and no
key of the object is spelled with an escape. -/
theorem fromStrMapEntries_true_eq_ok {s : String} {es : List (String × Bool × Value)} :
    fromStrMapEntries true s = .ok es ↔
      fromStrMapEntries false s = .ok es ∧ ∀ e ∈ es, e.2.1 = false := by
  unfold fromStrMapEntries
  split
  · simp
  · split_ifs
    · simp only [bind_eq_ok, parseEnd_eq_ok, Prod.exists]
      constructor
      · rintro ⟨es', r, h, hws, rfl⟩
        obtain ⟨h', hu⟩ := (parseMapEntries_true_eq_ok _ _ _ _ _).mp h
        exact ⟨⟨es', r, h', hws, rfl⟩, hu⟩
      · rintro ⟨⟨es', r, h, hws, rfl⟩, hu⟩
        exact ⟨es', r, (parseMapEntries_true_eq_ok _ _ _ _ _).mpr ⟨h, hu⟩, hws, rfl⟩
    · simp

/-- A number is never read as an object. -/
theorem ParserNumber.visit_ne_object (n : ParserNumber) (m : List (String × Value)) :
    n.visit ≠ .object m := by
  rcases n with ⟨_, _ | _⟩ | _ | _ <;> nofun

/-- Only an input whose first character after the whitespace is `{` is read as an object. -/
theorem parseValue_eq_object {d : Nat} {cs rest : List Char} {m : List (String × Value)}
    (h : parseValue d cs = .ok (.object m, rest)) : ∃ cs', parseWhitespace cs = '{' :: cs' := by
  have not_object : ∀ {α : Type} {x : Except ErrorCode α} {f : α → Value × List Char},
      (∀ a, (f a).1 ≠ .object m) → x.map f ≠ .ok (.object m, rest) := fun hf hx => by
    obtain ⟨a, -, ha⟩ := map_eq_ok.mp hx
    exact hf a (by rw [ha])
  have skip : ∀ {p : Prop} [Decidable p] {x y : Except ErrorCode (Value × List Char)},
      (if p then x else y) = .ok (.object m, rest) → x ≠ .ok (.object m, rest) →
        y = .ok (.object m, rest) := fun h hx => by
    split at h
    exacts [absurd h hx, h]
  rw [parseValue] at h
  rcases hws : parseWhitespace cs with _ | ⟨c, cs'⟩
  · rw [hws] at h; cases h
  rw [hws] at h
  dsimp only at h
  -- `null`, `true`, `false`, the two numbers and the string are not objects
  replace h := skip h (not_object fun _ => nofun)
  replace h := skip h (not_object fun _ => nofun)
  replace h := skip h (not_object fun _ => nofun)
  replace h := skip h (not_object fun ⟨n, _⟩ => ParserNumber.visit_ne_object n m)
  replace h := skip h (not_object fun ⟨n, _⟩ => ParserNumber.visit_ne_object n m)
  replace h := skip h (not_object fun ⟨_, _, _⟩ => nofun)
  -- nor is an array, at any depth
  replace h := skip h fun h' => by
    rcases d with _ | depth
    · cases h'
    · dsimp only at h'
      split at h'
      · cases h'
      · exact not_object (fun ⟨_, _⟩ => nofun) h'
  by_cases hc : c = '{'
  · exact ⟨cs', by rw [hc]⟩
  · rw [if_neg hc] at h; cases h

theorem parseValue_of_object {d : Nat} {cs cs' : List Char} (hws : parseWhitespace cs = '{' :: cs')
    (hd : d ≠ 0) :
    parseValue (d + 1) cs =
      (parseMapEntries false (parseValue d) cs'.length true cs').map
        fun (es, r) => (.object (toMap es), r) := by
  rw [parseValue, hws]
  simp [hd]

/-- `from_str::<Value>` reads an object exactly when `from_str` into a map with `String` keys
succeeds. -/
theorem fromStrValue_object_iff (s : String) :
    (∃ m, fromStrValue s = .ok (.object m)) ↔ ∃ es, fromStrMapEntries false s = .ok es := by
  unfold fromStrValue fromStrMapEntries
  constructor
  · rintro ⟨m, h⟩
    obtain ⟨⟨v, r⟩, hv, hend⟩ := bind_eq_ok.mp h
    obtain ⟨hr, rfl⟩ := parseEnd_eq_ok.mp hend
    obtain ⟨cs', hcs⟩ := parseValue_eq_object hv
    rw [recursionLimit, parseValue_of_object hcs (by decide)] at hv
    obtain ⟨⟨es, r'⟩, hes, he⟩ := map_eq_ok.mp hv
    simp only [Prod.mk.injEq] at he
    obtain ⟨-, rfl⟩ := he
    refine ⟨es, ?_⟩
    simp [hcs, recursionLimit, bind_eq_ok, hes, hr]
  · rintro ⟨es, h⟩
    split at h
    · cases h
    · rename_i c cs' hcs
      split_ifs at h with hc
      subst hc
      obtain ⟨⟨es', r⟩, hes, hend⟩ := bind_eq_ok.mp h
      obtain ⟨hr, rfl⟩ := parseEnd_eq_ok.mp hend
      refine ⟨toMap es', ?_⟩
      rw [recursionLimit, parseValue_of_object hcs (by decide)]
      exact bind_eq_ok.mpr ⟨(.object (toMap es'), r), map_eq_ok.mpr ⟨(es', r), hes, rfl⟩,
        parseEnd_eq_ok.mpr ⟨hr, rfl⟩⟩

/-! ## `HashMap` -/

section

variable {α : Type}

theorem lookup_cons (k : String) (v : α) (m : List (String × α)) (key : String) :
    lookup ((k, v) :: m) key = if k = key then some v else lookup m key := by
  by_cases h : k = key <;> simp [lookup, h]

/-- `get` after `HashMap::insert`. -/
theorem lookup_hashInsert (m : List (String × α)) (k : String) (v : α) (key : String) :
    lookup (hashInsert m (k, v)) key = if k = key then some v else lookup m key := by
  induction m with
  | nil => simp [hashInsert, lookup_cons, lookup]
  | cons kv m ih =>
    obtain ⟨k₀, v₀⟩ := kv
    unfold hashInsert
    by_cases h : k = k₀
    · subst h; by_cases h' : k = key <;> simp [lookup_cons, h']
    · simp only [h, if_false, lookup_cons, ih]
      by_cases h₀ : k₀ = key <;> by_cases h₁ : k = key <;> simp_all

theorem keys_hashInsert (m : List (String × α)) (k : String) (v : α) :
    (hashInsert m (k, v)).map Prod.fst =
      if k ∈ m.map Prod.fst then m.map Prod.fst else m.map Prod.fst ++ [k] := by
  induction m with
  | nil => rfl
  | cons kv m ih =>
    obtain ⟨k₀, v₀⟩ := kv
    by_cases h : k = k₀
    · subst h; simp only [hashInsert, if_true, List.map_cons, List.mem_cons, true_or]
    · simp only [hashInsert, h, if_false, List.map_cons, ih, List.mem_cons, false_or]
      split_ifs <;> rfl

/-- `HashMap::insert` keeps the keys distinct. -/
theorem nodup_keys_hashInsert {m : List (String × α)} (h : (m.map Prod.fst).Nodup) (k : String)
    (v : α) : ((hashInsert m (k, v)).map Prod.fst).Nodup := by
  rw [keys_hashInsert]
  split_ifs with hk
  · exact h
  · exact List.nodup_append.mpr ⟨h, List.nodup_singleton k, List.disjoint_singleton.mpr hk⟩

@[simp] theorem lookup_nil (key : String) : lookup ([] : List (String × α)) key = none := rfl

theorem lookup_append (m₁ m₂ : List (String × α)) (key : String) :
    lookup (m₁ ++ m₂) key = (lookup m₁ key).or (lookup m₂ key) := by
  simp only [lookup, List.find?_append]
  cases m₁.find? _ <;> rfl

theorem lookup_eq_none {m : List (String × α)} {key : String} :
    lookup m key = none ↔ key ∉ m.map Prod.fst := by
  simp only [lookup, Option.map_eq_none', List.find?_eq_none, decide_eq_true_eq, List.mem_map,
    not_exists, not_and]

/-- Entries inserted one after another with `HashMap::insert`: a key takes the value of its last
entry, and keeps the value it had before when there is none. -/
theorem lookup_foldl_hashInsert (l acc : List (String × α)) (key : String) :
    lookup (l.foldl hashInsert acc) key = (lookup l.reverse key).or (lookup acc key) := by
  induction l generalizing acc with
  | nil => rfl
  | cons kv l ih =>
    obtain ⟨k, v⟩ := kv
    rw [List.foldl_cons, ih, List.reverse_cons, lookup_append, lookup_hashInsert, Option.or_assoc,
      lookup_cons]
    by_cases h : k = key <;> simp [h, lookup]

/-- A loop over a map with distinct keys whose step `f` sets the key of its entry to what `g`
reads from the entry's value, when `g` reads something, and leaves every other key as it was:
after the loop a key holds what `g` reads from its value in the map, or else what it held before. -/
theorem lookup_foldl_of_step {β : Type} {f : List (String × β) → String × α → List (String × β)}
    (g : α → Option β) (hf : ∀ acc kv key, lookup (f acc kv) key =
      if kv.1 = key then (g kv.2).or (lookup acc key) else lookup acc key)
    {l : List (String × α)} (hl : (l.map Prod.fst).Nodup) (acc : List (String × β)) (key : String) :
    lookup (l.foldl f acc) key = ((lookup l key).bind g).or (lookup acc key) := by
  induction l generalizing acc with
  | nil => rfl
  | cons kv l ih =>
    obtain ⟨k, v⟩ := kv
    rw [List.map_cons, List.nodup_cons] at hl
    rw [List.foldl_cons, ih hl.2, hf, lookup_cons]
    by_cases h : k = key
    · subst h
      rw [lookup_eq_none.mpr hl.1]
      simp
    · simp [h]

theorem nodup_keys_foldl_hashInsert (l : List (String × α)) {acc : List (String × α)}
    (h : (acc.map Prod.fst).Nodup) : ((l.foldl hashInsert acc).map Prod.fst).Nodup := by
  induction l generalizing acc with
  | nil => exact h
  | cons kv l ih => exact ih (nodup_keys_hashInsert h kv.1 kv.2)

/-- An entry that `get` returns is in the map. -/
theorem mem_of_lookup_eq_some {m : List (String × α)} {k : String} {v : α}
    (h : lookup m k = some v) : (k, v) ∈ m := by
  obtain ⟨e, he, rfl⟩ := Option.map_eq_some'.mp h
  have hk := List.find?_some he
  simp only [decide_eq_true_eq] at hk
  rw [← hk]
  exact List.mem_of_find?_eq_some he

end

end QoveryEngine.Json
